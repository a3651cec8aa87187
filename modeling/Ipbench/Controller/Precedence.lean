import Ipbench.Controller.Config

namespace Ipbench
namespace Controller

open Foundation

/-!
# More specific options override more general ones

An attribute of a client element comes before that of the `<test>` section, and
this before the command line.  `readTest` overwrites the options of the command
line even when the section does not have the attribute: with an empty text, with
zero, or with the text that Python shows for a missing value.  Below the section
nothing is lost, so the order is kept for every attribute exactly when the value
written there is the one that the command line has anyway.
-/

section Precedence

variable (tables : CharTables)

/-- The test port of a `<client>` element by the order of precedence. -/
def testPortOf (options : Options) (test : TestElement) (element : ClientElement) : Option Int :=
  match element.testPort with
  | some text => tables.int text
  | none => intOr tables test.port options.testPort

/-- The record of a `<client>` element by the order of precedence. -/
def clientOf (options : Options) (test : TestElement) (element : ClientElement) :
    Option ClientRecord := do
  let port ← intOr tables element.port options.port
  let testPort ← testPortOf tables options test element
  let hostname ← element.hostname
  some
    { hostname := hostname
      port := port
      testPort := testPort
      testArgs := element.testArgs.getD (test.args.getD options.testArgs)
      testTarget := element.testTarget.or (test.target.or options.testTarget) }

/-- The record of a client from the command line by the order of precedence. -/
def requestedOf (options : Options) (test : TestElement) (hostname : Text) :
    Option ClientRecord := do
  let testPort ← intOr tables test.port options.testPort
  some
    { hostname := hostname
      port := options.port
      testPort := testPort
      testArgs := test.args.getD options.testArgs
      testTarget := test.target.or options.testTarget }

/-- The attributes of the test and of every client follow the order of
precedence. -/
structure Precedence (options : Options) (test : TestElement) (plan : Plan) : Prop where
  testArgs : plan.options.testArgs = test.args.getD options.testArgs
  testPort : some plan.options.testPort = intOr tables test.port options.testPort
  testTarget : plan.options.testTarget = test.target.or options.testTarget
  controllerArgs : plan.options.controllerArgs = test.controllerArgs.or options.controllerArgs
  clients : plan.clients.map some =
    test.clients.map (clientOf tables options test) ++
      options.clients.map (requestedOf tables options test)

end Precedence

/-- What the `<test>` section does not say is not said on the command line
either; for a missing text this is the word for it. -/
structure Repeated (options : Options) (test : TestElement) : Prop where
  args : test.args = none → options.testArgs = []
  port : test.port = none → options.testPort = 0
  target : test.target = none → options.testTarget = some (str none)
  controllerArgs : test.controllerArgs = none → options.controllerArgs = some (str none)

section Plans

variable {tables : CharTables} {findTargets : Document → Text → Option (List TargetElement)}

/-- The target sections leave the options of the clients alone. -/
theorem readTargetTests_options {document : Document} {options final : Options}
    {targetTests : List TargetTest} {configured : List (TargetElement × TargetRecord)}
    (read : readTargetTests tables findTargets document options targetTests =
      some (final, configured)) :
    ∃ args controllerArgs, final =
      { options with targetTestArgs := args, targetControllerArgs := controllerArgs } := by
  induction targetTests generalizing options configured with
  | nil =>
      cases read
      exact ⟨_, _, rfl⟩
  | cons targetTest rest inductionHypothesis =>
      rcases Option.bind_eq_some_iff.mp read with ⟨added, _, read⟩
      rcases Option.bind_eq_some_iff.mp read with ⟨⟨last, later⟩, others, same⟩
      cases same
      rcases inductionHypothesis others with ⟨args, controllerArgs, same⟩
      exact ⟨args, controllerArgs, same⟩

/-- The options after the `<test>` section, with its port. -/
def testedOptions (options : Options) (test : TestElement) (testPort : Int) : Options :=
  { options with
    test := some (str test.name)
    testArgs := test.args.getD []
    testPort := testPort
    testTarget := some (str test.target)
    controllerArgs := some (str test.controllerArgs) }

/-- What `main` has built when there is one `<test>` section. -/
structure Built (tables : CharTables) (options : Options) (test : TestElement) (plan : Plan)
    (testPort : Int) (clients : List ClientRecord) : Prop where
  port : intOr tables test.port 0 = some testPort
  left : ∃ args controllerArgs, plan.options =
    { testedOptions options test testPort with
      targetTestArgs := args, targetControllerArgs := controllerArgs }
  read : test.clients.map (newClient tables (testedOptions options test testPort)) =
    clients.map some
  all : plan.clients = clients ++ options.clients.map (requestedClient plan.options)

theorem mainPlan_built {options : Options} {document : Document} {test : TestElement}
    {plan : Plan} (single : document.tests = [test])
    (planned : mainPlan tables findTargets options (some document) = some plan) :
    ∃ testPort clients, Built tables options test plan testPort clients := by
  rcases Option.bind_eq_some_iff.mp planned with ⟨configured, read, appended⟩
  simp only [readConfig, single] at read
  rcases Option.bind_eq_some_iff.mp read with ⟨tested, readTested, read⟩
  rcases Option.bind_eq_some_iff.mp readTested with ⟨testPort, port, same⟩
  cases same
  rcases Option.bind_eq_some_iff.mp read with ⟨clients, readClients, read⟩
  rcases Option.bind_eq_some_iff.mp read with ⟨⟨final, entries⟩, readTargets, same⟩
  cases same
  rcases readTargetTests_options readTargets with ⟨args, controllerArgs, same⟩
  rcases Option.bind_eq_some_iff.mp appended with ⟨requested, _, appended⟩
  dsimp only at appended
  split at appended
  · cases appended
  · cases appended
    subst same
    exact ⟨testPort, clients, port, ⟨args, controllerArgs, rfl⟩,
      mapM_eq_some_iff.mp readClients, rfl⟩

/-- If the command line repeats what the section does not say, the options are
those of the order of precedence. -/
theorem Repeated.tested {options : Options} {test : TestElement} {testPort : Int}
    (repeated : Repeated options test) (port : intOr tables test.port 0 = some testPort) :
    test.args.getD [] = test.args.getD options.testArgs ∧
      intOr tables test.port options.testPort = some testPort ∧
      some (str test.target) = test.target.or options.testTarget ∧
      some (str test.controllerArgs) = test.controllerArgs.or options.controllerArgs := by
  refine ⟨?_, ?_, ?_, ?_⟩
  · cases given : test.args with
    | none => exact (repeated.args given).symm
    | some args => rfl
  · cases given : test.port with
    | none =>
        rw [given] at port
        rw [repeated.port given]
        exact port
    | some text =>
        rw [given] at port
        exact port
  · cases given : test.target with
    | none => exact (repeated.target given).symm
    | some target => rfl
  · cases given : test.controllerArgs with
    | none => exact (repeated.controllerArgs given).symm
    | some args => rfl

/-- The record of a client then is that of the order of precedence too. -/
theorem newClient_tested {options : Options} {test : TestElement} {testPort : Int}
    (args : test.args.getD [] = test.args.getD options.testArgs)
    (port : intOr tables test.port options.testPort = some testPort)
    (target : some (str test.target) = test.target.or options.testTarget)
    (element : ClientElement) :
    newClient tables (testedOptions options test testPort) element =
      clientOf tables options test element := by
  have testPorts : intOr tables element.testPort testPort =
      testPortOf tables options test element := by
    unfold testPortOf
    cases element.testPort with
    | none => exact port.symm
    | some text => rfl
  have targets : some (element.testTarget.getD (str test.target)) =
      element.testTarget.or (test.target.or options.testTarget) := by
    rw [← target]
    cases element.testTarget with
    | none => rfl
    | some own => rfl
  unfold newClient clientOf testedOptions
  dsimp only
  rw [args, testPorts, ← targets]
  rfl

/-- The options and the clients follow the order of precedence exactly if the
command line repeats what the `<test>` section does not say. -/
theorem precedence_iff (options : Options) (document : Document) (test : TestElement)
    (plan : Plan) (single : document.tests = [test])
    (planned : mainPlan tables findTargets options (some document) = some plan) :
    Precedence tables options test plan ↔ Repeated options test := by
  rcases mainPlan_built single planned with ⟨testPort, clients, built⟩
  rcases built.left with ⟨targetArgs, targetControllerArgs, left⟩
  constructor
  · intro precedence
    constructor
    · intro missing
      have kept := precedence.testArgs
      rw [left, missing] at kept
      simpa [testedOptions, missing] using kept.symm
    · intro missing
      have kept := precedence.testPort
      have zero := built.port
      rw [missing] at zero
      rw [left, missing] at kept
      cases zero
      exact (Option.some.inj kept).symm
    · intro missing
      have kept := precedence.testTarget
      rw [left, missing] at kept
      simpa [testedOptions, missing] using kept.symm
    · intro missing
      have kept := precedence.controllerArgs
      rw [left, missing] at kept
      simpa [testedOptions, missing] using kept.symm
  · intro repeated
    rcases repeated.tested built.port with ⟨args, port, target, controllerArgs⟩
    constructor
    · rw [left]
      exact args
    · rw [left]
      exact port.symm
    · rw [left]
      exact target
    · rw [left]
      exact controllerArgs
    · have requested : ∀ hostname, some (requestedClient plan.options hostname) =
          requestedOf tables options test hostname := by
        intro hostname
        unfold requestedOf
        rw [port, left, ← args, ← target]
        rfl
      rw [built.all, List.map_append, ← built.read, List.map_map]
      congr 1
      · apply List.map_congr_left
        intro element _
        exact newClient_tested args port target element
      · apply List.map_congr_left
        intro hostname _
        exact requested hostname

end Plans

/-- A `<test>` section with the given target and a client on `c`. -/
def oneTest (target : Option Text) : TestElement where
  name := some ['t']
  args := some []
  port := some ['7']
  target := target
  controllerArgs := some []
  clients :=
    [{ hostname := some ['c'], port := none, testPort := none, testArgs := none
       testTarget := none }]

/-- A configuration file with that section only. -/
def oneClient (target : Option Text) : Document where
  tests := [oneTest target]
  targetTests := []
  distinct := List.nodup_nil

/-- What `main` makes of that client. -/
def oneClientPlan (target : Option Text) : Plan where
  options :=
    { Options.defaults with
      test := some ['t'], testPort := 7, testTarget := some (str target)
      controllerArgs := some [] }
  clients :=
    [{ hostname := ['c'], port := 8036, testPort := 7, testArgs := []
       testTarget := some (str target) }]
  configured := []
  requested := []

theorem precedence_iff_oneClient :
    Precedence asciiTables Options.defaults (oneTest (some ['h'])) (oneClientPlan (some ['h'])) ↔
      Repeated Options.defaults (oneTest (some ['h'])) :=
  precedence_iff Options.defaults (oneClient (some ['h'])) (oneTest (some ['h']))
    (oneClientPlan (some ['h'])) rfl
    (show mainPlan asciiTables quotedQuery Options.defaults (some (oneClient (some ['h']))) = _
      by decide)

/-- A target that is given nowhere becomes the host name `None`. -/
theorem missingTarget_named :
    mainPlan asciiTables quotedQuery Options.defaults (some (oneClient none)) =
        some (oneClientPlan none) ∧
      ¬ Precedence asciiTables Options.defaults (oneTest none) (oneClientPlan none) := by
  refine ⟨by decide, ?_⟩
  intro precedence
  have target := precedence.testTarget
  cases target

end Controller
end Ipbench
