import Ipbench.Foundation.Attempt
import Ipbench.Foundation.PyText

namespace Ipbench
namespace Controller

open Foundation

/-!
# From the command line and a configuration file to clients and targets

`main` reads the configuration file section by section and stores what it finds
in the options of the command line; the records of the clients and targets are
built from the options as they are then.  An attribute that an element does not
have is `none`.  The program ends with a message or an exception when a section
or an attribute is missing or a number cannot be read; this is `none` too.

An element of the file is an object of its own, so the target elements carry a
number that tells them apart.  The targets of a `<target_test>` section are found
by a query over the whole document, which the XML library answers.
-/

/-- The options of the command line, with the defaults where they are not given. -/
structure Options where
  clients : List Text
  port : Int
  test : Option Text
  testArgs : Text
  testTarget : Option Text
  testPort : Int
  targetTestHostname : Option Text
  targetTestPort : Int
  targetTest : Option Text
  targetTestArgs : Text
  controllerArgs : Option Text
  targetControllerArgs : Option Text
deriving DecidableEq, Repr

/-- The options of an empty command line. -/
def Options.defaults : Options where
  clients := []
  port := 8036
  test := none
  testArgs := []
  testTarget := none
  testPort := 0
  targetTestHostname := none
  targetTestPort := 8037
  targetTest := none
  targetTestArgs := []
  controllerArgs := none
  targetControllerArgs := none

/-! ## The configuration file -/

structure ClientElement where
  hostname : Option Text
  port : Option Text
  testPort : Option Text
  testArgs : Option Text
  testTarget : Option Text
deriving DecidableEq, Repr

structure TestElement where
  name : Option Text
  args : Option Text
  port : Option Text
  target : Option Text
  controllerArgs : Option Text
  clients : List ClientElement
deriving DecidableEq, Repr

/-- A `<target>` element.  `others` says whether it has attributes that are not
read. -/
structure TargetElement where
  number : Nat
  hostname : Option Text
  port : Option Text
  testArgs : Option Text
  others : Bool
deriving DecidableEq, Repr

/-- `keys()` is not empty. -/
def TargetElement.hasKeys (element : TargetElement) : Bool :=
  element.hostname.isSome || element.port.isSome || element.testArgs.isSome || element.others

structure TargetTest where
  name : Option Text
  args : Option Text
  controllerArgs : Option Text
  targets : List TargetElement
deriving DecidableEq, Repr

/-- A configuration file.  Its elements are distinct objects. -/
structure Document where
  tests : List TestElement
  targetTests : List TargetTest
  distinct : ((targetTests.flatMap TargetTest.targets).map TargetElement.number).Nodup

/-- A query that follows the documentation of the XML library for names without
an apostrophe, and fails on the others. -/
def quotedQuery (document : Document) (name : Text) : Option (List TargetElement) :=
  if '\'' ∈ name then none
  else
    some (document.targetTests.flatMap fun targetTest =>
      if targetTest.name = some name then targetTest.targets else [])

/-! ## The records -/

structure ClientRecord where
  hostname : Text
  port : Int
  testPort : Int
  testArgs : Text
  testTarget : Option Text
deriving DecidableEq, Repr

structure TargetRecord where
  hostname : Option Text
  port : Int
  testArgs : Text
  test : Text
deriving DecidableEq, Repr

/-- `str` of an attribute that may be missing. -/
def str : Option Text → Text
  | none => ['N', 'o', 'n', 'e']
  | some text => text

/-- `int` of an attribute, or a default. -/
def intOr (tables : CharTables) (value : Option Text) (default : Int) : Option Int :=
  match value with
  | none => some default
  | some text => tables.int text

section Main

variable (tables : CharTables) (findTargets : Document → Text → Option (List TargetElement))

/-- The attributes of the `<test>` section. -/
def readTest (options : Options) (test : TestElement) : Option Options := do
  let testPort ← intOr tables test.port 0
  some { options with
    test := some (str test.name)
    testArgs := test.args.getD []
    testPort := testPort
    testTarget := some (str test.target)
    controllerArgs := some (str test.controllerArgs) }

/-- The record of a `<client>` element, which needs a host name. -/
def newClient (options : Options) (element : ClientElement) : Option ClientRecord := do
  let port ← intOr tables element.port options.port
  let testPort ← intOr tables element.testPort options.testPort
  let hostname ← element.hostname
  some
    { hostname := hostname
      port := port
      testPort := testPort
      testArgs := element.testArgs.getD options.testArgs
      testTarget := some (element.testTarget.getD (str options.testTarget)) }

/-- The record of a `<target>` element.  The attributes are read in a loop over
their names, whose body is the same for each of them. -/
def newTarget (options : Options) (name : Text) (element : TargetElement) :
    Option TargetRecord :=
  if element.hasKeys then do
    let port ← intOr tables element.port options.targetTestPort
    let hostname ← element.hostname.or options.targetTestHostname
    some
      { hostname := some hostname
        port := port
        testArgs := element.testArgs.getD options.targetTestArgs
        test := name }
  else
    some
      { hostname := options.targetTestHostname
        port := options.targetTestPort
        testArgs := options.targetTestArgs
        test := name }

/-- The options as a `<target_test>` section leaves them. -/
def sectionOptions (options : Options) (targetTest : TargetTest) : Options :=
  { options with
    targetTestArgs := targetTest.args.getD []
    targetControllerArgs := some (str targetTest.controllerArgs) }

/-- The entries that a `<target_test>` section adds, each with the element that
it is built from. -/
def readTargetTest (document : Document) (options : Options) (targetTest : TargetTest) :
    Option (List (TargetElement × TargetRecord)) := do
  let name ← targetTest.name
  let elements ← findTargets document name
  if elements = [] then none
  else
    elements.mapM fun element =>
      (newTarget tables (sectionOptions options targetTest) name element).map (element, ·)

/-- All `<target_test>` sections in their order. -/
def readTargetTests (document : Document) (options : Options) :
    List TargetTest → Option (Options × List (TargetElement × TargetRecord))
  | [] => some (options, [])
  | targetTest :: rest => do
      let added ← readTargetTest tables findTargets document options targetTest
      let (options, later) ← readTargetTests document (sectionOptions options targetTest) rest
      some (options, added ++ later)

/-- What `main` goes on with: the options, the clients and the targets.  The
targets from the configuration file come with their elements. -/
structure Plan where
  options : Options
  clients : List ClientRecord
  configured : List (TargetElement × TargetRecord)
  requested : List TargetRecord
deriving DecidableEq, Repr

def Plan.targets (plan : Plan) : List TargetRecord :=
  plan.configured.map Prod.snd ++ plan.requested

/-- The configuration file, which has one `<test>` section. -/
def readConfig (options : Options) (document : Document) : Option Plan :=
  match document.tests with
  | [test] => do
      let options ← readTest tables options test
      let clients ← test.clients.mapM (newClient tables options)
      let (options, configured) ←
        readTargetTests tables findTargets document options document.targetTests
      some { options := options, clients := clients, configured := configured, requested := [] }
  | _ => none

def requestedClient (options : Options) (hostname : Text) : ClientRecord where
  hostname := hostname
  port := options.port
  testPort := options.testPort
  testArgs := options.testArgs
  testTarget := options.testTarget

/-- The target from the command line. -/
def requestedTarget (options : Options) : Option (List TargetRecord) :=
  match options.targetTest with
  | none => some []
  | some [] => some []
  | some test => do
      let hostname ← options.targetTestHostname
      some
        [{ hostname := some hostname
           port := options.targetTestPort
           testArgs := options.targetTestArgs
           test := test }]

/-- Append what the command line asks for, and check that there is a test and a
client. -/
def appendRequested (plan : Plan) : Option Plan := do
  let requested ← requestedTarget plan.options
  let clients := plan.clients ++ plan.options.clients.map (requestedClient plan.options)
  if plan.options.test = none ∨ clients = [] then none
  else some { plan with clients := clients, requested := requested }

/-- `main` up to the list of targets, with or without a configuration file. -/
def mainPlan (options : Options) (config : Option Document) : Option Plan := do
  let plan ←
    match config with
    | none => some { options := options, clients := [], configured := [], requested := [] }
    | some document => readConfig tables findTargets options document
  appendRequested plan

end Main

end Controller
end Ipbench
