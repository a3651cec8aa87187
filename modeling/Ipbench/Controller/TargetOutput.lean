import Ipbench.Controller.Config
import Ipbench.Controller.Unmarshall
import Ipbench.Latency.Marshalling

namespace Ipbench
namespace Controller

open Foundation Latency

/-!
# The output of several targets

All targets share the module `ipbench_target`, which has one pointer to a loaded
plugin and one place for the data of a target.  `main` loads the plugins of all
targets before it starts the test, and it unmarshalls the data of all targets
before the first of them shows its output.  By then both are those of the last
target.

So every target shows what the last one would.  This is its own output exactly
when all of them name the same plugin and return data that the plugin decodes to
the same record.  The array of the clients has a place for each of them.

A call that ends the program, with an exception or otherwise, is `none`.
-/

/-! ## Plugins -/

/-- What `unmarshall` of a plugin returns and stores. -/
structure Decoded where
  status : Int
  data : List UInt8
  size : Int
deriving DecidableEq, Repr, Inhabited

/-- `struct client_data`. -/
structure ClientData where
  data : List UInt8
  size : Int
  valid : Int
  type : Int
deriving DecidableEq, Repr, Inhabited

/-- The part of `struct ipbench_plugin` that the controller uses for a target. -/
structure Plugin where
  magic : Text
  name : Text
  unmarshall : (input : List UInt8) → (inputLen : Int) → Decoded
  output : ClientData → Int
deriving Inhabited

/-- A `.so` file of the plugin directory, which may not open or have no plugin. -/
abbrev PluginFile :=
  Option Plugin

def maxPlugins : Nat :=
  15

def ipbenchTarget : Int :=
  1

/-- The magic text and the name fit. -/
def Plugin.matches (name : Text) (plugin : Plugin) : Bool :=
  plugin.magic = "IPBENCH_PLUGIN".toList ∧ plugin.name = name

/-- The loop of `load_plugin`, which begins with the last file. -/
def searchPlugins (name : Text) (namelist : List PluginFile) : Option Plugin :=
  namelist.reverse.findSome? fun file => file.filter (Plugin.matches name)

def Plugin.clientData (plugin : Plugin) (input : List UInt8) (valid : Bool) : ClientData where
  data := (plugin.unmarshall input (asInt input.length)).data
  size := (plugin.unmarshall input (asInt input.length)).size
  valid := if valid then 1 else 0
  type := ipbenchTarget

/-! ## The module -/

/-- The variables `ipbench_plugin` and `target_data`. -/
structure Shunt where
  plugin : Option Plugin
  targetData : ClientData

def Shunt.initial : Shunt where
  plugin := none
  targetData := { data := [], size := 0, valid := 0, type := 0 }

/-- The end of `load_plugin`, which raises when there is no plugin. -/
def Shunt.present (shunt : Shunt) : Option Shunt :=
  if shunt.plugin.isNone then none else some shunt

/-- `load_plugin`.  When the directory cannot be read or has no such plugin, the
plugin that was loaded before is kept. -/
def Shunt.loadPlugin (shunt : Shunt) (directory : Option (List PluginFile)) (name : Text) :
    Option Shunt :=
  match directory with
  | none => shunt.present
  | some namelist =>
      if maxPlugins < namelist.length then none
      else
        match searchPlugins name namelist with
        | none => shunt.present
        | some plugin => Shunt.present { shunt with plugin := some plugin }

/-- `unmarshall` of the module. -/
def Shunt.unmarshall (shunt : Shunt) (input : List UInt8) (valid : Bool) : Option Shunt :=
  match shunt.plugin with
  | none => none
  | some plugin =>
      let shunt := { shunt with targetData := plugin.clientData input valid }
      if (plugin.unmarshall input (asInt input.length)).status = -1 then none else some shunt

structure OutputCall where
  plugin : Plugin
  targetData : ClientData

/-! ## The loops of `main` -/

/-- A target, and what `main` meets there: the plugin directory when it loads the
plugin, whether the daemon accepts the commands up to SETUP, and what it sends
after STOP. -/
structure Target where
  record : TargetRecord
  directory : Option (List PluginFile)
  accepts : Bool
  socket : Socket

section Main

variable (tables : CharTables) (fuel : Nat)

/-- The body of the loop that sets up the targets. -/
def setupTarget (shunt : Shunt) (target : Target) : Option Shunt := do
  let _ ← target.record.hostname
  let shunt ← shunt.loadPlugin target.directory target.record.test
  if target.accepts then some shunt else none

def stopTarget (shunt : Shunt) (target : Target) : Option Shunt :=
  match unmarshall tables fuel target.socket with
  | .passed clientData valid => shunt.unmarshall clientData valid
  | _ => none

/-- The loop that shows the outputs. -/
def outputTargets (plugin : Plugin) (targetData : ClientData) : List Target → List OutputCall
  | [] => []
  | _ :: rest =>
      { plugin := plugin, targetData := targetData } ::
        if plugin.output targetData = -1 then [] else outputTargets plugin targetData rest

/-- The output calls for the targets.  What `main` does with the clients leaves
this module alone. -/
def mainOutputs (targets : List Target) : Option (List OutputCall) := do
  let shunt ← targets.foldlM setupTarget Shunt.initial
  let shunt ← targets.foldlM (stopTarget tables fuel) shunt
  match shunt.plugin with
  | none => some []
  | some plugin => some (outputTargets plugin shunt.targetData targets)

def Target.named (target : Target) : Option Plugin :=
  target.directory.bind (searchPlugins target.record.test)

/-- The call that shows a target's own data through its own plugin. -/
def Target.ownCall (target : Target) : Option OutputCall :=
  match target.named, unmarshall tables fuel target.socket with
  | some plugin, .passed clientData valid =>
      some { plugin := plugin, targetData := plugin.clientData clientData valid }
  | _, _ => none

/-- The calls show what each target returned, in order. -/
def OwnOutputs (targets : List Target) (calls : List OutputCall) : Prop :=
  targets.map (Target.ownCall tables fuel) = calls.map some

/-- All targets name one plugin, and it makes the same of their data.  If there
are several of them, its `output` does not raise. -/
structure Alike (targets : List Target) (plugin : Plugin) (targetData : ClientData) : Prop where
  named : ∀ target ∈ targets, target.named = some plugin
  returned : ∀ target ∈ targets, ∃ clientData valid,
    unmarshall tables fuel target.socket = .passed clientData valid ∧
      plugin.clientData clientData valid = targetData
  goesOn : plugin.output targetData = -1 → targets.length ≤ 1

end Main

/-! ## What the loops leave -/

variable {tables : CharTables} {fuel : Nat}

theorem Shunt.present_eq {shunt after : Shunt} (present : shunt.present = some after) :
    after = shunt ∧ after.plugin.isSome := by
  unfold Shunt.present at present
  split at present
  · cases present
  · rename_i loaded
    cases present
    exact ⟨rfl, Option.isSome_iff_ne_none.mpr (mt Option.isNone_iff_eq_none.mpr loaded)⟩

theorem Shunt.loadPlugin_plugin {shunt after : Shunt} {directory : Option (List PluginFile)}
    {name : Text} (loaded : shunt.loadPlugin directory name = some after) :
    after.plugin = (directory.bind (searchPlugins name)).or shunt.plugin ∧
      after.plugin.isSome := by
  unfold Shunt.loadPlugin at loaded
  cases directory with
  | none =>
      rcases Shunt.present_eq loaded with ⟨rfl, present⟩
      exact ⟨rfl, present⟩
  | some namelist =>
      dsimp only at loaded
      rw [Option.bind_some]
      split at loaded
      · cases loaded
      · split at loaded
        · rename_i missing
          rcases Shunt.present_eq loaded with ⟨rfl, present⟩
          rw [missing]
          exact ⟨rfl, present⟩
        · rename_i plugin found
          rcases Shunt.present_eq loaded with ⟨rfl, present⟩
          rw [found]
          exact ⟨rfl, present⟩

theorem setupTarget_plugin {shunt after : Shunt} {target : Target}
    (ready : setupTarget shunt target = some after) :
    after.plugin = target.named.or shunt.plugin ∧ after.plugin.isSome := by
  rcases Option.bind_eq_some_iff.mp ready with ⟨hostname, _, ready⟩
  rcases Option.bind_eq_some_iff.mp ready with ⟨left, loaded, ready⟩
  split at ready
  · cases ready
    exact Shunt.loadPlugin_plugin loaded
  · cases ready

theorem stopTarget_shunt {shunt after : Shunt} {target : Target} {plugin : Plugin}
    (loaded : shunt.plugin = some plugin)
    (stopped : stopTarget tables fuel shunt target = some after) :
    after.plugin = some plugin ∧ ∃ clientData valid,
      unmarshall tables fuel target.socket = .passed clientData valid ∧
        after.targetData = plugin.clientData clientData valid := by
  unfold stopTarget at stopped
  split at stopped
  · rename_i clientData valid received
    unfold Shunt.unmarshall at stopped
    rw [loaded] at stopped
    dsimp only at stopped
    split at stopped
    · cases stopped
    · cases stopped
      exact ⟨rfl, clientData, valid, received, rfl⟩
  · cases stopped

theorem stopTargets_plugin {targets : List Target} {shunt after : Shunt} {plugin : Plugin}
    (loaded : shunt.plugin = some plugin)
    (stopped : targets.foldlM (stopTarget tables fuel) shunt = some after) :
    after.plugin = some plugin := by
  induction targets generalizing shunt with
  | nil =>
      cases stopped
      exact loaded
  | cons target rest inductionHypothesis =>
      rw [List.foldlM_cons] at stopped
      rcases Option.bind_eq_some_iff.mp stopped with ⟨next, first, others⟩
      exact inductionHypothesis (stopTarget_shunt loaded first).1 others

theorem outputTargets_replicate {plugin : Plugin} {targetData : ClientData}
    (goesOn : plugin.output targetData ≠ -1) (targets : List Target) :
    outputTargets plugin targetData targets =
      List.replicate targets.length { plugin := plugin, targetData := targetData } := by
  induction targets with
  | nil => rfl
  | cons target rest inductionHypothesis =>
      rw [outputTargets, if_neg goesOn, inductionHypothesis]
      rfl

/-- An `output` that raises ends the loop after the first call. -/
theorem outputTargets_raised {plugin : Plugin} {targetData : ClientData}
    (raised : plugin.output targetData = -1) (targets : List Target) :
    outputTargets plugin targetData targets =
      List.replicate (min targets.length 1) { plugin := plugin, targetData := targetData } := by
  cases targets with
  | nil => rfl
  | cons target rest =>
      rw [outputTargets, if_pos raised, List.length_cons, Nat.min_eq_right (Nat.le_add_left 1 _)]
      rfl

/-- All calls are the same.  There is at most one if it raises, and there is one for
each target if it does not or if there is one target. -/
theorem outputTargets_same (plugin : Plugin) (targetData : ClientData) (targets : List Target) :
    ∃ count, outputTargets plugin targetData targets =
        List.replicate count { plugin := plugin, targetData := targetData } ∧
      (plugin.output targetData = -1 → count ≤ 1) ∧
      ((plugin.output targetData = -1 → targets.length ≤ 1) → count = targets.length) := by
  by_cases raised : plugin.output targetData = -1
  · exact ⟨_, outputTargets_raised raised targets, fun _ => Nat.min_le_right _ 1,
      fun single => Nat.min_eq_left (single raised)⟩
  · exact ⟨_, outputTargets_replicate raised targets, fun raises => absurd raises raised,
      fun _ => rfl⟩

theorem foldlM_concat {State Item : Type} {step : State → Item → Option State}
    {items : List Item} {last : Item} {start after : State}
    (done : (items ++ [last]).foldlM step start = some after) :
    ∃ before, items.foldlM step start = some before ∧ step before last = some after := by
  rw [List.foldlM_append] at done
  rcases Option.bind_eq_some_iff.mp done with ⟨before, earlier, done⟩
  rcases Option.bind_eq_some_iff.mp done with ⟨final, turn, same⟩
  cases same
  exact ⟨before, earlier, turn⟩

/-- What `main` shows: the same call for all targets, through the plugin that is
loaded last and with the data that are unmarshalled last. -/
theorem mainOutputs_last {targets : List Target} {last : Target} {calls : List OutputCall}
    (outputs : mainOutputs tables fuel (targets ++ [last]) = some calls) :
    ∃ plugin targetData clientData valid,
      calls = outputTargets plugin targetData (targets ++ [last]) ∧
        (∀ named, last.named = some named → plugin = named) ∧
        unmarshall tables fuel last.socket = .passed clientData valid ∧
        targetData = plugin.clientData clientData valid := by
  rcases Option.bind_eq_some_iff.mp outputs with ⟨ready, setups, outputs⟩
  rcases Option.bind_eq_some_iff.mp outputs with ⟨stopped, stops, outputs⟩
  rcases foldlM_concat setups with ⟨before, _, setup⟩
  rcases foldlM_concat stops with ⟨earlier, others, stop⟩
  rcases setupTarget_plugin setup with ⟨chosen, present⟩
  rcases Option.isSome_iff_exists.mp present with ⟨plugin, loaded⟩
  rcases stopTarget_shunt (stopTargets_plugin loaded others) stop with
    ⟨kept, clientData, valid, received, stored⟩
  rw [kept] at outputs
  cases outputs
  refine ⟨plugin, stopped.targetData, clientData, valid, rfl, ?_, received, stored⟩
  intro named found
  rw [loaded, found] at chosen
  exact Option.some.inj chosen

theorem Target.ownCall_eq {target : Target} {call : OutputCall}
    (own : target.ownCall tables fuel = some call) :
    target.named = some call.plugin ∧ ∃ clientData valid,
      unmarshall tables fuel target.socket = .passed clientData valid ∧
        call.plugin.clientData clientData valid = call.targetData := by
  unfold Target.ownCall at own
  split at own
  · rename_i plugin clientData valid named received
    cases own
    exact ⟨named, clientData, valid, received, rfl⟩
  · cases own

theorem Target.ownCall_of {target : Target} {plugin : Plugin} {clientData : List UInt8}
    {valid : Bool} (named : target.named = some plugin)
    (received : unmarshall tables fuel target.socket = .passed clientData valid) :
    target.ownCall tables fuel =
      some { plugin := plugin, targetData := plugin.clientData clientData valid } := by
  rw [Target.ownCall, named, received]

/-- Every target shows its own data through its own plugin exactly when the
targets are alike. -/
theorem ownOutputs_iff {targets : List Target} {calls : List OutputCall}
    (outputs : mainOutputs tables fuel targets = some calls) :
    OwnOutputs tables fuel targets calls ↔
      ∃ plugin targetData, Alike tables fuel targets plugin targetData := by
  rcases List.eq_nil_or_concat' targets with rfl | ⟨others, last, rfl⟩
  · cases outputs
    refine iff_of_true rfl ⟨default, default, ?_, ?_, fun _ => Nat.zero_le 1⟩
    · intro target member
      cases member
    · intro target member
      cases member
  · rcases mainOutputs_last outputs with
      ⟨plugin, targetData, clientData, valid, rfl, chosen, received, stored⟩
    generalize whole : others ++ [last] = targets
    have lastMember : last ∈ targets := by
      rw [← whole]
      exact List.mem_append_right others List.mem_cons_self
    constructor
    · intro own
      rcases outputTargets_same plugin targetData targets with ⟨count, calls, once, _⟩
      rw [OwnOutputs, calls] at own
      have length : targets.length = count := by
        have lengths := congrArg List.length own
        rw [List.length_map, List.length_map, List.length_replicate] at lengths
        exact lengths
      have each : ∀ target ∈ targets, target.ownCall tables fuel =
          some { plugin := plugin, targetData := targetData } := by
        intro target member
        have among : target.ownCall tables fuel ∈ targets.map (Target.ownCall tables fuel) :=
          List.mem_map_of_mem member
        rw [own, List.map_replicate] at among
        exact List.eq_of_mem_replicate among
      refine ⟨plugin, targetData, ?_, ?_, ?_⟩
      · intro target member
        exact (Target.ownCall_eq (each target member)).1
      · intro target member
        exact (Target.ownCall_eq (each target member)).2
      · intro raises
        rw [length]
        exact once raises
    · rintro ⟨named, record, alike⟩
      have same : plugin = named := chosen named (alike.named last lastMember)
      subst same
      have kept : targetData = record := by
        rcases alike.returned last lastMember with ⟨bytes, flag, passed, decoded⟩
        rw [received] at passed
        cases passed
        rw [stored, decoded]
      subst kept
      rcases outputTargets_same plugin targetData targets with ⟨count, calls, _, whole⟩
      rw [whole alike.goesOn] at calls
      rw [OwnOutputs, calls, List.map_replicate]
      apply List.eq_replicate_iff.mpr
      refine ⟨List.length_map _, ?_⟩
      intro call member
      rcases List.mem_map.mp member with ⟨target, within, rfl⟩
      rcases alike.returned target within with ⟨bytes, flag, passed, decoded⟩
      rw [Target.ownCall_of (alike.named target within) passed, decoded]

/-- The plugin `dummy_target`, which copies its data. -/
def dummyTarget : Plugin where
  magic := "IPBENCH_PLUGIN".toList
  name := "dummy_target".toList
  unmarshall := fun input inputLen => { status := 0, data := input, size := inputLen }
  output := fun targetData => if targetData.valid = 0 then 1 else 0

/-- A target that runs this plugin and returns one byte. -/
def dummyRun (byte : UInt8) : Target where
  record :=
    { hostname := some ['h'], port := 8037, testArgs := [], test := "dummy_target".toList }
  directory := some [some dummyTarget]
  accepts := true
  socket := { stream := marshalled true [byte], cuts := [32, 18] }

def dummyCall (byte : UInt8) : OutputCall where
  plugin := dummyTarget
  targetData := dummyTarget.clientData [byte] true

theorem dummyRun_named (byte : UInt8) : (dummyRun byte).named = some dummyTarget := by
  have fits : Plugin.matches "dummy_target".toList dummyTarget = true := by decide
  change searchPlugins "dummy_target".toList [some dummyTarget] = some dummyTarget
  rw [searchPlugins, List.reverse_singleton, List.findSome?_cons, Option.filter_some, if_pos fits]

theorem setupTarget_dummyRun (shunt : Shunt) (byte : UInt8) :
    setupTarget shunt (dummyRun byte) = some { shunt with plugin := some dummyTarget } := by
  have found : searchPlugins (dummyRun byte).record.test [some dummyTarget] =
      some dummyTarget := dummyRun_named byte
  have loaded : shunt.loadPlugin (some [some dummyTarget]) (dummyRun byte).record.test =
      some { shunt with plugin := some dummyTarget } := by
    rw [Shunt.loadPlugin, found]
    rfl
  change (shunt.loadPlugin (some [some dummyTarget]) (dummyRun byte).record.test).bind some = _
  rw [loaded, Option.bind_some]

theorem stopTarget_dummyRun (shunt : Shunt) {byte : UInt8}
    (loaded : shunt.plugin = some dummyTarget)
    (received : unmarshall asciiTables 3 (dummyRun byte).socket = .passed [byte] true) :
    stopTarget asciiTables 3 shunt (dummyRun byte) =
      some { shunt with targetData := (dummyCall byte).targetData } := by
  unfold stopTarget
  rw [received]
  dsimp only
  rw [Shunt.unmarshall, loaded]
  rfl

theorem mainOutputs_dummyRun {first second : UInt8}
    (firstReceived : unmarshall asciiTables 3 (dummyRun first).socket = .passed [first] true)
    (secondReceived : unmarshall asciiTables 3 (dummyRun second).socket = .passed [second] true) :
    mainOutputs asciiTables 3 [dummyRun first, dummyRun second] =
      some [dummyCall second, dummyCall second] := by
  have goesOn : dummyTarget.output (dummyCall second).targetData ≠ -1 :=
    show (0 : Int) ≠ -1 by decide
  have setups : [dummyRun first, dummyRun second].foldlM setupTarget Shunt.initial =
      some { Shunt.initial with plugin := some dummyTarget } := by
    simp only [List.foldlM_cons, List.foldlM_nil, setupTarget_dummyRun, Option.bind_eq_bind,
      Option.bind_some, Option.pure_def]
  have stops : [dummyRun first, dummyRun second].foldlM (stopTarget asciiTables 3)
      { Shunt.initial with plugin := some dummyTarget } =
        some { plugin := some dummyTarget, targetData := (dummyCall second).targetData } := by
    rw [List.foldlM_cons, stopTarget_dummyRun _ rfl firstReceived, Option.bind_eq_bind,
      Option.bind_some, List.foldlM_cons, stopTarget_dummyRun _ rfl secondReceived]
    rfl
  rw [mainOutputs, setups, Option.bind_eq_bind, Option.bind_some, stops]
  exact congrArg some (outputTargets_replicate goesOn [dummyRun first, dummyRun second])

theorem ownOutputs_iff_sameData :
    OwnOutputs asciiTables 3 [dummyRun 1, dummyRun 1] [dummyCall 1, dummyCall 1] ↔
      ∃ plugin targetData,
        Alike asciiTables 3 [dummyRun 1, dummyRun 1] plugin targetData :=
  ownOutputs_iff (mainOutputs_dummyRun (by decide +kernel) (by decide +kernel))

/-- Two targets with different data: the output of the first shows the data of
the second. -/
theorem firstTarget_showsSecond :
    mainOutputs asciiTables 3 [dummyRun 1, dummyRun 2] = some [dummyCall 2, dummyCall 2] ∧
      ¬ OwnOutputs asciiTables 3 [dummyRun 1, dummyRun 2] [dummyCall 2, dummyCall 2] := by
  refine ⟨mainOutputs_dummyRun (by decide +kernel) (by decide +kernel), ?_⟩
  intro own
  have first : (dummyRun 1).ownCall asciiTables 3 = some (dummyCall 2) := (List.cons.inj own).1
  have received : unmarshall asciiTables 3 (dummyRun 1).socket = .passed [1] true := by
    decide +kernel
  rw [Target.ownCall_of (dummyRun_named 1) received] at first
  have bytes := congrArg (fun call => call.targetData.data) (Option.some.inj first)
  exact absurd bytes (by decide)

end Controller
end Ipbench
