import Ipbench.Controller.TargetOutput
import Ipbench.Foundation.CText
import Mathlib.Data.List.Nodup

namespace Ipbench
namespace Controller

open Foundation

/-!
# The plugins that a process has loaded

`load_plugin` searches the plugin directory for a name, but what it returns depends on
`ipbench_plugin` alone, a variable that lives as long as the process.  Once a plugin is
loaded no call fails any more, and a name that the directory does not have keeps the
plugin before it.

A directory is what `scandir` finds there, in any order.
-/

/-! ## The directory -/

structure DirectoryEntry where
  name : List UInt8
  file : PluginFile

/-- The function `filter`.  Of a name with fewer than three bytes it also compares what is in
front of it, the type of the entry, which is no `.` and no `s`. -/
def DirectoryEntry.filter (entry : DirectoryEntry) : Bool :=
  decide (literal ".so" <:+ entry.name)

def scandir (entries : List DirectoryEntry) : List PluginFile :=
  (entries.filter DirectoryEntry.filter).map DirectoryEntry.file

/-- The plugins of the files that open and have the magic text. -/
def validPlugins (namelist : List PluginFile) : List Plugin :=
  namelist.filterMap fun file =>
    file.filter fun plugin => decide (plugin.magic = "IPBENCH_PLUGIN".toList)

/-- A plugin directory: not too many shared objects, and plugins of different names. -/
structure PluginDirectory where
  entries : List DirectoryEntry
  few : (scandir entries).length ≤ maxPlugins
  distinct : ((validPlugins (scandir entries)).map Plugin.name).Nodup

namespace PluginDirectory

def namelist (directory : PluginDirectory) : List PluginFile :=
  scandir directory.entries

def plugins (directory : PluginDirectory) : List Plugin :=
  validPlugins directory.namelist

def names (directory : PluginDirectory) : List Text :=
  directory.plugins.map Plugin.name

/-- The last of some names that the directory has. -/
def lastKnown (directory : PluginDirectory) (names : List Text) : Option Text :=
  names.reverse.find? fun name => decide (name ∈ directory.names)

end PluginDirectory

/-! ## Calls of `load_plugin` -/

/-- The module after calls of `load_plugin`, of which some may raise. -/
def Shunt.afterLoads (shunt : Shunt) (directory : PluginDirectory) (names : List Text) : Shunt :=
  names.foldl (fun shunt name =>
    (shunt.loadPlugin (some directory.namelist) name).getD shunt) shunt

/-- A call returns exactly if the directory has a valid plugin of the name, and the module
then has this plugin. -/
structure LoadsNamed (directory : PluginDirectory) (shunt : Shunt) (name : Text) : Prop where
  succeeds : (shunt.loadPlugin (some directory.namelist) name).isSome ↔ name ∈ directory.names
  loads : ∀ after, shunt.loadPlugin (some directory.namelist) name = some after →
    ∀ plugin ∈ directory.plugins, plugin.name = name → after.plugin = some plugin

/-! ## One call -/

section Search

theorem mem_validPlugins {plugin : Plugin} {namelist : List PluginFile} :
    plugin ∈ validPlugins namelist ↔
      some plugin ∈ namelist ∧ plugin.magic = "IPBENCH_PLUGIN".toList := by
  rw [validPlugins, List.mem_filterMap]
  constructor
  · rintro ⟨file, member, valid⟩
    obtain ⟨rfl, magic⟩ := Option.filter_eq_some_iff.mp valid
    exact ⟨member, of_decide_eq_true magic⟩
  · rintro ⟨member, magic⟩
    exact ⟨some plugin, member, Option.filter_eq_some_iff.mpr ⟨rfl, decide_eq_true magic⟩⟩

theorem matches_iff {plugin : Plugin} {name : Text} :
    plugin.matches name = true ↔
      plugin.magic = "IPBENCH_PLUGIN".toList ∧ plugin.name = name := by
  rw [Plugin.matches, decide_eq_true_eq]

/-- What the search finds is a valid plugin of the name. -/
theorem searchPlugins_some {name : Text} {namelist : List PluginFile} {plugin : Plugin}
    (found : searchPlugins name namelist = some plugin) :
    plugin ∈ validPlugins namelist ∧ plugin.name = name := by
  obtain ⟨file, member, fits⟩ := List.exists_of_findSome?_eq_some found
  obtain ⟨rfl, same⟩ := Option.filter_eq_some_iff.mp fits
  obtain ⟨magic, named⟩ := matches_iff.mp same
  exact ⟨mem_validPlugins.mpr ⟨List.mem_reverse.mp member, magic⟩, named⟩

theorem searchPlugins_none {name : Text} {namelist : List PluginFile}
    (missing : searchPlugins name namelist = none) :
    name ∉ (validPlugins namelist).map Plugin.name := by
  intro known
  obtain ⟨plugin, member, named⟩ := List.mem_map.mp known
  obtain ⟨within, magic⟩ := mem_validPlugins.mp member
  have skipped := List.findSome?_eq_none_iff.mp missing (some plugin) (List.mem_reverse.mpr within)
  rw [Option.filter_some, if_pos (matches_iff.mpr ⟨magic, named⟩)] at skipped
  cases skipped

variable {directory : PluginDirectory} {name : Text}

theorem PluginDirectory.plugin_unique {plugin other : Plugin}
    (member : plugin ∈ directory.plugins) (among : other ∈ directory.plugins)
    (same : plugin.name = other.name) : plugin = other :=
  List.inj_on_of_nodup_map directory.distinct member among same

theorem PluginDirectory.not_many (directory : PluginDirectory) :
    ¬ maxPlugins < directory.namelist.length :=
  Nat.not_lt.mpr directory.few

theorem loadPlugin_known (shunt : Shunt) (known : name ∈ directory.names) :
    ∃ plugin ∈ directory.plugins, plugin.name = name ∧
      shunt.loadPlugin (some directory.namelist) name =
        some { shunt with plugin := some plugin } := by
  cases found : searchPlugins name directory.namelist with
  | none => exact absurd known (searchPlugins_none found)
  | some plugin =>
      obtain ⟨member, named⟩ := searchPlugins_some found
      refine ⟨plugin, member, named, ?_⟩
      rw [Shunt.loadPlugin, if_neg directory.not_many, found]
      rfl

theorem loadPlugin_unknown (shunt : Shunt) (unknown : name ∉ directory.names) :
    shunt.loadPlugin (some directory.namelist) name = shunt.present := by
  cases found : searchPlugins name directory.namelist with
  | none => rw [Shunt.loadPlugin, if_neg directory.not_many, found]
  | some plugin =>
      obtain ⟨member, named⟩ := searchPlugins_some found
      exact absurd (List.mem_map.mpr ⟨plugin, member, named⟩) unknown

theorem Shunt.present_isSome (shunt : Shunt) : shunt.present.isSome ↔ shunt.plugin ≠ none := by
  rw [Shunt.present]
  cases shunt.plugin with
  | none => exact iff_of_false Bool.false_ne_true (fun loaded => loaded rfl)
  | some plugin => exact iff_of_true rfl (Option.some_ne_none plugin)

/-- A call does what it is for if the directory has the name, or if nothing is loaded. -/
theorem loadsNamed_iff (directory : PluginDirectory) (shunt : Shunt) (name : Text) :
    LoadsNamed directory shunt name ↔ name ∈ directory.names ∨ shunt.plugin = none := by
  by_cases known : name ∈ directory.names
  · refine iff_of_true ?_ (Or.inl known)
    obtain ⟨plugin, member, named, loaded⟩ := loadPlugin_known shunt known
    refine ⟨iff_of_true (by rw [loaded]; rfl) known, ?_⟩
    intro after returned other among otherNamed
    rw [loaded] at returned
    cases returned
    exact congrArg some
      (PluginDirectory.plugin_unique member among (named.trans otherNamed.symm))
  · have kept := loadPlugin_unknown shunt known
    constructor
    · intro right
      right
      by_contra stale
      have returned := (Shunt.present_isSome shunt).mpr stale
      rw [← kept] at returned
      exact known (right.succeeds.mp returned)
    · rintro (known' | empty)
      · exact absurd known' known
      · refine ⟨?_, ?_⟩
        · rw [kept, Shunt.present_isSome]
          exact iff_of_false (not_not_intro empty) known
        · intro after _ plugin member named
          exact absurd (List.mem_map.mpr ⟨plugin, member, named⟩) known

end Search

/-! ## Runs -/

theorem PluginDirectory.lastKnown_concat (directory : PluginDirectory) (names : List Text)
    (name : Text) : directory.lastKnown (names ++ [name]) =
      if name ∈ directory.names then some name else directory.lastKnown names := by
  rw [lastKnown, List.reverse_concat, List.find?_cons]
  by_cases known : name ∈ directory.names
  · rw [if_pos known, decide_eq_true known]
  · rw [if_neg known, decide_eq_false known]
    rfl

theorem PluginDirectory.lastKnown_eq_none {directory : PluginDirectory} {names : List Text} :
    directory.lastKnown names = none ↔ ∀ name ∈ names, name ∉ directory.names := by
  rw [lastKnown, List.find?_eq_none]
  simp only [List.mem_reverse, decide_eq_true_eq]

/-- One call takes the module from the last name that the directory has to the next. -/
theorem loadPlugin_name (directory : PluginDirectory) (shunt : Shunt) (name : Text) :
    ((shunt.loadPlugin (some directory.namelist) name).getD shunt).plugin.map Plugin.name =
      if name ∈ directory.names then some name else shunt.plugin.map Plugin.name := by
  by_cases known : name ∈ directory.names
  · obtain ⟨plugin, _, named, loaded⟩ := loadPlugin_known shunt known
    rw [if_pos known, loaded]
    exact congrArg some named
  · rw [if_neg known, loadPlugin_unknown shunt known]
    cases kept : shunt.present with
    | none => rfl
    | some after =>
        obtain ⟨rfl, _⟩ := Shunt.present_eq kept
        rfl

/-- A call returns if the module has a plugin afterwards. -/
theorem loadPlugin_isSome (directory : PluginDirectory) (shunt : Shunt) (name : Text) :
    (shunt.loadPlugin (some directory.namelist) name).isSome ↔
      (if name ∈ directory.names then some name else shunt.plugin.map Plugin.name) ≠ none := by
  by_cases known : name ∈ directory.names
  · obtain ⟨plugin, _, _, loaded⟩ := loadPlugin_known shunt known
    rw [if_pos known, loaded]
    exact iff_of_true rfl (Option.some_ne_none name)
  · rw [if_neg known, loadPlugin_unknown shunt known, Shunt.present_isSome, Ne, Ne,
      Option.map_eq_none_iff]

/-- The module has the plugin of the last name that the directory has. -/
theorem afterLoads_name (directory : PluginDirectory) (names : List Text) :
    (Shunt.initial.afterLoads directory names).plugin.map Plugin.name =
      directory.lastKnown names := by
  induction names using List.reverseRecOn with
  | nil => rfl
  | append_singleton names name inductionHypothesis =>
      rw [Shunt.afterLoads, List.foldl_append, List.foldl_cons, List.foldl_nil, loadPlugin_name,
        directory.lastKnown_concat, ← inductionHypothesis]
      rfl

theorem afterLoads_none {directory : PluginDirectory} {names : List Text} :
    (Shunt.initial.afterLoads directory names).plugin = none ↔
      ∀ name ∈ names, name ∉ directory.names := by
  rw [← PluginDirectory.lastKnown_eq_none, ← afterLoads_name, Option.map_eq_none_iff]

end Controller
end Ipbench
