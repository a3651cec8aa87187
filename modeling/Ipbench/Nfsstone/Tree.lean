import Ipbench.Nfsstone.Run
import Mathlib.Data.List.Nodup

namespace Ipbench
namespace Nfsstone

open Foundation
open Program

/-!
# The directories of a run

Both loops of `nfsstone_run` build the names of the directories from a counter
that starts again for the second one.  The names are all different, so that no
directory is taken for another.  A run that comes to its end has tried to
remove every directory that it made, the lower ones before the one around
them.  A run that returns early leaves the whole tree behind.
-/

/-! ## Names -/

theorem padded_filter (number : Nat) :
    (padded number).filter (fun byte => byte ≠ 32) = decimal number := by
  have digits : ∀ byte ∈ decimal (number : Int), byte ≠ 32 := by
    intro byte member blank
    have natural : ¬((number : Int) < 0) := Int.not_lt.mpr (Int.natCast_nonneg number)
    rw [decimal, if_neg natural] at member
    have bounds := digit_of_mem_decimalDigits member
    rw [blank] at bounds
    exact absurd bounds (by decide)
  rw [padded, List.filter_append, List.filter_replicate_of_neg (by decide), List.nil_append]
  exact List.filter_eq_self.mpr fun byte member => decide_eq_true (digits byte member)

theorem padded_injective : Function.Injective padded := by
  intro first second same
  have digits : decimal (first : Int) = decimal (second : Int) := by
    rw [← padded_filter, same, padded_filter]
  exact Int.ofNat_inj.mp (decimal_injective digits)

theorem number_of_mem_lowerNames {num bot : Nat} {name : List UInt8}
    (member : name ∈ lowerNames num bot) : ∃ number, num < number ∧ name = padded number := by
  induction bot generalizing num with
  | zero => cases member
  | succ bot inductionHypothesis =>
      rcases List.mem_cons.mp member with rfl | later
      · exact ⟨num + 1, Nat.lt_succ_self num, rfl⟩
      · rcases inductionHypothesis later with ⟨number, above, named⟩
        exact ⟨number, Nat.lt_of_succ_lt above, named⟩

theorem nodup_lowerNames (num bot : Nat) : (lowerNames num bot).Nodup := by
  induction bot generalizing num with
  | zero => exact List.nodup_nil
  | succ bot inductionHypothesis =>
      refine List.nodup_cons.mpr ⟨fun member => ?_, inductionHypothesis (num + 1)⟩
      rcases number_of_mem_lowerNames member with ⟨number, above, named⟩
      exact Nat.lt_irrefl _ (padded_injective named ▸ above)

theorem number_of_mem_branches {host : List UInt8} {bot num top : Nat} {branch : Branch}
    (member : branch ∈ branches host bot num top) :
    ∃ number, num < number ∧ branch.upper = padded number ++ literal "-" ++ host := by
  induction top generalizing num with
  | zero => cases member
  | succ top inductionHypothesis =>
      rcases List.mem_cons.mp member with rfl | later
      · exact ⟨num + 1, Nat.lt_succ_self num, rfl⟩
      · rcases inductionHypothesis later with ⟨number, above, named⟩
        exact ⟨number, by omega, named⟩

/-- The directories of a branch, in the order in which they are removed. -/
def Branch.paths (branch : Branch) : List Path :=
  branch.lowers.map (fun lower => ⟨branch.upper, some lower⟩) ++ [⟨branch.upper, none⟩]

theorem upper_of_mem_paths {branch : Branch} {path : Path} (member : path ∈ branch.paths) :
    path.upper = branch.upper := by
  rcases List.mem_append.mp member with lower | upper
  · rcases List.mem_map.mp lower with ⟨name, _, rfl⟩
    rfl
  · rw [List.mem_singleton.mp upper]

theorem nodup_paths {branch : Branch} (different : branch.lowers.Nodup) : branch.paths.Nodup := by
  refine List.nodup_append.mpr ⟨?_, List.nodup_singleton _, ?_⟩
  · refine different.map fun first second same => ?_
    injection same with _ lowers
    exact Option.some.inj lowers
  · intro path lower other upper same
    rcases List.mem_map.mp lower with ⟨name, _, rfl⟩
    rw [List.mem_singleton.mp upper] at same
    cases same

theorem nodup_tree (host : List UInt8) (bot num top : Nat) :
    ((branches host bot num top).flatMap Branch.paths).Nodup := by
  induction top generalizing num with
  | zero => exact List.nodup_nil
  | succ top inductionHypothesis =>
      rw [branches, List.flatMap_cons]
      refine List.nodup_append.mpr
        ⟨nodup_paths (nodup_lowerNames (num + 1) bot), inductionHypothesis _, ?_⟩
      intro path here other later same
      rcases List.mem_flatMap.mp later with ⟨branch, member, there⟩
      rcases number_of_mem_branches member with ⟨number, above, named⟩
      have uppers : padded (num + 1) ++ literal "-" ++ host =
          padded number ++ literal "-" ++ host := by
        rw [← named, ← upper_of_mem_paths there, ← same, upper_of_mem_paths here]
      have numbers := padded_injective (List.append_cancel_right (List.append_cancel_right uppers))
      omega

/-- A lower directory comes before the one around it. -/
theorem lower_before_upper {tree : List Branch} {path : Path}
    (member : path ∈ tree.flatMap Branch.paths) :
    ∃ before after, tree.flatMap Branch.paths = before ++ ⟨path.upper, none⟩ :: after ∧
      (path.lower ≠ none → path ∈ before) := by
  induction tree with
  | nil => cases member
  | cons branch rest inductionHypothesis =>
      rw [List.flatMap_cons] at member ⊢
      rcases List.mem_append.mp member with here | later
      · refine ⟨branch.lowers.map fun lower => ⟨branch.upper, some lower⟩,
          rest.flatMap Branch.paths, ?_, fun inside => ?_⟩
        · rw [upper_of_mem_paths here, Branch.paths, List.append_assoc, List.singleton_append]
        · rcases List.mem_append.mp here with lower | upper
          · exact lower
          · rw [List.mem_singleton.mp upper] at inside
            exact absurd rfl inside
      · rcases inductionHypothesis later with ⟨before, after, split, inside⟩
        refine ⟨branch.paths ++ before, after, ?_, fun deep => ?_⟩
        · rw [split, List.append_assoc]
        · exact List.mem_append_right _ (inside deep)

/-! ## Making and removing -/

/-- The directories that were made, and those whose removal was asked for. -/
structure TreeSeen where
  made : List Path
  removed : List Path
deriving DecidableEq, Repr

def TreeSeen.start : TreeSeen where
  made := []
  removed := []

def TreeSeen.after (seen : TreeSeen) (answer : RunAnswer) : RunCall → TreeSeen
  | .mkdir path =>
      { seen with made := if answer.value = 0 then seen.made ++ [path] else seen.made }
  | .rmdir path => { seen with removed := seen.removed ++ [path] }
  | _ => seen

/-- An observer of the directories that counts on nothing. -/
def forester : Observer RunCall RunAnswer TreeSeen where
  allows := fun _ _ _ => True
  next := fun seen call answer => seen.after answer call

/-- Only directories of a list are made, and none is removed. -/
structure Grows (allowed : List Path) (before after : TreeSeen) : Prop where
  made : ∀ path ∈ after.made, path ∈ before.made ∨ path ∈ allowed
  removed : after.removed = before.removed

theorem Grows.refl (allowed : List Path) (seen : TreeSeen) : Grows allowed seen seen where
  made := fun _ member => Or.inl member
  removed := rfl

theorem Grows.trans {allowed : List Path} {before middle after : TreeSeen}
    (first : Grows allowed before middle) (later : Grows allowed middle after) :
    Grows allowed before after where
  made := fun path member => (later.made path member).elim (first.made path) Or.inr
  removed := later.removed.trans first.removed

theorem grows_mkdir {allowed : List Path} {path : Path} (listed : path ∈ allowed)
    (seen : TreeSeen) (answer : RunAnswer) :
    Grows allowed seen (seen.after answer (.mkdir path)) where
  made := by
    intro other member
    change other ∈ (if answer.value = 0 then seen.made ++ [path] else seen.made) at member
    split at member
    · rcases List.mem_append.mp member with earlier | new
      · exact Or.inl earlier
      · exact Or.inr (List.mem_singleton.mp new ▸ listed)
    · exact Or.inl member
  removed := rfl

/-- A part of the run that makes directories of a list; where it returns `FAIL`, nothing has been
removed. -/
structure Plants (allowed : List Path) (program : RunStep Unit) : Prop where
  ends : ∀ seen : TreeSeen, seen.removed = [] →
    forester.Ends (fun after => after.removed = []) (fun _ after => Grows allowed seen after)
      program seen

theorem Plants.forEach {Item : Type} {body : Item → RunStep Unit} {allowed : List Path}
    {items : List Item} (turn : ∀ item ∈ items, Plants allowed (body item)) :
    Plants allowed (forEach body items) := by
  refine ⟨fun seen whole => ?_⟩
  refine Observer.ends_forEach (fun _ after => Grows allowed seen after) ?_ (Grows.refl _ seen)
  intro _ item listed state grown
  refine ((turn item (List.mem_of_getElem? listed)).ends state ?_).mono fun _ _ more =>
    grown.trans more
  exact grown.removed.trans whole

theorem makeLower_plants {allowed : List Path} {upper lower : List UInt8}
    (listed : ⟨upper, some lower⟩ ∈ allowed) : Plants allowed (makeLower upper lower) := by
  refine ⟨fun seen whole => Observer.ends_ask.mpr fun made _ => ?_⟩
  have grown := grows_mkdir listed seen made
  split
  · exact Observer.ends_ask.mpr fun pid _ => Observer.ends_require (fun _ => grown) fun _ => whole
  · exact Observer.ends_pure.mpr grown

theorem makeBranch_plants {allowed : List Path} {branch : Branch}
    (listed : ∀ path ∈ branch.paths, path ∈ allowed) : Plants allowed (makeBranch branch) := by
  have lowers : Plants allowed (forEach (makeLower branch.upper) branch.lowers) :=
    Plants.forEach fun lower member => makeLower_plants
      (listed _ (List.mem_append_left _ (List.mem_map.mpr ⟨lower, member, rfl⟩)))
  refine ⟨fun seen whole => Observer.ends_ask.mpr fun made _ => ?_⟩
  have grown := grows_mkdir (listed _ (List.mem_append_right _ List.mem_cons_self)) seen made
  refine Observer.ends_bind.mpr (Observer.ends_require (fun _ => ?_) fun _ => whole)
  have rest := lowers.ends (seen.after made (.mkdir ⟨branch.upper, none⟩)) whole
  exact rest.mono fun _ _ more => grown.trans more

theorem makeTree_plants (error : Int) (tree : List Branch) :
    Plants (tree.flatMap Branch.paths) (makeTree error tree) := by
  unfold makeTree
  split
  · exact Plants.forEach fun branch member => makeBranch_plants fun path inside =>
      List.mem_flatMap.mpr ⟨branch, member, inside⟩
  · exact ⟨fun seen _ => Observer.ends_pure.mpr (Grows.refl _ seen)⟩

/-- These directories are removed, one after another. -/
structure Fells (paths : List Path) (before after : TreeSeen) : Prop where
  made : after.made = before.made
  removed : after.removed = before.removed ++ paths

section Removal

variable {givenUp : TreeSeen → Prop}

theorem fells_forEach {Item : Type} {body : Item → RunStep Unit} {paths : Item → List Path}
    (turn : ∀ item seen, forester.Ends givenUp (fun _ after => Fells (paths item) seen after)
      (body item) seen) (items : List Item) (seen : TreeSeen) :
    forester.Ends givenUp (fun _ after => Fells (items.flatMap paths) seen after)
      (forEach body items) seen := by
  induction items generalizing seen with
  | nil => exact Observer.ends_pure.mpr ⟨rfl, (List.append_nil _).symm⟩
  | cons item rest inductionHypothesis =>
      refine (turn item seen).bind fun _ middle first => ?_
      refine (inductionHypothesis middle).mono fun _ after later => ⟨?_, ?_⟩
      · exact later.made.trans first.made
      · rw [later.removed, first.removed, List.flatMap_cons, List.append_assoc]

theorem removeBranch_fells (branch : Branch) (seen : TreeSeen) :
    forester.Ends givenUp (fun _ after => Fells branch.paths seen after) (removeBranch branch)
      seen := by
  have lower (name : List UInt8) (seen : TreeSeen) :
      forester.Ends givenUp (fun _ after => Fells [⟨branch.upper, some name⟩] seen after)
        (removeLower branch.upper name) seen :=
    Observer.ends_ask.mpr fun _ _ => Observer.ends_pure.mpr ⟨rfl, rfl⟩
  refine (fells_forEach lower branch.lowers seen).bind fun _ middle felled => ?_
  refine Observer.ends_ask.mpr fun _ _ => Observer.ends_pure.mpr ⟨felled.made, ?_⟩
  change middle.removed ++ [_] = _
  rw [felled.removed, ← List.map_eq_flatMap, List.append_assoc, Branch.paths]

theorem report_leaves {order : ByteOrder} {sizes : Sizes} {start : Daemon.Timeval} {error : Int}
    {ended : TreeSeen → Prop} {seen : TreeSeen} (holds : ended seen) :
    forester.Ends givenUp (fun _ => ended) (report order sizes start error) seen := by
  unfold report
  split
  · exact Observer.ends_pure.mpr holds
  · exact Observer.ends_ask.mpr fun _ _ => Observer.ends_pure.mpr holds

end Removal

/-- What the tree has come to when a run is at its end. -/
def Cleaned (seen : TreeSeen) : Prop :=
  seen.removed.Nodup ∧
    ∀ path ∈ seen.made, ∃ before after,
      seen.removed = before ++ ⟨path.upper, none⟩ :: after ∧ (path.lower ≠ none → path ∈ before)

theorem nfsstoneRun_cleaned (order : ByteOrder) (sizes : Sizes) (lock : List UInt8) :
    forester.Ends (fun seen => seen.removed = []) (fun _ seen => Cleaned seen)
      (nfsstoneRun order sizes lock) TreeSeen.start := by
  refine Observer.ends_ask.mpr fun named _ => Observer.ends_ask.mpr fun began _ => ?_
  refine ((makeTree_plants _
      (branches named.host sizes.bot.toNat 0 sizes.top.toNat)).ends _ rfl).bind
    fun _ planted grown => Observer.ends_ask.mpr fun waited _ => ?_
  refine (fells_forEach removeBranch_fells _ _).bind fun _ bare felled => ?_
  refine Observer.ends_ask.mpr fun _ _ => report_leaves ?_
  have removed : bare.removed =
      (branches named.host sizes.bot.toNat 0 sizes.top.toNat).flatMap Branch.paths :=
    felled.removed.trans (congrArg (· ++ _) grown.removed)
  refine ⟨removed ▸ nodup_tree named.host sizes.bot.toNat 0 sizes.top.toNat, fun path made => ?_⟩
  have here : path ∈ bare.made := made
  rw [show bare.made = planted.made from felled.made] at here
  rcases grown.made path here with earlier | allowed
  · cases earlier
  · rcases lower_before_upper allowed with ⟨before, after, split, inside⟩
    exact ⟨before, after, removed.trans split, inside⟩

def treeOfRun (trace : List (RunCall × RunAnswer)) : TreeSeen :=
  forester.along TreeSeen.start trace

/-- For all sizes that the counters hold, and whatever the calls answer, a run that comes to its end
has asked for the removal of every directory that it made: each once, under a name of its own, and
the lower ones before the one around them.  A run that returns `FAIL` on the way has removed
nothing. -/
theorem nfsstoneRun_cleansUp {World : Type} (order : ByteOrder) (sizes : Sizes)
    (lock : List UInt8) (reply : World → RunCall → RunAnswer × World) (world : World) :
    match ((nfsstoneRun order sizes lock).run reply world).result with
    | some _ => Cleaned (treeOfRun ((nfsstoneRun order sizes lock).run reply world).trace)
    | none =>
        (treeOfRun ((nfsstoneRun order sizes lock).run reply world).trace).removed = [] := by
  have described := forester.describes_every reply fun _ _ _ => trivial
  have cleaned := (nfsstoneRun_cleaned order sizes lock).run described world trivial
  cases came : ((nfsstoneRun order sizes lock).run reply world).result with
  | some ended =>
      rw [came] at cleaned
      exact cleaned
  | none =>
      rw [came] at cleaned
      exact cleaned

end Nfsstone
end Ipbench
