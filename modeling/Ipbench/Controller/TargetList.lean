import Ipbench.Controller.Precedence
import Mathlib.Data.List.Nodup
import Mathlib.Data.List.Pairwise

namespace Ipbench
namespace Controller

open Foundation

/-!
# The targets of several sections

Every `<target_test>` section looks its targets up again, by its name and over
the whole document, so sections with one name find each other's targets and add
all of them twice.  Its controller arguments go into an option that all sections
share, and the last one wins; when it has none, they are the text that Python
shows for a missing value.

The entries are as they should be exactly when the names differ, every section
has controller arguments, and these are the same.  Nothing is assumed of a query
for a name with an apostrophe, which ends the quotation in the query; such a
section has to find its own targets.
-/

variable {tables : CharTables} {findTargets : Document → Text → Option (List TargetElement)}

/-- The query works as documented for names that can be quoted. -/
def Documented (findTargets : Document → Text → Option (List TargetElement)) : Prop :=
  ∀ document name, '\'' ∉ name →
    findTargets document name =
      some (document.targetTests.flatMap fun targetTest =>
        if targetTest.name = some name then targetTest.targets else [])

theorem documented_quotedQuery : Documented quotedQuery := by
  intro document name unquoted
  exact if_neg unquoted

/-- The entry takes the test and the default arguments of a section. -/
structure OfSection (targetTest : TargetTest) (entry : TargetElement × TargetRecord) : Prop where
  test : some entry.2.test = targetTest.name
  testArgs : entry.2.testArgs = entry.1.testArgs.getD (targetTest.args.getD [])

/-- There is one entry for each target element, in the order of the document,
and it takes the test, the default arguments and the controller arguments of the
section around the element. -/
structure Enclosed (document : Document) (plan : Plan) : Prop where
  elements : plan.configured.map Prod.fst = document.targetTests.flatMap TargetTest.targets
  sections : ∀ entry ∈ plan.configured, ∀ targetTest ∈ document.targetTests,
    entry.1 ∈ targetTest.targets →
      OfSection targetTest entry ∧ plan.options.targetControllerArgs = targetTest.controllerArgs

/-- The sections do not get into each other's way. -/
structure Separate (findTargets : Document → Text → Option (List TargetElement))
    (document : Document) : Prop where
  names : (document.targetTests.map TargetTest.name).Nodup
  quoted : ∀ targetTest ∈ document.targetTests, ∀ name, targetTest.name = some name →
    '\'' ∈ name → findTargets document name = some targetTest.targets
  args : ∃ args, ∀ targetTest ∈ document.targetTests, targetTest.controllerArgs = some args

/-! ## What a section adds -/

/-- The elements that the query of a section finds. -/
def queried (findTargets : Document → Text → Option (List TargetElement)) (document : Document)
    (targetTest : TargetTest) : List TargetElement :=
  (targetTest.name.bind (findTargets document)).getD []

/-- Results kept beside what they are computed from. -/
theorem mapM_beside {Source Result : Type} {f : Source → Option Result}
    {sources : List Source} {pairs : List (Source × Result)}
    (collected : sources.mapM (fun source => (f source).map (source, ·)) = some pairs) :
    pairs.map Prod.fst = sources ∧ ∀ pair ∈ pairs, f pair.1 = some pair.2 := by
  induction sources generalizing pairs with
  | nil =>
      cases collected
      exact ⟨rfl, fun pair member => absurd member List.not_mem_nil⟩
  | cons source sources inductionHypothesis =>
      rw [List.mapM_cons] at collected
      rcases Option.bind_eq_some_iff.mp collected with ⟨first, made, collected⟩
      rcases Option.bind_eq_some_iff.mp collected with ⟨others, rest, collected⟩
      rcases Option.map_eq_some_iff.mp made with ⟨result, computed, rfl⟩
      cases collected
      rcases inductionHypothesis rest with ⟨firsts, each⟩
      constructor
      · rw [List.map_cons, firsts]
      · intro pair member
        rcases List.mem_cons.mp member with rfl | later
        · exact computed
        · exact each pair later

theorem newTarget_ofSection {options : Options} {targetTest : TargetTest} {name : Text}
    {element : TargetElement} {record : TargetRecord} (named : targetTest.name = some name)
    (made : newTarget tables (sectionOptions options targetTest) name element = some record) :
    OfSection targetTest (element, record) := by
  unfold newTarget at made
  split at made
  · rcases Option.bind_eq_some_iff.mp made with ⟨port, _, made⟩
    rcases Option.bind_eq_some_iff.mp made with ⟨hostname, _, made⟩
    cases made
    exact ⟨named.symm, rfl⟩
  · rename_i bare
    have silent : element.testArgs = none := by
      simp only [TargetElement.hasKeys, Bool.or_eq_true, not_or] at bare
      exact Option.not_isSome_iff_eq_none.mp bare.1.2
    cases made
    refine ⟨named.symm, ?_⟩
    rw [silent]
    rfl

structure Added (findTargets : Document → Text → Option (List TargetElement))
    (document : Document) (targetTest : TargetTest)
    (entries : List (TargetElement × TargetRecord)) : Prop where
  found : targetTest.name.bind (findTargets document) =
    some (queried findTargets document targetTest)
  nonempty : queried findTargets document targetTest ≠ []
  elements : entries.map Prod.fst = queried findTargets document targetTest
  ofSection : ∀ entry ∈ entries, OfSection targetTest entry

theorem readTargetTest_added {document : Document} {options : Options} {targetTest : TargetTest}
    {entries : List (TargetElement × TargetRecord)}
    (read : readTargetTest tables findTargets document options targetTest = some entries) :
    Added findTargets document targetTest entries := by
  rcases Option.bind_eq_some_iff.mp read with ⟨name, named, read⟩
  rcases Option.bind_eq_some_iff.mp read with ⟨elements, found, read⟩
  have query : queried findTargets document targetTest = elements := by
    rw [queried, named, Option.bind_some, found]
    rfl
  split at read
  · cases read
  · rename_i nonempty
    rcases mapM_beside read with ⟨firsts, each⟩
    constructor
    · rw [query, named, Option.bind_some, found]
    · rw [query]
      exact nonempty
    · rw [query]
      exact firsts
    · intro entry member
      exact newTarget_ofSection named (each entry member)

/-- The option that the last section leaves. -/
def lastControllerArgs (before : Option Text) (sections : List TargetTest) : Option Text :=
  sections.foldl (fun _ targetTest => some (str targetTest.controllerArgs)) before

structure Collected (findTargets : Document → Text → Option (List TargetElement))
    (document : Document) (sections : List TargetTest)
    (entries : List (TargetElement × TargetRecord)) : Prop where
  found : ∀ targetTest ∈ sections, targetTest.name.bind (findTargets document) =
    some (queried findTargets document targetTest)
  nonempty : ∀ targetTest ∈ sections, queried findTargets document targetTest ≠ []
  elements : entries.map Prod.fst = sections.flatMap (queried findTargets document)
  ofSection : ∀ entry ∈ entries, ∃ targetTest ∈ sections,
    entry.1 ∈ queried findTargets document targetTest ∧ OfSection targetTest entry
  each : ∀ targetTest ∈ sections, ∀ element ∈ queried findTargets document targetTest,
    ∃ entry ∈ entries, entry.1 = element ∧ OfSection targetTest entry

theorem collected_nil (document : Document) : Collected findTargets document [] [] := by
  constructor
  · intro targetTest member
    cases member
  · intro targetTest member
    cases member
  · rfl
  · intro entry member
    cases member
  · intro targetTest member
    cases member

theorem Added.collected_cons {document : Document} {targetTest : TargetTest}
    {rest : List TargetTest} {entries later : List (TargetElement × TargetRecord)}
    (added : Added findTargets document targetTest entries)
    (others : Collected findTargets document rest later) :
    Collected findTargets document (targetTest :: rest) (entries ++ later) := by
  constructor
  · intro other member
    rcases List.mem_cons.mp member with rfl | member
    · exact added.found
    · exact others.found other member
  · intro other member
    rcases List.mem_cons.mp member with rfl | member
    · exact added.nonempty
    · exact others.nonempty other member
  · rw [List.map_append, List.flatMap_cons, added.elements, others.elements]
  · intro entry member
    rcases List.mem_append.mp member with here | there
    · refine ⟨targetTest, List.mem_cons_self, ?_, added.ofSection entry here⟩
      rw [← added.elements]
      exact List.mem_map_of_mem here
    · rcases others.ofSection entry there with ⟨other, member, within, taken⟩
      exact ⟨other, List.mem_cons_of_mem targetTest member, within, taken⟩
  · intro other member element within
    rcases List.mem_cons.mp member with rfl | member
    · rw [← added.elements] at within
      rcases List.mem_map.mp within with ⟨entry, here, same⟩
      exact ⟨entry, List.mem_append_left later here, same, added.ofSection entry here⟩
    · rcases others.each other member element within with ⟨entry, there, same, taken⟩
      exact ⟨entry, List.mem_append_right entries there, same, taken⟩

theorem readTargetTests_collected {document : Document} {sections : List TargetTest}
    {options final : Options} {entries : List (TargetElement × TargetRecord)}
    (read : readTargetTests tables findTargets document options sections =
      some (final, entries)) :
    Collected findTargets document sections entries ∧
      final.targetControllerArgs = lastControllerArgs options.targetControllerArgs sections := by
  induction sections generalizing options entries with
  | nil =>
      cases read
      exact ⟨collected_nil document, rfl⟩
  | cons targetTest rest inductionHypothesis =>
      rcases Option.bind_eq_some_iff.mp read with ⟨added, first, read⟩
      rcases Option.bind_eq_some_iff.mp read with ⟨⟨left, later⟩, others, read⟩
      cases read
      rcases inductionHypothesis others with ⟨collected, args⟩
      refine ⟨(readTargetTest_added first).collected_cons collected, ?_⟩
      rw [args]
      rfl

theorem mainPlan_collected {document : Document} {options : Options} {plan : Plan}
    (planned : mainPlan tables findTargets options (some document) = some plan) :
    Collected findTargets document document.targetTests plan.configured ∧
      ∃ before, plan.options.targetControllerArgs =
        lastControllerArgs before document.targetTests := by
  rcases Option.bind_eq_some_iff.mp planned with ⟨read, config, planned⟩
  have kept : plan.configured = read.configured ∧ plan.options = read.options := by
    rcases Option.bind_eq_some_iff.mp planned with ⟨requested, _, planned⟩
    dsimp only at planned
    split at planned
    · cases planned
    · cases planned
      exact ⟨rfl, rfl⟩
  change readConfig tables findTargets options document = some read at config
  unfold readConfig at config
  split at config
  · rcases Option.bind_eq_some_iff.mp config with ⟨tested, _, config⟩
    rcases Option.bind_eq_some_iff.mp config with ⟨clients, _, config⟩
    rcases Option.bind_eq_some_iff.mp config with ⟨⟨final, configured⟩, sections, config⟩
    cases config
    rcases readTargetTests_collected sections with ⟨collected, args⟩
    rw [kept.1, kept.2]
    exact ⟨collected, tested.targetControllerArgs, args⟩
  · cases config

/-! ## Sections that share nothing -/

/-- Two ways to cut one list without repetitions are the same when each piece of
the first lies within the piece of the second. -/
theorem flatMap_pieces {Piece Item : Type} {first second : Piece → List Item}
    {pieces : List Piece} (same : pieces.flatMap first = pieces.flatMap second)
    (within : ∀ piece ∈ pieces, first piece ⊆ second piece)
    (distinct : (pieces.flatMap second).Nodup) :
    ∀ piece ∈ pieces, first piece = second piece := by
  induction pieces with
  | nil =>
      intro piece member
      cases member
  | cons head rest inductionHypothesis =>
      rw [List.flatMap_cons, List.flatMap_cons] at same
      rw [List.flatMap_cons] at distinct
      have apart := (List.nodup_append'.mp distinct).2.2
      have headWithin := within head List.mem_cons_self
      have restWithin : ∀ piece ∈ rest, first piece ⊆ second piece :=
        fun piece member => within piece (List.mem_cons_of_mem head member)
      -- what one cut has more in its first piece, the other has in a later one
      have heads : first head = second head := by
        rcases List.append_eq_append_iff.mp same with ⟨excess, more, less⟩ | ⟨excess, more, less⟩
        · cases excess with
          | nil => rw [more, List.append_nil]
          | cons item excess =>
              have early : item ∈ second head := by
                rw [more]
                exact List.mem_append_right _ List.mem_cons_self
              have found : item ∈ rest.flatMap first := by
                rw [less]
                exact List.mem_append_left _ List.mem_cons_self
              rcases List.mem_flatMap.mp found with ⟨piece, member, inside⟩
              exact absurd (List.mem_flatMap.mpr ⟨piece, member, restWithin piece member inside⟩)
                (apart early)
        · cases excess with
          | nil => rw [more, List.append_nil]
          | cons item excess =>
              have early : item ∈ first head := by
                rw [more]
                exact List.mem_append_right _ List.mem_cons_self
              have late : item ∈ rest.flatMap second := by
                rw [less]
                exact List.mem_append_left _ List.mem_cons_self
              exact absurd late (apart (headWithin early))
      rw [heads] at same
      have later := inductionHypothesis (List.append_cancel_left same) restWithin
        (List.nodup_append'.mp distinct).2.1
      intro piece member
      rcases List.mem_cons.mp member with rfl | member
      · exact heads
      · exact later piece member

/-- A key that no other piece has selects its piece. -/
theorem flatMap_select {Piece Key Item : Type} [DecidableEq Key] {key : Piece → Key}
    {content : Piece → List Item} {pieces : List Piece} {chosen : Piece}
    (distinct : (pieces.map key).Nodup) (member : chosen ∈ pieces) :
    (pieces.flatMap fun piece => if key piece = key chosen then content piece else []) =
      content chosen := by
  have absent : ∀ {pieces : List Piece}, key chosen ∉ pieces.map key →
      (pieces.flatMap fun piece => if key piece = key chosen then content piece else []) = [] := by
    intro pieces missing
    apply List.flatMap_eq_nil_iff.mpr
    intro piece within
    apply if_neg
    intro same
    rw [← same] at missing
    exact missing (List.mem_map_of_mem within)
  induction pieces with
  | nil => cases member
  | cons head rest inductionHypothesis =>
      rw [List.map_cons, List.nodup_cons] at distinct
      rw [List.flatMap_cons]
      rcases List.mem_cons.mp member with rfl | member
      · rw [if_pos rfl, absent distinct.1, List.append_nil]
      · have other : key head ≠ key chosen := by
          intro same
          rw [same] at distinct
          exact distinct.1 (List.mem_map_of_mem member)
        rw [if_neg other, List.nil_append]
        exact inductionHypothesis distinct.2 member

theorem lastControllerArgs_eq {sections : List TargetTest} {args : Text} {before : Option Text}
    (same : ∀ targetTest ∈ sections, targetTest.controllerArgs = some args)
    {targetTest : TargetTest} (member : targetTest ∈ sections) :
    lastControllerArgs before sections = some args := by
  induction sections generalizing before targetTest with
  | nil => cases member
  | cons head rest inductionHypothesis =>
      change lastControllerArgs (some (str head.controllerArgs)) rest = some args
      cases rest with
      | nil =>
          rw [same head List.mem_cons_self]
          rfl
      | cons next rest =>
          exact inductionHypothesis
            (fun other within => same other (List.mem_cons_of_mem head within)) List.mem_cons_self

theorem lastControllerArgs_isSome {sections : List TargetTest} (before : Option Text)
    (nonempty : sections ≠ []) : ∃ args, lastControllerArgs before sections = some args := by
  induction sections generalizing before with
  | nil => exact absurd rfl nonempty
  | cons head rest inductionHypothesis =>
      change ∃ args, lastControllerArgs (some (str head.controllerArgs)) rest = some args
      cases rest with
      | nil => exact ⟨str head.controllerArgs, rfl⟩
      | cons next rest => exact inductionHypothesis _ (List.cons_ne_nil next rest)

theorem Document.targets_nodup (document : Document) :
    (document.targetTests.flatMap TargetTest.targets).Nodup :=
  List.Nodup.of_map TargetElement.number document.distinct

theorem Document.section_unique (document : Document) {element : TargetElement}
    {first second : TargetTest} (firstMember : first ∈ document.targetTests)
    (secondMember : second ∈ document.targetTests) (inFirst : element ∈ first.targets)
    (inSecond : element ∈ second.targets) : first = second := by
  have apart := (List.nodup_flatMap.mp document.targets_nodup).2
  have symmetric : Std.Symm (Function.onFun List.Disjoint TargetTest.targets) :=
    ⟨fun left right disjoint item inRight inLeft => disjoint inLeft inRight⟩
  by_contra different
  exact apart.forall firstMember secondMember different inFirst inSecond

section Exact

variable {document : Document} {plan : Plan}
  (collected : Collected findTargets document document.targetTests plan.configured)
  {before : Option Text} (args : plan.options.targetControllerArgs =
    lastControllerArgs before document.targetTests)
include collected

/-- Sections with one name find the same targets, and these would be added for
each of them. -/
theorem Enclosed.names_nodup (enclosed : Enclosed document plan) :
    (document.targetTests.map TargetTest.name).Nodup := by
  have distinct := document.targets_nodup
  rw [← enclosed.elements, collected.elements] at distinct
  apply List.pairwise_map.mpr
  apply (List.nodup_flatMap.mp distinct).2.imp_of_mem
  intro first second member _ apart same
  have queries : queried findTargets document first = queried findTargets document second := by
    rw [queried, queried, same]
  rcases List.exists_mem_of_ne_nil _ (collected.nonempty first member) with ⟨element, found⟩
  apply apart found
  rw [← queries]
  exact found

/-- A target that a section finds has its test from there, and by its name the
section is the one around it. -/
theorem Enclosed.queried_eq (enclosed : Enclosed document plan) :
    ∀ targetTest ∈ document.targetTests,
      queried findTargets document targetTest = targetTest.targets := by
  apply flatMap_pieces
  · rw [← collected.elements, enclosed.elements]
  · intro targetTest member element found
    rcases collected.each targetTest member element found with ⟨entry, added, rfl, taken⟩
    have around : entry.1 ∈ document.targetTests.flatMap TargetTest.targets := by
      rw [← enclosed.elements]
      exact List.mem_map_of_mem added
    rcases List.mem_flatMap.mp around with ⟨surrounding, surroundingMember, inside⟩
    have named : targetTest.name = surrounding.name := by
      rw [← taken.test]
      exact (enclosed.sections entry added surrounding surroundingMember inside).1.test
    have same := List.inj_on_of_nodup_map (enclosed.names_nodup collected) member
      surroundingMember named
    rw [same]
    exact inside
  · exact document.targets_nodup

include args

theorem Enclosed.separate (enclosed : Enclosed document plan) :
    Separate findTargets document := by
  have own := enclosed.queried_eq collected
  constructor
  · exact enclosed.names_nodup collected
  · intro targetTest member name named _
    have found := collected.found targetTest member
    rw [own targetTest member, named] at found
    exact found
  · by_cases absent : document.targetTests = []
    · refine ⟨[], ?_⟩
      intro targetTest member
      rw [absent] at member
      cases member
    · rcases lastControllerArgs_isSome before absent with ⟨text, last⟩
      refine ⟨text, ?_⟩
      intro targetTest member
      have nonempty := collected.nonempty targetTest member
      rcases List.exists_mem_of_ne_nil _ nonempty with ⟨element, found⟩
      rcases collected.each targetTest member element found with ⟨entry, added, rfl, _⟩
      rw [own targetTest member] at found
      rw [← last, ← args]
      exact (enclosed.sections entry added targetTest member found).2.symm

theorem Separate.enclosed (documented : Documented findTargets)
    (separate : Separate findTargets document) : Enclosed document plan := by
  have own : ∀ targetTest ∈ document.targetTests,
      queried findTargets document targetTest = targetTest.targets := by
    intro targetTest member
    rcases Option.bind_eq_some_iff.mp (collected.found targetTest member) with
      ⟨name, named, found⟩
    by_cases apostrophe : '\'' ∈ name
    · rw [separate.quoted targetTest member name named apostrophe] at found
      exact (Option.some.inj found).symm
    · rw [documented document name apostrophe, ← named] at found
      rw [← Option.some.inj found]
      exact flatMap_select separate.names member
  constructor
  · rw [collected.elements]
    exact List.flatMap_congr own
  · intro entry added targetTest member inside
    rcases collected.ofSection entry added with ⟨finder, finderMember, found, taken⟩
    rw [own finder finderMember] at found
    have same := document.section_unique finderMember member found inside
    rw [same] at taken
    refine ⟨taken, ?_⟩
    rcases separate.args with ⟨text, equal⟩
    rw [args, lastControllerArgs_eq equal member, equal targetTest member]

end Exact

/-- The targets are those of the document, with what their sections say, exactly
when the sections share nothing. -/
theorem enclosed_iff {options : Options} {document : Document} {plan : Plan}
    (documented : Documented findTargets)
    (planned : mainPlan tables findTargets options (some document) = some plan) :
    Enclosed document plan ↔ Separate findTargets document := by
  rcases mainPlan_collected planned with ⟨collected, before, args⟩
  constructor
  · intro enclosed
    exact enclosed.separate collected args
  · intro separate
    exact separate.enclosed collected args documented

/-- A `<target>` element with a host name only. -/
def hostTarget (number : Nat) : TargetElement where
  number := number
  hostname := some ['h']
  port := none
  testArgs := none
  others := false

/-- Two `<target_test>` sections with a target each. -/
def twoSections (first second : Text) : Document where
  tests := (oneClient (some ['c'])).tests
  targetTests :=
    [{ name := some first, args := some ['1'], controllerArgs := some []
       targets := [hostTarget 0] },
     { name := some second, args := some ['2'], controllerArgs := some []
       targets := [hostTarget 1] }]
  distinct := show [0, 1].Nodup by decide

/-- An entry of a section with the arguments `args`. -/
def hostEntry (number : Nat) (name args : Text) : TargetElement × TargetRecord :=
  (hostTarget number,
    { hostname := some ['h'], port := 8037, testArgs := args, test := name })

/-- What `main` makes of two sections, with these entries for the targets. -/
def twoSectionsPlan (entries : List (TargetElement × TargetRecord)) : Plan where
  options :=
    { (oneClientPlan (some ['c'])).options with
      targetTestArgs := ['2'], targetControllerArgs := some [] }
  clients := (oneClientPlan (some ['c'])).clients
  configured := entries
  requested := []

theorem enclosed_iff_twoNames :
    Enclosed (twoSections ['a'] ['b'])
        (twoSectionsPlan [hostEntry 0 ['a'] ['1'], hostEntry 1 ['b'] ['2']]) ↔
      Separate quotedQuery (twoSections ['a'] ['b']) :=
  enclosed_iff documented_quotedQuery
    (show mainPlan asciiTables quotedQuery Options.defaults
        (some (twoSections ['a'] ['b'])) = _ by decide)

/-- Sections with one name, as in the sample configuration: each target is
added twice, and once with the arguments of the other section. -/
theorem sameName_addedTwice :
    mainPlan asciiTables quotedQuery Options.defaults (some (twoSections ['a'] ['a'])) =
        some (twoSectionsPlan
          [hostEntry 0 ['a'] ['1'], hostEntry 1 ['a'] ['1'],
            hostEntry 0 ['a'] ['2'], hostEntry 1 ['a'] ['2']]) ∧
      ¬ Enclosed (twoSections ['a'] ['a'])
        (twoSectionsPlan
          [hostEntry 0 ['a'] ['1'], hostEntry 1 ['a'] ['1'],
            hostEntry 0 ['a'] ['2'], hostEntry 1 ['a'] ['2']]) := by
  refine ⟨by decide, ?_⟩
  intro enclosed
  have lengths := congrArg List.length enclosed.elements
  exact absurd lengths (by decide)

end Controller
end Ipbench
