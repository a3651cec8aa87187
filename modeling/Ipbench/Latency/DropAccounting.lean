import Ipbench.Latency.ReplyMatching

namespace Ipbench
namespace Latency

open Foundation

/-!
# Accounting for every packet

Each packet that enters the table is answered, overwritten, or still there, and
the code counts an overwritten packet as dropped when its identifier is not
zero.  The identifiers begin at zero, so the first packet is not counted when it
is overwritten before its answer.

The balance is kept by every other operation: a step lemma gives the change of
the slots that hold an unanswered packet, with the overwritten packets of
identifier zero as an explicit loss, and the run adds these up.  Nothing is
assumed of the number of packets, so identifiers may wrap.
-/

variable {packetListLength : Nat}

/-- A packet lies in the slot and has not been answered. -/
def PacketListNode.unanswered (node : PacketListNode) : Bool :=
  decide (node.sendTime ≠ 0)

/-- A slot is empty or holds a packet with its send time. -/
def PacketListNode.Sound (node : PacketListNode) : Prop :=
  node = PacketListNode.cleared ∨ node.sendTime ≠ 0

namespace PacketList

/-- The slots that hold an unanswered packet. -/
def outstanding (table : PacketList packetListLength) : Nat :=
  occupied PacketListNode.unanswered table.packetList

/-- The next insertion overwrites an unanswered packet whose identifier is zero. -/
def OverwritesZero (table : PacketList packetListLength) : Prop :=
  (table.packetList (advance table.packetListHead)).packetId = 0 ∧
    (table.packetList (advance table.packetListHead)).unanswered = true

instance (table : PacketList packetListLength) : Decidable table.OverwritesZero :=
  inferInstanceAs (Decidable (_ ∧ _))

end PacketList

/-! ## The balance -/

def addCount (events : List PacketEvent) : Nat :=
  events.countP fun event =>
    match event with
    | .added _ _ _ => true
    | .deleted _ _ => false

/-- The deletions of a trace that found their packet. -/
def answerCount (events : List PacketEvent) : Nat :=
  events.countP fun event =>
    match event with
    | .added _ _ _ => false
    | .deleted _ sendTime => decide (sendTime ≠ 0)

/-- The drop counts of a trace, added up. -/
def dropSum (events : List PacketEvent) : Nat :=
  (events.map fun event =>
    match event with
    | .added _ _ drops => drops.toNat
    | .deleted _ _ => 0).sum

/-- Every packet is accounted for, and each deletion of the run looks at a slot
of the table and leaves the table alone when it returns zero. -/
structure Accounted (packetListLength : Nat) (positive : 0 < packetListLength)
    (ops : List PacketOp) : Prop where
  conserved : addCount (packetRun packetListLength positive ops).2 =
    answerCount (packetRun packetListLength positive ops).2 +
      dropSum (packetRun packetListLength positive ops).2 +
      (packetRun packetListLength positive ops).1.1.outstanding
  inside : ∀ before packetId, before ++ [.del packetId] <+: ops →
    stepBack packetListLength (packetRun packetListLength positive before).1.1.packetListHead.val
        ((packetRun packetListLength positive before).1.1.offset packetId).toNat <
      packetListLength
  unchanged : ∀ before packetId, before ++ [.del packetId] <+: ops →
    ((packetRun packetListLength positive before).1.1.packetListDel packetId).1 = 0 →
      ((packetRun packetListLength positive before).1.1.packetListDel packetId).2 =
        (packetRun packetListLength positive before).1.1

/-- No insertion of the run overwrites an unanswered packet of identifier zero. -/
def KeepsZero (packetListLength : Nat) (positive : 0 < packetListLength)
    (ops : List PacketOp) : Prop :=
  (packetMachine packetListLength).Along
    (fun state _ op => op.isAdd = true → ¬ state.1.OverwritesZero)
    (PacketList.zeroed packetListLength positive, 0) [] ops

instance (positive : 0 < packetListLength) (ops : List PacketOp) :
    Decidable (KeepsZero packetListLength positive ops) :=
  inferInstanceAs (Decidable (Machine.Along _ _ _ _ _))

/-! ## One operation -/

namespace PacketList

variable (table : PacketList packetListLength)

def Sound : Prop :=
  ∀ place, (table.packetList place).Sound

theorem sound_update {table : PacketList packetListLength} (sound : table.Sound)
    {place : Fin packetListLength} {node : PacketListNode} (fine : node.Sound)
    (other : Fin packetListLength) :
    (Function.update table.packetList place node other).Sound := by
  by_cases same : other = place
  · rw [same, Function.update_self]
    exact fine
  · rw [Function.update_of_ne same]
    exact sound other

def loss : Nat :=
  if table.OverwritesZero then 1 else 0

theorem add_outstanding (sound : table.Sound) (packetId : UInt64) {sendTime : UInt64}
    (sent : sendTime ≠ 0) :
    (table.packetListAdd packetId sendTime).2.outstanding +
        (table.packetListAdd packetId sendTime).1.toNat + table.loss =
      table.outstanding + 1 := by
  have updated := occupied_update PacketListNode.unanswered table.packetList
    (advance table.packetListHead) { packetId := packetId, sendTime := sendTime }
  have new : PacketListNode.unanswered { packetId := packetId, sendTime := sendTime } = true :=
    decide_eq_true sent
  rw [new, Bool.toNat_true] at updated
  have lost : (table.packetList (advance table.packetListHead)).unanswered.toNat =
      (table.packetListAdd packetId sendTime).1.toNat + table.loss := by
    have drops : (table.packetListAdd packetId sendTime).1 =
        if (table.packetList (advance table.packetListHead)).packetId ≠ 0 then 1 else 0 := rfl
    rcases sound (advance table.packetListHead) with empty | held
    · have idle : (table.packetList (advance table.packetListHead)).unanswered = false := by
        rw [empty]
        rfl
      have kept : table.loss = 0 := by
        apply if_neg
        intro overwritten
        rw [overwritten.2] at idle
        cases idle
      rw [idle, kept, drops, empty]
      rfl
    · have taken : (table.packetList (advance table.packetListHead)).unanswered = true :=
        decide_eq_true held
      by_cases zero : (table.packetList (advance table.packetListHead)).packetId = 0
      · have lost : table.loss = 1 := if_pos ⟨zero, taken⟩
        rw [taken, lost, drops, if_neg (not_not_intro zero)]
        rfl
      · have kept : table.loss = 0 := if_neg fun overwritten => zero overwritten.1
        rw [taken, kept, drops, if_pos zero]
        rfl
  change occupied PacketListNode.unanswered _ + _ + _ = _
  rw [lost] at updated
  rw [Nat.add_assoc]
  exact updated

theorem add_sound {table : PacketList packetListLength} (sound : table.Sound)
    (packetId : UInt64) {sendTime : UInt64} (sent : sendTime ≠ 0) :
    (table.packetListAdd packetId sendTime).2.Sound :=
  sound_update sound (Or.inr sent)

/-- A deletion misses and changes nothing, or clears the slot of an unanswered
packet and returns its send time. -/
theorem packetListDel_sound (sound : table.Sound) (packetId : UInt64) :
    table.packetListDel packetId = (0, table) ∨
      ∃ place, (table.packetList place).sendTime ≠ 0 ∧
        table.packetListDel packetId = ((table.packetList place).sendTime, table.clear place) := by
  rcases sound (table.index packetId) with empty | held
  · exact Or.inl (table.packetListDel_eq_of_index packetId fun _ => empty)
  · by_cases found : (table.packetList (table.index packetId)).packetId = packetId
    · by_cases old : packetListLength ≤ (table.offset packetId).toNat
      · left
        rw [packetListDel, if_pos old]
      · right
        refine ⟨table.index packetId, held, ?_⟩
        rw [packetListDel, if_neg old, if_pos found]
    · exact Or.inl (table.packetListDel_eq_of_index packetId fun same => absurd same found)

theorem clear_outstanding {place : Fin packetListLength}
    (held : (table.packetList place).sendTime ≠ 0) :
    (table.clear place).outstanding + 1 = table.outstanding := by
  have updated := occupied_update PacketListNode.unanswered table.packetList place
    PacketListNode.cleared
  have old : (table.packetList place).unanswered = true := decide_eq_true held
  rw [old] at updated
  exact updated

theorem clear_sound {table : PacketList packetListLength} (sound : table.Sound)
    (place : Fin packetListLength) : (table.clear place).Sound :=
  sound_update sound (Or.inl rfl)

end PacketList

/-! ## Runs -/

/-- The insertions of a run that overwrite an unanswered packet of identifier
zero. -/
def losses : PacketList packetListLength × UInt64 → List PacketOp → Nat
  | _, [] => 0
  | state, op :: rest =>
      (if op.isAdd then state.1.loss else 0) +
        losses ((packetMachine packetListLength).step state op).1 rest

theorem losses_eq_zero_iff (state : PacketList packetListLength × UInt64)
    (trace : List PacketEvent) (ops : List PacketOp) :
    losses state ops = 0 ↔
      (packetMachine packetListLength).Along
        (fun state _ op => op.isAdd = true → ¬ state.1.OverwritesZero) state trace ops := by
  induction ops generalizing state trace with
  | nil => exact iff_of_true rfl trivial
  | cons op rest inductionHypothesis =>
      have here : (if op.isAdd then state.1.loss else 0) = 0 ↔
          (op.isAdd = true → ¬ state.1.OverwritesZero) := by
        cases op with
        | add sendTime => simp [PacketOp.isAdd, PacketList.loss]
        | del packetId => simp [PacketOp.isAdd]
      rw [losses, Nat.add_eq_zero_iff, here, inductionHypothesis]
      rfl

theorem addCount_append (first second : List PacketEvent) :
    addCount (first ++ second) = addCount first + addCount second :=
  List.countP_append

theorem answerCount_append (first second : List PacketEvent) :
    answerCount (first ++ second) = answerCount first + answerCount second :=
  List.countP_append

theorem dropSum_append (first second : List PacketEvent) :
    dropSum (first ++ second) = dropSum first + dropSum second := by
  rw [dropSum, List.map_append, List.sum_append]
  rfl

theorem step_balance {state : PacketList packetListLength × UInt64} (sound : state.1.Sound)
    (op : PacketOp) (sent : ∀ time, op = .add time → time ≠ 0) :
    let next := (packetMachine packetListLength).step state op
    next.1.1.Sound ∧
      addCount next.2 + state.1.outstanding =
        answerCount next.2 + dropSum next.2 + next.1.1.outstanding +
          if op.isAdd then state.1.loss else 0 := by
  cases op with
  | add sendTime =>
      have here := sent sendTime rfl
      have balance := state.1.add_outstanding sound state.2 here
      refine ⟨PacketList.add_sound sound state.2 here, ?_⟩
      simp only [packetMachine, addCount, answerCount, dropSum, PacketOp.isAdd, List.countP_cons,
        List.countP_nil, List.map_cons, List.map_nil, List.sum_cons, List.sum_nil, if_true,
        Bool.false_eq_true, if_false]
      omega
  | del packetId =>
      simp only [packetMachine, addCount, answerCount, dropSum, PacketOp.isAdd, List.countP_cons,
        List.countP_nil, List.map_cons, List.map_nil, List.sum_cons, List.sum_nil,
        Bool.false_eq_true, if_false]
      rcases state.1.packetListDel_sound sound packetId with missed | ⟨place, held, found⟩
      · rw [missed]
        refine ⟨sound, ?_⟩
        simp
      · have balance := state.1.clear_outstanding held
        rw [found]
        refine ⟨PacketList.clear_sound sound place, ?_⟩
        simp only [decide_eq_true held, if_true]
        omega

theorem run_balance {state : PacketList packetListLength × UInt64} (sound : state.1.Sound)
    {ops : List PacketOp} (sent : ∀ time ∈ sendTimes ops, time ≠ 0) :
    let reached := (packetMachine packetListLength).run state ops
    reached.1.1.Sound ∧
      addCount reached.2 + state.1.outstanding =
        answerCount reached.2 + dropSum reached.2 + reached.1.1.outstanding +
          losses state ops := by
  induction ops generalizing state with
  | nil => exact ⟨sound, (Nat.zero_add _).trans (Nat.zero_add _).symm⟩
  | cons op rest inductionHypothesis =>
      have here : ∀ time, op = .add time → time ≠ 0 := by
        rintro time rfl
        exact sent time List.mem_cons_self
      have others : ∀ time ∈ sendTimes rest, time ≠ 0 := by
        intro time member
        apply sent time
        cases op with
        | add first => exact List.mem_cons_of_mem _ member
        | del packetId => exact member
      rcases step_balance sound op here with ⟨next, first⟩
      rcases inductionHypothesis next others with ⟨finish, later⟩
      refine ⟨finish, ?_⟩
      rw [Machine.run, losses]
      dsimp only at later ⊢
      rw [addCount_append, answerCount_append, dropSum_append]
      omega

theorem zeroed_sound (positive : 0 < packetListLength) :
    (PacketList.zeroed packetListLength positive).Sound :=
  fun _ => Or.inl rfl

theorem zeroed_outstanding (positive : 0 < packetListLength) :
    (PacketList.zeroed packetListLength positive).outstanding = 0 :=
  occupied_free fun _ => rfl

theorem packetRun_balance (positive : 0 < packetListLength) {ops : List PacketOp}
    (sent : ∀ time ∈ sendTimes ops, time ≠ 0) :
    let reached := packetRun packetListLength positive ops
    reached.1.1.Sound ∧
      addCount reached.2 =
        answerCount reached.2 + dropSum reached.2 + reached.1.1.outstanding +
          losses (PacketList.zeroed packetListLength positive, 0) ops := by
  have sound : (PacketList.zeroed packetListLength positive, (0 : UInt64)).1.Sound :=
    zeroed_sound positive
  have balance := run_balance sound sent
  refine ⟨balance.1, ?_⟩
  have total := balance.2
  rw [zeroed_outstanding, Nat.add_zero] at total
  exact total

theorem sendTimes_of_isPrefix {before ops : List PacketOp} (initial : before <+: ops)
    (sent : ∀ time ∈ sendTimes ops, time ≠ 0) : ∀ time ∈ sendTimes before, time ≠ 0 := by
  intro time member
  rcases initial with ⟨rest, rfl⟩
  apply sent time
  rw [sendTimes, List.filterMap_append]
  exact List.mem_append_left _ member

/-- All packets are accounted for exactly when no unanswered packet of identifier
zero is overwritten. -/
theorem accounted_iff (positive : 0 < packetListLength) (ops : List PacketOp)
    (sent : ∀ time ∈ sendTimes ops, time ≠ 0) :
    Accounted packetListLength positive ops ↔ KeepsZero packetListLength positive ops := by
  have balance := (packetRun_balance positive sent).2
  unfold KeepsZero
  rw [← losses_eq_zero_iff]
  constructor
  · intro accounted
    have conserved := accounted.conserved
    omega
  · intro kept
    refine ⟨by omega, ?_, ?_⟩
    · intro before packetId _
      exact stepBack_lt (packetRun packetListLength positive before).1.1.packetListHead.isLt _
    · intro before packetId initial zero
      have earlier : before <+: ops := (List.prefix_append before _).trans initial
      have sound := (packetRun_balance positive (sendTimes_of_isPrefix earlier sent)).1
      rcases PacketList.packetListDel_sound _ sound packetId with missed | ⟨place, held, found⟩
      · rw [missed]
      · rw [found] at zero
        exact absurd zero held

/-- A full turn of a table of two slots in which the first packet is answered. -/
theorem accounted_iff_answered :
    Accounted 2 (by decide) [.add 10, .del 0, .add 20, .add 30] ↔
      KeepsZero 2 (by decide) [.add 10, .del 0, .add 20, .add 30] :=
  accounted_iff (by decide) [.add 10, .del 0, .add 20, .add 30] (by
    change ∀ time ∈ ([10, 20, 30] : List UInt64), time ≠ 0
    simp)

/-- The first of three packets is overwritten in a table of two slots, and no
drop is counted. -/
theorem firstPacket_uncounted :
    let reached := packetRun 2 (by decide) [.add 10, .add 20, .add 30]
    addCount reached.2 = 3 ∧ answerCount reached.2 = 0 ∧ dropSum reached.2 = 0 ∧
      reached.1.1.outstanding = 2 ∧ ¬ Accounted 2 (by decide) [.add 10, .add 20, .add 30] := by
  have figures : let reached := packetRun 2 (by decide) [.add 10, .add 20, .add 30]
      addCount reached.2 = 3 ∧ answerCount reached.2 = 0 ∧ dropSum reached.2 = 0 ∧
        reached.1.1.outstanding = 2 := by decide
  refine ⟨figures.1, figures.2.1, figures.2.2.1, figures.2.2.2, ?_⟩
  intro accounted
  exact absurd accounted.conserved (by decide)

end Latency
end Ipbench
