import Slog.Basic

/-! The multi-home batch log joins replicated batch data with the slot decisions of the
global consensus and hands the batches out in slot order, with no gap. -/

namespace Slog

/-- Modelled from the spec: `BatchLog` (§4.1), whose source is not among the modelled files.
Batches wait by id for their slot decision and decisions wait by slot for their data;
`nextSlot` is the next slot to hand out. A batch id or a slot that arrives a second time is
dropped, one of the two behaviours the spec admits for double delivery. -/
structure BatchLog where
  batches : List Batch
  slots : List (SlotId × BatchId)
  nextSlot : SlotId
  deriving DecidableEq, Repr

namespace BatchLog

def empty : BatchLog := ⟨[], [], 0⟩

def addBatch (log : BatchLog) (batch : Batch) : BatchLog :=
  if log.batches.any (·.id == batch.id) then log
  else { log with batches := log.batches ++ [batch] }

def addSlot (log : BatchLog) (slot : SlotId) (batchId : BatchId) : BatchLog :=
  if slot < log.nextSlot || log.slots.any (·.1 == slot) then log
  else { log with slots := log.slots ++ [(slot, batchId)] }

/-- The batch that fills `nextSlot`, once both its decision and its data are there. -/
def ready (log : BatchLog) : Option Batch :=
  (log.slots.lookup log.nextSlot).bind fun batchId => log.batches.find? (·.id == batchId)

def hasNextBatch (log : BatchLog) : Bool :=
  log.ready.isSome

/-- `NextBatch`: hands out the batch at `nextSlot` with its slot, forgets both, and moves on
to the following slot. -/
def nextBatch (log : BatchLog) : Option ((SlotId × Batch) × BatchLog) :=
  log.ready.map fun batch =>
    ((log.nextSlot, batch),
      { batches := log.batches.filter (·.id != batch.id)
        slots := log.slots.filter (·.1 != log.nextSlot)
        nextSlot := log.nextSlot + 1 })

/-- `while (HasNextBatch()) NextBatch()`, for at most `fuel` rounds. -/
def drainFor : Nat → BatchLog → List (SlotId × Batch) × BatchLog
  | 0, log => ([], log)
  | fuel + 1, log =>
    match log.nextBatch with
    | none => ([], log)
    | some (out, next) => let (rest, final) := drainFor fuel next; (out :: rest, final)

/-- The drain loop of `ProcessForwardBatch`. Every round forgets one slot decision, so
`slots.length` rounds reach the point where no batch is ready (`drain_hasNextBatch`). -/
def drain (log : BatchLog) : List (SlotId × Batch) × BatchLog :=
  drainFor log.slots.length log

theorem nextBatch_eq_none {log : BatchLog} : log.nextBatch = none ↔ log.hasNextBatch = false := by
  simp [nextBatch, hasNextBatch]

theorem drainFor_of_not_hasNextBatch {log : BatchLog} (idle : log.hasNextBatch = false) :
    ∀ fuel, drainFor fuel log = ([], log)
  | 0 => rfl
  | _ + 1 => by simp [drainFor, nextBatch_eq_none.mpr idle]

theorem nextBatch_slots_lt {log next : BatchLog} {out : SlotId × Batch}
    (found : log.nextBatch = some (out, next)) : next.slots.length < log.slots.length := by
  simp only [nextBatch, ready, Option.map_eq_some', Option.bind_eq_some, Prod.mk.injEq] at found
  obtain ⟨batch, ⟨batchId, decided, -⟩, -, rfl⟩ := found
  obtain ⟨before, after, split, -⟩ := List.lookup_eq_some_iff.mp decided
  have member : (log.nextSlot, batchId) ∈ log.slots := by simp [split]
  refine lt_of_le_of_ne (List.length_filter_le _ _) fun same => ?_
  simpa using List.filter_length_eq_length.mp same _ member

theorem drainFor_hasNextBatch (fuel : Nat) (log : BatchLog) (enough : log.slots.length ≤ fuel) :
    (drainFor fuel log).2.hasNextBatch = false := by
  induction fuel generalizing log with
  | zero =>
    have empty : log.slots = [] := List.eq_nil_of_length_eq_zero (by omega)
    simp [drainFor, hasNextBatch, ready, empty]
  | succ fuel ih =>
    cases found : log.nextBatch with
    | none => simpa [drainFor, found] using nextBatch_eq_none.mp found
    | some result =>
      have shorter := nextBatch_slots_lt found
      simpa [drainFor, found] using ih result.2 (by omega)

theorem drain_hasNextBatch (log : BatchLog) : log.drain.2.hasNextBatch = false :=
  drainFor_hasNextBatch _ log le_rfl

theorem drain_of_not_hasNextBatch {log : BatchLog} (idle : log.hasNextBatch = false) :
    log.drain = ([], log) :=
  drainFor_of_not_hasNextBatch idle _

@[simp] theorem addBatch_nextSlot (log : BatchLog) (batch : Batch) :
    (log.addBatch batch).nextSlot = log.nextSlot := by
  unfold addBatch
  split <;> rfl

@[simp] theorem addSlot_nextSlot (log : BatchLog) (slot : SlotId) (batchId : BatchId) :
    (log.addSlot slot batchId).nextSlot = log.nextSlot := by
  unfold addSlot
  split <;> rfl

theorem nextBatch_nextSlot {log next : BatchLog} {out : SlotId × Batch}
    (found : log.nextBatch = some (out, next)) : out.1 = log.nextSlot ∧ next.nextSlot = log.nextSlot + 1 := by
  simp only [nextBatch, Option.map_eq_some', Prod.mk.injEq] at found
  obtain ⟨_, -, rfl, rfl⟩ := found
  exact ⟨rfl, rfl⟩

/-- The drain hands out consecutive slots from `nextSlot` on, and moves `nextSlot` past them. -/
theorem drainFor_slots (fuel : Nat) (log : BatchLog) :
    (drainFor fuel log).1.map Prod.fst = List.range' log.nextSlot (drainFor fuel log).1.length ∧
    (drainFor fuel log).2.nextSlot = log.nextSlot + (drainFor fuel log).1.length := by
  induction fuel generalizing log with
  | zero => simp [drainFor]
  | succ fuel ih =>
    cases found : log.nextBatch with
    | none => simp [drainFor, found]
    | some result =>
      obtain ⟨slot, advanced⟩ := nextBatch_nextSlot found
      obtain ⟨ids, moved⟩ := ih result.2
      simp only [drainFor, found, List.map_cons, List.length_cons, List.range'_succ, slot, ids, advanced,
        moved]
      exact ⟨trivial, by rw [Nat.add_right_comm, Nat.add_assoc]⟩

theorem addBatch_batches_subset (log : BatchLog) (batch : Batch) :
    (log.addBatch batch).batches ⊆ batch :: log.batches := by
  unfold addBatch
  split
  · exact List.subset_cons_self _ _
  · simp [List.subset_def, or_comm]

@[simp] theorem addSlot_batches (log : BatchLog) (slot : SlotId) (batchId : BatchId) :
    (log.addSlot slot batchId).batches = log.batches := by
  unfold addSlot
  split <;> rfl

theorem nextBatch_batches {log next : BatchLog} {out : SlotId × Batch}
    (found : log.nextBatch = some (out, next)) : out.2 ∈ log.batches ∧ next.batches ⊆ log.batches := by
  simp only [nextBatch, ready, Option.map_eq_some', Option.bind_eq_some, Prod.mk.injEq] at found
  obtain ⟨batch, ⟨_, _, picked⟩, rfl, rfl⟩ := found
  exact ⟨List.mem_of_find?_eq_some picked, List.filter_subset' _⟩

/-- The drain hands out only batches the log holds, and keeps only some of them. -/
theorem drainFor_batches (fuel : Nat) (log : BatchLog) :
    (∀ out ∈ (drainFor fuel log).1, out.2 ∈ log.batches) ∧ (drainFor fuel log).2.batches ⊆ log.batches := by
  induction fuel generalizing log with
  | zero => simp [drainFor]
  | succ fuel ih =>
    cases found : log.nextBatch with
    | none => simp [drainFor, found]
    | some result =>
      obtain ⟨picked, kept⟩ := nextBatch_batches found
      obtain ⟨drained, final⟩ := ih result.2
      simp only [drainFor, found, List.mem_cons, forall_eq_or_imp]
      exact ⟨⟨picked, fun out member => kept (drained out member)⟩, fun _ member => kept (final member)⟩

@[simp] theorem addBatch_slots (log : BatchLog) (batch : Batch) : (log.addBatch batch).slots = log.slots := by
  unfold addBatch
  split <;> rfl

theorem addSlot_slots_subset (log : BatchLog) (slot : SlotId) (batchId : BatchId) :
    (log.addSlot slot batchId).slots ⊆ (slot, batchId) :: log.slots := by
  unfold addSlot
  split
  · exact List.subset_cons_self _ _
  · simp [List.subset_def, or_comm]

/-- The batch handed out is the one the slot entry for its slot names. -/
theorem nextBatch_slots {log next : BatchLog} {out : SlotId × Batch}
    (found : log.nextBatch = some (out, next)) : (out.1, out.2.id) ∈ log.slots ∧ next.slots ⊆ log.slots := by
  simp only [nextBatch, ready, Option.map_eq_some', Option.bind_eq_some, Prod.mk.injEq] at found
  obtain ⟨batch, ⟨batchId, named, picked⟩, rfl, rfl⟩ := found
  obtain ⟨before, after, entries, -⟩ := List.lookup_eq_some_iff.mp named
  have sameId : batch.id = batchId := by simpa using List.find?_some picked
  exact ⟨by simp [entries, sameId], List.filter_subset' _⟩

/-- The drain hands out each batch under a slot whose entry names it, and keeps only some
entries. -/
theorem drainFor_joined (fuel : Nat) (log : BatchLog) :
    (∀ out ∈ (drainFor fuel log).1, (out.1, out.2.id) ∈ log.slots) ∧ (drainFor fuel log).2.slots ⊆ log.slots := by
  induction fuel generalizing log with
  | zero => simp [drainFor]
  | succ fuel ih =>
    cases found : log.nextBatch with
    | none => simp [drainFor, found]
    | some result =>
      obtain ⟨named, kept⟩ := nextBatch_slots found
      obtain ⟨drained, final⟩ := ih result.2
      simp only [drainFor, found, List.mem_cons, forall_eq_or_imp]
      exact ⟨⟨named, fun out member => kept (drained out member)⟩, fun _ member => kept (final member)⟩

end BatchLog

end Slog
