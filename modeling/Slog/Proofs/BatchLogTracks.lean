import Slog.BatchLog
import Mathlib.Data.List.Nodup

/-! The batch log against what it was sent. With each slot decided once, each batch decided once
and each batch's data sent once, a log that tracks its decisions and data hands out, slot after
slot, the batch they name, whatever order they arrived in. -/

namespace Slog.Proofs.BatchLogTracks
open BatchLog

/-- The batch the decisions and data put at `slot`: the data of the batch decided for it.
`ready` is this, read off the log's own decisions and batches at `nextSlot`. -/
def decided (decisions : List (SlotId × BatchId)) (data : List Batch) (slot : SlotId) : Option Batch :=
  (decisions.lookup slot).bind fun batchId => data.find? (·.id == batchId)

theorem ready_eq_decided (log : BatchLog) : log.ready = decided log.slots log.batches log.nextSlot := rfl

theorem lookup_of_mem {entries : List (SlotId × BatchId)} {slot : SlotId} {batchId : BatchId}
    (member : (slot, batchId) ∈ entries) (unique : ∀ other, (slot, other) ∈ entries → other = batchId) :
    entries.lookup slot = some batchId := by
  induction entries with
  | nil => cases member
  | cons entry entries ih =>
    obtain ⟨key, value⟩ := entry
    by_cases same : slot = key
    · subst same
      simp [List.lookup_cons, unique value (.head _)]
    · rw [List.lookup_cons, beq_false_of_ne same]
      exact ih (by simpa [same] using member) fun other found => unique other (.tail _ found)

theorem find?_of_mem {data : List Batch} {batch : Batch} (member : batch ∈ data)
    (unique : ∀ other ∈ data, other.id = batch.id → other = batch) :
    data.find? (·.id == batch.id) = some batch := by
  cases found : data.find? (·.id == batch.id) with
  | none => simpa using List.find?_eq_none.mp found batch member
  | some other =>
    have sameId : other.id = batch.id := by simpa using List.find?_some found
    rw [unique other (List.mem_of_find?_eq_some found) sameId]

theorem mem_of_decided {decisions : List (SlotId × BatchId)} {data : List Batch} {slot batch}
    (found : decided decisions data slot = some batch) : (slot, batch.id) ∈ decisions ∧ batch ∈ data := by
  obtain ⟨batchId, decidedId, picked⟩ := Option.bind_eq_some.mp found
  have sameId : batch.id = batchId := by simpa using List.find?_some picked
  obtain ⟨before, after, rfl, -⟩ := List.lookup_eq_some_iff.mp decidedId
  exact ⟨by simp [sameId], List.mem_of_find?_eq_some picked⟩

theorem decided_eq_some_iff {decisions : List (SlotId × BatchId)} {data : List Batch} {slot batch}
    (oneDecision : ∀ first second, (slot, first) ∈ decisions → (slot, second) ∈ decisions → first = second)
    (oneBatch : ∀ first ∈ data, ∀ second ∈ data, first.id = second.id → first = second) :
    decided decisions data slot = some batch ↔ (slot, batch.id) ∈ decisions ∧ batch ∈ data := by
  refine ⟨mem_of_decided, fun ⟨decidedId, member⟩ => Option.bind_eq_some.mpr ?_⟩
  exact ⟨batch.id, lookup_of_mem decidedId fun other found => oneDecision _ _ found decidedId,
    find?_of_mem member fun other otherMember => oneBatch other otherMember batch member⟩

theorem decided_eq_some_iff_of_nodup {decisions : List (SlotId × BatchId)} {data : List Batch} {slot batch}
    (slotKeys : (decisions.map Prod.fst).Nodup) (dataIds : (data.map Batch.id).Nodup) :
    decided decisions data slot = some batch ↔ (slot, batch.id) ∈ decisions ∧ batch ∈ data :=
  decided_eq_some_iff (fun _ _ first second => (Prod.mk.inj (List.inj_on_of_nodup_map slotKeys first second rfl)).2)
    (fun _ first _ second same => List.inj_on_of_nodup_map dataIds first second same)

theorem decided_mono {decisions more : List (SlotId × BatchId)} {data moreData : List Batch} {slot batch}
    (slotKeys : (more.map Prod.fst).Nodup) (dataIds : (moreData.map Batch.id).Nodup)
    (decisionsWithin : ∀ entry ∈ decisions, entry ∈ more) (dataWithin : ∀ other ∈ data, other ∈ moreData)
    (found : decided decisions data slot = some batch) : decided more moreData slot = some batch :=
  (decided_eq_some_iff_of_nodup slotKeys dataIds).mpr
    ⟨decisionsWithin _ (mem_of_decided found).1, dataWithin _ (mem_of_decided found).2⟩

theorem decided_isSome_mono {decisions more : List (SlotId × BatchId)} {data moreData : List Batch} {slot}
    (slotKeys : (more.map Prod.fst).Nodup) (dataIds : (moreData.map Batch.id).Nodup)
    (decisionsWithin : ∀ entry ∈ decisions, entry ∈ more) (dataWithin : ∀ other ∈ data, other ∈ moreData)
    (filled : (decided decisions data slot).isSome) : (decided more moreData slot).isSome := by
  obtain ⟨batch, found⟩ := Option.isSome_iff_exists.mp filled
  rw [decided_mono slotKeys dataIds decisionsWithin dataWithin found]
  rfl

theorem decided_perm {decisions others : List (SlotId × BatchId)} {data otherData : List Batch}
    (sameDecisions : decisions.Perm others) (sameData : data.Perm otherData)
    (slotKeys : (decisions.map Prod.fst).Nodup) (dataIds : (data.map Batch.id).Nodup) (slot : SlotId) :
    decided decisions data slot = decided others otherData slot := by
  have otherKeys := (sameDecisions.map Prod.fst).nodup_iff.mp slotKeys
  have otherIds := (sameData.map Batch.id).nodup_iff.mp dataIds
  refine Option.ext fun batch => ?_
  rw [Option.mem_def, Option.mem_def]
  exact ⟨decided_mono otherKeys otherIds (fun _ => sameDecisions.mem_iff.mp) (fun _ => sameData.mem_iff.mp),
    decided_mono slotKeys dataIds (fun _ => sameDecisions.mem_iff.mpr) (fun _ => sameData.mem_iff.mpr)⟩

theorem map_ne_of_nodup_append {α β : Type} {f : α → β} {values : List α} {last : α}
    (nodup : ((values ++ [last]).map f).Nodup) {value : α} (member : value ∈ values) : f value ≠ f last := by
  rw [List.map_append, List.nodup_append] at nodup
  exact fun same => nodup.2.2 (List.mem_map_of_mem f member) (by simp [same])

/-! ### The invariant -/

/-- The log holds what it was sent and has not handed out: the decisions for slots from
`nextSlot` on, and the batches no slot below `nextSlot` was decided for. Every slot below
`nextSlot` has both its decision and its data. The decisions name each slot and each batch once,
and the data each batch once. -/
structure Tracks (decisions : List (SlotId × BatchId)) (data : List Batch) (log : BatchLog) : Prop where
  slotKeys : (decisions.map Prod.fst).Nodup
  batchKeys : (decisions.map Prod.snd).Nodup
  dataIds : (data.map Batch.id).Nodup
  filled : ∀ slot < log.nextSlot, (decided decisions data slot).isSome
  slots : ∀ entry, entry ∈ log.slots ↔ entry ∈ decisions ∧ log.nextSlot ≤ entry.1
  batches : ∀ batch, batch ∈ log.batches ↔ batch ∈ data ∧ ∀ slot < log.nextSlot, (slot, batch.id) ∉ decisions

variable {decisions : List (SlotId × BatchId)} {data : List Batch} {log : BatchLog}

theorem Tracks.empty : Tracks [] [] .empty :=
  ⟨List.nodup_nil, List.nodup_nil, List.nodup_nil, by simp [BatchLog.empty], by simp [BatchLog.empty],
    by simp [BatchLog.empty]⟩

namespace Tracks

theorem decided_eq_some_iff (tracks : Tracks decisions data log) {slot batch} :
    decided decisions data slot = some batch ↔ (slot, batch.id) ∈ decisions ∧ batch ∈ data :=
  decided_eq_some_iff_of_nodup tracks.slotKeys tracks.dataIds

theorem oneDecision (tracks : Tracks decisions data log) {slot : SlotId} {first second : BatchId}
    (firstDecided : (slot, first) ∈ decisions) (secondDecided : (slot, second) ∈ decisions) :
    first = second :=
  (Prod.mk.inj (List.inj_on_of_nodup_map tracks.slotKeys firstDecided secondDecided rfl)).2

theorem oneSlot (tracks : Tracks decisions data log) {first second : SlotId} {batchId : BatchId}
    (firstDecided : (first, batchId) ∈ decisions) (secondDecided : (second, batchId) ∈ decisions) :
    first = second :=
  (Prod.mk.inj (List.inj_on_of_nodup_map tracks.batchKeys firstDecided secondDecided rfl)).1

theorem ready_eq (tracks : Tracks decisions data log) : log.ready = decided decisions data log.nextSlot := by
  refine Option.ext fun batch => ?_
  rw [Option.mem_def, Option.mem_def, ready_eq_decided, BatchLogTracks.decided_eq_some_iff
    (fun _ _ first second => (Prod.mk.inj (List.inj_on_of_nodup_map tracks.slotKeys
      ((tracks.slots _).mp first).1 ((tracks.slots _).mp second).1 rfl)).2)
    (fun _ first _ second same => List.inj_on_of_nodup_map tracks.dataIds
      ((tracks.batches _).mp first).1 ((tracks.batches _).mp second).1 same),
    tracks.decided_eq_some_iff, tracks.slots, tracks.batches]
  constructor
  · rintro ⟨⟨decidedId, -⟩, member, -⟩
    exact ⟨decidedId, member⟩
  · rintro ⟨decidedId, member⟩
    exact ⟨⟨decidedId, le_rfl⟩, member, fun slot below earlier =>
      absurd (tracks.oneSlot earlier decidedId) (Nat.ne_of_lt below)⟩

/-! ### What each operation keeps -/

theorem slotAdded (tracks : Tracks decisions data log) {slot : SlotId} {batchId : BatchId}
    (slotKeys : ((decisions ++ [(slot, batchId)]).map Prod.fst).Nodup)
    (batchKeys : ((decisions ++ [(slot, batchId)]).map Prod.snd).Nodup) :
    Tracks (decisions ++ [(slot, batchId)]) data (log.addSlot slot batchId) := by
  have fresh : ∀ other, (slot, other) ∉ decisions := fun _ member =>
    map_ne_of_nodup_append slotKeys member rfl
  have above : log.nextSlot ≤ slot := Nat.le_of_not_lt fun below => by
    obtain ⟨batch, found⟩ := Option.isSome_iff_exists.mp (tracks.filled slot below)
    exact fresh _ (tracks.decided_eq_some_iff.mp found).1
  have kept : log.addSlot slot batchId = { log with slots := log.slots ++ [(slot, batchId)] } := by
    unfold addSlot
    rw [if_neg]
    simp only [Bool.or_eq_true, decide_eq_true_eq, List.any_eq_true, beq_iff_eq, not_or, not_exists, not_and]
    exact ⟨Nat.not_lt.mpr above, fun ⟨key, value⟩ member same =>
      fresh value (same ▸ ((tracks.slots _).mp member).1)⟩
  rw [kept]
  refine ⟨slotKeys, batchKeys, tracks.dataIds, fun earlier below => decided_isSome_mono slotKeys tracks.dataIds
    (fun _ => List.mem_append_left _) (fun _ => id) (tracks.filled earlier below), fun entry => ?_, fun batch => ?_⟩
  · simp only [List.mem_append, List.mem_singleton, tracks.slots]
    constructor
    · rintro (⟨member, after⟩ | rfl)
      · exact ⟨.inl member, after⟩
      · exact ⟨.inr rfl, above⟩
    · rintro ⟨member | rfl, after⟩
      · exact .inl ⟨member, after⟩
      · exact .inr rfl
  · simp only [tracks.batches, List.mem_append, List.mem_singleton, not_or]
    constructor
    · rintro ⟨member, unconsumed⟩
      exact ⟨member, fun earlier below => ⟨unconsumed earlier below, fun same => by
        cases same
        exact absurd above (Nat.not_le.mpr below)⟩⟩
    · rintro ⟨member, unconsumed⟩
      exact ⟨member, fun earlier below => (unconsumed earlier below).1⟩

theorem batchAdded (tracks : Tracks decisions data log) {batch : Batch}
    (dataIds : ((data ++ [batch]).map Batch.id).Nodup) :
    Tracks decisions (data ++ [batch]) (log.addBatch batch) := by
  have fresh : ∀ other ∈ data, other.id ≠ batch.id := fun _ member =>
    map_ne_of_nodup_append dataIds member
  have unconsumed : ∀ slot < log.nextSlot, (slot, batch.id) ∉ decisions := fun slot below decidedId => by
    obtain ⟨other, found⟩ := Option.isSome_iff_exists.mp (tracks.filled slot below)
    obtain ⟨otherDecided, member⟩ := tracks.decided_eq_some_iff.mp found
    exact fresh other member (tracks.oneDecision otherDecided decidedId)
  have kept : log.addBatch batch = { log with batches := log.batches ++ [batch] } := by
    unfold addBatch
    rw [if_neg]
    simp only [List.any_eq_true, beq_iff_eq, not_exists, not_and]
    exact fun other member same => fresh other ((tracks.batches other).mp member).1 same
  rw [kept]
  refine ⟨tracks.slotKeys, tracks.batchKeys, dataIds, fun slot below => decided_isSome_mono tracks.slotKeys dataIds
    (fun _ => id) (fun _ => List.mem_append_left _) (tracks.filled slot below), tracks.slots, fun other => ?_⟩
  · simp only [List.mem_append, List.mem_singleton, tracks.batches]
    constructor
    · rintro (⟨member, earlier⟩ | rfl)
      · exact ⟨.inl member, earlier⟩
      · exact ⟨.inr rfl, unconsumed⟩
    · rintro ⟨member | rfl, earlier⟩
      · exact .inl ⟨member, earlier⟩
      · exact .inr rfl

theorem handedOut (tracks : Tracks decisions data log) {out : SlotId × Batch} {next : BatchLog}
    (found : log.nextBatch = some (out, next)) :
    out.1 = log.nextSlot ∧ decided decisions data log.nextSlot = some out.2 ∧ Tracks decisions data next := by
  simp only [BatchLog.nextBatch, Option.map_eq_some', Prod.mk.injEq] at found
  obtain ⟨batch, ready, rfl, rfl⟩ := found
  rw [tracks.ready_eq] at ready
  obtain ⟨decidedId, -⟩ := tracks.decided_eq_some_iff.mp ready
  refine ⟨rfl, ready, tracks.slotKeys, tracks.batchKeys, tracks.dataIds, fun slot below => ?_,
    fun entry => ?_, fun other => ?_⟩
  · rcases Nat.lt_succ_iff_lt_or_eq.mp below with earlier | rfl
    · exact tracks.filled slot earlier
    · simp [ready]
  · simp only [List.mem_filter, tracks.slots, bne_iff_ne, ne_eq, and_assoc]
    exact and_congr_right fun _ => by rw [Nat.succ_le_iff, Nat.lt_iff_le_and_ne, ne_comm]
  · simp only [List.mem_filter, tracks.batches, bne_iff_ne, ne_eq]
    constructor
    · rintro ⟨⟨member, unconsumed⟩, differs⟩
      refine ⟨member, fun slot below decidedAt => ?_⟩
      rcases Nat.lt_succ_iff_lt_or_eq.mp below with earlier | rfl
      · exact unconsumed slot earlier decidedAt
      · exact differs (tracks.oneDecision decidedAt decidedId)
    · rintro ⟨member, unconsumed⟩
      exact ⟨⟨member, fun slot below => unconsumed slot (Nat.lt_succ_of_lt below)⟩,
        fun same => unconsumed _ (Nat.lt_succ_self _) (same ▸ decidedId)⟩

/-- The drain hands out, slot after slot from `nextSlot`, the batches the decisions and data put
there, and the log then tracks them from the slot after the last one handed out. -/
theorem drained (tracks : Tracks decisions data log) (fuel : Nat) :
    Tracks decisions data (BatchLog.drainFor fuel log).2 ∧ ∃ count,
      (BatchLog.drainFor fuel log).2.nextSlot = log.nextSlot + count ∧
      (BatchLog.drainFor fuel log).1 =
        (List.range' log.nextSlot count).filterMap fun slot => (decided decisions data slot).map (slot, ·) := by
  induction fuel generalizing log with
  | zero => exact ⟨tracks, 0, rfl, rfl⟩
  | succ fuel ih =>
    cases found : log.nextBatch with
    | none =>
      simp only [BatchLog.drainFor, found]
      exact ⟨tracks, 0, rfl, rfl⟩
    | some result =>
      obtain ⟨⟨slot, batch⟩, next⟩ := result
      obtain ⟨handedSlot, ready, nextTracks⟩ := tracks.handedOut found
      obtain ⟨finalTracks, count, finalSlot, outs⟩ := ih nextTracks
      have moved := (BatchLog.nextBatch_nextSlot found).2
      dsimp only at handedSlot ready moved
      subst handedSlot
      refine ⟨by simpa [BatchLog.drainFor, found] using finalTracks, count + 1, ?_, ?_⟩
      · simp only [BatchLog.drainFor, found, finalSlot, moved, Nat.add_right_comm, Nat.add_assoc]
      · simp only [BatchLog.drainFor, found, outs, moved, List.range'_succ, List.filterMap_cons, ready,
          Option.map_some']

end Tracks

end Slog.Proofs.BatchLogTracks
