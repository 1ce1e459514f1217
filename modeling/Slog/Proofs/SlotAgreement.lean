import Slog.Proofs.SequencerOrder
import Slog.Proofs.BatchLogTracks

/-! What the orderer hands the sequencer is fixed by the slot decisions and the batch data it
received, never by their arrival order: the decided log, up to the first slot not yet filled.
Two regions that receive from one global set of decisions and data hand their sequencers
prefixes of one log. -/

namespace Slog.Proofs.SlotAgreement
open MultiHomeOrderer SequencerOrder BatchLogTracks

variable {constants : Constants} {config : Configuration}

def decisions (inputs : List Input) : List (SlotId × BatchId) :=
  inputs.filterMap fun
    | .request (.forwardBatch (.batchOrder slot batchId)) => some (slot, batchId)
    | _ => none

theorem decisions_cons (input : Input) (inputs : List Input) :
    decisions (input :: inputs) = decisions [input] ++ decisions inputs := by
  simp only [decisions, List.filterMap_cons, List.filterMap_nil]
  split <;> rfl

/-- The decided log over `count` slots from `start`: each filled slot's batch, under its slot. -/
def decidedLog (known : List (SlotId × BatchId)) (arrived : List Batch) (start count : Nat) : List Batch :=
  (List.range' start count).filterMap fun slot =>
    (decided known arrived slot).map fun batch => { batch with id := slot }

variable {known : List (SlotId × BatchId)} {arrived : List Batch}

theorem decidedLog_append (start count more : Nat) :
    decidedLog known arrived start (count + more) =
      decidedLog known arrived start count ++ decidedLog known arrived (start + count) more := by
  rw [decidedLog, Nat.add_comm count more, ← List.range'_append_1, List.filterMap_append]
  rfl

theorem decidedLog_grow {more : List (SlotId × BatchId)} {moreData : List Batch} {start count : Nat}
    (filled : ∀ slot < start + count, (decided known arrived slot).isSome)
    (slotKeys : (more.map Prod.fst).Nodup) (dataIds : (moreData.map Batch.id).Nodup)
    (decisionsWithin : ∀ entry ∈ known, entry ∈ more) (dataWithin : ∀ batch ∈ arrived, batch ∈ moreData) :
    decidedLog more moreData start count = decidedLog known arrived start count := by
  refine List.filterMap_congr fun slot member => ?_
  obtain ⟨batch, found⟩ :=
    Option.isSome_iff_exists.mp (filled slot (List.mem_range'_1.mp member).2)
  rw [found, decided_mono slotKeys dataIds decisionsWithin dataWithin found]

theorem drain_tracks {log : BatchLog} (tracks : Tracks known arrived log) :
    Tracks known arrived log.drain.2 ∧ ∃ count, log.drain.2.nextSlot = log.nextSlot + count ∧
      sequenced constants (log.drain.1.map fun (slot, batch) =>
        ⟨.localChannel, constants.kSequencerChannel, .forwardBatch (.batchData { batch with id := slot })⟩) =
        decidedLog known arrived log.nextSlot count := by
  obtain ⟨drained, count, moved, outs⟩ := tracks.drained log.slots.length
  refine ⟨drained, count, moved, ?_⟩
  rw [sequenced_drained, BatchLog.drain, outs, List.map_filterMap]
  simp only [Option.map_map, Function.comp_def, decidedLog]

theorem processForwardBatch_tracks {orderer next : MultiHomeOrderer} {part : ForwardBatchPart}
    {sent : List Message} (processed : processForwardBatch constants orderer part = (next, sent))
    (tracks : Tracks known arrived orderer.multiHomeBatchLog)
    (slotKeys : ((known ++ decisions [.request (.forwardBatch part)]).map Prod.fst).Nodup)
    (batchKeys : ((known ++ decisions [.request (.forwardBatch part)]).map Prod.snd).Nodup)
    (dataIds : ((arrived ++ replicated [.request (.forwardBatch part)]).map Batch.id).Nodup) :
    Tracks (known ++ decisions [.request (.forwardBatch part)])
        (arrived ++ replicated [.request (.forwardBatch part)]) next.multiHomeBatchLog ∧
      ∃ count, next.multiHomeBatchLog.nextSlot = orderer.multiHomeBatchLog.nextSlot + count ∧
        sequenced constants sent = decidedLog (known ++ decisions [.request (.forwardBatch part)])
          (arrived ++ replicated [.request (.forwardBatch part)]) orderer.multiHomeBatchLog.nextSlot count := by
  obtain ⟨rfl, rfl⟩ := Prod.ext_iff.mp processed.symm
  cases part with
  | batchData batch =>
    have added : Tracks known (arrived ++ [batch]) (orderer.multiHomeBatchLog.addBatch batch) :=
      tracks.batchAdded (by simpa [replicated] using dataIds)
    simpa [processForwardBatch, decisions, replicated, BatchLog.addBatch_nextSlot] using
      @drain_tracks constants _ _ _ added
  | batchOrder slot batchId =>
    have added : Tracks (known ++ [(slot, batchId)]) arrived (orderer.multiHomeBatchLog.addSlot slot batchId) :=
      tracks.slotAdded (by simpa [decisions] using slotKeys) (by simpa [decisions] using batchKeys)
    simpa [processForwardBatch, decisions, replicated, BatchLog.addSlot_nextSlot] using
      @drain_tracks constants _ _ _ added
  | localBatchOrder | partNotSet =>
    simpa [processForwardBatch, decisions, replicated] using @drain_tracks constants _ _ _ tracks

theorem handle_of_not_forwardBatch {orderer next : MultiHomeOrderer} {input : Input} {sent : List Message}
    (stepped : handle constants config orderer input = some (next, sent))
    (other : ∀ part, input ≠ .request (.forwardBatch part)) :
    decisions [input] = [] ∧ replicated [input] = [] ∧
      next.multiHomeBatchLog = orderer.multiHomeBatchLog ∧ sequenced constants sent = [] := by
  have carried : decisions [input] = [] ∧ replicated [input] = [] := by
    rcases input with (_ | part | _ | _) | _
    · exact ⟨rfl, rfl⟩
    · exact absurd rfl (other part)
    all_goals exact ⟨rfl, rfl⟩
  rcases handle_cases stepped with ⟨-, -, rfl, rfl⟩ | ⟨part, forwarded, -⟩ | ⟨-, -, rfl, rfl⟩ | ⟨rfl, rfl, -⟩
  · exact ⟨carried.1, carried.2, rfl, rfl⟩
  · exact absurd forwarded (other part)
  · exact ⟨carried.1, carried.2, rfl, sequenced_proposeAndReplicate _⟩
  · exact ⟨carried.1, carried.2, rfl, rfl⟩

theorem handle_tracks {orderer next : MultiHomeOrderer} {input : Input} {sent : List Message}
    (stepped : handle constants config orderer input = some (next, sent))
    (tracks : Tracks known arrived orderer.multiHomeBatchLog)
    (slotKeys : ((known ++ decisions [input]).map Prod.fst).Nodup)
    (batchKeys : ((known ++ decisions [input]).map Prod.snd).Nodup)
    (dataIds : ((arrived ++ replicated [input]).map Batch.id).Nodup) :
    Tracks (known ++ decisions [input]) (arrived ++ replicated [input]) next.multiHomeBatchLog ∧
      ∃ count, next.multiHomeBatchLog.nextSlot = orderer.multiHomeBatchLog.nextSlot + count ∧
        sequenced constants sent =
          decidedLog (known ++ decisions [input]) (arrived ++ replicated [input])
            orderer.multiHomeBatchLog.nextSlot count := by
  by_cases forwarded : ∃ part, input = .request (.forwardBatch part)
  · obtain ⟨part, rfl⟩ := forwarded
    exact processForwardBatch_tracks (by simpa [handle, handleInternalRequest] using stepped)
      tracks slotKeys batchKeys dataIds
  · obtain ⟨noDecision, noData, sameLog, nothing⟩ :=
      handle_of_not_forwardBatch stepped (not_exists.mp forwarded)
    rw [noDecision, noData, List.append_nil, List.append_nil, sameLog, nothing]
    exact ⟨tracks, 0, rfl, rfl⟩

theorem nodup_map_of_append {α β : Type} {f : α → β} {first rest : List α}
    (nodup : ((first ++ rest).map f).Nodup) : (first.map f).Nodup :=
  nodup.sublist ((List.sublist_append_left _ _).map f)

theorem run_tracks {orderer final : MultiHomeOrderer} {inputs : List Input} {sent : List Message}
    (ran : run constants config orderer inputs = some (final, sent))
    (tracks : Tracks known arrived orderer.multiHomeBatchLog)
    (slotKeys : ((known ++ decisions inputs).map Prod.fst).Nodup)
    (batchKeys : ((known ++ decisions inputs).map Prod.snd).Nodup)
    (dataIds : ((arrived ++ replicated inputs).map Batch.id).Nodup) :
    Tracks (known ++ decisions inputs) (arrived ++ replicated inputs) final.multiHomeBatchLog ∧
      ∃ count, final.multiHomeBatchLog.nextSlot = orderer.multiHomeBatchLog.nextSlot + count ∧
        sequenced constants sent =
          decidedLog (known ++ decisions inputs) (arrived ++ replicated inputs)
            orderer.multiHomeBatchLog.nextSlot count := by
  induction inputs generalizing orderer sent known arrived with
  | nil =>
    simp only [run, Option.some.injEq, Prod.mk.injEq] at ran
    obtain ⟨rfl, rfl⟩ := ran
    exact ⟨by simpa [decisions, replicated] using tracks, 0, rfl, rfl⟩
  | cons input inputs ih =>
    obtain ⟨next, first, rest, stepped, continued, rfl⟩ := run_cons ran
    rw [decisions_cons, ← List.append_assoc] at slotKeys batchKeys ⊢
    rw [replicated_cons, ← List.append_assoc] at dataIds ⊢
    obtain ⟨nextTracks, count, moved, firstOut⟩ := handle_tracks stepped tracks
      (nodup_map_of_append slotKeys) (nodup_map_of_append batchKeys) (nodup_map_of_append dataIds)
    obtain ⟨finalTracks, more, finalMoved, restOut⟩ := ih continued nextTracks slotKeys batchKeys dataIds
    have grown := decidedLog_grow (moved ▸ nextTracks.filled) slotKeys dataIds
      (fun _ => List.mem_append_left _) (fun _ => List.mem_append_left _)
    refine ⟨finalTracks, count + more, by rw [finalMoved, moved, Nat.add_assoc], ?_⟩
    rw [sequenced_append, firstOut, restOut, moved, decidedLog_append, grown]

theorem run_reachable {orderer final : MultiHomeOrderer} {inputs : List Input} {sent : List Message}
    (reachable : Reachable constants config orderer)
    (ran : run constants config orderer inputs = some (final, sent)) : Reachable constants config final := by
  induction inputs generalizing orderer sent with
  | nil =>
    simp only [run, Option.some.injEq, Prod.mk.injEq] at ran
    exact ran.1 ▸ reachable
  | cons input inputs ih =>
    obtain ⟨next, first, rest, stepped, continued, -⟩ := run_cons ran
    exact ih (reachable.step stepped) continued

theorem run_init_tracks {final : MultiHomeOrderer} {inputs : List Input} {sent : List Message}
    (ran : run constants config init inputs = some (final, sent))
    (slotsOnce : ((decisions inputs).map Prod.fst).Nodup)
    (batchesOnce : ((decisions inputs).map Prod.snd).Nodup)
    (dataOnce : ((replicated inputs).map Batch.id).Nodup) :
    Tracks (decisions inputs) (replicated inputs) final.multiHomeBatchLog ∧
      decided (decisions inputs) (replicated inputs) final.multiHomeBatchLog.nextSlot = none ∧
      sequenced constants sent =
        decidedLog (decisions inputs) (replicated inputs) 0 final.multiHomeBatchLog.nextSlot := by
  obtain ⟨tracks, count, moved, out⟩ := run_tracks ran Tracks.empty slotsOnce batchesOnce dataOnce
  have idle := (run_reachable .initial ran).invariant.drained
  rw [BatchLog.hasNextBatch, tracks.ready_eq, Option.not_isSome, Option.isNone_iff_eq_none] at idle
  refine ⟨tracks, idle, ?_⟩
  rw [out, moved]
  exact congrArg (decidedLog _ _ 0) (Nat.zero_add count).symm

/-- Over every run from the initial state in which each slot is decided once, each batch is
decided once and each batch's data arrives once, the sequencer receives the decided log from
slot 0 to the log's next slot: every slot below it is filled, the next one is not, and each
filled slot's batch comes under its slot, in slot order. -/
theorem sequencer_receives_decided_log {final : MultiHomeOrderer} {inputs : List Input}
    {sent : List Message} (ran : run constants config init inputs = some (final, sent))
    (slotsOnce : ((decisions inputs).map Prod.fst).Nodup)
    (batchesOnce : ((decisions inputs).map Prod.snd).Nodup)
    (dataOnce : ((replicated inputs).map Batch.id).Nodup) :
    (∀ slot < final.multiHomeBatchLog.nextSlot, (decided (decisions inputs) (replicated inputs) slot).isSome) ∧
      decided (decisions inputs) (replicated inputs) final.multiHomeBatchLog.nextSlot = none ∧
      sequenced constants sent =
        decidedLog (decisions inputs) (replicated inputs) 0 final.multiHomeBatchLog.nextSlot :=
  let ⟨tracks, gap, out⟩ := run_init_tracks ran slotsOnce batchesOnce dataOnce
  ⟨tracks.filled, gap, out⟩

theorem sequencer_receives_decided_log_out_of_order :
    let constants : Constants := ⟨1000, 8, 4, 3⟩
    let config : Configuration :=
      ⟨2, 1, 0, 0, fun replica partition => replica + partition, fun _ => [], .simplePartitioning⟩
    let inputs : List Input :=
      [.request (.forwardBatch (.batchOrder 1 7)), .request (.forwardBatch (.batchData ⟨5, .multiHome, []⟩)),
        .request (.forwardBatch (.batchOrder 0 5)), .request (.forwardBatch (.batchData ⟨7, .multiHome, []⟩))]
    ∃ final sent, run constants config init inputs = some (final, sent) ∧
      ((decisions inputs).map Prod.fst).Nodup ∧ ((decisions inputs).map Prod.snd).Nodup ∧
      ((replicated inputs).map Batch.id).Nodup ∧
      (∀ slot < final.multiHomeBatchLog.nextSlot, (decided (decisions inputs) (replicated inputs) slot).isSome) ∧
      decided (decisions inputs) (replicated inputs) final.multiHomeBatchLog.nextSlot = none ∧
      sequenced constants sent =
        decidedLog (decisions inputs) (replicated inputs) 0 final.multiHomeBatchLog.nextSlot := by
  intro constants config inputs
  have slotsOnce : ((decisions inputs).map Prod.fst).Nodup := by decide
  have batchesOnce : ((decisions inputs).map Prod.snd).Nodup := by decide
  have dataOnce : ((replicated inputs).map Batch.id).Nodup := by decide
  exact ⟨_, _, rfl, slotsOnce, batchesOnce, dataOnce,
    @sequencer_receives_decided_log constants config _ inputs _ rfl slotsOnce batchesOnce dataOnce⟩

/-! ### Agreement between regions -/

theorem eq_of_first_gap {fill : SlotId → Option Batch} {first second : SlotId}
    (filledFirst : ∀ slot < first, (fill slot).isSome) (gapFirst : fill first = none)
    (filledSecond : ∀ slot < second, (fill slot).isSome) (gapSecond : fill second = none) :
    first = second :=
  Nat.le_antisymm (Nat.le_of_not_lt fun below => by simpa [gapSecond] using filledFirst _ below)
    (Nat.le_of_not_lt fun below => by simpa [gapFirst] using filledSecond _ below)

/-- Two orderers that receive the same slot decisions and the same batch data, in any order and
among any other inputs, hand their sequencers the same batches under the same slots, whatever
their constants and configurations. -/
theorem sequencers_agree_on_any_arrival_order {constants₁ constants₂ : Constants}
    {config₁ config₂ : Configuration} {final₁ final₂ : MultiHomeOrderer} {inputs₁ inputs₂ : List Input}
    {sent₁ sent₂ : List Message}
    (ran₁ : run constants₁ config₁ init inputs₁ = some (final₁, sent₁))
    (ran₂ : run constants₂ config₂ init inputs₂ = some (final₂, sent₂))
    (sameDecisions : (decisions inputs₁).Perm (decisions inputs₂))
    (sameData : (replicated inputs₁).Perm (replicated inputs₂))
    (slotsOnce : ((decisions inputs₁).map Prod.fst).Nodup)
    (batchesOnce : ((decisions inputs₁).map Prod.snd).Nodup)
    (dataOnce : ((replicated inputs₁).map Batch.id).Nodup) :
    sequenced constants₁ sent₁ = sequenced constants₂ sent₂ := by
  have same := decided_perm sameDecisions sameData slotsOnce dataOnce
  obtain ⟨tracks₁, gap₁, out₁⟩ := run_init_tracks ran₁ slotsOnce batchesOnce dataOnce
  obtain ⟨tracks₂, gap₂, out₂⟩ := run_init_tracks ran₂ ((sameDecisions.map _).nodup_iff.mp slotsOnce)
    ((sameDecisions.map _).nodup_iff.mp batchesOnce) ((sameData.map _).nodup_iff.mp dataOnce)
  have sameSlot := eq_of_first_gap tracks₁.filled gap₁
    (fun slot below => by rw [same]; exact tracks₂.filled slot below) ((same _).trans gap₂)
  rw [out₁, out₂, sameSlot]
  simp only [decidedLog, same]

theorem sequencers_agree_on_two_arrival_orders :
    let constants : Constants := ⟨1000, 8, 4, 3⟩
    let config₁ : Configuration :=
      ⟨2, 1, 0, 0, fun replica partition => replica + partition, fun _ => [], .simplePartitioning⟩
    let config₂ : Configuration :=
      ⟨2, 1, 1, 0, fun replica partition => replica + partition, fun _ => [], .simplePartitioning⟩
    let inputs₁ : List Input :=
      [.request (.forwardBatch (.batchOrder 1 7)), .request (.forwardBatch (.batchData ⟨5, .multiHome, []⟩)),
        .request (.forwardBatch (.batchOrder 0 5)), .request (.forwardBatch (.batchData ⟨7, .multiHome, []⟩))]
    let inputs₂ : List Input :=
      [.request (.forwardBatch (.batchData ⟨7, .multiHome, []⟩)), .tick true,
        .request (.forwardBatch (.batchOrder 0 5)), .request .other,
        .request (.forwardBatch (.batchData ⟨5, .multiHome, []⟩)), .request (.forwardBatch (.batchOrder 1 7))]
    ∃ final₁ sent₁ final₂ sent₂, run constants config₁ init inputs₁ = some (final₁, sent₁) ∧
      run constants config₂ init inputs₂ = some (final₂, sent₂) ∧
      (decisions inputs₁).Perm (decisions inputs₂) ∧ (replicated inputs₁).Perm (replicated inputs₂) ∧
      ((decisions inputs₁).map Prod.fst).Nodup ∧ ((decisions inputs₁).map Prod.snd).Nodup ∧
      ((replicated inputs₁).map Batch.id).Nodup ∧ sequenced constants sent₁ = sequenced constants sent₂ := by
  intro constants config₁ config₂ inputs₁ inputs₂
  have sameDecisions : (decisions inputs₁).Perm (decisions inputs₂) := by decide
  have sameData : (replicated inputs₁).Perm (replicated inputs₂) := by decide
  have slotsOnce : ((decisions inputs₁).map Prod.fst).Nodup := by decide
  have batchesOnce : ((decisions inputs₁).map Prod.snd).Nodup := by decide
  have dataOnce : ((replicated inputs₁).map Batch.id).Nodup := by decide
  exact ⟨_, _, _, _, rfl, rfl, sameDecisions, sameData, slotsOnce, batchesOnce, dataOnce,
    @sequencers_agree_on_any_arrival_order constants constants config₁ config₂ _ _ inputs₁ inputs₂ _ _ rfl rfl
      sameDecisions sameData slotsOnce batchesOnce dataOnce⟩

/-- What one region's orderer receives of the global slot decisions and batch data: each message
at most once, and nothing outside them. -/
structure ReceivedFrom (allDecisions : List (SlotId × BatchId)) (allData : List Batch) (inputs : List Input) :
    Prop where
  decisionsOnce : (decisions inputs).Nodup
  dataOnce : (replicated inputs).Nodup
  decisionsWithin : decisions inputs ⊆ allDecisions
  dataWithin : replicated inputs ⊆ allData

section Global

variable {allDecisions : List (SlotId × BatchId)} {allData : List Batch}
  (globalSlots : (allDecisions.map Prod.fst).Nodup) (globalBatches : (allDecisions.map Prod.snd).Nodup)
  (globalIds : (allData.map Batch.id).Nodup)

theorem nodup_map_of_subset {α β : Type} {f : α → β} {values all : List α} (nodup : values.Nodup)
    (within : values ⊆ all) (keys : (all.map f).Nodup) : (values.map f).Nodup :=
  nodup.map_on fun _ first _ second same => List.inj_on_of_nodup_map keys (within first) (within second) same

include globalSlots globalBatches globalIds in
theorem run_reads_global {final : MultiHomeOrderer} {inputs : List Input} {sent : List Message}
    (ran : run constants config init inputs = some (final, sent))
    (received : ReceivedFrom allDecisions allData inputs) :
    sequenced constants sent = decidedLog allDecisions allData 0 final.multiHomeBatchLog.nextSlot := by
  obtain ⟨tracks, -, out⟩ := run_init_tracks ran
    (nodup_map_of_subset received.decisionsOnce received.decisionsWithin globalSlots)
    (nodup_map_of_subset received.decisionsOnce received.decisionsWithin globalBatches)
    (nodup_map_of_subset received.dataOnce received.dataWithin globalIds)
  rw [out]
  exact (decidedLog_grow (fun slot below => tracks.filled slot (by simpa using below)) globalSlots globalIds
    (fun _ member => received.decisionsWithin member) (fun _ member => received.dataWithin member)).symm

theorem decidedLog_isPrefix_of_le {start count more : Nat} (le : count ≤ more) :
    decidedLog known arrived start count <+: decidedLog known arrived start more := by
  obtain ⟨extra, rfl⟩ := Nat.exists_eq_add_of_le le
  rw [decidedLog_append]
  exact List.prefix_append _ _

include globalSlots globalBatches globalIds in
/-- Two regions' orderers that receive slot decisions and batch data from one global set, in which
each slot, each batch and each batch id occurs once, hand their sequencers two logs one of which
is a prefix of the other, whatever the regions' constants, configurations and inputs. -/
theorem sequencers_receive_prefixes_of_one_log {constants₁ constants₂ : Constants}
    {config₁ config₂ : Configuration} {final₁ final₂ : MultiHomeOrderer} {inputs₁ inputs₂ : List Input}
    {sent₁ sent₂ : List Message}
    (ran₁ : run constants₁ config₁ init inputs₁ = some (final₁, sent₁))
    (ran₂ : run constants₂ config₂ init inputs₂ = some (final₂, sent₂))
    (received₁ : ReceivedFrom allDecisions allData inputs₁)
    (received₂ : ReceivedFrom allDecisions allData inputs₂) :
    sequenced constants₁ sent₁ <+: sequenced constants₂ sent₂ ∨
      sequenced constants₂ sent₂ <+: sequenced constants₁ sent₁ := by
  rw [run_reads_global globalSlots globalBatches globalIds ran₁ received₁,
    run_reads_global globalSlots globalBatches globalIds ran₂ received₂]
  rcases Nat.le_total final₁.multiHomeBatchLog.nextSlot final₂.multiHomeBatchLog.nextSlot with le | le
  · exact .inl (decidedLog_isPrefix_of_le le)
  · exact .inr (decidedLog_isPrefix_of_le le)

end Global

theorem sequencers_receive_prefixes_two_regions :
    let constants : Constants := ⟨1000, 8, 4, 3⟩
    let config : Configuration :=
      ⟨2, 1, 0, 0, fun replica partition => replica + partition, fun _ => [], .simplePartitioning⟩
    let allDecisions : List (SlotId × BatchId) := [(0, 5), (1, 7)]
    let allData : List Batch := [⟨5, .multiHome, []⟩, ⟨7, .multiHome, []⟩]
    let inputs₁ : List Input :=
      [.request (.forwardBatch (.batchOrder 1 7)), .request (.forwardBatch (.batchData ⟨5, .multiHome, []⟩)),
        .request (.forwardBatch (.batchOrder 0 5)), .request (.forwardBatch (.batchData ⟨7, .multiHome, []⟩))]
    let inputs₂ : List Input :=
      [.request (.forwardBatch (.batchData ⟨5, .multiHome, []⟩)), .tick true,
        .request (.forwardBatch (.batchOrder 0 5))]
    ∃ final₁ sent₁ final₂ sent₂, run constants config init inputs₁ = some (final₁, sent₁) ∧
      run constants config init inputs₂ = some (final₂, sent₂) ∧
      (allDecisions.map Prod.fst).Nodup ∧ (allDecisions.map Prod.snd).Nodup ∧ (allData.map Batch.id).Nodup ∧
      ReceivedFrom allDecisions allData inputs₁ ∧ ReceivedFrom allDecisions allData inputs₂ ∧
      (sequenced constants sent₁ <+: sequenced constants sent₂ ∨
        sequenced constants sent₂ <+: sequenced constants sent₁) := by
  intro constants config allDecisions allData inputs₁ inputs₂
  have globalSlots : (allDecisions.map Prod.fst).Nodup := by decide
  have globalBatches : (allDecisions.map Prod.snd).Nodup := by decide
  have globalIds : (allData.map Batch.id).Nodup := by decide
  have received₁ : ReceivedFrom allDecisions allData inputs₁ := ⟨by decide, by decide, by decide, by decide⟩
  have received₂ : ReceivedFrom allDecisions allData inputs₂ := ⟨by decide, by decide, by decide, by decide⟩
  exact ⟨_, _, _, _, rfl, rfl, globalSlots, globalBatches, globalIds, received₁, received₂,
    @sequencers_receive_prefixes_of_one_log allDecisions allData globalSlots globalBatches globalIds constants constants
      config config _ _ inputs₁ inputs₂ _ _ rfl rfl received₁ received₂⟩


end Slog.Proofs.SlotAgreement
