import Slog.Proofs.SlotAgreement

/-! Join completeness of the orderer, whatever it receives, duplicates and conflicting decisions
included: over every run from the initial state, the batch at position `i` of what the sequencer
receives is a batch that arrived as batch data, decided for slot `i` by a decision that arrived. -/

namespace Slog.Proofs.SequencerJoins
open MultiHomeOrderer SequencerOrder SlotAgreement

variable {constants : Constants} {config : Configuration} {pairs : List (SlotId × BatchId)}
  {pool : List Batch}

/-- A log whose slot entries and batches lie among the given decisions and data. -/
structure Pooled (pairs : List (SlotId × BatchId)) (pool : List Batch) (log : BatchLog) : Prop where
  slots : log.slots ⊆ pairs
  batches : log.batches ⊆ pool

def Joined (pairs : List (SlotId × BatchId)) (pool : List Batch) (batch : Batch) : Prop :=
  ∃ data ∈ pool, (batch.id, data.id) ∈ pairs ∧ batch = { data with id := batch.id }

theorem Pooled.drained {log : BatchLog} (pooled : Pooled pairs pool log) :
    Pooled pairs pool log.drain.2 ∧
      ∀ batch ∈ sequenced constants (log.drain.1.map fun (slot, batch) =>
        ⟨.localChannel, constants.kSequencerChannel, .forwardBatch (.batchData { batch with id := slot })⟩),
        Joined pairs pool batch := by
  obtain ⟨named, keptSlots⟩ := BatchLog.drainFor_joined log.slots.length log
  obtain ⟨handed, keptBatches⟩ := BatchLog.drainFor_batches log.slots.length log
  refine ⟨⟨fun _ member => pooled.slots (keptSlots member), fun _ member => pooled.batches (keptBatches member)⟩,
    fun batch member => ?_⟩
  rw [sequenced_drained, List.mem_map] at member
  obtain ⟨out, drained, rfl⟩ := member
  exact ⟨out.2, pooled.batches (handed out drained), pooled.slots (named out drained), rfl⟩

theorem Pooled.handled {orderer next : MultiHomeOrderer} {input : Input} {sent : List Message}
    (pooled : Pooled pairs pool orderer.multiHomeBatchLog)
    (stepped : handle constants config orderer input = some (next, sent))
    (decided : decisions [input] ⊆ pairs) (covered : replicated [input] ⊆ pool) :
    Pooled pairs pool next.multiHomeBatchLog ∧ ∀ batch ∈ sequenced constants sent, Joined pairs pool batch := by
  by_cases forwarded : ∃ part, input = .request (.forwardBatch part)
  · obtain ⟨part, rfl⟩ := forwarded
    simp only [handle, handleInternalRequest, Option.some.injEq] at stepped
    obtain ⟨rfl, rfl⟩ := Prod.ext_iff.mp stepped.symm
    apply Pooled.drained
    cases part with
    | batchData batch =>
      refine ⟨by simpa using pooled.slots, fun _ member => ?_⟩
      rcases List.mem_cons.mp (BatchLog.addBatch_batches_subset _ batch member) with rfl | old
      · exact covered (by simp [replicated])
      · exact pooled.batches old
    | batchOrder slot batchId =>
      refine ⟨fun _ member => ?_, by simpa using pooled.batches⟩
      rcases List.mem_cons.mp (BatchLog.addSlot_slots_subset _ slot batchId member) with rfl | old
      · exact decided (by simp [decisions])
      · exact pooled.slots old
    | localBatchOrder | partNotSet => exact pooled
  · obtain ⟨-, -, sameLog, nothing⟩ := handle_of_not_forwardBatch stepped (not_exists.mp forwarded)
    rw [sameLog, nothing]
    exact ⟨pooled, by simp⟩

theorem Pooled.ran {orderer final : MultiHomeOrderer} {inputs : List Input} {sent : List Message}
    (pooled : Pooled pairs pool orderer.multiHomeBatchLog)
    (ran : run constants config orderer inputs = some (final, sent))
    (decided : decisions inputs ⊆ pairs) (covered : replicated inputs ⊆ pool) :
    ∀ batch ∈ sequenced constants sent, Joined pairs pool batch := by
  induction inputs generalizing orderer sent with
  | nil =>
    simp only [run, Option.some.injEq, Prod.mk.injEq] at ran
    obtain ⟨-, rfl⟩ := ran
    simp [sequenced]
  | cons input inputs ih =>
    obtain ⟨next, first, rest, stepped, continued, rfl⟩ := run_cons ran
    rw [decisions_cons, List.append_subset] at decided
    rw [replicated_cons, List.append_subset] at covered
    obtain ⟨kept, joined⟩ := pooled.handled stepped decided.1 covered.1
    rw [sequenced_append]
    intro batch member
    rcases List.mem_append.mp member with early | late
    · exact joined batch early
    · exact ih kept continued decided.2 covered.2 batch late

/-- Over every run from the initial state, whatever the orderer receives, the batch at position
`slot` of what it hands the sequencer is a batch whose data it received, decided for slot `slot`
by a decision it received, with its id replaced by `slot`. -/
theorem sequencer_batches_join_data_and_decision {final : MultiHomeOrderer} {inputs : List Input}
    {sent : List Message} (ran : run constants config init inputs = some (final, sent)) {slot : Nat}
    {batch : Batch} (handed : (sequenced constants sent)[slot]? = some batch) :
    ∃ data ∈ replicated inputs, (slot, data.id) ∈ decisions inputs ∧ batch = { data with id := slot } := by
  obtain ⟨count, -, slots⟩ := run_sequenced ran
  have listed : (List.range' init.multiHomeBatchLog.nextSlot count)[slot]? = some batch.id := by
    rw [← slots, List.getElem?_map, handed]
    rfl
  obtain ⟨_, atSlot⟩ := List.getElem?_eq_some_iff.mp listed
  have position : batch.id = slot := by simpa [init, BatchLog.empty] using atSlot.symm
  obtain ⟨data, received, decidedSlot, relabelled⟩ :=
    Pooled.ran ⟨List.nil_subset _, List.nil_subset _⟩ ran (List.Subset.refl _) (List.Subset.refl _) batch
      (List.getElem?_mem handed)
  exact ⟨data, received, position ▸ decidedSlot, position ▸ relabelled⟩

theorem sequencer_batches_join_duplicated_inputs :
    let constants : Constants := ⟨1000, 8, 4, 3⟩
    let config : Configuration :=
      ⟨2, 1, 0, 0, fun replica partition => replica + partition, fun _ => [], .simplePartitioning⟩
    let inputs : List Input :=
      [.request (.forwardBatch (.batchOrder 1 7)), .request (.forwardBatch (.batchData ⟨5, .multiHome, []⟩)),
        .request (.forwardBatch (.batchData ⟨5, .multiHome, []⟩)), .request (.forwardBatch (.batchOrder 1 9)),
        .request (.forwardBatch (.batchOrder 0 5)),
        .request (.forwardBatch (.batchData ⟨7, .multiHome, [⟨1, [], []⟩]⟩))]
    ∃ final sent, run constants config init inputs = some (final, sent) ∧
      (sequenced constants sent)[1]? = some ⟨1, .multiHome, [⟨1, [], []⟩]⟩ ∧
      ∃ data ∈ replicated inputs, (1, data.id) ∈ decisions inputs ∧
        (⟨1, .multiHome, [⟨1, [], []⟩]⟩ : Batch) = { data with id := 1 } := by
  intro constants config inputs
  have evaluated : (run constants config init inputs).map (fun result => (sequenced constants result.2)[1]?) =
      some (some ⟨1, .multiHome, [⟨1, [], []⟩]⟩) := by decide
  cases ran : run constants config init inputs with
  | none => simp [ran] at evaluated
  | some result =>
    have handed : (sequenced constants result.2)[1]? = some ⟨1, .multiHome, [⟨1, [], []⟩]⟩ := by
      simpa [ran] using evaluated
    exact ⟨result.1, result.2, rfl, handed, sequencer_batches_join_data_and_decision ran handed⟩

end Slog.Proofs.SequencerJoins
