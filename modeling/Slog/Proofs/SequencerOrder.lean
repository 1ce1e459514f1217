import Slog.MultiHomeOrderer

/-! The orderer hands multi-home batches to the sequencer in slot order: over every run from the
initial state, the sequencer channel gets the slots 0, 1, 2, … in turn, none skipped or repeated. -/

namespace Slog.Proofs.SequencerOrder
open MultiHomeOrderer

variable {constants : Constants} {config : Configuration}

/-- The batches among `sent` that go to the sequencer channel of this machine. -/
def sequenced (constants : Constants) (sent : List Message) : List Batch :=
  sent.filterMap fun
    | ⟨.localChannel, channel, .forwardBatch (.batchData batch)⟩ =>
      if channel = constants.kSequencerChannel then some batch else none
    | _ => none

theorem sequenced_append (first rest : List Message) :
    sequenced constants (first ++ rest) = sequenced constants first ++ sequenced constants rest :=
  List.filterMap_append _ _ _

theorem sequenced_proposeAndReplicate (batch : Batch) :
    sequenced constants (proposeAndReplicate constants config batch) = [] := by
  simp [sequenced, proposeAndReplicate]

theorem sequenced_drained (outs : List (SlotId × Batch)) :
    sequenced constants (outs.map fun (slot, batch) =>
      ⟨.localChannel, constants.kSequencerChannel, .forwardBatch (.batchData { batch with id := slot })⟩) =
      outs.map fun (slot, batch) => { batch with id := slot } := by
  induction outs with
  | nil => rfl
  | cons out outs ih => simpa [sequenced] using ih

theorem processForwardBatch_sequenced (orderer : MultiHomeOrderer) (forwardBatch : ForwardBatchPart) :
    ∃ count, (processForwardBatch constants orderer forwardBatch).1.multiHomeBatchLog.nextSlot =
        orderer.multiHomeBatchLog.nextSlot + count ∧
      (sequenced constants (processForwardBatch constants orderer forwardBatch).2).map Batch.id =
        List.range' orderer.multiHomeBatchLog.nextSlot count := by
  have logged : ∀ log : BatchLog, log.nextSlot = orderer.multiHomeBatchLog.nextSlot →
      ∃ count, log.drain.2.nextSlot = orderer.multiHomeBatchLog.nextSlot + count ∧
        log.drain.1.map Prod.fst = List.range' orderer.multiHomeBatchLog.nextSlot count := by
    intro log same
    obtain ⟨slots, moved⟩ := BatchLog.drainFor_slots log.slots.length log
    exact ⟨_, same ▸ moved, same ▸ slots⟩
  cases forwardBatch with
  | batchData batch =>
    simpa [processForwardBatch, sequenced_drained, Function.comp_def] using
      logged _ (BatchLog.addBatch_nextSlot _ batch)
  | batchOrder slot batchId =>
    simpa [processForwardBatch, sequenced_drained, Function.comp_def] using
      logged _ (BatchLog.addSlot_nextSlot _ slot batchId)
  | localBatchOrder | partNotSet =>
    simpa [processForwardBatch, sequenced_drained, Function.comp_def] using logged _ rfl

theorem handle_sequenced {orderer next : MultiHomeOrderer} {input : Input} {sent : List Message}
    (stepped : handle constants config orderer input = some (next, sent)) :
    ∃ count, next.multiHomeBatchLog.nextSlot = orderer.multiHomeBatchLog.nextSlot + count ∧
      (sequenced constants sent).map Batch.id = List.range' orderer.multiHomeBatchLog.nextSlot count := by
  rcases handle_cases stepped with ⟨-, -, rfl, rfl⟩ | ⟨forwardBatch, -, processed⟩ |
    ⟨-, -, rfl, rfl⟩ | ⟨rfl, rfl, -⟩
  · exact ⟨0, rfl, rfl⟩
  · obtain ⟨count, moved, slots⟩ := @processForwardBatch_sequenced constants orderer forwardBatch
    rw [processed] at moved slots
    exact ⟨count, moved, slots⟩
  · exact ⟨0, rfl, by simp [sequenced_proposeAndReplicate]⟩
  · exact ⟨0, rfl, rfl⟩

theorem run_sequenced {orderer final : MultiHomeOrderer} {inputs : List Input} {sent : List Message}
    (ran : run constants config orderer inputs = some (final, sent)) :
    ∃ count, final.multiHomeBatchLog.nextSlot = orderer.multiHomeBatchLog.nextSlot + count ∧
      (sequenced constants sent).map Batch.id = List.range' orderer.multiHomeBatchLog.nextSlot count := by
  induction inputs generalizing orderer sent with
  | nil =>
    simp only [run, Option.some.injEq, Prod.mk.injEq] at ran
    obtain ⟨rfl, rfl⟩ := ran
    exact ⟨0, rfl, rfl⟩
  | cons input inputs ih =>
    obtain ⟨next, first, rest, stepped, continued, rfl⟩ := run_cons ran
    obtain ⟨count, moved, slots⟩ := handle_sequenced stepped
    obtain ⟨more, finalMoved, restSlots⟩ := ih continued
    refine ⟨count + more, by rw [finalMoved, moved, Nat.add_assoc], ?_⟩
    rw [sequenced_append, List.map_append, slots, restSlots, moved, List.range'_append_1,
      Nat.add_comm more]

/-- Over every run from the initial state, the sequencer receives the slots `0, 1, …, n - 1`
in this order, each once, where `n` is the next slot of the final batch log. -/
theorem sequencer_receives_slots_in_order {final : MultiHomeOrderer} {inputs : List Input}
    {sent : List Message} (ran : run constants config init inputs = some (final, sent)) :
    (sequenced constants sent).map Batch.id = List.range final.multiHomeBatchLog.nextSlot := by
  obtain ⟨count, moved, slots⟩ := run_sequenced ran
  rw [slots, moved]
  simp [init, BatchLog.empty, List.range_eq_range']

theorem sequencer_receives_slots_out_of_arrival_order :
    let constants : Constants := ⟨1000, 8, 4, 3⟩
    let config : Configuration :=
      ⟨2, 1, 0, 0, fun replica partition => replica + partition, fun _ => [], .simplePartitioning⟩
    let inputs : List Input :=
      [.request (.forwardBatch (.batchOrder 1 7)), .request (.forwardBatch (.batchData ⟨5, .multiHome, []⟩)),
        .request (.forwardBatch (.batchOrder 0 5)), .request (.forwardBatch (.batchData ⟨7, .multiHome, []⟩))]
    ∃ final sent, run constants config init inputs = some (final, sent) ∧
      (sequenced constants sent).map Batch.id = List.range final.multiHomeBatchLog.nextSlot := by
  intro constants config inputs
  exact ⟨_, _, rfl, @sequencer_receives_slots_in_order constants config _ inputs _ rfl⟩

example : (run ⟨1000, 8, 4, 3⟩ ⟨2, 1, 0, 0, fun replica partition => replica + partition, fun _ => [],
    .simplePartitioning⟩ init [.request (.forwardBatch (.batchOrder 1 7)),
      .request (.forwardBatch (.batchData ⟨5, .multiHome, []⟩)), .request (.forwardBatch (.batchOrder 0 5)),
      .request (.forwardBatch (.batchData ⟨7, .multiHome, []⟩))]).map
    (fun result => (sequenced ⟨1000, 8, 4, 3⟩ result.2).map Batch.id) = some [0, 1] :=
  rfl

/-! ### The batch data received -/

/-- The batch data among the inputs, in arrival order. -/
def replicated (inputs : List Input) : List Batch :=
  inputs.filterMap fun
    | .request (.forwardBatch (.batchData batch)) => some batch
    | _ => none

theorem replicated_cons (input : Input) (inputs : List Input) :
    replicated (input :: inputs) = replicated [input] ++ replicated inputs := by
  simp only [replicated, List.filterMap_cons, List.filterMap_nil]
  split <;> rfl

end Slog.Proofs.SequencerOrder
