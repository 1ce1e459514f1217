import Slog.MultiHomeOrderer

/-! Every run of the orderer replicates each batch a tick closes to every region and accounts
for each received transaction exactly once. Unexpected requests change nothing, but a
forward-transaction request without a transaction is not dropped. -/

namespace Slog.Proofs.OrdererRuns
open MultiHomeOrderer

variable {constants : Constants} {config : Configuration}

/-- The batch copies among `sent` addressed to machines: destination, channel and batch. -/
def replications (sent : List Message) : List (MachineId × Channel × Batch) :=
  sent.filterMap fun
    | ⟨.machine machine, channel, .forwardBatch (.batchData batch)⟩ => some (machine, channel, batch)
    | _ => none

def copies (constants : Constants) (config : Configuration) (batch : Batch) :
    List (MachineId × Channel × Batch) :=
  (List.range config.numReplicas).map fun rep =>
    (config.makeMachineId rep config.leaderPartitionForMultiHomeOrdering, constants.kMultiHomeOrdererChannel,
      batch)

theorem replications_append (first rest : List Message) :
    replications (first ++ rest) = replications first ++ replications rest :=
  List.filterMap_append _ _ _

theorem replications_proposeAndReplicate (batch : Batch) :
    replications (proposeAndReplicate constants config batch) = copies constants config batch := by
  simp only [proposeAndReplicate, replications, List.filterMap_cons, List.filterMap_map, copies]
  rw [← List.filterMap_eq_map]
  rfl

theorem replications_processForwardBatch (orderer : MultiHomeOrderer) (forwardBatch : ForwardBatchPart) :
    replications (processForwardBatch constants orderer forwardBatch).2 = [] := by
  simp only [processForwardBatch, replications, List.filterMap_map]
  exact List.filterMap_eq_nil_iff.mpr fun _ _ => rfl

theorem handle_replications {orderer next : MultiHomeOrderer} {input : Input} {sent : List Message}
    (stepped : handle constants config orderer input = some (next, sent)) :
    replications sent = (closed constants config orderer input).toList.flatMap (copies constants config) := by
  rcases handle_cases stepped with ⟨txn, rfl, rfl, -⟩ | ⟨forwardBatch, rfl, processed⟩ |
    ⟨rfl, nonempty, -, rfl⟩ | ⟨-, rfl, none, -⟩
  · rfl
  · obtain ⟨rfl, rfl⟩ := Prod.ext_iff.mp processed.symm
    simp only [replications_processForwardBatch, closed, Option.toList_none, List.flatMap_nil]
  · simp only [nextBatchId, replications_proposeAndReplicate, closed, closeBatch, List.isEmpty_eq_true, nonempty,
      ↓reduceIte, Option.map_some', Option.toList_some, List.flatMap_cons, List.flatMap_nil, List.append_nil]
  · simp only [replications, List.filterMap_nil, none, Option.toList_none, List.flatMap_nil]

theorem run_replications (inputs : List Input) :
    ∀ orderer final sent, run constants config orderer inputs = some (final, sent) →
      replications sent = (proposals constants config orderer inputs).flatMap (copies constants config) := by
  induction inputs with
  | nil =>
    intro orderer final sent ran
    simp only [run, Option.some.injEq, Prod.mk.injEq] at ran
    obtain ⟨-, rfl⟩ := ran
    rfl
  | cons input inputs ih =>
    intro orderer final sent ran
    obtain ⟨next, first, rest, stepped, continued, rfl⟩ := run_cons ran
    rw [proposals_cons stepped, List.flatMap_append, replications_append, handle_replications stepped,
      ih next final rest continued]

theorem handle_conserves {orderer next : MultiHomeOrderer} {input : Input} {sent : List Message}
    (stepped : handle constants config orderer input = some (next, sent)) :
    (closed constants config orderer input).toList.flatMap Batch.transactions ++
        next.batch.transactions =
      orderer.batch.transactions ++ received [input] := by
  rcases handle_cases stepped with ⟨txn, rfl, -, rfl⟩ | ⟨forwardBatch, rfl, processed⟩ |
    ⟨rfl, nonempty, rfl, -⟩ | ⟨rfl, -, idle, nothing⟩
  · simp [closed, received]
  · have after : (processForwardBatch constants orderer forwardBatch).1 = next := by rw [processed]
    simp [closed, received, ← after]
  · simp [closed, closeBatch, nonempty, received, newBatch]
  · simp [idle, nothing]

theorem run_conserves (inputs : List Input) :
    ∀ orderer final sent, run constants config orderer inputs = some (final, sent) →
      (proposals constants config orderer inputs).flatMap Batch.transactions ++
          final.batch.transactions =
        orderer.batch.transactions ++ received inputs := by
  induction inputs with
  | nil =>
    intro orderer final sent ran
    simp only [run, Option.some.injEq, Prod.mk.injEq] at ran
    obtain ⟨rfl, -⟩ := ran
    simp [proposals]
  | cons input inputs ih =>
    intro orderer final sent ran
    obtain ⟨next, first, rest, stepped, ran, -⟩ := run_cons ran
    rw [proposals_cons stepped, List.flatMap_append, List.append_assoc, ih next final rest ran,
      ← List.append_assoc, handle_conserves stepped, received_cons input inputs, List.append_assoc]

/-- The laws of every run of the orderer. Ticks without a message or without transactions
change nothing; a tick that finds transactions proposes one new id and replicates them under
it to every region; forwarded batches never touch the open batch. Over a run, the batch copies
sent are those of the closed batches, in tick order, and the closed batches followed by the open
batch hold exactly the received transactions. -/
theorem multiHomeOrderer_run_laws :
    (∀ orderer, handle constants config orderer (.tick false) = some (orderer, [])) ∧
    (∀ orderer : MultiHomeOrderer, orderer.batch.transactions = [] →
      handle constants config orderer (.tick true) = some (orderer, [])) ∧
    (∀ orderer, Reachable constants config orderer → orderer.batch.transactions ≠ [] →
      ∃ v, handle constants config orderer (.tick true) =
        some ({ orderer with batch := newBatch, batchIdCounter := orderer.batchIdCounter + 1 },
          ⟨.localChannel, constants.kGlobalPaxos, .paxosPropose v⟩ ::
            (List.range config.numReplicas).map fun rep =>
              ⟨.machine (config.makeMachineId rep config.leaderPartitionForMultiHomeOrdering),
                constants.kMultiHomeOrdererChannel,
                .forwardBatch (.batchData ⟨v, .multiHome, orderer.batch.transactions⟩)⟩)) ∧
    (∀ orderer forwardBatch, ∃ next sent,
      handle constants config orderer (.request (.forwardBatch forwardBatch)) = some (next, sent) ∧
        next.batch = orderer.batch) ∧
    (∀ inputs final sent, run constants config init inputs = some (final, sent) →
      replications sent = (proposals constants config init inputs).flatMap (copies constants config) ∧
      (proposals constants config init inputs).flatMap Batch.transactions ++
          final.batch.transactions =
        received inputs) := by
  refine ⟨fun _ => rfl, fun _ empty => handle_tick_of_nil empty, ?_, fun _ _ => ⟨_, _, rfl, rfl⟩, ?_⟩
  · intro orderer reachable nonempty
    have multiHome := reachable.invariant.multiHome
    refine ⟨(nextBatchId constants config orderer).1, ?_⟩
    simp [handle_tick_of_ne_nil nonempty, proposeAndReplicate, ← multiHome]
  · intro inputs final sent ran
    exact ⟨run_replications inputs init final sent ran,
      by simpa [init, newBatch] using run_conserves inputs init final sent ran⟩

theorem multiHomeOrderer_run_laws_closing_tick :
    let constants : Constants := ⟨1000, 8, 4, 3⟩
    let config : Configuration := ⟨2, 1, 0, 0, fun rep part => rep + part, fun _ => [], .simplePartitioning⟩
    let inputs : List Input := [.request (.forwardTxn (some ⟨1, [], []⟩)),
      .request (.forwardTxn (some ⟨2, [], []⟩)), .tick true, .request (.forwardTxn (some ⟨3, [], []⟩))]
    ∃ final sent, run constants config init inputs = some (final, sent) ∧
      replications sent = [(0, 4, ⟨1000, .multiHome, [⟨1, [], []⟩, ⟨2, [], []⟩]⟩),
        (1, 4, ⟨1000, .multiHome, [⟨1, [], []⟩, ⟨2, [], []⟩]⟩)] ∧
      final.batch.transactions = [⟨3, [], []⟩] ∧
      replications sent = (proposals constants config init inputs).flatMap (copies constants config) ∧
      (proposals constants config init inputs).flatMap Batch.transactions ++ final.batch.transactions =
        received inputs := by
  intro constants config inputs
  exact ⟨_, _, rfl, rfl, rfl, (@multiHomeOrderer_run_laws constants config).2.2.2.2 inputs _ _ rfl⟩

/-- The requests the orderer does not expect: every type but forward-transaction and
forward-batch, and forward-batch requests with neither batch data nor a batch order. -/
def Unexpected : Request → Prop
  | .forwardTxn _ | .forwardBatch (.batchData _) | .forwardBatch (.batchOrder _ _) => False
  | _ => True

/-- In every reachable state the batch log has no ready batch, so an unexpected request,
after which the drain loop still runs, changes nothing and sends nothing. -/
theorem unexpected_request_ignored :
    ∀ orderer, Reachable constants config orderer →
      orderer.multiHomeBatchLog.hasNextBatch = false ∧
        ∀ request, Unexpected request →
          handle constants config orderer (.request request) = some (orderer, []) := by
  intro orderer reachable
  have drained := reachable.invariant.drained
  refine ⟨drained, fun request unexpected => ?_⟩
  match request, unexpected with
  | .forwardBatch (.localBatchOrder ..), _ | .forwardBatch .partNotSet, _ =>
    simp [handle, handleInternalRequest, processForwardBatch, BatchLog.drain_of_not_hasNextBatch drained]
  | .paxosPropose _, _ | .other, _ => rfl

theorem unexpected_request_ignored_initial :
    let config : Configuration := ⟨2, 1, 0, 0, fun rep part => rep + part, fun _ => [], .simplePartitioning⟩
    Reachable ⟨1000, 8, 4, 3⟩ config init ∧ Unexpected .other ∧
      handle ⟨1000, 8, 4, 3⟩ config init (.request .other) = some (init, []) :=
  ⟨.initial, trivial, (unexpected_request_ignored init .initial).2 .other trivial⟩

/-- A forward-transaction request that carries no transaction is not dropped as the unexpected
requests are: `release_txn` returns a null pointer that `AddAllocated` takes, and from no state
does the handler reach a next state. -/
theorem forwardTxn_without_txn_not_dropped :
    ∀ orderer, handle constants config orderer (.request (.forwardTxn none)) = none :=
  fun _ => rfl

end Slog.Proofs.OrdererRuns
