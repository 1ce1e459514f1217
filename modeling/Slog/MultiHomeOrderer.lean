import Slog.BatchLog

/-! The multi-home orderer collects multi-home transactions into an open batch, closes the
batch on each tick, proposes its id to the global consensus and replicates it to every
region. Replicated batches and slot decisions meet in its batch log. -/

namespace Slog

/-- The constants of `common/constants.h` that the orderer reads. That file is not among the
modelled ones, so their values are parameters. -/
structure Constants where
  kMaxNumMachines : Nat
  kGlobalPaxos : Channel
  kMultiHomeOrdererChannel : Channel
  kSequencerChannel : Channel

inductive Destination where
  | localChannel
  | machine (id : MachineId)
  deriving DecidableEq, Repr

/-- An envelope handed to `Send`: to a channel of this machine, or to a channel of a machine. -/
structure Message where
  destination : Destination
  channel : Channel
  request : Request
  deriving DecidableEq, Repr

structure MultiHomeOrderer where
  batch : Batch
  batchIdCounter : Nat
  multiHomeBatchLog : BatchLog
  deriving DecidableEq, Repr

/-- What wakes the actor: a request on its channel, or the ticker socket, where `received`
says whether a tick message was there to take. -/
inductive Input where
  | request (request : Request)
  | tick (received : Bool)
  deriving DecidableEq, Repr

namespace MultiHomeOrderer

variable (constants : Constants) (config : Configuration)

/-- `NewBatch`: a cleared batch of type `MULTI_HOME`. -/
def newBatch : Batch := ⟨0, .multiHome, []⟩

def init : MultiHomeOrderer := ⟨newBatch, 0, .empty⟩

/-- `NextBatchId`, in the 64-bit arithmetic of `BatchId`. -/
def nextBatchId (orderer : MultiHomeOrderer) : BatchId × MultiHomeOrderer :=
  (((orderer.batchIdCounter + 1) * constants.kMaxNumMachines + config.localMachineId) % 2 ^ 64,
    { orderer with batchIdCounter := orderer.batchIdCounter + 1 })

/-- The first half of a tick: an empty open batch stays open, any other one takes the next
batch id. -/
def closeBatch (orderer : MultiHomeOrderer) : Option (Batch × MultiHomeOrderer) :=
  if orderer.batch.transactions.isEmpty then none
  else
    let next := nextBatchId constants config orderer
    some ({ orderer.batch with id := next.1 }, next.2)

/-- What a tick sends for the batch it closes: the proposal of its id to the global consensus,
then a copy of the batch to the multi-home ordering leader of every region. -/
def proposeAndReplicate (batch : Batch) : List Message :=
  let part := config.leaderPartitionForMultiHomeOrdering
  ⟨.localChannel, constants.kGlobalPaxos, .paxosPropose batch.id⟩ ::
    (List.range config.numReplicas).map fun rep =>
      ⟨.machine (config.makeMachineId rep part), constants.kMultiHomeOrdererChannel,
        .forwardBatch (.batchData batch)⟩

/-- `HandleCustomSocket`. -/
def handleCustomSocket (orderer : MultiHomeOrderer) (received : Bool) :
    MultiHomeOrderer × List Message :=
  if !received then (orderer, [])
  else
    match closeBatch constants config orderer with
    | none => (orderer, [])
    | some (batch, orderer) =>
      ({ orderer with batch := newBatch }, proposeAndReplicate constants config batch)

/-- `ProcessForwardBatch`: the drain loop sends every batch it hands out to the sequencer,
with the batch id replaced by the slot. -/
def processForwardBatch (orderer : MultiHomeOrderer) (forwardBatch : ForwardBatchPart) :
    MultiHomeOrderer × List Message :=
  let log := match forwardBatch with
    | .batchData batch => orderer.multiHomeBatchLog.addBatch batch
    | .batchOrder slot batchId => orderer.multiHomeBatchLog.addSlot slot batchId
    | _ => orderer.multiHomeBatchLog
  let drained := log.drain
  ({ orderer with multiHomeBatchLog := drained.2 },
    drained.1.map fun (slot, batch) =>
      ⟨.localChannel, constants.kSequencerChannel, .forwardBatch (.batchData { batch with id := slot })⟩)

/-- `HandleInternalRequest`. For a forward-transaction request whose `txn` is not set,
`release_txn` returns a null pointer that `AddAllocated` dereferences: that request has no
next state. -/
def handleInternalRequest (orderer : MultiHomeOrderer) :
    Request → Option (MultiHomeOrderer × List Message)
  | .forwardTxn (some txn) =>
    some ({ orderer with batch := { orderer.batch with transactions := orderer.batch.transactions ++ [txn] } }, [])
  | .forwardTxn none => none
  | .forwardBatch forwardBatch => some (processForwardBatch constants orderer forwardBatch)
  | _ => some (orderer, [])

def handle (orderer : MultiHomeOrderer) : Input → Option (MultiHomeOrderer × List Message)
  | .request request => handleInternalRequest constants orderer request
  | .tick received => some (handleCustomSocket constants config orderer received)

/-- The actor loop over a sequence of inputs, with everything it sent; `none` when some
input has no next state. -/
def run : MultiHomeOrderer → List Input → Option (MultiHomeOrderer × List Message)
  | orderer, [] => some (orderer, [])
  | orderer, input :: inputs =>
    (handle constants config orderer input).bind fun step =>
      (run step.1 inputs).map fun final => (final.1, step.2 ++ final.2)

/-- The batch an input closes: only a tick that takes a message and finds transactions. -/
def closed (orderer : MultiHomeOrderer) : Input → Option Batch
  | .tick true => (closeBatch constants config orderer).map Prod.fst
  | _ => none

/-- The batches the ticks of a run close, in tick order. -/
def proposals : MultiHomeOrderer → List Input → List Batch
  | _, [] => []
  | orderer, input :: inputs =>
    match handle constants config orderer input with
    | none => []
    | some step => (closed constants config orderer input).toList ++ proposals step.1 inputs

/-- The transactions of the forward-transaction requests among the inputs, in order. -/
def received (inputs : List Input) : List Transaction :=
  inputs.filterMap fun
    | .request (.forwardTxn txn) => txn
    | _ => none

inductive Reachable : MultiHomeOrderer → Prop
  | initial : Reachable init
  | step {orderer next : MultiHomeOrderer} {input : Input} {sent : List Message} :
      Reachable orderer → handle constants config orderer input = some (next, sent) →
      Reachable next

/-- What every reachable state satisfies: the open batch is a multi-home batch, and the
drain loop left no batch ready in the log. -/
structure Invariant (orderer : MultiHomeOrderer) : Prop where
  multiHome : orderer.batch.transactionType = .multiHome
  drained : orderer.multiHomeBatchLog.hasNextBatch = false

variable {constants config}

theorem closeBatch_eq_none {orderer : MultiHomeOrderer} :
    closeBatch constants config orderer = none ↔ orderer.batch.transactions = [] := by
  simp [closeBatch]

theorem handle_tick_of_nil {orderer : MultiHomeOrderer} (empty : orderer.batch.transactions = []) :
    handle constants config orderer (.tick true) = some (orderer, []) := by
  simp [handle, handleCustomSocket, closeBatch_eq_none.mpr empty]

/-- A tick that finds transactions sends them out under the next batch id and opens a new
empty batch. -/
theorem handle_tick_of_ne_nil {orderer : MultiHomeOrderer} (nonempty : orderer.batch.transactions ≠ []) :
    handle constants config orderer (.tick true) =
      some ({ orderer with batch := newBatch, batchIdCounter := orderer.batchIdCounter + 1 },
        proposeAndReplicate constants config
          { orderer.batch with id := (nextBatchId constants config orderer).1 }) := by
  simp [handle, handleCustomSocket, closeBatch, nonempty, nextBatchId]

@[simp] theorem processForwardBatch_batch (orderer : MultiHomeOrderer) (forwardBatch : ForwardBatchPart) :
    (processForwardBatch constants orderer forwardBatch).1.batch = orderer.batch := rfl

@[simp] theorem processForwardBatch_batchIdCounter (orderer : MultiHomeOrderer)
    (forwardBatch : ForwardBatchPart) :
    (processForwardBatch constants orderer forwardBatch).1.batchIdCounter = orderer.batchIdCounter := rfl

theorem processForwardBatch_drained (orderer : MultiHomeOrderer) (forwardBatch : ForwardBatchPart) :
    (processForwardBatch constants orderer forwardBatch).1.multiHomeBatchLog.hasNextBatch = false :=
  BatchLog.drain_hasNextBatch _

@[simp] theorem received_nil : received [] = [] := rfl

theorem received_cons (input : Input) (inputs : List Input) :
    received (input :: inputs) = received [input] ++ received inputs := by
  simp only [received, ← List.filterMap_append, List.singleton_append]

theorem run_cons {orderer final : MultiHomeOrderer} {input : Input} {inputs : List Input}
    {sent : List Message} (ran : run constants config orderer (input :: inputs) = some (final, sent)) :
    ∃ next first rest, handle constants config orderer input = some (next, first) ∧
      run constants config next inputs = some (final, rest) ∧ sent = first ++ rest := by
  simp only [run, Option.bind_eq_some, Option.map_eq_some', Prod.mk.injEq] at ran
  obtain ⟨⟨next, first⟩, stepped, ⟨final, rest⟩, ran, rfl, rfl⟩ := ran
  exact ⟨next, first, rest, stepped, ran, rfl⟩

theorem proposals_cons {orderer next : MultiHomeOrderer} {input : Input} {inputs : List Input}
    {first : List Message} (stepped : handle constants config orderer input = some (next, first)) :
    proposals constants config orderer (input :: inputs) =
      (closed constants config orderer input).toList ++ proposals constants config next inputs := by
  simp [proposals, stepped]

theorem Invariant.initial : Invariant init := ⟨rfl, rfl⟩

/-- Everything one handled input can do: append a transaction to the open batch, process a
forwarded batch, close a non-empty open batch on a tick, or nothing at all. -/
theorem handle_cases {orderer next : MultiHomeOrderer} {input : Input} {sent : List Message}
    (stepped : handle constants config orderer input = some (next, sent)) :
    (∃ txn, input = .request (.forwardTxn (some txn)) ∧ sent = [] ∧
      next = { orderer with batch := { orderer.batch with
        transactions := orderer.batch.transactions ++ [txn] } }) ∨
    (∃ forwardBatch, input = .request (.forwardBatch forwardBatch) ∧
      processForwardBatch constants orderer forwardBatch = (next, sent)) ∨
    (input = .tick true ∧ orderer.batch.transactions ≠ [] ∧
      next = { orderer with batch := newBatch, batchIdCounter := orderer.batchIdCounter + 1 } ∧
      sent = proposeAndReplicate constants config
        { orderer.batch with id := (nextBatchId constants config orderer).1 }) ∨
    (next = orderer ∧ sent = [] ∧ closed constants config orderer input = none ∧
      received [input] = []) := by
  cases input with
  | request request =>
    cases request with
    | forwardTxn txn =>
      cases txn with
      | none => simp [handle, handleInternalRequest] at stepped
      | some txn =>
        simp only [handle, handleInternalRequest, Option.some.injEq, Prod.mk.injEq] at stepped
        exact .inl ⟨txn, rfl, stepped.2.symm, stepped.1.symm⟩
    | forwardBatch forwardBatch =>
      simp only [handle, handleInternalRequest, Option.some.injEq] at stepped
      exact .inr (.inl ⟨forwardBatch, rfl, stepped⟩)
    | paxosPropose | other =>
      simp only [handle, handleInternalRequest, Option.some.injEq, Prod.mk.injEq] at stepped
      exact .inr (.inr (.inr ⟨stepped.1.symm, stepped.2.symm, rfl, rfl⟩))
  | tick received =>
    by_cases taken : received = true ∧ orderer.batch.transactions ≠ []
    · obtain ⟨rfl, nonempty⟩ := taken
      simp only [handle_tick_of_ne_nil nonempty, Option.some.injEq, Prod.mk.injEq] at stepped
      exact .inr (.inr (.inl ⟨rfl, nonempty, stepped.1.symm, stepped.2.symm⟩))
    · have idle : handle constants config orderer (.tick received) = some (orderer, []) ∧
          closed constants config orderer (.tick received) = none := by
        cases received
        · exact ⟨rfl, rfl⟩
        · have empty : orderer.batch.transactions = [] := by simpa using taken
          exact ⟨handle_tick_of_nil empty, by simp [closed, closeBatch_eq_none.mpr empty]⟩
      simp only [idle.1, Option.some.injEq, Prod.mk.injEq] at stepped
      exact .inr (.inr (.inr ⟨stepped.1.symm, stepped.2.symm, idle.2, rfl⟩))

/-- One handled input keeps the invariant: a tick opens a multi-home batch and leaves the log
alone, and every request that touches the log ends with the drain loop. -/
theorem Invariant.preserved {orderer next : MultiHomeOrderer} {input : Input} {sent : List Message}
    (valid : Invariant orderer) (stepped : handle constants config orderer input = some (next, sent)) :
    Invariant next := by
  rcases handle_cases stepped with ⟨txn, -, -, rfl⟩ | ⟨forwardBatch, -, processed⟩ |
    ⟨-, -, rfl, -⟩ | ⟨rfl, -⟩
  · exact ⟨valid.multiHome, valid.drained⟩
  · have after : (processForwardBatch constants orderer forwardBatch).1 = next := by rw [processed]
    exact after ▸ ⟨valid.multiHome, processForwardBatch_drained _ _⟩
  · exact ⟨rfl, valid.drained⟩
  · exact valid

theorem Reachable.invariant {orderer : MultiHomeOrderer} (reachable : Reachable constants config orderer) :
    Invariant orderer := by
  induction reachable with
  | initial => exact .initial
  | step _ stepped ih => exact ih.preserved stepped

end MultiHomeOrderer

end Slog
