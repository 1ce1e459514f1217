import Mathlib.Data.List.Basic
import Mathlib.Algebra.Group.Nat.Basic
import Mathlib.Algebra.Group.Int

/-! Identifiers, transactions, batches and requests shared by the multi-home orderer, the
sender and the workload generator, as the internal protos and `Configuration` declare them. -/

namespace Slog

abbrev MachineId := Nat
abbrev Channel := Nat
abbrev BatchId := Nat
abbrev SlotId := Nat
abbrev Key := String

inductive KeyType where
  | read
  | write
  deriving DecidableEq, Repr

/-- The parts of a transaction that the modelled code builds or moves: the keys and code
that `MakeTransaction` receives and the id set on its internal part. -/
structure Transaction where
  id : Nat
  keys : List (Key × KeyType)
  code : List (List String)
  deriving DecidableEq, Repr

inductive TransactionType where
  | singleHome
  | multiHome
  deriving DecidableEq, Repr

structure Batch where
  id : BatchId
  transactionType : TransactionType
  transactions : List Transaction
  deriving DecidableEq, Repr

inductive ForwardBatchPart where
  | batchData (batch : Batch)
  | batchOrder (slot : SlotId) (batchId : BatchId)
  | localBatchOrder (slot : SlotId) (queueId : Nat) (leader : Nat)
  | partNotSet
  deriving DecidableEq, Repr

/-- The request oneof of an envelope. `forwardTxn none` is a forward-transaction request
whose `txn` field is not set; `other` stands for every other request type, and for none. -/
inductive Request where
  | forwardTxn (txn : Option Transaction)
  | forwardBatch (part : ForwardBatchPart)
  | paxosPropose (value : Nat)
  | other
  deriving DecidableEq, Repr

structure Envelope where
  request : Request
  deriving DecidableEq, Repr

inductive Partitioning where
  | simplePartitioning
  | hashPartitioning
  | notSet
  deriving DecidableEq, Repr

/-- The configuration the modelled code reads. `makeMachineId` and `distanceRankingFrom` are
computed by `Configuration`, whose source is not among the modelled files. -/
structure Configuration where
  numReplicas : Nat
  numPartitions : Nat
  localMachineId : MachineId
  leaderPartitionForMultiHomeOrdering : Nat
  makeMachineId : Nat → Nat → MachineId
  distanceRankingFrom : Nat → List Nat
  partitioning : Partitioning

end Slog
