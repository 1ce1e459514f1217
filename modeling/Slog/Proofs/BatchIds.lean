import Slog.MultiHomeOrderer
import Mathlib.Data.List.Nodup
import Mathlib.Data.List.Range

/-! Batch ids are unique across the cluster without coordination. Machine `m` hands out
`n * kMaxNumMachines + m` for its `n`-th batch, so the residue names the producer and the ids
of one producer increase. The orderers of a cluster share nothing: an interleaving of their
runs is, machine by machine, a run of each. -/

namespace Slog.Proofs.BatchIds
open MultiHomeOrderer

def proposeValue (message : Message) : Option BatchId :=
  match message.request with
  | .paxosPropose value => some value
  | _ => none

def proposedIds (sent : List Message) : List BatchId :=
  sent.filterMap proposeValue

theorem proposedIds_append (first rest : List Message) :
    proposedIds (first ++ rest) = proposedIds first ++ proposedIds rest :=
  List.filterMap_append ..

/-- One orderer per machine of `ι`, each with its own configuration, handling the inputs of a
schedule in order. Every message is tagged with the machine that sent it. -/
def clusterRun {ι : Type} [DecidableEq ι] (constants : Constants) (configs : ι → Configuration) :
    (ι → MultiHomeOrderer) → List (ι × Input) → Option ((ι → MultiHomeOrderer) × List (ι × Message))
  | orderers, [] => some (orderers, [])
  | orderers, (machine, input) :: schedule =>
    (handle constants (configs machine) (orderers machine) input).bind fun step =>
      (clusterRun constants configs (Function.update orderers machine step.1) schedule).map
        fun final => (final.1, step.2.map (machine, ·) ++ final.2)

def taggedBy {ι α : Type} [DecidableEq ι] (machine : ι) (entries : List (ι × α)) : List α :=
  entries.filterMap fun entry => if entry.1 = machine then some entry.2 else none

variable {constants : Constants} {config : Configuration}

theorem proposedIds_processForwardBatch (orderer : MultiHomeOrderer) (forwardBatch : ForwardBatchPart) :
    proposedIds (processForwardBatch constants orderer forwardBatch).2 = [] := by
  simp [proposedIds, processForwardBatch, proposeValue]

theorem handle_proposedIds {orderer next : MultiHomeOrderer} {input : Input} {sent : List Message}
    (stepped : handle constants config orderer input = some (next, sent)) :
    proposedIds sent = (closed constants config orderer input).toList.map Batch.id ∧
      next.batchIdCounter = orderer.batchIdCounter + (closed constants config orderer input).toList.length ∧
      ∀ batch ∈ closed constants config orderer input, batch.id = (nextBatchId constants config orderer).1 := by
  rcases handle_cases stepped with ⟨txn, rfl, rfl, rfl⟩ | ⟨forwardBatch, rfl, processed⟩ |
    ⟨rfl, nonempty, rfl, rfl⟩ | ⟨rfl, rfl, idle, -⟩
  · simp [closed, proposedIds]
  · have ids := @proposedIds_processForwardBatch constants orderer forwardBatch
    have counter := @processForwardBatch_batchIdCounter constants orderer forwardBatch
    rw [processed] at ids counter
    dsimp only at ids counter
    simp [closed, ids, counter]
  · simp [closed, closeBatch, nonempty, proposedIds, proposeAndReplicate, proposeValue, nextBatchId]
  · simp [idle, proposedIds]

theorem run_proposedIds (inputs : List Input) :
    ∀ {orderer final : MultiHomeOrderer} {sent : List Message},
      run constants config orderer inputs = some (final, sent) →
      ∃ count, final.batchIdCounter = orderer.batchIdCounter + count ∧
        proposedIds sent = (proposals constants config orderer inputs).map Batch.id ∧
        (proposals constants config orderer inputs).map Batch.id =
          (List.range count).map fun n =>
            ((orderer.batchIdCounter + n + 1) * constants.kMaxNumMachines + config.localMachineId) % 2 ^ 64 := by
  induction inputs with
  | nil =>
    intro orderer final sent ran
    simp only [run, Option.some.injEq, Prod.mk.injEq] at ran
    obtain ⟨rfl, rfl⟩ := ran
    exact ⟨0, rfl, rfl, rfl⟩
  | cons input inputs ih =>
    intro orderer final sent ran
    obtain ⟨next, first, rest, stepped, later, rfl⟩ := run_cons ran
    obtain ⟨count, counted, restIds, restFormula⟩ := ih later
    obtain ⟨firstIds, moved, closedId⟩ := handle_proposedIds stepped
    rw [proposals_cons stepped]
    cases found : closed constants config orderer input with
    | none =>
      simp only [found, Option.toList_none, List.length_nil, Nat.add_zero] at firstIds moved
      refine ⟨count, by omega, ?_, ?_⟩
      · rw [proposedIds_append, firstIds, restIds]
        rfl
      · simpa [moved] using restFormula
    | some batch =>
      simp only [found, Option.toList_some, List.length_singleton] at firstIds moved
      have batchId := closedId batch (by simp [found])
      refine ⟨count + 1, by omega, ?_, ?_⟩
      · rw [proposedIds_append, firstIds, restIds]
        rfl
      · have shift : ∀ n, orderer.batchIdCounter + 1 + n = orderer.batchIdCounter + (n + 1) :=
          fun n => by omega
        rw [List.range_succ_eq_map]
        simp [restFormula, moved, batchId, nextBatchId, shift]

section Cluster

variable {ι : Type} [DecidableEq ι] {configs : ι → Configuration}

@[simp] theorem mem_taggedBy {α : Type} {machine : ι} {entries : List (ι × α)} {value : α} :
    value ∈ taggedBy machine entries ↔ (machine, value) ∈ entries := by
  simp [taggedBy, eq_comm]

theorem taggedBy_cons {α : Type} (machine other : ι) (value : α) (entries : List (ι × α)) :
    taggedBy machine ((other, value) :: entries) =
      if other = machine then value :: taggedBy machine entries else taggedBy machine entries := by
  by_cases same : other = machine <;> simp [taggedBy, same]

theorem taggedBy_tagged {α : Type} (machine other : ι) (values : List α) (rest : List (ι × α)) :
    taggedBy machine (values.map (other, ·) ++ rest) =
      (if other = machine then values else []) ++ taggedBy machine rest := by
  induction values with
  | nil => simp
  | cons value values ih => by_cases same : other = machine <;> simp_all [taggedBy_cons]

theorem clusterRun_project (schedule : List (ι × Input)) :
    ∀ {orderers final : ι → MultiHomeOrderer} {sent : List (ι × Message)},
      clusterRun constants configs orderers schedule = some (final, sent) →
      ∀ machine, run constants (configs machine) (orderers machine) (taggedBy machine schedule) =
        some (final machine, taggedBy machine sent) := by
  induction schedule with
  | nil =>
    intro orderers final sent ran machine
    simp only [clusterRun, Option.some.injEq, Prod.mk.injEq] at ran
    obtain ⟨rfl, rfl⟩ := ran
    rfl
  | cons entry schedule ih =>
    obtain ⟨other, input⟩ := entry
    intro orderers final sent ran machine
    simp only [clusterRun, Option.bind_eq_some, Option.map_eq_some', Prod.mk.injEq] at ran
    obtain ⟨⟨next, first⟩, stepped, ⟨final, rest⟩, later, rfl, rfl⟩ := ran
    have projected := ih later machine
    rw [taggedBy_cons, taggedBy_tagged]
    by_cases same : other = machine
    · subst same
      simp only [Function.update_same] at projected
      simp [run, stepped, projected]
    · simpa [same, Function.update_noteq (Ne.symm same)] using projected

theorem nodup_values {α : Type} (entries : List (ι × α))
    (within : ∀ machine, (taggedBy machine entries).Nodup)
    (across : ∀ entry ∈ entries, ∀ other ∈ entries, entry.2 = other.2 → entry.1 = other.1) :
    (entries.map Prod.snd).Nodup := by
  induction entries with
  | nil => simp
  | cons entry entries ih =>
    obtain ⟨tag, value⟩ := entry
    have own := within tag
    rw [taggedBy_cons, if_pos rfl, List.nodup_cons] at own
    refine List.nodup_cons.mpr ⟨fun repeated => ?_, ih (fun machine => ?_)
      fun entry member other otherMember => across entry (.tail _ member) other (.tail _ otherMember)⟩
    · obtain ⟨⟨tag', value'⟩, member, rfl⟩ := List.mem_map.mp repeated
      have sameTag : tag = tag' := across (tag, value') (.head _) (tag', value') (.tail _ member) rfl
      exact own.1 (mem_taggedBy.mpr (sameTag ▸ member))
    · have tagged := within machine
      rw [taggedBy_cons] at tagged
      split at tagged
      · exact (List.nodup_cons.mp tagged).2
      · exact tagged

/-- Over a cluster run from initial orderers, the ids machine `machine` proposed are those of
the batches its ticks closed, and its `n`-th one is `n * kMaxNumMachines + localMachineId`
while that stays below `2^64`. -/
theorem proposedIds_of_machine {schedule : List (ι × Input)} {final : ι → MultiHomeOrderer}
    {sent : List (ι × Message)}
    (ran : clusterRun constants configs (fun _ => init) schedule = some (final, sent)) (machine : ι)
    (noWrap : (final machine).batchIdCounter * constants.kMaxNumMachines +
      (configs machine).localMachineId < 2 ^ 64) :
    proposedIds (taggedBy machine sent) =
        (proposals constants (configs machine) init (taggedBy machine schedule)).map Batch.id ∧
      proposedIds (taggedBy machine sent) =
        (List.range (final machine).batchIdCounter).map fun n =>
          (n + 1) * constants.kMaxNumMachines + (configs machine).localMachineId := by
  obtain ⟨count, counted, ids, formula⟩ := run_proposedIds _ (clusterRun_project schedule ran machine)
  simp only [init, Nat.zero_add] at counted formula
  rw [counted] at noWrap ⊢
  refine ⟨ids, ids.trans (formula.trans (List.map_congr_left fun n member => ?_))⟩
  have below : (n + 1) * constants.kMaxNumMachines ≤ count * constants.kMaxNumMachines :=
    Nat.mul_le_mul_right _ (List.mem_range.mp member)
  exact Nat.mod_eq_of_lt (by omega)

/-- Batch ids are unique across a cluster whose machines have distinct ids below
`kMaxNumMachines`, for every interleaving of their runs that stays clear of 64-bit wraparound.
Each machine's ids are the ids of the batches its ticks closed; its `n`-th id is
`n * kMaxNumMachines + localMachineId`, so the residue names the producer and one producer's
ids strictly increase. -/
theorem batch_ids_unique (distinct : ∀ i j, (configs i).localMachineId = (configs j).localMachineId → i = j)
    (below : ∀ machine, (configs machine).localMachineId < constants.kMaxNumMachines)
    (schedule : List (ι × Input)) (final : ι → MultiHomeOrderer) (sent : List (ι × Message))
    (ran : clusterRun constants configs (fun _ => init) schedule = some (final, sent))
    (noWrap : ∀ machine, (final machine).batchIdCounter * constants.kMaxNumMachines +
      (configs machine).localMachineId < 2 ^ 64) :
    (proposedIds (sent.map Prod.snd)).Nodup ∧
      ∀ machine,
        proposedIds (taggedBy machine sent) =
          (proposals constants (configs machine) init (taggedBy machine schedule)).map Batch.id ∧
        proposedIds (taggedBy machine sent) =
          (List.range (final machine).batchIdCounter).map (fun n =>
            (n + 1) * constants.kMaxNumMachines + (configs machine).localMachineId) ∧
        (∀ id ∈ proposedIds (taggedBy machine sent),
          id % constants.kMaxNumMachines = (configs machine).localMachineId) ∧
        (proposedIds (taggedBy machine sent)).Pairwise (· < ·) := by
  have ids machine := proposedIds_of_machine ran machine (noWrap machine)
  have residue machine : ∀ id ∈ proposedIds (taggedBy machine sent),
      id % constants.kMaxNumMachines = (configs machine).localMachineId := by
    intro id member
    rw [(ids machine).2] at member
    obtain ⟨n, -, rfl⟩ := List.mem_map.mp member
    rw [Nat.add_comm, Nat.add_mul_mod_self_right, Nat.mod_eq_of_lt (below machine)]
  have increasing machine : (proposedIds (taggedBy machine sent)).Pairwise (· < ·) := by
    have positive : 0 < constants.kMaxNumMachines := Nat.lt_of_le_of_lt (Nat.zero_le _) (below machine)
    rw [(ids machine).2]
    exact (List.pairwise_lt_range _).map _ fun a b earlier =>
      Nat.add_lt_add_right (Nat.mul_lt_mul_of_pos_right (Nat.succ_lt_succ earlier) positive) _
  let tagged := sent.filterMap fun entry => (proposeValue entry.2).map (entry.1, ·)
  have values : tagged.map Prod.snd = proposedIds (sent.map Prod.snd) := by
    simp [tagged, proposedIds, List.map_filterMap, Option.map_map, Function.comp_def]
  have byMachine machine : taggedBy machine tagged = proposedIds (taggedBy machine sent) := by
    simp only [tagged, taggedBy, proposedIds, List.filterMap_filterMap]
    congr 1
    funext entry
    by_cases same : entry.1 = machine <;> cases value : proposeValue entry.2 <;> simp [same, value]
  refine ⟨values ▸ nodup_values tagged (fun machine => ?_) ?_, fun machine =>
    ⟨(ids machine).1, (ids machine).2, residue machine, increasing machine⟩⟩
  · rw [byMachine]
    exact (increasing machine).imp Nat.ne_of_lt
  · intro entry member other otherMember same
    have named entry (member : entry ∈ tagged) :
        entry.2 % constants.kMaxNumMachines = (configs entry.1).localMachineId :=
      residue entry.1 entry.2 (byMachine entry.1 ▸ mem_taggedBy.mpr member)
    exact distinct _ _ ((named entry member).symm.trans (same ▸ named other otherMember))

theorem batch_ids_unique_two_machines :
    let configs : Bool → Configuration := fun machine =>
      ⟨2, 1, if machine then 7 else 3, 0, fun rep part => rep + part, fun _ => [], .simplePartitioning⟩
    let schedule : List (Bool × Input) :=
      [(false, .request (.forwardTxn (some ⟨1, [], []⟩))), (true, .request (.forwardTxn (some ⟨2, [], []⟩))),
        (false, .tick true), (true, .tick true), (false, .request (.forwardTxn (some ⟨3, [], []⟩))),
        (false, .tick true)]
    let result := (clusterRun ⟨1000, 8, 4, 3⟩ configs (fun _ => init) schedule).getD (fun _ => init, [])
    proposedIds (result.2.map Prod.snd) = [1003, 1007, 2003] ∧
      proposedIds (taggedBy false result.2) = [1003, 2003] ∧ proposedIds (taggedBy true result.2) = [1007] ∧
    (proposedIds (result.2.map Prod.snd)).Nodup ∧
      ∀ machine,
        proposedIds (taggedBy machine result.2) =
          (proposals ⟨1000, 8, 4, 3⟩ (configs machine) init (taggedBy machine schedule)).map Batch.id ∧
        proposedIds (taggedBy machine result.2) =
          (List.range (result.1 machine).batchIdCounter).map (fun n =>
            (n + 1) * 1000 + (configs machine).localMachineId) ∧
        (∀ id ∈ proposedIds (taggedBy machine result.2), id % 1000 = (configs machine).localMachineId) ∧
        (proposedIds (taggedBy machine result.2)).Pairwise (· < ·) :=
  ⟨rfl, rfl, rfl, batch_ids_unique (by decide) (by decide) _ _ _ rfl (by decide)⟩

end Cluster

end Slog.Proofs.BatchIds
