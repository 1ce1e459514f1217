import Slog.Proofs.SlotAgreement
import Slog.Proofs.BatchIds

/-! The regions of a cluster agree on the multi-home log: whatever the interleaving of the
cluster's orderers, the sequencers of any two regions receive logs one of which is a prefix of the
other. The consensus and the network are not modelled; what the orderers rely on from them is
stated of the schedule. -/

namespace Slog.Proofs.ClusterAgreement
open MultiHomeOrderer SequencerOrder BatchLogTracks SlotAgreement BatchIds

/-! ### Readings that agree -/

section Readings

variable {known others : List (SlotId × BatchId)} {arrived otherData : List Batch}

theorem decidedLog_eq_of_agree {count : Nat}
    (filled : ∀ slot < count, (decided known arrived slot).isSome)
    (otherFilled : ∀ slot < count, (decided others otherData slot).isSome)
    (agree : ∀ slot first second, decided known arrived slot = some first →
      decided others otherData slot = some second → first = second) :
    decidedLog known arrived 0 count = decidedLog others otherData 0 count := by
  refine List.filterMap_congr fun slot member => ?_
  have below : slot < count := by simpa using (List.mem_range'_1.mp member).2
  obtain ⟨first, found⟩ := Option.isSome_iff_exists.mp (filled slot below)
  obtain ⟨second, otherFound⟩ := Option.isSome_iff_exists.mp (otherFilled slot below)
  rw [found, otherFound, agree slot first second found otherFound]

theorem decidedLog_comparable {count otherCount : Nat}
    (filled : ∀ slot < count, (decided known arrived slot).isSome)
    (otherFilled : ∀ slot < otherCount, (decided others otherData slot).isSome)
    (agree : ∀ slot first second, decided known arrived slot = some first →
      decided others otherData slot = some second → first = second) :
    decidedLog known arrived 0 count <+: decidedLog others otherData 0 otherCount ∨
      decidedLog others otherData 0 otherCount <+: decidedLog known arrived 0 count := by
  rcases Nat.le_total count otherCount with le | le
  · left
    rw [decidedLog_eq_of_agree filled (fun slot below => otherFilled slot (Nat.lt_of_lt_of_le below le)) agree]
    exact decidedLog_isPrefix_of_le le
  · right
    rw [← decidedLog_eq_of_agree (fun slot below => filled slot (Nat.lt_of_lt_of_le below le)) otherFilled agree]
    exact decidedLog_isPrefix_of_le le

end Readings

/-! ### The cluster -/

variable {ι : Type} [DecidableEq ι] {constants : Constants} {configs : ι → Configuration}
  {schedule : List (ι × Input)} {final : ι → MultiHomeOrderer} {sent : List (ι × Message)}

/-- The batches the ticks of `machine` closed over a cluster schedule. -/
def closedBy (constants : Constants) (configs : ι → Configuration) (schedule : List (ι × Input))
    (machine : ι) : List Batch :=
  proposals constants (configs machine) init (taggedBy machine schedule)

/-- What the orderers rely on from the global consensus and the network over a cluster schedule:
every slot decision a machine receives is the consensus log's entry for its slot, the log decides
each batch id once, the data a machine receives is that of batches some machine's tick closed, and
no machine receives one decision or one batch's data twice. -/
structure Delivered (constants : Constants) (configs : ι → Configuration) (consensus : List BatchId)
    (schedule : List (ι × Input)) : Prop where
  decidedOnce : consensus.Nodup
  fromConsensus : ∀ machine, ∀ entry ∈ decisions (taggedBy machine schedule), consensus[entry.1]? = some entry.2
  decisionsOnce : ∀ machine, (decisions (taggedBy machine schedule)).Nodup
  fromTicks : ∀ machine, ∀ batch ∈ replicated (taggedBy machine schedule),
    ∃ producer, batch ∈ closedBy constants configs schedule producer
  dataOnce : ∀ machine, (replicated (taggedBy machine schedule)).Nodup

theorem Delivered.keys {consensus : List BatchId} (delivered : Delivered constants configs consensus schedule)
    (machine : ι) :
    ((decisions (taggedBy machine schedule)).map Prod.fst).Nodup ∧
      ((decisions (taggedBy machine schedule)).map Prod.snd).Nodup := by
  have entryOf := delivered.fromConsensus machine
  refine ⟨(delivered.decisionsOnce machine).map_on fun first firstMember second secondMember sameSlot => ?_,
    (delivered.decisionsOnce machine).map_on fun first firstMember second secondMember sameId => ?_⟩
  · have firstAt := entryOf first firstMember
    rw [sameSlot, entryOf second secondMember] at firstAt
    exact Prod.ext sameSlot (Option.some.inj firstAt).symm
  · have firstAt := entryOf first firstMember
    rw [sameId] at firstAt
    have sameSlot := List.getElem?_inj (List.getElem?_eq_some_iff.mp firstAt).1 delivered.decidedOnce
      (firstAt.trans (entryOf second secondMember).symm)
    exact Prod.ext sameSlot sameId

section Deployment

variable (distinct : ∀ i j, (configs i).localMachineId = (configs j).localMachineId → i = j)
  (below : ∀ machine, (configs machine).localMachineId < constants.kMaxNumMachines)
  (ran : clusterRun constants configs (fun _ => init) schedule = some (final, sent))
  (noWrap : ∀ machine, (final machine).batchIdCounter * constants.kMaxNumMachines +
    (configs machine).localMachineId < 2 ^ 64)

include below ran noWrap in
theorem closedBy_ids (machine : ι) :
    ((closedBy constants configs schedule machine).map Batch.id).Nodup ∧
      ∀ batch ∈ closedBy constants configs schedule machine,
        batch.id % constants.kMaxNumMachines = (configs machine).localMachineId := by
  obtain ⟨ids, formula⟩ := proposedIds_of_machine ran machine (noWrap machine)
  have closedIds : (closedBy constants configs schedule machine).map Batch.id =
      (List.range (final machine).batchIdCounter).map fun n =>
        (n + 1) * constants.kMaxNumMachines + (configs machine).localMachineId := ids.symm.trans formula
  have positive : 0 < constants.kMaxNumMachines := Nat.lt_of_le_of_lt (Nat.zero_le _) (below machine)
  refine ⟨?_, fun batch member => ?_⟩
  · rw [closedIds]
    refine (List.nodup_range _).map fun first second same => ?_
    have := Nat.eq_of_mul_eq_mul_right positive (Nat.add_right_cancel same)
    omega
  · have named := List.mem_map_of_mem Batch.id member
    rw [closedIds] at named
    obtain ⟨n, -, formulaId⟩ := List.mem_map.mp named
    rw [← formulaId, Nat.add_comm, Nat.add_mul_mod_self_right, Nat.mod_eq_of_lt (below machine)]

include distinct below ran noWrap in
theorem closed_eq_of_id_eq {first second : Batch} {producer other : ι}
    (closedFirst : first ∈ closedBy constants configs schedule producer)
    (closedSecond : second ∈ closedBy constants configs schedule other) (sameId : first.id = second.id) :
    first = second := by
  have sameProducer : producer = other := distinct _ _ <| by
    rw [← (closedBy_ids below ran noWrap producer).2 first closedFirst,
      ← (closedBy_ids below ran noWrap other).2 second closedSecond, sameId]
  subst sameProducer
  exact List.inj_on_of_nodup_map (closedBy_ids below ran noWrap producer).1 closedFirst closedSecond sameId

variable {consensus : List BatchId} (delivered : Delivered constants configs consensus schedule)

include distinct below ran noWrap delivered in
theorem Delivered.dataIds (machine : ι) : ((replicated (taggedBy machine schedule)).map Batch.id).Nodup :=
  (delivered.dataOnce machine).map_on fun first firstMember second secondMember sameId => by
    obtain ⟨producer, closedFirst⟩ := delivered.fromTicks machine first firstMember
    obtain ⟨other, closedSecond⟩ := delivered.fromTicks machine second secondMember
    exact closed_eq_of_id_eq distinct below ran noWrap closedFirst closedSecond sameId

include distinct below ran noWrap delivered in
theorem Delivered.agree (machine other : ι) (slot : SlotId) (batch otherBatch : Batch)
    (found : decided (decisions (taggedBy machine schedule)) (replicated (taggedBy machine schedule)) slot = some batch)
    (otherFound : decided (decisions (taggedBy other schedule)) (replicated (taggedBy other schedule)) slot =
      some otherBatch) :
    batch = otherBatch := by
  obtain ⟨decidedHere, receivedHere⟩ := mem_of_decided found
  obtain ⟨decidedThere, receivedThere⟩ := mem_of_decided otherFound
  have sameId : batch.id = otherBatch.id := Option.some.inj
    ((delivered.fromConsensus _ _ decidedHere).symm.trans (delivered.fromConsensus _ _ decidedThere))
  obtain ⟨producer, closedHere⟩ := delivered.fromTicks _ _ receivedHere
  obtain ⟨producer', closedThere⟩ := delivered.fromTicks _ _ receivedThere
  exact closed_eq_of_id_eq distinct below ran noWrap closedHere closedThere sameId

include distinct below ran noWrap delivered in
theorem Delivered.tracks (machine : ι) :
    Tracks (decisions (taggedBy machine schedule)) (replicated (taggedBy machine schedule))
        (final machine).multiHomeBatchLog ∧
      decided (decisions (taggedBy machine schedule)) (replicated (taggedBy machine schedule))
        (final machine).multiHomeBatchLog.nextSlot = none ∧
      sequenced constants (taggedBy machine sent) =
        decidedLog (decisions (taggedBy machine schedule)) (replicated (taggedBy machine schedule)) 0
          (final machine).multiHomeBatchLog.nextSlot :=
  run_init_tracks (clusterRun_project schedule ran machine) (delivered.keys machine).1 (delivered.keys machine).2
    (delivered.dataIds distinct below ran noWrap machine)

include distinct below ran noWrap delivered in
/-- In a cluster whose machines have distinct ids below `kMaxNumMachines` and whose batch ids stay
clear of 64-bit wraparound, over every interleaving of the machines' inputs in which decisions
come from one consensus log and batch data from the batches the cluster closed, each at most once
per machine, the sequencers of any two machines receive logs one of which is a prefix of the
other. -/
theorem regions_receive_prefixes_of_one_log (first second : ι) :
    sequenced constants (taggedBy first sent) <+: sequenced constants (taggedBy second sent) ∨
      sequenced constants (taggedBy second sent) <+: sequenced constants (taggedBy first sent) := by
  obtain ⟨tracks, -, out⟩ := delivered.tracks distinct below ran noWrap first
  obtain ⟨otherTracks, -, otherOut⟩ := delivered.tracks distinct below ran noWrap second
  rw [out, otherOut]
  exact decidedLog_comparable tracks.filled otherTracks.filled
    (delivered.agree distinct below ran noWrap first second)

end Deployment

theorem regions_receive_prefixes_two_regions :
    let constants : Constants := ⟨1000, 8, 4, 3⟩
    let configs : Bool → Configuration := fun machine =>
      ⟨2, 1, if machine then 7 else 3, 0, fun rep part => rep + part, fun _ => [], .simplePartitioning⟩
    let schedule : List (Bool × Input) :=
      [(false, .request (.forwardTxn (some ⟨1, [], []⟩))), (false, .tick true),
        (true, .request (.forwardTxn (some ⟨2, [], []⟩))), (true, .tick true),
        (true, .request (.forwardBatch (.batchOrder 1 1003))),
        (true, .request (.forwardBatch (.batchData ⟨1003, .multiHome, [⟨1, [], []⟩]⟩))),
        (false, .request (.forwardBatch (.batchData ⟨1007, .multiHome, [⟨2, [], []⟩]⟩))),
        (true, .request (.forwardBatch (.batchOrder 0 1007))), (false, .request (.forwardBatch (.batchOrder 0 1007))),
        (true, .request (.forwardBatch (.batchData ⟨1007, .multiHome, [⟨2, [], []⟩]⟩)))]
    let result := (clusterRun constants configs (fun _ => init) schedule).getD (fun _ => init, [])
    (∀ i j, (configs i).localMachineId = (configs j).localMachineId → i = j) ∧
      (∀ machine, (configs machine).localMachineId < constants.kMaxNumMachines) ∧
      clusterRun constants configs (fun _ => init) schedule = some (result.1, result.2) ∧
      (∀ machine, (result.1 machine).batchIdCounter * constants.kMaxNumMachines +
        (configs machine).localMachineId < 2 ^ 64) ∧
      Delivered constants configs [1007, 1003] schedule ∧
      (sequenced constants (taggedBy false result.2) <+: sequenced constants (taggedBy true result.2) ∨
        sequenced constants (taggedBy true result.2) <+: sequenced constants (taggedBy false result.2)) := by
  intro constants configs schedule result
  have distinct : ∀ i j, (configs i).localMachineId = (configs j).localMachineId → i = j := by decide
  have below : ∀ machine, (configs machine).localMachineId < constants.kMaxNumMachines := by decide
  have ran : clusterRun constants configs (fun _ => init) schedule = some (result.1, result.2) := rfl
  have noWrap : ∀ machine, (result.1 machine).batchIdCounter * constants.kMaxNumMachines +
      (configs machine).localMachineId < 2 ^ 64 := by decide
  have delivered : Delivered constants configs [1007, 1003] schedule :=
    ⟨by decide, by decide, by decide, by decide, by decide⟩
  exact ⟨distinct, below, ran, noWrap, delivered,
    regions_receive_prefixes_of_one_log distinct below ran noWrap delivered false true⟩


end Slog.Proofs.ClusterAgreement
