import Slog.Proofs.ClusterAgreement
import Slog.Proofs.OrdererRuns
import Mathlib.Data.List.Dedup

/-! No multi-home transaction is duplicated on its way through the cluster: the transactions a
machine's sequencer receives are at most those submitted to the cluster's orderers, each at most
as often as it was submitted. -/

namespace Slog.Proofs.ClusterTransactions
open MultiHomeOrderer SequencerOrder BatchLogTracks SlotAgreement BatchIds ClusterAgreement OrdererRuns
open scoped List

/-! ### Lists split by tag -/

theorem flatMap_sublist_flatMap {α β : Type} (f : α → List β) {first second : List α} (sub : first <+ second) :
    first.flatMap f <+ second.flatMap f := by
  induction sub with
  | slnil => exact .slnil
  | cons _ _ ih => exact ih.trans (List.sublist_append_right _ _)
  | cons₂ _ _ ih => exact ih.append_left _

theorem flatMap_subperm_flatMap {α β : Type} (f : α → List β) {first second : List α} (sub : first <+~ second) :
    first.flatMap f <+~ second.flatMap f :=
  let ⟨_, perm, sublist⟩ := sub
  (perm.flatMap_right f).symm.subperm.trans (flatMap_sublist_flatMap f sublist).subperm

theorem flatMap_sublist_of_forall {α β : Type} {f g : α → List β} (values : List α)
    (each : ∀ value ∈ values, f value <+ g value) : values.flatMap f <+ values.flatMap g := by
  induction values with
  | nil => exact .slnil
  | cons value values ih =>
    simp only [List.flatMap_cons]
    exact (each value (.head _)).append (ih fun other member => each other (.tail _ member))

theorem flatMap_append_perm {α β : Type} (values : List α) (f g : α → List β) :
    (values.flatMap fun value => f value ++ g value) ~ values.flatMap f ++ values.flatMap g := by
  induction values with
  | nil => exact .nil
  | cons value values ih =>
    simp only [List.flatMap_cons, List.append_assoc]
    exact ((ih.append_left _).trans (List.perm_append_comm_assoc _ _ _)).append_left _

variable {ι : Type} [DecidableEq ι]

theorem flatMap_tagged_cons_perm {α : Type} {machines : List ι} (distinct : machines.Nodup) {tag : ι}
    (listed : tag ∈ machines) (value : α) (rest : ι → List α) :
    (machines.flatMap fun machine => if tag = machine then value :: rest machine else rest machine) ~
      value :: machines.flatMap rest := by
  induction machines with
  | nil => cases listed
  | cons machine machines ih =>
    obtain ⟨fresh, distinct⟩ := List.nodup_cons.mp distinct
    simp only [List.flatMap_cons]
    by_cases same : tag = machine
    · subst same
      have unchanged : (machines.flatMap fun other => if tag = other then value :: rest other else rest other) =
          machines.flatMap rest :=
        List.flatMap_congr fun other member => if_neg fun (same : tag = other) => fresh (same ▸ member)
      rw [if_pos rfl, unchanged]
      rfl
    · rw [if_neg same]
      exact ((ih distinct ((List.mem_cons.mp listed).resolve_left same)).append_left _).trans List.perm_middle

theorem flatMap_taggedBy_perm {α : Type} {machines : List ι} (distinct : machines.Nodup)
    (entries : List (ι × α)) (listed : ∀ entry ∈ entries, entry.1 ∈ machines) :
    (machines.flatMap fun machine => taggedBy machine entries) ~ entries.map Prod.snd := by
  induction entries with
  | nil => simp [taggedBy]
  | cons entry entries ih =>
    obtain ⟨tag, value⟩ := entry
    simp only [taggedBy_cons, List.map_cons]
    exact (flatMap_tagged_cons_perm distinct (listed _ (.head _)) value _).trans
      ((ih fun other member => listed other (.tail _ member)).cons value)

theorem received_flatMap {α : Type} (values : List α) (inputs : α → List Input) :
    received (values.flatMap inputs) = values.flatMap fun value => received (inputs value) := by
  induction values with
  | nil => rfl
  | cons value values ih =>
    rw [List.flatMap_cons, List.flatMap_cons, ← ih]
    exact List.filterMap_append _ _ _

/-! ### The cluster's transactions -/

theorem transactions_relabelled {known : List (SlotId × BatchId)} {arrived : List Batch} (slots : List SlotId) :
    (slots.filterMap fun slot => (decided known arrived slot).map fun batch => { batch with id := slot }).flatMap
        Batch.transactions =
      (slots.filterMap (decided known arrived)).flatMap Batch.transactions := by
  induction slots with
  | nil => rfl
  | cons slot slots ih => cases found : decided known arrived slot <;> simp [List.filterMap_cons, found, ih]

variable {constants : Constants} {configs : ι → Configuration} {schedule : List (ι × Input)}
  {final : ι → MultiHomeOrderer} {sent : List (ι × Message)}

theorem mem_machines_of_closedBy {batch : Batch} {producer : ι}
    (closed : batch ∈ closedBy constants configs schedule producer) :
    producer ∈ (schedule.map Prod.fst).dedup := by
  refine List.mem_dedup.mpr (by_contra fun absent => ?_)
  have idle : taggedBy producer schedule = [] :=
    List.filterMap_eq_nil_iff.mpr fun entry member =>
      if_neg fun same => absent (List.mem_map.mpr ⟨entry, member, same⟩)
  simp [closedBy, idle, proposals] at closed

/-- The transactions submitted to the cluster's orderers, gathered machine by machine, are all
those submitted. -/
theorem received_grouped (schedule : List (ι × Input)) :
    ((schedule.map Prod.fst).dedup.flatMap fun machine => received (taggedBy machine schedule)) ~
      received (schedule.map Prod.snd) := by
  rw [← received_flatMap]
  exact (flatMap_taggedBy_perm (List.nodup_dedup _) schedule
    fun entry member => List.mem_dedup.mpr (List.mem_map_of_mem _ member)).filterMap _

theorem decided_nodup_of_tracks {known : List (SlotId × BatchId)} {arrived : List Batch} {log : BatchLog}
    (tracks : Tracks known arrived log) (start count : Nat) :
    ((List.range' start count).filterMap (decided known arrived)).Nodup :=
  (List.nodup_range' _ _).filterMap fun _ _ _ found otherFound =>
    tracks.oneSlot (mem_of_decided found).1 (mem_of_decided otherFound).1

section Deployment

variable (distinct : ∀ i j, (configs i).localMachineId = (configs j).localMachineId → i = j)
  (below : ∀ machine, (configs machine).localMachineId < constants.kMaxNumMachines)
  (ran : clusterRun constants configs (fun _ => init) schedule = some (final, sent))
  (noWrap : ∀ machine, (final machine).batchIdCounter * constants.kMaxNumMachines +
    (configs machine).localMachineId < 2 ^ 64)

include ran in
theorem closedBy_conserves (machine : ι) :
    (closedBy constants configs schedule machine).flatMap Batch.transactions ++
        (final machine).batch.transactions =
      received (taggedBy machine schedule) :=
  run_conserves _ _ _ _ (clusterRun_project schedule ran machine)

include distinct below ran noWrap in
theorem closed_nodup :
    ((schedule.map Prod.fst).dedup.flatMap (closedBy constants configs schedule)).Nodup := by
  refine List.nodup_flatMap.mpr ⟨fun machine _ => (closedBy_ids below ran noWrap machine).1.of_map _, ?_⟩
  refine (List.nodup_dedup _).imp fun {machine other} apart => ?_
  exact List.disjoint_left.mpr fun {batch} here there =>
    apart (distinct _ _ (by rw [← (closedBy_ids below ran noWrap machine).2 batch here,
      ← (closedBy_ids below ran noWrap other).2 batch there]))

variable {consensus : List BatchId} (delivered : Delivered constants configs consensus schedule)

include delivered in
theorem decided_mem_closed {machine : ι} {slot : SlotId} {batch : Batch}
    (found : decided (decisions (taggedBy machine schedule)) (replicated (taggedBy machine schedule)) slot =
      some batch) :
    batch ∈ (schedule.map Prod.fst).dedup.flatMap (closedBy constants configs schedule) :=
  let ⟨producer, closed⟩ := delivered.fromTicks machine batch (mem_of_decided found).2
  List.mem_flatMap.mpr ⟨producer, mem_machines_of_closedBy closed, closed⟩

include distinct below ran noWrap delivered in
/-- The transactions the sequencer of any machine receives are among those submitted to the
cluster's orderers, each at most as often as it was submitted: no transaction is duplicated on
its way through the orderers, the consensus and the replication. -/
theorem sequencer_transactions_submitted (machine : ι) :
    (sequenced constants (taggedBy machine sent)).flatMap Batch.transactions <+~
      received (schedule.map Prod.snd) := by
  obtain ⟨tracks, -, out⟩ := delivered.tracks distinct below ran noWrap machine
  rw [out, decidedLog, transactions_relabelled]
  have handedOut := List.subperm_of_subset
    (decided_nodup_of_tracks tracks 0 (final machine).multiHomeBatchLog.nextSlot) fun batch member =>
    let ⟨_, _, found⟩ := List.mem_filterMap.mp member
    decided_mem_closed delivered found
  refine (flatMap_subperm_flatMap Batch.transactions handedOut).trans ?_
  rw [List.flatMap_assoc]
  refine (flatMap_sublist_of_forall _ fun producer _ => ?_).subperm.trans (received_grouped schedule).subperm
  rw [← closedBy_conserves ran producer]
  exact List.sublist_append_left _ _

include distinct below ran noWrap delivered in
/-- Exactly once, once the cluster is quiet. Suppose the consensus log decides exactly the batches
the cluster's ticks closed, and a machine has received every decision of the log and every closed
batch's data. Then every transaction submitted to the cluster's orderers is, exactly once, either
among the transactions that machine's sequencer received or in the open batch of an orderer. -/
theorem sequencer_receives_every_closed_transaction (machine : ι)
    (decidesClosed : ∀ id ∈ consensus, ∃ producer, ∃ batch ∈ closedBy constants configs schedule producer,
      batch.id = id)
    (closedDecided : ∀ producer, ∀ batch ∈ closedBy constants configs schedule producer, batch.id ∈ consensus)
    (allDecisions : ∀ entry ∈ consensus.enum, entry ∈ decisions (taggedBy machine schedule))
    (allData : ∀ producer, ∀ batch ∈ closedBy constants configs schedule producer,
      batch ∈ replicated (taggedBy machine schedule)) :
    (sequenced constants (taggedBy machine sent)).flatMap Batch.transactions ++
        (schedule.map Prod.fst).dedup.flatMap (fun producer => (final producer).batch.transactions) ~
      received (schedule.map Prod.snd) := by
  obtain ⟨tracks, gap, out⟩ := delivered.tracks distinct below ran noWrap machine
  have fills : ∀ slot id, consensus[slot]? = some id → ∃ producer, ∃ batch ∈ closedBy constants configs schedule producer,
      batch.id = id ∧ decided (decisions (taggedBy machine schedule)) (replicated (taggedBy machine schedule)) slot =
        some batch := by
    intro slot id entry
    obtain ⟨producer, batch, closed, rfl⟩ := decidesClosed _ (List.getElem?_mem entry)
    exact ⟨producer, batch, closed, rfl,
      tracks.decided_eq_some_iff.mpr
        ⟨allDecisions (slot, _) (List.mem_enum_iff_getElem?.mpr entry), allData producer batch closed⟩⟩
  have reached : (final machine).multiHomeBatchLog.nextSlot = consensus.length := by
    refine Nat.le_antisymm (Nat.le_of_not_lt fun beyond => ?_) (Nat.le_of_not_lt fun short => ?_)
    · obtain ⟨batch, found⟩ := Option.isSome_iff_exists.mp (tracks.filled _ beyond)
      simpa using delivered.fromConsensus machine _ (mem_of_decided found).1
    · obtain ⟨_, _, _, _, found⟩ := fills _ _ (List.getElem?_eq_getElem short)
      rw [gap] at found
      cases found
  have handedOut : (List.range' 0 (final machine).multiHomeBatchLog.nextSlot).filterMap
      (decided (decisions (taggedBy machine schedule)) (replicated (taggedBy machine schedule))) ~
        (schedule.map Prod.fst).dedup.flatMap (closedBy constants configs schedule) := by
    refine (List.perm_ext_iff_of_nodup (decided_nodup_of_tracks tracks 0 _)
      (closed_nodup distinct below ran noWrap)).mpr fun batch => ⟨fun member => ?_, fun closedMember => ?_⟩
    · obtain ⟨_, _, found⟩ := List.mem_filterMap.mp member
      exact decided_mem_closed delivered found
    · obtain ⟨producer, -, closed⟩ := List.mem_flatMap.mp closedMember
      obtain ⟨slot, entry⟩ := List.mem_iff_getElem?.mp (closedDecided producer batch closed)
      obtain ⟨_, decidedBatch, closedThere, sameId, found⟩ := fills slot _ entry
      obtain rfl := closed_eq_of_id_eq distinct below ran noWrap closedThere closed sameId
      have inLog : slot < (final machine).multiHomeBatchLog.nextSlot :=
        reached ▸ (List.getElem?_eq_some_iff.mp entry).1
      exact List.mem_filterMap.mpr ⟨slot, List.mem_range'_1.mpr ⟨Nat.zero_le _, by simpa using inLog⟩, found⟩
  rw [out, decidedLog, transactions_relabelled]
  refine ((handedOut.flatMap_right Batch.transactions).append_right _).trans ?_
  rw [List.flatMap_assoc]
  refine (flatMap_append_perm _ _ _).symm.trans ?_
  rw [List.flatMap_congr fun producer _ => closedBy_conserves ran producer]
  exact received_grouped schedule

end Deployment

theorem sequencer_transactions_submitted_two_regions :
    let constants : Constants := ⟨1000, 8, 4, 3⟩
    let configs : Bool → Configuration := fun machine =>
      ⟨2, 1, if machine then 7 else 3, 0, fun rep part => rep + part, fun _ => [], .simplePartitioning⟩
    let schedule : List (Bool × Input) :=
      [(false, .request (.forwardTxn (some ⟨1, [], []⟩))), (false, .tick true),
        (true, .request (.forwardTxn (some ⟨2, [], []⟩))), (true, .tick true),
        (true, .request (.forwardBatch (.batchOrder 1 1003))),
        (true, .request (.forwardBatch (.batchData ⟨1003, .multiHome, [⟨1, [], []⟩]⟩))),
        (false, .request (.forwardBatch (.batchData ⟨1007, .multiHome, [⟨2, [], []⟩]⟩))),
        (true, .request (.forwardBatch (.batchOrder 0 1007))), (false, .request (.forwardBatch (.batchOrder 0 1007))),
        (true, .request (.forwardBatch (.batchData ⟨1007, .multiHome, [⟨2, [], []⟩]⟩)))]
    let result := (clusterRun constants configs (fun _ => init) schedule).getD (fun _ => init, [])
    (∀ i j, (configs i).localMachineId = (configs j).localMachineId → i = j) ∧
      (∀ machine, (configs machine).localMachineId < constants.kMaxNumMachines) ∧
      clusterRun constants configs (fun _ => init) schedule = some (result.1, result.2) ∧
      (∀ machine, (result.1 machine).batchIdCounter * constants.kMaxNumMachines +
        (configs machine).localMachineId < 2 ^ 64) ∧
      Delivered constants configs [1007, 1003] schedule ∧
      (sequenced constants (taggedBy true result.2)).flatMap Batch.transactions <+~
        received (schedule.map Prod.snd) := by
  intro constants configs schedule result
  have distinct : ∀ i j, (configs i).localMachineId = (configs j).localMachineId → i = j := by decide
  have below : ∀ machine, (configs machine).localMachineId < constants.kMaxNumMachines := by decide
  have ran : clusterRun constants configs (fun _ => init) schedule = some (result.1, result.2) := rfl
  have noWrap : ∀ machine, (result.1 machine).batchIdCounter * constants.kMaxNumMachines +
      (configs machine).localMachineId < 2 ^ 64 := by decide
  have delivered : Delivered constants configs [1007, 1003] schedule :=
    ⟨by decide, by decide, by decide, by decide, by decide⟩
  exact ⟨distinct, below, ran, noWrap, delivered,
    sequencer_transactions_submitted distinct below ran noWrap delivered true⟩


theorem sequencer_receives_every_closed_transaction_two_regions :
    let constants : Constants := ⟨1000, 8, 4, 3⟩
    let configs : Bool → Configuration := fun machine =>
      ⟨2, 1, if machine then 7 else 3, 0, fun rep part => rep + part, fun _ => [], .simplePartitioning⟩
    let schedule : List (Bool × Input) :=
      [(false, .request (.forwardTxn (some ⟨1, [], []⟩))), (false, .tick true),
        (true, .request (.forwardTxn (some ⟨2, [], []⟩))), (true, .tick true),
        (true, .request (.forwardBatch (.batchOrder 1 1003))),
        (true, .request (.forwardBatch (.batchData ⟨1003, .multiHome, [⟨1, [], []⟩]⟩))),
        (false, .request (.forwardBatch (.batchData ⟨1007, .multiHome, [⟨2, [], []⟩]⟩))),
        (true, .request (.forwardBatch (.batchOrder 0 1007))), (false, .request (.forwardBatch (.batchOrder 0 1007))),
        (true, .request (.forwardBatch (.batchData ⟨1007, .multiHome, [⟨2, [], []⟩]⟩)))]
    let consensus : List BatchId := [1007, 1003]
    let result := (clusterRun constants configs (fun _ => init) schedule).getD (fun _ => init, [])
    (∀ i j, (configs i).localMachineId = (configs j).localMachineId → i = j) ∧
      (∀ machine, (configs machine).localMachineId < constants.kMaxNumMachines) ∧
      clusterRun constants configs (fun _ => init) schedule = some (result.1, result.2) ∧
      (∀ machine, (result.1 machine).batchIdCounter * constants.kMaxNumMachines +
        (configs machine).localMachineId < 2 ^ 64) ∧
      Delivered constants configs consensus schedule ∧
      (∀ id ∈ consensus, ∃ producer, ∃ batch ∈ closedBy constants configs schedule producer, batch.id = id) ∧
      (∀ producer, ∀ batch ∈ closedBy constants configs schedule producer, batch.id ∈ consensus) ∧
      (∀ entry ∈ consensus.enum, entry ∈ decisions (taggedBy true schedule)) ∧
      (∀ producer, ∀ batch ∈ closedBy constants configs schedule producer,
        batch ∈ replicated (taggedBy true schedule)) ∧
      (sequenced constants (taggedBy true result.2)).flatMap Batch.transactions ++
          (schedule.map Prod.fst).dedup.flatMap (fun producer => (result.1 producer).batch.transactions) ~
        received (schedule.map Prod.snd) := by
  intro constants configs schedule consensus result
  have distinct : ∀ i j, (configs i).localMachineId = (configs j).localMachineId → i = j := by decide
  have below : ∀ machine, (configs machine).localMachineId < constants.kMaxNumMachines := by decide
  have ran : clusterRun constants configs (fun _ => init) schedule = some (result.1, result.2) := rfl
  have noWrap : ∀ machine, (result.1 machine).batchIdCounter * constants.kMaxNumMachines +
      (configs machine).localMachineId < 2 ^ 64 := by decide
  have delivered : Delivered constants configs consensus schedule :=
    ⟨by decide, by decide, by decide, by decide, by decide⟩
  have decidesClosed : ∀ id ∈ consensus, ∃ producer, ∃ batch ∈ closedBy constants configs schedule producer,
      batch.id = id := by decide
  have closedDecided : ∀ producer, ∀ batch ∈ closedBy constants configs schedule producer,
      batch.id ∈ consensus := by decide
  have allDecisions : ∀ entry ∈ consensus.enum, entry ∈ decisions (taggedBy true schedule) := by decide
  have allData : ∀ producer, ∀ batch ∈ closedBy constants configs schedule producer,
      batch ∈ replicated (taggedBy true schedule) := by decide
  exact ⟨distinct, below, ran, noWrap, delivered, decidesClosed, closedDecided, allDecisions, allData,
    sequencer_receives_every_closed_transaction distinct below ran noWrap delivered true decidesClosed closedDecided
      allDecisions allData⟩

end Slog.Proofs.ClusterTransactions
