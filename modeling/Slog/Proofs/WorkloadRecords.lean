import Slog.Workload
import Mathlib.Data.List.Forall2
import Mathlib.Data.List.Nodup
import Mathlib.Data.List.Dedup

/-! What one call of `NextTransaction` hands out when it returns: one record per iteration of the
record loop, with fresh keys, writes first and as many hot records as asked for, the records taking
the selected partitions in turn. The profile's flags follow the records' partitions both ways and
their homes one way only. -/

namespace Slog.Proofs.WorkloadRecords
open BasicWorkload

variable {G : Type} {rng : Rng G} {w : BasicWorkload G}

theorem freshKey_eq_ok {keyList draw taken fuel g key g'}
    (found : freshKey rng keyList draw taken fuel g = .ok (key, g')) :
    key ∉ taken ∧ ∃ g₀, (rng.key keyList draw g₀).1 = key := by
  induction fuel generalizing g with
  | zero | succ fuel ih =>
    unfold freshKey at found
    generalize drawn : rng.key keyList draw g = result at found
    obtain ⟨drawnKey, g₁⟩ := result
    by_cases present : drawnKey ∈ taken
    · -- a taken key: out of tries, or the next try's key
      simp only [present, if_true] at found
      first | cases found | exact ih found
    · simp only [present, if_false, Except.ok.injEq, Prod.mk.injEq] at found
      obtain ⟨rfl, -⟩ := found
      exact ⟨present, g, by rw [drawn]⟩

theorem recordPlace_eq_ok {context : RecordContext} {index partition home}
    (placed : recordPlace w context index = .ok (partition, home)) :
    context.selectedPartitions[index % context.selectedPartitions.length]? = some partition ∧
    0 < (w.params.records + 1) % 2 ^ 32 / context.selectedHomes.length ∧
    context.selectedHomes[if w.params.perRecordHome then index
      else index / ((w.params.records + 1) % 2 ^ 32 / context.selectedHomes.length)]? = some home := by
  simp only [recordPlace] at placed
  split_ifs at placed with noPartitions noSpan perRecord <;>
    simp only [throw_eq_error, bind_eq_ok, map_eq_ok, readAt_eq_ok, pure, Except.pure, reduceCtorEq,
      false_and, and_false, exists_false, Except.ok.injEq, Prod.mk.injEq] at placed
  · obtain ⟨_, partitionAt, _, -, _, found, rfl, rfl⟩ := placed
    exact ⟨partitionAt, Nat.pos_of_ne_zero noSpan, by simpa only [perRecord, if_true] using found⟩
  · obtain ⟨_, partitionAt, _, homeAt, rfl, rfl⟩ := placed
    exact ⟨partitionAt, Nat.pos_of_ne_zero noSpan, by simpa only [perRecord, if_false] using homeAt⟩

/-- What record `index` of a loop that read `context` is: its key's type and code line, its
flags, where it was placed, and the key list and method its key was drawn with. -/
structure Produced (rng : Rng G) (w : BasicWorkload G) (context : RecordContext) (index : Nat)
    (entry : RecordEntry) : Prop where
  isWrite : entry.record.isWrite = decide (index < w.params.writes)
  keyType : entry.keyType = if index < w.params.writes then .write else .read
  code : if index < w.params.writes then ∃ value, entry.code = ["SET", entry.key, value]
    else entry.code = ["GET", entry.key]
  isHot : context.isHot[index]? = some entry.record.isHot
  partition : context.selectedPartitions[index % context.selectedPartitions.length]? =
    some entry.record.partition
  span : 0 < (w.params.records + 1) % 2 ^ 32 / context.selectedHomes.length
  home : context.selectedHomes[if w.params.perRecordHome then index
    else index / ((w.params.records + 1) % 2 ^ 32 / context.selectedHomes.length)]? =
      some entry.record.home
  key : ∃ row keyList g₀, w.partitionToKeyLists[entry.record.partition]? = some row ∧
    row[entry.record.home]? = some keyList ∧
    (rng.key keyList (keyDraw w context.localAccess entry.record.home entry.record.isHot) g₀).1 =
      entry.key

theorem recordStep_eq_ok {fuel context entries index g rnd entry g' rnd'}
    (stepped : recordStep rng w fuel context entries index g rnd = .ok (entry, g', rnd')) :
    Produced rng w context index entry ∧ entry.key ∉ entries.map (·.key) := by
  simp only [recordStep, bind_eq_ok] at stepped
  obtain ⟨⟨partition, home⟩, placed, isHot, hotAt, keyList, ⟨row, rowAt, listAt⟩, ⟨key, g₁⟩, found,
    stepped⟩ := stepped
  obtain ⟨partitionAt, span, homeAt⟩ := recordPlace_eq_ok placed
  obtain ⟨fresh, g₀, drawn⟩ := freshKey_eq_ok found
  have hotAt : context.isHot[index]? = some isHot := readAt_eq_ok.mp hotAt
  split_ifs at stepped with writes <;>
    simp only [pure, Except.pure, Except.ok.injEq, Prod.mk.injEq] at stepped <;>
    obtain ⟨rfl, -, -⟩ := stepped <;>
    exact ⟨⟨by simp [writes], by simp [writes], by simp [writes], hotAt, partitionAt, span, homeAt,
      ⟨row, keyList, g₀, readAt_eq_ok.mp rowAt, readAt_eq_ok.mp listAt, drawn⟩⟩, fresh⟩

theorem recordLoop_eq_ok {fuel context indices entries g rnd out g' rnd'}
    (distinct : (entries.map (·.key)).Nodup)
    (looped : recordLoop rng w fuel context indices entries g rnd = .ok (out, g', rnd')) :
    ∃ added, out = entries ++ added ∧ List.Forall₂ (Produced rng w context) indices added ∧
      (out.map (·.key)).Nodup := by
  induction indices generalizing entries g rnd with
  | nil =>
    simp only [recordLoop, Except.ok.injEq, Prod.mk.injEq] at looped
    obtain ⟨rfl, -, -⟩ := looped
    exact ⟨[], by simp, .nil, distinct⟩
  | cons index indices ih =>
    simp only [recordLoop, bind_eq_ok] at looped
    obtain ⟨⟨entry, g₁, rnd₁⟩, stepped, looped⟩ := looped
    obtain ⟨produced, fresh⟩ := recordStep_eq_ok stepped
    obtain ⟨added, rfl, related, kept⟩ :=
      ih (by simpa [List.nodup_append, distinct] using fresh) looped
    exact ⟨entry :: added, by simp, .cons produced related, kept⟩

theorem hotFlags_eq_ok {g isHot g'} (flagged : hotFlags rng w g = .ok (isHot, g')) :
    w.params.writes ≤ w.params.records ∧ isHot.length = w.params.records ∧
      isHot.count true = w.params.hotRecords := by
  dsimp only [hotFlags] at flagged
  split_ifs at flagged with manyWrites manyHot
  have shuffled := rng.shuffle_perm (resize (List.replicate w.params.hotRecords true) w.params.records false) g
  rw [Except.ok.inj flagged] at shuffled
  refine ⟨by omega, by rw [shuffled.length_eq, length_resize], ?_⟩
  simp only [shuffled.count_eq, resize, List.count_append, List.count_replicate, List.take_replicate,
    beq_self_eq_true, ↓reduceIte, beq_true, Bool.false_eq_true, add_zero]
  omega

theorem scanHomes_eq_ok {homes flag result} (scanned : scanHomes homes flag = .ok result) :
    result = true ↔ flag = true ∨ ∃ a ∈ homes, ∃ b ∈ homes, a ≠ b := by
  cases homes with
  | nil => cases scanned
  | cons first rest =>
    obtain rfl := Except.ok.inj scanned
    simp only [Bool.or_eq_true, List.any_eq_true, bne_iff_ne, ne_eq, List.mem_cons]
    constructor
    · rintro (flagged | ⟨other, member, differs⟩)
      · exact .inl flagged
      · exact .inr ⟨other, .inr member, first, .inl rfl, differs⟩
    · rintro (flagged | ⟨a, aMember, b, bMember, differs⟩)
      · exact .inl flagged
      · by_cases same : a = first
        · subst same
          exact .inr ⟨b, bMember.resolve_left (Ne.symm differs), Ne.symm differs⟩
        · exact .inr ⟨a, aMember.resolve_left same, same⟩

theorem resize_range_perm {shuffled : List Nat} {size count : Nat}
    (perm : shuffled.Perm (List.range size)) (fits : count ≤ size) (several : 2 ≤ count) :
    2 ≤ (resize shuffled count 0).length ∧ (resize shuffled count 0).Nodup := by
  have length : shuffled.length = size := by rw [perm.length_eq, List.length_range]
  rw [show resize shuffled count 0 = shuffled.take count by simp [resize, length, fits]]
  exact ⟨by simp [length]; omega, (perm.nodup_iff.mpr (List.nodup_range _)).sublist (List.take_sublist _ _)⟩

theorem selectPartitions_eq_ok {isMultiPartition g partitions g'}
    (selected : selectPartitions rng w isMultiPartition g = .ok (partitions, g')) :
    if isMultiPartition then 2 ≤ partitions.length ∧ partitions.Nodup else partitions.length = 1 := by
  dsimp only [selectPartitions] at selected
  cases isMultiPartition with
  | false =>
    simp only [Bool.false_eq_true, if_false] at selected ⊢
    split_ifs at selected <;> obtain ⟨rfl, -⟩ := Prod.mk.inj (Except.ok.inj selected) <;> rfl
  | true =>
    simp only [if_true] at selected ⊢
    split_ifs at selected with few fewSelected
    obtain ⟨rfl, -⟩ := Prod.mk.inj (Except.ok.inj selected)
    have bounds := rng.uniformInt_mem 2 (min w.config.numPartitions w.params.mpParts)
      (rng.shuffle (List.range w.config.numPartitions) g).2 (by omega)
    exact resize_range_perm (rng.shuffle_perm _ g) (bounds.2.trans (Nat.min_le_left _ _)) bounds.1

theorem nextTransaction_eq_ok {fuel txn profile w'}
    (ran : nextTransaction rng w fuel = .ok (txn, profile, w')) :
    ∃ (g₁ g₂ g₄ g₅ g₆ rnd : G) (selectedPartitions : List Nat) (homes : Homes)
      (isHot : List Bool) (entries : List RecordEntry),
      selectPartitions rng w profile.isMultiPartition g₁ = .ok (selectedPartitions, g₂) ∧
      selectHomes rng w (rng.bernoulli w.params.mh g₂).1 (rng.bernoulli w.params.mh g₂).2 =
        .ok (homes, g₄) ∧
      scanHomes homes.selectedHomes homes.isMultiHome = .ok profile.isMultiHome ∧
      hotFlags rng w g₄ = .ok (isHot, g₅) ∧
      recordLoop rng w fuel ⟨selectedPartitions, homes.selectedHomes, homes.localAccess, isHot⟩
        (List.range w.params.records) [] g₅ w.rndStr = .ok (entries, g₆, rnd) ∧
      txn = ⟨w.clientTxnIdCounter, entries.map fun e => (e.key, e.keyType), entries.map (·.code)⟩ ∧
      profile.records = entries.map (fun e => (e.key, e.record)) ∧
      profile.clientTxnId = w.clientTxnIdCounter ∧
      w' = { w with rg := g₆, rndStr := rnd, clientTxnIdCounter := w.clientTxnIdCounter + 1 } := by
  simp only [nextTransaction, bind_eq_ok] at ran
  obtain ⟨⟨partitions, g₂⟩, selected, ⟨homes, g₄⟩, homed, flag, scanned, ⟨isHot, g₅⟩, flagged,
    ⟨entries, g₆, rnd⟩, looped, done⟩ := ran
  simp only [pure, Except.pure, Except.ok.injEq, Prod.mk.injEq] at done
  obtain ⟨rfl, rfl, rfl⟩ := done
  exact ⟨_, _, _, _, _, _, _, _, _, _, selected, homed, scanned, flagged, looped, rfl, rfl, rfl, rfl⟩

theorem forall₂_range_getElem? {α : Type} {related : Nat → α → Prop} {count : Nat} {values : List α}
    (each : List.Forall₂ related (List.range count) values) {index : Nat} (inside : index < count) :
    ∃ value, values[index]? = some value ∧ related index value := by
  obtain ⟨lengths, pairs⟩ := List.forall₂_iff_get.mp each
  rw [List.length_range] at lengths
  exact ⟨values.get ⟨index, lengths ▸ inside⟩, by simp, by simpa using pairs index (by simpa) _⟩

def twoRegions : Configuration :=
  ⟨2, 1, 0, 0, fun replica partition => replica + partition, fun _ => [], .simplePartitioning⟩

def sampleWorkload : BasicWorkload (List Nat) :=
  ⟨{ defaultParams with records := 2, writes := 1, hotRecords := 1, valueSize := 3, inRange := by decide }, twoRegions, 0, [1],
    0, [[⟨0, 0, 1⟩, ⟨0, 1, 1⟩]], [0, 0, 0, 3, 4], [], 0⟩

/-- Every returned transaction has one record per iteration of the record loop, in loop order and
with distinct keys. Record `j` is a write, with a `SET` of a value, exactly when `j < writes`, and
a read with a `GET` otherwise; exactly `hot_records` of the records are hot. -/
theorem nextTransaction_record_layout {fuel txn profile w'}
    (ran : nextTransaction rng w fuel = .ok (txn, profile, w')) :
    profile.records.length = w.params.records ∧ txn.keys.length = w.params.records ∧
    txn.code.length = w.params.records ∧ (profile.records.map Prod.fst).Nodup ∧
    (∀ j < w.params.records, ∃ key record, profile.records[j]? = some (key, record) ∧
      record.isWrite = decide (j < w.params.writes) ∧
      txn.keys[j]? = some (key, if j < w.params.writes then .write else .read) ∧
      if j < w.params.writes then ∃ value, txn.code[j]? = some ["SET", key, value]
      else txn.code[j]? = some ["GET", key]) ∧
    profile.records.countP (·.2.isHot) = w.params.hotRecords := by
  obtain ⟨_, _, _, _, _, _, _, _, isHot, added, -, -, -, flagged, looped, rfl, records, -⟩ :=
    nextTransaction_eq_ok ran
  obtain ⟨-, hotLength, hotCount⟩ := hotFlags_eq_ok flagged
  obtain ⟨_, rfl, related, distinct⟩ := recordLoop_eq_ok (by simp) looped
  have count : added.length = w.params.records := by simpa using related.length_eq.symm
  have hotList : added.map (·.record.isHot) = isHot := by
    ext j : 1
    by_cases inside : j < w.params.records
    · obtain ⟨entry, found, produced⟩ := forall₂_range_getElem? related inside
      simp [found, produced.isHot]
    · simp [List.getElem?_eq_none, count, hotLength, Nat.le_of_not_lt inside]
  refine ⟨by simp [records, count], by simp [count], by simp [count],
    by simpa [records, Function.comp_def] using distinct, fun j inside => ?_, ?_⟩
  · obtain ⟨entry, found, produced⟩ := forall₂_range_getElem? related inside
    refine ⟨entry.key, entry.record, by simp [records, found], produced.isWrite,
      by simp [found, produced.keyType], ?_⟩
    have code := produced.code
    split_ifs at code ⊢
    · obtain ⟨value, written⟩ := code
      exact ⟨value, by simp [found, written]⟩
    · simp [found, code]
  · calc profile.records.countP (·.2.isHot) = isHot.count true := by
          simp [records, ← hotList, List.countP_map, List.count_eq_countP, Function.comp_def]
      _ = w.params.hotRecords := hotCount

theorem nextTransaction_record_layout_sample :
    let txn : Transaction := ⟨0, [("hot3", .write), ("cold4", .read)],
      [["SET", "hot3", "xxx"], ["GET", "cold4"]]⟩
    let profile : TransactionProfile :=
      ⟨0, false, false, [("hot3", ⟨true, true, 0, 0⟩), ("cold4", ⟨false, false, 0, 0⟩)]⟩
    let after := { sampleWorkload with rg := [], clientTxnIdCounter := 1 }
    nextTransaction Rng.tape sampleWorkload 0 = .ok (txn, profile, after) ∧
      profile.records.length = 2 ∧ txn.keys.length = 2 ∧ txn.code.length = 2 ∧
      (profile.records.map Prod.fst).Nodup ∧
      (∀ j < 2, ∃ key record, profile.records[j]? = some (key, record) ∧
        record.isWrite = decide (j < 1) ∧
        txn.keys[j]? = some (key, if j < 1 then .write else .read) ∧
        if j < 1 then ∃ value, txn.code[j]? = some ["SET", key, value]
        else txn.code[j]? = some ["GET", key]) ∧
      profile.records.countP (·.2.isHot) = 1 := by
  intro txn profile after
  have ran : nextTransaction Rng.tape sampleWorkload 0 = .ok (txn, profile, after) := rfl
  exact ⟨ran, nextTransaction_record_layout ran⟩

theorem forall₂_range_mem {α : Type} {related : Nat → α → Prop} {count : Nat} {values : List α}
    (each : List.Forall₂ related (List.range count) values) {value : α} (member : value ∈ values) :
    ∃ index < count, values[index]? = some value ∧ related index value := by
  obtain ⟨index, found⟩ := List.mem_iff_getElem?.mp member
  have inside : index < count := by
    simpa [← each.length_eq] using (List.getElem?_eq_some_iff.mp found).1
  obtain ⟨other, again, produced⟩ := forall₂_range_getElem? each inside
  obtain rfl := Option.some.inj (again.symm.trans found)
  exact ⟨index, inside, found, produced⟩

/-- The profile's flags against its records' homes and partitions. Two distinct homes among the
records make the transaction multi-home, though the flag can be set without them. The records
touch two distinct partitions exactly when the transaction is multi-partition and has at least
two records. -/
theorem nextTransaction_flags_follow_records {fuel txn profile w'}
    (ran : nextTransaction rng w fuel = .ok (txn, profile, w')) :
    ((∃ a ∈ profile.records, ∃ b ∈ profile.records, a.2.home ≠ b.2.home) →
      profile.isMultiHome = true) ∧
    ((∃ a ∈ profile.records, ∃ b ∈ profile.records, a.2.partition ≠ b.2.partition) ↔
      profile.isMultiPartition = true ∧ 2 ≤ w.params.records) := by
  obtain ⟨_, _, _, _, _, _, partitions, homes, isHot, entries, selected, -, scanned, -, looped, -,
    records, -⟩ := nextTransaction_eq_ok ran
  obtain ⟨_, rfl, related, -⟩ := recordLoop_eq_ok (by simp) looped
  have origin : ∀ record ∈ profile.records, ∃ index < w.params.records, ∃ entry,
      entries[index]? = some entry ∧ record = (entry.key, entry.record) ∧
      Produced rng w ⟨partitions, homes.selectedHomes, homes.localAccess, isHot⟩ index entry := by
    intro record member
    rw [records, List.mem_map] at member
    obtain ⟨entry, member, rfl⟩ := member
    obtain ⟨index, inside, found, produced⟩ := forall₂_range_mem related member
    exact ⟨index, inside, entry, found, rfl, produced⟩
  have partitioned := selectPartitions_eq_ok selected
  refine ⟨fun ⟨a, aMember, b, bMember, differs⟩ => ?_, ⟨fun ⟨a, aMember, b, bMember, differs⟩ => ?_, ?_⟩⟩
  · obtain ⟨_, -, entryA, -, rfl, producedA⟩ := origin a aMember
    obtain ⟨_, -, entryB, -, rfl, producedB⟩ := origin b bMember
    exact (scanHomes_eq_ok scanned).mpr
      (.inr ⟨_, List.getElem?_mem producedA.home, _, List.getElem?_mem producedB.home, differs⟩)
  · obtain ⟨indexA, insideA, entryA, foundA, rfl, producedA⟩ := origin a aMember
    obtain ⟨indexB, insideB, entryB, foundB, rfl, producedB⟩ := origin b bMember
    cases multiPartition : profile.isMultiPartition
    · -- one partition: every record has it
      simp only [multiPartition, Bool.false_eq_true, if_false] at partitioned
      have partitionA := producedA.partition
      have partitionB := producedB.partition
      simp only [partitioned, Nat.mod_one] at partitionA partitionB
      exact absurd (Option.some.inj (partitionA.symm.trans partitionB)) differs
    · -- one record has a single partition
      refine ⟨rfl, Nat.not_lt.mp fun few => differs ?_⟩
      obtain rfl : indexA = indexB := by omega
      obtain rfl := Option.some.inj (foundA.symm.trans foundB)
      rfl
  · rintro ⟨multiPartition, several⟩
    simp only [multiPartition, if_true] at partitioned
    obtain ⟨first, foundFirst, producedFirst⟩ := forall₂_range_getElem? related (by omega : 0 < _)
    obtain ⟨second, foundSecond, producedSecond⟩ := forall₂_range_getElem? related (by omega : 1 < _)
    have partitionFirst := producedFirst.partition
    have partitionSecond := producedSecond.partition
    simp only [Nat.zero_mod, Nat.one_mod_eq_one.mpr (by omega : partitions.length ≠ 1)]
      at partitionFirst partitionSecond
    refine ⟨_, records ▸ List.mem_map_of_mem _ (List.getElem?_mem foundFirst), _,
      records ▸ List.mem_map_of_mem _ (List.getElem?_mem foundSecond), fun same => ?_⟩
    exact List.nodup_iff_getElem?_ne_getElem?.mp partitioned.2 0 1 (by omega) (by omega)
      (partitionFirst.trans (same ▸ partitionSecond.symm))

theorem nextTransaction_flags_follow_records_sample :
    let txn : Transaction := ⟨0, [("hot3", .write), ("cold4", .read)],
      [["SET", "hot3", "xxx"], ["GET", "cold4"]]⟩
    let profile : TransactionProfile :=
      ⟨0, false, false, [("hot3", ⟨true, true, 0, 0⟩), ("cold4", ⟨false, false, 0, 0⟩)]⟩
    let after := { sampleWorkload with rg := [], clientTxnIdCounter := 1 }
    nextTransaction Rng.tape sampleWorkload 0 = .ok (txn, profile, after) ∧
      ((∃ a ∈ profile.records, ∃ b ∈ profile.records, a.2.home ≠ b.2.home) →
        profile.isMultiHome = true) ∧
      ((∃ a ∈ profile.records, ∃ b ∈ profile.records, a.2.partition ≠ b.2.partition) ↔
        profile.isMultiPartition = true ∧ 2 ≤ 2) := by
  intro txn profile after
  have ran : nextTransaction Rng.tape sampleWorkload 0 = .ok (txn, profile, after) := rfl
  exact ⟨ran, nextTransaction_flags_follow_records ran⟩

def certainMultiHome : BasicWorkload (List Nat) :=
  ⟨{ defaultParams with mh := 100, records := 1, writes := 1, inRange := by decide }, twoRegions, 0, [1], 0,
    [[⟨0, 0, 1⟩, ⟨0, 1, 1⟩]], [0, 0, 1, 2, 5], [], 0⟩

/-- One record and `mh = 100`, so the multi-home draw is certain: the profile is multi-home,
though its one record has one home. -/
theorem multiHome_flag_with_one_home :
    (BasicWorkload.create twoRegions 0
        { defaultParams with mh := 100, records := 1, writes := 1, inRange := by decide } [0, 0, 1, 2, 5] [] >>=
      fun w => (nextTransaction Rng.tape w 0).map (·.2.1)) =
      .ok ⟨0, false, true, [("cold5", ⟨false, true, 0, 0⟩)]⟩ := by
  rw [show BasicWorkload.create twoRegions 0 _ _ _ = .ok certainMultiHome from rfl]
  rfl

/-! ### Partitions -/

theorem selectPartitions_within {isMultiPartition g partitions g'}
    (selected : selectPartitions rng w isMultiPartition g = .ok (partitions, g')) :
    (isMultiPartition = true → partitions.length ≤ min w.config.numPartitions w.params.mpParts) ∧
    (isMultiPartition = false → 0 ≤ w.params.spPartition → partitions = [w.params.spPartition.toNat]) := by
  dsimp only [selectPartitions] at selected
  cases isMultiPartition with
  | false =>
    simp only [Bool.false_eq_true, if_false] at selected
    refine ⟨nofun, fun _ pinned => ?_⟩
    split_ifs at selected with negative
    · omega
    · exact (Prod.mk.inj (Except.ok.inj selected)).1.symm
  | true =>
    simp only [if_true] at selected
    split_ifs at selected with few fewSelected
    obtain ⟨rfl, -⟩ := Prod.mk.inj (Except.ok.inj selected)
    have bounds := rng.uniformInt_mem 2 (min w.config.numPartitions w.params.mpParts)
      (rng.shuffle (List.range w.config.numPartitions) g).2 (by omega)
    exact ⟨fun _ => (length_resize _ _ _).trans_le bounds.2, nofun⟩

theorem dedup_length_of_cycle {parts values : List Nat} {count : Nat} (distinct : parts.Nodup)
    (cycled : List.Forall₂ (fun index value => parts[index % parts.length]? = some value)
      (List.range count) values) :
    values.dedup.length = min count parts.length := by
  have members : ∀ value, value ∈ values.dedup ↔ value ∈ parts.take count := by
    intro value
    rw [List.mem_dedup]
    constructor
    · intro member
      obtain ⟨index, inside, -, atIndex⟩ := forall₂_range_mem cycled member
      exact List.mem_iff_getElem?.mpr ⟨index % parts.length, by
        rw [List.getElem?_take_of_lt ((Nat.mod_le _ _).trans_lt inside), atIndex]⟩
    · intro member
      obtain ⟨index, found⟩ := List.mem_iff_getElem?.mp member
      have inside : index < min count parts.length := by
        simpa using (List.getElem?_eq_some_iff.mp found).1
      obtain ⟨other, atIndex, cycledAt⟩ := forall₂_range_getElem? cycled (by omega : index < count)
      rw [Nat.mod_eq_of_lt (by omega), ← List.getElem?_take_of_lt (by omega : index < count), found]
        at cycledAt
      exact Option.some.inj cycledAt ▸ List.getElem?_mem atIndex
  rw [((List.perm_ext_iff_of_nodup (List.nodup_dedup _) (distinct.sublist (List.take_sublist _ _))).mpr
    members).length_eq, List.length_take]

/-- How a returned transaction spreads its records over partitions: record `i` lies in
`parts[i % k]` for the `k` distinct partitions it selected. A multi-partition transaction selects
between two and `min(num_partitions, mp_parts)` of them, so its records touch
`min(records, k)` distinct partitions; a single-partition one selects one, `sp_partition` when
that is not negative. -/
theorem records_spread_over_drawn_partitions {fuel txn profile w'}
    (ran : nextTransaction rng w fuel = .ok (txn, profile, w')) :
    ∃ parts : List Nat, parts.Nodup ∧
      List.Forall₂ (fun index (record : Key × Record) => parts[index % parts.length]? = some record.2.partition)
        (List.range w.params.records) profile.records ∧
      (profile.isMultiPartition = true → 2 ≤ parts.length ∧
        parts.length ≤ min w.config.numPartitions w.params.mpParts ∧
        (profile.records.map (·.2.partition)).dedup.length = min w.params.records parts.length) ∧
      (profile.isMultiPartition = false → parts.length = 1 ∧
        (0 ≤ w.params.spPartition → parts = [w.params.spPartition.toNat])) := by
  obtain ⟨_, _, _, _, _, _, partitions, homes, isHot, entries, selected, -, -, -, looped, -, records, -⟩ :=
    nextTransaction_eq_ok ran
  obtain ⟨_, rfl, related, -⟩ := recordLoop_eq_ok (by simp) looped
  have within := selectPartitions_within selected
  have shaped := selectPartitions_eq_ok selected
  have cycled : List.Forall₂ (fun index (record : Key × Record) =>
      partitions[index % partitions.length]? = some record.2.partition) (List.range w.params.records)
      profile.records := by
    rw [records]
    exact List.forall₂_map_right_iff.mpr (related.imp fun _ _ produced => produced.partition)
  cases multiPartition : profile.isMultiPartition
  · simp only [multiPartition, Bool.false_eq_true, if_false] at shaped
    obtain ⟨only, rfl⟩ := List.length_eq_one.mp shaped
    exact ⟨[only], List.nodup_singleton only, cycled, nofun, fun _ => ⟨rfl, within.2 multiPartition⟩⟩
  · simp only [multiPartition, if_true] at shaped
    exact ⟨partitions, shaped.2, cycled, fun _ => ⟨shaped.1, within.1 multiPartition,
      dedup_length_of_cycle shaped.2 (List.forall₂_map_right_iff.mpr cycled)⟩, nofun⟩

def threePartitions : BasicWorkload (List Nat) :=
  ⟨{ defaultParams with mp := 100, mpParts := 3, records := 3, writes := 0, inRange := by decide },
    ⟨2, 3, 0, 0, fun replica partition => replica + partition, fun _ => [], .simplePartitioning⟩, 0, [1],
    0, (List.range 3).map (fun partition => [⟨partition, 0, 1⟩, ⟨partition, 1, 1⟩]), [1, 2, 0, 1, 2, 3], [], 0⟩

theorem records_spread_over_two_of_three_partitions :
    let w : BasicWorkload (List Nat) :=
      ⟨{ defaultParams with mp := 100, mpParts := 3, records := 3, writes := 0, inRange := by decide },
        ⟨2, 3, 0, 0, fun replica partition => replica + partition, fun _ => [], .simplePartitioning⟩, 0, [1],
        0, (List.range 3).map (fun partition => [⟨partition, 0, 1⟩, ⟨partition, 1, 1⟩]), [1, 2, 0, 1, 2, 3],
        [], 0⟩
    ∃ txn profile after, nextTransaction Rng.tape w 0 = .ok (txn, profile, after) ∧
      profile.isMultiPartition = true ∧ profile.records.map (·.2.partition) = [0, 1, 0] ∧
      ∃ parts : List Nat, parts.Nodup ∧
        List.Forall₂ (fun index (record : Key × Record) => parts[index % parts.length]? = some record.2.partition)
          (List.range w.params.records) profile.records ∧
        (profile.isMultiPartition = true → 2 ≤ parts.length ∧
          parts.length ≤ min w.config.numPartitions w.params.mpParts ∧
          (profile.records.map (·.2.partition)).dedup.length = min w.params.records parts.length) ∧
        (profile.isMultiPartition = false → parts.length = 1 ∧
          (0 ≤ w.params.spPartition → parts = [w.params.spPartition.toNat])) :=
  have ran : nextTransaction Rng.tape threePartitions 0 = _ := rfl
  ⟨_, _, _, ran, rfl, rfl, records_spread_over_drawn_partitions ran⟩

end Slog.Proofs.WorkloadRecords
