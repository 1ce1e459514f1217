import Slog.Proofs.WorkloadRecords

/-! Where a record's home comes from, and what goes wrong there: the default path reads past the
last selected home, the per-record path reads homes that were never selected, `sh_home` is never
checked against the regions, and overlap mode draws every key from one pool. -/

namespace Slog.Proofs.WorkloadHomes
open BasicWorkload WorkloadRecords

variable {G : Type} {rng : Rng G} {w : BasicWorkload G}

theorem ite_error_eq_ok {α : Type} {c : Prop} [Decidable c] {e : Fault} {x : Except Fault α} {v : α} :
    (if c then .error e else x) = .ok v ↔ ¬c ∧ x = .ok v := by
  split <;> simp_all

theorem create_eq_ok {config region params rg rndStr}
    (created : BasicWorkload.create config region params rg rndStr = .ok w) :
    w.params = params ∧ w.config = config ∧
      ∀ row ∈ w.partitionToKeyLists, row.length = config.numReplicas := by
  simp only [BasicWorkload.create, ite_error_eq_ok, Except.ok.injEq] at created
  obtain ⟨-, -, created⟩ := created
  split at created <;> obtain ⟨-, rfl⟩ := created <;>
    exact ⟨rfl, rfl, by simp only [List.forall_mem_map, List.length_map, List.length_range, implies_true]⟩

/-- The generator of `Rng.tape` whose Bernoulli draws are false unless certain: below 100 percent
no transaction is drawn multi-partition or multi-home. -/
def singleDraws : Rng (List Nat) :=
  { Rng.tape with
    bernoulli := fun percent tape => (decide (100 ≤ percent), tape)
    bernoulli_impossible := fun _ _ impossible =>
      decide_eq_false (not_le.mpr (lt_of_le_of_lt impossible (by decide)))
    bernoulli_certain := fun _ _ certain => decide_eq_true certain }

def threeRegions : Configuration :=
  ⟨3, 1, 0, 0, fun replica partition => replica + partition, fun _ => [], .simplePartitioning⟩

/-! ### The home index on the default path -/

theorem lastHome_lt_iff {records homes : Nat} (several : 1 ≤ records)
    (span : 0 < (records + 1) / homes) :
    (records - 1) / ((records + 1) / homes) < homes ↔ (records + 1) % homes < 2 := by
  rw [Nat.div_lt_iff_lt_mul span]
  have split := Nat.div_add_mod (records + 1) homes
  generalize homes * ((records + 1) / homes) = whole at split ⊢
  omega

/-- On the default path record `i` reads the selected home at `i / ⌊(records + 1) / H⌋`, for the
`H` selected homes. When `records + 1` leaves a remainder of two or more on division by `H`, the
last record reads past the last home, or the divisor is zero: the record loop never finishes,
whatever the draws. Every `H` of three or more has such record counts. -/
theorem default_path_reads_past_last_home (default : w.params.perRecordHome = false)
    (several : 1 ≤ w.params.records) (noWrap : w.params.records + 1 < 2 ^ 32) {context : RecordContext}
    (wide : 2 ≤ (w.params.records + 1) % context.selectedHomes.length) (fuel : Nat) (g rnd : G)
    (out : List RecordEntry × G × G) :
    recordLoop rng w fuel context (List.range w.params.records) [] g rnd ≠ .ok out := by
  intro looped
  obtain ⟨_, -, related, -⟩ := recordLoop_eq_ok (by simp) looped
  obtain ⟨last, -, produced⟩ := forall₂_range_getElem? related (by omega : w.params.records - 1 < _)
  have homeAt := produced.home
  have span := produced.span
  simp only [default, Bool.false_eq_true, if_false, Nat.mod_eq_of_lt noWrap] at homeAt span
  have inside := (lastHome_lt_iff several span).mp (List.getElem?_eq_some_iff.mp homeAt).1
  omega

def fourRecords : BasicWorkload (List Nat) :=
  ⟨{ defaultParams with mh := 100, mhHomes := 3, records := 4, writes := 4, inRange := by decide }, threeRegions, 0,
    [1, 2], 0, [[⟨0, 0, 1⟩, ⟨0, 1, 1⟩, ⟨0, 2, 1⟩]], [0, 0, 1, 3, 10, 11, 12], [], 0⟩

/-- A multi-home draw, certain at `mh = 100`, of three homes for four records over three regions:
the run faults on the fourth record, which reads `selected_homes[3 / ⌊5 / 3⌋]`, past the three
homes the run selected. The run is evaluated on `fourRecords`, the same workload by name. -/
theorem three_homes_four_records_out_of_range :
    let params := { defaultParams with mh := 100, mhHomes := 3, records := 4, writes := 4, inRange := by decide }
    let w : BasicWorkload (List Nat) :=
      ⟨params, threeRegions, 0, [1, 2], 0, [[⟨0, 0, 1⟩, ⟨0, 1, 1⟩, ⟨0, 2, 1⟩]], [0, 0, 1, 3, 10, 11, 12], [], 0⟩
    BasicWorkload.create threeRegions 0 params [0, 0, 1, 3, 10, 11, 12] [] = .ok w ∧
      nextTransaction Rng.tape w 0 = .error .outOfRange ∧
      params.perRecordHome = false ∧ 1 ≤ params.records ∧ params.records + 1 < 2 ^ 32 ∧
      2 ≤ (params.records + 1) % [0, 1, 2].length ∧
      ∀ fuel g rnd out, recordLoop Rng.tape w fuel ⟨[0], [0, 1, 2], true, List.replicate 4 false⟩
        (List.range params.records) [] g rnd ≠ .ok out := by
  dsimp only
  exact ⟨(rfl : BasicWorkload.create threeRegions 0 fourRecords.params [0, 0, 1, 3, 10, 11, 12] [] = .ok fourRecords),
    (rfl : nextTransaction Rng.tape fourRecords 0 = _), rfl, by decide, by decide, by decide,
    @default_path_reads_past_last_home _ Rng.tape _ (by rfl) (by decide) (by decide) _ (by decide)⟩

/-! ### The per-record path -/

/-- With `nearest` set, as by default, and no multi-home draw, `access_coop` or `sh_home`, the
only selected home is the local region. On the per-record path the second record reads past
it, so `NextTransaction` never returns, whatever the other draws. -/
theorem nearest_perRecord_never_returns (perRecord : w.params.perRecordHome = true)
    (noCoop : w.params.accessCoop = false) (noShHome : w.params.shHome < 0)
    (nearest : w.params.nearest ≠ 0) (several : 2 ≤ w.params.records)
    (singleHome : ∀ g, (rng.bernoulli w.params.mh g).1 = false) (fuel : Nat)
    (result : Transaction × TransactionProfile × BasicWorkload G) :
    nextTransaction rng w fuel ≠ .ok result := by
  intro ran
  obtain ⟨_, _, _⟩ := result
  obtain ⟨_, _, _, _, _, _, _, homes, _, _, -, homed, -, -, looped, -⟩ := nextTransaction_eq_ok ran
  have single : homes.selectedHomes = [w.localRegion] := by
    simp [selectHomes, singleHome, noCoop, nearest, not_le.mpr noShHome] at homed
    rw [← homed.1]
  obtain ⟨_, -, related, -⟩ := recordLoop_eq_ok (by simp) looped
  obtain ⟨second, -, produced⟩ := forall₂_range_getElem? related (by omega : 1 < w.params.records)
  have homeAt := produced.home
  simp [perRecord, single] at homeAt

theorem nearest_perRecord_remote_ratio :
    let params := { defaultParams with remoteRatio := 0, inRange := by decide }
    let w : BasicWorkload (List Nat) := ⟨params, twoRegions, 0, [1], 0, [[⟨0, 0, 1⟩, ⟨0, 1, 1⟩]], [], [], 0⟩
    BasicWorkload.create twoRegions 0 params [] [] = .ok w ∧
      params.perRecordHome = true ∧ params.accessCoop = false ∧ params.shHome < 0 ∧
      params.nearest ≠ 0 ∧ 2 ≤ params.records ∧
      (∀ g, (singleDraws.bernoulli params.mh g).1 = false) ∧
      nextTransaction singleDraws w 0 = .error .outOfRange ∧
      ∀ result, nextTransaction singleDraws w 0 ≠ .ok result := by
  dsimp only
  exact ⟨rfl, rfl, rfl, by decide, by decide, by decide, fun _ => rfl, rfl,
    nearest_perRecord_never_returns (by rfl) (by rfl) (by decide) (by decide) (by decide) (fun _ => rfl) 0⟩

/-! ### The key lists -/

/-- A home given by `sh_home` is never checked against the regions. For a generator the
constructor built with `sh_home` at or past the number of regions, and no multi-home draw or
`access_coop`, the first record's key list `partition_to_key_lists_[partition][sh_home]` lies
past the end of its row, so `NextTransaction` never returns. -/
theorem shHome_beyond_regions_never_returns {config region params rg rndStr}
    (created : BasicWorkload.create config region params rg rndStr = .ok w)
    (noCoop : params.accessCoop = false) (chosen : 0 ≤ params.shHome)
    (beyond : config.numReplicas ≤ toUInt32 params.shHome) (several : 1 ≤ params.records)
    (singleHome : ∀ g, (rng.bernoulli params.mh g).1 = false) (fuel : Nat)
    (result : Transaction × TransactionProfile × BasicWorkload G) :
    nextTransaction rng w fuel ≠ .ok result := by
  intro ran
  obtain ⟨rfl, rfl, rows⟩ := create_eq_ok created
  obtain ⟨_, _, _⟩ := result
  obtain ⟨_, _, _, _, _, _, _, homes, _, _, -, homed, -, -, looped, -⟩ := nextTransaction_eq_ok ran
  have single : homes.selectedHomes = [toUInt32 w.params.shHome] := by
    simp [selectHomes, singleHome, noCoop, chosen] at homed
    rw [← homed.1]
  obtain ⟨_, -, related, -⟩ := recordLoop_eq_ok (by simp) looped
  obtain ⟨first, -, produced⟩ := forall₂_range_getElem? related (by omega : 0 < w.params.records)
  obtain ⟨row, keyList, -, rowAt, listAt, -⟩ := produced.key
  have home : first.record.home = toUInt32 w.params.shHome := by
    simpa [single] using List.getElem?_mem produced.home
  have inside := (List.getElem?_eq_some_iff.mp listAt).1
  rw [rows row (List.getElem?_mem rowAt), home] at inside
  omega

theorem shHome_five_of_two_regions :
    let params := { defaultParams with shHome := 5, inRange := by decide }
    let w : BasicWorkload (List Nat) := ⟨params, twoRegions, 0, [1], 0, [[⟨0, 0, 1⟩, ⟨0, 1, 1⟩]], [], [], 0⟩
    BasicWorkload.create twoRegions 0 params [] [] = .ok w ∧
      params.accessCoop = false ∧ 0 ≤ params.shHome ∧ twoRegions.numReplicas ≤ toUInt32 params.shHome ∧
      1 ≤ params.records ∧ (∀ g, (singleDraws.bernoulli params.mh g).1 = false) ∧
      nextTransaction singleDraws w 0 = .error .outOfRange ∧
      ∀ result, nextTransaction singleDraws w 0 ≠ .ok result := by
  dsimp only
  refine ⟨?created, rfl, by decide, by decide, by decide, fun _ => rfl, by rfl,
    shHome_beyond_regions_never_returns ?created rfl (by decide) (by decide) (by decide)
      (fun _ => rfl) 0⟩
  rfl

/-! ### Overlap mode -/

/-- In overlap mode without `access_coop`, every record's key is drawn with the method that one
flag, `local_access`, chooses: all records share one pool, whatever their own homes. -/
theorem overlap_keys_share_one_pool {fuel txn profile w'}
    (ran : nextTransaction rng w fuel = .ok (txn, profile, w'))
    (noCoop : w.params.accessCoop = false) (overlap : 0 ≤ w.params.overlapRatio) :
    ∃ localAccess : Bool, ∀ record ∈ profile.records, ∃ keyList g₀,
      (rng.key keyList (if localAccess then .getLocalKey w.params.overlapRatio
        else .getCommonKey w.params.overlapRatio) g₀).1 = record.1 := by
  obtain ⟨_, _, _, _, _, _, _, homes, _, _, -, -, -, -, looped, -, records, -⟩ :=
    nextTransaction_eq_ok ran
  obtain ⟨_, rfl, related, -⟩ := recordLoop_eq_ok (by simp) looped
  refine ⟨homes.localAccess, fun record member => ?_⟩
  rw [records, List.mem_map] at member
  obtain ⟨entry, member, rfl⟩ := member
  obtain ⟨_, -, -, produced⟩ := forall₂_range_mem related member
  obtain ⟨-, keyList, g₀, -, -, drawn⟩ := produced.key
  refine ⟨keyList, g₀, drawn ▸ ?_⟩
  cases homes.localAccess <;> simp [keyDraw, noCoop, Params.isOverlapMode, overlap]

def overlapWorkload : BasicWorkload (List Nat) :=
  ⟨{ defaultParams with overlapRatio := 50, nearest := 0, records := 2, writes := 0, inRange := by decide }, twoRegions, 0,
    [0, 1], 0, [[⟨0, 0, 1⟩, ⟨0, 1, 1⟩]], [0, 0, 0, 10, 0, 90, 7, 8], [], 0⟩

theorem overlap_keys_share_one_pool_two_records :
    ∃ txn profile after, nextTransaction Rng.tape overlapWorkload 0 = .ok (txn, profile, after) ∧
      overlapWorkload.params.accessCoop = false ∧ 0 ≤ overlapWorkload.params.overlapRatio ∧
      ∃ localAccess : Bool, ∀ record ∈ profile.records, ∃ keyList g₀,
        (Rng.tape.key keyList (if localAccess then .getLocalKey overlapWorkload.params.overlapRatio
          else .getCommonKey overlapWorkload.params.overlapRatio) g₀).1 = record.1 :=
  ⟨_, _, _, rfl, rfl, by decide,
    @overlap_keys_share_one_pool _ Rng.tape overlapWorkload 0 _ _ _ rfl rfl (by decide)⟩

/-- Overlap mode over two records: the first record's draw, 10, is within the ratio 50 and
picks the remote region 1; the second's, 90, keeps the local region 0. Both keys come from
`GetLocalKey`, the pool of the second record's draw. -/
theorem overlap_remote_record_draws_local_key :
    (BasicWorkload.create twoRegions 0
        { defaultParams with overlapRatio := 50, nearest := 0, records := 2, writes := 0, inRange := by decide }
        [0, 0, 0, 10, 0, 90, 7, 8] [] >>= fun w => (nextTransaction Rng.tape w 0).map (·.2.1.records)) =
      .ok [("local7", ⟨false, false, 1, 0⟩), ("local8", ⟨false, false, 0, 0⟩)] := by
  rw [show BasicWorkload.create twoRegions 0 _ _ _ = .ok overlapWorkload from rfl]
  rfl

/-! ### The nearest region

The `nearest` parameter: "If set to 1, a SH txn will always be sent to the nearest region, a MH
txn will always have a part that touches the nearest region". Home selection tests `access_coop`
and a non-negative `sh_home` before it, so the promise holds where neither is set. -/

theorem selectHomes_nearest {isMultiHome : Bool} {g homes g'} (nearest : w.params.nearest ≠ 0)
    (noCoop : w.params.accessCoop = false) (noShHome : w.params.shHome < 0)
    (selected : selectHomes rng w isMultiHome g = .ok (homes, g')) :
    homes.isMultiHome = isMultiHome ∧ homes.selectedHomes.head? = some w.localRegion ∧
      (isMultiHome = false → homes.selectedHomes = [w.localRegion]) := by
  unfold selectHomes at selected
  cases isMultiHome with
  | true =>
    simp only [if_true, nearest, ne_eq, not_false_eq_true] at selected
    split_ifs at selected
    obtain ⟨rfl, -⟩ := Prod.mk.inj (Except.ok.inj selected)
    exact ⟨rfl, rfl, nofun⟩
  | false =>
    simp only [Bool.false_eq_true, if_false, noCoop, Int.not_le.mpr noShHome, nearest, ne_eq,
      not_false_eq_true, if_true, Except.ok.injEq] at selected
    obtain ⟨rfl, -⟩ := Prod.mk.inj selected
    exact ⟨rfl, rfl, fun _ => rfl⟩

/-- With `nearest` set, and neither `access_coop` nor a non-negative `sh_home`, every transaction
`NextTransaction` returns has its first record homed at the local region, and every record of
one that is not multi-home. -/
theorem nearest_records_at_local_region {fuel txn profile w'} (nearest : w.params.nearest ≠ 0)
    (noCoop : w.params.accessCoop = false) (noShHome : w.params.shHome < 0)
    (ran : nextTransaction rng w fuel = .ok (txn, profile, w')) :
    (∀ first ∈ profile.records.head?, first.2.home = w.localRegion) ∧
      (profile.isMultiHome = false → ∀ record ∈ profile.records, record.2.home = w.localRegion) := by
  obtain ⟨_, _, _, _, _, _, _, homes, _, entries, -, homed, scanned, -, looped, -, records, -⟩ :=
    nextTransaction_eq_ok ran
  obtain ⟨flag, startsLocal, alone⟩ := selectHomes_nearest nearest noCoop noShHome homed
  obtain ⟨_, rfl, related, -⟩ := recordLoop_eq_ok (by simp) looped
  rw [records]
  refine ⟨fun first member => ?_, fun single record member => ?_⟩
  · -- record 0 reads the first selected home on either path
    rw [List.head?_eq_getElem?, List.getElem?_map] at member
    obtain ⟨entry, found, rfl⟩ := Option.mem_map.mp member
    have inside : 0 < w.params.records := by
      simpa [← related.length_eq] using (List.getElem?_eq_some_iff.mp (Option.mem_def.mp found)).1
    obtain ⟨other, again, produced⟩ := forall₂_range_getElem? related inside
    obtain rfl := Option.some.inj (again.symm.trans found)
    have home := produced.home
    rw [List.head?_eq_getElem?] at startsLocal
    simp only [Nat.zero_div, ite_self] at home
    exact Option.some.inj (home.symm.trans startsLocal)
  · obtain ⟨entry, found, rfl⟩ := List.mem_map.mp member
    obtain ⟨_, _, _, produced⟩ := forall₂_range_mem related found
    have draw : homes.isMultiHome = false := Bool.eq_false_iff.mpr fun drawn =>
      absurd ((scanHomes_eq_ok scanned).mpr (.inl drawn)) (by simp [single])
    have home := produced.home
    rw [alone (flag ▸ draw)] at home
    exact List.mem_singleton.mp (List.getElem?_mem home)

theorem nearest_records_at_local_region_sample :
    let txn : Transaction := ⟨0, [("hot3", .write), ("cold4", .read)],
      [["SET", "hot3", "xxx"], ["GET", "cold4"]]⟩
    let profile : TransactionProfile :=
      ⟨0, false, false, [("hot3", ⟨true, true, 0, 0⟩), ("cold4", ⟨false, false, 0, 0⟩)]⟩
    let after := { sampleWorkload with rg := [], clientTxnIdCounter := 1 }
    sampleWorkload.params.nearest ≠ 0 ∧ sampleWorkload.params.accessCoop = false ∧
      sampleWorkload.params.shHome < 0 ∧ nextTransaction Rng.tape sampleWorkload 0 = .ok (txn, profile, after) ∧
      (∀ first ∈ profile.records.head?, first.2.home = sampleWorkload.localRegion) ∧
      (profile.isMultiHome = false → ∀ record ∈ profile.records, record.2.home = sampleWorkload.localRegion) := by
  intro txn profile after
  have ran : nextTransaction Rng.tape sampleWorkload 0 = .ok (txn, profile, after) := rfl
  exact ⟨by decide, rfl, by decide, ran, nearest_records_at_local_region (by decide) rfl (by decide) ran⟩

end Slog.Proofs.WorkloadHomes
