import Slog.Proofs.WorkloadRecords

/-! How many outcomes of a record's draw make it remote. The unsigned draw is compared with the
ratio read as a `uint32_t`, so a negative ratio makes every `access_coop` draw remote, and the
`remote_ratio` draw has 1001 outcomes, not 1000. -/

namespace Slog.Proofs.RemoteDraws
open BasicWorkload

variable {G : Type} (rng : Rng G) (w : BasicWorkload G)

theorem sampleOnce_mem {source : List Nat} {g : G} {value g'}
    (sampled : sampleOnce rng source g = .ok (value, g')) : value ∈ source := by
  unfold sampleOnce at sampled
  split_ifs at sampled
  generalize rng.uniformInt 0 (source.length - 1) g = drawn at sampled
  obtain ⟨index, _⟩ := drawn
  cases read : readAt source index with
  | error => simp [read, Except.map] at sampled
  | ok found =>
    simp only [read, Except.map, Except.ok.injEq, Prod.mk.injEq] at sampled
    obtain ⟨rfl, -⟩ := sampled
    exact List.getElem?_mem (readAt_eq_ok.mp read)

theorem ne_localRegion_of_mem_remoteRegions {value : Nat} (remote : value ∈ w.remoteRegions) :
    value ≠ w.localRegion := by
  intro same
  simp [remoteRegions, same] at remote

theorem sampled_ne_local_iff {remote : Prop} [Decidable remote] (g : G) :
    (if remote then sampleOnce rng w.remoteRegions g else .ok (w.localRegion, g)) ≠
      .ok (w.localRegion, g) ↔ remote := by
  split_ifs with chosen
  · simp only [chosen, iff_true]
    intro sampled
    exact ne_localRegion_of_mem_remoteRegions w (sampleOnce_mem rng sampled) rfl
  · simp [chosen]

/-! ### One record's decision -/

theorem accessCoopHome_remote_iff (g : G) :
    accessCoopHome rng w g ≠ .ok ((w.localRegion, false), (rng.uniformInt 1 100 g).2) ↔
      (rng.uniformInt 1 100 g).1 ≤ toUInt32 w.params.overlapRatio := by
  unfold accessCoopHome
  generalize rng.uniformInt 1 100 g = drawn
  obtain ⟨draw, g₁⟩ := drawn
  dsimp only
  split_ifs with remote
  · simp only [remote, iff_true, Except.map]
    split <;> simp
  · simp [remote]

theorem overlapHome_remote_iff (g : G) :
    overlapHome rng w g ≠ .ok ((w.localRegion, true), (rng.uniformInt 1 100 g).2) ↔
      (rng.uniformInt 1 100 g).1 ≤ toUInt32 w.params.overlapRatio := by
  unfold overlapHome
  generalize rng.uniformInt 1 100 g = drawn
  obtain ⟨draw, g₁⟩ := drawn
  dsimp only
  split_ifs with stays
  · simp [Nat.not_le.mpr stays]
  · simp only [Nat.not_lt.mp stays, iff_true, Except.map]
    split <;> simp

theorem remoteRatioHome_remote_iff (g : G) :
    remoteRatioHome rng w g ≠ .ok (w.localRegion, (rng.uniformInt 0 1000 g).2) ↔
      (rng.uniformInt 0 1000 g).1 < toUInt32 w.params.remoteRatio := by
  unfold remoteRatioHome
  generalize rng.uniformInt 0 1000 g = drawn
  obtain ⟨draw, g₁⟩ := drawn
  exact sampled_ne_local_iff rng w g₁

/-! ### Counting the outcomes -/

theorem length_filter_range'_le (bound : Nat) : ∀ count : Nat,
    ((List.range' 1 count).filter (· ≤ bound)).length = min bound count
  | 0 => by simp
  | count + 1 => by
    rw [List.range'_1_concat, List.filter_append, List.length_append, length_filter_range'_le bound count]
    simp only [List.filter_cons, List.filter_nil, decide_eq_true_eq]
    split <;> simp only [List.length_cons, List.length_nil] <;> omega

theorem length_filter_range'_lt (bound : Nat) : ∀ count : Nat,
    ((List.range' 0 count).filter (· < bound)).length = min bound count
  | 0 => by simp
  | count + 1 => by
    rw [List.range'_concat, List.filter_append, List.length_append, length_filter_range'_lt bound count]
    simp only [List.filter_cons, List.filter_nil, decide_eq_true_eq]
    split <;> simp only [List.length_cons, List.length_nil] <;> omega

/-- An `int32_t` read as a `uint32_t` keeps a value from 0 on and moves a negative one past
`2^31`, above every bound a draw here has. -/
theorem min_toUInt32 {value : Int} (int32 : -2 ^ 31 ≤ value ∧ value < 2 ^ 31) (bound : Nat)
    (small : bound ≤ 2 ^ 31) :
    min (toUInt32 value) bound = if 0 ≤ value then min value.toNat bound else bound := by
  unfold toUInt32
  split_ifs with nonneg
  · rw [Int.emod_eq_of_lt nonneg (by omega)]
  · rw [min_eq_right]
    omega

/-- The outcomes of a record's draw that make it remote, for `int32_t` ratios. An `access_coop`
or overlap-mode record draws over `1, …, 100` and is remote exactly when the draw is at most
the ratio read as a `uint32_t`: `min ratio 100` of the 100 outcomes for a ratio from 0 on, and
all 100 for a negative one, the default `-1` included (overlap mode itself needs a ratio from
0 on). A `remote_ratio` record draws over `0, …, 1000`, 1001 outcomes, and is remote for
`min ratio 1001` of them. -/
theorem remote_draw_outcomes :
    (∀ (rng : Rng G) g,
      (accessCoopHome rng w g ≠ .ok ((w.localRegion, false), (rng.uniformInt 1 100 g).2) ↔
        (rng.uniformInt 1 100 g).1 ≤ toUInt32 w.params.overlapRatio) ∧
      (overlapHome rng w g ≠ .ok ((w.localRegion, true), (rng.uniformInt 1 100 g).2) ↔
        (rng.uniformInt 1 100 g).1 ≤ toUInt32 w.params.overlapRatio) ∧
      (remoteRatioHome rng w g ≠ .ok (w.localRegion, (rng.uniformInt 0 1000 g).2) ↔
        (rng.uniformInt 0 1000 g).1 < toUInt32 w.params.remoteRatio)) ∧
    ((List.range' 1 100).filter (· ≤ toUInt32 w.params.overlapRatio)).length =
      (if 0 ≤ w.params.overlapRatio then min w.params.overlapRatio.toNat 100 else 100) ∧
    ((List.range' 0 1001).filter (· < toUInt32 w.params.remoteRatio)).length =
      (if 0 ≤ w.params.remoteRatio then min w.params.remoteRatio.toNat 1001 else 1001) := by
  refine ⟨fun rng g => ⟨accessCoopHome_remote_iff rng w g, overlapHome_remote_iff rng w g,
    remoteRatioHome_remote_iff rng w g⟩, ?_, ?_⟩
  · rw [length_filter_range'_le, min_toUInt32 w.params.overlapRatio_int32 100 (by omega)]
  · rw [length_filter_range'_lt, min_toUInt32 w.params.remoteRatio_int32 1001 (by omega)]

theorem remote_draw_outcomes_access_coop_default :
    let params := { defaultParams with accessCoop := true, inRange := by decide }
    let w : BasicWorkload (List Nat) :=
      ⟨params, WorkloadRecords.twoRegions, 0, [1], 0, [[⟨0, 0, 1⟩, ⟨0, 1, 1⟩]], [], [], 0⟩
    BasicWorkload.create WorkloadRecords.twoRegions 0 params [] [] = .ok w ∧
      (∀ (rng : Rng (List Nat)) g,
        (accessCoopHome rng w g ≠ .ok ((w.localRegion, false), (rng.uniformInt 1 100 g).2) ↔
          (rng.uniformInt 1 100 g).1 ≤ toUInt32 w.params.overlapRatio) ∧
        (overlapHome rng w g ≠ .ok ((w.localRegion, true), (rng.uniformInt 1 100 g).2) ↔
          (rng.uniformInt 1 100 g).1 ≤ toUInt32 w.params.overlapRatio) ∧
        (remoteRatioHome rng w g ≠ .ok (w.localRegion, (rng.uniformInt 0 1000 g).2) ↔
          (rng.uniformInt 0 1000 g).1 < toUInt32 w.params.remoteRatio)) ∧
      ((List.range' 1 100).filter (· ≤ toUInt32 w.params.overlapRatio)).length =
        (if 0 ≤ w.params.overlapRatio then min w.params.overlapRatio.toNat 100 else 100) ∧
      ((List.range' 0 1001).filter (· < toUInt32 w.params.remoteRatio)).length =
        (if 0 ≤ w.params.remoteRatio then min w.params.remoteRatio.toNat 1001 else 1001) := by
  dsimp only
  exact ⟨by rfl, remote_draw_outcomes _⟩

def coopOneRecord : BasicWorkload (List Nat) :=
  ⟨{ defaultParams with accessCoop := true, records := 1, writes := 1, inRange := by decide },
    WorkloadRecords.twoRegions, 0, [1], 0, [[⟨0, 0, 1⟩, ⟨0, 1, 1⟩]], [0, 0, 0, 100, 0, 5], [], 0⟩

/-- The top draw, 100, still makes the single record of a transaction remote: its home is the
other region, and the transaction is multi-home although its multi-home draw was false. -/
example : (BasicWorkload.create WorkloadRecords.twoRegions 0
      { defaultParams with accessCoop := true, records := 1, writes := 1, inRange := by decide }
        [0, 0, 0, 100, 0, 5] [] >>=
        fun w => (nextTransaction Rng.tape w 0).map (·.2.1)) =
    .ok ⟨0, false, true, [("random5", ⟨false, true, 1, 0⟩)]⟩ := by
  rw [show BasicWorkload.create WorkloadRecords.twoRegions 0 _ _ _ = .ok coopOneRecord from rfl]
  rfl

end Slog.Proofs.RemoteDraws
