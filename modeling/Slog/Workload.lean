import Slog.Basic
import Mathlib.Algebra.Order.Ring.Rat

/-! The basic workload generator: the parameters it reads, the random draws it makes, and
`NextTransaction`, which picks the partitions and the home regions of a transaction and then
one fresh key per record. -/

namespace Slog

/-- The workload parameters as `GetDouble`, `GetUInt32`, `GetInt32` and `GetBool` return them.
The percentages `mh` and `mp` are kept as exact rationals; `inRange` says that the unsigned fields
hold `uint32_t` values and the signed ones `int32_t` values. -/
structure Params where
  mh : ℚ
  mhHomes : Nat
  mhZipf : Int
  mp : ℚ
  mpParts : Nat
  hot : Nat
  records : Nat
  hotRecords : Nat
  writes : Nat
  valueSize : Nat
  nearest : Int
  spPartition : Int
  shHome : Int
  overlapRatio : Int
  accessCoop : Bool
  bias : Int
  remoteRatio : Int
  migrationRange : Int
  inRange : (∀ value ∈ [mhHomes, mpParts, hot, records, hotRecords, writes, valueSize], value < 2 ^ 32) ∧
    ∀ value ∈ [mhZipf, nearest, spPartition, shHome, overlapRatio, bias, remoteRatio, migrationRange],
      -2 ^ 31 ≤ value ∧ value < 2 ^ 31

def defaultParams : Params :=
  ⟨0, 2, 0, 0, 2, 0, 10, 0, 10, 50, 1, -1, -1, -1, false, 0, -1, 0, by decide⟩

namespace Params

def isOverlapMode (params : Params) : Bool := decide (0 ≤ params.overlapRatio)

def isRemoteRatioMode (params : Params) : Bool := decide (0 ≤ params.remoteRatio)

def isMigrationMode (params : Params) : Bool := params.migrationRange != 0

def perRecordHome (params : Params) : Bool :=
  params.isRemoteRatioMode || params.isMigrationMode || params.accessCoop || params.isOverlapMode

theorem overlapRatio_int32 (params : Params) :
    -2 ^ 31 ≤ params.overlapRatio ∧ params.overlapRatio < 2 ^ 31 :=
  params.inRange.2 _ (by simp)

theorem remoteRatio_int32 (params : Params) :
    -2 ^ 31 ≤ params.remoteRatio ∧ params.remoteRatio < 2 ^ 31 :=
  params.inRange.2 _ (by simp)

end Params

/-- A key list of `partition_to_key_lists_`, for one partition and one region. `KeyList` is not
among the modelled files: the model keeps its place and its hot-key limit, and the keys drawn
from it come from `Rng.key`. -/
structure KeyList where
  partition : Nat
  replica : Nat
  hotKeys : Nat
  deriving DecidableEq, Repr

inductive KeyDraw where
  | getRamdomKey (bias : Int)
  | getLocalKey (ratio : Int)
  | getCommonKey (ratio : Int)
  | getRandomHotKey
  | getRandomColdKey
  deriving DecidableEq, Repr

/-- The random draws of the generator, as functions of a generator state: `rg_` for all of them
but `randomString`, which `rnd_str_` makes. `bernoulli percent` is the draw of
`bernoulli_distribution(percent / 100)`. `zipf_sample` and the key lists are not among the
modelled files. The fields below are what the standard library promises: a Bernoulli draw of
probability 0 is never true and one of probability 1 always is, `uniform_int_distribution`
stays within its bounds and `shuffle` permutes. -/
structure Rng (G : Type) where
  bernoulli : ℚ → G → Bool × G
  uniformInt : Nat → Nat → G → Nat × G
  shuffle : {α : Type} → List α → G → List α × G
  zipfSample : Int → List Nat → Nat → G → List Nat × G
  key : KeyList → KeyDraw → G → Key × G
  randomString : Nat → G → String × G
  uniformInt_mem : ∀ low high g, low ≤ high →
    low ≤ (uniformInt low high g).1 ∧ (uniformInt low high g).1 ≤ high
  shuffle_perm : ∀ {α : Type} (values : List α) g, (shuffle values g).1.Perm values
  bernoulli_impossible : ∀ percent g, percent ≤ 0 → (bernoulli percent g).1 = false
  bernoulli_certain : ∀ percent g, 100 ≤ percent → (bernoulli percent g).1 = true

/-- Why `NextTransaction` does not return: a `CHECK` that aborts with its message, a read past
the end of a vector, an integer division by zero, or a key loop that found no fresh key within
the tries the model gives it. -/
inductive Fault where
  | checkFailed (message : String)
  | outOfRange
  | divisionByZero
  | noFreshKey
  deriving DecidableEq, Repr

structure Record where
  isHot : Bool
  isWrite : Bool
  home : Nat
  partition : Nat
  deriving DecidableEq, Repr

/-- `TransactionProfile`. Its `records` map lists its entries in insertion order. -/
structure TransactionProfile where
  clientTxnId : Nat
  isMultiPartition : Bool
  isMultiHome : Bool
  records : List (Key × Record)
  deriving DecidableEq, Repr

structure BasicWorkload (G : Type) where
  params : Params
  config : Configuration
  localRegion : Nat
  distanceRanking : List Nat
  zipfCoef : Int
  partitionToKeyLists : List (List KeyList)
  rg : G
  rndStr : G
  clientTxnIdCounter : Nat

/-- `n - 1` computed in `uint32_t`: zero wraps to `2^32 - 1`. -/
def uint32Pred (n : Nat) : Nat := (n + 2 ^ 32 - 1) % 2 ^ 32

/-- An `int32_t` converted to `uint32_t`, as it is when compared with an unsigned draw. -/
def toUInt32 (value : Int) : Nat := (value % 2 ^ 32).toNat

def readAt {α : Type} (values : List α) (index : Nat) : Except Fault α :=
  match values[index]? with
  | some value => .ok value
  | none => .error .outOfRange

@[simp] theorem readAt_eq_ok {α : Type} {values : List α} {index : Nat} {value : α} :
    readAt values index = .ok value ↔ values[index]? = some value := by
  unfold readAt
  split <;> rename_i found <;> simp [found]

@[simp] theorem bind_eq_ok {α β : Type} {x : Except Fault α} {f : α → Except Fault β} {b : β} :
    x >>= f = .ok b ↔ ∃ a, x = .ok a ∧ f a = .ok b := by
  cases x <;> simp [bind, Except.bind]

@[simp] theorem map_eq_ok {α β : Type} {f : α → β} {x : Except Fault α} {b : β} :
    f <$> x = .ok b ↔ ∃ a, x = .ok a ∧ f a = b := by
  cases x <;> simp [Functor.map, Except.map]

@[simp] theorem throw_eq_error {α : Type} (fault : Fault) :
    (throw fault : Except Fault α) = .error fault := rfl

def resize {α : Type} (values : List α) (size : Nat) (fill : α) : List α :=
  values.take size ++ List.replicate (size - values.length) fill

@[simp] theorem length_resize {α : Type} (values : List α) (size : Nat) (fill : α) :
    (resize values size fill).length = size := by
  simp only [resize, List.length_append, List.length_take, List.length_replicate]
  omega

variable {G : Type}

/-- `BasicWorkload::BasicWorkload`, for parameters already merged with `DEFAULT_PARAMS` and
parsed. Loading the initial data of hash partitioning from files is not modelled: the keys it
adds only shape what `Rng.key` draws. -/
def BasicWorkload.create (config : Configuration) (region : Nat) (params : Params) (rg rndStr : G) :
    Except Fault (BasicWorkload G) :=
  let numReplicas := config.numReplicas
  if numReplicas = 0 then .error .divisionByZero else
  let hotKeysPerList := max 1 (params.hot / numReplicas)
  if config.partitioning = .notSet ∧ 0 < config.numPartitions then
    .error (.checkFailed "Invalid partioning mode: PARTITIONING_NOT_SET") else
  let keyLists := (List.range config.numPartitions).map fun part =>
    (List.range numReplicas).map fun rep => ⟨part, rep, hotKeysPerList⟩
  let given := config.distanceRankingFrom region
  let (ranking, zipfCoef) :=
    if given.isEmpty then
      ((List.range numReplicas).filter (· ≠ region), if 0 < params.mhZipf then 0 else params.mhZipf)
    else (given, params.mhZipf)
  if ranking.length ≠ uint32Pred numReplicas then
    .error (.checkFailed "Distance ranking size must match the number of regions") else
  let ranking := if params.nearest = 0 then region :: ranking else ranking
  .ok ⟨params, config, region, ranking, zipfCoef, keyLists, rg, rndStr, 0⟩

def sampleOnce (rng : Rng G) (source : List Nat) (g : G) : Except Fault (Nat × G) :=
  if source.isEmpty then .error (.checkFailed "!source.empty()") else
  let (index, g) := rng.uniformInt 0 (source.length - 1) g
  (readAt source index).map (·, g)

def repeatDraws {α : Type} (body : G → Except Fault (α × G)) : Nat → G → Except Fault (List α × G)
  | 0, g => .ok ([], g)
  | count + 1, g => do
    let (value, g) ← body g
    let (values, g) ← repeatDraws body count g
    pure (value :: values, g)

structure Homes where
  selectedHomes : List Nat
  isMultiHome : Bool
  localAccess : Bool
  deriving DecidableEq, Repr

/-- What one iteration of the record loop adds: the key with its profile record, the key's type
and its line of code. `keys`, `code` and `pro.records` grow together, one entry per iteration,
so the model keeps one list of these. -/
structure RecordEntry where
  key : Key
  record : Record
  keyType : KeyType
  code : List String
  deriving DecidableEq, Repr

structure RecordContext where
  selectedPartitions : List Nat
  selectedHomes : List Nat
  localAccess : Bool
  isHot : List Bool
  deriving DecidableEq, Repr

namespace BasicWorkload

variable (rng : Rng G) (w : BasicWorkload G)

def selectPartitions (isMultiPartition : Bool) (g : G) : Except Fault (List Nat × G) :=
  let numPartitions := w.config.numPartitions
  if isMultiPartition then
    if numPartitions < 2 then .error (.checkFailed "There must be at least 2 partitions for MP txns") else
    let (shuffled, g) := rng.shuffle (List.range numPartitions) g
    let maxNumPartitions := min numPartitions w.params.mpParts
    if maxNumPartitions < 2 then
      .error (.checkFailed "At least 2 partitions must be selected for MP txns") else
    let (count, g) := rng.uniformInt 2 maxNumPartitions g
    .ok (resize shuffled count 0, g)
  else if w.params.spPartition < 0 then
    let (partition, g) := rng.uniformInt 0 (uint32Pred numPartitions) g
    .ok ([partition], g)
  else if w.params.spPartition.toNat < numPartitions then .ok ([w.params.spPartition.toNat], g)
  else .error (.checkFailed "Selected single-partition partition does not exist")

def remoteRegions : List Nat := (List.range w.config.numReplicas).filter (· != w.localRegion)

def accessCoopHome (g : G) : Except Fault ((Nat × Bool) × G) :=
  let (draw, g) := rng.uniformInt 1 100 g
  if draw ≤ toUInt32 w.params.overlapRatio then
    let (pick, g) := rng.uniformInt 0 (uint32Pred w.distanceRanking.length) g
    (readAt w.distanceRanking pick).map fun home => ((home, true), g)
  else .ok ((w.localRegion, false), g)

def overlapHome (g : G) : Except Fault ((Nat × Bool) × G) :=
  let (draw, g) := rng.uniformInt 1 100 g
  if toUInt32 w.params.overlapRatio < draw then .ok ((w.localRegion, true), g)
  else (sampleOnce rng w.remoteRegions g).map fun (home, g) => ((home, false), g)

def remoteRatioHome (g : G) : Except Fault (Nat × G) :=
  let (draw, g) := rng.uniformInt 0 1000 g
  if draw < toUInt32 w.params.remoteRatio then sampleOnce rng w.remoteRegions g
  else .ok (w.localRegion, g)

def migrationHome (g : G) : Except Fault (Nat × G) :=
  let (draw, g) := rng.uniformInt 1 (toUInt32 (100 + w.params.migrationRange)) g
  if 100 < draw then sampleOnce rng w.remoteRegions g
  else .ok (w.localRegion, g)

def selectHomes (isMultiHome : Bool) (g : G) : Except Fault (Homes × G) :=
  let numReplicas := w.config.numReplicas
  let p := w.params
  if isMultiHome then
    if numReplicas < 2 then .error (.checkFailed "There must be at least 2 regions for MH txns") else
    let maxNumHomes := min p.mhHomes numReplicas
    if maxNumHomes < 2 then .error (.checkFailed "At least 2 regions must be selected for MH txns") else
    let (numHomes, g) := rng.uniformInt 2 maxNumHomes g
    let nearest := if p.nearest ≠ 0 then [w.localRegion] else []
    let (sampled, g) := rng.zipfSample w.zipfCoef w.distanceRanking (numHomes - nearest.length) g
    .ok (⟨nearest ++ sampled, isMultiHome, true⟩, g)
  else if p.accessCoop then do
    let (picks, g) ← repeatDraws (accessCoopHome rng w) p.records g
    pure (⟨picks.map Prod.fst, isMultiHome || picks.any Prod.snd, true⟩, g)
  else if 0 ≤ p.shHome then .ok (⟨[toUInt32 p.shHome], isMultiHome, true⟩, g)
  else if p.nearest ≠ 0 then .ok (⟨[w.localRegion], isMultiHome, true⟩, g)
  else if p.isOverlapMode then do
    let (picks, g) ← repeatDraws (overlapHome rng w) p.records g
    pure (⟨picks.map Prod.fst, isMultiHome, picks.getLast?.elim true Prod.snd⟩, g)
  else if p.isRemoteRatioMode then do
    let (homes, g) ← repeatDraws (remoteRatioHome rng w) p.records g
    pure (⟨homes, isMultiHome, true⟩, g)
  else if p.isMigrationMode then
    if p.migrationRange < 0 then .ok (⟨List.replicate p.records w.localRegion, isMultiHome, true⟩, g)
    else do
      let (homes, g) ← repeatDraws (migrationHome rng w) p.records g
      pure (⟨homes, isMultiHome, true⟩, g)
  else
    let (home, g) := rng.uniformInt 0 (uint32Pred numReplicas) g
    .ok (⟨[home], isMultiHome, true⟩, g)

def scanHomes (selectedHomes : List Nat) (isMultiHome : Bool) : Except Fault Bool :=
  match selectedHomes with
  | [] => .error .outOfRange
  | first :: rest => .ok (isMultiHome || rest.any (· != first))

def hotFlags (g : G) : Except Fault (List Bool × G) :=
  let p := w.params
  if p.records < p.writes then
    .error (.checkFailed "Number of writes cannot exceed number of records in a transaction!")
  else if p.records < p.hotRecords then
    .error (.checkFailed "Number of hot records cannot exceed number of records in a transaction!")
  else .ok (rng.shuffle (resize (List.replicate p.hotRecords true) p.records false) g)

def keyDraw (localAccess : Bool) (home : Nat) (isHot : Bool) : KeyDraw :=
  let p := w.params
  if p.accessCoop then .getRamdomKey p.bias
  else if p.isOverlapMode && localAccess then .getLocalKey p.overlapRatio
  else if p.isOverlapMode && !localAccess then .getCommonKey p.overlapRatio
  else if p.isRemoteRatioMode then .getLocalKey 0
  else if p.isMigrationMode then
    if home = w.localRegion then .getLocalKey 0 else .getLocalKey (100 - p.migrationRange)
  else if isHot then .getRandomHotKey
  else .getRandomColdKey

/-- The `for (;;)` loop: draws from `keyList` until a key not yet in the profile comes up. The
model allows `fuel` more tries after the first. -/
def freshKey (keyList : KeyList) (draw : KeyDraw) (taken : List Key) : Nat → G → Except Fault (Key × G)
  | fuel, g =>
    let (key, g) := rng.key keyList draw g
    if key ∉ taken then .ok (key, g) else
    match fuel with
    | 0 => .error .noFreshKey
    | fuel + 1 => freshKey keyList draw taken fuel g

/-- Where record `index` goes (lines 325-329): its partition and its home. A `selected_homes`
with no entry gives `span` zero as well. -/
def recordPlace (context : RecordContext) (index : Nat) : Except Fault (Nat × Nat) := do
  let partitions := context.selectedPartitions
  let homes := context.selectedHomes
  if partitions.length = 0 then throw .divisionByZero else
  let partition ← readAt partitions (index % partitions.length)
  let span := (w.params.records + 1) % 2 ^ 32 / homes.length
  if span = 0 then throw .divisionByZero else
  let home ← readAt homes (index / span)
  if w.params.perRecordHome then (partition, ·) <$> readAt homes index
  else pure (partition, home)

def recordStep (fuel : Nat) (context : RecordContext) (entries : List RecordEntry) (index : Nat)
    (g rnd : G) : Except Fault (RecordEntry × G × G) := do
  let (partition, home) ← recordPlace w context index
  let isHot ← readAt context.isHot index
  let keyList ← readAt w.partitionToKeyLists partition >>= (readAt · home)
  let (key, g) ←
    freshKey rng keyList (keyDraw w context.localAccess home isHot) (entries.map (·.key)) fuel g
  let record : Record := ⟨isHot, decide (index < w.params.writes), home, partition⟩
  if index < w.params.writes then
    let (value, rnd) := rng.randomString w.params.valueSize rnd
    pure (⟨key, record, .write, ["SET", key, value]⟩, g, rnd)
  else pure (⟨key, record, .read, ["GET", key]⟩, g, rnd)

def recordLoop (fuel : Nat) (context : RecordContext) :
    List Nat → List RecordEntry → G → G → Except Fault (List RecordEntry × G × G)
  | [], entries, g, rnd => .ok (entries, g, rnd)
  | index :: indices, entries, g, rnd => do
    let (entry, g, rnd) ← recordStep rng w fuel context entries index g rnd
    recordLoop fuel context indices (entries ++ [entry]) g rnd

/-- `NextTransaction`: the transaction, its profile, and the generator after it. `fuel` bounds
the retries of each key loop. -/
def nextTransaction (fuel : Nat) :
    Except Fault (Transaction × TransactionProfile × BasicWorkload G) := do
  let p := w.params
  let (isMultiPartition, g) := rng.bernoulli p.mp w.rg
  let (selectedPartitions, g) ← selectPartitions rng w isMultiPartition g
  let (isMultiHome, g) := rng.bernoulli p.mh g
  let (homes, g) ← selectHomes rng w isMultiHome g
  let isMultiHome ← scanHomes homes.selectedHomes homes.isMultiHome
  let (isHot, g) ← hotFlags rng w g
  let context : RecordContext := ⟨selectedPartitions, homes.selectedHomes, homes.localAccess, isHot⟩
  let (entries, g, rnd) ← recordLoop rng w fuel context (List.range p.records) [] g w.rndStr
  pure (⟨w.clientTxnIdCounter, entries.map fun e => (e.key, e.keyType), entries.map (·.code)⟩,
    ⟨w.clientTxnIdCounter, isMultiPartition, isMultiHome, entries.map fun e => (e.key, e.record)⟩,
    { w with rg := g, rndStr := rnd, clientTxnIdCounter := w.clientTxnIdCounter + 1 })

end BasicWorkload

def KeyDraw.name : KeyDraw → String
  | .getRamdomKey _ => "random"
  | .getLocalKey _ => "local"
  | .getCommonKey _ => "common"
  | .getRandomHotKey => "hot"
  | .getRandomColdKey => "cold"

/-- A scripted generator: each draw takes the next number of a tape, and an empty tape answers
with the lowest outcome. A uniform draw clamps the number into its range, a Bernoulli draw below
certainty and above impossibility is true on a nonzero number, a shuffle keeps the order, a Zipf sample takes the nearest regions,
and a key is named after the `KeyList` method that drew it and its number. It meets the
contract of `Rng`, and it gives the runs below fixed draws. -/
def Rng.tape : Rng (List Nat) where
  bernoulli percent tape :=
    (if percent ≤ 0 then false else if 100 ≤ percent then true else tape.headD 0 != 0, tape.tail)
  uniformInt low high tape := (max low (min high (tape.headD low)), tape.tail)
  shuffle values tape := (values, tape)
  zipfSample _ ranking count tape := (ranking.take count, tape)
  key _ draw tape := (draw.name ++ toString (tape.headD 0), tape.tail)
  randomString size tape := (String.mk (List.replicate size 'x'), tape)
  uniformInt_mem _ _ _ ordered := by dsimp only; omega
  shuffle_perm values _ := List.Perm.refl values
  bernoulli_impossible _ _ impossible := by simp [impossible]
  bernoulli_certain _ _ certain := by
    simp [certain, not_le.mpr (lt_of_lt_of_le (by decide : (0 : ℚ) < 100) certain)]

end Slog
