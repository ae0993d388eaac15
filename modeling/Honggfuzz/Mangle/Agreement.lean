import Honggfuzz.Mangle.Buffer

/-!
Agreement between two runs. The spec leaves the bytes `input_setSize` exposes
by growth undefined, so a session replays from its input only if it reads no
byte past it; the buffer behind `dynamicFile` has room for `maxFileSz` bytes.
`AgreeTo r` relates two runs that agree on all a reader with reach `r` sees:
the configuration, the size, the per-run bound, the oracle, and the storage
below the size (`Agree`) or below `maxFileSz` (`AgreeCap`). Each buffer
primitive keeps the agreement at either reach when what it reads lies within
reach.
-/

namespace Honggfuzz.Mangle

variable {σ : Type}

/-- How far into the storage a reader looks: the input, or the whole buffer. -/
inductive Reach where
  | input
  | capacity

/-- The bytes within reach lie below this bound, given `maxFileSz` and the size. -/
def Reach.bound : Reach → Nat → Nat → Nat
  | .input, _, size => size
  | .capacity, maxFileSz, _ => maxFileSz

theorem Reach.size_le_bound (r : Reach) {maxFileSz size : Nat} (fits : size ≤ maxFileSz) :
    size ≤ r.bound maxFileSz size := by
  cases r
  · exact Nat.le_refl size
  · exact fits

theorem Reach.bound_mono (r : Reach) (maxFileSz : Nat) {size size' : Nat} (le : size ≤ size') :
    r.bound maxFileSz size ≤ r.bound maxFileSz size' := by
  cases r
  · exact le
  · exact Nat.le_refl maxFileSz

/-- Two runs that agree on all a reader with reach `r` sees. -/
structure AgreeTo (r : Reach) (a b : Run σ) : Prop where
  global : a.global = b.global
  size : a.dynamicFileSz = b.dynamicFileSz
  mutationsPerRun : a.mutationsPerRun = b.mutationsPerRun
  rnd : a.rnd = b.rnd
  bytes : ∀ i < r.bound a.global.maxFileSz a.dynamicFileSz, a.dynamicFile i = b.dynamicFile i

/-- Two runs that agree on all a session may read by the spec: the
configuration, the size, the bytes below it, the per-run bound and the oracle. -/
abbrev Agree (a b : Run σ) : Prop := AgreeTo .input a b

/-- Two runs that agree on the configuration, the size, the per-run bound, the
oracle and the storage below `maxFileSz`. -/
abbrev AgreeCap (a b : Run σ) : Prop := AgreeTo .capacity a b

namespace AgreeTo

variable {r : Reach} {a b : Run σ}

theorem refl (r : Reach) (a : Run σ) : AgreeTo r a a := ⟨rfl, rfl, rfl, rfl, fun _ _ => rfl⟩

/-- Runs that agree at any reach agree on an input that fits the buffer. -/
theorem toAgree (agree : AgreeTo r a b) (fits : a.dynamicFileSz ≤ a.global.maxFileSz) :
    Agree a b :=
  ⟨agree.global, agree.size, agree.mutationsPerRun, agree.rnd,
    fun i below => agree.bytes i (Nat.lt_of_lt_of_le below (r.size_le_bound fits))⟩

theorem check (agree : AgreeTo r a b) {ok₁ ok₂ : Prop} [Decidable ok₁] [Decidable ok₂]
    {f₁ f₂ : Fault} : AgreeTo r (a.check ok₁ f₁) (b.check ok₂ f₂) :=
  ⟨agree.global, agree.size, agree.mutationsPerRun, agree.rnd, agree.bytes⟩

theorem raise (agree : AgreeTo r a b) (f₁ f₂ : Fault) : AgreeTo r (a.raise f₁) (b.raise f₂) :=
  ⟨agree.global, agree.size, agree.mutationsPerRun, agree.rnd, agree.bytes⟩

theorem withRnd (agree : AgreeTo r a b) (s : σ) : AgreeTo r (a.withRnd s) (b.withRnd s) :=
  ⟨agree.global, agree.size, agree.mutationsPerRun, rfl, agree.bytes⟩

/-- `input_setSize` keeps the agreement when it brings no new byte within reach. -/
theorem setSize (agree : AgreeTo r a b) {sz : Nat}
    (cut : r.bound a.global.maxFileSz sz ≤ r.bound a.global.maxFileSz a.dynamicFileSz) :
    AgreeTo r (inputSetSize sz a) (inputSetSize sz b) :=
  ⟨agree.global, rfl, agree.mutationsPerRun, agree.rnd,
    fun i below => agree.bytes i (Nat.lt_of_lt_of_le below cut)⟩

/-- A store keeps the agreement when the two sources agree wherever they land
within reach. -/
theorem store (agree : AgreeTo r a b) {off len : Nat} {src₁ src₂ : Nat → UInt8}
    (same : ∀ k < len, off + k < r.bound a.global.maxFileSz a.dynamicFileSz → src₁ k = src₂ k) :
    AgreeTo r (a.store off len src₁) (b.store off len src₂) := by
  refine ⟨agree.global, agree.size, agree.mutationsPerRun, agree.rnd, fun i below => ?_⟩
  have below : i < r.bound a.global.maxFileSz a.dynamicFileSz := below
  simp only [Run.store_dynamicFile]
  split_ifs with inside
  · exact same _ (by omega) (by omega)
  · exact agree.bytes i below

/-- `util_turnToPrintable` rewrites each byte from itself. -/
theorem turnToPrintable (agree : AgreeTo r a b) (off len : Nat) :
    AgreeTo r (utilTurnToPrintable off len a) (utilTurnToPrintable off len b) :=
  agree.store fun _ _ below => congrArg toPrintable (agree.bytes _ below)

theorem overwrite (agree : AgreeTo r a b) (src : List UInt8) (off sz : Nat) :
    AgreeTo r (mangleOverwrite src off sz a) (mangleOverwrite src off sz b) := by
  simp only [mangleOverwrite, Run.readSource, ← agree.size]
  exact agree.check.store fun _ _ _ => rfl

/-- Fresh bytes from the oracle are the same for runs with the same oracle. -/
theorem storeFresh (agree : AgreeTo r a b) (o : Oracle σ) (printable : Bool) (off len : Nat) :
    AgreeTo r ((rndBuf o printable len a).2.store off len (rndBuf o printable len a).1)
      ((rndBuf o printable len b).2.store off len (rndBuf o printable len b).1) := by
  simp only [rndBuf, ← agree.rnd]
  exact (agree.withRnd _).store fun _ _ _ => rfl

/-- Growing the input and filling all it grows into with fresh bytes keeps the
agreement: no byte past the old input is left exposed. -/
theorem growFresh (agree : AgreeTo r a b) (o : Oracle σ) (printable : Bool) {sz len : Nat}
    (cover : sz ≤ a.dynamicFileSz + len) :
    AgreeTo r ((rndBuf o printable len (inputSetSize sz a)).2.store a.dynamicFileSz len
        (rndBuf o printable len (inputSetSize sz a)).1)
      ((rndBuf o printable len (inputSetSize sz b)).2.store a.dynamicFileSz len
        (rndBuf o printable len (inputSetSize sz b)).1) := by
  simp only [rndBuf, inputSetSize_rnd, ← agree.rnd]
  constructor
  case global => simp only [Run.store_global, Run.withRnd_global, inputSetSize_global, agree.global]
  case size => simp only [Run.store_dynamicFileSz, Run.withRnd_dynamicFileSz, inputSetSize_dynamicFileSz]
  case mutationsPerRun =>
    simp only [Run.store_mutationsPerRun, Run.withRnd_mutationsPerRun, inputSetSize_mutationsPerRun,
      agree.mutationsPerRun]
  case rnd => simp only [Run.store_rnd, Run.withRnd_rnd]
  case bytes =>
    intro i below
    simp only [Run.store_global, Run.withRnd_global, inputSetSize_global, Run.store_dynamicFileSz,
      Run.withRnd_dynamicFileSz, inputSetSize_dynamicFileSz] at below
    simp only [Run.store_dynamicFile, Run.withRnd_dynamicFile, inputSetSize_dynamicFile]
    by_cases fresh : a.dynamicFileSz ≤ i ∧ i < a.dynamicFileSz + len
    · rw [if_pos fresh, if_pos fresh]
    · rw [if_neg fresh, if_neg fresh]
      apply agree.bytes i
      cases r
      · exact show i < a.dynamicFileSz by simp only [Reach.bound] at below; omega
      · exact below

/-- `mangle_Move` reads only inside an input that fits the buffer. -/
theorem move (agree : AgreeTo r a b) {offFrom offTo len : Nat} (small : a.dynamicFileSz < 2 ^ 63)
    (lenSmall : len < 2 ^ 63) (fits : a.dynamicFileSz ≤ a.global.maxFileSz) :
    AgreeTo r (mangleMove offFrom offTo len a) (mangleMove offFrom offTo len b) := by
  by_cases inside : offFrom < a.dynamicFileSz ∧ offTo < a.dynamicFileSz
  · have inside' : offFrom < b.dynamicFileSz ∧ offTo < b.dynamicFileSz := agree.size ▸ inside
    rw [mangleMove_eq offFrom offTo len a inside.1 inside.2 small lenSmall,
      mangleMove_eq offFrom offTo len b inside'.1 inside'.2 (agree.size ▸ small) lenSmall,
      ← agree.size]
    exact agree.check.store fun k copied _ => (agree.toAgree fits).bytes _
      (show offFrom + k < a.dynamicFileSz by unfold moveLen at copied; omega)
  · rw [mangleMove_of_le offFrom offTo len a (by omega),
      mangleMove_of_le offFrom offTo len b (by rw [← agree.size]; omega)]
    exact agree

/-- Agreeing runs whose input fits the buffer have the same input. -/
theorem contents_eq (agree : AgreeTo r a b) (fits : a.dynamicFileSz ≤ a.global.maxFileSz) :
    a.contents = b.contents := by
  unfold Run.contents
  rw [← agree.size]
  exact List.map_congr_left fun i inside =>
    (agree.toAgree fits).bytes i (show i < a.dynamicFileSz from List.mem_range.1 inside)

end AgreeTo

end Honggfuzz.Mangle
