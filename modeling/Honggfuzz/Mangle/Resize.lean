import Honggfuzz.Mangle.SizeInvariant

/-!
`mangle_Resize` against the integer reading of its `switch`. The code adds
`v` to the `size_t` `oldsz`, or computes `oldsz + 8 - v` in `size_t`, and reads
the result as `ssize_t` before clamping it to `[1, maxFileSz]`. The wrap below
zero is harmless: it reads back as the negative integer, which the clamp lifts
to 1. The wrap at the top is not: when `oldsz + v` reaches `2 ^ 63` it reads
back as a negative number and the input shrinks to one byte. Below that, the
new size is the integer target, the old bytes stay and the grown tail is fresh.
-/

namespace Honggfuzz.Mangle

/-- The size `mangle_Resize` should set, in the words of the specification:
`t` is `r`, `oldsz + v` or `oldsz + 8 - v` over the integers, clamped to
`[1, maxFileSz]`. -/
def resizeTarget (maxFileSz oldsz v r : Nat) : Nat :=
  let t : Int := if v = 0 then r else if v ≤ 8 then oldsz + v else oldsz + 8 - v
  min maxFileSz (max 1 t).toNat

variable {σ : Type} (o : Oracle σ)

/-! ### The `switch` and the clamps -/

/-- With the draws named, the `switch` computes the integer target whenever
`oldsz + 8` and `maxFileSz` fit `ssize_t`. -/
theorem mangleResizeNewsz_eq (oldsz : Nat) (run : Run σ) (small : oldsz + 8 < 2 ^ 63)
    (positive : 1 ≤ run.global.maxFileSz) (maxSmall : run.global.maxFileSz < 2 ^ 63)
    {v r : Nat} {s₁ s₂ : σ} (drawV : o.rndGet 0 16 run.rnd = (v, s₁))
    (drawR : o.rndGet 1 run.global.maxFileSz s₁ = (r, s₂)) :
    mangleResizeNewsz o oldsz run =
      (if v = 0 then (r : Int) else if v ≤ 8 then oldsz + v else oldsz + 8 - v,
        run.withRnd (if v = 0 then s₂ else s₁)) := by
  have vLe : v ≤ 16 := by simpa [drawV] using o.rndGet_le 0 16 run.rnd (by omega)
  have rLe : r ≤ run.global.maxFileSz := by simpa [drawR] using o.rndGet_le 1 _ s₁ positive
  simp only [mangleResizeNewsz, utilRndGet, drawV, Run.check_pos (Nat.zero_le 16)]
  by_cases zero : v = 0
  · simp only [zero, if_true, Run.withRnd_global, Run.withRnd_rnd, drawR,
      Run.check_pos positive, Run.withRnd_withRnd, toSSize_of_lt (by omega : r < 2 ^ 63)]
  · simp only [zero, if_false]
    split_ifs <;> first | omega | rw [toSSize_toSizeT (by omega) (by omega)]

/-- Below `2 ^ 63` the clamps are `min maxFileSz (max 1 newsz)`. -/
theorem clampNewsz_eq {maxFileSz : Nat} (small : maxFileSz < 2 ^ 63) (newsz : Int) :
    clampNewsz maxFileSz newsz = min (maxFileSz : Int) (max 1 newsz) := by
  unfold clampNewsz
  dsimp only
  rw [toSSize_of_lt small]
  split_ifs <;> omega

/-- The clamped size, read as a natural number. -/
theorem clampNewsz_eq_toNat {maxFileSz : Nat} (small : maxFileSz < 2 ^ 63) (newsz : Int) :
    clampNewsz maxFileSz newsz = (min maxFileSz (max 1 newsz).toNat : Nat) := by
  rw [clampNewsz_eq small]
  omega

/-- `input_setSize` and the fill: bytes `[oldsz, newsz)` come from the oracle's
buffer, the others stay. -/
theorem mangleResizeTo_dynamicFile (printable : Bool) (oldsz : Nat) (newsz : Int) (run : Run σ)
    (oldSmall : oldsz < 2 ^ 63) (newSmall : newsz < 2 ^ 63) (i : Nat) :
    (mangleResizeTo o printable oldsz newsz run).dynamicFile i =
      if oldsz ≤ i ∧ (i : Int) < newsz then
        (rndBuf o printable (toSizeT (newsz - oldsz)) run).1 (i - oldsz)
      else run.dynamicFile i := by
  unfold mangleResizeTo
  rw [toSSize_of_lt oldSmall]
  split_ifs with grows inside outside
  · simp only [Run.store_dynamicFile, rndBuf, inputSetSize_rnd]
    rw [if_pos (by rw [toSizeT_of_lt (by omega) (by omega)]; omega)]
  · simp only [Run.store_dynamicFile, rndBuf, Run.withRnd_dynamicFile, inputSetSize_dynamicFile]
    rw [if_neg (by rw [toSizeT_of_lt (by omega) (by omega)]; omega)]
  · omega
  · rfl

/-! ### The new size and the bytes -/

/-- When `maxFileSz` and `oldsz + 8` fit `ssize_t`, `mangle_Resize` sets the size to the
integer target, keeps the bytes below both sizes, and fills the grown tail with
the oracle's bytes, printable in printable mode. -/
theorem mangleResize_eq_resizeTarget (printable : Bool) (run : Run σ) (sizeOk : SizeOk run)
    (maxSmall : run.global.maxFileSz < 2 ^ 63) (sizeSmall : run.dynamicFileSz + 8 < 2 ^ 63)
    {v r : Nat} {s₁ s₂ : σ}
    (drawV : o.rndGet 0 16 run.rnd = (v, s₁))
    (drawR : o.rndGet 1 run.global.maxFileSz s₁ = (r, s₂)) :
    let newsz := resizeTarget run.global.maxFileSz run.dynamicFileSz v r
    let after := mangleResize o printable run
    after.dynamicFileSz = newsz ∧
      (∀ i < min run.dynamicFileSz newsz, after.dynamicFile i = run.dynamicFile i) ∧
      ∀ i, run.dynamicFileSz ≤ i → i < newsz →
        after.dynamicFile i = (rndBuf o printable (newsz - run.dynamicFileSz)
          (run.withRnd (if v = 0 then s₂ else s₁))).1 (i - run.dynamicFileSz) ∧
        (printable = true → Printable (after.dynamicFile i)) := by
  intro newsz after
  unfold SizeOk at sizeOk
  have newszLe : newsz ≤ run.global.maxFileSz := Nat.min_le_left _ _
  have clamp : clampNewsz run.global.maxFileSz
      (if v = 0 then (r : Int) else if v ≤ 8 then run.dynamicFileSz + v
        else run.dynamicFileSz + 8 - v) = newsz :=
    clampNewsz_eq_toNat (by omega) _
  have eq : after = mangleResizeTo o printable run.dynamicFileSz newsz
      (run.withRnd (if v = 0 then s₂ else s₁)) := by
    simp only [after, mangleResize]
    rw [mangleResizeNewsz_eq o _ run (by omega) (by omega) (by omega) drawV drawR]
    simp only [Run.withRnd_global, clamp]
  refine ⟨?size, fun i below => ?kept, fun i above below => ?fresh⟩
  case size => rw [eq, mangleResizeTo_dynamicFileSz, toSizeT_natCast (by omega)]
  case kept =>
    rw [eq, mangleResizeTo_dynamicFile o _ _ _ _ (by omega) (by omega), if_neg (by omega)]
    rfl
  case fresh =>
    have tail : toSizeT ((newsz : Int) - run.dynamicFileSz) = newsz - run.dynamicFileSz := by
      rw [toSizeT_of_lt (by omega) (by omega)]
      omega
    rw [eq, mangleResizeTo_dynamicFile o _ _ _ _ (by omega) (by omega),
      if_pos ⟨above, by exact_mod_cast below⟩, tail]
    refine ⟨rfl, fun printing => ?_⟩
    subst printing
    exact rndBuf_printable o _ _ _

/-- The input `"abc"` at `maxFileSz = 16` in printable mode, with a tape that
draws `v = 4` and then the bytes `"XYZW"`. -/
def abcRun : Run (List Nat) where
  global := ⟨16, 1, 0, [], true, by decide⟩
  dynamicFile i := [0x61, 0x62, 0x63].getD i 0
  dynamicFileSz := 3
  mutationsPerRun := 1
  rnd := [4, 0x58, 0x59, 0x5A, 0x57]
  fault := none

theorem mangleResize_abc :
    SizeOk abcRun ∧ abcRun.dynamicFileSz + 8 < 2 ^ 63 ∧ resizeTarget 16 3 4 1 = 7 ∧
      (mangleResize tapeOracle true abcRun).dynamicFileSz = 7 :=
  ⟨by decide, by decide, rfl, (@mangleResize_eq_resizeTarget _ tapeOracle true abcRun (by decide)
    (by decide) (by decide) 4 1 [0x58, 0x59, 0x5A, 0x57] [0x59, 0x5A, 0x57] rfl rfl).1⟩

example : (mangleResize tapeOracle true abcRun).contents = [0x61, 0x62, 0x63, 0x58, 0x59, 0x5A, 0x57] := by
  decide

/-- An input of `2 ^ 63 - 1` bytes at `maxFileSz = 2 ^ 63 - 1`, with a tape that draws `v = 1`. -/
def topRun : Run (List Nat) where
  global := ⟨2 ^ 63 - 1, 1, 0, [], false, by decide⟩
  dynamicFile _ := 0
  dynamicFileSz := 2 ^ 63 - 1
  mutationsPerRun := 1
  rnd := [1]
  fault := none

/-- At the top of the `ssize_t` range `oldsz + 1` reads back as negative, and
the input drops to one byte where the integer target keeps its size. -/
theorem mangleResize_wraps_at_top :
    SizeOk topRun ∧ topRun.global.maxFileSz < 2 ^ 63 ∧
      resizeTarget topRun.global.maxFileSz topRun.dynamicFileSz 1 0 = 2 ^ 63 - 1 ∧
      (mangleResize tapeOracle false topRun).dynamicFileSz = 1 := by
  decide

end Honggfuzz.Mangle
