import Honggfuzz.Mangle.AddSub

/-!
`mangle_AddSub` undone. Outside printable mode a second `mangle_AddSub` that
draws the same offset and exponent, the opposite `delta` and a coin of the same
parity adds `-delta` in the same byte order, and addition modulo the width of
the word cancels.
-/

namespace Honggfuzz.Mangle

theorem toNat_toUInt8 (x : Int) : (toUInt8 x).toNat = (x % 256).toNat :=
  UInt8.toNat_ofNat_of_lt (show (x % 256).toNat < 256 by omega)

/-- Bytes written from a word read back as the word modulo their width. -/
theorem leValue_leBytes (w n : Nat) : leValue (leBytes w n) = n % 2 ^ (8 * w) := by
  induction w generalizing n with
  | zero => simp [Nat.mod_one]
  | succ w ih =>
      rw [leBytes_succ, leValue_cons, ih, UInt8.toNat_ofNat_of_lt (Nat.mod_lt _ (by decide)),
        Nat.mul_succ, Nat.pow_add, Nat.mul_comm (2 ^ (8 * w)), Nat.mod_mul]

theorem leValue_lt (bytes : List UInt8) : leValue bytes < 2 ^ (8 * bytes.length) := by
  induction bytes with
  | nil => decide
  | cons b bs ih =>
      have small : b.toNat < 256 := b.toNat_lt_size
      rw [leValue_cons, List.length_cons, Nat.mul_succ, Nat.pow_add]
      show b.toNat + 256 * leValue bs < 2 ^ (8 * bs.length) * 256
      omega

theorem length_addSubExpected (w : Nat) (old : List UInt8) (delta : Int) (coin : UInt64)
    (width : old.length = w) : (addSubExpected w old delta coin).length = w := by
  unfold addSubExpected
  split_ifs <;> simp [width]

/-- Adding `delta` to a word and then `-delta` in the same byte order gives the
word back. -/
theorem addSubExpected_cancel (w : Nat) (old : List UInt8) (width : old.length = w) (delta : Int)
    {coin coin' : UInt64} (sameOrder : coin'.toNat % 2 = coin.toNat % 2) :
    addSubExpected w (addSubExpected w old delta coin) (-delta) coin' = old := by
  have wrap (v : Nat) (bound : v < 2 ^ (8 * w)) :
      ((((((v : Int) + delta) % 2 ^ (8 * w)).toNat % 2 ^ (8 * w) : Nat) : Int) + -delta) %
        2 ^ (8 * w) = v := by
    have pos : (0 : Int) < 2 ^ (8 * w) := pow_pos (by decide) _
    have cast : ((2 ^ (8 * w) : Nat) : Int) = 2 ^ (8 * w) := Int.natCast_pow 2 _
    rw [Nat.mod_eq_of_lt (by omega), Int.toNat_of_nonneg (Int.emod_nonneg _ (by omega)),
      Int.emod_add_emod, Int.add_neg_cancel_right,
      Int.emod_eq_of_lt (by omega) (by exact_mod_cast bound)]
  unfold addSubExpected
  by_cases byte : w = 1
  · subst byte
    obtain ⟨b, rfl⟩ := List.length_eq_one.1 width
    have small : b.toNat < 256 := b.toNat_lt_size
    simp only [if_true, List.map_cons, List.map_nil, List.cons.injEq, and_true]
    apply UInt8.toNat.inj
    show (toUInt8 (((toUInt8 (b.toNat + delta)).toNat : Int) + -delta)).toNat = b.toNat
    rw [toNat_toUInt8, toNat_toUInt8]
    omega
  · rw [if_neg byte, if_neg byte, sameOrder]
    split
    · rw [leValue_leBytes, wrap _ (width ▸ leValue_lt old), Int.toNat_ofNat, ← width,
        leBytes_leValue]
    · have reversed := leBytes_leValue old.reverse
      rw [List.length_reverse, width] at reversed
      rw [List.reverse_reverse, leValue_leBytes,
        wrap _ (by simpa [width] using leValue_lt old.reverse), Int.toNat_ofNat, reversed,
        List.reverse_reverse]

section AddSub

variable {σ : Type} (o : Oracle σ)

/-- Outside printable mode, `mangle_AddSub` is undone by a second
`mangle_AddSub` that draws the same offset and exponent, the opposite `delta`
(`8192 - d` for `d`) and a coin of the same parity: the word is the same, its
byte order is the same, and addition modulo its width cancels. -/
theorem mangleAddSub_undo (run : Run σ) (nonempty : 0 < run.dynamicFileSz) {off e d : Nat}
    {coin coin' : UInt64} {s₁ s₂ s₃ s₄ s₅ s₆ s₇ s₈ : σ}
    (drawOff : o.rndGet 0 (run.dynamicFileSz - 1) run.rnd = (off, s₁))
    (drawExp : o.rndGet 0 3 s₁ = (e, s₂))
    (drawDelta : o.rndGet 0 8192 s₂ = (d, s₃))
    (drawCoin : o.rnd64 s₃ = (coin, s₄))
    (redrawOff : o.rndGet 0 (run.dynamicFileSz - 1) (mangleAddSub o false run).rnd = (off, s₅))
    (redrawExp : o.rndGet 0 3 s₅ = (e, s₆))
    (redrawDelta : o.rndGet 0 8192 s₆ = (8192 - d, s₇))
    (redrawCoin : o.rnd64 s₇ = (coin', s₈))
    (sameOrder : coin'.toNat % 2 = coin.toNat % 2) :
    (mangleAddSub o false (mangleAddSub o false run)).dynamicFile = run.dynamicFile := by
  have offIn := o.draw_mem drawOff (Nat.zero_le _)
  have dLe := (o.draw_mem drawDelta (Nat.zero_le _)).2
  obtain ⟨fits, width⟩ := addSubWidth_fits (by omega : off < run.dynamicFileSz)
    (o.draw_mem drawExp (by omega)).2
  have sized := mangleAddSub_dynamicFileSz o false run
  have plain (r : Run σ) {s s' : σ} (size : r.dynamicFileSz = run.dynamicFileSz)
      (dOff : o.rndGet 0 (run.dynamicFileSz - 1) r.rnd = (off, s)) (dExp : o.rndGet 0 3 s = (e, s')) :
      mangleAddSub o false r = mangleAddSubWithRange o off
        (if 2 ^ e ≤ run.dynamicFileSz - off then 2 ^ e else 1) (r.withRnd s') := by
    rw [mangleAddSub_eq o false r (by rw [size]; exact dOff) dExp, size]
    rfl
  generalize (if 2 ^ e ≤ run.dynamicFileSz - off then 2 ^ e else 1) = w at fits width plain
  set old := (List.range w).map fun k => run.dynamicFile (off + k)
  set new := addSubExpected w old (d - 4096) coin
  have first (i : Nat) : (mangleAddSub o false run).dynamicFile i =
      if off ≤ i ∧ i < off + w then new.getD (i - off) 0 else run.dynamicFile i := by
    rw [plain run rfl drawOff drawExp]
    exact mangleAddSubWithRange_dynamicFile o off w (run.withRnd s₂) fits width drawDelta drawCoin i
  have window : ((List.range w).map fun k => (mangleAddSub o false run).dynamicFile (off + k)) =
      new := by
    apply List.ext_getElem
    · simp [new, length_addSubExpected w old _ coin (by simp [old])]
    · intro k inside _
      simp only [List.length_map, List.length_range] at inside
      rw [List.getElem_map, List.getElem_range, first, if_pos (by omega), Nat.add_sub_cancel_left,
        List.getD_eq_getElem]
  have opposite : ((8192 - d : Nat) : Int) - 4096 = -((d : Int) - 4096) := by omega
  funext i
  rw [plain _ sized redrawOff redrawExp, mangleAddSubWithRange_dynamicFile o off w
    ((mangleAddSub o false run).withRnd s₆) (by rw [Run.withRnd_dynamicFileSz, sized]; exact fits)
    width redrawDelta redrawCoin,
    Run.withRnd_dynamicFile, window, opposite, addSubExpected_cancel w old (by simp [old]) _ sameOrder,
    first]
  split_ifs with inside
  · rw [List.getD_eq_getElem _ _ (by simp [old]; omega), List.getElem_map, List.getElem_range,
      Nat.add_sub_cancel' inside.1]
  · rfl

/-- The bytes `01 00`, with a tape that draws `off = 0`, `e = 1`, `delta = -5`
and an odd coin, and then the same offset and exponent, `delta = +5` and an odd
coin. -/
def twiceRun : Run (List Nat) where
  global := ⟨8, 1, 0, [], false, by decide⟩
  dynamicFile i := [0x01, 0x00].getD i 0
  dynamicFileSz := 2
  mutationsPerRun := 1
  rnd := [0, 1, 4091, 1, 0, 1, 4101, 3]
  fault := none

theorem mangleAddSub_undo_twiceRun :
    (mangleAddSub tapeOracle false twiceRun).dynamicFile 0 = 0xFC ∧
      (mangleAddSub tapeOracle false (mangleAddSub tapeOracle false twiceRun)).dynamicFile =
        twiceRun.dynamicFile := by
  have law := @mangleAddSub_undo _ tapeOracle twiceRun (by decide) 0 1 4091 1 3
    [1, 4091, 1, 0, 1, 4101, 3] [4091, 1, 0, 1, 4101, 3] [1, 0, 1, 4101, 3] [0, 1, 4101, 3]
    [1, 4101, 3] [4101, 3] [3] [] rfl rfl rfl rfl rfl rfl rfl rfl rfl
  exact ⟨by decide, law⟩

end AddSub

end Honggfuzz.Mangle
