import Honggfuzz.Mangle.Buffer

/-!
`mangle_AddSub` and `mangle_AddSubWithRange` on a little-endian host: a word
of 1, 2, 4 or 8 bytes is loaded with `memcpy`, `delta` is added in the word's
own byte order or, through `__builtin_bswap`, in the other one, and the word is
written back with `mangle_Overwrite`.

A word is kept as the unsigned value of its bytes. The signed types matter only
for the exact value of `val += delta` before it is narrowed back, which
`addSubSum` computes.
-/

namespace Honggfuzz.Mangle

/-! ### Little-endian words -/

/-- The unsigned value of little-endian bytes. -/
def leValue : List UInt8 → Nat
  | [] => 0
  | b :: bs => b.toNat + 256 * leValue bs

/-- The `w` little-endian bytes of `n`; bits above `8 * w` are dropped. -/
def leBytes : Nat → Nat → List UInt8
  | 0, _ => []
  | w + 1, n => UInt8.ofNat (n % 256) :: leBytes w (n / 256)

/-- `__builtin_bswap16/32/64` on a `w`-byte word. -/
def bswap (w n : Nat) : Nat := leValue (leBytes w n).reverse

/-- A `w`-byte word as the signed `int16_t`, `int32_t` or `int64_t`. -/
def toSigned (w n : Nat) : Int := if n < 2 ^ (8 * w - 1) then n else (n : Int) - 2 ^ (8 * w)

/-- The exact value of `val += delta` before it is narrowed back to the word:
the word as signed plus `delta`. -/
def addSubSum (w val : Nat) (delta : Int) : Int := toSigned w val + delta

/-- An integer narrowed to a `w`-byte word (two's complement bits). -/
def narrow (w : Nat) (x : Int) : Nat := (x % 2 ^ (8 * w)).toNat

@[simp] theorem leValue_nil : leValue [] = 0 := rfl
@[simp] theorem leValue_cons (b : UInt8) (bs : List UInt8) :
    leValue (b :: bs) = b.toNat + 256 * leValue bs := rfl
@[simp] theorem leBytes_zero (n : Nat) : leBytes 0 n = [] := rfl
@[simp] theorem leBytes_succ (w n : Nat) :
    leBytes (w + 1) n = UInt8.ofNat (n % 256) :: leBytes w (n / 256) := rfl

@[simp] theorem length_leBytes (w n : Nat) : (leBytes w n).length = w := by
  induction w generalizing n with
  | zero => rfl
  | succ w ih => simp [ih]

/-- Bytes read as a word and written back are the same bytes. -/
theorem leBytes_leValue (bytes : List UInt8) : leBytes bytes.length (leValue bytes) = bytes := by
  induction bytes with
  | nil => rfl
  | cons b bs ih =>
      have small : b.toNat < 256 := b.toNat_lt_size
      simp only [List.length_cons, leBytes_succ, leValue_cons]
      rw [Nat.add_mul_mod_self_left, Nat.mod_eq_of_lt small, Nat.add_mul_div_left _ _ (by omega),
        Nat.div_eq_of_lt small, Nat.zero_add, ih]
      exact congrArg (· :: bs) (UInt8.toNat.inj (UInt8.toNat_ofNat_of_lt small))

/-- Swapping a word loaded from `bytes` loads the reversed bytes. -/
theorem bswap_leValue (bytes : List UInt8) :
    bswap bytes.length (leValue bytes) = leValue bytes.reverse := by
  rw [bswap, leBytes_leValue]

/-- Storing a swapped word stores the reversed bytes. -/
theorem leBytes_bswap (w n : Nat) : leBytes w (bswap w n) = (leBytes w n).reverse := by
  have := leBytes_leValue (leBytes w n).reverse
  rwa [List.length_reverse, length_leBytes] at this

/-- Narrowing forgets whether the word was read as signed. -/
theorem narrow_addSubSum (w val : Nat) (delta : Int) :
    narrow w (addSubSum w val delta) = narrow w (val + delta) := by
  unfold narrow addSubSum toSigned
  split
  · rfl
  · rw [show (val : Int) - 2 ^ (8 * w) + delta = val + delta + 2 ^ (8 * w) * (-1) by omega,
      Int.add_mul_emod_self_left]

/-! ### The operator -/

section Operator

variable {σ : Type} (o : Oracle σ)

/-- `mangle_AddSubWithRange`: a byte takes `delta` directly; a 2-, 4- or
8-byte word takes it in its own byte order when the coin is odd and through
`__builtin_bswap` when it is even. -/
def mangleAddSubWithRange (off varLen : Nat) (run : Run σ) : Run σ :=
  let (d, run) := utilRndGet o 0 8192 run
  let delta : Int := d - 4096
  if varLen = 1 then
    run.store off 1 fun _ => toUInt8 ((run.dynamicFile off).toNat + delta)
  else if varLen = 2 ∨ varLen = 4 ∨ varLen = 8 then
    let val := leValue ((List.range varLen).map fun k => run.dynamicFile (off + k))
    let run := run.access off varLen
    let (coin, run) := utilRnd64 o run
    let val :=
      if coin.toNat % 2 = 1 then narrow varLen (addSubSum varLen val delta)
      else bswap varLen (narrow varLen (addSubSum varLen (bswap varLen val) delta))
    mangleOverwrite (leBytes varLen val) off varLen run
  else run.raise (.fatal varLen)

/-- `mangle_AddSub`: a width `1 << e`, cut to one byte when fewer bytes remain. -/
def mangleAddSub (printable : Bool) (run : Run σ) : Run σ :=
  let (off, run) := utilRndGet o 0 (run.dynamicFileSz - 1) run
  let (e, run) := utilRndGet o 0 3 run
  let varLen := 1 <<< e
  let varLen := if run.dynamicFileSz - off < varLen then 1 else varLen
  let run := mangleAddSubWithRange o off varLen run
  if printable then utilTurnToPrintable off varLen run else run

/-- The bytes the arithmetic should leave at `[off, off + w)`, in the words of
the specification: `(b + delta) mod 256` for a byte; for a word, the
little-endian encoding of `LE(old) + delta` when the coin is odd and the
big-endian encoding of `BE(old) + delta` when it is even, modulo `2 ^ (8 * w)`. -/
def addSubExpected (w : Nat) (old : List UInt8) (delta : Int) (coin : UInt64) : List UInt8 :=
  if w = 1 then old.map fun b => UInt8.ofNat ((b.toNat + delta) % 256).toNat
  else if coin.toNat % 2 = 1 then leBytes w (((leValue old : Int) + delta) % 2 ^ (8 * w)).toNat
  else (leBytes w (((leValue old.reverse : Int) + delta) % 2 ^ (8 * w)).toNat).reverse

/-- The word `mangle_AddSubWithRange` writes back is the expected one. -/
theorem leBytes_addSub (w : Nat) (old : List UInt8) (delta : Int) (coin : UInt64)
    (word : w ≠ 1) (width : old.length = w) :
    leBytes w (if coin.toNat % 2 = 1 then narrow w (addSubSum w (leValue old) delta)
      else bswap w (narrow w (addSubSum w (bswap w (leValue old)) delta))) =
        addSubExpected w old delta coin := by
  unfold addSubExpected
  subst width
  rw [if_neg word]
  split
  · rw [narrow_addSubSum, narrow]
  · rw [leBytes_bswap, narrow_addSubSum, bswap_leValue, narrow]

section Frame

variable (off varLen : Nat) (printable : Bool) (run : Run σ)

@[simp] theorem mangleAddSubWithRange_global :
    (mangleAddSubWithRange o off varLen run).global = run.global := by
  unfold mangleAddSubWithRange; split_ifs <;> simp
@[simp] theorem mangleAddSubWithRange_dynamicFileSz :
    (mangleAddSubWithRange o off varLen run).dynamicFileSz = run.dynamicFileSz := by
  unfold mangleAddSubWithRange; split_ifs <;> simp
@[simp] theorem mangleAddSubWithRange_mutationsPerRun :
    (mangleAddSubWithRange o off varLen run).mutationsPerRun = run.mutationsPerRun := by
  unfold mangleAddSubWithRange; split_ifs <;> simp

/-- Whatever the draws, `mangle_AddSubWithRange` writes only inside `[off, off + varLen)`. -/
theorem mangleAddSubWithRange_frame (i : Nat) (outside : ¬(off ≤ i ∧ i < off + varLen)) :
    (mangleAddSubWithRange o off varLen run).dynamicFile i = run.dynamicFile i := by
  unfold mangleAddSubWithRange
  split_ifs with byte
  · simp only [utilRndGet, Run.store_dynamicFile, Run.withRnd_dynamicFile, Run.check_dynamicFile]
    rw [if_neg (by omega)]
  · simp only [utilRndGet, utilRnd64, mangleOverwrite_dynamicFile, Run.withRnd_dynamicFile,
      Run.check_dynamicFile, Run.access]
    rw [if_neg (by omega)]
  · rfl

@[simp] theorem mangleAddSub_global : (mangleAddSub o printable run).global = run.global := by
  unfold mangleAddSub; split_ifs <;> simp
@[simp] theorem mangleAddSub_dynamicFileSz :
    (mangleAddSub o printable run).dynamicFileSz = run.dynamicFileSz := by
  unfold mangleAddSub; split_ifs <;> simp
@[simp] theorem mangleAddSub_mutationsPerRun :
    (mangleAddSub o printable run).mutationsPerRun = run.mutationsPerRun := by
  unfold mangleAddSub; split_ifs <;> simp

end Frame

/-- With the offset and exponent draws named, `mangle_AddSub` runs
`mangle_AddSubWithRange` at `off` with width `2 ^ e`, or one byte where fewer
remain. -/
theorem mangleAddSub_eq (printable : Bool) (run : Run σ) {off e : Nat} {s₁ s₂ : σ}
    (drawOff : o.rndGet 0 (run.dynamicFileSz - 1) run.rnd = (off, s₁))
    (drawExp : o.rndGet 0 3 s₁ = (e, s₂)) :
    mangleAddSub o printable run =
      let w := if 2 ^ e ≤ run.dynamicFileSz - off then 2 ^ e else 1
      let run := mangleAddSubWithRange o off w (run.withRnd s₂)
      if printable then utilTurnToPrintable off w run else run := by
  have varLen : (if run.dynamicFileSz - off < 1 <<< e then 1 else 1 <<< e) =
      if 2 ^ e ≤ run.dynamicFileSz - off then 2 ^ e else 1 := by
    rw [Nat.shiftLeft_eq, Nat.one_mul]
    split_ifs <;> omega
  simp only [mangleAddSub, utilRndGet, drawOff, Run.withRnd_rnd, Run.check_rnd, drawExp,
    Run.withRnd_dynamicFileSz, Run.check_dynamicFileSz, varLen,
    Run.check_pos (Nat.zero_le (run.dynamicFileSz - 1)), Run.check_pos (Nat.zero_le 3),
    Run.withRnd_withRnd]

/-- An offset inside the input and an exponent of at most 3 give a window
inside the input, of a width the `switch` of `mangle_AddSubWithRange` knows. -/
theorem addSubWidth_fits {size off e : Nat} (offIn : off < size) (expSmall : e ≤ 3) :
    let w := if 2 ^ e ≤ size - off then 2 ^ e else 1
    off + w ≤ size ∧ (w = 1 ∨ w = 2 ∨ w = 4 ∨ w = 8) := by
  intro w
  have pow : 2 ^ e = 1 ∨ 2 ^ e = 2 ∨ 2 ^ e = 4 ∨ 2 ^ e = 8 := by
    rcases (by omega : e = 0 ∨ e = 1 ∨ e = 2 ∨ e = 3) with rfl | rfl | rfl | rfl <;> simp
  simp only [w]
  split_ifs <;> omega

/-- From any offset the drawn range allows, the width is one byte, or a word the
`switch` knows that fits the input from `off`. -/
theorem addSubWidth_cases {size off e : Nat} (offIn : off ≤ size - 1) (expSmall : e ≤ 3) :
    let w := if 2 ^ e ≤ size - off then 2 ^ e else 1
    w = 1 ∨ (w = 2 ∨ w = 4 ∨ w = 8) ∧ off + w ≤ size := by
  intro w
  have pow : 2 ^ e = 1 ∨ 2 ^ e = 2 ∨ 2 ^ e = 4 ∨ 2 ^ e = 8 := by
    rcases (by omega : e = 0 ∨ e = 1 ∨ e = 2 ∨ e = 3) with rfl | rfl | rfl | rfl <;> simp
  simp only [w]
  split_ifs <;> omega

/-- With the `delta` and coin draws named, `mangle_AddSubWithRange` on a
window inside the input writes the expected bytes there and nothing else. -/
theorem mangleAddSubWithRange_dynamicFile (off w : Nat) (run : Run σ) {d : Nat} {coin : UInt64}
    {s₁ s₂ : σ} (fits : off + w ≤ run.dynamicFileSz) (width : w = 1 ∨ w = 2 ∨ w = 4 ∨ w = 8)
    (drawDelta : o.rndGet 0 8192 run.rnd = (d, s₁)) (drawCoin : o.rnd64 s₁ = (coin, s₂))
    (i : Nat) :
    (mangleAddSubWithRange o off w run).dynamicFile i =
      if off ≤ i ∧ i < off + w then
        (addSubExpected w ((List.range w).map fun k => run.dynamicFile (off + k)) (d - 4096)
          coin).getD (i - off) 0
      else run.dynamicFile i := by
  by_cases byte : w = 1
  · subst byte
    simp only [mangleAddSubWithRange, utilRndGet, drawDelta, if_pos, Run.store_dynamicFile,
      Run.withRnd_dynamicFile, Run.check_dynamicFile]
    split_ifs with inside
    · obtain rfl : i = off := by omega
      simp [addSubExpected, toUInt8]
    · rfl
  · have word : w = 2 ∨ w = 4 ∨ w = 8 := by omega
    simp only [mangleAddSubWithRange, utilRndGet, drawDelta, if_neg byte, if_pos word, utilRnd64,
      Run.access, Run.withRnd_rnd, Run.check_rnd, drawCoin]
    rw [mangleOverwrite_dynamicFile, leBytes_addSub _ _ _ _ byte (by simp)]
    simp only [Run.withRnd_dynamicFileSz, Run.check_dynamicFileSz, Run.withRnd_dynamicFile,
      Run.check_dynamicFile, Run.access, Nat.min_eq_left (show w ≤ run.dynamicFileSz - off by omega)]

/-- On a little-endian host, `mangle_AddSub` with offset `off`, exponent `e`,
`delta = d - 4096` and coin `coin` keeps the size and every byte outside
`[off, off + w)`, and leaves the expected bytes there, made printable in
printable mode. -/
theorem mangleAddSub_bytes (printable : Bool) (run : Run σ) (nonempty : 0 < run.dynamicFileSz)
    {off e d : Nat} {coin : UInt64} {s₁ s₂ s₃ s₄ : σ}
    (drawOff : o.rndGet 0 (run.dynamicFileSz - 1) run.rnd = (off, s₁))
    (drawExp : o.rndGet 0 3 s₁ = (e, s₂))
    (drawDelta : o.rndGet 0 8192 s₂ = (d, s₃))
    (drawCoin : o.rnd64 s₃ = (coin, s₄)) :
    let w := if 2 ^ e ≤ run.dynamicFileSz - off then 2 ^ e else 1
    let new := addSubExpected w ((List.range w).map fun k => run.dynamicFile (off + k)) (d - 4096) coin
    (mangleAddSub o printable run).dynamicFileSz = run.dynamicFileSz ∧
      ∀ i, (mangleAddSub o printable run).dynamicFile i =
        if off ≤ i ∧ i < off + w then
          (if printable then toPrintable (new.getD (i - off) 0) else new.getD (i - off) 0)
        else run.dynamicFile i := by
  intro w new
  have offIn := o.draw_mem drawOff (Nat.zero_le _)
  obtain ⟨fits, width⟩ := addSubWidth_fits (by omega : off < run.dynamicFileSz)
    (o.draw_mem drawExp (by omega)).2
  have body := mangleAddSubWithRange_dynamicFile o off w (run.withRnd s₂) fits width drawDelta
    drawCoin
  have folded : (if 2 ^ e ≤ run.dynamicFileSz - off then 2 ^ e else 1) = w := rfl
  rw [mangleAddSub_eq o printable run drawOff drawExp]
  refine ⟨by split_ifs <;> simp, fun i => ?_⟩
  cases printable
  · exact body i
  · simp only [folded, if_true, utilTurnToPrintable_dynamicFile, body, Run.withRnd_dynamicFile]
    split_ifs <;> rfl

/-- The bytes `01 00`, with a tape that draws `off = 0`, `e = 1`, `delta = -5`
and an odd coin. -/
def wordRun : Run (List Nat) where
  global := ⟨8, 1, 0, [], false, by decide⟩
  dynamicFile i := [0x01, 0x00].getD i 0
  dynamicFileSz := 2
  mutationsPerRun := 1
  rnd := [0, 1, 4091, 1]
  fault := none

theorem mangleAddSub_wordRun :
    0 < wordRun.dynamicFileSz ∧ (mangleAddSub tapeOracle false wordRun).dynamicFile 0 = 0xFC ∧
      (mangleAddSub tapeOracle false wordRun).dynamicFile 1 = 0xFF := by
  have law := @mangleAddSub_bytes _ tapeOracle false wordRun (by decide) 0 1 4091 1
    [1, 4091, 1] [4091, 1] [1] [] rfl rfl rfl rfl
  exact ⟨by decide, (law.2 0).trans (by decide), (law.2 1).trans (by decide)⟩

end Operator

/-! ### The width of the addition -/

/-- The bits of the C type `val += delta` is evaluated in: `int` for the 16- and
32-bit words (after promotion), `int64_t` for the 64-bit word. -/
def promotedBits (w : Nat) : Nat := if w = 8 then 64 else 32

/-- `x` is a value of the signed type of `bits` bits. -/
def FitsSigned (bits : Nat) (x : Int) : Prop := -2 ^ (bits - 1) ≤ x ∧ x < 2 ^ (bits - 1)

instance (bits : Nat) : DecidablePred (FitsSigned bits) := fun x =>
  inferInstanceAs (Decidable (-2 ^ (bits - 1) ≤ x ∧ x < 2 ^ (bits - 1)))

/-- The bytes `FF FF FF 7F` (`INT32_MAX`), with a tape that draws `off = 0`,
`e = 2`, `delta = +1` and an odd coin. -/
def int32MaxRun : Run (List Nat) where
  global := ⟨8, 1, 0, [], false, by decide⟩
  dynamicFile i := [0xFF, 0xFF, 0xFF, 0x7F].getD i 0
  dynamicFileSz := 4
  mutationsPerRun := 1
  rnd := [0, 2, 4097, 1]
  fault := none

/-- At `INT32_MAX` with `delta = +1`, `val += delta` leaves the range of `int`:
the word the code writes back, `00 00 00 80`, comes out of a signed overflow. -/
theorem mangleAddSub_int32_overflow :
    ¬FitsSigned (promotedBits 4) (addSubSum 4 (leValue int32MaxRun.contents) (4097 - 4096)) ∧
      (mangleAddSub tapeOracle false int32MaxRun).contents = [0x00, 0x00, 0x00, 0x80] := by
  decide

end Honggfuzz.Mangle
