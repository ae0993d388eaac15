import Mathlib.Data.Nat.Digits
import Honggfuzz.Mangle.Operators

/-!
`mangle_ASCIIVal` writes the decimal text `snprintf` makes of a random
`int64_t`. The text is at most 20 bytes, a sign and 19 digits, so
`char buf[32]` never cuts it and `strlen` is its whole length; read back as a
decimal it is the drawn value. The operator writes its first
`min strlen (size - off)` bytes at `off` and nothing else.
-/

namespace Honggfuzz.Mangle

/-! ### Reading a decimal -/

/-- The digit a byte stands for, when it is one of `0` to `9`. -/
def digitOf (b : UInt8) : Option Nat :=
  if 0x30 ≤ b.toNat ∧ b.toNat ≤ 0x39 then some (b.toNat - 0x30) else none

/-- One step of reading digits, most significant first. -/
def digitStep (acc : Option Nat) (b : UInt8) : Option Nat :=
  acc.bind fun v => (digitOf b).map fun d => 10 * v + d

/-- The value of a nonempty string of decimal digits. -/
def digitsValue (digits : List UInt8) : Option Nat :=
  if digits = [] then none else digits.foldl digitStep (some 0)

/-- The value of a decimal text: an optional `-`, then digits. -/
def decimalValue : List UInt8 → Option Int
  | [] => none
  | b :: digits =>
      if b = 0x2D then (digitsValue digits).map fun v : Nat => -(v : Int)
      else (digitsValue (b :: digits)).map fun v : Nat => (v : Int)

/-- A byte that is no digit stops the reading for good. -/
theorem foldl_digitStep_none (bytes : List UInt8) : bytes.foldl digitStep none = none := by
  induction bytes with
  | nil => rfl
  | cons b bs ih => exact ih

/-- The byte a digit character of `snprintf` becomes. -/
def digitByte (c : Char) : UInt8 := UInt8.ofNat c.toNat

theorem digitOf_digitChar {k : Nat} (small : k < 10) :
    digitOf (digitByte (Nat.digitChar k)) = some k := by
  have all : ∀ k ∈ List.range 10, digitOf (digitByte (Nat.digitChar k)) = some k := by decide
  exact all k (List.mem_range.2 small)

/-- The decimal digits `Nat.toDigits` writes are printable. -/
theorem toDigitsCore_printable (fuel n : Nat) (ds : List Char)
    (printable : ∀ c ∈ ds, Printable (UInt8.ofNat c.toNat)) :
    ∀ c ∈ Nat.toDigitsCore 10 fuel n ds, Printable (UInt8.ofNat c.toNat) := by
  have digits : ∀ k ∈ List.range 10, Printable (UInt8.ofNat (Nat.digitChar k).toNat) := by decide
  have digit (n : Nat) := digits (n % 10) (List.mem_range.2 (Nat.mod_lt n (by decide)))
  induction fuel generalizing n ds with
  | zero => exact printable
  | succ fuel ih =>
      simp only [Nat.toDigitsCore]
      split
      · simpa [digit n] using printable
      · exact ih _ _ (by simpa [digit n] using printable)

/-! ### The digits `Nat.toDigits` writes -/

theorem toDigitsCore_append (base fuel n : Nat) (ds : List Char) :
    Nat.toDigitsCore base fuel n ds = Nat.toDigitsCore base fuel n [] ++ ds := by
  induction fuel generalizing n ds with
  | zero => rfl
  | succ fuel ih =>
      simp only [Nat.toDigitsCore]
      split
      · rfl
      · rw [ih _ (_ :: ds), ih _ [_], List.append_assoc, List.singleton_append]

/-- With enough fuel, the digits of `n` read back as `n`. -/
theorem foldl_toDigitsCore (fuel n : Nat) (enough : n < fuel) :
    ((Nat.toDigitsCore 10 fuel n []).map digitByte).foldl digitStep (some 0) = some n := by
  induction fuel generalizing n with
  | zero => omega
  | succ fuel ih =>
      have last := digitOf_digitChar (Nat.mod_lt n (show 10 > 0 by decide))
      simp only [Nat.toDigitsCore]
      split
      · simp only [List.map_cons, List.map_nil, List.foldl_cons, List.foldl_nil, digitStep, last,
          Option.some_bind, Option.map_some', Option.some.injEq]
        omega
      · rw [toDigitsCore_append, List.map_append, List.foldl_append, ih _ (by omega)]
        simp only [List.map_cons, List.map_nil, List.foldl_cons, List.foldl_nil, digitStep, last,
          Option.some_bind, Option.map_some', Option.some.injEq]
        omega

theorem toDigits_ne_nil (n : Nat) : Nat.toDigits 10 n ≠ [] := by
  simp only [Nat.toDigits, Nat.toDigitsCore]
  split
  · exact List.cons_ne_nil _ _
  · rw [toDigitsCore_append]
    exact List.append_ne_nil_of_right_ne_nil _ (List.cons_ne_nil _ _)

theorem digitsValue_toDigits (n : Nat) : digitsValue ((Nat.toDigits 10 n).map digitByte) = some n := by
  rw [digitsValue, if_neg (by simpa using toDigits_ne_nil n)]
  exact foldl_toDigitsCore _ _ (Nat.lt_succ_self n)

/-! ### The text of `snprintf("%" PRId64)` -/

theorem formatInt64_eq (v : Int) :
    formatInt64 v =
      (if v < 0 then [0x2D] else []) ++ (Nat.toDigits 10 v.natAbs).map digitByte := by
  unfold formatInt64
  rw [List.map_append]
  split <;> rfl

theorem formatInt64_printable (v : Int) : ∀ b ∈ formatInt64 v, Printable b := by
  have digits := toDigitsCore_printable (v.natAbs + 1) v.natAbs [] nofun
  intro b mem
  simp only [formatInt64, List.mem_map, List.mem_append, Nat.toDigits] at mem
  obtain ⟨c, sign | digit, rfl⟩ := mem
  · split at sign
    · obtain rfl := List.mem_singleton.1 sign
      decide
    · cases sign
  · exact digits c digit

/-- Read back as a decimal, the text is the value. -/
theorem decimalValue_formatInt64 (v : Int) : decimalValue (formatInt64 v) = some v := by
  have digits := digitsValue_toDigits v.natAbs
  rw [formatInt64_eq]
  split
  · simp only [List.singleton_append, decimalValue, if_true, digits, Option.map_some',
      Option.some.injEq]
    omega
  · rw [List.nil_append]
    obtain ⟨b, rest, text⟩ := List.exists_cons_of_ne_nil
      (by simpa using toDigits_ne_nil v.natAbs : (Nat.toDigits 10 v.natAbs).map digitByte ≠ [])
    rw [text] at digits ⊢
    have notSign : b ≠ 0x2D := by
      rintro rfl
      have stuck : digitStep (some 0) 0x2D = none := rfl
      rw [digitsValue, if_neg (List.cons_ne_nil _ _), List.foldl_cons, stuck,
        foldl_digitStep_none] at digits
      exact Option.noConfusion digits
    simp only [decimalValue, if_neg notSign, digits, Option.map_some', Option.some.injEq]
    omega

/-- `(int64_t)` of a `uint64_t` lies in `[-2 ^ 63, 2 ^ 63)`. -/
theorem natAbs_toInt64_le (x : UInt64) : (toInt64 x).natAbs ≤ 2 ^ 63 := by
  have small : x.toNat < 2 ^ 64 := x.toNat_lt_size
  unfold toInt64
  split <;> omega

/-- The text of an `int64_t` is at most a sign and 19 digits. -/
theorem length_formatInt64_toInt64 (x : UInt64) : (formatInt64 (toInt64 x)).length ≤ 20 := by
  have digits := Nat.toDigitsCore_length 10 (by decide) ((toInt64 x).natAbs + 1)
    (toInt64 x).natAbs 19 (lt_of_le_of_lt (natAbs_toInt64_le x) (by decide)) (by decide)
  rw [formatInt64_eq, List.length_append, List.length_map, Nat.toDigits]
  split <;> simp only [List.length_singleton, List.length_nil] <;> omega

/-! ### The operator -/

variable {σ : Type} (o : Oracle σ)

/-- With the word and the offset drawn, `mangle_ASCIIVal` writes the decimal
text of the word read as `int64_t`, cut at the end of the input, and nothing
else. The text has at most 20 bytes, so `snprintf` into `char buf[32]` never
truncates it, and it reads back as the value. -/
theorem mangleASCIIVal_dynamicFile (printable : Bool) (run : Run σ) (sizeOk : SizeOk run)
    {r : UInt64} {off : Nat} {s₁ s₂ : σ} (drawR : o.rnd64 run.rnd = (r, s₁))
    (drawOff : o.rndGet 0 (run.dynamicFileSz - 1) s₁ = (off, s₂)) :
    let text := formatInt64 (toInt64 r)
    text.length ≤ 20 ∧ decimalValue text = some (toInt64 r) ∧
      (mangleASCIIVal o printable run).dynamicFileSz = run.dynamicFileSz ∧
      ∀ i, (mangleASCIIVal o printable run).dynamicFile i =
        if off ≤ i ∧ i < off + min text.length (run.dynamicFileSz - off) then text.getD (i - off) 0
        else run.dynamicFile i := by
  intro text
  refine ⟨length_formatInt64_toInt64 r, decimalValue_formatInt64 _,
    mangleASCIIVal_dynamicFileSz o printable run, fun i => ?_⟩
  simp only [mangleASCIIVal, utilRnd64, utilRndGet, drawR, Run.withRnd_rnd,
    Run.withRnd_dynamicFileSz, drawOff]
  rw [mangleOverwrite_dynamicFile]
  rfl

/-- Four zero bytes with a tape that draws the word `2 ^ 64 - 42` and the offset 1. -/
def asciiRun : Run (List Nat) where
  global := ⟨8, 1, 0, [], false, by decide⟩
  dynamicFile _ := 0
  dynamicFileSz := 4
  mutationsPerRun := 1
  rnd := [18446744073709551574, 1]
  fault := none

/-- The word reads as `-42`: the text `-42` fills the bytes from 1 to the end. -/
theorem mangleASCIIVal_dynamicFile_asciiRun :
    SizeOk asciiRun ∧ decimalValue (formatInt64 (toInt64 18446744073709551574)) = some (-42) ∧
      (mangleASCIIVal tapeOracle false asciiRun).dynamicFile 3 = 0x32 := by
  have law := @mangleASCIIVal_dynamicFile _ tapeOracle false asciiRun (by decide)
    18446744073709551574 1 [1] [] rfl rfl
  exact ⟨by decide, law.2.1.trans (by decide), (law.2.2.2 3).trans (by decide)⟩

end Honggfuzz.Mangle
