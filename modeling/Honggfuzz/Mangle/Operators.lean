import Honggfuzz.Mangle.Buffer
import Honggfuzz.Mangle.MagicVals

/-!
The mutation operators of `mangle.c` other than `mangle_AddSub`, and
`mangle_Resize`, which `mangle_mangleContent` runs first. Each is a
transcription of its C body: the draws in the order the code makes them, then
the buffer primitives of `Buffer`.
-/

namespace Honggfuzz.Mangle

variable {σ : Type} (o : Oracle σ)

/-- `mangle_Bit`: flip bit `bit` of `dynamicFile[off]`. -/
def mangleBit (printable : Bool) (run : Run σ) : Run σ :=
  let (off, run) := utilRndGet o 0 (run.dynamicFileSz - 1) run
  let (bit, run) := utilRndGet o 0 7 run
  let run := run.store off 1 fun _ => run.dynamicFile off ^^^ UInt8.ofNat (1 <<< bit)
  if printable then utilTurnToPrintable off 1 run else run

/-- `mangle_Bytes`: eight random bytes in a stack word, `toCopy` of them written. -/
def mangleBytes (printable : Bool) (run : Run σ) : Run σ :=
  let (off, run) := utilRndGet o 0 (run.dynamicFileSz - 1) run
  let (buf, run) := rndBuf o printable 8 run
  let (toCopy, run) := utilRndGet o 1 8 run
  mangleOverwrite ((List.range 8).map buf) off toCopy run

/-- `mangle_DictionaryInsertNoCheck`: the dictionary walk to entry `choice`,
then `mangle_Inflate` by its length and `mangle_Overwrite` with its bytes. -/
def mangleDictionaryInsertNoCheck (printable : Bool) (run : Run σ) : Run σ :=
  let (choice, run) := utilRndGet o 0 (run.global.dictionaryCnt - 1) run
  let (str, run) := run.lookup run.global.dictq choice []
  let (off, run) := utilRndGet o 0 (run.dynamicFileSz - 1) run
  let run := mangleInflate o off str.length printable run
  mangleOverwrite str off str.length run

/-- `mangle_DictionaryInsert`. -/
def mangleDictionaryInsert (printable : Bool) (run : Run σ) : Run σ :=
  if run.global.dictionaryCnt = 0 then mangleBit o printable run
  else mangleDictionaryInsertNoCheck o printable run

/-- `mangle_DictionaryNoCheck`: it takes no `printable` flag. -/
def mangleDictionaryNoCheck (run : Run σ) : Run σ :=
  let (off, run) := utilRndGet o 0 (run.dynamicFileSz - 1) run
  let (choice, run) := utilRndGet o 0 (run.global.dictionaryCnt - 1) run
  let (str, run) := run.lookup run.global.dictq choice []
  mangleOverwrite str off str.length run

/-- `mangle_Dictionary`. -/
def mangleDictionary (printable : Bool) (run : Run σ) : Run σ :=
  if run.global.dictionaryCnt = 0 then mangleBit o printable run
  else mangleDictionaryNoCheck o run

/-- `mangle_Magic`: overwrite with a table entry; in printable mode
`util_turnToPrintable` runs on the entry's full `size` from `off`. -/
def mangleMagic (printable : Bool) (run : Run σ) : Run σ :=
  let (off, run) := utilRndGet o 0 (run.dynamicFileSz - 1) run
  let (choice, run) := utilRndGet o 0 (mangleMagicVals.length - 1) run
  let (magic, run) := run.lookup mangleMagicVals choice ⟨[], 0⟩
  let run := mangleOverwrite magic.val off magic.size run
  if printable then utilTurnToPrintable off magic.size run else run

/-- `mangle_MemSetWithVal`: `memset` of `sz` bytes at `off` with `val`. -/
def mangleMemSetWithVal (val : Nat) (run : Run σ) : Run σ :=
  let (off, run) := utilRndGet o 0 (run.dynamicFileSz - 1) run
  let (sz, run) := utilRndGet o 1 (run.dynamicFileSz - off) run
  run.store off sz fun _ => UInt8.ofNat val

/-- `mangle_MemSet`: the value is drawn before the call. -/
def mangleMemSet (printable : Bool) (run : Run σ) : Run σ :=
  let (val, run) :=
    if printable then
      let (b, run) := utilRndPrintable o run
      (b.toNat, run)
    else utilRndGet o 0 255 run
  mangleMemSetWithVal o val run

/-- `mangle_Random`: `len` fresh bytes at `off`. -/
def mangleRandom (printable : Bool) (run : Run σ) : Run σ :=
  let (off, run) := utilRndGet o 0 (run.dynamicFileSz - 1) run
  let (len, run) := utilRndGet o 1 (run.dynamicFileSz - off) run
  let (buf, run) := rndBuf o printable len run
  run.store off len buf

/-- `mangle_MemMove`. -/
def mangleMemMove (_printable : Bool) (run : Run σ) : Run σ :=
  let (offFrom, run) := utilRndGet o 0 (run.dynamicFileSz - 1) run
  let (offTo, run) := utilRndGet o 0 (run.dynamicFileSz - 1) run
  let (len, run) := utilRndGet o 0 run.dynamicFileSz run
  mangleMove offFrom offTo len run

/-- The shape shared by `mangle_IncByte`, `mangle_DecByte` and
`mangle_NegByte`: rewrite `dynamicFile[off]` with `printableOp` in printable
mode and with `plainOp` otherwise. -/
def mangleByteOp (printableOp plainOp : UInt8 → UInt8) (printable : Bool) (run : Run σ) : Run σ :=
  let (off, run) := utilRndGet o 0 (run.dynamicFileSz - 1) run
  run.store off 1 fun _ =>
    if printable then printableOp (run.dynamicFile off) else plainOp (run.dynamicFile off)

theorem toUInt8_printable {x : Int} (lo : 0x20 ≤ x) (hi : x ≤ 0x7E) : Printable (toUInt8 x) := by
  unfold toUInt8 Printable
  rw [UInt8.toNat_ofNat_of_lt (show (x % 256).toNat < 256 by omega)]
  omega

/-- The printable step of `mangle_IncByte`: `(b - 32 + 1) % 95 + 32` in `int`. -/
def incPrintable (b : UInt8) : UInt8 := toUInt8 (Int.tmod ((b.toNat : Int) - 32 + 1) 95 + 32)

theorem incPrintable_printable {b : UInt8} (printable : Printable b) :
    Printable (incPrintable b) := by
  unfold Printable at printable
  rw [incPrintable, Int.tmod_eq_emod (by omega) (by decide)]
  exact toUInt8_printable (by omega) (by omega)

/-- `mangle_IncByte`: `incPrintable b`, or `b + 1`. -/
def mangleIncByte : Bool → Run σ → Run σ := mangleByteOp o incPrintable (· + 1)

/-- The printable step of `mangle_DecByte`: `(b - 32 + 94) % 95 + 32` in `int`. -/
def decPrintable (b : UInt8) : UInt8 := toUInt8 (Int.tmod ((b.toNat : Int) - 32 + 94) 95 + 32)

theorem decPrintable_printable {b : UInt8} (printable : Printable b) :
    Printable (decPrintable b) := by
  unfold Printable at printable
  rw [decPrintable, Int.tmod_eq_emod (by omega) (by decide)]
  exact toUInt8_printable (by omega) (by omega)

/-- `mangle_DecByte`: `decPrintable b`, or `b - 1`. -/
def mangleDecByte : Bool → Run σ → Run σ := mangleByteOp o decPrintable (· - 1)

/-- The printable mirror of `mangle_NegByte`: `94 - (b - 32) + 32` in `int`. -/
def negPrintable (b : UInt8) : UInt8 := toUInt8 (94 - ((b.toNat : Int) - 32) + 32)

theorem negPrintable_printable {b : UInt8} (printable : Printable b) :
    Printable (negPrintable b) := by
  unfold Printable at printable
  exact toUInt8_printable (by omega) (by omega)

/-- `mangle_NegByte`: `negPrintable b`, or `~b`. -/
def mangleNegByte : Bool → Run σ → Run σ := mangleByteOp o negPrintable (~~~ ·)

/-- `mangle_CloneByte`: swap `dynamicFile[off1]` and `dynamicFile[off2]`. -/
def mangleCloneByte (_printable : Bool) (run : Run σ) : Run σ :=
  let (off1, run) := utilRndGet o 0 (run.dynamicFileSz - 1) run
  let (off2, run) := utilRndGet o 0 (run.dynamicFileSz - 1) run
  let tmp := run.dynamicFile off1
  let run := (run.access off2 1).store off1 1 fun _ => run.dynamicFile off2
  run.store off2 1 fun _ => tmp

/-- `mangle_Expand`: `mangle_Inflate` of `len` fresh bytes at `off`. -/
def mangleExpand (printable : Bool) (run : Run σ) : Run σ :=
  let (off, run) := utilRndGet o 0 (run.dynamicFileSz - 1) run
  let (len, run) := utilRndGet o 1 (run.dynamicFileSz - off) run
  mangleInflate o off len printable run

/-- `mangle_Shrink`: `input_setSize` to `size - len`, then `mangle_Move` of the
tail from `off + len` to `off`, bounded by the reduced size. -/
def mangleShrink (_printable : Bool) (run : Run σ) : Run σ :=
  if run.dynamicFileSz ≤ 1 then run
  else
    let (len, run) := utilRndGet o 1 (run.dynamicFileSz - 1) run
    let (off, run) := utilRndGet o 0 len run
    let run := inputSetSize (run.dynamicFileSz - len) run
    mangleMove (off + len) off run.dynamicFileSz run

/-- The `switch` of `mangle_Resize`: the new size in `ssize_t`, from a fresh
draw, from `oldsz + v`, or from the `size_t` expression `oldsz + 8 - v`. -/
def mangleResizeNewsz (oldsz : Nat) (run : Run σ) : Int × Run σ :=
  let (v, run) := utilRndGet o 0 16 run
  if v = 0 then
    let (r, run) := utilRndGet o 1 run.global.maxFileSz run
    (toSSize r, run)
  else if v ≤ 8 then (toSSize (toSizeT ((oldsz : Int) + v)), run)
  else if v ≤ 16 then (toSSize (toSizeT ((oldsz : Int) + 8 - v)), run)
  else (0, run.raise (.fatal v))

/-- The clamps of `mangle_Resize`: below 1 to 1, above `(ssize_t)maxFileSz` to it. -/
def clampNewsz (maxFileSz : Nat) (newsz : Int) : Int :=
  let newsz := if newsz < 1 then 1 else newsz
  if newsz > toSSize maxFileSz then toSSize maxFileSz else newsz

/-- The tail of `mangle_Resize`: `input_setSize(run, (size_t)newsz)`, and fresh
bytes at `[oldsz, newsz)` when it grew. -/
def mangleResizeTo (printable : Bool) (oldsz : Nat) (newsz : Int) (run : Run σ) : Run σ :=
  let run := inputSetSize (toSizeT newsz) run
  if newsz > toSSize oldsz then
    let (buf, run) := rndBuf o printable (toSizeT (newsz - oldsz)) run
    run.store oldsz (toSizeT (newsz - oldsz)) buf
  else run

/-- `mangle_Resize`. -/
def mangleResize (printable : Bool) (run : Run σ) : Run σ :=
  let oldsz := run.dynamicFileSz
  let (newsz, run) := mangleResizeNewsz o oldsz run
  mangleResizeTo o printable oldsz (clampNewsz run.global.maxFileSz newsz) run

/-- `(int64_t)` of a `uint64_t`. -/
def toInt64 (x : UInt64) : Int := if x.toNat < 2 ^ 63 then x.toNat else (x.toNat : Int) - 2 ^ 64

/-- The text `snprintf(buf, sizeof(buf), "%" PRId64, v)` writes: an optional
minus sign and the decimal digits of `|v|`. -/
def formatInt64 (v : Int) : List UInt8 :=
  ((if v < 0 then ['-'] else []) ++ Nat.toDigits 10 v.natAbs).map fun c => UInt8.ofNat c.toNat

/-- `mangle_ASCIIVal`: the decimal text of a random `int64_t`, `strlen` bytes of
it written at `off`. -/
def mangleASCIIVal (_printable : Bool) (run : Run σ) : Run σ :=
  let (r, run) := utilRnd64 o run
  let buf := formatInt64 (toInt64 r)
  let (off, run) := utilRndGet o 0 (run.dynamicFileSz - 1) run
  mangleOverwrite buf off buf.length run

/-! ### Frame lemmas -/

section Frame

variable (printable : Bool) (printableOp plainOp : UInt8 → UInt8) (run : Run σ)

@[simp] theorem mangleBit_global : (mangleBit o printable run).global = run.global := by
  simp only [mangleBit]
  split <;> simp
@[simp] theorem mangleBytes_global : (mangleBytes o printable run).global = run.global := by
  simp [mangleBytes]
@[simp] theorem mangleDictionaryInsertNoCheck_global :
    (mangleDictionaryInsertNoCheck o printable run).global = run.global := by
  simp [mangleDictionaryInsertNoCheck]
@[simp] theorem mangleDictionaryInsert_global :
    (mangleDictionaryInsert o printable run).global = run.global := by
  simp only [mangleDictionaryInsert]
  split <;> simp
@[simp] theorem mangleDictionaryNoCheck_global :
    (mangleDictionaryNoCheck o run).global = run.global := by
  simp [mangleDictionaryNoCheck]
@[simp] theorem mangleDictionary_global :
    (mangleDictionary o printable run).global = run.global := by
  simp only [mangleDictionary]
  split <;> simp
@[simp] theorem mangleMagic_global : (mangleMagic o printable run).global = run.global := by
  simp only [mangleMagic]
  split <;> simp
@[simp] theorem mangleMemSetWithVal_global (val : Nat) :
    (mangleMemSetWithVal o val run).global = run.global := by
  simp [mangleMemSetWithVal]
@[simp] theorem mangleMemSet_global : (mangleMemSet o printable run).global = run.global := by
  simp only [mangleMemSet]
  split <;> simp
@[simp] theorem mangleRandom_global : (mangleRandom o printable run).global = run.global := by
  simp [mangleRandom]
@[simp] theorem mangleMemMove_global : (mangleMemMove o printable run).global = run.global := by
  simp [mangleMemMove]
@[simp] theorem mangleByteOp_global :
    (mangleByteOp o printableOp plainOp printable run).global = run.global := by
  simp [mangleByteOp]
@[simp] theorem mangleCloneByte_global : (mangleCloneByte o printable run).global = run.global := by
  simp [mangleCloneByte]
@[simp] theorem mangleExpand_global : (mangleExpand o printable run).global = run.global := by
  simp [mangleExpand]
@[simp] theorem mangleShrink_global : (mangleShrink o printable run).global = run.global := by
  simp only [mangleShrink]
  split <;> simp
@[simp] theorem mangleResizeNewsz_global (oldsz : Nat) :
    (mangleResizeNewsz o oldsz run).2.global = run.global := by
  simp only [mangleResizeNewsz]
  split_ifs <;> simp
@[simp] theorem mangleResizeNewsz_dynamicFile (oldsz : Nat) :
    (mangleResizeNewsz o oldsz run).2.dynamicFile = run.dynamicFile := by
  simp only [mangleResizeNewsz]
  split_ifs <;> simp
@[simp] theorem mangleResizeTo_global (oldsz : Nat) (newsz : Int) :
    (mangleResizeTo o printable oldsz newsz run).global = run.global := by
  simp only [mangleResizeTo]
  split <;> simp
@[simp] theorem mangleResize_global : (mangleResize o printable run).global = run.global := by
  simp [mangleResize]
@[simp] theorem mangleASCIIVal_global : (mangleASCIIVal o printable run).global = run.global := by
  simp [mangleASCIIVal]
@[simp] theorem mangleBit_dynamicFileSz :
    (mangleBit o printable run).dynamicFileSz = run.dynamicFileSz := by
  simp only [mangleBit]
  split <;> simp
@[simp] theorem mangleBytes_dynamicFileSz :
    (mangleBytes o printable run).dynamicFileSz = run.dynamicFileSz := by
  simp [mangleBytes]
@[simp] theorem mangleDictionaryNoCheck_dynamicFileSz :
    (mangleDictionaryNoCheck o run).dynamicFileSz = run.dynamicFileSz := by
  simp [mangleDictionaryNoCheck]
@[simp] theorem mangleDictionary_dynamicFileSz :
    (mangleDictionary o printable run).dynamicFileSz = run.dynamicFileSz := by
  simp only [mangleDictionary]
  split <;> simp
@[simp] theorem mangleMagic_dynamicFileSz :
    (mangleMagic o printable run).dynamicFileSz = run.dynamicFileSz := by
  simp only [mangleMagic]
  split <;> simp
@[simp] theorem mangleMemSetWithVal_dynamicFileSz (val : Nat) :
    (mangleMemSetWithVal o val run).dynamicFileSz = run.dynamicFileSz := by
  simp [mangleMemSetWithVal]
@[simp] theorem mangleMemSet_dynamicFileSz :
    (mangleMemSet o printable run).dynamicFileSz = run.dynamicFileSz := by
  simp only [mangleMemSet]
  split <;> simp
@[simp] theorem mangleRandom_dynamicFileSz :
    (mangleRandom o printable run).dynamicFileSz = run.dynamicFileSz := by
  simp [mangleRandom]
@[simp] theorem mangleMemMove_dynamicFileSz :
    (mangleMemMove o printable run).dynamicFileSz = run.dynamicFileSz := by
  simp [mangleMemMove]
@[simp] theorem mangleByteOp_dynamicFileSz :
    (mangleByteOp o printableOp plainOp printable run).dynamicFileSz = run.dynamicFileSz := by
  simp [mangleByteOp]
@[simp] theorem mangleCloneByte_dynamicFileSz :
    (mangleCloneByte o printable run).dynamicFileSz = run.dynamicFileSz := by
  simp [mangleCloneByte]
@[simp] theorem mangleASCIIVal_dynamicFileSz :
    (mangleASCIIVal o printable run).dynamicFileSz = run.dynamicFileSz := by
  simp [mangleASCIIVal]

end Frame

/-- With its offset and entry drawn, `mangle_Magic` is `mangle_Overwrite` of
that entry of the table, followed in printable mode by `util_turnToPrintable`
over the entry's `size`. -/
theorem mangleMagic_eq (printable : Bool) (run : Run σ) {off choice : Nat} {s₁ s₂ : σ}
    (drawOff : o.rndGet 0 (run.dynamicFileSz - 1) run.rnd = (off, s₁))
    (drawChoice : o.rndGet 0 (mangleMagicVals.length - 1) s₁ = (choice, s₂)) :
    mangleMagic o printable run =
      let magic := mangleMagicVals.getD choice ⟨[], 0⟩
      let run := mangleOverwrite magic.val off magic.size (run.withRnd s₂)
      if printable then utilTurnToPrintable off magic.size run else run := by
  have inTable : choice < mangleMagicVals.length := by
    have choiceIn := o.draw_mem drawChoice (Nat.zero_le _)
    rw [mangleMagicVals_length] at choiceIn ⊢
    omega
  simp only [mangleMagic, utilRndGet, drawOff, Run.withRnd_rnd, Run.check_rnd, drawChoice,
    Run.lookup, Run.check_pos (Nat.zero_le (run.dynamicFileSz - 1)),
    Run.check_pos (Nat.zero_le (mangleMagicVals.length - 1)), Run.withRnd_withRnd,
    Run.check_pos inTable]

end Honggfuzz.Mangle
