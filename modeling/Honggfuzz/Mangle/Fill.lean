import Honggfuzz.Mangle.Operators

/-!
The operators that rewrite one window of the input and nothing else.
`mangle_MemSet` and `mangle_Random` draw a window of `[1, size - off]` bytes at
the drawn offset and fill it with one drawn byte or with fresh bytes.
`mangle_Bytes` and `mangle_Dictionary` go through `mangle_Overwrite`, which cuts
what they write at the end of the input: `mangle_Bytes` copies at most the
eight bytes of its `uint64_t`, and `mangle_Dictionary` a prefix of one of the
first `dictionaryCnt` entries, in either mode, since it takes no `printable`
flag.
-/

namespace Honggfuzz.Mangle

variable {σ : Type}

/-! ### One window rewritten -/

/-- `run'` is `run` with the window `[off, off + n)` of the input rewritten
with `src`: the window lies inside the input, the size stays, and no other
byte of the storage changes. -/
structure WritesWindow (run run' : Run σ) (off n : Nat) (src : Nat → UInt8) : Prop where
  inside : off + n ≤ run.dynamicFileSz
  size : run'.dynamicFileSz = run.dynamicFileSz
  bytes : ∀ i, run'.dynamicFile i =
    if off ≤ i ∧ i < off + n then src (i - off) else run.dynamicFile i

/-- The input after a window write: the bytes before the window, the `n`
written ones, and the bytes after it. -/
theorem WritesWindow.contents {run run' : Run σ} {off n : Nat} {src : Nat → UInt8}
    (writes : WritesWindow run run' off n src) :
    run'.contents =
      run.contents.take off ++ (List.range n).map src ++ run.contents.drop (off + n) := by
  have inside := writes.inside
  apply List.ext_getElem
  · simp only [Run.length_contents, writes.size, List.length_append, List.length_take,
      List.length_map, List.length_range, List.length_drop]
    omega
  · intro i lhs _
    simp only [Run.length_contents, writes.size] at lhs
    rw [Run.getElem_contents, writes.bytes]
    simp only [List.getElem_append, List.getElem_take, List.getElem_map, List.getElem_range,
      List.getElem_drop, Run.getElem_contents, List.length_append, List.length_take,
      List.length_map, List.length_range, Run.length_contents]
    split_ifs <;> first | rfl | omega | exact congrArg _ (by omega)

/-- Only the input matters to a window write, not the oracle's state. -/
theorem WritesWindow.of_withRnd {run run' : Run σ} {s : σ} {off n : Nat} {src : Nat → UInt8}
    (writes : WritesWindow (run.withRnd s) run' off n src) : WritesWindow run run' off n src :=
  ⟨writes.inside, writes.size, writes.bytes⟩

variable (o : Oracle σ)

/-- The window of `mangle_MemSetWithVal` and `mangle_Random`: an offset in the
input, then a length in `[1, size - off]`, so the window is nonempty and ends
inside the input. -/
theorem window_mem {size off len : Nat} {s s₁ s₂ : σ} (nonempty : 0 < size)
    (drawOff : o.rndGet 0 (size - 1) s = (off, s₁))
    (drawLen : o.rndGet 1 (size - off) s₁ = (len, s₂)) : 1 ≤ len ∧ off + len ≤ size := by
  have offIn := (o.draw_mem drawOff (Nat.zero_le _)).2
  have lenIn := o.draw_mem drawLen (by omega)
  omega

/-! ### `mangle_MemSet` -/

theorem mangleMemSetWithVal_writesWindow (val : Nat) (run : Run σ) (nonempty : 0 < run.dynamicFileSz)
    {off sz : Nat} {s₁ s₂ : σ}
    (drawOff : o.rndGet 0 (run.dynamicFileSz - 1) run.rnd = (off, s₁))
    (drawSz : o.rndGet 1 (run.dynamicFileSz - off) s₁ = (sz, s₂)) :
    1 ≤ sz ∧ WritesWindow run (mangleMemSetWithVal o val run) off sz fun _ => UInt8.ofNat val := by
  obtain ⟨pos, inside⟩ := window_mem o nonempty drawOff drawSz
  refine ⟨pos, inside, mangleMemSetWithVal_dynamicFileSz o run val, fun i => ?_⟩
  simp only [mangleMemSetWithVal, utilRndGet, drawOff, Run.withRnd_rnd, Run.check_rnd,
    Run.withRnd_dynamicFileSz, Run.check_dynamicFileSz, drawSz, Run.store_dynamicFile,
    Run.withRnd_dynamicFile, Run.check_dynamicFile]

/-- With the value, the offset and the length drawn, `mangle_MemSet` fills a
nonempty window inside the input with one byte: a printable one in printable
mode, and outside it any value of `[0, 255]`, which `memset`'s conversion to
`unsigned char` keeps. -/
theorem mangleMemSet_fills (printable : Bool) (run : Run σ) (nonempty : 0 < run.dynamicFileSz)
    {val off sz : Nat} {s₀ s₁ s₂ : σ}
    (drawVal : (if printable then ((o.rndPrintable run.rnd).1.toNat, (o.rndPrintable run.rnd).2)
      else o.rndGet 0 255 run.rnd) = (val, s₀))
    (drawOff : o.rndGet 0 (run.dynamicFileSz - 1) s₀ = (off, s₁))
    (drawSz : o.rndGet 1 (run.dynamicFileSz - off) s₁ = (sz, s₂)) :
    (UInt8.ofNat val).toNat = val ∧ (printable = true → Printable (UInt8.ofNat val)) ∧ 1 ≤ sz ∧
      WritesWindow run (mangleMemSet o printable run) off sz fun _ => UInt8.ofNat val := by
  have valued : val < 256 ∧ (printable = true → Printable (UInt8.ofNat val)) ∧
      mangleMemSet o printable run = mangleMemSetWithVal o val (run.withRnd s₀) := by
    cases printable
    · simp only [Bool.false_eq_true, if_false] at drawVal
      have valIn := (o.draw_mem drawVal (by decide)).2
      refine ⟨by omega, nofun, ?_⟩
      simp only [mangleMemSet, utilRndGet, drawVal, Bool.false_eq_true, if_false,
        Run.check_pos (Nat.zero_le 255)]
    · simp only [if_true, Prod.mk.injEq] at drawVal
      obtain ⟨drawn, moved⟩ := drawVal
      have printableVal := o.rndPrintable_printable run.rnd
      have byte : UInt8.ofNat val = (o.rndPrintable run.rnd).1 :=
        UInt8.toNat.inj (by rw [← drawn]; exact UInt8.toNat_ofNat_of_lt (UInt8.toNat_lt_size _))
      refine ⟨drawn ▸ UInt8.toNat_lt_size _, fun _ => byte ▸ printableVal, ?_⟩
      simp only [mangleMemSet, utilRndPrintable, if_true, drawn, moved]
  obtain ⟨small, printableVal, eq⟩ := valued
  obtain ⟨pos, window⟩ := mangleMemSetWithVal_writesWindow o val (run.withRnd s₀) nonempty drawOff
    drawSz
  rw [eq]
  exact ⟨UInt8.toNat_ofNat_of_lt small, printableVal, pos, window.of_withRnd⟩

/-- The input `ABCD`, with the dictionary `[XY]` and the tape `rnd`. -/
def fillRun (rnd : List Nat) : Run (List Nat) where
  global := ⟨8, 1, 1, [[0x58, 0x59]], false, by decide⟩
  dynamicFile i := [0x41, 0x42, 0x43, 0x44].getD i 0
  dynamicFileSz := 4
  mutationsPerRun := 1
  rnd := rnd
  fault := none

/-- In printable mode the tape draws `Z`, `off = 1` and `sz = 2`. -/
theorem mangleMemSet_fills_fillRun :
    (mangleMemSet tapeOracle true (fillRun [0x5A, 1, 2])).contents = [0x41, 0x5A, 0x5A, 0x44] := by
  have law := @mangleMemSet_fills _ tapeOracle true (fillRun [0x5A, 1, 2]) (by decide) 0x5A 1 2
    [1, 2] [2] [] rfl rfl rfl
  exact law.2.2.2.contents.trans (by decide)

/-! ### `mangle_Random` -/

/-- With the offset and the length drawn, `mangle_Random` fills a nonempty
window inside the input with the fresh bytes the oracle draws, printable ones in
printable mode. -/
theorem mangleRandom_fills (printable : Bool) (run : Run σ) (nonempty : 0 < run.dynamicFileSz)
    {off len : Nat} {s₁ s₂ : σ}
    (drawOff : o.rndGet 0 (run.dynamicFileSz - 1) run.rnd = (off, s₁))
    (drawLen : o.rndGet 1 (run.dynamicFileSz - off) s₁ = (len, s₂)) :
    let fresh := (if printable then o.rndBufPrintable len s₂ else o.rndBuf len s₂).1
    1 ≤ len ∧ WritesWindow run (mangleRandom o printable run) off len fresh ∧
      (printable = true → ∀ k, Printable (fresh k)) := by
  intro fresh
  obtain ⟨pos, inside⟩ := window_mem o nonempty drawOff drawLen
  refine ⟨pos, ⟨inside, mangleRandom_dynamicFileSz o printable run, fun i => ?_⟩, ?_⟩
  · simp only [mangleRandom, utilRndGet, rndBuf, drawOff, Run.withRnd_rnd, Run.check_rnd,
      Run.withRnd_dynamicFileSz, Run.check_dynamicFileSz, drawLen, Run.store_dynamicFile,
      Run.withRnd_dynamicFile, Run.check_dynamicFile]
  · rintro rfl k
    exact o.rndBufPrintable_printable len s₂ k

theorem mangleRandom_fills_fillRun :
    (mangleRandom tapeOracle false (fillRun [1, 2, 0x30, 0x31])).contents =
      [0x41, 0x30, 0x31, 0x44] := by
  have law := @mangleRandom_fills _ tapeOracle false (fillRun [1, 2, 0x30, 0x31]) (by decide) 1 2
    [2, 0x30, 0x31] [0x30, 0x31] rfl rfl
  exact law.2.1.contents.trans (by decide)

/-! ### `mangle_Bytes` -/

/-- With the offset and the count drawn, `mangle_Bytes` writes the first
`toCopy` of its eight fresh bytes at `off`, cut at the end of the input; as
`toCopy ≤ 8`, it never reads past its `uint64_t`. -/
theorem mangleBytes_writesWindow (printable : Bool) (run : Run σ) (sizeOk : SizeOk run)
    {off toCopy : Nat} {s₁ s₂ : σ}
    (drawOff : o.rndGet 0 (run.dynamicFileSz - 1) run.rnd = (off, s₁))
    (drawToCopy : o.rndGet 1 8 (if printable then o.rndBufPrintable 8 s₁ else o.rndBuf 8 s₁).2 =
      (toCopy, s₂)) :
    let buf := (if printable then o.rndBufPrintable 8 s₁ else o.rndBuf 8 s₁).1
    1 ≤ toCopy ∧ toCopy ≤ 8 ∧
      WritesWindow run (mangleBytes o printable run) off (min toCopy (run.dynamicFileSz - off)) buf ∧
      (printable = true → ∀ k, Printable (buf k)) := by
  intro buf
  have offIn := (o.draw_mem drawOff (Nat.zero_le _)).2
  have toCopyIn := o.draw_mem drawToCopy (by decide)
  refine ⟨toCopyIn.1, toCopyIn.2,
    ⟨by omega, mangleBytes_dynamicFileSz o printable run, fun i => ?_⟩, ?_⟩
  · simp only [mangleBytes, utilRndGet, rndBuf, drawOff, Run.withRnd_rnd, Run.check_rnd,
      Run.withRnd_withRnd, drawToCopy, Run.check_pos (Nat.zero_le (run.dynamicFileSz - 1)),
      Run.check_pos (by decide : 1 ≤ 8)]
    rw [mangleOverwrite_dynamicFile]
    dsimp only [Run.withRnd_dynamicFileSz, Run.withRnd_dynamicFile]
    by_cases inside : off ≤ i ∧ i < off + min toCopy (run.dynamicFileSz - off)
    · rw [if_pos inside, if_pos inside,
        List.getD_eq_getElem _ _ (by simp only [List.length_map, List.length_range]; omega),
        List.getElem_map, List.getElem_range]
    · rw [if_neg inside, if_neg inside]
  · rintro rfl k
    exact o.rndBufPrintable_printable 8 s₁ k

/-- At `off = 3` the two bytes drawn are cut to one. -/
theorem mangleBytes_writesWindow_fillRun :
    (mangleBytes tapeOracle false (fillRun [3, 0x78, 0x79, 0, 0, 0, 0, 0, 0, 2])).contents =
      [0x41, 0x42, 0x43, 0x78] := by
  have law := @mangleBytes_writesWindow _ tapeOracle false
    (fillRun [3, 0x78, 0x79, 0, 0, 0, 0, 0, 0, 2]) (by decide) 3 2 [0x78, 0x79, 0, 0, 0, 0, 0, 0, 2] [] rfl rfl
  exact law.2.2.1.contents.trans (by decide)

/-! ### `mangle_Dictionary` -/

/-- With a nonempty dictionary of at least `dictionaryCnt` entries and the
offset and the index drawn, `mangle_Dictionary` writes entry
`choice < dictionaryCnt` at `off`, cut at the end of the input, the same in
both modes. -/
theorem mangleDictionary_writesWindow (printable : Bool) (run : Run σ)
    (dictionary : 0 < run.global.dictionaryCnt)
    (dictionaryOk : run.global.dictionaryCnt ≤ run.global.dictq.length) {off choice : Nat}
    {s₁ s₂ : σ} (drawOff : o.rndGet 0 (run.dynamicFileSz - 1) run.rnd = (off, s₁))
    (drawChoice : o.rndGet 0 (run.global.dictionaryCnt - 1) s₁ = (choice, s₂)) :
    let entry := run.global.dictq.getD choice []
    choice < run.global.dictionaryCnt ∧ entry ∈ run.global.dictq ∧
      WritesWindow run (mangleDictionary o printable run) off
        (min entry.length (run.dynamicFileSz - off)) fun k => entry.getD k 0 := by
  intro entry
  have offIn := (o.draw_mem drawOff (Nat.zero_le _)).2
  have choiceIn := (o.draw_mem drawChoice (Nat.zero_le _)).2
  refine ⟨by omega, getD_mem _ (by omega), by omega, mangleDictionary_dynamicFileSz o printable run,
    fun i => ?_⟩
  unfold mangleDictionary
  rw [if_neg (Nat.pos_iff_ne_zero.mp dictionary)]
  simp only [mangleDictionaryNoCheck, utilRndGet, Run.lookup, drawOff, Run.withRnd_rnd,
    Run.check_rnd, Run.withRnd_global, Run.check_global, drawChoice,
    Run.check_pos (Nat.zero_le (run.dynamicFileSz - 1)),
    Run.check_pos (Nat.zero_le (run.global.dictionaryCnt - 1)), Run.withRnd_withRnd]
  rw [mangleOverwrite_dynamicFile]
  rfl

theorem mangleDictionary_writesWindow_fillRun :
    (mangleDictionary tapeOracle false (fillRun [1, 0])).contents = [0x41, 0x58, 0x59, 0x44] := by
  have law := @mangleDictionary_writesWindow _ tapeOracle false (fillRun [1, 0]) (by decide)
    (by decide) 1 0 [0] [] rfl rfl
  exact law.2.2.contents.trans (by decide)

end Honggfuzz.Mangle
