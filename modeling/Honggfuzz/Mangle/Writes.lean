import Mathlib.Logic.Equiv.Basic
import Honggfuzz.Mangle.Operators

/-!
What the operators that draw their windows put in them. `mangle_CloneByte`
exchanges two bytes: it permutes the input by the transposition of its offsets,
so a second run that draws the same offsets restores it. `mangle_Magic` writes
the bytes of the entry of the table it draws, cut at the end of the input; in
printable mode it then makes the entry's full `size` from `off` printable,
which past the end of the input rewrites what the storage holds there.
`mangle_MemMove` copies with `memmove`, its length clamped one byte short of
the end.
-/

namespace Honggfuzz.Mangle

variable {σ : Type} (o : Oracle σ)

/-! ### `mangle_CloneByte` -/

/-- With its offsets drawn, `mangle_CloneByte` reads every byte through the
transposition of the two offsets, and leaves the oracle after the two draws. -/
theorem mangleCloneByte_eq_swap (printable : Bool) (run : Run σ) {off₁ off₂ : Nat} {s₁ s₂ : σ}
    (drawOff₁ : o.rndGet 0 (run.dynamicFileSz - 1) run.rnd = (off₁, s₁))
    (drawOff₂ : o.rndGet 0 (run.dynamicFileSz - 1) s₁ = (off₂, s₂)) :
    (mangleCloneByte o printable run).dynamicFile = run.dynamicFile ∘ Equiv.swap off₁ off₂ ∧
      (mangleCloneByte o printable run).rnd = s₂ := by
  simp only [mangleCloneByte, utilRndGet, drawOff₁, Run.withRnd_rnd, Run.check_rnd,
    Run.withRnd_dynamicFileSz, Run.check_dynamicFileSz, drawOff₂]
  refine ⟨funext fun i => ?_, rfl⟩
  simp only [Run.store_dynamicFile, Run.access, Run.check_dynamicFile, Run.withRnd_dynamicFile,
    Function.comp_apply, Equiv.swap_apply_def]
  split_ifs <;> first | rfl | omega | exact congrArg _ (by omega)

/-- `mangle_CloneByte` exchanges the bytes at the two offsets it draws: it
permutes the input by their transposition, and when the oracle draws the same
two offsets again, a second `mangle_CloneByte` restores every byte. -/
theorem mangleCloneByte_swap_involutive (printable : Bool) (run : Run σ) (sizeOk : SizeOk run)
    {off₁ off₂ : Nat} {s₁ s₂ s₃ s₄ : σ}
    (drawOff₁ : o.rndGet 0 (run.dynamicFileSz - 1) run.rnd = (off₁, s₁))
    (drawOff₂ : o.rndGet 0 (run.dynamicFileSz - 1) s₁ = (off₂, s₂))
    (redrawOff₁ : o.rndGet 0 (run.dynamicFileSz - 1) s₂ = (off₁, s₃))
    (redrawOff₂ : o.rndGet 0 (run.dynamicFileSz - 1) s₃ = (off₂, s₄)) :
    (mangleCloneByte o printable run).dynamicFile = run.dynamicFile ∘ Equiv.swap off₁ off₂ ∧
      (mangleCloneByte o printable (mangleCloneByte o printable run)).dynamicFile =
        run.dynamicFile := by
  obtain ⟨swapped, moved⟩ := mangleCloneByte_eq_swap o printable run drawOff₁ drawOff₂
  have sized := mangleCloneByte_dynamicFileSz o printable run
  obtain ⟨again, -⟩ := @mangleCloneByte_eq_swap σ o printable (mangleCloneByte o printable run)
    off₁ off₂ s₃ s₄ (by rw [moved, sized]; exact redrawOff₁) (by rw [sized]; exact redrawOff₂)
  refine ⟨swapped, ?_⟩
  rw [again, swapped]
  funext i
  exact congrArg run.dynamicFile (Equiv.swap_apply_self off₁ off₂ i)

/-- The input `ABC` with a tape that draws the offsets 0 and 2 twice. -/
def swapRun : Run (List Nat) where
  global := ⟨8, 1, 0, [], false, by decide⟩
  dynamicFile i := [0x41, 0x42, 0x43].getD i 0
  dynamicFileSz := 3
  mutationsPerRun := 1
  rnd := [0, 2, 0, 2]
  fault := none

theorem mangleCloneByte_swap_involutive_swapRun :
    SizeOk swapRun ∧ (mangleCloneByte tapeOracle false swapRun).dynamicFile 0 = 0x43 ∧
      (mangleCloneByte tapeOracle false (mangleCloneByte tapeOracle false swapRun)).dynamicFile =
        swapRun.dynamicFile := by
  have law := @mangleCloneByte_swap_involutive _ tapeOracle false swapRun (by decide) 0 2
    [2, 0, 2] [0, 2] [2] [] rfl rfl rfl rfl
  exact ⟨by decide, (congrFun law.1 0).trans (by decide), law.2⟩

/-! ### `mangle_Magic` -/

/-- With its offset and entry drawn, `mangle_Magic` writes the bytes of that
entry of the table at `off`, cut at the end of the input, and nothing else
outside printable mode. In printable mode the entry's full `size` from `off` is
then made printable, past the end of the input too. -/
theorem mangleMagic_dynamicFile (printable : Bool) (run : Run σ) (sizeOk : SizeOk run)
    {off choice : Nat} {s₁ s₂ : σ}
    (drawOff : o.rndGet 0 (run.dynamicFileSz - 1) run.rnd = (off, s₁))
    (drawChoice : o.rndGet 0 (mangleMagicVals.length - 1) s₁ = (choice, s₂)) :
    let magic := mangleMagicVals.getD choice ⟨[], 0⟩
    let n := min magic.size (run.dynamicFileSz - off)
    magic ∈ mangleMagicVals ∧ magic.WellFormed ∧
      (mangleMagic o printable run).dynamicFileSz = run.dynamicFileSz ∧
      ∀ i, (mangleMagic o printable run).dynamicFile i =
        if off ≤ i ∧ i < off + n then
          (if printable then toPrintable (magic.val.getD (i - off) 0)
            else magic.val.getD (i - off) 0)
        else if printable ∧ off ≤ i ∧ i < off + magic.size then toPrintable (run.dynamicFile i)
        else run.dynamicFile i := by
  intro magic n
  have inTable : choice < mangleMagicVals.length := by
    have choiceIn := o.draw_mem drawChoice (Nat.zero_le _)
    rw [mangleMagicVals_length] at choiceIn ⊢
    omega
  have member : magic ∈ mangleMagicVals := getD_mem _ inTable
  refine ⟨member, mangleMagicVals_wellFormed _ member, mangleMagic_dynamicFileSz o printable run,
    fun i => ?_⟩
  rw [mangleMagic_eq o printable run drawOff drawChoice]
  cases printable
  · simp only [Bool.false_eq_true, if_false, false_and, mangleOverwrite_dynamicFile,
      Run.withRnd_dynamicFile, Run.withRnd_dynamicFileSz]
  · simp only [if_true, true_and, utilTurnToPrintable_dynamicFile, mangleOverwrite_dynamicFile,
      Run.withRnd_dynamicFile, Run.withRnd_dynamicFileSz]
    split_ifs <;> first | rfl | omega

/-- Eight zero bytes with a tape that draws `off = 2` and the first four-byte
big-endian entry, `00 00 00 01`. -/
def zeroRun : Run (List Nat) where
  global := ⟨8, 1, 0, [], false, by decide⟩
  dynamicFile _ := 0
  dynamicFileSz := 8
  mutationsPerRun := 1
  rnd := [2, 95]
  fault := none

set_option maxRecDepth 100000 in
theorem mangleMagic_dynamicFile_zeroRun :
    SizeOk zeroRun ∧ mangleMagicVals.getD 95 ⟨[], 0⟩ ∈ mangleMagicVals ∧
      (mangleMagic tapeOracle false zeroRun).dynamicFile 5 = 0x01 := by
  have law := @mangleMagic_dynamicFile _ tapeOracle false zeroRun (by decide) 2 95 [95] [] rfl
    (by rw [mangleMagicVals_length]; rfl)
  exact ⟨by decide, law.1, (law.2.2.2 5).trans (by decide)⟩

/-! ### `mangle_MemMove` -/

/-- With its draws named and the size below `2 ^ 63`, `mangle_MemMove` is a
`memmove` of `n = moveLen` bytes: the bytes `[offTo, offTo + n)` take the old
bytes from `offFrom`, whether or not the two windows overlap, and nothing else
changes. The clamps of `mangle_Move` leave one byte more than the room, so
neither window reaches the last byte of the input. -/
theorem mangleMemMove_dynamicFile (printable : Bool) (run : Run σ)
    (nonempty : 0 < run.dynamicFileSz) (small : run.dynamicFileSz < 2 ^ 63)
    {offFrom offTo len : Nat} {s₁ s₂ s₃ : σ}
    (drawFrom : o.rndGet 0 (run.dynamicFileSz - 1) run.rnd = (offFrom, s₁))
    (drawTo : o.rndGet 0 (run.dynamicFileSz - 1) s₁ = (offTo, s₂))
    (drawLen : o.rndGet 0 run.dynamicFileSz s₂ = (len, s₃)) :
    let n := moveLen run.dynamicFileSz offFrom offTo len
    offFrom + n < run.dynamicFileSz ∧ offTo + n < run.dynamicFileSz ∧
      (mangleMemMove o printable run).dynamicFileSz = run.dynamicFileSz ∧
      ∀ i, (mangleMemMove o printable run).dynamicFile i =
        if offTo ≤ i ∧ i < offTo + n then run.dynamicFile (offFrom + (i - offTo))
        else run.dynamicFile i := by
  intro n
  have fromIn := (o.draw_mem drawFrom (Nat.zero_le _)).2
  have toIn := (o.draw_mem drawTo (Nat.zero_le _)).2
  have lenLe := (o.draw_mem drawLen (Nat.zero_le _)).2
  have windows : offFrom + n < run.dynamicFileSz ∧ offTo + n < run.dynamicFileSz := by
    simp only [n, moveLen]
    omega
  refine ⟨windows.1, windows.2, mangleMemMove_dynamicFileSz o printable run, fun i => ?_⟩
  simp only [mangleMemMove, utilRndGet, drawFrom, Run.withRnd_rnd, Run.check_rnd, drawTo, drawLen,
    Run.withRnd_dynamicFileSz, Run.check_dynamicFileSz,
    Run.check_pos (Nat.zero_le (run.dynamicFileSz - 1)), Run.check_pos (Nat.zero_le run.dynamicFileSz),
    Run.withRnd_withRnd]
  rw [mangleMove_eq _ _ _ _ (by simp only [Run.withRnd_dynamicFileSz]; omega)
    (by simp only [Run.withRnd_dynamicFileSz]; omega) (by simpa using small) (by omega)]
  simp only [Run.store_dynamicFile, Run.access, Run.check_dynamicFile, Run.withRnd_dynamicFile,
    Run.withRnd_dynamicFileSz]

/-- The input `ABCDE` with a tape that draws `offFrom = 0`, `offTo = 1` and `len = 5`. -/
def moveRun : Run (List Nat) where
  global := ⟨8, 1, 0, [], false, by decide⟩
  dynamicFile i := [0x41, 0x42, 0x43, 0x44, 0x45].getD i 0
  dynamicFileSz := 5
  mutationsPerRun := 1
  rnd := [0, 1, 5]
  fault := none

/-- The overlapping copy moves `ABC` up by one and keeps the last byte `E`. -/
theorem mangleMemMove_dynamicFile_moveRun :
    (mangleMemMove tapeOracle false moveRun).dynamicFile 3 = 0x43 ∧
      (mangleMemMove tapeOracle false moveRun).dynamicFile 4 = 0x45 := by
  have law := @mangleMemMove_dynamicFile _ tapeOracle false moveRun (by decide) (by decide) 0 1 5
    [1, 5] [5] [] rfl rfl rfl
  exact ⟨(law.2.2.2 3).trans (by decide), (law.2.2.2 4).trans (by decide)⟩

example : (mangleMemMove tapeOracle false moveRun).contents = [0x41, 0x41, 0x42, 0x43, 0x45] := by
  decide

end Honggfuzz.Mangle
