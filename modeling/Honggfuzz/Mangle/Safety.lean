import Honggfuzz.Mangle.Resize
import Honggfuzz.Mangle.Footprint

/-!
Freedom from faults in the checked embedding. From a state with the size
invariant and no fault, and a configuration whose `maxFileSz` fits `ssize_t`
and whose `dictionaryCnt` does not overrun the dictionary, `mangle_Resize` and
every operator of `mangleFuncs` touch only bytes inside the input, read their
sources within bounds and draw from nonempty ranges, in both printable modes,
with one exception: in printable mode `mangle_Magic` runs
`util_turnToPrintable` over the entry's full `size` from `off`, past the end of
the input when fewer bytes remain. A session outside printable mode therefore
never faults, and one in printable mode can. The operators with a footprint
follow from `FootprintAt.fault`; `mangle_Magic`, the dictionary walk and the
operators that resize are treated here.
-/

namespace Honggfuzz.Mangle

variable {σ : Type} (o : Oracle σ)

section Operators

variable (printable : Bool) (run : Run σ)

/-- Outside printable mode `mangle_Magic` never faults; in printable mode it
faults exactly when the drawn entry is longer than the bytes left after `off`. -/
theorem mangleMagic_fault_eq_none (sound : Sound run) {off choice : Nat} {s₁ s₂ : σ}
    (drawOff : o.rndGet 0 (run.dynamicFileSz - 1) run.rnd = (off, s₁))
    (drawChoice : o.rndGet 0 (mangleMagicVals.length - 1) s₁ = (choice, s₂)) :
    (mangleMagic o printable run).fault = none ↔
      (printable = true → (mangleMagicVals.getD choice ⟨[], 0⟩).size ≤ run.dynamicFileSz - off) := by
  have offIn := o.draw_mem drawOff (Nat.zero_le _)
  have fits := mangleMagicVals_size_le choice
  have pos := sound.sizeOk.1
  rw [mangleMagic_eq o printable run drawOff drawChoice]
  cases printable <;>
    simp only [if_true, Bool.false_eq_true, if_false, utilTurnToPrintable_fault, Run.store_fault,
      mangleOverwrite_fault_eq_none, mangleOverwrite_dynamicFileSz, Run.withRnd_fault,
      Run.withRnd_dynamicFileSz, checked_eq_none, sound.clean, true_and, and_true, true_implies,
      false_implies, iff_true] <;>
    omega

/-! ### The dictionary and the resizing operators -/

/-- The `TAILQ` walk of `mangle_Dictionary` trusts `dictionaryCnt`: with a
nonempty dictionary and its draws named, from a sound state, the operator faults
exactly when the drawn index passes the last entry of `dictq`, which the range
`[0, dictionaryCnt - 1]` allows only when `dictionaryCnt` exceeds the queue. -/
theorem mangleDictionary_fault_eq (sound : Sound run) (dictionary : 0 < run.global.dictionaryCnt)
    {off choice : Nat} {s₁ s₂ : σ}
    (drawOff : o.rndGet 0 (run.dynamicFileSz - 1) run.rnd = (off, s₁))
    (drawChoice : o.rndGet 0 (run.global.dictionaryCnt - 1) s₁ = (choice, s₂)) :
    (mangleDictionary o printable run).fault =
      if choice < run.global.dictq.length then none
      else some (.indexOverrun choice run.global.dictq.length) := by
  unfold mangleDictionary
  rw [if_neg (Nat.pos_iff_ne_zero.mp dictionary)]
  simp only [mangleDictionaryNoCheck, utilRndGet, drawOff, Run.withRnd_rnd, Run.check_rnd,
    Run.withRnd_global, Run.check_global, drawChoice, Run.lookup,
    Run.check_pos (Nat.zero_le (run.dynamicFileSz - 1)),
    Run.check_pos (Nat.zero_le (run.global.dictionaryCnt - 1)), Run.withRnd_withRnd]
  split_ifs with walk
  · rw [Run.check_pos walk, mangleOverwrite_fault_eq_none]
    exact ⟨sound.clean, Nat.min_le_left _ _⟩
  · simp only [mangleOverwrite, Run.store_fault, Run.readSource, Run.check_fault,
      Run.withRnd_fault, checked, if_neg walk, sound.clean, Option.getD_none]
    split_ifs <;> rfl

/-- The input `A` with a dictionary of one entry that claims two, and a tape
that draws `off = 0` and the index 1. -/
def overrunRun : Run (List Nat) where
  global := ⟨8, 1, 2, [[0x58]], false, by decide⟩
  dynamicFile _ := 0x41
  dynamicFileSz := 1
  mutationsPerRun := 1
  rnd := [0, 1]
  fault := none

theorem mangleDictionary_fault_eq_overrunRun :
    (mangleDictionary tapeOracle false overrunRun).fault = some (.indexOverrun 1 1) :=
  (@mangleDictionary_fault_eq _ tapeOracle false overrunRun ⟨⟨by decide, by decide⟩, rfl⟩
    (by decide) 0 1 [1] [] rfl rfl).trans (by decide)

theorem mangleDictionaryInsert_fault (config : ConfigOk run.global) (sound : Sound run) :
    (mangleDictionaryInsert o printable run).fault = none := by
  unfold mangleDictionaryInsert
  split
  · obtain ⟨e, spec⟩ := mangleBit_footprint o printable run
    exact spec.fault config sound
  · rcases drawChoice : o.rndGet 0 (run.global.dictionaryCnt - 1) run.rnd with ⟨choice, s₁⟩
    rcases drawOff : o.rndGet 0 (run.dynamicFileSz - 1) s₁ with ⟨off, s₂⟩
    have choiceIn := o.draw_mem drawChoice (Nat.zero_le _)
    have offIn := o.draw_mem drawOff (Nat.zero_le _)
    have walk := config.dictionary
    have pos := sound.sizeOk.1
    simp only [mangleDictionaryInsertNoCheck, utilRndGet, drawChoice, Run.withRnd_rnd,
      Run.check_rnd, Run.lookup, Run.withRnd_dynamicFileSz, Run.check_dynamicFileSz, drawOff]
    rw [mangleOverwrite_fault_eq_none, mangleInflate_fault o _ _ _ _ (by simpa using by omega)
      (by simpa using config.small)]
    refine ⟨?_, Nat.min_le_left _ _⟩
    simp [sound.clean]
    omega

theorem mangleExpand_fault (config : ConfigOk run.global) (sound : Sound run) :
    (mangleExpand o printable run).fault = none := by
  rcases drawOff : o.rndGet 0 (run.dynamicFileSz - 1) run.rnd with ⟨off, s₁⟩
  have offIn := o.draw_mem drawOff (Nat.zero_le _)
  have pos := sound.sizeOk.1
  simp only [mangleExpand, utilRndGet, drawOff]
  rw [mangleInflate_fault o _ _ _ _ (by simpa using by omega) (by simpa using config.small)]
  simp [sound.clean]
  omega

theorem mangleShrink_fault (config : ConfigOk run.global) (sound : Sound run) :
    (mangleShrink o printable run).fault = none := by
  unfold mangleShrink
  split
  · exact sound.clean
  · rcases drawLen : o.rndGet 1 (run.dynamicFileSz - 1) run.rnd with ⟨len, s₁⟩
    have lenIn := o.draw_mem drawLen (by omega)
    have small := config.small
    have fits := sound.sizeOk.2
    simp only [utilRndGet, drawLen]
    rw [mangleMove_fault _ _ _ _ (by simpa using by omega) (by simpa using by omega)]
    simp [sound.clean]
    omega

/-- The `switch` of `mangle_Resize` only draws: what it leaves is the run with
the oracle moved on. -/
theorem mangleResizeNewsz_snd (oldsz : Nat) (positive : 1 ≤ run.global.maxFileSz) :
    ∃ s, (mangleResizeNewsz o oldsz run).2 = run.withRnd s := by
  rcases drawV : o.rndGet 0 16 run.rnd with ⟨v, s₁⟩
  have vIn := o.draw_mem drawV (by omega)
  simp only [mangleResizeNewsz, utilRndGet, drawV, Run.check_pos (Nat.zero_le 16)]
  split_ifs
  · rcases drawR : o.rndGet 1 run.global.maxFileSz s₁ with ⟨r, s₂⟩
    exact ⟨s₂, by simp [drawR, Run.check_pos positive]⟩
  · exact ⟨s₁, rfl⟩
  · exact ⟨s₁, rfl⟩
  · omega

/-- The tail of `mangle_Resize` at a clamped size stays inside the new input. -/
theorem mangleResizeTo_fault (oldsz : Nat) (newsz : Int) (oldSmall : oldsz < 2 ^ 63)
    (inRange : 1 ≤ newsz ∧ newsz ≤ run.global.maxFileSz) (small : run.global.maxFileSz < 2 ^ 63) :
    (mangleResizeTo o printable oldsz newsz run).fault = run.fault := by
  have sized : toSizeT newsz = newsz.toNat := toSizeT_of_lt (by omega) (by omega)
  unfold mangleResizeTo
  rw [toSSize_of_lt oldSmall]
  split_ifs with grows
  · have grown : toSizeT (newsz - oldsz) = (newsz - oldsz).toNat :=
      toSizeT_of_lt (by omega) (by omega)
    simp only [Run.store_fault, rndBuf, Run.withRnd_fault, Run.withRnd_dynamicFileSz,
      inputSetSize_fault, inputSetSize_dynamicFileSz, checked, sized, grown]
    rw [if_pos (by omega), if_pos (by omega)]
  · simp only [inputSetSize_fault, checked, sized]
    rw [if_pos (by omega)]

theorem mangleResize_fault (config : ConfigOk run.global) (sound : Sound run) :
    (mangleResize o printable run).fault = none := by
  have positive := Nat.le_trans sound.sizeOk.1 sound.sizeOk.2
  obtain ⟨s, drawn⟩ := mangleResizeNewsz_snd o run run.dynamicFileSz positive
  rcases switch : mangleResizeNewsz o run.dynamicFileSz run with ⟨newsz, run'⟩
  rw [switch] at drawn
  subst drawn
  simp only [mangleResize, switch, Run.withRnd_global]
  have small := config.small
  rw [mangleResizeTo_fault o printable (run.withRnd s) _ _ (by have := sound.sizeOk.2; omega)
    (by rw [clampNewsz_eq small]; simp only [Run.withRnd_global]; omega) small]
  exact sound.clean

end Operators

/-! ### The table and the session -/

/-- Every entry of `mangleFuncs` keeps `Sound`, in both modes, but `mangle_Magic`
(2) in printable mode; an index past the table runs nothing. -/
theorem mangleFuncs_getD_sound (choice : Nat) (printable : Bool)
    (plainMagic : choice = 2 → printable = false) (run : Run σ) (config : ConfigOk run.global)
    (sound : Sound run) : Sound ((mangleFuncs o).getD choice (fun _ run => run) printable run) := by
  refine ⟨mangleFuncs_getD_sizeOk o choice printable run sound.sizeOk,
    mangleFuncs_getD_cases o (P := fun op => ∀ run : Run σ, ConfigOk run.global → Sound run →
      (op run).fault = none) choice printable (fun op footprint run config sound => ?_)
      (fun two printing => absurd printing (by simp [plainMagic two]))
      (fun _ => mangleDictionaryInsert_fault o printable) (fun _ => mangleExpand_fault o printable)
      (fun _ => mangleShrink_fault o printable) run config sound⟩
  obtain ⟨e, spec⟩ := footprint run
  exact spec.fault config sound

theorem mangleChange_sound (run : Run σ)
    (plainMagic : (o.rndGet 0 15 run.rnd).1 = 2 → run.global.onlyPrintable = false)
    (config : ConfigOk run.global) (sound : Sound run) : Sound (mangleChange o run) := by
  rcases drawChoice : o.rndGet 0 15 run.rnd with ⟨choice, s⟩
  rw [drawChoice] at plainMagic
  rw [mangleChange_eq o run drawChoice]
  exact mangleFuncs_getD_sound o choice _ plainMagic _ config ⟨sound.sizeOk.of_frame rfl rfl, sound.clean⟩

/-- The loop keeps `Sound` when it draws `mangle_Magic` only outside printable mode. -/
theorem mangleChanges_sound (changesCnt : Nat) (run : Run σ)
    (plainMagic : 2 ∈ mangleChoices o changesCnt run → run.global.onlyPrintable = false)
    (config : ConfigOk run.global) (sound : Sound run) : Sound (mangleChanges o changesCnt run) := by
  induction changesCnt generalizing run with
  | zero => exact sound
  | succ changesCnt ih =>
      simp only [mangleChoices_succ, List.mem_cons] at plainMagic
      exact ih _ (fun later => by simpa using plainMagic (.inr later)) (by simpa using config)
        (mangleChange_sound o run (fun first => plainMagic (.inl first.symm)) config sound)

/-- Outside printable mode, a whole `mangle_mangleContent` session from a sound
state never faults and keeps the size invariant, whatever the oracle draws. -/
theorem mangleMangleContent_sound (run : Run σ) (config : ConfigOk run.global) (sound : Sound run)
    (single : run.mutationsPerRun = run.global.mutationsPerRun)
    (plain : run.global.onlyPrintable = false) : Sound (mangleMangleContent o run) := by
  unfold mangleMangleContent
  split
  · exact sound
  · have resized : Sound (mangleResize o run.global.onlyPrintable run) :=
      ⟨mangleResize_sizeOk o _ run sound.sizeOk, mangleResize_fault o _ run config sound⟩
    simp only [utilRndGet]
    refine mangleChanges_sound o _ _ (fun _ => by simpa using plain) (by simpa using config)
      ⟨resized.sizeOk.of_frame rfl rfl, ?_⟩
    simp only [Run.withRnd_fault, Run.check_fault, checked_eq_none, mangleResize_global]
    exact ⟨by omega, resized.clean⟩

theorem mangleMangleContent_sound_wordRun :
    ConfigOk wordRun.global ∧ Sound wordRun ∧
      wordRun.mutationsPerRun = wordRun.global.mutationsPerRun ∧
      wordRun.global.onlyPrintable = false ∧ Sound (mangleMangleContent tapeOracle wordRun) :=
  ⟨⟨by decide, by decide⟩, ⟨by decide, rfl⟩, rfl, rfl,
    mangleMangleContent_sound tapeOracle wordRun ⟨by decide, by decide⟩ ⟨by decide, rfl⟩ rfl rfl⟩

/-! ### Sessions that never select `mangle_Magic` -/

/-- In either mode, a whole `mangle_mangleContent` session from a sound state
never faults and keeps the size invariant when none of the operators it draws
is `mangle_Magic`: the printable-mode overrun of `mangle_Magic` is the only way
a session from a sound state faults. -/
theorem mangleMangleContent_sound_noMagic (run : Run σ)
    (noMagic : 2 ∉ mangleMangleContentChoices o run) (config : ConfigOk run.global)
    (sound : Sound run) (single : run.mutationsPerRun = run.global.mutationsPerRun) :
    Sound (mangleMangleContent o run) := by
  by_cases idle : run.mutationsPerRun = 0
  · rw [mangleMangleContent, if_pos idle]
    exact sound
  obtain ⟨changesCnt, s, -, -, session, choices⟩ := mangleMangleContent_eq o run idle (by omega)
  rw [session]
  exact mangleChanges_sound o changesCnt _ (fun magic => (noMagic (choices ▸ magic)).elim)
    (by simpa using config) ⟨(mangleResize_sizeOk o _ run sound.sizeOk).of_frame rfl rfl,
      mangleResize_fault o _ run config sound⟩

/-- The input `AB` at `maxFileSz = 4` in printable mode, with a tape that draws
`v = 1` and the byte `C` for `mangle_Resize`, three changes, and then
`mangle_IncByte` at 1, `mangle_CloneByte` of 0 and 2, and `mangle_MemSet` of `Z`
over `[1, 3)`. -/
def printableRun : Run (List Nat) where
  global := ⟨4, 3, 0, [], true, by decide⟩
  dynamicFile i := [0x41, 0x42].getD i 0x41
  dynamicFileSz := 2
  mutationsPerRun := 3
  rnd := [1, 0x43, 3, 3, 1, 12, 0, 2, 10, 0x5A, 1, 2]
  fault := none

theorem mangleMangleContent_sound_noMagic_printableRun :
    mangleMangleContentChoices tapeOracle printableRun = [3, 12, 10] ∧
      ConfigOk printableRun.global ∧ Sound printableRun ∧
      Sound (mangleMangleContent tapeOracle printableRun) :=
  ⟨by decide, ⟨by decide, by decide⟩, ⟨by decide, rfl⟩,
    mangleMangleContent_sound_noMagic tapeOracle printableRun (by decide) ⟨by decide, by decide⟩
      ⟨by decide, rfl⟩ rfl⟩

/-- One printable byte at `maxFileSz = 1` in printable mode, with a tape that
draws `v = 0` and `r = 1` for `mangle_Resize`, one change, operator 2
(`mangle_Magic`), `off = 0` and entry 220, `FE FF FF FF FF FF FF FF` of size 8. -/
def magicRun : Run (List Nat) where
  global := ⟨1, 1, 0, [], true, by decide⟩
  dynamicFile _ := 0x41
  dynamicFileSz := 1
  mutationsPerRun := 1
  rnd := [0, 1, 1, 2, 0, 220]
  fault := none

set_option maxRecDepth 100000 in
/-- In printable mode a sound session can fault: `mangle_Magic` writes one byte
of an eight-byte entry and then makes eight bytes printable. -/
theorem mangleMangleContent_magic_overrun :
    ConfigOk magicRun.global ∧ Sound magicRun ∧
      magicRun.mutationsPerRun = magicRun.global.mutationsPerRun ∧
      (mangleMangleContent tapeOracle magicRun).fault = some (.outOfBounds 0 8 1) :=
  ⟨⟨by decide, by decide⟩, ⟨by decide, rfl⟩, rfl, by decide⟩

end Honggfuzz.Mangle
