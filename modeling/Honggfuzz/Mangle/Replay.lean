import Honggfuzz.Mangle.Safety

/-!
Replay. The spec has `input_setSize` leave the bytes exposed by growth
undefined; a session replays from its input and seed only if no operator reads
them. `mangle_Resize` fills what it grows, but `mangle_Inflate` grows the input
and then moves one byte too few, so the new last byte is whatever the storage
held: two runs that agree on the input and the oracle can end with different
inputs.

What a session reads is bounded by the buffer's capacity instead. Every
operator, `mangle_Resize` and so a whole session read the storage only below
`maxFileSz`: two runs that agree on the configuration, the size, the per-run
bound, the oracle and the storage below `maxFileSz` end agreeing on all of
these, and so with the same input.
-/

namespace Honggfuzz.Mangle

variable {σ : Type}

/-- One byte `A` at `maxFileSz = 2` and the storage byte `stale` after it, with
a tape that draws `v = 0` and `r = 1` for `mangle_Resize`, one change, operator
13 (`mangle_Expand`), `off = 0`, `len = 1` and the fresh byte `B`. -/
def replayRun (stale : UInt8) : Run (List Nat) where
  global := ⟨2, 1, 0, [], false, by decide⟩
  dynamicFile i := if i = 0 then 0x41 else stale
  dynamicFileSz := 1
  mutationsPerRun := 1
  rnd := [0, 1, 1, 13, 0, 1, 0x42]
  fault := none

set_option maxRecDepth 100000 in
/-- Two runs that agree on the input and the oracle end with different inputs:
the second byte after `mangle_Expand` is the storage byte the move never wrote. -/
theorem mangleMangleContent_reads_stale :
    Agree (replayRun 0) (replayRun 1) ∧
      (mangleMangleContent tapeOracle (replayRun 0)).dynamicFileSz = 2 ∧
      (mangleMangleContent tapeOracle (replayRun 1)).dynamicFileSz = 2 ∧
      (mangleMangleContent tapeOracle (replayRun 0)).dynamicFile 1 ≠
        (mangleMangleContent tapeOracle (replayRun 1)).dynamicFile 1 :=
  ⟨⟨rfl, rfl, rfl, rfl, by decide⟩, by decide, by decide, by decide⟩

/-! ### Agreement at either reach -/

section Operators

variable (o : Oracle σ) (printable : Bool) {r : Reach} {a b : Run σ}

/-- `util_turnToPrintable` rewrites each byte from itself, so `mangle_Magic`
keeps the agreement in both modes, whatever its window covers. -/
theorem mangleMagic_agreeTo (agree : AgreeTo r a b) :
    AgreeTo r (mangleMagic o printable a) (mangleMagic o printable b) := by
  cases printable <;> simp only [mangleMagic, utilRndGet, Run.lookup, ← agree.size, ← agree.rnd,
    Run.withRnd_rnd, Run.check_rnd, if_true, Bool.false_eq_true, if_false]
  · exact (((agree.check.withRnd _).check.withRnd _).check).overwrite _ _ _
  · exact ((((agree.check.withRnd _).check.withRnd _).check).overwrite _ _ _).turnToPrintable _ _

/-- `mangle_Shrink` cuts the input before it moves, so the move reads inside
the cut input. -/
theorem mangleShrink_agreeTo (config : ConfigOk a.global) (agree : AgreeTo r a b) (sizeOk : SizeOk a) :
    AgreeTo r (mangleShrink o printable a) (mangleShrink o printable b) := by
  unfold mangleShrink
  rw [← agree.size]
  split
  · exact agree
  · rcases drawLen : o.rndGet 1 (a.dynamicFileSz - 1) a.rnd with ⟨len, s₁⟩
    have lenIn := o.draw_mem drawLen (by omega)
    have small := config.small
    have fits := sizeOk.2
    simp only [utilRndGet, ← agree.size, ← agree.rnd, drawLen, Run.withRnd_dynamicFileSz,
      Run.check_dynamicFileSz, inputSetSize_dynamicFileSz]
    exact (((agree.check.withRnd _).check.withRnd _).setSize (r.bound_mono _ (Nat.sub_le _ _))).move
      (by simpa using by omega) (by omega) (by simpa using by omega)

/-- The `switch` of `mangle_Resize` reads only the oracle and the configuration. -/
theorem mangleResizeNewsz_agreeTo (oldsz : Nat) (agree : AgreeTo r a b) :
    (mangleResizeNewsz o oldsz a).1 = (mangleResizeNewsz o oldsz b).1 ∧
      AgreeTo r (mangleResizeNewsz o oldsz a).2 (mangleResizeNewsz o oldsz b).2 := by
  simp only [mangleResizeNewsz, utilRndGet, ← agree.rnd, ← agree.global, Run.withRnd_rnd,
    Run.check_rnd, Run.withRnd_global, Run.check_global]
  split_ifs
  · exact ⟨rfl, (agree.check.withRnd _).check.withRnd _⟩
  · exact ⟨rfl, agree.check.withRnd _⟩
  · exact ⟨rfl, agree.check.withRnd _⟩
  · exact ⟨rfl, (agree.check.withRnd _).raise _ _⟩

/-- The tail of `mangle_Resize` either cuts the input or fills all it grows into. -/
theorem mangleResizeTo_agreeTo (newsz : Int) (agree : AgreeTo r a b) (small : a.dynamicFileSz < 2 ^ 63)
    (inRange : 0 ≤ newsz ∧ newsz < 2 ^ 63) :
    AgreeTo r (mangleResizeTo o printable a.dynamicFileSz newsz a)
      (mangleResizeTo o printable a.dynamicFileSz newsz b) := by
  have sized : toSizeT newsz = newsz.toNat := toSizeT_of_lt inRange.1 (by omega)
  unfold mangleResizeTo
  rw [toSSize_of_lt small]
  split_ifs with grows
  · have grown : toSizeT (newsz - a.dynamicFileSz) = (newsz - a.dynamicFileSz).toNat :=
      toSizeT_of_lt (by omega) (by omega)
    exact agree.growFresh o printable (by rw [sized, grown]; omega)
  · exact agree.setSize (r.bound_mono _ (by rw [sized]; omega))

/-- `mangle_Resize` reads no byte at all: the bytes it grows into are fresh. -/
theorem mangleResize_agreeTo (config : ConfigOk a.global) (sizeOk : SizeOk a) (agree : AgreeTo r a b) :
    AgreeTo r (mangleResize o printable a) (mangleResize o printable b) := by
  have positive := Nat.le_trans sizeOk.1 sizeOk.2
  obtain ⟨same, drawn⟩ := mangleResizeNewsz_agreeTo o a.dynamicFileSz agree
  obtain ⟨s, moved⟩ := mangleResizeNewsz_snd o a a.dynamicFileSz positive
  rcases switchA : mangleResizeNewsz o a.dynamicFileSz a with ⟨newsz, runA⟩
  rcases switchB : mangleResizeNewsz o a.dynamicFileSz b with ⟨newsz', runB⟩
  rw [switchA, switchB] at same drawn
  rw [switchA] at moved
  dsimp only at same drawn moved
  subst same moved
  have clamped := clampNewsz_eq config.small newsz
  have small := config.small
  have fits := sizeOk.2
  simp only [mangleResize, ← agree.size, switchA, switchB, ← drawn.global]
  exact mangleResizeTo_agreeTo o printable _ drawn (by rw [Run.withRnd_dynamicFileSz]; omega)
    (by rw [Run.withRnd_global, clamped]; omega)

end Operators

/-! ### The callers of `mangle_Inflate` read below the capacity -/

section Inflate

variable {a b : Run σ}

/-- `mangle_Inflate` reads the storage below the grown size, which the clamp
keeps below `maxFileSz`: the byte the move leaves behind included. -/
theorem AgreeCap.inflate (o : Oracle σ) (agree : AgreeCap a b) {off len : Nat} {printable : Bool}
    (offIn : off < a.dynamicFileSz) (small : a.global.maxFileSz < 2 ^ 63) :
    AgreeCap (mangleInflate o off len printable a) (mangleInflate o off len printable b) := by
  by_cases room : a.dynamicFileSz < a.global.maxFileSz
  · have room' : b.dynamicFileSz < b.global.maxFileSz := agree.size ▸ agree.global ▸ room
    rw [mangleInflate_eq o off len printable a offIn room small,
      mangleInflate_eq o off len printable b (agree.size ▸ offIn) room' (agree.global ▸ small),
      ← agree.size, ← agree.global]
    exact ((agree.setSize (Nat.le_refl a.global.maxFileSz)).check.store fun k _ _ =>
      agree.bytes _ (show off + k < a.global.maxFileSz by omega)).storeFresh o printable off _
  · unfold mangleInflate
    rw [if_pos (Nat.not_lt.mp room), if_pos (by rw [← agree.size, ← agree.global]; omega)]
    exact agree

end Inflate

section Configured

variable (o : Oracle σ) (printable : Bool) {a b : Run σ}

theorem mangleDictionaryInsert_agreeCap (config : ConfigOk a.global) (agree : AgreeCap a b)
    (sizeOk : SizeOk a) :
    AgreeCap (mangleDictionaryInsert o printable a) (mangleDictionaryInsert o printable b) := by
  unfold mangleDictionaryInsert
  rw [← agree.global]
  split
  · obtain ⟨e, spec⟩ := mangleBit_footprint o printable a
    exact spec.agreeTo sizeOk config.small agree
  · rcases drawOff : o.rndGet 0 (a.dynamicFileSz - 1)
        (o.rndGet 0 (a.global.dictionaryCnt - 1) a.rnd).2 with ⟨off, s₂⟩
    have offIn := o.draw_mem drawOff (Nat.zero_le _)
    have pos := sizeOk.1
    simp only [mangleDictionaryInsertNoCheck, utilRndGet, Run.lookup, ← agree.size, ← agree.rnd,
      ← agree.global, Run.withRnd_rnd, Run.check_rnd, Run.withRnd_global, Run.check_global,
      Run.withRnd_dynamicFileSz, Run.check_dynamicFileSz, drawOff]
    exact (AgreeCap.inflate o (((agree.check.withRnd _).check).check.withRnd _)
      (by simpa using by omega) (by simpa using config.small)).overwrite _ _ _

theorem mangleExpand_agreeCap (config : ConfigOk a.global) (agree : AgreeCap a b)
    (sizeOk : SizeOk a) : AgreeCap (mangleExpand o printable a) (mangleExpand o printable b) := by
  rcases drawOff : o.rndGet 0 (a.dynamicFileSz - 1) a.rnd with ⟨off, s₁⟩
  have offIn := o.draw_mem drawOff (Nat.zero_le _)
  have pos := sizeOk.1
  simp only [mangleExpand, utilRndGet, ← agree.size, ← agree.rnd, drawOff, Run.withRnd_rnd,
    Run.check_rnd, Run.withRnd_dynamicFileSz, Run.check_dynamicFileSz]
  exact AgreeCap.inflate o ((agree.check.withRnd _).check.withRnd _) (by simpa using by omega)
    (by simpa using config.small)

end Configured

/-! ### The table and the session -/

/-- Every entry of `mangleFuncs` reads the storage only below `maxFileSz`; an
index past the table runs nothing. -/
theorem mangleFuncs_getD_agreeCap (o : Oracle σ) (choice : Nat) (printable : Bool) {a b : Run σ}
    (config : ConfigOk a.global) (sizeOk : SizeOk a) (agree : AgreeCap a b) :
    AgreeCap ((mangleFuncs o).getD choice (fun _ run => run) printable a)
      ((mangleFuncs o).getD choice (fun _ run => run) printable b) := by
  refine mangleFuncs_getD_cases o (P := fun op => ∀ a b : Run σ, ConfigOk a.global → SizeOk a →
    AgreeCap a b → AgreeCap (op a) (op b)) choice printable (fun op footprint a b config sizeOk agree => ?_)
    (fun _ _ _ _ _ _ agree => mangleMagic_agreeTo o true agree)
    (fun _ _ _ config sizeOk agree => mangleDictionaryInsert_agreeCap o printable config agree sizeOk)
    (fun _ _ _ config sizeOk agree => mangleExpand_agreeCap o printable config agree sizeOk)
    (fun _ _ _ config sizeOk agree => mangleShrink_agreeTo o printable config agree sizeOk)
    a b config sizeOk agree
  obtain ⟨e, spec⟩ := footprint a
  exact spec.agreeTo sizeOk config.small agree

theorem mangleChange_agreeCap (o : Oracle σ) {a b : Run σ} (config : ConfigOk a.global)
    (sizeOk : SizeOk a) (agree : AgreeCap a b) : AgreeCap (mangleChange o a) (mangleChange o b) := by
  rcases drawChoice : o.rndGet 0 15 a.rnd with ⟨choice, s⟩
  rw [mangleChange_eq o a drawChoice, mangleChange_eq o b (agree.rnd ▸ drawChoice), ← agree.global]
  exact mangleFuncs_getD_agreeCap o choice _ config (sizeOk.of_frame rfl rfl) (agree.withRnd s)

theorem mangleChanges_agreeCap (o : Oracle σ) (changesCnt : Nat) {a b : Run σ}
    (config : ConfigOk a.global) (sizeOk : SizeOk a) (agree : AgreeCap a b) :
    AgreeCap (mangleChanges o changesCnt a) (mangleChanges o changesCnt b) := by
  induction changesCnt generalizing a b with
  | zero => exact agree
  | succ changesCnt ih =>
      exact ih (by simpa using config) (mangleChange_sizeOk o a sizeOk)
        (mangleChange_agreeCap o config sizeOk agree)

/-- A session reads the storage only below `maxFileSz`: for any oracle, two runs
that agree on the configuration, the size, the per-run bound, the oracle and the
storage below `maxFileSz` end agreeing on all of these, with the same input. -/
theorem mangleMangleContent_agreeCap (o : Oracle σ) (a b : Run σ) (config : ConfigOk a.global)
    (sizeOk : SizeOk a) (agree : AgreeCap a b) :
    AgreeCap (mangleMangleContent o a) (mangleMangleContent o b) ∧
      (mangleMangleContent o a).contents = (mangleMangleContent o b).contents := by
  have session : AgreeCap (mangleMangleContent o a) (mangleMangleContent o b) := by
    unfold mangleMangleContent
    rw [← agree.mutationsPerRun]
    split
    · exact agree
    · have resized := mangleResize_agreeTo o a.global.onlyPrintable config sizeOk agree
      have resizedOk := mangleResize_sizeOk o a.global.onlyPrintable a sizeOk
      simp only [utilRndGet, ← agree.global, ← resized.rnd, mangleResize_global]
      exact mangleChanges_agreeCap o _ (by simpa using config) (resizedOk.of_frame rfl rfl)
        (resized.check.withRnd _)
  exact ⟨session, session.contents_eq (mangleMangleContent_sizeOk o a sizeOk).2⟩

/-- The input `A` at `maxFileSz = 2` with a zero storage byte after it and the
byte `stale` past the capacity, with the tape of `replayRun`. -/
def capRun (stale : UInt8) : Run (List Nat) where
  global := ⟨2, 1, 0, [], false, by decide⟩
  dynamicFile i := if i = 0 then 0x41 else if i = 1 then 0 else stale
  dynamicFileSz := 1
  mutationsPerRun := 1
  rnd := [0, 1, 1, 13, 0, 1, 0x42]
  fault := none

theorem mangleMangleContent_agreeCap_capRun :
    ConfigOk (capRun 0).global ∧ SizeOk (capRun 0) ∧ AgreeCap (capRun 0) (capRun 1) ∧
      (mangleMangleContent tapeOracle (capRun 0)).contents =
        (mangleMangleContent tapeOracle (capRun 1)).contents :=
  ⟨⟨by decide, by decide⟩, by decide, ⟨rfl, rfl, rfl, rfl, by decide⟩,
    (mangleMangleContent_agreeCap tapeOracle (capRun 0) (capRun 1) ⟨by decide, by decide⟩
      (by decide) ⟨rfl, rfl, rfl, rfl, by decide⟩).2⟩

end Honggfuzz.Mangle
