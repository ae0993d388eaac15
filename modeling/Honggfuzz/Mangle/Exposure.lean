import Honggfuzz.Mangle.Replay

/-!
What storage past the input the operators expose. The spec leaves the bytes
`input_setSize` exposes by growth undefined, and `Agree` relates two runs that
may differ only there. `mangle_Resize` and every operator of the table but
`mangle_DictionaryInsert` and `mangle_Expand` keep `Agree`: they read the
storage only below the size, and `mangle_Resize` fills all it grows into. The
two left out are the callers of `mangle_Inflate`, whose move leaves the new
last byte unwritten; a session whose oracle never selects them replays from its
input and its seed. Those two expose that one byte and no other: from two runs
that agree, they end agreeing on all but the last byte of the input, which
`mangle_Expand` reads from the storage past the old input.
-/

namespace Honggfuzz.Mangle

variable {σ : Type}

/-! ### The table and the session -/

/-- Every entry of `mangleFuncs` but 8, `mangle_DictionaryInsert`, and 13,
`mangle_Expand`, keeps `Agree`; an index past the table runs nothing. -/
theorem mangleFuncs_getD_agree (o : Oracle σ) (choice : Nat) (notInsert : choice ≠ 8)
    (notExpand : choice ≠ 13) (printable : Bool) {a b : Run σ} (config : ConfigOk a.global)
    (sizeOk : SizeOk a) (agree : Agree a b) :
    Agree ((mangleFuncs o).getD choice (fun _ run => run) printable a)
      ((mangleFuncs o).getD choice (fun _ run => run) printable b) := by
  refine mangleFuncs_getD_cases o (P := fun op => ∀ a b : Run σ, ConfigOk a.global → SizeOk a →
    Agree a b → Agree (op a) (op b)) choice printable (fun op footprint a b config sizeOk agree => ?_)
    (fun _ _ _ _ _ _ agree => mangleMagic_agreeTo o true agree) (absurd · notInsert)
    (absurd · notExpand)
    (fun _ _ _ config sizeOk agree => mangleShrink_agreeTo o printable config agree sizeOk)
    a b config sizeOk agree
  obtain ⟨e, spec⟩ := footprint a
  exact spec.agreeTo sizeOk config.small agree

/-- The input `AB` at `maxFileSz = 4` and the storage byte `stale` past it,
with a tape that draws `v = 1` and the byte `C` for `mangle_Resize`, three
changes, and then `mangle_Bit` at 1, `mangle_CloneByte` of 0 and 2, and
`mangle_Random` of `D` at 2. -/
def staleRun (stale : UInt8) : Run (List Nat) where
  global := ⟨4, 3, 0, [], false, by decide⟩
  dynamicFile i := if i < 2 then [0x41, 0x42].getD i 0 else stale
  dynamicFileSz := 2
  mutationsPerRun := 3
  rnd := [1, 0x43, 3, 0, 1, 0, 12, 0, 2, 11, 2, 1, 0x44]
  fault := none

/-- No operator but the callers of `mangle_Inflate` exposes storage past the
input: for any oracle, from a state with `1 ≤ size ≤ maxFileSz < 2 ^ 63`,
`mangle_Resize` and every operator of the table other than
`mangle_DictionaryInsert` and `mangle_Expand`, in both modes, take two runs that
agree on all but the storage past the input to runs that agree so again. -/
theorem mangle_agree (o : Oracle σ) :
    (∀ printable (a b : Run σ), ConfigOk a.global → SizeOk a → Agree a b →
      Agree (mangleResize o printable a) (mangleResize o printable b)) ∧
    ∀ f ∈ mangleFuncs o, f ≠ mangleDictionaryInsert o → f ≠ mangleExpand o →
      ∀ printable (a b : Run σ), ConfigOk a.global → SizeOk a → Agree a b →
        Agree (f printable a) (f printable b) := by
  refine ⟨fun printable a b config sizeOk agree => mangleResize_agreeTo o printable config sizeOk agree,
    fun f member notInsert notExpand printable a b config sizeOk agree => ?_⟩
  obtain ⟨choice, rfl⟩ := mangleFuncs_mem_getD o member
  exact mangleFuncs_getD_agree o choice (fun eight => notInsert (by subst eight; rfl))
    (fun thirteen => notExpand (by subst thirteen; rfl)) printable config sizeOk agree

/-- `mangle_Resize` grows `AB` by the byte `C` in both runs, whatever they hold
past the input. -/
theorem mangle_agree_staleRun :
    Agree (mangleResize tapeOracle false (staleRun 0)) (mangleResize tapeOracle false (staleRun 1)) :=
  (mangle_agree tapeOracle).1 false _ _ ⟨by decide, by decide⟩ (by decide)
    ⟨rfl, rfl, rfl, rfl, by decide⟩

theorem mangleChange_agree (o : Oracle σ) {a b : Run σ}
    (notInsert : (o.rndGet 0 15 a.rnd).1 ≠ 8) (notExpand : (o.rndGet 0 15 a.rnd).1 ≠ 13)
    (config : ConfigOk a.global) (sizeOk : SizeOk a) (agree : Agree a b) :
    Agree (mangleChange o a) (mangleChange o b) := by
  rcases drawChoice : o.rndGet 0 15 a.rnd with ⟨choice, s⟩
  rw [drawChoice] at notInsert notExpand
  rw [mangleChange_eq o a drawChoice, mangleChange_eq o b (agree.rnd ▸ drawChoice), ← agree.global]
  exact mangleFuncs_getD_agree o choice notInsert notExpand _ config (sizeOk.of_frame rfl rfl)
    (agree.withRnd s)

theorem mangleChanges_agree (o : Oracle σ) (changesCnt : Nat) {a b : Run σ}
    (notInsert : 8 ∉ mangleChoices o changesCnt a) (notExpand : 13 ∉ mangleChoices o changesCnt a)
    (config : ConfigOk a.global) (sizeOk : SizeOk a) (agree : Agree a b) :
    Agree (mangleChanges o changesCnt a) (mangleChanges o changesCnt b) := by
  induction changesCnt generalizing a b with
  | zero => exact agree
  | succ changesCnt ih =>
      simp only [mangleChoices_succ, List.mem_cons, not_or] at notInsert notExpand
      exact ih notInsert.2 notExpand.2 (by simpa using config) (mangleChange_sizeOk o a sizeOk)
        (mangleChange_agree o (Ne.symm notInsert.1) (Ne.symm notExpand.1) config sizeOk agree)

/-- A session none of whose drawn operators is `mangle_DictionaryInsert` or
`mangle_Expand` replays from its input and its seed: for two runs with
`1 ≤ size ≤ maxFileSz < 2 ^ 63` that agree on all but the storage past the
input, the sessions end agreeing so again, with the same input. -/
theorem mangleMangleContent_agree (o : Oracle σ) (a b : Run σ)
    (notInsert : 8 ∉ mangleMangleContentChoices o a)
    (notExpand : 13 ∉ mangleMangleContentChoices o a)
    (config : ConfigOk a.global) (sizeOk : SizeOk a) (agree : Agree a b) :
    Agree (mangleMangleContent o a) (mangleMangleContent o b) ∧
      (mangleMangleContent o a).contents = (mangleMangleContent o b).contents := by
  have session : Agree (mangleMangleContent o a) (mangleMangleContent o b) := by
    by_cases idle : a.mutationsPerRun = 0
    · rw [mangleMangleContent, mangleMangleContent, if_pos idle, if_pos (agree.mutationsPerRun ▸ idle)]
      exact agree
    obtain ⟨sessionA, choices⟩ := mangleMangleContent_of_active o a idle
    obtain ⟨sessionB, -⟩ := mangleMangleContent_of_active o b (agree.mutationsPerRun ▸ idle)
    rw [choices] at notInsert notExpand
    have resized := mangleResize_agreeTo o a.global.onlyPrintable config sizeOk agree
    have resizedOk := mangleResize_sizeOk o a.global.onlyPrintable a sizeOk
    rw [sessionA, sessionB]
    simp only [utilRndGet, ← agree.global, ← resized.rnd, mangleResize_global] at notInsert notExpand ⊢
    exact mangleChanges_agree o _ notInsert notExpand (by simpa using config)
      (resizedOk.of_frame rfl rfl) (resized.check.withRnd _)
  exact ⟨session, session.contents_eq (mangleMangleContent_sizeOk o a sizeOk).2⟩

theorem mangleMangleContent_agree_staleRun :
    mangleMangleContentChoices tapeOracle (staleRun 0) = [0, 12, 11] ∧
      Agree (staleRun 0) (staleRun 1) ∧
      (mangleMangleContent tapeOracle (staleRun 0)).contents =
        (mangleMangleContent tapeOracle (staleRun 1)).contents :=
  ⟨by decide, ⟨rfl, rfl, rfl, rfl, by decide⟩,
    (mangleMangleContent_agree tapeOracle (staleRun 0) (staleRun 1) (by decide) (by decide)
      ⟨by decide, by decide⟩ (by decide) ⟨rfl, rfl, rfl, rfl, by decide⟩).2⟩

/-! ### The one byte the callers of `mangle_Inflate` expose -/

/-- Two runs that agree as `Agree` does, except at the byte `j`. -/
structure AgreeExcept (a b : Run σ) (j : Nat) : Prop where
  global : a.global = b.global
  size : a.dynamicFileSz = b.dynamicFileSz
  mutationsPerRun : a.mutationsPerRun = b.mutationsPerRun
  rnd : a.rnd = b.rnd
  bytes : ∀ i < a.dynamicFileSz, i ≠ j → a.dynamicFile i = b.dynamicFile i

section Inflate

variable {a b : Run σ}

theorem Agree.except (agree : Agree a b) (j : Nat) : AgreeExcept a b j :=
  ⟨agree.global, agree.size, agree.mutationsPerRun, agree.rnd, fun i below _ => agree.bytes i below⟩

/-- `mangle_Overwrite` writes the same bytes into both runs. -/
theorem AgreeExcept.overwrite {j : Nat} (agree : AgreeExcept a b j) (src : List UInt8)
    (off sz : Nat) : AgreeExcept (mangleOverwrite src off sz a) (mangleOverwrite src off sz b) j := by
  refine ⟨by simp only [mangleOverwrite_global, agree.global],
    by simp only [mangleOverwrite_dynamicFileSz, agree.size],
    by simp only [mangleOverwrite_mutationsPerRun, agree.mutationsPerRun],
    by simp only [mangleOverwrite_rnd, agree.rnd], fun i below notJ => ?_⟩
  rw [mangleOverwrite_dynamicFileSz] at below
  rw [mangleOverwrite_dynamicFile, mangleOverwrite_dynamicFile, ← agree.size]
  split_ifs
  · rfl
  · exact agree.bytes i below notJ

/-- The oracle's state after `mangle_Inflate` depends only on its state before,
the size and the configuration. -/
theorem mangleInflate_rnd_congr (o : Oracle σ) (off len : Nat) (printable : Bool)
    (rnd : a.rnd = b.rnd) (size : a.dynamicFileSz = b.dynamicFileSz) (global : a.global = b.global) :
    (mangleInflate o off len printable a).rnd = (mangleInflate o off len printable b).rnd := by
  unfold mangleInflate
  rw [← size, ← global]
  split_ifs
  · exact rnd
  all_goals
    dsimp only
    simp only [rndBuf, Run.store_rnd, Run.withRnd_rnd, mangleMove_rnd, inputSetSize_rnd, rnd]

/-- `mangle_Inflate` at an offset inside the input keeps the agreement on all
but the new last byte, which holds the storage byte at that index. -/
theorem Agree.inflate (agree : Agree a b) (o : Oracle σ) {off len : Nat} {printable : Bool}
    (offIn : off < a.dynamicFileSz) (small : a.global.maxFileSz < 2 ^ 63) :
    AgreeExcept (mangleInflate o off len printable a) (mangleInflate o off len printable b)
        ((mangleInflate o off len printable a).dynamicFileSz - 1) ∧
      (a.dynamicFileSz < (mangleInflate o off len printable a).dynamicFileSz →
        (mangleInflate o off len printable a).dynamicFile
            ((mangleInflate o off len printable a).dynamicFileSz - 1) =
          a.dynamicFile ((mangleInflate o off len printable a).dynamicFileSz - 1)) := by
  by_cases room : a.dynamicFileSz < a.global.maxFileSz
  · have room' : b.dynamicFileSz < b.global.maxFileSz := agree.size ▸ agree.global ▸ room
    have sizeA := mangleInflate_dynamicFileSz o off len printable a
    have sizeB := mangleInflate_dynamicFileSz o off len printable b
    rw [if_pos room] at sizeA
    rw [if_pos room', ← agree.size, ← agree.global] at sizeB
    have pointA := mangleInflate_dynamicFile o off len printable a offIn room small
    have pointB := mangleInflate_dynamicFile o off len printable b (agree.size ▸ offIn) room'
      (agree.global ▸ small)
    dsimp only at pointA pointB
    simp only [← agree.size, ← agree.global] at pointB
    generalize min len (a.global.maxFileSz - a.dynamicFileSz) = n at sizeA sizeB pointA pointB
    have fresh : (rndBuf o printable n a).1 = (rndBuf o printable n b).1 := by
      simp only [rndBuf, agree.rnd]
    rw [sizeA]
    refine ⟨⟨by simp only [mangleInflate_global, agree.global], sizeA.trans sizeB.symm,
      by simp only [mangleInflate_mutationsPerRun, agree.mutationsPerRun],
      mangleInflate_rnd_congr o off len printable agree.rnd agree.size agree.global,
      fun i below notLast => ?_⟩, fun _ => ?_⟩
    · rw [sizeA] at below
      rw [pointA, pointB, fresh]
      split_ifs
      · rfl
      · exact agree.bytes _ (show _ < a.dynamicFileSz by omega)
      · exact agree.bytes _ (show _ < a.dynamicFileSz by omega)
    · rw [pointA, if_neg (by omega), if_neg (by omega)]
  · have stays : ∀ r : Run σ, r.global = a.global → r.dynamicFileSz = a.dynamicFileSz →
        mangleInflate o off len printable r = r := fun r global size => by
      unfold mangleInflate
      exact if_pos (by rw [global, size]; omega)
    rw [stays a rfl rfl, stays b agree.global.symm agree.size.symm]
    exact ⟨agree.except _, fun grew => absurd grew (Nat.lt_irrefl _)⟩

variable (o : Oracle σ) (printable : Bool)

/-- With its draws named and a nonempty input, both checks of `mangle_Expand`
hold: it is `mangle_Inflate` with the oracle moved on. -/
theorem mangleExpand_eq (run : Run σ) (nonempty : 0 < run.dynamicFileSz) {off len : Nat}
    {s₁ s₂ : σ} (drawOff : o.rndGet 0 (run.dynamicFileSz - 1) run.rnd = (off, s₁))
    (drawLen : o.rndGet 1 (run.dynamicFileSz - off) s₁ = (len, s₂)) :
    mangleExpand o printable run = mangleInflate o off len printable (run.withRnd s₂) := by
  have offIn := (o.draw_mem drawOff (Nat.zero_le _)).2
  simp only [mangleExpand, utilRndGet, drawOff, Run.withRnd_rnd, Run.check_rnd,
    Run.withRnd_dynamicFileSz, Run.check_dynamicFileSz, drawLen,
    Run.check_pos (Nat.zero_le (run.dynamicFileSz - 1)),
    Run.check_pos (show 1 ≤ run.dynamicFileSz - off by omega), Run.withRnd_withRnd]

theorem mangleExpand_agreeExcept (config : ConfigOk a.global) (sizeOk : SizeOk a)
    (agree : Agree a b) :
    AgreeExcept (mangleExpand o printable a) (mangleExpand o printable b)
        ((mangleExpand o printable a).dynamicFileSz - 1) ∧
      (a.dynamicFileSz < (mangleExpand o printable a).dynamicFileSz →
        (mangleExpand o printable a).dynamicFile ((mangleExpand o printable a).dynamicFileSz - 1) =
          a.dynamicFile ((mangleExpand o printable a).dynamicFileSz - 1)) := by
  rcases drawOff : o.rndGet 0 (a.dynamicFileSz - 1) a.rnd with ⟨off, s₁⟩
  rcases drawLen : o.rndGet 1 (a.dynamicFileSz - off) s₁ with ⟨len, s₂⟩
  have offIn := (o.draw_mem drawOff (Nat.zero_le _)).2
  have pos := sizeOk.1
  rw [mangleExpand_eq o printable a pos drawOff drawLen,
    mangleExpand_eq o printable b (agree.size ▸ pos) (agree.size ▸ agree.rnd ▸ drawOff)
      (agree.size ▸ drawLen)]
  exact Agree.inflate (agree.withRnd s₂) o (by simpa using by omega) (by simpa using config.small)

theorem mangleDictionaryInsert_agreeExcept (config : ConfigOk a.global) (sizeOk : SizeOk a)
    (agree : Agree a b) :
    AgreeExcept (mangleDictionaryInsert o printable a) (mangleDictionaryInsert o printable b)
      ((mangleDictionaryInsert o printable a).dynamicFileSz - 1) := by
  unfold mangleDictionaryInsert
  rw [← agree.global]
  split
  · obtain ⟨e, spec⟩ := mangleBit_footprint o printable a
    exact Agree.except (spec.agreeTo sizeOk config.small agree) _
  · rcases drawOff : o.rndGet 0 (a.dynamicFileSz - 1)
        (o.rndGet 0 (a.global.dictionaryCnt - 1) a.rnd).2 with ⟨off, s₂⟩
    have offIn := o.draw_mem drawOff (Nat.zero_le _)
    have pos := sizeOk.1
    simp only [mangleDictionaryInsertNoCheck, utilRndGet, Run.lookup, ← agree.size, ← agree.rnd,
      ← agree.global, Run.withRnd_rnd, Run.check_rnd, Run.withRnd_global, Run.check_global,
      Run.withRnd_dynamicFileSz, Run.check_dynamicFileSz, drawOff, mangleOverwrite_dynamicFileSz]
    exact (Agree.inflate (((agree.check.withRnd _).check).check.withRnd _) o
      (by simpa using by omega) (by simpa using config.small)).1.overwrite _ _ _

end Inflate

/-- What the callers of `mangle_Inflate` expose: for any oracle, from two runs
with `1 ≤ size ≤ maxFileSz < 2 ^ 63` that agree on all but the storage past the
input, `mangle_Expand` and `mangle_DictionaryInsert` end with runs that agree on
all but the last byte of the input; after a `mangle_Expand` that grew the input,
that byte is the storage byte past the old input. -/
theorem inflateCallers_agreeExcept (o : Oracle σ) (printable : Bool) (a b : Run σ)
    (config : ConfigOk a.global) (sizeOk : SizeOk a) (agree : Agree a b) :
    let expanded := mangleExpand o printable a
    let inserted := mangleDictionaryInsert o printable a
    AgreeExcept expanded (mangleExpand o printable b) (expanded.dynamicFileSz - 1) ∧
      (a.dynamicFileSz < expanded.dynamicFileSz →
        expanded.dynamicFile (expanded.dynamicFileSz - 1) =
          a.dynamicFile (expanded.dynamicFileSz - 1)) ∧
      AgreeExcept inserted (mangleDictionaryInsert o printable b) (inserted.dynamicFileSz - 1) :=
  ⟨(mangleExpand_agreeExcept o printable config sizeOk agree).1,
    (mangleExpand_agreeExcept o printable config sizeOk agree).2,
    mangleDictionaryInsert_agreeExcept o printable config sizeOk agree⟩

/-- Expanding `A` at `maxFileSz = 2` by one byte exposes the storage byte after
it: `0` in one run and `1` in the other. -/
theorem inflateCallers_agreeExcept_replayRun :
    (mangleExpand tapeOracle false (replayRun 0)).dynamicFile 1 = 0 ∧
      (mangleExpand tapeOracle false (replayRun 1)).dynamicFile 1 = 1 := by
  have last : ∀ stale, (mangleExpand tapeOracle false (replayRun stale)).dynamicFileSz = 2 :=
    fun _ => rfl
  have lawA := inflateCallers_agreeExcept tapeOracle false (replayRun 0) (replayRun 1)
    ⟨by decide, by decide⟩ (by decide) ⟨rfl, rfl, rfl, rfl, by decide⟩
  have lawB := inflateCallers_agreeExcept tapeOracle false (replayRun 1) (replayRun 0)
    ⟨by decide, by decide⟩ (by decide) ⟨rfl, rfl, rfl, rfl, by decide⟩
  simp only [last] at lawA lawB
  exact ⟨lawA.2.1 (by decide), lawB.2.1 (by decide)⟩

end Honggfuzz.Mangle
