import Honggfuzz.Mangle.Content

/-!
The size invariant `1 ≤ dynamicFileSz ≤ maxFileSz`. `mangle_Resize` and every
operator of `mangleFuncs` keep it, for every oracle, both printable modes and
any dictionary, and so does a whole `mangle_mangleContent` session: the guards
of `mangle_Inflate` and `mangle_Shrink` and the `ssize_t` clamps of
`mangle_Resize` never let the size wrap below 1 or past `maxFileSz`. Only
`mangle_DictionaryInsert`, `mangle_Expand` and `mangle_Shrink` change the size,
so a session that never draws them ends with the size `mangle_Resize` chose.
-/

namespace Honggfuzz.Mangle

variable {σ : Type} (o : Oracle σ)

/-! ### The operators that resize -/

section Resizing

variable (printable : Bool) (run : Run σ)

theorem mangleInflate_sizeOk (off len : Nat) (sizeOk : SizeOk run) :
    SizeOk (mangleInflate o off len printable run) := by
  unfold SizeOk at *
  rw [mangleInflate_global, mangleInflate_dynamicFileSz]
  split <;> omega

theorem mangleExpand_sizeOk (sizeOk : SizeOk run) : SizeOk (mangleExpand o printable run) := by
  unfold mangleExpand
  exact mangleInflate_sizeOk o printable _ _ _ (sizeOk.of_frame (by simp) (by simp))

theorem mangleDictionaryInsert_sizeOk (sizeOk : SizeOk run) :
    SizeOk (mangleDictionaryInsert o printable run) := by
  unfold mangleDictionaryInsert
  split
  · exact sizeOk.of_frame (by simp) (by simp)
  · unfold mangleDictionaryInsertNoCheck
    simp only [utilRndGet, Run.lookup]
    refine SizeOk.of_frame (mangleOverwrite_global ..) (mangleOverwrite_dynamicFileSz ..)
      (mangleInflate_sizeOk o printable _ _ _ ?_)
    exact sizeOk.of_frame (by simp) (by simp)

theorem mangleShrink_sizeOk (sizeOk : SizeOk run) : SizeOk (mangleShrink o printable run) := by
  unfold mangleShrink
  split
  · exact sizeOk
  · have drawn := utilRndGet_ge o 1 (run.dynamicFileSz - 1) run (by omega)
    have bound := utilRndGet_le o 1 (run.dynamicFileSz - 1) run (by omega)
    unfold SizeOk at *
    simp only [utilRndGet, mangleMove_global, mangleMove_dynamicFileSz, inputSetSize_global,
      inputSetSize_dynamicFileSz, Run.withRnd_global, Run.withRnd_dynamicFileSz, Run.check_global,
      Run.check_dynamicFileSz] at drawn bound ⊢
    omega

/-- After the clamps, `(size_t)newsz` lies in `[1, maxFileSz]`, for every
`size_t` value of `maxFileSz`. -/
theorem toSizeT_clampNewsz {maxFileSz : Nat} (pos : 1 ≤ maxFileSz) (small : maxFileSz < 2 ^ 64)
    (newsz : Int) :
    1 ≤ toSizeT (clampNewsz maxFileSz newsz) ∧ toSizeT (clampNewsz maxFileSz newsz) ≤ maxFileSz := by
  unfold clampNewsz
  dsimp only
  by_cases signed : maxFileSz < 2 ^ 63
  · rw [toSSize_of_lt signed]
    split_ifs <;> rw [toSizeT_of_lt (by omega) (by omega)] <;> omega
  · have negative : toSSize maxFileSz < 1 := by unfold toSSize; split <;> omega
    rw [if_pos (by split <;> omega), toSizeT_toSSize small]
    omega

theorem mangleResizeTo_dynamicFileSz (oldsz : Nat) (newsz : Int) :
    (mangleResizeTo o printable oldsz newsz run).dynamicFileSz = toSizeT newsz := by
  unfold mangleResizeTo
  split <;> simp

theorem mangleResize_sizeOk (sizeOk : SizeOk run) : SizeOk (mangleResize o printable run) := by
  unfold mangleResize SizeOk
  rw [mangleResizeTo_global, mangleResizeTo_dynamicFileSz, mangleResizeNewsz_global]
  exact toSizeT_clampNewsz (by unfold SizeOk at sizeOk; omega) run.global.maxFileSz_lt _

end Resizing

/-! ### Which way the size moves -/

section Direction

variable (printable : Bool) (run : Run σ)

/-- `mangle_Inflate` never shrinks the input. -/
theorem mangleInflate_grows (off len : Nat) :
    run.dynamicFileSz ≤ (mangleInflate o off len printable run).dynamicFileSz := by
  rw [mangleInflate_dynamicFileSz]
  split_ifs <;> omega

/-- `mangle_Expand` draws `len ≥ 1` for a nonempty input, so with room it grows. -/
theorem mangleExpand_grows :
    run.dynamicFileSz ≤ (mangleExpand o printable run).dynamicFileSz ∧
      (0 < run.dynamicFileSz → run.dynamicFileSz < run.global.maxFileSz →
        run.dynamicFileSz < (mangleExpand o printable run).dynamicFileSz) := by
  rcases drawOff : o.rndGet 0 (run.dynamicFileSz - 1) run.rnd with ⟨off, s₁⟩
  rcases drawLen : o.rndGet 1 (run.dynamicFileSz - off) s₁ with ⟨len, s₂⟩
  have offIn := (o.draw_mem drawOff (Nat.zero_le _)).2
  simp only [mangleExpand, utilRndGet, drawOff, Run.withRnd_rnd, Run.check_rnd,
    Run.withRnd_dynamicFileSz, Run.check_dynamicFileSz, drawLen]
  rw [mangleInflate_dynamicFileSz]
  dsimp only [Run.withRnd_dynamicFileSz, Run.check_dynamicFileSz, Run.withRnd_global,
    Run.check_global]
  refine ⟨by split_ifs <;> omega, fun nonempty room => ?_⟩
  have lenPos := (o.draw_mem drawLen (by omega)).1
  rw [if_pos room]
  omega

/-- `mangle_DictionaryInsert` never shrinks the input. -/
theorem mangleDictionaryInsert_grows :
    run.dynamicFileSz ≤ (mangleDictionaryInsert o printable run).dynamicFileSz := by
  unfold mangleDictionaryInsert mangleDictionaryInsertNoCheck
  split
  · exact Nat.le_of_eq (mangleBit_dynamicFileSz o printable run).symm
  · simp only [utilRndGet, Run.lookup, mangleOverwrite_dynamicFileSz]
    refine Nat.le_trans (Nat.le_of_eq ?_) (mangleInflate_grows o printable _ _ _)
    simp only [Run.check_dynamicFileSz, Run.withRnd_dynamicFileSz]

/-- `mangle_Shrink` never grows the input, and cuts at least one byte from two. -/
theorem mangleShrink_shrinks :
    (mangleShrink o printable run).dynamicFileSz ≤ run.dynamicFileSz ∧
      (2 ≤ run.dynamicFileSz → (mangleShrink o printable run).dynamicFileSz < run.dynamicFileSz) := by
  unfold mangleShrink
  split
  · exact ⟨Nat.le_refl _, by omega⟩
  · have lenIn := utilRndGet_ge o 1 (run.dynamicFileSz - 1) run (by omega)
    simp only [utilRndGet, mangleMove_dynamicFileSz, inputSetSize_dynamicFileSz,
      Run.withRnd_dynamicFileSz, Run.check_dynamicFileSz] at lenIn ⊢
    omega

end Direction

/-! ### The table and the session -/

theorem mangleFuncs_sizeOk :
    ∀ f ∈ mangleFuncs o, ∀ printable (run : Run σ), SizeOk run → SizeOk (f printable run) := by
  simp only [mangleFuncs, List.mem_cons, List.mem_singleton, List.not_mem_nil, or_false]
  rintro f (rfl | rfl | rfl | rfl | rfl | rfl | rfl | rfl | rfl | rfl | rfl | rfl | rfl | rfl | rfl |
    rfl) printable run sizeOk
  all_goals first
    | exact sizeOk.of_frame (by simp [mangleIncByte, mangleDecByte, mangleNegByte])
        (by simp [mangleIncByte, mangleDecByte, mangleNegByte])
    | exact mangleDictionaryInsert_sizeOk o printable run sizeOk
    | exact mangleExpand_sizeOk o printable run sizeOk
    | exact mangleShrink_sizeOk o printable run sizeOk

theorem mangleFuncs_getD_sizeOk (choice : Nat) (printable : Bool) (run : Run σ) (sizeOk : SizeOk run) :
    SizeOk ((mangleFuncs o).getD choice (fun _ run => run) printable run) := by
  rcases getD_mem_or_eq (mangleFuncs o) choice (fun _ run => run) with member | fallback
  · exact mangleFuncs_sizeOk o _ member printable run sizeOk
  · rw [fallback]
    exact sizeOk

/-- The entry drawn at `choice`, other than `mangle_Shrink` (14): it never shrinks
the input, and keeps its size unless it is `mangle_DictionaryInsert` (8) or
`mangle_Expand` (13); an index past the table runs nothing. -/
theorem mangleFuncs_getD_dynamicFileSz (choice : Nat) (notShrink : choice ≠ 14) (printable : Bool)
    {run₀ run : Run σ} (same : run.dynamicFileSz = run₀.dynamicFileSz) :
    run₀.dynamicFileSz ≤ ((mangleFuncs o).getD choice (fun _ run => run) printable run).dynamicFileSz ∧
      (choice ≠ 8 → choice ≠ 13 →
        ((mangleFuncs o).getD choice (fun _ run => run) printable run).dynamicFileSz =
          run₀.dynamicFileSz) := by
  have kept : ∀ {run' : Run σ}, run'.dynamicFileSz = run.dynamicFileSz →
      run₀.dynamicFileSz ≤ run'.dynamicFileSz ∧
        (choice ≠ 8 → choice ≠ 13 → run'.dynamicFileSz = run₀.dynamicFileSz) :=
    fun size => ⟨Nat.le_of_eq (size.trans same).symm, fun _ _ => size.trans same⟩
  -- one case per entry of the table, and the indices past it
  rcases choice with _ | _ | _ | _ | _ | _ | _ | _ | _ | _ | _ | _ | _ | _ | _ | _ | past
  · exact kept (mangleBit_dynamicFileSz o printable run)
  · exact kept (mangleBytes_dynamicFileSz o printable run)
  · exact kept (mangleMagic_dynamicFileSz o printable run)
  · exact kept (show (mangleIncByte o printable run).dynamicFileSz = _ from
      mangleByteOp_dynamicFileSz o printable _ _ run)
  · exact kept (show (mangleDecByte o printable run).dynamicFileSz = _ from
      mangleByteOp_dynamicFileSz o printable _ _ run)
  · exact kept (show (mangleNegByte o printable run).dynamicFileSz = _ from
      mangleByteOp_dynamicFileSz o printable _ _ run)
  · exact kept (mangleAddSub_dynamicFileSz o printable run)
  · exact kept (mangleDictionary_dynamicFileSz o printable run)
  · exact ⟨same.symm.trans_le (mangleDictionaryInsert_grows o printable run),
      fun eight => absurd rfl eight⟩
  · exact kept (mangleMemMove_dynamicFileSz o printable run)
  · exact kept (mangleMemSet_dynamicFileSz o printable run)
  · exact kept (mangleRandom_dynamicFileSz o printable run)
  · exact kept (mangleCloneByte_dynamicFileSz o printable run)
  · exact ⟨same.symm.trans_le (mangleExpand_grows o printable run).1,
      fun _ thirteen => absurd rfl thirteen⟩
  · exact absurd rfl notShrink
  · exact kept (mangleASCIIVal_dynamicFileSz o printable run)
  · rw [List.getD_eq_default _ _ (by rw [mangleFuncs_length]; omega)]
    exact kept rfl

/-- The input `AB` at `maxFileSz = 4`, with the tape `rnd`. -/
def pairRun (rnd : List Nat) : Run (List Nat) where
  global := ⟨4, 2, 0, [], false, by decide⟩
  dynamicFile i := [0x41, 0x42].getD i 0
  dynamicFileSz := 2
  mutationsPerRun := 2
  rnd := rnd
  fault := none

/-- Only three operators of the table change the size: `mangle_DictionaryInsert`
and `mangle_Expand` never shrink the input, `mangle_Shrink` never grows it, and
every other operator keeps it. With room, `mangle_Expand` grows a nonempty
input, and `mangle_Shrink` cuts an input of two bytes or more. -/
theorem mangleFuncs_dynamicFileSz :
    (∀ f ∈ mangleFuncs o, f ≠ mangleDictionaryInsert o → f ≠ mangleExpand o →
      f ≠ mangleShrink o → ∀ printable (run : Run σ),
        (f printable run).dynamicFileSz = run.dynamicFileSz) ∧
    ∀ printable (run : Run σ),
      run.dynamicFileSz ≤ (mangleDictionaryInsert o printable run).dynamicFileSz ∧
      run.dynamicFileSz ≤ (mangleExpand o printable run).dynamicFileSz ∧
      (0 < run.dynamicFileSz → run.dynamicFileSz < run.global.maxFileSz →
        run.dynamicFileSz < (mangleExpand o printable run).dynamicFileSz) ∧
      (mangleShrink o printable run).dynamicFileSz ≤ run.dynamicFileSz ∧
      (2 ≤ run.dynamicFileSz → (mangleShrink o printable run).dynamicFileSz < run.dynamicFileSz) := by
  refine ⟨fun f member notInsert notExpand notShrink printable run => ?_,
    fun printable run => ⟨mangleDictionaryInsert_grows o printable run,
      (mangleExpand_grows o printable run).1, (mangleExpand_grows o printable run).2,
      (mangleShrink_shrinks o printable run).1, (mangleShrink_shrinks o printable run).2⟩⟩
  obtain ⟨choice, inTable, rfl⟩ := List.getElem_of_mem member
  have entry := List.getD_eq_getElem (mangleFuncs o) (fun _ run => run) inTable
  rw [← entry] at notInsert notExpand notShrink ⊢
  exact (mangleFuncs_getD_dynamicFileSz o choice (fun fourteen => notShrink (by subst fourteen; rfl))
    printable (Eq.refl run.dynamicFileSz)).2 (fun eight => notInsert (by subst eight; rfl))
    (fun thirteen => notExpand (by subst thirteen; rfl))

/-- On `AB` at `maxFileSz = 4`, with the low draws of an empty tape,
`mangle_Expand` grows the input and `mangle_Shrink` cuts it. -/
theorem mangleFuncs_dynamicFileSz_pairRun :
    (pairRun []).dynamicFileSz < (mangleExpand tapeOracle false (pairRun [])).dynamicFileSz ∧
      (mangleShrink tapeOracle false (pairRun [])).dynamicFileSz < (pairRun []).dynamicFileSz :=
  ⟨((mangleFuncs_dynamicFileSz tapeOracle).2 false (pairRun [])).2.2.1 (by decide) (by decide),
    ((mangleFuncs_dynamicFileSz tapeOracle).2 false (pairRun [])).2.2.2.2 (by decide)⟩

theorem mangleChange_sizeOk (run : Run σ) (sizeOk : SizeOk run) : SizeOk (mangleChange o run) := by
  rcases drawChoice : o.rndGet 0 15 run.rnd with ⟨choice, s⟩
  rw [mangleChange_eq o run drawChoice]
  exact mangleFuncs_getD_sizeOk o choice _ _ (sizeOk.of_frame rfl rfl)

theorem mangleChanges_sizeOk (changesCnt : Nat) (run : Run σ) (sizeOk : SizeOk run) :
    SizeOk (mangleChanges o changesCnt run) := by
  induction changesCnt generalizing run with
  | zero => exact sizeOk
  | succ changesCnt ih => exact ih _ (mangleChange_sizeOk o run sizeOk)

theorem mangleMangleContent_sizeOk (run : Run σ) (sizeOk : SizeOk run) :
    SizeOk (mangleMangleContent o run) := by
  unfold mangleMangleContent
  split
  · exact sizeOk
  · exact mangleChanges_sizeOk o _ _
      (SizeOk.of_frame (by simp) (by simp) (mangleResize_sizeOk o run.global.onlyPrintable run sizeOk))

/-- `mangle_Resize` and every operator of `mangleFuncs` keep
`1 ≤ dynamicFileSz ≤ maxFileSz`, and so does a whole session. -/
theorem mangle_sizeInvariant :
    (∀ printable (run : Run σ), SizeOk run → SizeOk (mangleResize o printable run)) ∧
    (∀ f ∈ mangleFuncs o, ∀ printable (run : Run σ), SizeOk run → SizeOk (f printable run)) ∧
    (∀ run : Run σ, SizeOk run → SizeOk (mangleMangleContent o run)) := by
  exact ⟨fun printable run => mangleResize_sizeOk o printable run, mangleFuncs_sizeOk o,
    mangleMangleContent_sizeOk o⟩

/-- A session on `AB` that shrinks it to one byte and then runs `mangle_Expand`
and `mangle_Bit` keeps the size in `[1, 4]`. -/
theorem mangle_sizeInvariant_pairRun :
    SizeOk (pairRun [9, 2, 13, 0, 1, 0x58, 0, 0, 0]) ∧
      SizeOk (mangleMangleContent tapeOracle (pairRun [9, 2, 13, 0, 1, 0x58, 0, 0, 0])) :=
  ⟨by decide, (mangle_sizeInvariant tapeOracle).2.2 _ (by decide)⟩

/-! ### Sessions without the resizing operators -/

theorem mangleChange_dynamicFileSz (run : Run σ) (notShrink : (o.rndGet 0 15 run.rnd).1 ≠ 14) :
    run.dynamicFileSz ≤ (mangleChange o run).dynamicFileSz ∧
      ((o.rndGet 0 15 run.rnd).1 ≠ 8 → (o.rndGet 0 15 run.rnd).1 ≠ 13 →
        (mangleChange o run).dynamicFileSz = run.dynamicFileSz) := by
  unfold mangleChange
  simp only [utilRndGet, Run.lookup, mangleFuncs_length]
  exact mangleFuncs_getD_dynamicFileSz o _ notShrink _ rfl

theorem mangleChanges_dynamicFileSz (changesCnt : Nat) {run₀ run : Run σ}
    (same : run.dynamicFileSz = run₀.dynamicFileSz) (notShrink : 14 ∉ mangleChoices o changesCnt run) :
    run₀.dynamicFileSz ≤ (mangleChanges o changesCnt run).dynamicFileSz ∧
      (8 ∉ mangleChoices o changesCnt run → 13 ∉ mangleChoices o changesCnt run →
        (mangleChanges o changesCnt run).dynamicFileSz = run₀.dynamicFileSz) := by
  induction changesCnt generalizing run₀ run with
  | zero => exact ⟨Nat.le_of_eq same.symm, fun _ _ => same⟩
  | succ changesCnt ih =>
      simp only [mangleChoices_succ, List.mem_cons, not_or] at notShrink ⊢
      have step := mangleChange_dynamicFileSz o run (Ne.symm notShrink.1)
      have rest := ih (Eq.refl (mangleChange o run).dynamicFileSz) notShrink.2
      exact ⟨same.symm.trans_le (step.1.trans rest.1), fun notInsert notExpand =>
        (rest.2 notInsert.2 notExpand.2).trans
          ((step.2 (Ne.symm notInsert.1) (Ne.symm notExpand.1)).trans same)⟩

/-- Only `mangle_Resize` and the three resizing operators set the size of a
session's output: when none of the operators an active session draws is
`mangle_Shrink`, it ends at least as large as `mangle_Resize` left the input,
and when none is `mangle_DictionaryInsert` or `mangle_Expand` either, exactly
as large. -/
theorem mangleMangleContent_dynamicFileSz (o : Oracle σ) (run : Run σ)
    (active : run.mutationsPerRun ≠ 0) (notShrink : 14 ∉ mangleMangleContentChoices o run) :
    (mangleResize o run.global.onlyPrintable run).dynamicFileSz ≤
        (mangleMangleContent o run).dynamicFileSz ∧
      (8 ∉ mangleMangleContentChoices o run → 13 ∉ mangleMangleContentChoices o run →
        (mangleMangleContent o run).dynamicFileSz =
          (mangleResize o run.global.onlyPrintable run).dynamicFileSz) := by
  obtain ⟨session, choices⟩ := mangleMangleContent_of_active o run active
  rw [session, choices]
  rw [choices] at notShrink
  exact mangleChanges_dynamicFileSz o _
    ((Run.withRnd_dynamicFileSz ..).trans (Run.check_dynamicFileSz ..)) notShrink

/-- A session that shrinks the input to one byte and then runs `mangle_Expand`
and `mangle_Bit`, and one that grows it to three bytes and then runs
`mangle_Bit` and `mangle_CloneByte`. -/
theorem mangleMangleContent_dynamicFileSz_pairRun :
    mangleMangleContentChoices tapeOracle (pairRun [9, 2, 13, 0, 1, 0x58, 0, 0, 0]) = [13, 0] ∧
      (mangleResize tapeOracle false (pairRun [9, 2, 13, 0, 1, 0x58, 0, 0, 0])).dynamicFileSz ≤
        (mangleMangleContent tapeOracle (pairRun [9, 2, 13, 0, 1, 0x58, 0, 0, 0])).dynamicFileSz ∧
      mangleMangleContentChoices tapeOracle (pairRun [1, 0x43, 2, 0, 0, 0, 12, 0, 1]) = [0, 12] ∧
      (mangleMangleContent tapeOracle (pairRun [1, 0x43, 2, 0, 0, 0, 12, 0, 1])).dynamicFileSz =
        (mangleResize tapeOracle false (pairRun [1, 0x43, 2, 0, 0, 0, 12, 0, 1])).dynamicFileSz :=
  ⟨by decide,
    (mangleMangleContent_dynamicFileSz tapeOracle (pairRun [9, 2, 13, 0, 1, 0x58, 0, 0, 0])
      (by decide) (by decide)).1, by decide,
    (mangleMangleContent_dynamicFileSz tapeOracle (pairRun [1, 0x43, 2, 0, 0, 0, 12, 0, 1])
      (by decide) (by decide)).2 (by decide) (by decide)⟩

end Honggfuzz.Mangle
