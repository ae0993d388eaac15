import Honggfuzz.Mangle.Safety

/-!
The one way a session faults. The checked embedding records the first fault
and never clears it, so every operator, `mangle_Resize` and every iteration of
the loop leave a recorded fault as it is. From a sound state the only change
that records one is `mangle_Magic` in printable mode with an entry longer than
the input from its offset. A session therefore faults exactly when, in printable
mode, it reaches a sound state whose next change is such a `mangle_Magic`.
-/

namespace Honggfuzz.Mangle

variable {σ : Type} (o : Oracle σ)

/-! ### A recorded fault stays -/

section Sticky

variable (printable : Bool) {run : Run σ} (faulted : run.fault ≠ none)
include faulted

theorem mangleOverwrite_fault_keep (src : List UInt8) (off sz : Nat) :
    (mangleOverwrite src off sz run).fault = run.fault := by
  simp only [mangleOverwrite, Run.store_fault, Run.readSource, Run.check_fault,
    checked_of_ne_none faulted]

theorem mangleMove_fault_keep (offFrom offTo len : Nat) :
    (mangleMove offFrom offTo len run).fault = run.fault := by
  unfold mangleMove
  split
  · rfl
  split
  · rfl
  simp only [Run.store_fault, Run.access, Run.check_fault, checked_of_ne_none faulted]

theorem mangleInflate_fault_keep (off len : Nat) :
    (mangleInflate o off len printable run).fault = run.fault := by
  have grown : ∀ sz, (inputSetSize sz run).fault ≠ none := fun sz => by
    rwa [inputSetSize_fault, checked_of_ne_none faulted]
  unfold mangleInflate
  split
  · rfl
  simp only [rndBuf, Run.store_fault, Run.withRnd_fault, mangleMove_fault_keep (grown _),
    inputSetSize_fault, checked_of_ne_none faulted]

theorem mangleMagic_fault_keep : (mangleMagic o printable run).fault = run.fault := by
  rcases drawOff : o.rndGet 0 (run.dynamicFileSz - 1) run.rnd with ⟨off, s₁⟩
  rcases drawChoice : o.rndGet 0 (mangleMagicVals.length - 1) s₁ with ⟨choice, s₂⟩
  rw [mangleMagic_eq o printable run drawOff drawChoice]
  cases printable <;> simp [checked_of_ne_none, faulted, mangleOverwrite_fault_keep]

theorem mangleDictionaryInsert_fault_keep :
    (mangleDictionaryInsert o printable run).fault = run.fault := by
  unfold mangleDictionaryInsert mangleDictionaryInsertNoCheck
  split
  · obtain ⟨e, spec⟩ := mangleBit_footprint o printable run
    exact spec.fault_keep faulted
  · simp [checked_of_ne_none, faulted, mangleOverwrite_fault_keep, mangleInflate_fault_keep]

theorem mangleExpand_fault_keep : (mangleExpand o printable run).fault = run.fault := by
  simp [mangleExpand, checked_of_ne_none, faulted, mangleInflate_fault_keep]

theorem mangleShrink_fault_keep : (mangleShrink o printable run).fault = run.fault := by
  unfold mangleShrink
  split <;> simp [checked_of_ne_none, faulted, mangleMove_fault_keep]

/-- Every entry of `mangleFuncs` leaves a recorded fault as it is; an index past
the table runs nothing. -/
theorem mangleFuncs_getD_fault_keep (choice : Nat) :
    ((mangleFuncs o).getD choice (fun _ run => run) printable run).fault = run.fault := by
  refine mangleFuncs_getD_cases o (P := fun op => ∀ run : Run σ, run.fault ≠ none →
    (op run).fault = run.fault) choice printable (fun op footprint run faulted => ?_)
    (fun _ _ _ => mangleMagic_fault_keep o true) (fun _ _ => mangleDictionaryInsert_fault_keep o printable)
    (fun _ _ => mangleExpand_fault_keep o printable) (fun _ _ => mangleShrink_fault_keep o printable)
    run faulted
  obtain ⟨e, spec⟩ := footprint run
  exact spec.fault_keep faulted

end Sticky

section StickyLoop

variable {run : Run σ} (faulted : run.fault ≠ none)
include faulted

theorem mangleChange_fault_keep : (mangleChange o run).fault = run.fault := by
  rcases drawChoice : o.rndGet 0 15 run.rnd with ⟨choice, s⟩
  rw [mangleChange_eq o run drawChoice]
  exact mangleFuncs_getD_fault_keep o _ (show (run.withRnd s).fault ≠ none from faulted) choice

theorem mangleChanges_fault_keep (changesCnt : Nat) :
    (mangleChanges o changesCnt run).fault = run.fault := by
  induction changesCnt generalizing run with
  | zero => rfl
  | succ changesCnt ih =>
      have step := mangleChange_fault_keep o faulted
      exact (ih (step ▸ faulted)).trans step

end StickyLoop

/-- `m + n` iterations of the loop are `m` iterations, then `n`. -/
theorem mangleChanges_add (m n : Nat) (run : Run σ) :
    mangleChanges o (m + n) run = mangleChanges o n (mangleChanges o m run) := by
  induction m generalizing run with
  | zero => rw [Nat.zero_add]; rfl
  | succ m ih => rw [Nat.succ_add]; exact ih (mangleChange o run)

/-! ### The one way a session faults -/

/-- A sound state whose next change selects `mangle_Magic` (index 2) at an
offset where the drawn entry runs past the end of the input. -/
def MagicOverrun (run : Run σ) : Prop :=
  Sound run ∧ (o.rndGet 0 15 run.rnd).1 = 2 ∧
    run.dynamicFileSz - (o.rndGet 0 (run.dynamicFileSz - 1) (o.rndGet 0 15 run.rnd).2).1 <
      (mangleMagicVals.getD (o.rndGet 0 (mangleMagicVals.length - 1)
        (o.rndGet 0 (run.dynamicFileSz - 1) (o.rndGet 0 15 run.rnd).2).2).1 ⟨[], 0⟩).size

/-- In printable mode a change from a sound state faults exactly when it is a
`mangle_Magic` overrun. -/
theorem mangleChange_fault_iff (run : Run σ) (config : ConfigOk run.global) (sound : Sound run)
    (printing : run.global.onlyPrintable = true) :
    (mangleChange o run).fault ≠ none ↔ MagicOverrun o run := by
  rcases drawChoice : o.rndGet 0 15 run.rnd with ⟨choice, s₁⟩
  have drawn : Sound (run.withRnd s₁) := ⟨sound.sizeOk.of_frame rfl rfl, sound.clean⟩
  unfold MagicOverrun
  rw [mangleChange_eq o run drawChoice, printing]
  simp only [drawChoice]
  by_cases magic : choice = 2
  · subst magic
    rcases drawOff : o.rndGet 0 (run.dynamicFileSz - 1) s₁ with ⟨off, s₂⟩
    rcases drawEntry : o.rndGet 0 (mangleMagicVals.length - 1) s₂ with ⟨entry, s₃⟩
    have faults := mangleMagic_fault_eq_none o true (run.withRnd s₁) drawn drawOff drawEntry
    show (mangleMagic o true (run.withRnd s₁)).fault ≠ none ↔ _
    rw [Ne, faults]
    simp only [sound, true_and, true_implies, not_le, Run.withRnd_dynamicFileSz]
  · have safe := mangleFuncs_getD_sound o choice true (absurd · magic) (run.withRnd s₁) config drawn
    simp only [magic, false_and, and_false, iff_false, not_not]
    exact safe.clean

/-- From a sound state the loop ends sound, or in printable mode it reaches a
sound state whose next change is a `mangle_Magic` overrun. -/
theorem mangleChanges_sound_or_overrun (changesCnt : Nat) (run : Run σ)
    (config : ConfigOk run.global) (sound : Sound run) :
    Sound (mangleChanges o changesCnt run) ∨
      run.global.onlyPrintable = true ∧ ∃ k < changesCnt, MagicOverrun o (mangleChanges o k run) := by
  induction changesCnt generalizing run with
  | zero => exact .inl sound
  | succ changesCnt ih =>
      by_cases printing : run.global.onlyPrintable = true
      · by_cases clean : (mangleChange o run).fault = none
        · rcases ih (mangleChange o run) (by simpa using config)
              ⟨mangleChange_sizeOk o run sound.sizeOk, clean⟩ with done | ⟨_, k, below, later⟩
          · exact .inl done
          · exact .inr ⟨printing, k + 1, by omega, later⟩
        · exact .inr ⟨printing, 0, by omega, (mangleChange_fault_iff o run config sound printing).1 clean⟩
      · exact .inl (mangleChanges_sound o _ run (fun _ => by simpa using printing) config sound)

/-- The printable-mode overrun of `mangle_Magic` is the one way a session from a
sound state faults: the session faults exactly when the mode is printable and one
iteration of its loop, from a sound state the session reaches, selects
`mangle_Magic` with an entry longer than the input from its offset. -/
theorem mangleMangleContent_fault_iff (run : Run σ) (config : ConfigOk run.global)
    (sound : Sound run) (single : run.mutationsPerRun = run.global.mutationsPerRun) :
    (mangleMangleContent o run).fault ≠ none ↔
      run.global.onlyPrintable = true ∧
        ∃ changesCnt s, ∃ k < changesCnt,
          let start := (mangleResize o run.global.onlyPrintable run).withRnd s
          mangleMangleContent o run = mangleChanges o changesCnt start ∧
            MagicOverrun o (mangleChanges o k start) := by
  constructor
  · intro faulted
    have active : run.mutationsPerRun ≠ 0 := by
      rintro idle
      simp [mangleMangleContent, idle, sound.clean] at faulted
    have resized : Sound (mangleResize o run.global.onlyPrintable run) :=
      ⟨mangleResize_sizeOk o _ run sound.sizeOk, mangleResize_fault o _ run config sound⟩
    obtain ⟨changesCnt, s, -, -, session, -⟩ := mangleMangleContent_eq o run active (by omega)
    rcases mangleChanges_sound_or_overrun o changesCnt
        ((mangleResize o run.global.onlyPrintable run).withRnd s) (by simpa using config)
        ⟨resized.sizeOk.of_frame rfl rfl, resized.clean⟩ with done | ⟨printing, k, below, cause⟩
    · exact absurd (session ▸ done.clean) faulted
    · exact ⟨by simpa using printing, changesCnt, s, k, below, session, cause⟩
  · rintro ⟨printing, changesCnt, s, k, below, session, overrun⟩
    have faults : (mangleChanges o 1 (mangleChanges o k
        ((mangleResize o run.global.onlyPrintable run).withRnd s))).fault ≠ none :=
      (mangleChange_fault_iff o _ (by simpa using config) overrun.1 (by simpa using printing)).2
        overrun
    obtain ⟨rest, rfl⟩ : ∃ rest, changesCnt = k + 1 + rest := ⟨changesCnt - (k + 1), by omega⟩
    rw [session, mangleChanges_add, mangleChanges_add, mangleChanges_fault_keep o faults]
    exact faults

theorem mangleMangleContent_fault_iff_magicRun :
    (mangleMangleContent tapeOracle magicRun).fault ≠ none ↔
      magicRun.global.onlyPrintable = true ∧
        ∃ changesCnt s, ∃ k < changesCnt,
          let start := (mangleResize tapeOracle true magicRun).withRnd s
          mangleMangleContent tapeOracle magicRun = mangleChanges tapeOracle changesCnt start ∧
            MagicOverrun tapeOracle (mangleChanges tapeOracle k start) :=
  mangleMangleContent_fault_iff tapeOracle magicRun ⟨by decide, by decide⟩ ⟨by decide, rfl⟩ rfl

end Honggfuzz.Mangle
