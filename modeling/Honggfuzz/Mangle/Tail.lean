import Honggfuzz.Mangle.Safety

/-!
The storage past the input. The buffer behind `dynamicFile` has room for
`maxFileSz` bytes, and past the logical size it holds whatever the storage
held. An operator that keeps to the input leaves every byte at or past both its
old and its new size as it was, which is what a test that fills the storage
beyond the input with a sentinel observes. `mangle_Resize` and every operator
of `mangleFuncs` do so in both modes, except `mangle_Magic` in printable mode,
whose `util_turnToPrintable` runs over the entry's full `size`. A session
outside printable mode therefore never changes a byte at or past `maxFileSz`.
-/

namespace Honggfuzz.Mangle

variable {σ : Type} (o : Oracle σ)

/-- Between two states with `1 ≤ dynamicFileSz ≤ maxFileSz`, `TailKept` covers
every byte at or past `maxFileSz`. -/
theorem TailKept.capacity {before after : Run σ} (kept : TailKept before after)
    (sizeOk : SizeOk before) (sizeOk' : SizeOk after) (global : after.global = before.global)
    {i : Nat} (past : before.global.maxFileSz ≤ i) : after.dynamicFile i = before.dynamicFile i := by
  unfold SizeOk at sizeOk sizeOk'
  rw [global] at sizeOk'
  exact kept i (by omega) (by omega)

/-! ### The primitives past their windows -/

section Primitives

variable {run : Run σ} {i : Nat}

theorem Run.store_dynamicFile_of_le {off len : Nat} {src : Nat → UInt8} (past : off + len ≤ i) :
    (run.store off len src).dynamicFile i = run.dynamicFile i :=
  if_neg (by omega)

theorem mangleOverwrite_dynamicFile_of_le {src : List UInt8} {off sz : Nat}
    (past : run.dynamicFileSz ≤ i) :
    (mangleOverwrite src off sz run).dynamicFile i = run.dynamicFile i := by
  rw [mangleOverwrite_dynamicFile, if_neg (by omega)]

theorem mangleMove_dynamicFile_of_le {offFrom offTo len : Nat} (small : run.dynamicFileSz < 2 ^ 63)
    (lenSmall : len < 2 ^ 63) (past : run.dynamicFileSz ≤ i) :
    (mangleMove offFrom offTo len run).dynamicFile i = run.dynamicFile i := by
  by_cases inside : offFrom < run.dynamicFileSz ∧ offTo < run.dynamicFileSz
  · rw [mangleMove_eq offFrom offTo len run inside.1 inside.2 small lenSmall,
      Run.store_dynamicFile_of_le (by unfold moveLen; omega)]
    rfl
  · rw [mangleMove_of_le offFrom offTo len run (by omega)]

theorem mangleInflate_dynamicFile_of_le {off len : Nat} {printable : Bool}
    (offIn : off < run.dynamicFileSz) (small : run.global.maxFileSz < 2 ^ 63)
    (past : (mangleInflate o off len printable run).dynamicFileSz ≤ i) :
    (mangleInflate o off len printable run).dynamicFile i = run.dynamicFile i := by
  rw [mangleInflate_dynamicFileSz] at past
  by_cases room : run.dynamicFileSz < run.global.maxFileSz
  · rw [if_pos room] at past
    rw [mangleInflate_dynamicFile o off len printable run offIn room small]
    dsimp only
    rw [if_neg (by omega), if_neg (by omega)]
  · unfold mangleInflate
    rw [if_pos (Nat.not_lt.mp room)]

end Primitives

/-! ### Operators that grow, shrink or move -/

section Configured

variable (printable : Bool) (run : Run σ)

theorem mangleDictionaryInsert_tailKept (small : run.global.maxFileSz < 2 ^ 63) (sizeOk : SizeOk run) :
    TailKept run (mangleDictionaryInsert o printable run) := by
  unfold mangleDictionaryInsert
  split
  · obtain ⟨e, spec⟩ := mangleBit_footprint o printable run
    exact spec.tailKept sizeOk small
  · rcases drawChoice : o.rndGet 0 (run.global.dictionaryCnt - 1) run.rnd with ⟨choice, s₁⟩
    rcases drawOff : o.rndGet 0 (run.dynamicFileSz - 1) s₁ with ⟨off, s₂⟩
    have offIn := o.draw_mem drawOff (Nat.zero_le _)
    have pos := sizeOk.1
    intro i past after
    simp only [mangleDictionaryInsertNoCheck, utilRndGet, drawChoice, Run.withRnd_rnd,
      Run.check_rnd, Run.lookup, Run.withRnd_dynamicFileSz, Run.check_dynamicFileSz, drawOff,
      mangleOverwrite_dynamicFileSz] at after ⊢
    rw [mangleOverwrite_dynamicFile_of_le after, mangleInflate_dynamicFile_of_le o
      (by simpa using by omega) (by simpa using small) after]
    rfl

theorem mangleExpand_tailKept (small : run.global.maxFileSz < 2 ^ 63) (sizeOk : SizeOk run) :
    TailKept run (mangleExpand o printable run) := by
  rcases drawOff : o.rndGet 0 (run.dynamicFileSz - 1) run.rnd with ⟨off, s₁⟩
  have offIn := o.draw_mem drawOff (Nat.zero_le _)
  have pos := sizeOk.1
  intro i past after
  simp only [mangleExpand, utilRndGet, drawOff] at after ⊢
  rw [mangleInflate_dynamicFile_of_le o (by simpa using by omega) (by simpa using small)
    after]
  rfl

theorem mangleShrink_tailKept (small : run.global.maxFileSz < 2 ^ 63) (sizeOk : SizeOk run) :
    TailKept run (mangleShrink o printable run) := by
  unfold mangleShrink
  split
  · intro i _ _
    rfl
  · rcases drawLen : o.rndGet 1 (run.dynamicFileSz - 1) run.rnd with ⟨len, s₁⟩
    have lenIn := o.draw_mem drawLen (by omega)
    have fits := sizeOk.2
    intro i past _
    simp only [utilRndGet, drawLen]
    rw [mangleMove_dynamicFile_of_le (by simpa using by omega) (by simpa using by omega)
      (by simpa using by omega)]
    rfl

theorem mangleResize_tailKept (small : run.global.maxFileSz < 2 ^ 63) (sizeOk : SizeOk run) :
    TailKept run (mangleResize o printable run) := by
  have positive := Nat.le_trans sizeOk.1 sizeOk.2
  obtain ⟨s, drawn⟩ := mangleResizeNewsz_snd o run run.dynamicFileSz positive
  rcases switch : mangleResizeNewsz o run.dynamicFileSz run with ⟨newsz, run'⟩
  rw [switch] at drawn
  subst drawn
  have inRange : 1 ≤ clampNewsz run.global.maxFileSz newsz ∧
      clampNewsz run.global.maxFileSz newsz ≤ run.global.maxFileSz := by
    rw [clampNewsz_eq small]
    omega
  have sized : toSizeT (clampNewsz run.global.maxFileSz newsz) =
      (clampNewsz run.global.maxFileSz newsz).toNat := toSizeT_of_lt (by omega) (by omega)
  intro i past after
  simp only [mangleResize, switch, Run.withRnd_global, mangleResizeTo_dynamicFileSz,
    sized] at after ⊢
  rw [mangleResizeTo_dynamicFile o printable _ _ _ (by have := sizeOk.2; omega) (by omega),
    if_neg (by omega)]
  rfl

end Configured

/-! ### The table and the session -/

/-- Every entry of `mangleFuncs` keeps `TailKept`, in both modes, but
`mangle_Magic` (2) in printable mode; an index past the table runs nothing. -/
theorem mangleFuncs_getD_tailKept (choice : Nat) (printable : Bool)
    (plainMagic : choice = 2 → printable = false) (run : Run σ) (small : run.global.maxFileSz < 2 ^ 63)
    (sizeOk : SizeOk run) : TailKept run ((mangleFuncs o).getD choice (fun _ run => run) printable run) := by
  refine mangleFuncs_getD_cases o (P := fun op => ∀ run : Run σ, run.global.maxFileSz < 2 ^ 63 →
    SizeOk run → TailKept run (op run)) choice printable (fun op footprint run small sizeOk => ?_)
    (fun two printing => absurd printing (by simp [plainMagic two]))
    (fun _ => mangleDictionaryInsert_tailKept o printable) (fun _ => mangleExpand_tailKept o printable)
    (fun _ => mangleShrink_tailKept o printable) run small sizeOk
  obtain ⟨e, spec⟩ := footprint run
  exact spec.tailKept sizeOk small

theorem mangleFuncs_tailKept :
    ∀ f ∈ mangleFuncs o, ∀ printable (run : Run σ), run.global.maxFileSz < 2 ^ 63 → SizeOk run →
      (printable = false ∨ f ≠ mangleMagic o) → TailKept run (f printable run) := by
  intro f member printable run small sizeOk notMagic
  obtain ⟨choice, rfl⟩ := mangleFuncs_mem_getD o member
  refine mangleFuncs_getD_tailKept o choice printable (fun two => ?_) run small sizeOk
  subst two
  exact notMagic.resolve_right (absurd rfl)

/-- Outside printable mode an iteration of the loop keeps every byte at or past
`maxFileSz`. -/
theorem mangleChange_capacity (run : Run σ) (small : run.global.maxFileSz < 2 ^ 63) (sizeOk : SizeOk run)
    (plain : run.global.onlyPrintable = false) {i : Nat} (past : run.global.maxFileSz ≤ i) :
    (mangleChange o run).dynamicFile i = run.dynamicFile i := by
  rcases drawChoice : o.rndGet 0 15 run.rnd with ⟨choice, s⟩
  have drawn : SizeOk (run.withRnd s) := sizeOk.of_frame rfl rfl
  rw [mangleChange_eq o run drawChoice, plain]
  exact (mangleFuncs_getD_tailKept o choice false (fun _ => rfl) (run.withRnd s) small drawn).capacity
    drawn (mangleFuncs_getD_sizeOk o choice false _ drawn) (mangleFuncs_getD_global o choice false _) past

theorem mangleChanges_capacity (changesCnt : Nat) (run : Run σ) (small : run.global.maxFileSz < 2 ^ 63)
    (sizeOk : SizeOk run) (plain : run.global.onlyPrintable = false) {i : Nat}
    (past : run.global.maxFileSz ≤ i) :
    (mangleChanges o changesCnt run).dynamicFile i = run.dynamicFile i := by
  induction changesCnt generalizing run with
  | zero => rfl
  | succ changesCnt ih =>
      rw [mangleChanges, ih _ (by simpa using small) (mangleChange_sizeOk o run sizeOk)
        (by simpa using plain) (by simpa using past)]
      exact mangleChange_capacity o run small sizeOk plain past

/-- `mangle_Resize` and every operator of `mangleFuncs` leave the bytes at or
past both sizes as they were, in both modes, except `mangle_Magic` in printable
mode; and a whole session outside printable mode never changes a byte at or past
`maxFileSz`, whatever the oracle draws. -/
theorem mangle_tailKept :
    (∀ printable (run : Run σ), run.global.maxFileSz < 2 ^ 63 → SizeOk run →
      TailKept run (mangleResize o printable run)) ∧
    (∀ f ∈ mangleFuncs o, ∀ printable (run : Run σ), run.global.maxFileSz < 2 ^ 63 → SizeOk run →
      (printable = false ∨ f ≠ mangleMagic o) → TailKept run (f printable run)) ∧
    ∀ run : Run σ, run.global.maxFileSz < 2 ^ 63 → SizeOk run → run.global.onlyPrintable = false →
      ∀ i, run.global.maxFileSz ≤ i → (mangleMangleContent o run).dynamicFile i = run.dynamicFile i := by
  refine ⟨mangleResize_tailKept o, mangleFuncs_tailKept o, ?_⟩
  intro run small sizeOk plain i past
  unfold mangleMangleContent
  split
  · rfl
  · have resized := mangleResize_sizeOk o run.global.onlyPrintable run sizeOk
    simp only [utilRndGet]
    rw [mangleChanges_capacity o _ _ (by simpa using small) (resized.of_frame (by simp) (by simp))
      (by simpa using plain) (by simpa using past)]
    exact (mangleResize_tailKept o _ run small sizeOk).capacity sizeOk resized
      (mangleResize_global o _ run) past

/-- The session on `AB` that shrinks it to one byte, then runs `mangle_Expand`
and `mangle_Bit`, keeps the storage byte at `maxFileSz`. -/
theorem mangle_tailKept_pairRun :
    TailKept (pairRun [9, 2, 13, 0, 1, 0x58, 0, 0, 0])
        (mangleResize tapeOracle false (pairRun [9, 2, 13, 0, 1, 0x58, 0, 0, 0])) ∧
      (mangleMangleContent tapeOracle (pairRun [9, 2, 13, 0, 1, 0x58, 0, 0, 0])).dynamicFile 4 =
        (pairRun [9, 2, 13, 0, 1, 0x58, 0, 0, 0]).dynamicFile 4 :=
  ⟨(mangle_tailKept tapeOracle).1 false _ (by decide) (by decide),
    (mangle_tailKept tapeOracle).2.2 _ (by decide) (by decide) rfl 4 (by decide)⟩

end Honggfuzz.Mangle
