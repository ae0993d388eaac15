import Honggfuzz.Mangle.Footprint

/-!
Printable mode. When every byte of the storage, inside the input and beyond
it, is printable and every dictionary entry is printable text, a session with
`only_printable` set leaves every byte of the storage printable. Both
conditions are needed: `mangle_Dictionary` never passes the printable flag on
and writes an entry's bytes as they are, and `mangle_Inflate` exposes one byte
of the storage past the old end.
-/

namespace Honggfuzz.Mangle

variable {σ : Type} (o : Oracle σ)

/-! ### The buffer primitives -/

section Frame

variable (run : Run σ)

@[simp] theorem allPrintable_check (ok : Prop) [Decidable ok] (f : Fault) :
    AllPrintable (run.check ok f) ↔ AllPrintable run := Iff.rfl
@[simp] theorem allPrintable_withRnd (s : σ) : AllPrintable (run.withRnd s) ↔ AllPrintable run :=
  Iff.rfl
@[simp] theorem allPrintable_inputSetSize (sz : Nat) :
    AllPrintable (inputSetSize sz run) ↔ AllPrintable run := Iff.rfl

end Frame

namespace AllPrintable

variable {run : Run σ}

theorem access (all : AllPrintable run) (off len : Nat) : AllPrintable (run.access off len) := all

theorem overwrite (all : AllPrintable run) {src : List UInt8} {off sz : Nat}
    (fits : sz ≤ src.length) (text : ∀ b ∈ src, Printable b) :
    AllPrintable (mangleOverwrite src off sz run) := by
  intro i
  rw [mangleOverwrite_dynamicFile]
  split_ifs with inside
  · rw [List.getD_eq_getElem _ _ (by omega)]
    exact text _ (List.getElem_mem _)
  · exact all i

theorem move (all : AllPrintable run) (offFrom offTo len : Nat) :
    AllPrintable (mangleMove offFrom offTo len run) := by
  rcases mangleMove_cases offFrom offTo len run with same | ⟨n, same⟩ <;> rw [same]
  · exact all
  · exact (all.access _ _).store fun _ _ => all _

/-- `util_turnToPrintable` leaves its window printable whatever it held. -/
theorem turnToPrintable {off len : Nat}
    (outside : ∀ i, ¬(off ≤ i ∧ i < off + len) → Printable (run.dynamicFile i)) :
    AllPrintable (utilTurnToPrintable off len run) := by
  intro i
  rw [utilTurnToPrintable_dynamicFile]
  split_ifs with inside
  · exact toPrintable_printable _
  · exact outside i inside

theorem inflate (all : AllPrintable run) (off len : Nat) :
    AllPrintable (mangleInflate o off len true run) := by
  unfold mangleInflate
  split
  · exact all
  · simp only [rndBuf, if_true]
    refine AllPrintable.store ?_ fun k _ => o.rndBufPrintable_printable _ _ k
    rw [allPrintable_withRnd]
    exact AllPrintable.move (by simpa using all) _ _ _

end AllPrintable

/-! ### The operators in printable mode -/

section Operators

variable (run : Run σ)

theorem mangleMagic_allPrintable (all : AllPrintable run) :
    AllPrintable (mangleMagic o true run) := by
  simp only [mangleMagic, utilRndGet, Run.lookup, if_true, Run.withRnd_rnd, Run.check_rnd]
  refine AllPrintable.turnToPrintable fun i outside => ?_
  rw [mangleOverwrite_dynamicFile, if_neg (by omega)]
  exact all i

theorem mangleDictionaryInsert_allPrintable (dict : DictPrintable run.global)
    (all : AllPrintable run) : AllPrintable (mangleDictionaryInsert o true run) := by
  unfold mangleDictionaryInsert
  split
  · obtain ⟨e, spec⟩ := mangleBit_footprint o true run
    exact spec.allPrintable rfl dict all
  · simp only [mangleDictionaryInsertNoCheck, utilRndGet, Run.lookup, Run.withRnd_global,
      Run.check_global, Run.withRnd_rnd, Run.check_rnd]
    apply AllPrintable.overwrite (AllPrintable.inflate o (by simpa using all) _ _) (Nat.le_refl _)
    rcases getD_mem_or_eq run.global.dictq
        (o.rndGet 0 (run.global.dictionaryCnt - 1) run.rnd).1 [] with member | fallback
    · exact dict _ member
    · rw [fallback]
      exact nofun

theorem mangleResize_allPrintable (all : AllPrintable run) :
    AllPrintable (mangleResize o true run) := by
  rcases switch : mangleResizeNewsz o run.dynamicFileSz run with ⟨newsz, run'⟩
  have drawn : AllPrintable run' := by
    have same := mangleResizeNewsz_dynamicFile o run run.dynamicFileSz
    rw [switch] at same
    intro i
    rw [same]
    exact all i
  simp only [mangleResize, switch, mangleResizeTo]
  split
  · simp only [rndBuf, if_true]
    exact AllPrintable.store (by simpa using drawn) fun k _ => o.rndBufPrintable_printable _ _ k
  · simpa using drawn

theorem mangleExpand_allPrintable (all : AllPrintable run) :
    AllPrintable (mangleExpand o true run) := by
  simp only [mangleExpand, utilRndGet]
  exact AllPrintable.inflate o (by simpa using all) _ _

theorem mangleShrink_allPrintable (all : AllPrintable run) :
    AllPrintable (mangleShrink o true run) := by
  unfold mangleShrink
  split
  · exact all
  · simp only [utilRndGet]
    exact AllPrintable.move (by simpa using all) _ _ _

end Operators

/-! ### The table and the session -/

/-- In printable mode every entry of `mangleFuncs` keeps the storage printable,
given printable dictionary entries; an index past the table runs nothing. -/
theorem mangleFuncs_getD_allPrintable (choice : Nat) (run : Run σ) (dict : DictPrintable run.global)
    (all : AllPrintable run) : AllPrintable ((mangleFuncs o).getD choice (fun _ run => run) true run) := by
  refine mangleFuncs_getD_cases o (P := fun op => ∀ run : Run σ, DictPrintable run.global →
    AllPrintable run → AllPrintable (op run)) choice true (fun op footprint run dict all => ?_)
    (fun _ _ run _ => mangleMagic_allPrintable o run) (fun _ => mangleDictionaryInsert_allPrintable o)
    (fun _ run _ => mangleExpand_allPrintable o run) (fun _ run _ => mangleShrink_allPrintable o run)
    run dict all
  obtain ⟨e, spec⟩ := footprint run
  exact spec.allPrintable rfl dict all

theorem mangleChange_allPrintable (run : Run σ) (mode : run.global.onlyPrintable = true)
    (dict : DictPrintable run.global) (all : AllPrintable run) :
    AllPrintable (mangleChange o run) := by
  rcases drawChoice : o.rndGet 0 15 run.rnd with ⟨choice, s⟩
  rw [mangleChange_eq o run drawChoice, mode]
  exact mangleFuncs_getD_allPrintable o choice (run.withRnd s) dict all

theorem mangleChanges_allPrintable (changesCnt : Nat) (run : Run σ)
    (mode : run.global.onlyPrintable = true) (dict : DictPrintable run.global)
    (all : AllPrintable run) : AllPrintable (mangleChanges o changesCnt run) := by
  induction changesCnt generalizing run with
  | zero => exact all
  | succ changesCnt ih =>
      exact ih _ (by simpa using mode) (by simpa using dict)
        (mangleChange_allPrintable o run mode dict all)

/-- With `only_printable` set, printable dictionary entries and every byte of
the storage printable, a whole session leaves every byte of the storage
printable, so in particular every byte of the input. -/
theorem mangleMangleContent_allPrintable (run : Run σ) (mode : run.global.onlyPrintable = true)
    (dict : DictPrintable run.global) (all : AllPrintable run) :
    AllPrintable (mangleMangleContent o run) := by
  unfold mangleMangleContent
  split
  · exact all
  · simp only [utilRndGet, mode]
    exact mangleChanges_allPrintable o _ _ (by simpa using mode) (by simpa using dict)
      (by simpa using mangleResize_allPrintable o run all)

/-- The storage all `a` at `maxFileSz = 4` in printable mode with the
dictionary `[AB]`, and a tape that draws `v = 2`, one change, operator 8
(`mangle_DictionaryInsert`), entry 0 and `off = 0`. -/
def textRun : Run (List Nat) where
  global := ⟨4, 1, 1, [[0x41, 0x42]], true, by decide⟩
  dynamicFile _ := 0x61
  dynamicFileSz := 1
  mutationsPerRun := 1
  rnd := [2, 0x62, 0x63, 1, 8, 0, 0]
  fault := none

theorem mangleMangleContent_allPrintable_textRun :
    textRun.global.onlyPrintable = true ∧ DictPrintable textRun.global ∧ AllPrintable textRun ∧
      AllPrintable (mangleMangleContent tapeOracle textRun) := by
  have dict : DictPrintable textRun.global := by
    unfold DictPrintable
    decide
  have all : AllPrintable textRun := fun _ => show Printable 0x61 by decide
  exact ⟨rfl, dict, all, mangleMangleContent_allPrintable tapeOracle textRun rfl dict all⟩

/-- The input `A` at `maxFileSz = 1` in printable mode with the dictionary
`[[0x00]]`, and a tape that draws `v = 0` and `r = 1` for `mangle_Resize`, one
change, operator 7 (`mangle_Dictionary`), `off = 0` and entry 0. -/
def dictRun : Run (List Nat) where
  global := ⟨1, 1, 1, [[0x00]], true, by decide⟩
  dynamicFile _ := 0x41
  dynamicFileSz := 1
  mutationsPerRun := 1
  rnd := [0, 1, 1, 7, 0, 0]
  fault := none

set_option maxRecDepth 100000 in
/-- A printable input in printable mode ends with the byte `0x00`:
`mangle_Dictionary` writes the entry as it is. -/
theorem mangleMangleContent_dictionary_unprintable :
    dictRun.global.onlyPrintable = true ∧ SizeOk dictRun ∧
      (∀ i < dictRun.dynamicFileSz, Printable (dictRun.dynamicFile i)) ∧
      0 < (mangleMangleContent tapeOracle dictRun).dynamicFileSz ∧
      ¬Printable ((mangleMangleContent tapeOracle dictRun).dynamicFile 0) := by
  decide

end Honggfuzz.Mangle
