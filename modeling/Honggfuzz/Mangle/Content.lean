import Honggfuzz.Mangle.Operators
import Honggfuzz.Mangle.AddSub

/-!
A mutation session, `mangle_mangleContent`: `mangle_Resize`, then a drawn
number of operators, each drawn from the table `mangleFuncs`.
-/

namespace Honggfuzz.Mangle

variable {σ : Type} (o : Oracle σ)

/-- The table `mangleFuncs`, in the source's order. -/
def mangleFuncs : List (Bool → Run σ → Run σ) :=
  [mangleBit o, mangleBytes o, mangleMagic o, mangleIncByte o, mangleDecByte o, mangleNegByte o,
    mangleAddSub o, mangleDictionary o, mangleDictionaryInsert o, mangleMemMove o, mangleMemSet o,
    mangleRandom o, mangleCloneByte o, mangleExpand o, mangleShrink o, mangleASCIIVal o]

theorem mangleFuncs_length : (mangleFuncs o).length = 16 := rfl

/-- One iteration of the loop: draw an index into `mangleFuncs` and run that
operator with `cfg.only_printable`. -/
def mangleChange (run : Run σ) : Run σ :=
  let (choice, run) := utilRndGet o 0 ((mangleFuncs o).length - 1) run
  let (func, run) := run.lookup (mangleFuncs o) choice fun _ run => run
  func run.global.onlyPrintable run

/-- `changesCnt` iterations of the loop. -/
def mangleChanges : Nat → Run σ → Run σ
  | 0, run => run
  | changesCnt + 1, run => mangleChanges changesCnt (mangleChange o run)

/-- `mangle_mangleContent`. -/
def mangleMangleContent (run : Run σ) : Run σ :=
  if run.mutationsPerRun = 0 then run
  else
    let run := mangleResize o run.global.onlyPrintable run
    let (changesCnt, run) := utilRndGet o 1 run.global.mutationsPerRun run
    mangleChanges o changesCnt run

/-- The indices into `mangleFuncs` that `changesCnt` iterations of the loop
draw, one before each operator runs. -/
def mangleChoices : Nat → Run σ → List Nat
  | 0, _ => []
  | changesCnt + 1, run =>
    (o.rndGet 0 ((mangleFuncs o).length - 1) run.rnd).1 :: mangleChoices changesCnt (mangleChange o run)

/-- The indices into `mangleFuncs` a session draws, in the order it runs them. -/
def mangleMangleContentChoices (run : Run σ) : List Nat :=
  if run.mutationsPerRun = 0 then []
  else
    let run := mangleResize o run.global.onlyPrintable run
    let (changesCnt, run) := utilRndGet o 1 run.global.mutationsPerRun run
    mangleChoices o changesCnt run

/-- With its index drawn, an iteration of the loop runs that entry of the table,
or nothing past its end, with the run's `only_printable`. -/
theorem mangleChange_eq (run : Run σ) {choice : Nat} {s : σ}
    (drawChoice : o.rndGet 0 15 run.rnd = (choice, s)) :
    mangleChange o run =
      (mangleFuncs o).getD choice (fun _ run => run) run.global.onlyPrintable (run.withRnd s) := by
  have inTable : choice < 16 := Nat.lt_succ_of_le (o.draw_mem drawChoice (Nat.zero_le 15)).2
  simp only [mangleChange, utilRndGet, mangleFuncs_length, drawChoice, Run.lookup, Run.check_global,
    Run.withRnd_global, Run.check_pos (Nat.zero_le 15), Run.check_pos inTable]

@[simp] theorem mangleChoices_zero (run : Run σ) : mangleChoices o 0 run = [] := rfl

@[simp] theorem mangleChoices_succ (changesCnt : Nat) (run : Run σ) :
    mangleChoices o (changesCnt + 1) run =
      (o.rndGet 0 15 run.rnd).1 :: mangleChoices o changesCnt (mangleChange o run) := rfl

/-- An active session is `mangle_Resize`, the draw of `changesCnt`, and that
many iterations of the loop, which draw `mangleChoices`. -/
theorem mangleMangleContent_of_active (run : Run σ) (active : run.mutationsPerRun ≠ 0) :
    let resized := mangleResize o run.global.onlyPrintable run
    let drawn := utilRndGet o 1 resized.global.mutationsPerRun resized
    mangleMangleContent o run = mangleChanges o drawn.1 drawn.2 ∧
      mangleMangleContentChoices o run = mangleChoices o drawn.1 drawn.2 :=
  ⟨if_neg active, if_neg active⟩

/-- With a configured bound of at least 1, the loop of an active session runs
between one and `mutationsPerRun` changes from the state `mangle_Resize` left,
with the oracle moved on. -/
theorem mangleMangleContent_eq (run : Run σ) (active : run.mutationsPerRun ≠ 0)
    (bound : 1 ≤ run.global.mutationsPerRun) :
    ∃ changesCnt s, 1 ≤ changesCnt ∧ changesCnt ≤ run.global.mutationsPerRun ∧
      mangleMangleContent o run =
        mangleChanges o changesCnt ((mangleResize o run.global.onlyPrintable run).withRnd s) ∧
      mangleMangleContentChoices o run =
        mangleChoices o changesCnt ((mangleResize o run.global.onlyPrintable run).withRnd s) := by
  rcases drawCnt : o.rndGet 1 run.global.mutationsPerRun
      (mangleResize o run.global.onlyPrintable run).rnd with ⟨changesCnt, s⟩
  have cntIn := o.draw_mem drawCnt bound
  obtain ⟨session, choices⟩ := mangleMangleContent_of_active o run active
  simp only [utilRndGet, mangleResize_global, drawCnt, Run.check_pos bound] at session choices
  exact ⟨changesCnt, s, cntIn.1, cntIn.2, session, choices⟩

/-! ### Frame lemmas -/

theorem mangleFuncs_global :
    ∀ f ∈ mangleFuncs o, ∀ printable (run : Run σ), (f printable run).global = run.global := by
  simp only [mangleFuncs, List.mem_cons, List.mem_singleton, List.not_mem_nil, or_false]
  rintro f (rfl | rfl | rfl | rfl | rfl | rfl | rfl | rfl | rfl | rfl | rfl | rfl | rfl | rfl | rfl |
    rfl) printable run <;> simp [mangleIncByte, mangleDecByte, mangleNegByte]

theorem mangleFuncs_getD_global (choice : Nat) (printable : Bool) (run : Run σ) :
    ((mangleFuncs o).getD choice (fun _ run => run) printable run).global = run.global := by
  rcases getD_mem_or_eq (mangleFuncs o) choice (fun _ run => run) with member | fallback
  · exact mangleFuncs_global o _ member printable run
  · rw [fallback]

/-- An entry of `mangleFuncs` is the one at its index. -/
theorem mangleFuncs_mem_getD {f : Bool → Run σ → Run σ} (member : f ∈ mangleFuncs o) :
    ∃ choice, f = (mangleFuncs o).getD choice (fun _ run => run) := by
  obtain ⟨choice, inTable, rfl⟩ := List.getElem_of_mem member
  exact ⟨choice, (List.getD_eq_getElem _ _ inTable).symm⟩

@[simp] theorem mangleChange_global (run : Run σ) : (mangleChange o run).global = run.global := by
  rcases drawChoice : o.rndGet 0 15 run.rnd with ⟨choice, s⟩
  rw [mangleChange_eq o run drawChoice]
  exact mangleFuncs_getD_global o choice _ _

@[simp] theorem mangleChanges_global (changesCnt : Nat) (run : Run σ) :
    (mangleChanges o changesCnt run).global = run.global := by
  induction changesCnt generalizing run with
  | zero => rfl
  | succ changesCnt ih => simp [mangleChanges, ih]

end Honggfuzz.Mangle
