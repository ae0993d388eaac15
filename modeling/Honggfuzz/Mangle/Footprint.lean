import Honggfuzz.Mangle.Effect
import Honggfuzz.Mangle.Content
import Honggfuzz.Mangle.ASCIIVal

/-!
The footprint of each operator of `mangleFuncs` that keeps the size: the effect
it performs once its draws are made, read off its C body. `mangle_Magic` has
one outside printable mode only, where it writes no more than the input holds;
`mangle_DictionaryInsert`, `mangle_Expand` and `mangle_Shrink` change the size
and are treated on their own by each later module.
-/

namespace Honggfuzz.Mangle

variable {σ : Type} (o : Oracle σ)

/-! ### One byte at a drawn offset -/

theorem mangleBit_footprint (printable : Bool) :
    Footprint (mangleBit o printable) (printable = true) := by
  intro run
  rcases drawOff : o.rndGet 0 (run.dynamicFileSz - 1) run.rnd with ⟨off, s₁⟩
  rcases drawBit : o.rndGet 0 7 s₁ with ⟨bit, s₂⟩
  have offIn := o.draw_mem drawOff (Nat.zero_le _)
  have acts (b : Run σ) (agree : Agree run b) (byte : b.dynamicFile off = run.dynamicFile off) :
      mangleBit o printable b = b.perform ⟨s₂, none, [⟨off, 1, fun _ =>
        if printable then toPrintable (run.dynamicFile off ^^^ UInt8.ofNat (1 <<< bit))
        else run.dynamicFile off ^^^ UInt8.ofNat (1 <<< bit)⟩]⟩ := by
    cases printable <;>
      simp only [mangleBit, utilRndGet, ← agree.size, ← agree.rnd, drawOff, Run.withRnd_rnd,
        Run.check_rnd, drawBit, Run.check_pos (Nat.zero_le (run.dynamicFileSz - 1)),
        Run.check_pos (Nat.zero_le 7), Run.withRnd_withRnd, Run.withRnd_dynamicFile,
        Run.check_dynamicFile, byte, Run.perform, Run.fail_none, Run.writeAll, if_true,
        Bool.false_eq_true, if_false, utilTurnToPrintable_store]
  refine ⟨_, acts run (AgreeTo.refl _ run) rfl, fun printing _ _ => ?_,
    fun sizeOk _ => Effect.inside_single (by have := sizeOk.1; omega),
    fun sizeOk _ b agree => acts b agree (agree.bytes off (show off < run.dynamicFileSz by
      have := sizeOk.1; omega)).symm, fun _ _ => rfl⟩
  subst printing
  exact Effect.printableStores_single fun _ _ => toPrintable_printable _

theorem mangleByteOp_footprint (printableOp plainOp : UInt8 → UInt8)
    (keeps : ∀ b, Printable b → Printable (printableOp b)) (printable : Bool) :
    Footprint (mangleByteOp o printableOp plainOp printable) (printable = true) := by
  intro run
  rcases drawOff : o.rndGet 0 (run.dynamicFileSz - 1) run.rnd with ⟨off, s₁⟩
  have offIn := o.draw_mem drawOff (Nat.zero_le _)
  have acts (b : Run σ) (agree : Agree run b) (byte : b.dynamicFile off = run.dynamicFile off) :
      mangleByteOp o printableOp plainOp printable b = b.perform ⟨s₁, none, [⟨off, 1, fun _ =>
        if printable then printableOp (run.dynamicFile off) else plainOp (run.dynamicFile off)⟩]⟩ := by
    simp only [mangleByteOp, utilRndGet, ← agree.size, ← agree.rnd, drawOff,
      Run.check_pos (Nat.zero_le (run.dynamicFileSz - 1)), Run.withRnd_dynamicFile,
      Run.check_dynamicFile, byte, Run.perform, Run.fail_none, Run.writeAll]
  refine ⟨_, acts run (AgreeTo.refl _ run) rfl, fun printing all _ => ?_,
    fun sizeOk _ => Effect.inside_single (by have := sizeOk.1; omega),
    fun sizeOk _ b agree => acts b agree (agree.bytes off (show off < run.dynamicFileSz by
      have := sizeOk.1; omega)).symm, fun _ _ => rfl⟩
  subst printing
  exact Effect.printableStores_single fun _ _ => keeps _ (all off)

theorem mangleIncByte_footprint (printable : Bool) :
    Footprint (mangleIncByte o printable) (printable = true) :=
  mangleByteOp_footprint o _ _ (fun _ => incPrintable_printable) printable

theorem mangleDecByte_footprint (printable : Bool) :
    Footprint (mangleDecByte o printable) (printable = true) :=
  mangleByteOp_footprint o _ _ (fun _ => decPrintable_printable) printable

theorem mangleNegByte_footprint (printable : Bool) :
    Footprint (mangleNegByte o printable) (printable = true) :=
  mangleByteOp_footprint o _ _ (fun _ => negPrintable_printable) printable

/-- The swap reads both bytes before it writes either; touching `off2` first
is its one check. -/
theorem mangleCloneByte_footprint (printable : Bool) :
    Footprint (mangleCloneByte o printable) (printable = true) := by
  intro run
  rcases drawOff₁ : o.rndGet 0 (run.dynamicFileSz - 1) run.rnd with ⟨off₁, s₁⟩
  rcases drawOff₂ : o.rndGet 0 (run.dynamicFileSz - 1) s₁ with ⟨off₂, s₂⟩
  have off₁In := o.draw_mem drawOff₁ (Nat.zero_le _)
  have off₂In := o.draw_mem drawOff₂ (Nat.zero_le _)
  have acts (b : Run σ) (agree : Agree run b) (byte₁ : b.dynamicFile off₁ = run.dynamicFile off₁)
      (byte₂ : b.dynamicFile off₂ = run.dynamicFile off₂) :
      mangleCloneByte o printable b = b.perform ⟨s₂,
        if 1 = 0 ∨ off₂ + 1 ≤ run.dynamicFileSz then none
        else some (.outOfBounds off₂ 1 run.dynamicFileSz),
        [⟨off₁, 1, fun _ => run.dynamicFile off₂⟩, ⟨off₂, 1, fun _ => run.dynamicFile off₁⟩]⟩ := by
    simp only [mangleCloneByte, utilRndGet, ← agree.size, ← agree.rnd, drawOff₁, Run.withRnd_rnd,
      Run.check_rnd, Run.withRnd_dynamicFileSz, Run.check_dynamicFileSz, drawOff₂,
      Run.check_pos (Nat.zero_le (run.dynamicFileSz - 1)), Run.withRnd_withRnd, Run.access,
      Run.check_eq_fail, Run.withRnd_dynamicFile, Run.check_dynamicFile, Run.fail_dynamicFile,
      byte₁, byte₂, Run.perform, Run.writeAll]
  refine ⟨_, acts run (AgreeTo.refl _ run) rfl rfl, fun _ all _ w mem k _ => ?_,
    fun sizeOk _ w mem => ?_, fun sizeOk _ b agree =>
      acts b agree (agree.bytes off₁ (show off₁ < run.dynamicFileSz by have := sizeOk.1; omega)).symm
        (agree.bytes off₂ (show off₂ < run.dynamicFileSz by have := sizeOk.1; omega)).symm,
    fun sizeOk _ => if_pos (.inr (by have := sizeOk.1; omega))⟩
  · rcases List.mem_pair.1 mem with rfl | rfl <;> exact all _
  · have := sizeOk.1
    rcases List.mem_pair.1 mem with rfl | rfl <;> dsimp only <;> omega

/-! ### Windows from a drawn offset -/

/-- The length draw `util_rndGet(1, size - off)` is the one check. -/
theorem mangleMemSetWithVal_footprint (val : Nat) :
    Footprint (mangleMemSetWithVal o val) (Printable (UInt8.ofNat val)) := by
  intro run
  rcases drawOff : o.rndGet 0 (run.dynamicFileSz - 1) run.rnd with ⟨off, s₁⟩
  rcases drawSz : o.rndGet 1 (run.dynamicFileSz - off) s₁ with ⟨sz, s₂⟩
  have offIn := o.draw_mem drawOff (Nat.zero_le _)
  have acts (b : Run σ) (agree : Agree run b) :
      mangleMemSetWithVal o val b = b.perform ⟨s₂,
        if 1 ≤ run.dynamicFileSz - off then none
        else some (.emptyRange 1 (run.dynamicFileSz - off)),
        [⟨off, sz, fun _ => UInt8.ofNat val⟩]⟩ := by
    simp only [mangleMemSetWithVal, utilRndGet, ← agree.size, ← agree.rnd, drawOff,
      Run.withRnd_rnd, Run.check_rnd, Run.withRnd_dynamicFileSz, Run.check_dynamicFileSz, drawSz,
      Run.check_pos (Nat.zero_le (run.dynamicFileSz - 1)), Run.check_eq_fail, Run.withRnd_fail,
      Run.withRnd_withRnd, Run.perform, Run.writeAll]
  refine ⟨_, acts run (AgreeTo.refl _ run), fun printing _ _ =>
      Effect.printableStores_single fun _ _ => printing,
    fun sizeOk _ => Effect.inside_single ?_, fun _ _ => acts, fun sizeOk _ => if_pos ?_⟩
  all_goals
    have := sizeOk.1
    have szIn := o.draw_mem drawSz (by omega)
    omega

/-- `mangle_MemSet` draws the value, a printable byte in printable mode. -/
theorem mangleMemSet_footprint (printable : Bool) :
    Footprint (mangleMemSet o printable) (printable = true) := by
  intro run
  cases printable
  · rcases drawVal : o.rndGet 0 255 run.rnd with ⟨val, s⟩
    obtain ⟨e, spec⟩ := mangleMemSetWithVal_footprint o val (run.withRnd s)
    refine ⟨e, (spec.afterDraw fun b agree => ?_).mono nofun⟩
    simp only [mangleMemSet, utilRndGet, ← agree.rnd, drawVal, Bool.false_eq_true, if_false,
      Run.check_pos (Nat.zero_le 255)]
  · rcases drawVal : o.rndPrintable run.rnd with ⟨byte, s⟩
    obtain ⟨e, spec⟩ := mangleMemSetWithVal_footprint o byte.toNat (run.withRnd s)
    refine ⟨e, (spec.afterDraw fun b agree => ?_).mono fun _ => ?_⟩
    · simp only [mangleMemSet, utilRndPrintable, ← agree.rnd, drawVal, if_true]
    · have printable := o.rndPrintable_printable run.rnd
      rw [drawVal] at printable
      unfold Printable at printable ⊢
      rw [UInt8.toNat_ofNat_of_lt (UInt8.toNat_lt_size _)]
      exact printable

theorem mangleRandom_footprint (printable : Bool) :
    Footprint (mangleRandom o printable) (printable = true) := by
  intro run
  rcases drawOff : o.rndGet 0 (run.dynamicFileSz - 1) run.rnd with ⟨off, s₁⟩
  rcases drawLen : o.rndGet 1 (run.dynamicFileSz - off) s₁ with ⟨len, s₂⟩
  rcases drawBuf : (if printable then o.rndBufPrintable len s₂ else o.rndBuf len s₂) with ⟨buf, s₃⟩
  have offIn := o.draw_mem drawOff (Nat.zero_le _)
  have acts (b : Run σ) (agree : Agree run b) :
      mangleRandom o printable b = b.perform ⟨s₃,
        if 1 ≤ run.dynamicFileSz - off then none
        else some (.emptyRange 1 (run.dynamicFileSz - off)),
        [⟨off, len, buf⟩]⟩ := by
    simp only [mangleRandom, utilRndGet, rndBuf, ← agree.size, ← agree.rnd, drawOff,
      Run.withRnd_rnd, Run.check_rnd, Run.withRnd_dynamicFileSz, Run.check_dynamicFileSz, drawLen,
      Run.check_pos (Nat.zero_le (run.dynamicFileSz - 1)), Run.check_eq_fail, Run.fail_rnd,
      drawBuf, Run.withRnd_fail, Run.withRnd_withRnd, Run.perform, Run.writeAll]
  refine ⟨_, acts run (AgreeTo.refl _ run), fun printing _ _ => ?_,
    fun sizeOk _ => Effect.inside_single ?_, fun _ _ => acts, fun sizeOk _ => if_pos ?_⟩
  · subst printing
    rw [if_pos rfl] at drawBuf
    refine Effect.printableStores_single fun k _ => ?_
    have printable := o.rndBufPrintable_printable len s₂ k
    rwa [drawBuf] at printable
  all_goals
    have := sizeOk.1
    have lenIn := o.draw_mem drawLen (by omega)
    omega

/-! ### Sources of a known length -/

/-- `mangle_Bytes` writes `min toCopy (size - off)` of its eight fresh bytes. -/
theorem mangleBytes_footprint (printable : Bool) :
    Footprint (mangleBytes o printable) (printable = true) := by
  intro run
  rcases drawOff : o.rndGet 0 (run.dynamicFileSz - 1) run.rnd with ⟨off, s₁⟩
  rcases drawBuf : (if printable then o.rndBufPrintable 8 s₁ else o.rndBuf 8 s₁) with ⟨buf, s₂⟩
  rcases drawCopy : o.rndGet 1 8 s₂ with ⟨toCopy, s₃⟩
  have offIn := o.draw_mem drawOff (Nat.zero_le _)
  have copyIn := o.draw_mem drawCopy (by decide)
  have acts (b : Run σ) (agree : Agree run b) :
      mangleBytes o printable b = b.perform ⟨s₃, none, [⟨off, min toCopy (run.dynamicFileSz - off),
        fun k => ((List.range 8).map buf).getD k 0⟩]⟩ := by
    simp only [mangleBytes, utilRndGet, rndBuf, ← agree.size, ← agree.rnd, drawOff, Run.withRnd_rnd,
      Run.check_rnd, drawBuf, drawCopy, Run.check_pos (Nat.zero_le (run.dynamicFileSz - 1)),
      Run.check_pos (show 1 ≤ 8 by decide), Run.withRnd_withRnd,
      mangleOverwrite_eq _ _ _ _ (show toCopy ≤ ((List.range 8).map buf).length by simpa using copyIn.2),
      Run.withRnd_dynamicFileSz, Run.perform, Run.fail_none, Run.writeAll]
  refine ⟨_, acts run (AgreeTo.refl _ run), fun printing _ _ => ?_,
    fun _ _ => Effect.inside_single (by omega), fun _ _ => acts, fun _ _ => rfl⟩
  subst printing
  rw [if_pos rfl] at drawBuf
  refine Effect.printableStores_single fun k inside => ?_
  rw [List.getD_eq_getElem _ _ (by simp only [List.length_map, List.length_range]; omega),
    List.getElem_map, List.getElem_range]
  have printable := o.rndBufPrintable_printable 8 s₁ k
  rwa [drawBuf] at printable

/-- `mangle_ASCIIVal` writes as much of its decimal text as the input holds from `off`. -/
theorem mangleASCIIVal_footprint (printable : Bool) :
    Footprint (mangleASCIIVal o printable) (printable = true) := by
  intro run
  rcases drawR : o.rnd64 run.rnd with ⟨r, s₀⟩
  rcases drawOff : o.rndGet 0 (run.dynamicFileSz - 1) s₀ with ⟨off, s₁⟩
  have offIn := o.draw_mem drawOff (Nat.zero_le _)
  have acts (b : Run σ) (agree : Agree run b) :
      mangleASCIIVal o printable b = b.perform ⟨s₁, none,
        [⟨off, min (formatInt64 (toInt64 r)).length (run.dynamicFileSz - off),
          fun k => (formatInt64 (toInt64 r)).getD k 0⟩]⟩ := by
    simp only [mangleASCIIVal, utilRnd64, utilRndGet, ← agree.size, ← agree.rnd, drawR,
      Run.withRnd_rnd, Run.withRnd_dynamicFileSz, drawOff,
      Run.check_pos (Nat.zero_le (run.dynamicFileSz - 1)), Run.withRnd_withRnd,
      mangleOverwrite_eq _ _ _ _ (Nat.le_refl _), Run.perform, Run.fail_none, Run.writeAll]
  refine ⟨_, acts run (AgreeTo.refl _ run), fun _ _ _ => Effect.printableStores_single fun k inside => ?_,
    fun _ _ => Effect.inside_single (by omega), fun _ _ => acts, fun _ _ => rfl⟩
  rw [List.getD_eq_getElem _ _ (by omega)]
  exact formatInt64_printable _ _ (List.getElem_mem _)

/-- Outside printable mode `mangle_Magic` writes the entry, clamped to the input. -/
theorem mangleMagic_footprint : Footprint (mangleMagic o false) False := by
  intro run
  rcases drawOff : o.rndGet 0 (run.dynamicFileSz - 1) run.rnd with ⟨off, s₁⟩
  rcases drawChoice : o.rndGet 0 (mangleMagicVals.length - 1) s₁ with ⟨choice, s₂⟩
  have offIn := o.draw_mem drawOff (Nat.zero_le _)
  have acts (b : Run σ) (agree : Agree run b) :
      mangleMagic o false b = b.perform ⟨s₂, none,
        [⟨off, min (mangleMagicVals.getD choice ⟨[], 0⟩).size (run.dynamicFileSz - off),
          fun k => (mangleMagicVals.getD choice ⟨[], 0⟩).val.getD k 0⟩]⟩ := by
    rw [mangleMagic_eq o false b (by rw [← agree.size, ← agree.rnd]; exact drawOff) drawChoice]
    simp only [Bool.false_eq_true, if_false, mangleOverwrite_eq _ _ _ _ (mangleMagicVals_size_le choice),
      Run.withRnd_dynamicFileSz, ← agree.size, Run.perform, Run.fail_none, Run.writeAll]
  exact ⟨_, acts run (AgreeTo.refl _ run), nofun, fun _ _ => Effect.inside_single (by omega),
    fun _ _ => acts, fun _ _ => rfl⟩

/-- The walk to the drawn entry is the one check of `mangle_DictionaryNoCheck`,
which its caller runs only with a nonempty dictionary. -/
theorem mangleDictionaryNoCheck_footprintAt (run : Run σ) (nonempty : run.global.dictionaryCnt ≠ 0) :
    ∃ e, FootprintAt (mangleDictionaryNoCheck o) True run e := by
  rcases drawOff : o.rndGet 0 (run.dynamicFileSz - 1) run.rnd with ⟨off, s₁⟩
  rcases drawChoice : o.rndGet 0 (run.global.dictionaryCnt - 1) s₁ with ⟨choice, s₂⟩
  have offIn := o.draw_mem drawOff (Nat.zero_le _)
  have choiceIn := o.draw_mem drawChoice (Nat.zero_le _)
  have acts (b : Run σ) (agree : Agree run b) :
      mangleDictionaryNoCheck o b = b.perform ⟨s₂,
        if choice < run.global.dictq.length then none
        else some (.indexOverrun choice run.global.dictq.length),
        [⟨off, min (run.global.dictq.getD choice []).length (run.dynamicFileSz - off),
          fun k => (run.global.dictq.getD choice []).getD k 0⟩]⟩ := by
    simp only [mangleDictionaryNoCheck, utilRndGet, Run.lookup, ← agree.size, ← agree.rnd,
      ← agree.global, drawOff, Run.withRnd_rnd, Run.check_rnd, Run.withRnd_global, Run.check_global,
      drawChoice, Run.check_pos (Nat.zero_le (run.dynamicFileSz - 1)),
      Run.check_pos (Nat.zero_le (run.global.dictionaryCnt - 1)), Run.withRnd_withRnd,
      mangleOverwrite_eq _ _ _ _ (Nat.le_refl _), Run.check_dynamicFileSz,
      Run.withRnd_dynamicFileSz, Run.perform, Run.writeAll]
    rw [Run.check_eq_fail]
  refine ⟨_, acts run (AgreeTo.refl _ run), fun _ _ dict => Effect.printableStores_single fun k inside => ?_,
    fun _ _ => Effect.inside_single (by omega), fun _ _ => acts, fun _ config => if_pos ?_⟩
  · have inEntry : k < (run.global.dictq.getD choice []).length := by omega
    rw [List.getD_eq_getElem _ _ inEntry]
    rcases getD_mem_or_eq run.global.dictq choice [] with member | fallback
    · exact dict _ member _ (List.getElem_mem _)
    · exact absurd inEntry (by rw [fallback]; exact Nat.not_lt_zero k)
  · have := config.dictionary
    omega

theorem mangleDictionary_footprint (printable : Bool) :
    Footprint (mangleDictionary o printable) (printable = true) := by
  intro run
  by_cases empty : run.global.dictionaryCnt = 0
  · obtain ⟨e, spec⟩ := mangleBit_footprint o printable run
    exact ⟨e, spec.congr fun b agree => by rw [mangleDictionary, ← agree.global, if_pos empty]⟩
  · obtain ⟨e, spec⟩ := mangleDictionaryNoCheck_footprintAt o run empty
    exact ⟨e, (spec.mono fun _ => trivial).congr fun b agree => by
      rw [mangleDictionary, ← agree.global, if_neg empty]⟩

/-! ### Words and moves -/

/-- With its draws named, `mangle_AddSubWithRange` on a byte, or on a word that
fits the input, stores the expected bytes. -/
theorem mangleAddSubWithRange_eq_perform (off w : Nat) (run : Run σ) {d : Nat} {coin : UInt64}
    {s₁ s₂ : σ} (width : w = 1 ∨ (w = 2 ∨ w = 4 ∨ w = 8) ∧ off + w ≤ run.dynamicFileSz)
    (drawDelta : o.rndGet 0 8192 run.rnd = (d, s₁)) (drawCoin : o.rnd64 s₁ = (coin, s₂)) :
    mangleAddSubWithRange o off w run = run.perform ⟨if w = 1 then s₁ else s₂, none,
      [⟨off, w, fun k =>
        (addSubExpected w ((List.range w).map fun k => run.dynamicFile (off + k)) (d - 4096) coin).getD
          k 0⟩]⟩ := by
  rcases width with rfl | ⟨word, fits⟩
  · simp only [mangleAddSubWithRange, utilRndGet, drawDelta, if_true, Run.check_pos (Nat.zero_le 8192),
      Run.withRnd_dynamicFile, Run.check_dynamicFile, Run.perform, Run.fail_none, Run.writeAll]
    refine Run.store_congr _ fun k below => ?_
    obtain rfl : k = 0 := by omega
    simp [addSubExpected, toUInt8]
  · have byte : w ≠ 1 := by omega
    simp only [mangleAddSubWithRange, utilRndGet, drawDelta, if_neg byte, if_pos word, utilRnd64,
      Run.access, Run.withRnd_rnd, Run.check_rnd, drawCoin, Run.check_pos (Nat.zero_le 8192),
      Run.withRnd_dynamicFileSz, Run.check_dynamicFileSz, Run.check_pos (Or.inr fits),
      Run.withRnd_dynamicFile, Run.check_dynamicFile, Run.withRnd_withRnd]
    rw [mangleOverwrite_eq _ _ _ _ (by simp), leBytes_addSub _ _ _ _ byte (by simp)]
    simp only [Run.withRnd_dynamicFileSz, Nat.min_eq_left (show w ≤ run.dynamicFileSz - off by omega),
      Run.perform, if_neg byte, Run.fail_none, Run.writeAll]

/-- `mangle_AddSub` stores the expected bytes of its word, made printable in
printable mode; it reads only the word. -/
theorem mangleAddSub_footprint (printable : Bool) :
    Footprint (mangleAddSub o printable) (printable = true) := by
  intro run
  rcases drawOff : o.rndGet 0 (run.dynamicFileSz - 1) run.rnd with ⟨off, s₁⟩
  rcases drawExp : o.rndGet 0 3 s₁ with ⟨ex, s₂⟩
  rcases drawDelta : o.rndGet 0 8192 s₂ with ⟨d, s₃⟩
  rcases drawCoin : o.rnd64 s₃ with ⟨coin, s₄⟩
  have offIn := (o.draw_mem drawOff (Nat.zero_le _)).2
  have width := addSubWidth_cases offIn (o.draw_mem drawExp (by decide)).2
  dsimp only at width
  generalize hw : (if 2 ^ ex ≤ run.dynamicFileSz - off then 2 ^ ex else 1) = w at width
  have acts (b : Run σ) (agree : Agree run b)
      (window : (List.range w).map (fun k => b.dynamicFile (off + k)) =
        (List.range w).map (fun k => run.dynamicFile (off + k))) :
      mangleAddSub o printable b = b.perform ⟨if w = 1 then s₃ else s₄, none, [⟨off, w, fun k =>
        if printable then
          toPrintable ((addSubExpected w ((List.range w).map fun k => run.dynamicFile (off + k))
            (d - 4096) coin).getD k 0)
        else (addSubExpected w ((List.range w).map fun k => run.dynamicFile (off + k))
            (d - 4096) coin).getD k 0⟩]⟩ := by
    have width' : w = 1 ∨ (w = 2 ∨ w = 4 ∨ w = 8) ∧ off + w ≤ (b.withRnd s₂).dynamicFileSz := by
      rw [Run.withRnd_dynamicFileSz, ← agree.size]
      exact width
    rw [mangleAddSub_eq o printable b (by rw [← agree.size, ← agree.rnd]; exact drawOff) drawExp]
    simp only [← agree.size, hw]
    rw [mangleAddSubWithRange_eq_perform o off w (b.withRnd s₂) width' drawDelta drawCoin]
    cases printable <;>
      simp only [Run.perform, Run.fail_none, Run.writeAll, Run.withRnd_withRnd,
        Run.withRnd_dynamicFile, window, if_true, Bool.false_eq_true, if_false,
        utilTurnToPrintable_store]
  have fits (sizeOk : SizeOk run) : off + w ≤ run.dynamicFileSz := by
    have := sizeOk.1
    omega
  refine ⟨_, acts run (AgreeTo.refl _ run) rfl, fun printing _ _ => ?_,
    fun sizeOk _ => Effect.inside_single (fits sizeOk), fun sizeOk _ b agree => acts b agree
      (List.map_congr_left fun k inside => (agree.bytes _ (show off + k < run.dynamicFileSz by
        have := fits sizeOk; simp only [List.mem_range] at inside; omega)).symm), fun _ _ => rfl⟩
  subst printing
  exact Effect.printableStores_single fun _ _ => toPrintable_printable _

/-- `mangle_MemMove` copies `moveLen` bytes within the input when both offsets
lie in it and the size fits `ssize_t`, and does nothing when an offset lies past
the input; only a size past `ssize_t` leaves its clamps and its check open. -/
theorem mangleMemMove_footprint (printable : Bool) :
    Footprint (mangleMemMove o printable) (printable = true) := by
  intro run
  rcases drawFrom : o.rndGet 0 (run.dynamicFileSz - 1) run.rnd with ⟨offFrom, s₁⟩
  rcases drawTo : o.rndGet 0 (run.dynamicFileSz - 1) s₁ with ⟨offTo, s₂⟩
  rcases drawLen : o.rndGet 0 run.dynamicFileSz s₂ with ⟨len, s₃⟩
  have lenIn := o.draw_mem drawLen (Nat.zero_le _)
  have drawn (b : Run σ) (agree : Agree run b) :
      mangleMemMove o printable b = mangleMove offFrom offTo len (b.withRnd s₃) := by
    simp only [mangleMemMove, utilRndGet, ← agree.size, ← agree.rnd, drawFrom, Run.withRnd_rnd,
      Run.check_rnd, Run.withRnd_dynamicFileSz, Run.check_dynamicFileSz, drawTo, drawLen,
      Run.check_pos (Nat.zero_le (run.dynamicFileSz - 1)), Run.check_pos (Nat.zero_le run.dynamicFileSz),
      Run.withRnd_withRnd]
  by_cases moves : offFrom < run.dynamicFileSz ∧ offTo < run.dynamicFileSz ∧ run.dynamicFileSz < 2 ^ 63
  · obtain ⟨fromIn, toIn, small⟩ := moves
    have acts (b : Run σ) (agree : Agree run b)
        (bytes : ∀ k < moveLen run.dynamicFileSz offFrom offTo len,
          b.dynamicFile (offFrom + k) = run.dynamicFile (offFrom + k)) :
        mangleMemMove o printable b = b.perform ⟨s₃, none,
          [⟨offTo, moveLen run.dynamicFileSz offFrom offTo len, fun k => run.dynamicFile (offFrom + k)⟩]⟩ := by
      rw [drawn b agree, mangleMove_eq _ _ _ _ (by simpa [← agree.size] using fromIn)
        (by simpa [← agree.size] using toIn) (by simpa [← agree.size] using small) (by omega)]
      simp only [Run.access, Run.withRnd_dynamicFileSz, ← agree.size,
        Run.check_pos (show moveLen run.dynamicFileSz offFrom offTo len = 0 ∨
          offFrom + moveLen run.dynamicFileSz offFrom offTo len ≤ run.dynamicFileSz from
            .inr (by unfold moveLen; omega)),
        Run.withRnd_dynamicFile, Run.perform, Run.fail_none, Run.writeAll]
      exact Run.store_congr _ bytes
    refine ⟨_, acts run (AgreeTo.refl _ run) fun _ _ => rfl,
      fun _ all _ => Effect.printableStores_single fun _ _ => all _,
      fun _ _ => Effect.inside_single (by unfold moveLen; omega), fun _ _ b agree => acts b agree
        fun k copied => (agree.bytes _ (show offFrom + k < run.dynamicFileSz by
          unfold moveLen at copied; omega)).symm, fun _ _ => rfl⟩
  by_cases outside : run.dynamicFileSz ≤ offFrom ∨ run.dynamicFileSz ≤ offTo
  · have acts (b : Run σ) (agree : Agree run b) : mangleMemMove o printable b = b.perform ⟨s₃, none, []⟩ := by
      rw [drawn b agree, mangleMove_of_le _ _ _ _ (by simpa [← agree.size] using outside)]
      rfl
    exact ⟨_, acts run (AgreeTo.refl _ run), fun _ _ _ => nofun, fun _ _ => nofun, fun _ _ => acts,
      fun _ _ => rfl⟩
  -- The size is past `ssize_t`, which the size invariant and the configuration rule out.
  have big (sizeOk : SizeOk run) (small : run.global.maxFileSz < 2 ^ 63) : False := by
    have := sizeOk.2
    omega
  rcases mangleMove_cases offFrom offTo len (run.withRnd s₃) with same | ⟨n, same⟩
  · exact ⟨⟨s₃, none, []⟩, (drawn run (AgreeTo.refl _ run)).trans same, fun _ _ _ => nofun,
      fun _ _ => nofun, fun sizeOk small => (big sizeOk small).elim, fun _ _ => rfl⟩
  · refine ⟨⟨s₃, if n = 0 ∨ offFrom + n ≤ run.dynamicFileSz then none
        else some (.outOfBounds offFrom n run.dynamicFileSz),
        [⟨offTo, n, fun k => run.dynamicFile (offFrom + k)⟩]⟩, ?_,
      fun _ all _ => Effect.printableStores_single fun _ _ => all _,
      fun sizeOk small => (big sizeOk small).elim, fun sizeOk small => (big sizeOk small).elim,
      fun sizeOk config => (big sizeOk config.small).elim⟩
    rw [drawn run (AgreeTo.refl _ run), same]
    simp only [Run.access, Run.check_eq_fail, Run.withRnd_dynamicFileSz, Run.withRnd_dynamicFile,
      Run.perform, Run.writeAll]

/-! ### The table and the loop -/

/-- Every entry of `mangleFuncs` but the three that resize the input, 8
`mangle_DictionaryInsert`, 13 `mangle_Expand` and 14 `mangle_Shrink`, has a
footprint, `mangle_Magic` (2) outside printable mode; an index past the table
runs nothing. -/
theorem mangleFuncs_getD_footprint (choice : Nat) (printable : Bool)
    (keepsSize : choice ≠ 8 ∧ choice ≠ 13 ∧ choice ≠ 14) (plainMagic : choice = 2 → printable = false) :
    Footprint ((mangleFuncs o).getD choice (fun _ run => run) printable) (printable = true) := by
  obtain ⟨notInsert, notExpand, notShrink⟩ := keepsSize
  -- one case per entry of the table, and the indices past it
  rcases choice with _ | _ | _ | _ | _ | _ | _ | _ | _ | _ | _ | _ | _ | _ | _ | _ | past
  · exact mangleBit_footprint o printable
  · exact mangleBytes_footprint o printable
  · obtain rfl := plainMagic rfl
    exact (mangleMagic_footprint o).mono nofun
  · exact mangleIncByte_footprint o printable
  · exact mangleDecByte_footprint o printable
  · exact mangleNegByte_footprint o printable
  · exact mangleAddSub_footprint o printable
  · exact mangleDictionary_footprint o printable
  · exact absurd rfl notInsert
  · exact mangleMemMove_footprint o printable
  · exact mangleMemSet_footprint o printable
  · exact mangleRandom_footprint o printable
  · exact mangleCloneByte_footprint o printable
  · exact absurd rfl notExpand
  · exact absurd rfl notShrink
  · exact mangleASCIIVal_footprint o printable
  · rw [List.getD_eq_default _ _ (by rw [mangleFuncs_length]; omega)]
    exact footprint_id _

/-- A property of the operators holds of every entry of `mangleFuncs` when it
holds of every operator with a footprint, of `mangle_Magic` in printable mode
and of the three that resize the input, each where it can be drawn. -/
theorem mangleFuncs_getD_cases {P : (Run σ → Run σ) → Prop} (choice : Nat) (printable : Bool)
    (footprint : ∀ op, Footprint op (printable = true) → P op)
    (magic : choice = 2 → printable = true → P (mangleMagic o true))
    (insert : choice = 8 → P (mangleDictionaryInsert o printable))
    (expand : choice = 13 → P (mangleExpand o printable))
    (shrink : choice = 14 → P (mangleShrink o printable)) :
    P ((mangleFuncs o).getD choice (fun _ run => run) printable) := by
  by_cases resizes : choice = 8 ∨ choice = 13 ∨ choice = 14
  · rcases resizes with rfl | rfl | rfl
    · exact insert rfl
    · exact expand rfl
    · exact shrink rfl
  by_cases printingMagic : choice = 2 ∧ printable = true
  · obtain ⟨rfl, rfl⟩ := printingMagic
    exact magic rfl rfl
  exact footprint _ (mangleFuncs_getD_footprint o choice printable (by omega)
    fun two => Bool.eq_false_iff.mpr fun printing => printingMagic ⟨two, printing⟩)

end Honggfuzz.Mangle
