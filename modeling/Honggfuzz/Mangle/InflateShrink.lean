import Honggfuzz.Mangle.Operators

/-!
`mangle_Inflate` and `mangle_Shrink` against insertion and deletion.

Both shift bytes with `mangle_Move`, whose clamp `size - off - 1` leaves the
last byte of the input out of every move. `mangle_Inflate` moves the tail only
after `input_setSize` has grown the input, so the last original byte is dropped
and the new last byte is whatever the storage held there. `mangle_Shrink` moves
only after `input_setSize` has cut the input, so the move is bounded by the
reduced size and `len + 1` bytes before the new end keep their old values.
`mangle_DictionaryInsert` inflates by the entry's length and overwrites the
fresh bytes with the entry, so it inherits the lost last byte.
-/

namespace Honggfuzz.Mangle

variable {σ : Type} (o : Oracle σ)

/-! ### `mangle_Inflate` -/

/-- Below `2 ^ 63`, with `n` the clamped length: the input becomes the bytes
before `off`, `n` fresh bytes, the bytes `[off, S - 1)`, and the byte the
storage held at `S + n - 1`. -/
theorem mangleInflate_contents (off len : Nat) (printable : Bool) (run : Run σ)
    (offIn : off < run.dynamicFileSz) (room : run.dynamicFileSz < run.global.maxFileSz)
    (small : run.global.maxFileSz < 2 ^ 63) :
    let n := min len (run.global.maxFileSz - run.dynamicFileSz)
    (mangleInflate o off len printable run).contents =
      run.contents.take off ++ (List.range n).map (rndBuf o printable n run).1 ++
        (run.contents.drop off).dropLast ++ [run.dynamicFile (run.dynamicFileSz + n - 1)] := by
  intro n
  have clamped : n = min len (run.global.maxFileSz - run.dynamicFileSz) := rfl
  have size : (mangleInflate o off len printable run).dynamicFileSz = run.dynamicFileSz + n := by
    rw [mangleInflate_dynamicFileSz, if_pos room]
  apply List.ext_getElem
  · simp only [Run.length_contents, size, List.length_append, List.length_take,
      List.length_map, List.length_range, List.length_dropLast, List.length_drop,
      List.length_singleton]
    omega
  · intro i lhs rhs
    simp only [Run.length_contents, size] at lhs
    rw [Run.getElem_contents, mangleInflate_dynamicFile o off len printable run offIn room small]
    simp only [← clamped]
    simp only [List.getElem_append, List.getElem_take, List.getElem_map, List.getElem_range,
      List.getElem_dropLast, List.getElem_drop, List.getElem_singleton, Run.getElem_contents,
      List.length_append, List.length_take, List.length_map, List.length_range,
      List.length_dropLast, List.length_drop, Run.length_contents]
    split_ifs <;> first | rfl | omega | exact congrArg _ (by omega)

/-- The input `"abc"` at `maxFileSz = 8`, the storage beyond it zero, with a
tape holding the fresh bytes `"XY"`. -/
def inflateRun : Run (List Nat) where
  global := ⟨8, 1, 0, [], false, by decide⟩
  dynamicFile i := [0x61, 0x62, 0x63].getD i 0
  dynamicFileSz := 3
  mutationsPerRun := 1
  rnd := [0x58, 0x59]
  fault := none

theorem mangleInflate_contents_inflateRun :
    1 < inflateRun.dynamicFileSz ∧ inflateRun.dynamicFileSz < inflateRun.global.maxFileSz ∧
      inflateRun.global.maxFileSz < 2 ^ 63 ∧
      (mangleInflate tapeOracle 1 2 false inflateRun).contents = [0x61, 0x58, 0x59, 0x62, 0x00] := by
  refine ⟨by decide, by decide, by decide, ?_⟩
  rw [mangleInflate_contents tapeOracle 1 2 false inflateRun (by decide) (by decide) (by decide)]
  decide

/-- Inflating `"abc"` by two bytes at offset 1 gives `"aXYb"` and a zero byte:
the `c` is gone, so no choice of fresh bytes makes it `"a" ++ r ++ "bc"`. -/
theorem mangleInflate_loses_last :
    (mangleInflate tapeOracle 1 2 false inflateRun).contents = [0x61, 0x58, 0x59, 0x62, 0x00] ∧
      ∀ r : List UInt8, (mangleInflate tapeOracle 1 2 false inflateRun).contents ≠
        inflateRun.contents.take 1 ++ r ++ inflateRun.contents.drop 1 := by
  have result : (mangleInflate tapeOracle 1 2 false inflateRun).contents =
      [0x61, 0x58, 0x59, 0x62, 0x00] := by decide
  have tail : inflateRun.contents.drop 1 = [0x62, 0x63] := by decide
  refine ⟨result, fun r same => ?_⟩
  rw [result, tail] at same
  have last := congrArg List.getLast? same
  simp only [List.getLast?_append, List.getLast?_cons_cons, List.getLast?_singleton,
    Option.or_some] at last
  exact absurd last (by decide)

/-! ### `mangle_DictionaryInsert` -/

/-- With its draws named, `mangle_DictionaryInsert` on a nonempty dictionary is
`mangle_Inflate` by the entry's length at the drawn offset, then
`mangle_Overwrite` with the entry, on a state with the input unchanged. -/
theorem mangleDictionaryInsert_eq (printable : Bool) (run : Run σ)
    (dictionary : 0 < run.global.dictionaryCnt) {choice off : Nat} {s₁ s₂ : σ}
    (drawChoice : o.rndGet 0 (run.global.dictionaryCnt - 1) run.rnd = (choice, s₁))
    (drawOff : o.rndGet 0 (run.dynamicFileSz - 1) s₁ = (off, s₂)) :
    ∃ drawn : Run σ, drawn.global = run.global ∧ drawn.dynamicFile = run.dynamicFile ∧
      drawn.dynamicFileSz = run.dynamicFileSz ∧
      mangleDictionaryInsert o printable run =
        mangleOverwrite (run.global.dictq.getD choice []) off (run.global.dictq.getD choice []).length
          (mangleInflate o off (run.global.dictq.getD choice []).length printable drawn) := by
  refine ⟨((run.withRnd s₁).check (choice < run.global.dictq.length)
    (.indexOverrun choice run.global.dictq.length)).withRnd s₂, rfl, rfl, rfl, ?_⟩
  simp only [mangleDictionaryInsert, if_neg (Nat.pos_iff_ne_zero.1 dictionary),
    mangleDictionaryInsertNoCheck, utilRndGet, drawChoice, Run.lookup, Run.check_rnd,
    Run.withRnd_rnd, Run.check_dynamicFileSz, Run.withRnd_dynamicFileSz, drawOff,
    Run.check_pos (Nat.zero_le (run.global.dictionaryCnt - 1)),
    Run.check_pos (Nat.zero_le (run.dynamicFileSz - 1)), Run.withRnd_global, Run.check_global]

/-- With a nonempty dictionary of at least `dictionaryCnt` entries, below
`2 ^ 63`: `mangle_DictionaryInsert` draws one of the first `dictionaryCnt`
entries, grows the input by
`n = min |entry| (maxFileSz - size)` and writes the entry at `off`. The fresh
bytes of `mangle_Inflate` are all overwritten. When the entry fits, `n` is its
length and the bytes from `off` move up by `n`, the last one lost to the storage
byte at `size + n - 1`; when it does not, the entry runs on past the gap over
the moved bytes. -/
theorem mangleDictionaryInsert_dynamicFile (printable : Bool) (run : Run σ)
    (nonempty : 0 < run.dynamicFileSz) (fits : run.dynamicFileSz ≤ run.global.maxFileSz)
    (small : run.global.maxFileSz < 2 ^ 63) (dictionary : 0 < run.global.dictionaryCnt)
    (dictionaryOk : run.global.dictionaryCnt ≤ run.global.dictq.length)
    {choice off : Nat} {s₁ s₂ : σ}
    (drawChoice : o.rndGet 0 (run.global.dictionaryCnt - 1) run.rnd = (choice, s₁))
    (drawOff : o.rndGet 0 (run.dynamicFileSz - 1) s₁ = (off, s₂)) :
    let entry := run.global.dictq.getD choice []
    let n := min entry.length (run.global.maxFileSz - run.dynamicFileSz)
    choice < run.global.dictionaryCnt ∧ entry ∈ run.global.dictq ∧
      (mangleDictionaryInsert o printable run).dynamicFileSz = run.dynamicFileSz + n ∧
      ∀ i, (mangleDictionaryInsert o printable run).dynamicFile i =
        if off ≤ i ∧ i < off + min entry.length (run.dynamicFileSz + n - off) then
          entry.getD (i - off) 0
        else if off + n ≤ i ∧ i < run.dynamicFileSz + n - 1 then run.dynamicFile (i - n)
        else run.dynamicFile i := by
  intro entry n
  have nDef : min entry.length (run.global.maxFileSz - run.dynamicFileSz) = n := rfl
  have choiceIn := (o.draw_mem drawChoice (Nat.zero_le _)).2
  have offIn := (o.draw_mem drawOff (Nat.zero_le _)).2
  obtain ⟨drawn, global, file, size, eq⟩ :=
    mangleDictionaryInsert_eq o printable run dictionary drawChoice drawOff
  change mangleDictionaryInsert o printable run =
    mangleOverwrite entry off entry.length (mangleInflate o off entry.length printable drawn) at eq
  have grown : (mangleInflate o off entry.length printable drawn).dynamicFileSz =
      run.dynamicFileSz + n := by
    rw [mangleInflate_dynamicFileSz, global, size]
    split_ifs <;> omega
  refine ⟨by omega, getD_mem _ (by omega), by rw [eq, mangleOverwrite_dynamicFileSz, grown],
    fun i => ?_⟩
  rw [eq, mangleOverwrite_dynamicFile, grown]
  by_cases room : run.dynamicFileSz < run.global.maxFileSz
  · rw [mangleInflate_dynamicFile o off entry.length printable drawn (by omega)
      (by rwa [global, size]) (by rwa [global])]
    simp only [global, size, file, nDef]
    by_cases inEntry : off ≤ i ∧ i < off + min entry.length (run.dynamicFileSz + n - off)
    · rw [if_pos inEntry, if_pos inEntry]
    · rw [if_neg inEntry, if_neg inEntry, if_neg (show ¬(off ≤ i ∧ i < off + n) by omega)]
  · have full : n = 0 := by omega
    have stays : mangleInflate o off entry.length printable drawn = drawn := by
      unfold mangleInflate
      exact if_pos (by rw [global, size]; omega)
    rw [stays, file, full]
    split_ifs <;> rfl

/-- The input `abc` at `maxFileSz = 8` with the dictionary `XY`, and a tape that
draws the entry and the offset 1. -/
def insertRun : Run (List Nat) where
  global := ⟨8, 1, 1, [[0x58, 0x59]], false, by decide⟩
  dynamicFile i := [0x61, 0x62, 0x63].getD i 0
  dynamicFileSz := 3
  mutationsPerRun := 1
  rnd := [0, 1]
  fault := none

theorem mangleDictionaryInsert_dynamicFile_insertRun :
    (mangleDictionaryInsert tapeOracle false insertRun).dynamicFileSz = 5 ∧
      (mangleDictionaryInsert tapeOracle false insertRun).dynamicFile 2 = 0x59 := by
  have law := @mangleDictionaryInsert_dynamicFile _ tapeOracle false insertRun (by decide)
    (by decide) (by decide) (by decide) (by decide) 0 1 [1] [] rfl rfl
  exact ⟨law.2.2.1, (law.2.2.2 2).trans (by decide)⟩

example : (mangleDictionaryInsert tapeOracle false insertRun).contents =
    [0x61, 0x58, 0x59, 0x62, 0x00] := by
  decide

/-! ### `mangle_Shrink` -/

/-- With `len` and `off` drawn and the size below `2 ^ 63`: the size drops by
`len`, the bytes `[off, off + moved)` take the bytes `len` further on, where
`moved` is what the move copies, and every other byte below the new size keeps
its value. -/
theorem mangleShrink_dynamicFile (printable : Bool) (run : Run σ) (big : 2 ≤ run.dynamicFileSz)
    (small : run.dynamicFileSz < 2 ^ 63) {len off : Nat} {s₁ s₂ : σ}
    (drawLen : o.rndGet 1 (run.dynamicFileSz - 1) run.rnd = (len, s₁))
    (drawOff : o.rndGet 0 len s₁ = (off, s₂)) :
    let newsz := run.dynamicFileSz - len
    let moved := if off + len < newsz then newsz - off - len - 1 else 0
    (mangleShrink o printable run).dynamicFileSz = newsz ∧
      ∀ i < newsz, (mangleShrink o printable run).dynamicFile i =
        if off ≤ i ∧ i < off + moved then run.dynamicFile (i + len) else run.dynamicFile i := by
  intro newsz moved
  have lenIn := o.draw_mem drawLen (by omega)
  have offIn := o.draw_mem drawOff (by omega)
  have shrunk : newsz = run.dynamicFileSz - len := rfl
  unfold mangleShrink
  rw [if_neg (by omega)]
  simp only [utilRndGet, drawLen, Run.withRnd_rnd, Run.check_rnd, drawOff,
    Run.withRnd_dynamicFileSz, Run.check_dynamicFileSz, inputSetSize_dynamicFileSz]
  refine ⟨by simp [shrunk], fun i below => ?_⟩
  by_cases moves : off + len < newsz
  · have copied : moveLen newsz (off + len) off newsz = newsz - off - len - 1 := by
      unfold moveLen; omega
    rw [mangleMove_eq _ _ _ _ (by simpa using moves) (by simp; omega) (by simp; omega) (by omega)]
    simp only [Run.store_dynamicFile, Run.access, Run.check_dynamicFile,
      inputSetSize_dynamicFile, inputSetSize_dynamicFileSz, Run.withRnd_dynamicFile,
      Run.check_dynamicFile, if_pos moves, moved, ← shrunk, copied]
    split_ifs
    · exact congrArg _ (by omega)
    · rfl
  · rw [mangleMove_of_le _ _ _ _ (by simp; omega)]
    simp only [inputSetSize_dynamicFile, Run.withRnd_dynamicFile, Run.check_dynamicFile, moved,
      if_neg moves]
    rw [if_neg (by omega)]

/-- The input `ABCDE` with a tape that draws `len = 2` and `off = 1`. -/
def shrinkRun : Run (List Nat) where
  global := ⟨8, 1, 0, [], false, by decide⟩
  dynamicFile i := [0x41, 0x42, 0x43, 0x44, 0x45].getD i 0
  dynamicFileSz := 5
  mutationsPerRun := 1
  rnd := [2, 1]
  fault := none

theorem mangleShrink_dynamicFile_shrinkRun :
    2 ≤ shrinkRun.dynamicFileSz ∧ shrinkRun.dynamicFileSz < 2 ^ 63 ∧
      (mangleShrink tapeOracle false shrinkRun).dynamicFileSz = 3 ∧
      (mangleShrink tapeOracle false shrinkRun).dynamicFile 2 = 0x43 := by
  have law := @mangleShrink_dynamicFile _ tapeOracle false shrinkRun (by decide) (by decide) 2 1
    [1] [] rfl rfl
  exact ⟨by decide, by decide, law.1, (law.2 2 (by decide)).trans (by decide)⟩

/-- Shrinking `ABCDE` with `len = 2` and `off = 1` leaves `ABC`, where deleting
`BC` gives `ADE`: the move is bounded by the already reduced size. -/
theorem mangleShrink_keeps_tail :
    (mangleShrink tapeOracle false shrinkRun).contents = [0x41, 0x42, 0x43] ∧
      shrinkRun.contents.take 1 ++ shrinkRun.contents.drop 3 = [0x41, 0x44, 0x45] := by
  decide

end Honggfuzz.Mangle
