import Honggfuzz.Mangle.Basic

/-!
The buffer primitives of `mangle.c`: `mangle_Overwrite`, `mangle_Move` and
`mangle_Inflate`, each with the lemma that says what it does to the input.
The operators are proved correct from these lemmas and never unfold the
primitives.

`mangle_Move` clamps its length to `dynamicFileSz - off - 1` in `ssize_t`; the
lemmas about it assume the size stays below `2 ^ 63`, where the clamp is
`min len (dynamicFileSz - off - 1)`.
-/

namespace Honggfuzz.Mangle

variable {σ : Type} (o : Oracle σ)

/-- `mangle_Overwrite`: `sz` bytes of `src` to `dynamicFile[off]`, clamped to the
input's end. -/
def mangleOverwrite (src : List UInt8) (off sz : Nat) (run : Run σ) : Run σ :=
  let maxToCopy := run.dynamicFileSz - off
  let sz := if sz > maxToCopy then maxToCopy else sz
  (run.readSource src sz).store off sz fun k => src.getD k 0

/-- `mangle_Move`: `memmove` of `len` bytes from `offFrom` to `offTo`, the length
clamped in `ssize_t` to `dynamicFileSz - off - 1` for both offsets. -/
def mangleMove (offFrom offTo len : Nat) (run : Run σ) : Run σ :=
  if offFrom ≥ run.dynamicFileSz then run
  else if offTo ≥ run.dynamicFileSz then run
  else
    let lenFrom := toSSize (run.dynamicFileSz - offFrom - 1)
    let lenTo := toSSize (run.dynamicFileSz - offTo - 1)
    let len := if toSSize len > lenFrom then toSizeT lenFrom else len
    let len := if toSSize len > lenTo then toSizeT lenTo else len
    (run.access offFrom len).store offTo len fun k => run.dynamicFile (offFrom + k)

/-- `mangle_Inflate`: grow the input by `len` bytes (clamped to `maxFileSz`),
shift the bytes from `off` right by `len` with `mangle_Move`, and fill
`[off, off + len)` with fresh bytes. -/
def mangleInflate (off len : Nat) (printable : Bool) (run : Run σ) : Run σ :=
  if run.dynamicFileSz ≥ run.global.maxFileSz then run
  else
    let len :=
      if len > run.global.maxFileSz - run.dynamicFileSz then
        run.global.maxFileSz - run.dynamicFileSz
      else len
    let run := inputSetSize (run.dynamicFileSz + len) run
    let run := mangleMove off (off + len) run.dynamicFileSz run
    let (buf, run) := rndBuf o printable len run
    run.store off len buf

/-! ### `mangle_Overwrite` -/

/-- The code's clamp `if (sz > max) sz = max;`. -/
private theorem clamp_eq_min (sz max : Nat) : (if sz > max then max else sz) = min sz max := by
  split <;> omega

section Overwrite

variable (src : List UInt8) (off sz : Nat) (run : Run σ)

@[simp] theorem mangleOverwrite_global : (mangleOverwrite src off sz run).global = run.global := by
  simp [mangleOverwrite]
@[simp] theorem mangleOverwrite_dynamicFileSz :
    (mangleOverwrite src off sz run).dynamicFileSz = run.dynamicFileSz := by
  simp [mangleOverwrite]
@[simp] theorem mangleOverwrite_mutationsPerRun :
    (mangleOverwrite src off sz run).mutationsPerRun = run.mutationsPerRun := by
  simp [mangleOverwrite]
@[simp] theorem mangleOverwrite_rnd : (mangleOverwrite src off sz run).rnd = run.rnd := by
  simp [mangleOverwrite]

/-- The bytes `[off, off + min sz (dynamicFileSz - off))` take `src`; the rest stay. -/
theorem mangleOverwrite_dynamicFile (i : Nat) :
    (mangleOverwrite src off sz run).dynamicFile i =
      if off ≤ i ∧ i < off + min sz (run.dynamicFileSz - off) then src.getD (i - off) 0
      else run.dynamicFile i := by
  simp only [mangleOverwrite, Run.store_dynamicFile, Run.readSource, Run.check_dynamicFile,
    clamp_eq_min]

/-- With `sz` bytes in `src`, `mangle_Overwrite` is the store of its clamped window. -/
theorem mangleOverwrite_eq (enough : sz ≤ src.length) :
    mangleOverwrite src off sz run =
      run.store off (min sz (run.dynamicFileSz - off)) fun k => src.getD k 0 := by
  simp only [mangleOverwrite, Run.readSource, clamp_eq_min,
    Run.check_pos (Nat.le_trans (Nat.min_le_left sz (run.dynamicFileSz - off)) enough)]

/-- The destination is always in range; only reading `src` past its end faults. -/
theorem mangleOverwrite_fault_eq_none :
    (mangleOverwrite src off sz run).fault = none ↔
      run.fault = none ∧ min sz (run.dynamicFileSz - off) ≤ src.length := by
  simp only [mangleOverwrite, Run.store_fault, Run.readSource, Run.check_fault,
    Run.check_dynamicFileSz, checked_eq_none, clamp_eq_min]
  constructor
  · rintro ⟨-, fits, ok⟩
    exact ⟨ok, fits⟩
  · rintro ⟨ok, fits⟩
    exact ⟨by omega, fits, ok⟩

end Overwrite

/-! ### `mangle_Move` -/

section Move

variable (offFrom offTo len : Nat) (run : Run σ)

/-- Whatever its clamps compute, `mangle_Move` does nothing or is a `memmove`
from the bytes before it. -/
theorem mangleMove_cases : mangleMove offFrom offTo len run = run ∨
    ∃ n, mangleMove offFrom offTo len run =
      (run.access offFrom n).store offTo n fun k => run.dynamicFile (offFrom + k) := by
  unfold mangleMove
  split_ifs
  · exact .inl rfl
  · exact .inl rfl
  · exact .inr ⟨_, rfl⟩

@[simp] theorem mangleMove_global : (mangleMove offFrom offTo len run).global = run.global := by
  rcases mangleMove_cases offFrom offTo len run with same | ⟨n, same⟩ <;> simp [same]
@[simp] theorem mangleMove_dynamicFileSz :
    (mangleMove offFrom offTo len run).dynamicFileSz = run.dynamicFileSz := by
  rcases mangleMove_cases offFrom offTo len run with same | ⟨n, same⟩ <;> simp [same]
@[simp] theorem mangleMove_mutationsPerRun :
    (mangleMove offFrom offTo len run).mutationsPerRun = run.mutationsPerRun := by
  rcases mangleMove_cases offFrom offTo len run with same | ⟨n, same⟩ <;> simp [same]
@[simp] theorem mangleMove_rnd : (mangleMove offFrom offTo len run).rnd = run.rnd := by
  rcases mangleMove_cases offFrom offTo len run with same | ⟨n, same⟩ <;> simp [same]

/-- The length `mangle_Move` copies when the size is below `2 ^ 63`. -/
def moveLen (size offFrom offTo len : Nat) : Nat := min len (min (size - offFrom - 1) (size - offTo - 1))

/-- Below `2 ^ 63` the `ssize_t` clamps are `min`, so `mangle_Move` is the
`memmove` of `moveLen` bytes. -/
theorem mangleMove_eq (fromIn : offFrom < run.dynamicFileSz) (toIn : offTo < run.dynamicFileSz)
    (small : run.dynamicFileSz < 2 ^ 63) (lenSmall : len < 2 ^ 63) :
    mangleMove offFrom offTo len run =
      (run.access offFrom (moveLen run.dynamicFileSz offFrom offTo len)).store offTo
        (moveLen run.dynamicFileSz offFrom offTo len) fun k => run.dynamicFile (offFrom + k) := by
  have clampFrom : (if toSSize len > toSSize (run.dynamicFileSz - offFrom - 1) then
      toSizeT (toSSize (run.dynamicFileSz - offFrom - 1)) else len) =
        min len (run.dynamicFileSz - offFrom - 1) := by
    rw [toSSize_of_lt lenSmall, toSSize_of_lt (by omega), toSizeT_natCast (by omega)]
    split <;> omega
  have clampTo (n : Nat) (nSmall : n < 2 ^ 63) :
      (if toSSize n > toSSize (run.dynamicFileSz - offTo - 1) then
        toSizeT (toSSize (run.dynamicFileSz - offTo - 1)) else n) =
          min n (run.dynamicFileSz - offTo - 1) := by
    rw [toSSize_of_lt nSmall, toSSize_of_lt (by omega), toSizeT_natCast (by omega)]
    split <;> omega
  simp only [mangleMove, if_neg (Nat.not_le.mpr fromIn), if_neg (Nat.not_le.mpr toIn)]
  rw [clampFrom, clampTo _ (by omega), moveLen, Nat.min_assoc]

/-- A move with an offset at or past the end does nothing. -/
theorem mangleMove_of_le (outside : run.dynamicFileSz ≤ offFrom ∨ run.dynamicFileSz ≤ offTo) :
    mangleMove offFrom offTo len run = run := by
  unfold mangleMove
  split_ifs with fromOut toOut
  · rfl
  · rfl
  · omega

/-- Below `2 ^ 63`, a move touches only bytes inside the input. -/
theorem mangleMove_fault (small : run.dynamicFileSz < 2 ^ 63) (lenSmall : len < 2 ^ 63) :
    (mangleMove offFrom offTo len run).fault = run.fault := by
  by_cases inside : offFrom < run.dynamicFileSz ∧ offTo < run.dynamicFileSz
  · rw [mangleMove_eq offFrom offTo len run inside.1 inside.2 small lenSmall]
    simp only [Run.store_fault, Run.access, Run.check_fault, Run.check_dynamicFileSz, moveLen,
      checked]
    rw [if_pos (by omega), if_pos (by omega)]
  · rw [mangleMove_of_le offFrom offTo len run (by omega)]

end Move

/-! ### `mangle_Inflate` -/

section Inflate

variable (off len : Nat) (printable : Bool) (run : Run σ)

@[simp] theorem mangleInflate_global :
    (mangleInflate o off len printable run).global = run.global := by
  unfold mangleInflate; split_ifs <;> simp
@[simp] theorem mangleInflate_mutationsPerRun :
    (mangleInflate o off len printable run).mutationsPerRun = run.mutationsPerRun := by
  unfold mangleInflate; split_ifs <;> simp

/-- The size grows by `len`, clamped to `maxFileSz`. -/
theorem mangleInflate_dynamicFileSz :
    (mangleInflate o off len printable run).dynamicFileSz =
      if run.dynamicFileSz < run.global.maxFileSz then
        run.dynamicFileSz + min len (run.global.maxFileSz - run.dynamicFileSz)
      else run.dynamicFileSz := by
  unfold mangleInflate
  split_ifs <;> simp [clamp_eq_min] <;> omega

/-- Below `2 ^ 63` and with room to grow, `mangle_Inflate` with `n` the clamped
length grows the input by `n`, moves the `S - off - 1` bytes after `off` to
`off + n` and stores the fresh bytes at `off`. -/
theorem mangleInflate_eq (offIn : off < run.dynamicFileSz)
    (room : run.dynamicFileSz < run.global.maxFileSz) (small : run.global.maxFileSz < 2 ^ 63) :
    let n := min len (run.global.maxFileSz - run.dynamicFileSz)
    let grown := inputSetSize (run.dynamicFileSz + n) run
    let moved := (grown.access off (run.dynamicFileSz - off - 1)).store (off + n)
      (run.dynamicFileSz - off - 1) fun k => grown.dynamicFile (off + k)
    mangleInflate o off len printable run =
      (rndBuf o printable n moved).2.store off n (rndBuf o printable n moved).1 := by
  intro n grown moved
  have fits : n ≤ run.global.maxFileSz - run.dynamicFileSz := Nat.min_le_right _ _
  have clamped : min len (run.global.maxFileSz - run.dynamicFileSz) = n := rfl
  have copied : moveLen (run.dynamicFileSz + n) off (off + n) (run.dynamicFileSz + n) =
      run.dynamicFileSz - off - 1 := by
    unfold moveLen; omega
  have grownSz : grown.dynamicFileSz = run.dynamicFileSz + n := inputSetSize_dynamicFileSz _ _
  unfold mangleInflate
  rw [if_neg (Nat.not_le.mpr room), clamp_eq_min]
  simp only [clamped, inputSetSize_dynamicFileSz]
  rw [mangleMove_eq off (off + n) (run.dynamicFileSz + n) grown (by omega) (by omega) (by omega)
    (by omega), grownSz, copied]

/-- Below `2 ^ 63`, with `n` the clamped length: the fresh bytes fill
`[off, off + n)`, the bytes `[off, S - 1)` move to `[off + n, S + n - 1)`, and
every other byte, `S + n - 1` among them, keeps what the storage held. -/
theorem mangleInflate_dynamicFile (offIn : off < run.dynamicFileSz)
    (room : run.dynamicFileSz < run.global.maxFileSz) (small : run.global.maxFileSz < 2 ^ 63)
    (i : Nat) :
    (mangleInflate o off len printable run).dynamicFile i =
      let n := min len (run.global.maxFileSz - run.dynamicFileSz)
      if off ≤ i ∧ i < off + n then (rndBuf o printable n run).1 (i - off)
      else if off + n ≤ i ∧ i < run.dynamicFileSz + n - 1 then run.dynamicFile (i - n)
      else run.dynamicFile i := by
  rw [mangleInflate_eq o off len printable run offIn room small]
  dsimp only
  generalize min len (run.global.maxFileSz - run.dynamicFileSz) = n
  have shifted : off + n + (run.dynamicFileSz - off - 1) = run.dynamicFileSz + n - 1 := by omega
  simp only [Run.store_dynamicFile, rndBuf, Run.withRnd_dynamicFile, Run.access,
    Run.check_dynamicFile, inputSetSize_dynamicFile, inputSetSize_rnd, Run.store_rnd,
    Run.check_rnd, shifted]
  split_ifs <;> first | rfl | (congr 1; omega)

/-- Below `2 ^ 63` and with `off` inside the input, inflating raises no fault. -/
theorem mangleInflate_fault (offIn : off < run.dynamicFileSz)
    (small : run.global.maxFileSz < 2 ^ 63) :
    (mangleInflate o off len printable run).fault = run.fault := by
  by_cases room : run.dynamicFileSz < run.global.maxFileSz
  · have fits := Nat.min_le_right len (run.global.maxFileSz - run.dynamicFileSz)
    rw [mangleInflate_eq o off len printable run offIn room small]
    simp only [Run.store_fault, rndBuf, Run.withRnd_fault, Run.withRnd_dynamicFileSz, Run.access,
      Run.check_fault, Run.check_dynamicFileSz, Run.store_dynamicFileSz, inputSetSize_fault,
      inputSetSize_dynamicFileSz, checked]
    rw [if_pos (by omega), if_pos (by omega), if_pos (by omega), if_pos (by omega)]
  · unfold mangleInflate
    rw [if_pos (Nat.not_lt.mp room)]

end Inflate

end Honggfuzz.Mangle
