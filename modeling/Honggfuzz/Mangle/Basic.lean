import Mathlib.Algebra.Group.Nat.Basic
import Mathlib.Algebra.Order.Ring.Int
import Mathlib.Data.List.GetD
import Mathlib.Order.Nat

/-!
The state the honggfuzz input mutator (`mangle.c`) works on.

A `Run` is the part of `run_t` the mutator touches: the input buffer, its
logical size, the per-run mutation bound, the configuration behind
`run->global`, and the state of the random-number oracle. The buffer is a total
byte store. Every access records the first fault a checked embedding would
raise (an index at or past the logical size, a source read past its end, an
empty draw range), and the run goes on as the C code does, so one model serves
both the safety question and the behaviour of runs that overrun.

`size_t` differences are taken in `Nat`: at every one the mutator computes the
code's own guards, or `1 ≤ dynamicFileSz`, keep it from wrapping. The two places
where wrapping and `ssize_t` matter (`mangle_Move`, `mangle_Resize`) use
`toSSize` and `toSizeT` explicitly.
-/

namespace Honggfuzz.Mangle

/-! ### Bytes and C integer conversions -/

/-- `[0x20, 0x7E]`, the bytes `only_printable` admits. -/
def Printable (b : UInt8) : Prop := 0x20 ≤ b.toNat ∧ b.toNat ≤ 0x7E

instance : DecidablePred Printable := fun b =>
  inferInstanceAs (Decidable (0x20 ≤ b.toNat ∧ b.toNat ≤ 0x7E))

/-- A 64-bit `size_t` read as `ssize_t`. -/
def toSSize (x : Nat) : Int := if x < 2 ^ 63 then x else (x : Int) - 2 ^ 64

/-- An integer converted to `size_t`. -/
def toSizeT (x : Int) : Nat := (x % 2 ^ 64).toNat

/-- An `int` converted to `uint8_t`. -/
def toUInt8 (x : Int) : UInt8 := UInt8.ofNat (x % 256).toNat

theorem toSSize_of_lt {x : Nat} (small : x < 2 ^ 63) : toSSize x = x := if_pos small

theorem toSizeT_of_lt {x : Int} (nonneg : 0 ≤ x) (small : x < 2 ^ 64) : toSizeT x = x.toNat := by
  rw [toSizeT, Int.emod_eq_of_lt nonneg small]

@[simp] theorem toSizeT_natCast {x : Nat} (small : x < 2 ^ 64) : toSizeT x = x := by
  rw [toSizeT_of_lt (Int.ofNat_nonneg x) (by exact_mod_cast small), Int.toNat_ofNat]

/-- An `ssize_t` value converted to `size_t` and read back is itself. -/
theorem toSSize_toSizeT {x : Int} (lo : -2 ^ 63 ≤ x) (hi : x < 2 ^ 63) : toSSize (toSizeT x) = x := by
  unfold toSSize toSizeT
  split <;> omega

/-- Reading a `size_t` as `ssize_t` and back gives the same `size_t`. -/
theorem toSizeT_toSSize {x : Nat} (small : x < 2 ^ 64) : toSizeT (toSSize x) = x := by
  unfold toSSize
  split
  · exact toSizeT_natCast small
  · rw [toSizeT, Int.sub_emod, Int.emod_self, Int.sub_zero, Int.emod_emod_of_dvd _ (Int.dvd_refl _)]
    exact toSizeT_natCast small

/-! ### Configuration, faults and the oracle -/

/-- The fields of `honggfuzz_t` the mutator reads: `mutate.maxFileSz`,
`mutate.mutationsPerRun`, `mutate.dictionaryCnt`, the entries of
`mutate.dictq` (each the bytes `s[0, len)` of a `strings_t`) and
`cfg.only_printable`. `maxFileSz` is a `size_t`. -/
structure Honggfuzz where
  maxFileSz : Nat
  mutationsPerRun : Nat
  dictionaryCnt : Nat
  dictq : List (List UInt8)
  onlyPrintable : Bool
  maxFileSz_lt : maxFileSz < 2 ^ 64

/-- The error branches of the checked embedding. -/
inductive Fault where
  /-- A read or write of `dynamicFile[off, off + len)` past the logical size. -/
  | outOfBounds (off len size : Nat)
  /-- A read of `len` bytes from a source of `avail` bytes. -/
  | sourceOverrun (len avail : Nat)
  /-- An index `i` into a table (or the dictionary walk) of `n` entries. -/
  | indexOverrun (i n : Nat)
  /-- `util_rndGet(lo, hi)` with `lo > hi`. -/
  | emptyRange (lo hi : Nat)
  /-- `input_setSize` above `maxFileSz`. -/
  | tooLarge (size : Nat)
  /-- `LOG_F` on a value outside a `switch`. -/
  | fatal (value : Nat)
  deriving DecidableEq, Repr

/-- The oracle behind `util_rndGet`, `util_rnd64`, `util_rndPrintable`,
`util_rndBuf` and `util_rndBufPrintable`, with state `σ`. The fields after the
operations are the contract the mutator relies on: draws lie in the requested
range and printable bytes are printable. -/
structure Oracle (σ : Type) where
  rndGet : Nat → Nat → σ → Nat × σ
  rnd64 : σ → UInt64 × σ
  rndPrintable : σ → UInt8 × σ
  rndBuf : Nat → σ → (Nat → UInt8) × σ
  rndBufPrintable : Nat → σ → (Nat → UInt8) × σ
  rndGet_ge : ∀ lo hi s, lo ≤ hi → lo ≤ (rndGet lo hi s).1
  rndGet_le : ∀ lo hi s, lo ≤ hi → (rndGet lo hi s).1 ≤ hi
  rndPrintable_printable : ∀ s, Printable (rndPrintable s).1
  rndBufPrintable_printable : ∀ n s i, Printable ((rndBufPrintable n s).1 i)

/-- The mutator's view of `run_t`. -/
@[ext] structure Run (σ : Type) where
  global : Honggfuzz
  dynamicFile : Nat → UInt8
  dynamicFileSz : Nat
  mutationsPerRun : Nat
  rnd : σ
  fault : Option Fault

/-- The fault field after a check: unchanged when `ok` holds, else `f` unless an
earlier fault is recorded. -/
def checked (ok : Prop) [Decidable ok] (f : Fault) (fault : Option Fault) : Option Fault :=
  if ok then fault else some (fault.getD f)

@[simp] theorem checked_eq_none {ok : Prop} [Decidable ok] {f : Fault} {fault : Option Fault} :
    checked ok f fault = none ↔ ok ∧ fault = none := by
  unfold checked
  split <;> simp_all

/-- A recorded fault stays: a check only ever records the first one. -/
theorem checked_of_ne_none {ok : Prop} [Decidable ok] {f : Fault} {fault : Option Fault}
    (faulted : fault ≠ none) : checked ok f fault = fault := by
  unfold checked
  split
  · rfl
  · exact Option.getD_of_ne_none faulted f

/-! ### Buffer accesses -/

theorem getD_mem {α : Type} {table : List α} {i : Nat} (dflt : α) (inside : i < table.length) :
    table.getD i dflt ∈ table :=
  List.getD_eq_getElem table dflt inside ▸ List.getElem_mem inside

/-- What `lookup` yields: an entry of the table, or the default past its end. -/
theorem getD_mem_or_eq {α : Type} (table : List α) (i : Nat) (dflt : α) :
    table.getD i dflt ∈ table ∨ table.getD i dflt = dflt := by
  by_cases inside : i < table.length
  · exact .inl (getD_mem dflt inside)
  · exact .inr (List.getD_eq_default table dflt (by omega))

namespace Run

variable {σ : Type} (run : Run σ)

/-- Record `f` unless an earlier fault is recorded. -/
def raise (f : Fault) : Run σ := { run with fault := some (run.fault.getD f) }

/-- A check of the checked embedding: `f` is recorded when `ok` fails. -/
def check (ok : Prop) [Decidable ok] (f : Fault) : Run σ := { run with fault := checked ok f run.fault }

/-- The oracle's state after a draw. -/
def withRnd (s : σ) : Run σ := { run with rnd := s }

/-- Touch `dynamicFile[off, off + len)`. -/
@[simp] def access (off len : Nat) : Run σ :=
  run.check (len = 0 ∨ off + len ≤ run.dynamicFileSz) (.outOfBounds off len run.dynamicFileSz)

/-- Write `src 0, …, src (len - 1)` to `dynamicFile[off, off + len)`. -/
def store (off len : Nat) (src : Nat → UInt8) : Run σ :=
  { run.access off len with
    dynamicFile := fun i => if off ≤ i ∧ i < off + len then src (i - off) else run.dynamicFile i }

/-- Read `len` bytes of a source that holds `src`. -/
@[simp] def readSource (src : List UInt8) (len : Nat) : Run σ :=
  run.check (len ≤ src.length) (.sourceOverrun len src.length)

/-- `table[i]`; an index past the end faults and yields `dflt`. -/
@[simp] def lookup {α : Type} (table : List α) (i : Nat) (dflt : α) : α × Run σ :=
  (table.getD i dflt, run.check (i < table.length) (.indexOverrun i table.length))

/-- The logical input `dynamicFile[0, dynamicFileSz)`. -/
def contents : List UInt8 := (List.range run.dynamicFileSz).map run.dynamicFile

@[simp] theorem length_contents : run.contents.length = run.dynamicFileSz := by
  simp [contents]

@[simp] theorem getElem_contents (i : Nat) (inside : i < run.contents.length) :
    run.contents[i] = run.dynamicFile i := by
  simp [contents]

section Fields

variable (f : Fault) (ok : Prop) [Decidable ok] (s : σ) (off len : Nat) (src : Nat → UInt8)

@[simp] theorem raise_global : (run.raise f).global = run.global := rfl
@[simp] theorem raise_dynamicFile : (run.raise f).dynamicFile = run.dynamicFile := rfl
@[simp] theorem raise_dynamicFileSz : (run.raise f).dynamicFileSz = run.dynamicFileSz := rfl
@[simp] theorem raise_mutationsPerRun : (run.raise f).mutationsPerRun = run.mutationsPerRun := rfl
@[simp] theorem raise_rnd : (run.raise f).rnd = run.rnd := rfl
@[simp] theorem raise_fault : (run.raise f).fault = some (run.fault.getD f) := rfl

@[simp] theorem check_global : (run.check ok f).global = run.global := rfl
@[simp] theorem check_dynamicFile : (run.check ok f).dynamicFile = run.dynamicFile := rfl
@[simp] theorem check_dynamicFileSz : (run.check ok f).dynamicFileSz = run.dynamicFileSz := rfl
@[simp] theorem check_mutationsPerRun : (run.check ok f).mutationsPerRun = run.mutationsPerRun := rfl
@[simp] theorem check_rnd : (run.check ok f).rnd = run.rnd := rfl
@[simp] theorem check_fault : (run.check ok f).fault = checked ok f run.fault := rfl

@[simp] theorem withRnd_global : (run.withRnd s).global = run.global := rfl
@[simp] theorem withRnd_dynamicFile : (run.withRnd s).dynamicFile = run.dynamicFile := rfl
@[simp] theorem withRnd_dynamicFileSz : (run.withRnd s).dynamicFileSz = run.dynamicFileSz := rfl
@[simp] theorem withRnd_mutationsPerRun : (run.withRnd s).mutationsPerRun = run.mutationsPerRun :=
  rfl
@[simp] theorem withRnd_rnd : (run.withRnd s).rnd = s := rfl
@[simp] theorem withRnd_fault : (run.withRnd s).fault = run.fault := rfl

@[simp] theorem store_global : (run.store off len src).global = run.global := rfl
@[simp] theorem store_dynamicFileSz : (run.store off len src).dynamicFileSz = run.dynamicFileSz :=
  rfl
@[simp] theorem store_mutationsPerRun :
    (run.store off len src).mutationsPerRun = run.mutationsPerRun := rfl
@[simp] theorem store_rnd : (run.store off len src).rnd = run.rnd := rfl
@[simp] theorem store_dynamicFile (i : Nat) :
    (run.store off len src).dynamicFile i =
      if off ≤ i ∧ i < off + len then src (i - off) else run.dynamicFile i := rfl
@[simp] theorem store_fault :
    (run.store off len src).fault =
      checked (len = 0 ∨ off + len ≤ run.dynamicFileSz) (.outOfBounds off len run.dynamicFileSz)
        run.fault := rfl

@[simp] theorem withRnd_withRnd (s' : σ) : (run.withRnd s).withRnd s' = run.withRnd s' := rfl

end Fields

/-- A store reads its source only inside its window. -/
theorem store_congr {off len : Nat} {src₁ src₂ : Nat → UInt8} (same : ∀ k < len, src₁ k = src₂ k) :
    run.store off len src₁ = run.store off len src₂ := by
  apply Run.ext
  case dynamicFile =>
    funext i
    simp only [store_dynamicFile]
    split_ifs with inside
    · exact same _ (by omega)
    · rfl
  all_goals rfl

/-- A check that holds changes nothing. -/
theorem check_pos {run : Run σ} {ok : Prop} [Decidable ok] {f : Fault} (holds : ok) :
    run.check ok f = run := by
  unfold check checked
  rw [if_pos holds]

end Run

/-- Modelled from the spec: `input_setSize` (input.c, absent from src/) adjusts the
logical size and leaves the storage as it is, so bytes exposed by growth hold
whatever the storage held; a size above `maxFileSz` is a contract violation. -/
def inputSetSize {σ : Type} (sz : Nat) (run : Run σ) : Run σ :=
  { run.check (sz ≤ run.global.maxFileSz) (.tooLarge sz) with dynamicFileSz := sz }

section SetSize

variable {σ : Type} (sz : Nat) (run : Run σ)

@[simp] theorem inputSetSize_global : (inputSetSize sz run).global = run.global := rfl
@[simp] theorem inputSetSize_dynamicFile : (inputSetSize sz run).dynamicFile = run.dynamicFile := rfl
@[simp] theorem inputSetSize_dynamicFileSz : (inputSetSize sz run).dynamicFileSz = sz := rfl
@[simp] theorem inputSetSize_mutationsPerRun :
    (inputSetSize sz run).mutationsPerRun = run.mutationsPerRun := rfl
@[simp] theorem inputSetSize_rnd : (inputSetSize sz run).rnd = run.rnd := rfl
@[simp] theorem inputSetSize_fault :
    (inputSetSize sz run).fault = checked (sz ≤ run.global.maxFileSz) (.tooLarge sz) run.fault := rfl

end SetSize

/-- The size invariant of `run_t`. -/
def SizeOk {σ : Type} (run : Run σ) : Prop :=
  1 ≤ run.dynamicFileSz ∧ run.dynamicFileSz ≤ run.global.maxFileSz

instance {σ : Type} : DecidablePred (SizeOk (σ := σ)) := fun run =>
  inferInstanceAs (Decidable (1 ≤ run.dynamicFileSz ∧ run.dynamicFileSz ≤ run.global.maxFileSz))

/-- An operator that keeps the configuration and the size keeps the invariant. -/
theorem SizeOk.of_frame {σ : Type} {run run' : Run σ} (global : run'.global = run.global)
    (size : run'.dynamicFileSz = run.dynamicFileSz) (sizeOk : SizeOk run) : SizeOk run' := by
  unfold SizeOk at *
  rw [global, size]
  exact sizeOk

/-- Modelled from the spec: the byte `util_turnToPrintable` (libhfcommon/util.c,
absent from src/) makes of `b`: `b mod 95 + 0x20` when `b` lies outside
`[0x20, 0x7E]`. -/
def toPrintable (b : UInt8) : UInt8 :=
  if b.toNat < 0x20 ∨ 0x7E < b.toNat then UInt8.ofNat (b.toNat % 95 + 0x20) else b

/-- Modelled from the spec: `util_turnToPrintable(&dynamicFile[off], len)`. -/
def utilTurnToPrintable {σ : Type} (off len : Nat) (run : Run σ) : Run σ :=
  run.store off len fun k => toPrintable (run.dynamicFile (off + k))

section TurnToPrintable

variable {σ : Type} (off len : Nat) (run : Run σ)

@[simp] theorem utilTurnToPrintable_global : (utilTurnToPrintable off len run).global = run.global :=
  rfl
@[simp] theorem utilTurnToPrintable_dynamicFileSz :
    (utilTurnToPrintable off len run).dynamicFileSz = run.dynamicFileSz := rfl
@[simp] theorem utilTurnToPrintable_mutationsPerRun :
    (utilTurnToPrintable off len run).mutationsPerRun = run.mutationsPerRun := rfl
@[simp] theorem utilTurnToPrintable_rnd : (utilTurnToPrintable off len run).rnd = run.rnd := rfl
@[simp] theorem utilTurnToPrintable_fault :
    (utilTurnToPrintable off len run).fault = (run.store off len fun _ => 0).fault := rfl
@[simp] theorem utilTurnToPrintable_dynamicFile (i : Nat) :
    (utilTurnToPrintable off len run).dynamicFile i =
      if off ≤ i ∧ i < off + len then toPrintable (run.dynamicFile i) else run.dynamicFile i := by
  simp only [utilTurnToPrintable, Run.store_dynamicFile]
  split_ifs with inside
  · rw [Nat.add_sub_cancel' inside.1]
  · rfl

/-- `util_turnToPrintable` over a window just stored stores the printable bytes. -/
theorem utilTurnToPrintable_store (src : Nat → UInt8) :
    utilTurnToPrintable off len (run.store off len src) = run.store off len fun k => toPrintable (src k) := by
  apply Run.ext
  case dynamicFile =>
    funext i
    simp only [utilTurnToPrintable_dynamicFile, Run.store_dynamicFile]
    split_ifs <;> rfl
  case fault =>
    simp only [utilTurnToPrintable_fault, Run.store_fault, Run.store_dynamicFileSz, checked]
    split_ifs <;> simp
  all_goals rfl

end TurnToPrintable

theorem toPrintable_printable (b : UInt8) : Printable (toPrintable b) := by
  unfold toPrintable Printable
  split
  · rw [UInt8.toNat_ofNat_of_lt (show b.toNat % 95 + 0x20 < 256 by omega)]
    omega
  · omega

/-! ### The oracle -/

section Draws

variable {σ : Type} (o : Oracle σ)

/-- `util_rndGet(lo, hi)`. -/
@[simp] def utilRndGet (lo hi : Nat) (run : Run σ) : Nat × Run σ :=
  ((o.rndGet lo hi run.rnd).1,
    (run.check (lo ≤ hi) (.emptyRange lo hi)).withRnd (o.rndGet lo hi run.rnd).2)

/-- `util_rnd64()`. -/
@[simp] def utilRnd64 (run : Run σ) : UInt64 × Run σ :=
  ((o.rnd64 run.rnd).1, run.withRnd (o.rnd64 run.rnd).2)

/-- `util_rndPrintable()`. -/
@[simp] def utilRndPrintable (run : Run σ) : UInt8 × Run σ :=
  ((o.rndPrintable run.rnd).1, run.withRnd (o.rndPrintable run.rnd).2)

/-- `util_rndBufPrintable(buf, len)` when `printable`, else `util_rndBuf(buf, len)`:
the bytes the oracle writes to `buf[0, len)`. -/
@[simp] def rndBuf (printable : Bool) (len : Nat) (run : Run σ) : (Nat → UInt8) × Run σ :=
  let drawn := if printable then o.rndBufPrintable len run.rnd else o.rndBuf len run.rnd
  (drawn.1, run.withRnd drawn.2)

theorem utilRndGet_le (lo hi : Nat) (run : Run σ) (nonempty : lo ≤ hi) :
    (utilRndGet o lo hi run).1 ≤ hi :=
  o.rndGet_le lo hi run.rnd nonempty

theorem utilRndGet_ge (lo hi : Nat) (run : Run σ) (nonempty : lo ≤ hi) :
    lo ≤ (utilRndGet o lo hi run).1 :=
  o.rndGet_ge lo hi run.rnd nonempty

/-- A named draw from a nonempty range lies in it. -/
theorem Oracle.draw_mem {lo hi x : Nat} {s s' : σ} (draw : o.rndGet lo hi s = (x, s'))
    (nonempty : lo ≤ hi) : lo ≤ x ∧ x ≤ hi := by
  have ge := o.rndGet_ge lo hi s nonempty
  have le := o.rndGet_le lo hi s nonempty
  rw [draw] at ge le
  exact ⟨ge, le⟩

theorem rndBuf_printable (len : Nat) (run : Run σ) (i : Nat) :
    Printable ((rndBuf o true len run).1 i) :=
  o.rndBufPrintable_printable len run.rnd i

end Draws

/-! ### A scripted oracle -/

/-- An oracle reading a tape: each draw takes the next value, a value outside the
requested range reads as `lo`; a buffer of `len` bytes takes the next `len`
values, made printable for the printable variants. -/
def tapeOracle : Oracle (List Nat) where
  rndGet lo hi tape :=
    (if lo ≤ tape.headD lo ∧ tape.headD lo ≤ hi then tape.headD lo else lo, tape.tail)
  rnd64 tape := (UInt64.ofNat (tape.headD 0), tape.tail)
  rndPrintable tape := (toPrintable (UInt8.ofNat (tape.headD 0)), tape.tail)
  rndBuf len tape := (fun i => UInt8.ofNat (tape.getD i 0), tape.drop len)
  rndBufPrintable len tape := (fun i => toPrintable (UInt8.ofNat (tape.getD i 0)), tape.drop len)
  rndGet_ge lo hi tape _ := by dsimp only; split <;> omega
  rndGet_le lo hi tape nonempty := by dsimp only; split <;> omega
  rndPrintable_printable _ := toPrintable_printable _
  rndBufPrintable_printable _ _ _ := toPrintable_printable _

/-- An oracle that always draws the low end of its range, zero words and spaces. -/
def lowOracle : Oracle Unit where
  rndGet lo _ _ := (lo, ())
  rnd64 _ := (0, ())
  rndPrintable _ := (0x20, ())
  rndBuf _ _ := (fun _ => 0x20, ())
  rndBufPrintable _ _ := (fun _ => 0x20, ())
  rndGet_ge _ _ _ _ := Nat.le_refl _
  rndGet_le _ _ _ nonempty := nonempty
  rndPrintable_printable _ := show Printable 0x20 by decide
  rndBufPrintable_printable _ _ _ := show Printable 0x20 by decide

end Honggfuzz.Mangle
