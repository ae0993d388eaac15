import Honggfuzz.Mangle.Agreement

/-!
Footprints. Once its draws are made, an operator that keeps the size moves the
oracle on, makes at most one check of its own and stores a few windows: an
`Effect`. The footprint of an operator gives, for each run with the size
invariant, the effect it performs and what that effect reads, writes and
checks: the operator performs the same effect on every run that agrees with
this one on the input, the windows lie inside the input, the check holds under
the configuration's bounds, and in printable mode the stored bytes are
printable when the storage and the dictionary are. The invariants of the later
modules (no fault, a recorded fault kept, the storage past the input kept,
agreement at either reach, printability) are proved here once, for every
footprint.
-/

namespace Honggfuzz.Mangle

variable {σ : Type}

/-! ### Invariants of a run -/

/-- The configuration the fault-freedom results assume: `maxFileSz` fits
`ssize_t`, so the clamps of `mangle_Move` are minima, and the dictionary walk
stays on the list. -/
structure ConfigOk (cfg : Honggfuzz) : Prop where
  small : cfg.maxFileSz < 2 ^ 63
  dictionary : cfg.dictionaryCnt ≤ cfg.dictq.length

/-- A state with the size invariant and no fault recorded. -/
structure Sound (run : Run σ) : Prop where
  sizeOk : SizeOk run
  clean : run.fault = none

/-- Every byte of the storage is printable, inside the input and beyond it. -/
def AllPrintable (run : Run σ) : Prop := ∀ i, Printable (run.dynamicFile i)

/-- Every dictionary entry is printable text. -/
def DictPrintable (cfg : Honggfuzz) : Prop := ∀ entry ∈ cfg.dictq, ∀ b ∈ entry, Printable b

/-- `after` holds what `before` held at every index at or past both sizes. -/
def TailKept (before after : Run σ) : Prop :=
  ∀ i, before.dynamicFileSz ≤ i → after.dynamicFileSz ≤ i →
    after.dynamicFile i = before.dynamicFile i

theorem AllPrintable.store {run : Run σ} (all : AllPrintable run) {off len : Nat}
    {src : Nat → UInt8} (window : ∀ k < len, Printable (src k)) :
    AllPrintable (run.store off len src) := by
  intro i
  rw [Run.store_dynamicFile]
  split_ifs with inside
  · exact window _ (by omega)
  · exact all i

/-! ### Effects -/

/-- One window store: `src 0, …, src (len - 1)` to `dynamicFile[off, off + len)`. -/
structure Write where
  off : Nat
  len : Nat
  src : Nat → UInt8

/-- What an operator does once its draws are made: the oracle moves to `rnd`,
its own check records `failure` when it fails, and `writes` are stored in order. -/
structure Effect (σ : Type) where
  rnd : σ
  failure : Option Fault
  writes : List Write

/-- Every window lies inside an input of `size` bytes. -/
def Effect.Inside (e : Effect σ) (size : Nat) : Prop := ∀ w ∈ e.writes, w.off + w.len ≤ size

/-- Every byte stored is printable. -/
def Effect.PrintableStores (e : Effect σ) : Prop := ∀ w ∈ e.writes, ∀ k < w.len, Printable (w.src k)

theorem Effect.inside_single {s : σ} {failure : Option Fault} {off len size : Nat} {src : Nat → UInt8}
    (fits : off + len ≤ size) : Effect.Inside ⟨s, failure, [⟨off, len, src⟩]⟩ size :=
  fun _ mem => List.mem_singleton.1 mem ▸ fits

theorem Effect.printableStores_single {s : σ} {failure : Option Fault} {off len : Nat}
    {src : Nat → UInt8} (printable : ∀ k < len, Printable (src k)) :
    Effect.PrintableStores ⟨s, failure, [⟨off, len, src⟩]⟩ :=
  fun _ mem => List.mem_singleton.1 mem ▸ printable

namespace Run

/-- Record `failure`, if any. -/
def fail (run : Run σ) : Option Fault → Run σ
  | none => run
  | some f => run.raise f

/-- Store the windows in order. -/
def writeAll (run : Run σ) : List Write → Run σ
  | [] => run
  | w :: ws => (run.store w.off w.len w.src).writeAll ws

/-- Perform an effect. -/
def perform (run : Run σ) (e : Effect σ) : Run σ := ((run.withRnd e.rnd).fail e.failure).writeAll e.writes

variable (run : Run σ)

@[simp] theorem fail_none : run.fail none = run := rfl

/-- A check is the failure it records when it does not hold. -/
theorem check_eq_fail (ok : Prop) [Decidable ok] (f : Fault) :
    run.check ok f = run.fail (if ok then none else some f) := by
  unfold check checked
  split <;> rfl

section Fields

variable (failure : Option Fault) (ws : List Write) (e : Effect σ)

@[simp] theorem fail_global : (run.fail failure).global = run.global := by cases failure <;> rfl
@[simp] theorem fail_dynamicFile : (run.fail failure).dynamicFile = run.dynamicFile := by
  cases failure <;> rfl
@[simp] theorem fail_dynamicFileSz : (run.fail failure).dynamicFileSz = run.dynamicFileSz := by
  cases failure <;> rfl
@[simp] theorem fail_mutationsPerRun : (run.fail failure).mutationsPerRun = run.mutationsPerRun := by
  cases failure <;> rfl
@[simp] theorem fail_rnd : (run.fail failure).rnd = run.rnd := by cases failure <;> rfl
@[simp] theorem withRnd_fail (s : σ) : (run.fail failure).withRnd s = (run.withRnd s).fail failure := by
  cases failure <;> rfl

@[simp] theorem writeAll_global : (run.writeAll ws).global = run.global := by
  induction ws generalizing run <;> simp [writeAll, *]
@[simp] theorem writeAll_dynamicFileSz : (run.writeAll ws).dynamicFileSz = run.dynamicFileSz := by
  induction ws generalizing run <;> simp [writeAll, *]
@[simp] theorem writeAll_mutationsPerRun :
    (run.writeAll ws).mutationsPerRun = run.mutationsPerRun := by
  induction ws generalizing run <;> simp [writeAll, *]
@[simp] theorem writeAll_rnd : (run.writeAll ws).rnd = run.rnd := by
  induction ws generalizing run <;> simp [writeAll, *]

@[simp] theorem perform_global : (run.perform e).global = run.global := by simp [perform]
@[simp] theorem perform_dynamicFileSz : (run.perform e).dynamicFileSz = run.dynamicFileSz := by
  simp [perform]
@[simp] theorem perform_mutationsPerRun : (run.perform e).mutationsPerRun = run.mutationsPerRun := by
  simp [perform]
@[simp] theorem perform_rnd : (run.perform e).rnd = e.rnd := by simp [perform]

end Fields

/-- Stores inside the input record no fault. -/
theorem writeAll_fault {ws : List Write} (inside : ∀ w ∈ ws, w.off + w.len ≤ run.dynamicFileSz) :
    (run.writeAll ws).fault = run.fault := by
  induction ws generalizing run with
  | nil => rfl
  | cons w ws ih =>
      rw [writeAll, ih _ fun v mem => by simpa using inside v (.tail _ mem), store_fault,
        checked, if_pos (.inr (inside w (.head _)))]

theorem writeAll_fault_of_ne_none {ws : List Write} (faulted : run.fault ≠ none) :
    (run.writeAll ws).fault = run.fault := by
  induction ws generalizing run with
  | nil => rfl
  | cons w ws ih =>
      have kept : (run.store w.off w.len w.src).fault = run.fault := by
        rw [store_fault, checked_of_ne_none faulted]
      rw [writeAll, ih _ (kept ▸ faulted), kept]

theorem writeAll_dynamicFile_of_le {ws : List Write} {i : Nat} (past : ∀ w ∈ ws, w.off + w.len ≤ i) :
    (run.writeAll ws).dynamicFile i = run.dynamicFile i := by
  induction ws generalizing run with
  | nil => rfl
  | cons w ws ih =>
      rw [writeAll, ih _ fun v mem => past v (.tail _ mem), store_dynamicFile,
        if_neg (by have := past w (.head _); omega)]

theorem perform_fault {e : Effect σ} (inside : e.Inside run.dynamicFileSz)
    (checks : e.failure = none) : (run.perform e).fault = run.fault := by
  rw [perform, checks, writeAll_fault _ (by simpa using inside)]
  rfl

theorem perform_fault_of_ne_none (e : Effect σ) (faulted : run.fault ≠ none) :
    (run.perform e).fault = run.fault := by
  have failed : ((run.withRnd e.rnd).fail e.failure).fault = run.fault := by
    cases e.failure
    · rfl
    · exact Option.getD_of_ne_none faulted _ ▸ rfl
  rw [perform, writeAll_fault_of_ne_none _ (failed ▸ faulted), failed]

theorem perform_dynamicFile_of_le {e : Effect σ} {i : Nat} (past : ∀ w ∈ e.writes, w.off + w.len ≤ i) :
    (run.perform e).dynamicFile i = run.dynamicFile i := by
  rw [perform, writeAll_dynamicFile_of_le _ past, fail_dynamicFile]
  rfl

end Run

theorem AllPrintable.writeAll {run : Run σ} (all : AllPrintable run) {ws : List Write}
    (stores : ∀ w ∈ ws, ∀ k < w.len, Printable (w.src k)) : AllPrintable (run.writeAll ws) := by
  induction ws generalizing run with
  | nil => exact all
  | cons w ws ih => exact ih (all.store (stores w (.head _))) fun v mem => stores v (.tail _ mem)

theorem AllPrintable.perform {run : Run σ} (all : AllPrintable run) {e : Effect σ}
    (stores : e.PrintableStores) : AllPrintable (run.perform e) :=
  AllPrintable.writeAll (fun i => by simpa using all i) stores

namespace AgreeTo

variable {r : Reach} {a b : Run σ}

theorem fail (agree : AgreeTo r a b) (failure : Option Fault) :
    AgreeTo r (a.fail failure) (b.fail failure) := by
  cases failure
  · exact agree
  · exact agree.raise _ _

theorem writeAll (agree : AgreeTo r a b) (ws : List Write) :
    AgreeTo r (a.writeAll ws) (b.writeAll ws) := by
  induction ws generalizing a b with
  | nil => exact agree
  | cons w ws ih => exact ih (agree.store fun _ _ _ => rfl)

/-- Two agreeing runs that perform the same effect still agree. -/
theorem perform (agree : AgreeTo r a b) (e : Effect σ) : AgreeTo r (a.perform e) (b.perform e) :=
  ((agree.withRnd e.rnd).fail e.failure).writeAll e.writes

end AgreeTo

/-! ### Footprints -/

/-- What `op` does on `run`, given as the effect `e`: it performs `e`; with
`printing`, `e` stores printable bytes when the storage and the dictionary are
printable; with the size invariant and `maxFileSz` fitting `ssize_t`, the
windows of `e` lie inside the input and `op` performs `e` on every run that
agrees with `run`; and under the configuration's bounds the check of `e` holds. -/
structure FootprintAt (op : Run σ → Run σ) (printing : Prop) (run : Run σ) (e : Effect σ) :
    Prop where
  performs : op run = run.perform e
  printableStores : printing → AllPrintable run → DictPrintable run.global → e.PrintableStores
  inside : SizeOk run → run.global.maxFileSz < 2 ^ 63 → e.Inside run.dynamicFileSz
  reads : SizeOk run → run.global.maxFileSz < 2 ^ 63 → ∀ b, Agree run b → op b = b.perform e
  checks : SizeOk run → ConfigOk run.global → e.failure = none

/-- The footprint of `op`: on every run it performs an effect of which
`FootprintAt` holds. -/
def Footprint (op : Run σ → Run σ) (printing : Prop) : Prop := ∀ run, ∃ e, FootprintAt op printing run e

/-- Running nothing is the effect with no store, and reads nothing. -/
theorem footprint_id (printing : Prop) : Footprint (fun run : Run σ => run) printing :=
  fun run => ⟨⟨run.rnd, none, []⟩, rfl, fun _ _ _ _ => nofun, fun _ _ _ => nofun,
    fun _ _ b agree => by
      show b = b.perform _
      rw [agree.rnd]
      rfl, fun _ _ => rfl⟩

namespace FootprintAt

variable {op : Run σ → Run σ} {printing : Prop} {run : Run σ} {e : Effect σ}

theorem mono {p : Prop} (spec : FootprintAt op printing run e) (imp : p → printing) :
    FootprintAt op p run e :=
  { spec with printableStores := fun printing => spec.printableStores (imp printing) }

/-- An operator that runs `op` after a draw that leaves the oracle at `s` has
the footprint `op` has there. -/
theorem afterDraw {op' : Run σ → Run σ} {s : σ} (spec : FootprintAt op printing (run.withRnd s) e)
    (same : ∀ b, Agree run b → op' b = op (b.withRnd s)) : FootprintAt op' printing run e where
  performs := (same run (AgreeTo.refl _ run)).trans spec.performs
  printableStores := spec.printableStores
  inside := spec.inside
  reads sizeOk small b agree := by
    rw [same b agree, spec.reads sizeOk small _ (agree.withRnd s)]
    rfl
  checks := spec.checks

/-- An operator that agrees with `op` on the runs that agree with `run`. -/
theorem congr {op' : Run σ → Run σ} (spec : FootprintAt op printing run e)
    (same : ∀ b, Agree run b → op' b = op b) : FootprintAt op' printing run e where
  performs := (same run (AgreeTo.refl _ run)).trans spec.performs
  printableStores := spec.printableStores
  inside := spec.inside
  reads sizeOk small b agree := (same b agree).trans (spec.reads sizeOk small b agree)
  checks := spec.checks

variable (spec : FootprintAt op printing run e)
include spec

theorem fault (config : ConfigOk run.global) (sound : Sound run) : (op run).fault = none := by
  rw [spec.performs, Run.perform_fault _ (spec.inside sound.sizeOk config.small)
    (spec.checks sound.sizeOk config)]
  exact sound.clean

theorem fault_keep (faulted : run.fault ≠ none) : (op run).fault = run.fault := by
  rw [spec.performs, Run.perform_fault_of_ne_none _ e faulted]

theorem tailKept (sizeOk : SizeOk run) (small : run.global.maxFileSz < 2 ^ 63) :
    TailKept run (op run) := by
  intro i past _
  rw [spec.performs, Run.perform_dynamicFile_of_le _ fun w mem =>
    Nat.le_trans (spec.inside sizeOk small w mem) past]

theorem agreeTo {r : Reach} {b : Run σ} (sizeOk : SizeOk run) (small : run.global.maxFileSz < 2 ^ 63)
    (agree : AgreeTo r run b) : AgreeTo r (op run) (op b) := by
  rw [spec.performs, spec.reads sizeOk small b (agree.toAgree sizeOk.2)]
  exact agree.perform e

theorem allPrintable (printing : printing) (dict : DictPrintable run.global) (all : AllPrintable run) :
    AllPrintable (op run) := by
  rw [spec.performs]
  exact all.perform (spec.printableStores printing all dict)

end FootprintAt

theorem Footprint.mono {op : Run σ → Run σ} {p q : Prop} (footprint : Footprint op q) (imp : p → q) :
    Footprint op p := fun run =>
  let ⟨e, spec⟩ := footprint run
  ⟨e, spec.mono imp⟩

end Honggfuzz.Mangle
