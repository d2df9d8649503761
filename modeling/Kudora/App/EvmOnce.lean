import Kudora.App.EvmInit
import Mathlib.Algebra.BigOperators.Fin
import Mathlib.Algebra.Order.BigOperators.Group.Finset
import Mathlib.Data.List.FinRange

set_option autoImplicit false

/-!
# `EVMAppOptions` under concurrent callers

`EVMAppOptions` may be called from many goroutines at once; `TestEVMAppOptionsThreadSafety`
starts a hundred. `evmInitOnce.Do(f)` reads the flag `done` without a lock and, when it is
clear, takes the mutex of the `sync.Once`, reads the flag again, and runs `f` under the mutex,
with two deferred calls: `done.Store(1)`, then `m.Unlock()`. Each goroutine then reads the
package variable `evmInitErr`.

This module gives each goroutine a program counter over those statements, lets a scheduler
choose which goroutine moves at each step, and proves what holds for every schedule.

## Main definitions

* `Kudora.App.OncePc` — where a goroutine stands in `EVMAppOptions`.
* `Kudora.App.OnceState`, `Kudora.App.OnceState.step`, `Kudora.App.OnceState.run` — the
  shared state of `n` goroutines, one statement of one goroutine, and a schedule.
* `Kudora.App.OnceState.Phase` — what the once-cell has done: nothing, the closure ran, or
  the flag is set, with the goroutine that ran the closure.

## Main results

* `Kudora.App.OnceState.mutex_run` — at most one goroutine holds the mutex, and the mutex is
  locked exactly when one does.
* `Kudora.App.evmAppOptions_initOnce` — under every schedule `initEVM` is entered at most
  once, and a goroutine returns only after the flag is set, with the stored error.
* `Kudora.App.evmAppOptions_terminates` — every schedule has at most `7 n` steps, and a
  state in which no goroutine can move has every goroutine finished: the calls never
  deadlock.
* `Kudora.App.evmAppOptions_linearizable` — when every goroutine has finished, the outcomes
  and the globals are those of the sequential `evmAppOptionsRun` on an order of the
  goroutines, the one that ran the closure first.

## Design

The interleaving is sequentially consistent: Go's atomic load and store of `done` and the
mutex order the writes of `f` before every read that follows the flag. `f()` is one step.
While it runs, its goroutine holds the mutex and the flag is clear, so every other goroutine
is at the fast-path load or waiting for the mutex and reads neither `evmInitErr` nor the
process state (`Phase.ran` records this); no interleaving inside `f` can be observed.
A panic of `f` runs both deferred calls and ends its goroutine's call with the panic; the
other goroutines go on.
-/

namespace Kudora.App

/-- Where a goroutine stands in `EVMAppOptions(chainID)`: the statements of `Once.Do`,
`Once.doSlow` and the final `return evmInitErr`. -/
inductive OncePc where
  /-- `if o.done.Load() == 0` in `Do`. -/
  | start
  /-- `o.m.Lock()` in `doSlow`. -/
  | lock
  /-- `if o.done.Load() == 0` in `doSlow`, holding the mutex. -/
  | check
  /-- `f()`, holding the mutex. -/
  | run
  /-- The deferred `o.done.Store(1)`, after `f` returned or while its panic unwinds. -/
  | store (panic : Option Panic)
  /-- The deferred `o.m.Unlock()`. -/
  | unlock (panic : Option Panic)
  /-- `return evmInitErr`, after `Do` returned. -/
  | load
  /-- `EVMAppOptions` returned this error value. -/
  | returned (err : Option Error)
  /-- `EVMAppOptions` panicked with this value. -/
  | panicked (p : Panic)
deriving DecidableEq, Repr

namespace OncePc

/-- The statements run while holding the mutex. -/
def holdsLock : OncePc → Bool
  | .check | .run | .store _ | .unlock _ => true
  | _ => false

/-- `EVMAppOptions` has returned or panicked. -/
def finished : OncePc → Bool
  | .returned _ | .panicked _ => true
  | _ => false

/-- The outcome of a finished call. -/
def outcome : OncePc → Option (Call (Option Error))
  | .returned err => some (.ok err)
  | .panicked p => some (.error p)
  | _ => none

/-- How far a goroutine has got: every statement moves it forward. -/
def rank : OncePc → Nat
  | .start => 0
  | .lock => 1
  | .check => 2
  | .run => 3
  | .store _ => 4
  | .unlock _ => 5
  | .load => 6
  | .returned _ | .panicked _ => 7

lemma rank_le_seven (pc : OncePc) : pc.rank ≤ 7 := by
  cases pc <;> simp [rank]

/-- Not past `f()`: the statements before the closure can have run. -/
def beforeRun : OncePc → Bool
  | .start | .lock | .check | .run => true
  | _ => false

/-- At the fast-path load or waiting for the mutex. -/
def waiting : OncePc → Bool
  | .start | .lock => true
  | _ => false

/-- Where a goroutine that did not run the closure can be once the flag is set, `err` being
the stored error. -/
def AfterFlag (err : Option Error) : OncePc → Prop
  | .start | .lock | .check | .unlock none | .load => True
  | .returned e => e = err
  | _ => False

/-- Where the goroutine that ran the closure can be once the flag is set, `panic` being the
closure's panic and `err` the stored error. -/
def AfterRun : Option Panic → Option Error → OncePc → Prop
  | panic, _, .unlock panic' => panic' = panic
  | none, _, .load => True
  | none, err, .returned e => e = err
  | some p, _, .panicked p' => p' = p
  | _, _, _ => False

lemma afterFlag_of_waiting {pc : OncePc} (h : pc.waiting = true) (err : Option Error) :
    pc.AfterFlag err := by
  cases pc <;> simp_all [waiting, AfterFlag]

/-- A finished goroutine that ran the closure returns what the closure left, or its panic. -/
lemma outcome_of_afterRun {pc : OncePc} {panic : Option Panic} {err : Option Error}
    (h : pc.AfterRun panic err) (hfin : pc.finished = true) :
    pc.outcome = some (panic.elim (.ok err) .error) := by
  cases pc <;> cases panic <;> simp_all [AfterRun, finished, outcome]

/-- A finished goroutine that did not run the closure returns the stored error. -/
lemma outcome_of_afterFlag {pc : OncePc} {err : Option Error} (h : pc.AfterFlag err)
    (hfin : pc.finished = true) : pc.outcome = some (.ok err) := by
  cases pc <;> simp_all [AfterFlag, finished, outcome]

end OncePc

section Closure

variable {σ : Type} (lib : EvmLibrary σ)

/-- `f()`, the closure `func() { evmInitErr = initEVM(chainID) }`, on the globals: the panic
it raised, if any, and the globals after it. -/
def runClosure (chainID : String) (g : EvmGlobals σ) : Option Panic × EvmGlobals σ :=
  match initEVMClosure lib chainID g with
  | .ok () g' => (none, g')
  | .error p g' => (some p, g')

/-- The closure leaves the flag alone and records its chain id. -/
lemma runClosure_done_initEVMRuns (chainID : String) (g : EvmGlobals σ) :
    (runClosure lib chainID g).2.done = g.done ∧
      (runClosure lib chainID g).2.initEVMRuns = g.initEVMRuns ++ [chainID] := by
  rcases h : initEVM lib chainID g.process with ⟨err, s⟩ | ⟨p, s⟩ <;>
    simp [runClosure, initEVMClosure, h]

/-- **A call that finds the flag clear is the closure followed by the deferred store of the
flag**, whether the closure returned or panicked. -/
lemma evmAppOptionsStep_of_not_done (chainID : String) {g : EvmGlobals σ} (h : g.done = false) :
    evmAppOptionsStep lib chainID g =
      ((runClosure lib chainID g).1.elim (.ok (runClosure lib chainID g).2.evmInitErr) .error,
        { (runClosure lib chainID g).2 with done := true }) := by
  rcases hi : initEVM lib chainID g.process with ⟨err, s⟩ | ⟨p, s⟩ <;>
    simp [evmAppOptionsStep, evmAppOptions, onceDo, h, runClosure, initEVMClosure, hi, bind,
      EStateM.bind, get, getThe, MonadStateOf.get, EStateM.get, pure, EStateM.pure]

end Closure

/-- The shared state of `n` goroutines calling `EVMAppOptions`: the package globals, with the
flag of `evmInitOnce`; the mutex of `evmInitOnce`; and the statement each goroutine is at. -/
structure OnceState (σ : Type) (n : Nat) where
  globals : EvmGlobals σ
  locked : Bool
  pcs : Fin n → OncePc

namespace OnceState

variable {σ : Type} {n : Nat}

/-- Process start: the zero `sync.Once`, and every goroutine about to call `Do`. -/
def initial (s₀ : σ) : OnceState σ n := ⟨EvmGlobals.initial s₀, false, fun _ => .start⟩

/-- Goroutine `i` moves to `pc`. -/
def setPc (s : OnceState σ n) (i : Fin n) (pc : OncePc) : OnceState σ n :=
  { s with pcs := Function.update s.pcs i pc }

@[simp] lemma setPc_pcs_self (s : OnceState σ n) (i : Fin n) (pc : OncePc) :
    (s.setPc i pc).pcs i = pc := by
  simp [setPc]

@[simp] lemma setPc_pcs_of_ne (s : OnceState σ n) {i j : Fin n} (pc : OncePc) (h : j ≠ i) :
    (s.setPc i pc).pcs j = s.pcs j := by
  simp [setPc, h]

@[simp] lemma setPc_globals (s : OnceState σ n) (i : Fin n) (pc : OncePc) :
    (s.setPc i pc).globals = s.globals := rfl

@[simp] lemma setPc_locked (s : OnceState σ n) (i : Fin n) (pc : OncePc) :
    (s.setPc i pc).locked = s.locked := rfl

section Step

variable (lib : EvmLibrary σ) (chainIDs : Fin n → String)

/-- One statement of goroutine `i`, calling `EVMAppOptions(chainIDs i)`; `none` when it waits
for the mutex or has finished. -/
def step (s : OnceState σ n) (i : Fin n) : Option (OnceState σ n) :=
  match s.pcs i with
  | .start => some (s.setPc i (if s.globals.done then .load else .lock))
  | .lock => if s.locked then none else some ({ s with locked := true }.setPc i .check)
  | .check => some (s.setPc i (if s.globals.done then .unlock none else .run))
  | .run =>
    some ({ s with globals := (runClosure lib (chainIDs i) s.globals).2 }.setPc i
      (.store (runClosure lib (chainIDs i) s.globals).1))
  | .store panic =>
    some ({ s with globals := { s.globals with done := true } }.setPc i (.unlock panic))
  | .unlock panic =>
    some ({ s with locked := false }.setPc i (panic.elim .load .panicked))
  | .load => some (s.setPc i (.returned s.globals.evmInitErr))
  | .returned _ | .panicked _ => none

/-- A schedule: the goroutines in the order the scheduler moves them, or `none` if it picks
one that cannot move. -/
def run (s : OnceState σ n) : List (Fin n) → Option (OnceState σ n)
  | [] => some s
  | i :: is => (s.step lib chainIDs i).bind fun s' => run s' is

lemma run_cons {s s'' : OnceState σ n} {i : Fin n} {is : List (Fin n)}
    (h : s.run lib chainIDs (i :: is) = some s'') :
    ∃ s', s.step lib chainIDs i = some s' ∧ s'.run lib chainIDs is = some s'' :=
  Option.bind_eq_some.mp h

/-- A goroutine that holds the mutex can always move. -/
lemma step_isSome_of_holdsLock {s : OnceState σ n} {i : Fin n}
    (h : (s.pcs i).holdsLock = true) : (s.step lib chainIDs i).isSome := by
  unfold step
  split <;> simp_all [OncePc.holdsLock]

/-- A goroutine that has not finished can move unless it waits for the mutex. -/
lemma step_isSome_of_ne_lock {s : OnceState σ n} {i : Fin n} (hlock : s.pcs i ≠ .lock)
    (hfin : (s.pcs i).finished = false) : (s.step lib chainIDs i).isSome := by
  unfold step
  split <;> simp_all [OncePc.finished]

/-- **What one statement does**, by the statement goroutine `i` is at; a finished goroutine
does not move. -/
lemma step_eq_some {s s' : OnceState σ n} {i : Fin n} (h : s.step lib chainIDs i = some s') :
    (s.pcs i = .start ∧ s' = s.setPc i (if s.globals.done then .load else .lock)) ∨
    (s.pcs i = .lock ∧ s.locked = false ∧ s' = { s with locked := true }.setPc i .check) ∨
    (s.pcs i = .check ∧ s' = s.setPc i (if s.globals.done then .unlock none else .run)) ∨
    (s.pcs i = .run ∧ s' = { s with globals := (runClosure lib (chainIDs i) s.globals).2 }.setPc
      i (.store (runClosure lib (chainIDs i) s.globals).1)) ∨
    (∃ panic, s.pcs i = .store panic ∧
      s' = { s with globals := { s.globals with done := true } }.setPc i (.unlock panic)) ∨
    (∃ panic, s.pcs i = .unlock panic ∧
      s' = { s with locked := false }.setPc i (panic.elim .load .panicked)) ∨
    (s.pcs i = .load ∧ s' = s.setPc i (.returned s.globals.evmInitErr)) := by
  unfold step at h
  split at h <;> rename_i hpc
  all_goals first
    | (cases h; simp [hpc])
    | (split at h
       · cases h
       · cases h; simp_all)
    | cases h

end Step

/-! ### Mutual exclusion -/

/-- The mutex of `evmInitOnce` is locked exactly when a goroutine is at a statement that holds
it, and no two goroutines are. -/
def Mutex (s : OnceState σ n) : Prop :=
  (s.locked = true ↔ ∃ i, (s.pcs i).holdsLock = true) ∧
    ∀ i j, (s.pcs i).holdsLock = true → (s.pcs j).holdsLock = true → i = j

lemma mutex_initial (s₀ : σ) : Mutex (initial s₀ : OnceState σ n) := by
  simp [Mutex, initial, OncePc.holdsLock]

/-- A move that neither takes nor releases the mutex keeps the invariant. -/
lemma Mutex.setPc {s : OnceState σ n} (hm : Mutex s) {i : Fin n} {pc : OncePc}
    (hpc : pc.holdsLock = (s.pcs i).holdsLock) : Mutex (s.setPc i pc) := by
  have hiff : ∀ j, ((s.setPc i pc).pcs j).holdsLock = (s.pcs j).holdsLock := fun j => by
    by_cases hj : j = i
    · subst hj; simpa using hpc
    · simp [hj]
  simp only [Mutex, hiff, setPc_locked]
  exact hm

lemma Mutex.with_globals {s : OnceState σ n} (hm : Mutex s) (g : EvmGlobals σ) :
    Mutex { s with globals := g } := hm

/-- Taking the free mutex. -/
lemma Mutex.acquire {s : OnceState σ n} (hm : Mutex s) (hfree : s.locked = false) (i : Fin n)
    {pc : OncePc} (hpc : pc.holdsLock = true) : Mutex ({ s with locked := true }.setPc i pc) := by
  have hnone : ∀ j, (s.pcs j).holdsLock = false := fun j => by
    by_contra h
    simp only [Bool.not_eq_false] at h
    simpa [hfree] using hm.1.mpr ⟨j, h⟩
  refine ⟨⟨fun _ => ⟨i, by simpa using hpc⟩, fun _ => rfl⟩, fun j k hj hk => ?_⟩
  have key : ∀ l, ((({ s with locked := true } : OnceState σ n).setPc i pc).pcs l).holdsLock =
      true → l = i := fun l hl => by
    by_contra hne
    rw [setPc_pcs_of_ne _ _ hne] at hl
    simp [hnone l] at hl
  rw [key j hj, key k hk]

/-- Releasing the mutex held by `i`. -/
lemma Mutex.release {s : OnceState σ n} (hm : Mutex s) {i : Fin n}
    (hi : (s.pcs i).holdsLock = true) {pc : OncePc} (hpc : pc.holdsLock = false) :
    Mutex ({ s with locked := false }.setPc i pc) := by
  have key : ∀ l, ((({ s with locked := false } : OnceState σ n).setPc i pc).pcs l).holdsLock =
      false := fun l => by
    by_cases hl : l = i
    · subst hl; simpa using hpc
    · rw [setPc_pcs_of_ne _ _ hl]
      by_contra h
      exact hl (hm.2 l i (by simpa using h) hi)
  simp [Mutex, key]

/-- **Every statement keeps mutual exclusion.** -/
lemma Mutex.step {lib : EvmLibrary σ} {chainIDs : Fin n → String} {s s' : OnceState σ n}
    {i : Fin n} (hm : Mutex s) (h : s.step lib chainIDs i = some s') : Mutex s' := by
  rcases step_eq_some lib chainIDs h with ⟨hpc, rfl⟩ | ⟨hpc, hfree, rfl⟩ | ⟨hpc, rfl⟩ |
    ⟨hpc, rfl⟩ | ⟨panic, hpc, rfl⟩ | ⟨panic, hpc, rfl⟩ | ⟨hpc, rfl⟩
  · exact hm.setPc (by split <;> simp [hpc, OncePc.holdsLock])
  · exact hm.acquire hfree i rfl
  · exact hm.setPc (by split <;> simp [hpc, OncePc.holdsLock])
  · exact (hm.with_globals _).setPc (by simp [hpc, OncePc.holdsLock])
  · exact (hm.with_globals _).setPc (by simp [hpc, OncePc.holdsLock])
  · exact hm.release (by simp [hpc, OncePc.holdsLock]) (by cases panic <;> rfl)
  · exact hm.setPc (by simp [hpc, OncePc.holdsLock])

/-! ### What the once-cell has done -/

section Phase

variable (lib : EvmLibrary σ) (chainIDs : Fin n → String) (s₀ : σ)

/-- What the once-cell has done since process start, read off the globals and the statements
of the goroutines. -/
inductive Phase : EvmGlobals σ → (Fin n → OncePc) → Prop
  /-- No goroutine has run the closure: the globals are those at process start. -/
  | idle {g : EvmGlobals σ} {pcs : Fin n → OncePc} (hg : g = EvmGlobals.initial s₀)
      (hpcs : ∀ j, (pcs j).beforeRun = true) : Phase g pcs
  /-- Goroutine `r` ran the closure, which raised `panic` and left `g`. The flag is still
  clear, and every other goroutine is at the fast-path load or waits for the mutex. -/
  | ran (r : Fin n) {panic : Option Panic} {g : EvmGlobals σ} {pcs : Fin n → OncePc}
      (hrun : runClosure lib (chainIDs r) (EvmGlobals.initial s₀) = (panic, g))
      (hr : pcs r = .store panic) (hothers : ∀ j, j ≠ r → (pcs j).waiting = true) : Phase g pcs
  /-- The flag is set over the globals the closure of `r` left. -/
  | flagged (r : Fin n) {panic : Option Panic} {g : EvmGlobals σ} {pcs : Fin n → OncePc}
      (hrun : runClosure lib (chainIDs r) (EvmGlobals.initial s₀) = (panic, g))
      (hr : (pcs r).AfterRun panic g.evmInitErr)
      (hothers : ∀ j, j ≠ r → (pcs j).AfterFlag g.evmInitErr) :
      Phase { g with done := true } pcs

lemma phase_initial : Phase lib chainIDs s₀ (initial s₀ : OnceState σ n).globals
    (initial s₀ : OnceState σ n).pcs :=
  .idle rfl fun _ => rfl

/-- A property of every goroutine but `r` survives a move of `i` to a statement that has it,
or a move of `r` itself. -/
lemma forall_ne_setPc {P : OncePc → Prop} {s : OnceState σ n} {r : Fin n}
    (h : ∀ j, j ≠ r → P (s.pcs j)) (i : Fin n) {pc : OncePc} (hpc : i ≠ r → P pc) :
    ∀ j, j ≠ r → P ((s.setPc i pc).pcs j) := fun j hj => by
  rcases eq_or_ne j i with rfl | hji
  · simpa using hpc hj
  · simpa [hji] using h j hj

/-- The closure's run from process start leaves the flag clear. -/
lemma done_of_runClosure {r : Fin n} {panic : Option Panic} {g : EvmGlobals σ}
    (hrun : runClosure lib (chainIDs r) (EvmGlobals.initial s₀) = (panic, g)) :
    g.done = false := by
  simpa [hrun] using (runClosure_done_initEVMRuns lib (chainIDs r) (EvmGlobals.initial s₀)).1

/-- The closure's run from process start records one entry into `initEVM`. -/
lemma initEVMRuns_of_runClosure {r : Fin n} {panic : Option Panic} {g : EvmGlobals σ}
    (hrun : runClosure lib (chainIDs r) (EvmGlobals.initial s₀) = (panic, g)) :
    g.initEVMRuns = [chainIDs r] := by
  have := (runClosure_done_initEVMRuns lib (chainIDs r) (EvmGlobals.initial s₀)).2
  rw [hrun] at this
  simpa [EvmGlobals.initial] using this

variable {lib chainIDs s₀}

/-- Before the closure runs, every statement keeps the goroutines before `f()`, except `f()`
itself, which moves to `Phase.ran`. -/
lemma Phase.step_idle {s s' : OnceState σ n} {i : Fin n} (hg : s.globals = EvmGlobals.initial s₀)
    (hpcs : ∀ j, (s.pcs j).beforeRun = true) (hm : Mutex s)
    (h : s.step lib chainIDs i = some s') : Phase lib chainIDs s₀ s'.globals s'.pcs := by
  have hdone : s.globals.done = false := by rw [hg]; rfl
  have hidle : ∀ {pc : OncePc}, pc.beforeRun = true → ∀ (t : OnceState σ n), t.globals = s.globals →
      t.pcs = s.pcs → Phase lib chainIDs s₀ (t.setPc i pc).globals (t.setPc i pc).pcs :=
    fun hpc t htg htp => .idle (htg.trans hg) fun j => by
      rcases eq_or_ne j i with rfl | hji
      · simpa using hpc
      · simpa [hji, htp] using hpcs j
  rcases step_eq_some lib chainIDs h with ⟨hpc, rfl⟩ | ⟨hpc, -, rfl⟩ | ⟨hpc, rfl⟩ | ⟨hpc, rfl⟩ |
    ⟨_, hpc, rfl⟩ | ⟨_, hpc, rfl⟩ | ⟨hpc, rfl⟩
  · exact hidle (by simp [hdone, OncePc.beforeRun]) s rfl rfl
  · exact hidle (show OncePc.check.beforeRun = true from rfl) _ rfl rfl
  · exact hidle (by simp [hdone, OncePc.beforeRun]) s rfl rfl
  · -- `f()` runs: goroutine `i` becomes the runner
    rw [hg]
    rcases hrc : runClosure lib (chainIDs i) (EvmGlobals.initial s₀) with ⟨panic, g⟩
    refine .ran i hrc (by simp)
      (forall_ne_setPc (P := fun pc => pc.waiting = true) (fun j hj => ?_) i (absurd rfl))
    have hnot : (s.pcs j).holdsLock = false := by
      by_contra hj'
      exact hj (hm.2 j i (by simpa using hj') (by simp [hpc, OncePc.holdsLock]))
    have := hpcs j
    revert this hnot
    cases s.pcs j <;> simp [OncePc.beforeRun, OncePc.holdsLock, OncePc.waiting]
  -- the statements after `f()` are not reached before it
  all_goals have hi := hpcs i; rw [hpc] at hi; simp [OncePc.beforeRun] at hi

/-- After the closure ran, the runner moves on to store the flag; any other goroutine at the
fast-path load finds the flag clear, and one waiting for the mutex stays blocked. -/
lemma Phase.step_ran {s s' : OnceState σ n} {i r : Fin n} {panic : Option Panic}
    {g : EvmGlobals σ} (hrun : runClosure lib (chainIDs r) (EvmGlobals.initial s₀) = (panic, g))
    (hg : s.globals = g) (hr : s.pcs r = .store panic)
    (hothers : ∀ j, j ≠ r → (s.pcs j).waiting = true) (hm : Mutex s)
    (h : s.step lib chainIDs i = some s') : Phase lib chainIDs s₀ s'.globals s'.pcs := by
  obtain ⟨g₁, locked, pcs⟩ := s
  dsimp only at hg hr hothers
  subst g₁
  rcases eq_or_ne i r with rfl | hir
  · -- the runner stores the flag
    simp only [OnceState.step, hr, Option.some.injEq] at h
    subst h
    exact .flagged i hrun (by simp [OncePc.AfterRun])
      (forall_ne_setPc (P := fun pc => pc.AfterFlag g.evmInitErr)
        (fun j hj => OncePc.afterFlag_of_waiting (hothers j hj) _) i (absurd rfl))
  · have hlocked : locked = true := hm.1.mpr ⟨r, by simp [hr, OncePc.holdsLock]⟩
    have hw := hothers i hir
    rcases step_eq_some lib chainIDs h with ⟨hpc, rfl⟩ | ⟨hpc, hfree, -⟩ | ⟨hpc, -⟩ | ⟨hpc, -⟩ |
      ⟨_, hpc, -⟩ | ⟨_, hpc, -⟩ | ⟨hpc, -⟩ <;> dsimp only at hpc <;> rw [hpc] at hw
    · -- the fast-path load finds the flag clear
      simp only [done_of_runClosure lib chainIDs s₀ hrun, Bool.false_eq_true, if_false]
      exact .ran r hrun (by simpa [Ne.symm hir] using hr)
        (forall_ne_setPc (P := fun pc => pc.waiting = true) hothers i fun _ => rfl)
    · -- the mutex is held by the runner
      simp [hlocked] at hfree
    all_goals simp [OncePc.waiting] at hw

/-- Once the flag is set, every statement keeps the runner and the others where
`Phase.flagged` allows them. -/
lemma Phase.step_flagged {s s' : OnceState σ n} {i r : Fin n} {panic : Option Panic}
    {g : EvmGlobals σ} (hrun : runClosure lib (chainIDs r) (EvmGlobals.initial s₀) = (panic, g))
    (hg : s.globals = { g with done := true }) (hr : (s.pcs r).AfterRun panic g.evmInitErr)
    (hothers : ∀ j, j ≠ r → (s.pcs j).AfterFlag g.evmInitErr)
    (h : s.step lib chainIDs i = some s') : Phase lib chainIDs s₀ s'.globals s'.pcs := by
  obtain ⟨_, locked, pcs⟩ := s
  dsimp only at hg hr hothers
  subst hg
  have keep : ∀ {pc : OncePc}, (i = r → pc.AfterRun panic g.evmInitErr) →
      (i ≠ r → pc.AfterFlag g.evmInitErr) → ∀ l : Bool,
      Phase lib chainIDs s₀ { g with done := true }
        ((OnceState.mk { g with done := true } l pcs).setPc i pc).pcs := fun h1 h2 _ => by
    refine .flagged r hrun ?_ (forall_ne_setPc (P := fun pc => pc.AfterFlag g.evmInitErr)
      hothers i h2)
    rcases eq_or_ne i r with rfl | hir
    · simpa using h1 rfl
    · simpa [Ne.symm hir] using hr
  have hi : i = r → (pcs i).AfterRun panic g.evmInitErr := fun h => h ▸ hr
  have ho : i ≠ r → (pcs i).AfterFlag g.evmInitErr := hothers i
  rcases step_eq_some lib chainIDs h with ⟨hpc, rfl⟩ | ⟨hpc, -, rfl⟩ | ⟨hpc, rfl⟩ | ⟨hpc, rfl⟩ |
    ⟨panic', hpc, rfl⟩ | ⟨panic', hpc, rfl⟩ | ⟨hpc, rfl⟩ <;> dsimp only at hpc <;> rw [hpc] at hi ho
  -- the fast-path load, the lock and the second load: the runner is past them
  iterate 3
    exact keep (fun h => absurd (hi h) (by simp [OncePc.AfterRun]))
      (fun _ => by simp [OncePc.AfterFlag]) _
  -- `f()` and the store of the flag are not reached once the flag is set
  iterate 2
    rcases eq_or_ne i r with hir | hir
    · simpa [OncePc.AfterRun] using hi hir
    · simpa [OncePc.AfterFlag] using ho hir
  · -- the deferred unlock
    refine keep (fun hir => ?_) (fun hir => ?_) _
    · obtain rfl : panic' = panic := by simpa [OncePc.AfterRun] using hi hir
      cases panic' <;> simp [OncePc.AfterRun]
    · cases panic'
      exacts [trivial, (ho hir).elim]
  · -- the load of `evmInitErr`
    refine keep (fun hir => ?_) (fun _ => by simp [OncePc.AfterFlag]) _
    cases panic
    exacts [rfl, (hi hir).elim]

/-- **Every statement keeps the phase invariant.** -/
lemma Phase.step {s s' : OnceState σ n} {i : Fin n}
    (hph : Phase lib chainIDs s₀ s.globals s.pcs) (hm : Mutex s)
    (h : s.step lib chainIDs i = some s') : Phase lib chainIDs s₀ s'.globals s'.pcs := by
  generalize hg : s.globals = g at hph
  generalize hp : s.pcs = pcs at hph
  cases hph with
  | idle hg' hpcs => exact Phase.step_idle (hg.trans hg') (hp ▸ hpcs) hm h
  | ran r hrun hr hothers => exact Phase.step_ran hrun hg (hp ▸ hr) (hp ▸ hothers) hm h
  | flagged r hrun hr hothers => exact Phase.step_flagged hrun hg (hp ▸ hr) (hp ▸ hothers) h

/-- **Both invariants hold after every schedule from process start.** -/
lemma invariants_run {sched : List (Fin n)} {s s' : OnceState σ n}
    (hph : Phase lib chainIDs s₀ s.globals s.pcs) (hm : Mutex s)
    (h : s.run lib chainIDs sched = some s') :
    Phase lib chainIDs s₀ s'.globals s'.pcs ∧ Mutex s' := by
  induction sched generalizing s with
  | nil => cases h; exact ⟨hph, hm⟩
  | cons i is ih =>
    obtain ⟨t, hstep, hrest⟩ := run_cons lib chainIDs h
    exact ih (hph.step hm hstep) (hm.step hstep) hrest

end Phase

/-! ### Progress -/

/-- How far the goroutines have got, together. -/
def progress (s : OnceState σ n) : Nat := ∑ i, (s.pcs i).rank

lemma progress_le (s : OnceState σ n) : s.progress ≤ 7 * n := by
  have := Finset.sum_le_card_nsmul Finset.univ (fun i => (s.pcs i).rank) 7
    fun i _ => (s.pcs i).rank_le_seven
  simp only [Finset.card_univ, Fintype.card_fin, smul_eq_mul] at this
  unfold progress
  omega

lemma progress_setPc (s : OnceState σ n) (i : Fin n) (pc : OncePc) :
    (s.setPc i pc).progress + (s.pcs i).rank = s.progress + pc.rank := by
  have hrest : ∑ j in Finset.univ \ {i}, ((s.setPc i pc).pcs j).rank =
      ∑ j in Finset.univ \ {i}, (s.pcs j).rank :=
    Finset.sum_congr rfl fun j hj => by simp_all
  simp only [progress, Finset.sum_eq_add_sum_diff_singleton (Finset.mem_univ i), hrest,
    setPc_pcs_self]
  omega

/-- **Every statement moves its goroutine forward.** -/
lemma step_progress {lib : EvmLibrary σ} {chainIDs : Fin n → String} {s s' : OnceState σ n}
    {i : Fin n} (h : s.step lib chainIDs i = some s') : s.progress < s'.progress := by
  have forward : ∀ (t : OnceState σ n) {pc : OncePc}, t.pcs = s.pcs →
      (s.pcs i).rank < pc.rank → s.progress < (t.setPc i pc).progress := fun t pc ht hlt => by
    have e := progress_setPc t i pc
    have ht' : t.progress = s.progress := by simp only [progress, ht]
    rw [ht] at e
    omega
  rcases step_eq_some lib chainIDs h with ⟨hpc, rfl⟩ | ⟨hpc, -, rfl⟩ | ⟨hpc, rfl⟩ | ⟨hpc, rfl⟩ |
    ⟨panic, hpc, rfl⟩ | ⟨panic, hpc, rfl⟩ | ⟨hpc, rfl⟩ <;> refine forward _ rfl ?_ <;> rw [hpc]
  · split <;> decide
  · decide
  · split <;> decide
  · simp [OncePc.rank]
  · simp [OncePc.rank]
  · cases panic <;> simp [OncePc.rank]
  · simp [OncePc.rank]

lemma run_progress {lib : EvmLibrary σ} {chainIDs : Fin n → String} {sched : List (Fin n)}
    {s s' : OnceState σ n} (h : s.run lib chainIDs sched = some s') :
    s.progress + sched.length ≤ s'.progress := by
  induction sched generalizing s with
  | nil => cases h; simp
  | cons i is ih =>
    obtain ⟨t, hstep, hrest⟩ := run_cons lib chainIDs h
    have := step_progress hstep
    have := ih hrest
    simp only [List.length_cons]
    omega

/-- **No deadlock**: when no goroutine can move, every goroutine has finished. A goroutine
waiting for the mutex can only be stuck while another holds it, and that one can move. -/
lemma finished_of_stuck {lib : EvmLibrary σ} {chainIDs : Fin n → String} {s : OnceState σ n}
    (hm : Mutex s) (hstuck : ∀ i, s.step lib chainIDs i = none) (i : Fin n) :
    (s.pcs i).finished = true := by
  by_contra hfin
  rw [Bool.not_eq_true] at hfin
  by_cases hlock : s.pcs i = .lock
  · have hlocked : s.locked = true := by
      by_contra hl
      simpa [OnceState.step, hlock, hl] using hstuck i
    obtain ⟨j, hj⟩ := hm.1.mp hlocked
    simpa [hstuck j] using step_isSome_of_holdsLock lib chainIDs hj
  · simpa [hstuck i] using step_isSome_of_ne_lock lib chainIDs hlock hfin

end OnceState

/-- Two goroutines calling `EVMAppOptions(DefaultChainID)`: the first takes the mutex and runs
`initEVM` while the second waits for it; the second then finds the flag set under the mutex,
and the first reads `evmInitErr` last. -/
def twoCallsSchedule : List (Fin 2) := [0, 1, 0, 0, 0, 0, 0, 1, 1, 1, 1, 0]

/-! ### What every schedule guarantees -/

section Schedules

variable {σ : Type} (lib : EvmLibrary σ) {n : Nat} (chainIDs : Fin n → String) (s₀ : σ)

open OnceState

lemma OnceState.mutex_run {sched : List (Fin n)} {s : OnceState σ n}
    (h : (OnceState.initial s₀).run lib chainIDs sched = some s) : Mutex s :=
  (invariants_run (phase_initial lib chainIDs s₀) (mutex_initial s₀) h).2

/-- **`initEVM` runs at most once, and callers return only after it.** Under every schedule
of `n` goroutines calling `EVMAppOptions`, `initEVM` has been entered at most once, on the
chain id of one of them. A goroutine that has finished did so after the flag was set; if it
returned, it returned the stored `evmInitErr`, and if it panicked, it is the goroutine that
ran `initEVM`. -/
theorem evmAppOptions_initOnce {sched : List (Fin n)} {s : OnceState σ n}
    (h : (OnceState.initial s₀).run lib chainIDs sched = some s) :
    (s.globals.initEVMRuns = [] ∨ ∃ r, s.globals.initEVMRuns = [chainIDs r]) ∧
      ∀ i, (s.pcs i).finished = true → s.globals.done = true ∧
        (∀ err, s.pcs i = .returned err → err = s.globals.evmInitErr) ∧
        (∀ p, s.pcs i = .panicked p → s.globals.initEVMRuns = [chainIDs i]) := by
  obtain ⟨hph, -⟩ := invariants_run (phase_initial lib chainIDs s₀) (mutex_initial s₀) h
  generalize s.globals = g at hph ⊢
  generalize s.pcs = pcs at hph ⊢
  cases hph with
  | idle hg hpcs =>
    refine ⟨.inl (by rw [hg]; rfl), fun i hi => ?_⟩
    have h1 := hpcs i
    revert h1 hi
    cases pcs i <;> simp [OncePc.beforeRun, OncePc.finished]
  | ran r hrun hr hothers =>
    refine ⟨.inr ⟨r, initEVMRuns_of_runClosure lib chainIDs s₀ hrun⟩, fun i hi => ?_⟩
    rcases eq_or_ne i r with rfl | hir
    · simp [hr, OncePc.finished] at hi
    · have h1 := hothers i hir
      revert h1 hi
      cases pcs i <;> simp [OncePc.waiting, OncePc.finished]
  | flagged r hrun hr hothers =>
    have hruns := initEVMRuns_of_runClosure lib chainIDs s₀ hrun
    refine ⟨.inr ⟨r, hruns⟩, fun i _ => ⟨rfl, fun err herr => ?_, fun p hp => ?_⟩⟩
    · rcases eq_or_ne i r with rfl | hir
      · rw [herr] at hr
        cases ‹Option Panic›
        exacts [hr, hr.elim]
      · simpa [herr, OncePc.AfterFlag] using hothers i hir
    · rcases eq_or_ne i r with rfl | hir
      · exact hruns
      · simpa [hp, OncePc.AfterFlag] using hothers i hir

theorem evmAppOptions_initOnce_two_calls :
    ∃ s, (OnceState.initial () : OnceState Unit 2).run quietEvmLibrary (fun _ => defaultChainID)
        twoCallsSchedule = some s ∧
      (s.globals.initEVMRuns = [] ∨ ∃ _ : Fin 2, s.globals.initEVMRuns = [defaultChainID]) ∧
      ∀ i, (s.pcs i).finished = true → s.globals.done = true ∧
        (∀ err, s.pcs i = .returned err → err = s.globals.evmInitErr) ∧
        (∀ p, s.pcs i = .panicked p → s.globals.initEVMRuns = [defaultChainID]) :=
  ⟨_, rfl, @evmAppOptions_initOnce Unit quietEvmLibrary 2 _ () twoCallsSchedule _ rfl⟩

/-- **Every call finishes.** A schedule of `n` goroutines has at most `7 n` steps, and a state
it reaches in which no goroutine can move has every goroutine returned or panicked: the calls
never deadlock, whatever the scheduler does. -/
theorem evmAppOptions_terminates {sched : List (Fin n)} {s : OnceState σ n}
    (h : (OnceState.initial s₀).run lib chainIDs sched = some s) :
    sched.length ≤ 7 * n ∧
      ((∀ i, s.step lib chainIDs i = none) → ∀ i, (s.pcs i).finished = true) := by
  have hinit : (OnceState.initial s₀ : OnceState σ n).progress = 0 := by
    simp [progress, initial, OncePc.rank]
  have := run_progress h
  exact ⟨by have := s.progress_le; omega, finished_of_stuck (OnceState.mutex_run lib chainIDs s₀ h)⟩

theorem evmAppOptions_terminates_two_calls :
    ∃ s, (OnceState.initial () : OnceState Unit 2).run quietEvmLibrary (fun _ => defaultChainID)
        twoCallsSchedule = some s ∧
      twoCallsSchedule.length ≤ 7 * 2 ∧
      ((∀ i, s.step quietEvmLibrary (fun _ => defaultChainID) i = none) →
        ∀ i, (s.pcs i).finished = true) :=
  ⟨_, rfl, @evmAppOptions_terminates Unit quietEvmLibrary 2 _ () twoCallsSchedule _ rfl⟩

/-- **The concurrent calls refine the sequential model.** When every goroutine of a schedule
has finished, there is an order of the goroutines, the one that ran `initEVM` first, such that
their outcomes in that order and the globals are those of `evmAppOptionsRun` on their chain
ids in that order.

**Proof sketch.** Only `Phase.flagged` has finished goroutines. The runner's outcome is the
closure's (`OncePc.outcome_of_afterRun`) and every other goroutine returned the stored error
(`OncePc.outcome_of_afterFlag`); the sequential run from a clear flag runs the same closure
first (`evmAppOptionsStep_of_not_done`) and then returns the stored error to every later call
(`evmAppOptionsRun_cons_of_step`). -/
theorem evmAppOptions_linearizable {sched : List (Fin n)} {s : OnceState σ n}
    (h : (OnceState.initial s₀).run lib chainIDs sched = some s)
    (hfin : ∀ i, (s.pcs i).finished = true) :
    ∃ order : List (Fin n), order.Perm (List.finRange n) ∧
      order.map (fun i => (s.pcs i).outcome) =
        (evmAppOptionsRun lib (order.map chainIDs) (EvmGlobals.initial s₀)).1.map some ∧
      s.globals = (evmAppOptionsRun lib (order.map chainIDs) (EvmGlobals.initial s₀)).2 := by
  obtain ⟨hph, -⟩ := invariants_run (phase_initial lib chainIDs s₀) (mutex_initial s₀) h
  generalize s.globals = g at hph ⊢
  generalize s.pcs = pcs at hph hfin ⊢
  cases hph with
  | idle hg hpcs =>
    -- no goroutine can have finished before the closure ran: there are none
    have hnil : List.finRange n = [] := List.eq_nil_iff_forall_not_mem.mpr fun i _ => by
      have h1 := hpcs i
      have h2 := hfin i
      revert h1 h2
      cases pcs i <;> simp [OncePc.beforeRun, OncePc.finished]
    exact ⟨[], by rw [hnil], rfl, hg⟩
  | ran r hrun hr hothers => simpa [hr, OncePc.finished] using hfin r
  | @flagged r panic g _ hrun hr hothers =>
    have hrest : ((List.finRange n).erase r).map (fun j => (pcs j).outcome) =
        (List.replicate ((List.finRange n).erase r).length (.ok g.evmInitErr)).map some := by
      rw [List.map_replicate, List.eq_replicate_iff, List.length_map]
      refine ⟨rfl, fun o ho => ?_⟩
      obtain ⟨j, hj, rfl⟩ := List.mem_map.mp ho
      have hjr : j ≠ r := ((List.nodup_finRange n).mem_erase_iff.mp hj).1
      exact OncePc.outcome_of_afterFlag (hothers j hjr) (hfin j)
    have hstep := evmAppOptionsStep_of_not_done lib (chainIDs r) (g := EvmGlobals.initial s₀) rfl
    rw [hrun] at hstep
    refine ⟨r :: (List.finRange n).erase r, (List.perm_cons_erase (List.mem_finRange r)).symm,
      ?_, ?_⟩ <;> simp only [List.map_cons] <;> rw [evmAppOptionsRun_cons_of_step lib hstep rfl]
    simp only [List.map_cons, List.length_map, hrest, OncePc.outcome_of_afterRun hr (hfin r)]

/-- When `Configure()` panics, the schedule of `twoCallsSchedule` ends one step early, with the
first goroutine panicked after its deferred unlock; the concurrent run is the sequential one in
which the first call panics and the second returns `nil`. -/
theorem evmAppOptions_linearizable_panicking :
    ∃ s, (OnceState.initial () : OnceState Unit 2).run panickingConfigure
        (fun _ => defaultChainID) twoCallsSchedule.dropLast = some s ∧
      (∀ i, (s.pcs i).finished = true) ∧
      ∃ order : List (Fin 2), order.Perm (List.finRange 2) ∧
        order.map (fun i => (s.pcs i).outcome) =
          (evmAppOptionsRun panickingConfigure (order.map fun _ => defaultChainID)
            (EvmGlobals.initial ())).1.map some ∧
        s.globals = (evmAppOptionsRun panickingConfigure (order.map fun _ => defaultChainID)
          (EvmGlobals.initial ())).2 :=
  ⟨_, rfl, by decide,
    @evmAppOptions_linearizable Unit panickingConfigure 2 _ () twoCallsSchedule.dropLast _ rfl
      (by decide)⟩

end Schedules

end Kudora.App
