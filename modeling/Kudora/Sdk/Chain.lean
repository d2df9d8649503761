import Mathlib.Data.List.Infix
import Kudora.Sdk.Tx

set_option autoImplicit false

/-!
# Ante decorators and the chains built from them

`sdk.ChainAnteDecorators` composes decorators right to left: decorator `i` receives as its
`next` the handler of decorators `i+1, …`, and the last one receives a terminator that
returns the context with no error. Every decorator of the two chains either returns an error
(or panics) without calling `next`, or calls `next` once and returns its result; the model
takes a decorator by that decision, a verdict.

## Main definitions

* `Kudora.Sdk.Verdict`, `Kudora.Sdk.AnteDecorator` — a decorator, given by what it does
  before its continuation; `AnteDecorator.anteHandle` is its `AnteHandle` method.
* `Kudora.Sdk.chainAnteDecorators` — `sdk.ChainAnteDecorators`.
* `Kudora.Sdk.chainAnteDecoratorsTraced` — the same run, recording each decorator it
  invokes and how that decorator ended.

## Main results

* `Kudora.Sdk.actsAsVerdict_iff_check` — a decorator in Go's higher-order form returns, on
  every input, an error or a panic whatever its continuation is, or its continuation's result
  on one context, exactly when it is the `anteHandle` of some `Check`.
* `Kudora.Sdk.chainAnteDecoratorsTraced_result` — recording the trace changes nothing.
* `Kudora.Sdk.trace_isPrefix`, `Kudora.Sdk.trace_passed_of_mem_dropLast`,
  `Kudora.Sdk.trace_of_success`, `Kudora.Sdk.passed_of_mem_takeWhile` — a run invokes the
  decorators in list order, each at most once, each only after every earlier one passed,
  and succeeds only when every decorator passed.

## Design

The transaction and the simulate flag are the same for the whole run: each decorator passes
on the transaction and mode it received and may change only the context, as every decorator
of the SDK does and as the pipeline's data model requires. The empty chain, for which the
SDK returns a `nil` handler, is never built by the repository; the model gives it the
terminator.
-/

namespace Kudora.Sdk

/-- The decorators of the repository's two chains, by the constructor that builds them. -/
inductive DecoratorName where
  | rejectMessages | authzLimiter | setUpContext
  | limitSimulationGas | countTX | gasRegister | txContracts
  | circuitBreaker | extensionOptions | validateBasic | txTimeoutHeight | validateMemo
  | minGasPrice | consumeGasForTxSize | deductFee
  | setPubKey | validateSigCount | sigGasConsume | sigVerification | incrementSequence
  | redundantRelay | gasWanted
  | evmMono | txListener
deriving DecidableEq, Repr

/-- What a decorator does on one input, before its continuation. -/
inductive Verdict where
  /-- It calls `next` on this context and returns `next`'s result. -/
  | next (ctx : Context)
  /-- It returns this context and error without calling `next`. -/
  | reject (ctx : Context) (err : Error)
  /-- It panics without calling `next`. -/
  | abort (p : Panic)

/-- A decorator's behaviour: its verdict on each context, transaction and simulate flag. -/
abbrev Check := Context → Tx → Bool → Verdict

/-- `sdk.AnteHandler`: a run of a chain on a context, a transaction and the simulate flag. -/
abbrev AnteHandler := Context → Tx → Bool → Call (Context × Option Error)

/-- How a verdict ends an `AnteHandle` call whose continuation is `next`. -/
def Verdict.handle (next : AnteHandler) (tx : Tx) (simulate : Bool) : Verdict → Call (Context × Option Error)
  | .next ctx => next ctx tx simulate
  | .reject ctx err => .ok (ctx, some err)
  | .abort p => .error p

/-- A check admits a transaction when it passes it on to `next`. -/
def Admits (check : Check) (ctx : Context) (tx : Tx) (simulate : Bool) : Prop :=
  ∃ ctx', check ctx tx simulate = .next ctx'

/-- A decorator of one of the chains: the constructor that built it, and its check. -/
structure AnteDecorator where
  name : DecoratorName
  check : Check

/-- `AnteDecorator.AnteHandle(ctx, tx, simulate, next)`. -/
def AnteDecorator.anteHandle (d : AnteDecorator) (ctx : Context) (tx : Tx) (simulate : Bool)
    (next : AnteHandler) : Call (Context × Option Error) :=
  (d.check ctx tx simulate).handle next tx simulate

/-- `sdk.ChainAnteDecorators(chain...)`: each decorator runs with the rest of the chain as
its `next`, and the last with the terminator. -/
def chainAnteDecorators : List AnteDecorator → AnteHandler
  | [] => fun ctx _ _ => .ok (ctx, none)
  | d :: ds => fun ctx tx simulate => d.anteHandle ctx tx simulate (chainAnteDecorators ds)

/-! ### Decorators in Go's form -/

/-- A decorator in Go's form: `AnteHandle` receives its continuation. -/
abbrev AnteHandle := Context → Tx → Bool → AnteHandler → Call (Context × Option Error)

/-- What a decorator returns on one input is that of a verdict: an error, or a panic, whatever
`next` is, or `next`'s result on the transaction and mode it received and one context. The
predicate is extensional: it constrains the result for each `next`, not how often `next` is
called, and a handler of the model is a pure function, so calling it twice and returning the
second result cannot be told from calling it once. -/
def ActsAsVerdictAt (h : AnteHandle) (ctx : Context) (tx : Tx) (simulate : Bool) : Prop :=
  (∃ ctx' err, ∀ next, h ctx tx simulate next = .ok (ctx', some err)) ∨
  (∃ p, ∀ next, h ctx tx simulate next = .error p) ∨
  (∃ ctx', ∀ next, h ctx tx simulate next = next ctx' tx simulate)

lemma actsAsVerdictAt_iff (h : AnteHandle) (ctx : Context) (tx : Tx) (simulate : Bool) :
    ActsAsVerdictAt h ctx tx simulate ↔
      ∃ v : Verdict, ∀ next, h ctx tx simulate next = v.handle next tx simulate := by
  constructor
  · rintro (⟨ctx', err, hr⟩ | ⟨p, hr⟩ | ⟨ctx', hr⟩)
    · exact ⟨.reject ctx' err, hr⟩
    · exact ⟨.abort p, hr⟩
    · exact ⟨.next ctx', hr⟩
  · rintro ⟨v, hv⟩
    cases v with
    | next ctx' => exact .inr (.inr ⟨ctx', hv⟩)
    | reject ctx' err => exact .inl ⟨ctx', err, hv⟩
    | abort p => exact .inr (.inl ⟨p, hv⟩)

/-- **The first-order decorators are the decorators that act as verdicts.** A decorator in
Go's higher-order form acts as a verdict on every input exactly when it is the `AnteHandle` of
some check, so a result proved for every check holds for every such decorator. -/
theorem actsAsVerdict_iff_check (n : DecoratorName) (h : AnteHandle) :
    (∀ ctx tx simulate, ActsAsVerdictAt h ctx tx simulate) ↔
      ∃ check : Check, ∀ ctx tx simulate next,
        h ctx tx simulate next = (AnteDecorator.mk n check).anteHandle ctx tx simulate next := by
  simp only [actsAsVerdictAt_iff, AnteDecorator.anteHandle]
  constructor
  · intro hk
    choose check hcheck using hk
    exact ⟨check, hcheck⟩
  · rintro ⟨check, hcheck⟩ ctx tx simulate
    exact ⟨check ctx tx simulate, hcheck ctx tx simulate⟩

/-! ### Successful runs -/

section Success

variable {d : AnteDecorator} {ds : List AnteDecorator} {ctx c : Context} {tx : Tx} {simulate : Bool}

/-- The first decorator of a successful run admitted the transaction at the run's context. -/
lemma admits_head_of_success (h : chainAnteDecorators (d :: ds) ctx tx simulate = .ok (c, none)) :
    Admits d.check ctx tx simulate := by
  simp only [chainAnteDecorators, AnteDecorator.anteHandle] at h
  cases hv : d.check ctx tx simulate with
  | next ctx' => exact ⟨ctx', hv⟩
  | reject ctx' err => simp [hv, Verdict.handle] at h
  | abort p => simp [hv, Verdict.handle] at h

/-- **Every decorator of a successful run admitted the transaction**, at the context the
run passed it. -/
theorem admits_of_success (h : chainAnteDecorators ds ctx tx simulate = .ok (c, none)) :
    ∀ d ∈ ds, ∃ ctx', Admits d.check ctx' tx simulate := by
  induction ds generalizing ctx with
  | nil => simp
  | cons d ds ih =>
    obtain ⟨ctx', hv⟩ := admits_head_of_success h
    simp only [chainAnteDecorators, AnteDecorator.anteHandle, hv, Verdict.handle] at h
    intro d' hd'
    rcases List.mem_cons.mp hd' with rfl | hd'
    · exact ⟨ctx, ctx', hv⟩
    · exact ih h d' hd'

end Success

/-! ### Traced runs -/

/-- How an invoked decorator ended. -/
inductive Step where
  | passed | rejected | aborted
deriving DecidableEq, Repr

/-- A run of a chain: the decorators it invoked, in order, and its result. -/
structure ChainRun where
  trace : List (DecoratorName × Step)
  result : Call (Context × Option Error)

/-- The run of `chainAnteDecorators ds`, recording each decorator it invokes. -/
def chainAnteDecoratorsTraced : List AnteDecorator → Context → Tx → Bool → ChainRun
  | [], ctx, _, _ => ⟨[], .ok (ctx, none)⟩
  | d :: ds, ctx, tx, simulate =>
    match d.check ctx tx simulate with
    | .next ctx' =>
      let run := chainAnteDecoratorsTraced ds ctx' tx simulate
      ⟨(d.name, .passed) :: run.trace, run.result⟩
    | .reject ctx' err => ⟨[(d.name, .rejected)], .ok (ctx', some err)⟩
    | .abort p => ⟨[(d.name, .aborted)], .error p⟩

section Traced

variable {d : AnteDecorator} {ds : List AnteDecorator} {ctx ctx' : Context} {tx : Tx}
  {simulate : Bool}

@[simp] lemma traced_nil : chainAnteDecoratorsTraced [] ctx tx simulate = ⟨[], .ok (ctx, none)⟩ :=
  rfl

lemma traced_cons_next (h : d.check ctx tx simulate = .next ctx') :
    chainAnteDecoratorsTraced (d :: ds) ctx tx simulate =
      ⟨(d.name, .passed) :: (chainAnteDecoratorsTraced ds ctx' tx simulate).trace,
        (chainAnteDecoratorsTraced ds ctx' tx simulate).result⟩ := by
  simp [chainAnteDecoratorsTraced, h]

lemma traced_cons_reject {err : Error} (h : d.check ctx tx simulate = .reject ctx' err) :
    chainAnteDecoratorsTraced (d :: ds) ctx tx simulate =
      ⟨[(d.name, .rejected)], .ok (ctx', some err)⟩ := by
  simp [chainAnteDecoratorsTraced, h]

lemma traced_cons_abort {p : Panic} (h : d.check ctx tx simulate = .abort p) :
    chainAnteDecoratorsTraced (d :: ds) ctx tx simulate = ⟨[(d.name, .aborted)], .error p⟩ := by
  simp [chainAnteDecoratorsTraced, h]

end Traced

variable (ds : List AnteDecorator) (ctx : Context) (tx : Tx) (simulate : Bool)

/-- **Recording the trace changes nothing**: the traced run returns what
`ChainAnteDecorators` returns. -/
theorem chainAnteDecoratorsTraced_result :
    (chainAnteDecoratorsTraced ds ctx tx simulate).result = chainAnteDecorators ds ctx tx simulate := by
  induction ds generalizing ctx with
  | nil => rfl
  | cons d ds ih =>
    simp only [chainAnteDecorators, AnteDecorator.anteHandle]
    cases hv : d.check ctx tx simulate with
    | next ctx' => rw [traced_cons_next hv]; exact ih ctx'
    | reject ctx' err => rw [traced_cons_reject hv]; rfl
    | abort p => rw [traced_cons_abort hv]; rfl

/-- **A run invokes decorators in list order, from the first, each at most once**: the
names it records are a prefix of the chain's names. -/
theorem trace_isPrefix :
    (chainAnteDecoratorsTraced ds ctx tx simulate).trace.map Prod.fst <+: ds.map AnteDecorator.name := by
  induction ds generalizing ctx with
  | nil => simp
  | cons d ds ih =>
    cases hv : d.check ctx tx simulate with
    | next ctx' =>
      rw [traced_cons_next hv, List.map_cons, List.map_cons]
      exact (List.prefix_cons_inj _).mpr (ih ctx')
    | reject ctx' err => simp [traced_cons_reject hv]
    | abort p => simp [traced_cons_abort hv]

/-- **A decorator is invoked only after every earlier one passed**: every entry of the trace
but the last is a pass. -/
theorem trace_passed_of_mem_dropLast :
    ∀ e ∈ (chainAnteDecoratorsTraced ds ctx tx simulate).trace.dropLast, e.2 = .passed := by
  induction ds generalizing ctx with
  | nil => simp
  | cons d ds ih =>
    cases hv : d.check ctx tx simulate with
    | next ctx' =>
      rw [traced_cons_next hv]
      intro e he
      cases htr : (chainAnteDecoratorsTraced ds ctx' tx simulate).trace with
      | nil => simp [htr] at he
      | cons e' tr =>
        rw [htr, List.dropLast_cons₂, List.mem_cons] at he
        rcases he with rfl | he
        · rfl
        · exact ih ctx' e (htr ▸ he)
    | reject ctx' err => simp [traced_cons_reject hv]
    | abort p => simp [traced_cons_abort hv]

/-- **A run succeeds only if every decorator passed**: a `nil` error means the trace is the
whole chain, each decorator passing. -/
theorem trace_of_success {c : Context}
    (h : (chainAnteDecoratorsTraced ds ctx tx simulate).result = .ok (c, none)) :
    (chainAnteDecoratorsTraced ds ctx tx simulate).trace = ds.map fun d => (d.name, .passed) := by
  induction ds generalizing ctx with
  | nil => rfl
  | cons d ds ih =>
    cases hv : d.check ctx tx simulate with
    | next ctx' =>
      rw [traced_cons_next hv] at h ⊢
      simp [ih ctx' h]
    | reject ctx' err => simp [traced_cons_reject hv] at h
    | abort p => simp [traced_cons_abort hv] at h

/-- **Every decorator listed before an invoked one passed**: if the run invokes a decorator
named `n`, each decorator before the first one named `n` is recorded as passed. -/
theorem passed_of_mem_takeWhile {n : DecoratorName}
    (hn : n ∈ (chainAnteDecoratorsTraced ds ctx tx simulate).trace.map Prod.fst) :
    ∀ m ∈ (ds.map AnteDecorator.name).takeWhile (· ≠ n),
      (m, Step.passed) ∈ (chainAnteDecoratorsTraced ds ctx tx simulate).trace := by
  induction ds generalizing ctx with
  | nil => simp
  | cons d ds ih =>
    cases hv : d.check ctx tx simulate with
    | next ctx' =>
      rw [traced_cons_next hv] at hn ⊢
      by_cases hd : d.name = n
      · simp [hd]
      · have hn' : n ∈ (chainAnteDecoratorsTraced ds ctx' tx simulate).trace.map Prod.fst := by
          simpa [Ne.symm hd] using hn
        intro m hm
        rw [List.map_cons, List.takeWhile_cons_of_pos (by simpa using hd)] at hm
        rcases List.mem_cons.mp hm with rfl | hm
        · exact List.mem_cons_self _ _
        · exact List.mem_cons_of_mem _ (ih ctx' hn' m hm)
    | reject ctx' err => simp_all [traced_cons_reject hv]
    | abort p => simp_all [traced_cons_abort hv]

end Kudora.Sdk
