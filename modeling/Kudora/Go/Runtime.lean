import Kudora.Go.Unicode

set_option autoImplicit false

/-!
# Go runtime values: panics and errors

The repository is Go; it is modelled here by plain Lean functions. Two runtime notions cross
every module. A call either returns or panics, and a returned `error` is `nil` or one of the
error values the code and its libraries build. A panic is not an error value: it unwinds the
caller until a `recover`, and nothing in the modelled code recovers.

## Main definitions

* `Kudora.Panic`, `Kudora.Call` — a Go call that returns a value or panics.
* `Kudora.Error` — the error values the modelled code builds: errors registered with
  `errorsmod.Register`, `errorsmod.Wrapf`, `fmt.Errorf` with and without `%w`, and
  `*strconv.NumError`.
* `Kudora.Error.error` — the `Error()` text; `Kudora.Error.is` — `errors.Is`.
* `Kudora.Strconv.quote` — `strconv.Quote`, which `%q` and `NumError` print with.

## Main results

* `Kudora.Error.is_wrapped` — `errorsmod.Wrapf` keeps the wrapped error visible to
  `errors.Is`.
* `EStateM.bind_eq_ok` — a Go function that reads and writes process state is an
  `EStateM Panic σ` computation, and a run of one that returned went through a return of each
  statement; with `EStateM.bind_of_ok` and `EStateM.bind_of_error` it reads a run one statement
  at a time.

## Implementation notes

`fmt.Errorf` and `errorsmod.Wrapf` format their message when they are called; the model
stores that formatted text, built by concatenation from the format string, so a reader can
compare each error of the model with the format string of the source. `strconv.Quote` is
written rune by rune as its `appendEscapedRune` escapes them, with `Kudora.Strconv.isPrint`
for `IsPrint`.
-/

namespace Kudora

/-- A Go panic, with the text of the value it was raised with. -/
structure Panic where
  value : String
deriving DecidableEq, Repr

/-- The outcome of a Go call: it returns a value, or it panics. -/
abbrev Call (α : Type) := Except Panic α

/-- A call that returns passes its result on. -/
@[simp] lemma Call.ok_bind {α β : Type} (a : α) (f : α → Call β) :
    (Except.ok a >>= f : Call β) = f a :=
  rfl

/-- The runtime panic of a method call or a field read through a `nil` pointer or interface. -/
def nilDereference : Panic := ⟨"runtime error: invalid memory address or nil pointer dereference"⟩

/-- An `error` value, as the modelled code and its libraries build them. -/
inductive Error where
  /-- An error registered with `errorsmod.Register(codespace, code, desc)`. -/
  | registered (codespace : String) (code : Nat) (desc : String)
  /-- `errorsmod.Wrapf(parent, format, args...)`, with the formatted message. -/
  | wrapped (msg : String) (parent : Error)
  /-- `errors.New(text)`, or `fmt.Errorf` without `%w`: only a text. -/
  | plain (text : String)
  /-- `fmt.Errorf` with a `%w` operand: the formatted text and the wrapped error. -/
  | wrapError (text : String) (err : Error)
  /-- `*strconv.NumError`: the function, the input and the cause. -/
  | numError (func num : String) (err : Error)
deriving DecidableEq, Repr

namespace Strconv

/-- The last `width` hexadecimal digits of `n`, in lower case, as `strconv` writes them:
`lowerhex[r>>s&0xF]` for `s` from `4 * (width - 1)` down to `0`. -/
def hexDigits (width n : Nat) : String :=
  String.mk ((List.range width).reverse.map fun i => Nat.digitChar (n >>> (4 * i) &&& 0xf))

/-- One rune as `strconv.Quote` writes it between the quotes (`appendEscapedRune`): the quote
and the backslash behind a backslash, a printable rune as it is, the seven C escapes, a control
character or `DEL` as `\x` and two digits, and every other rune as `\u` and four digits or `\U`
and eight. -/
def quoteRune (c : Char) : String :=
  if c = '"' then "\\\""
  else if c = '\\' then "\\\\"
  else if isPrint c then c.toString
  else if c = '\x07' then "\\a"
  else if c = '\x08' then "\\b"
  else if c = '\x0c' then "\\f"
  else if c = '\n' then "\\n"
  else if c = '\r' then "\\r"
  else if c = '\t' then "\\t"
  else if c = '\x0b' then "\\v"
  else if c.toNat < 0x20 ∨ c.toNat = 0x7f then "\\x" ++ hexDigits 2 c.toNat
  else if c.toNat < 0x10000 then "\\u" ++ hexDigits 4 c.toNat
  else "\\U" ++ hexDigits 8 c.toNat

example : quoteRune '\x7f' = "\\x7f" ∧ quoteRune '\u0085' = "\\u0085" ∧ quoteRune 'é' = "é" := by
  decide

/-- `strconv.Quote(s)`: `s` between double quotes, with its special runes escaped. -/
def quote (s : String) : String :=
  "\"" ++ String.join (s.data.map quoteRune) ++ "\""

end Strconv

namespace Error

/-- `err.Error()`. -/
def error : Error → String
  | registered _ _ desc => desc
  | wrapped msg parent => msg ++ ": " ++ parent.error
  | plain text => text
  | wrapError text _ => text
  | numError func num err =>
    "strconv." ++ func ++ ": parsing " ++ Strconv.quote num ++ ": " ++ err.error

/-- `errors.Is(err, target)`: `err` or an error in its unwrap chain is `target`. -/
def is : Error → Error → Bool
  | registered cs code desc, target => registered cs code desc == target
  | wrapped msg parent, target => wrapped msg parent == target || parent.is target
  | plain text, target => plain text == target
  | wrapError text err, target => wrapError text err == target || err.is target
  | numError func num err, target => numError func num err == target || err.is target

@[simp] lemma is_self (e : Error) : e.is e = true := by
  cases e <;> simp [is]

/-- **`Wrapf` keeps the wrapped error visible to `errors.Is`.** -/
theorem is_wrapped (msg : String) (parent target : Error) (h : parent.is target) :
    (wrapped msg parent).is target = true := by
  simp [is, h]

end Error

end Kudora

/-! ### Runs of a computation on the process state -/

namespace EStateM

variable {ε σ α β : Type} {x : EStateM ε σ α} {f : α → EStateM ε σ β} {s s' s'' : σ}

/-- A run of `x >>= f` that returns went through a return of `x`. -/
lemma bind_eq_ok {b : β} :
    (x >>= f) s = .ok b s'' ↔ ∃ a s', x s = .ok a s' ∧ f a s' = .ok b s'' := by
  show (match x s with | .ok a s' => f a s' | .error e s' => .error e s') = _ ↔ _
  cases x s <;> simp [and_assoc]

lemma bind_of_ok {a : α} (h : x s = .ok a s') : (x >>= f) s = f a s' := by
  show (match x s with | .ok a s' => f a s' | .error e s' => .error e s') = _
  rw [h]

lemma bind_of_error {e : ε} (h : x s = .error e s') : (x >>= f) s = .error e s' := by
  show (match x s with | .ok a s' => f a s' | .error e s' => .error e s') = _
  rw [h]

@[simp] lemma pure_apply_eq_ok {a b : α} : (pure a : EStateM ε σ α) s = .ok b s' ↔ a = b ∧ s = s' := by
  show Result.ok a s = _ ↔ _
  simp

@[simp] lemma get_apply_eq_ok {a : σ} : (get : EStateM ε σ σ) s = .ok a s' ↔ a = s ∧ s' = s := by
  show Result.ok s s = _ ↔ _
  simp [eq_comm]

@[simp] lemma modify_apply_eq_ok {g : σ → σ} {u : PUnit} :
    (modify g : EStateM ε σ PUnit) s = .ok u s' ↔ g s = s' := by
  show Result.ok _ (g s) = _ ↔ _
  simp

@[simp] lemma throw_apply_eq_ok {e : ε} {a : α} : (throw e : EStateM ε σ α) s = .ok a s' ↔ False := by
  show Result.error e s = _ ↔ _
  simp

end EStateM
