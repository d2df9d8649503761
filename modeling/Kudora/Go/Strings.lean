import Mathlib.Data.List.DropRight
import Mathlib.Data.Nat.Digits
import Kudora.Go.Runtime

set_option autoImplicit false

/-!
# The Go string functions the chain-id parser calls

`parseEVMChainID` trims, splits and parses its input with `strings.TrimSpace`,
`strings.Split` and `strconv.ParseUint`. They are modelled here from their Go definitions,
at the arguments the repository passes them: a one-byte separator for `Split`, base `10` and
bit size `64` for `ParseUint`.

## Main definitions

* `Kudora.Unicode.isSpace` — `unicode.IsSpace`.
* `Kudora.Strings.trimSpace`, `Kudora.Strings.split` — `strings.TrimSpace`, `strings.Split`.
* `Kudora.Strconv.parseUint`, `Kudora.Strconv.formatUint` — `strconv.ParseUint(s, 10, 64)`
  and `strconv.FormatUint(n, 10)`.

## Main results

* `Kudora.Strings.trimSpace_append_spaces` — white space added around a string is trimmed
  away again.
* `Kudora.Strings.split_append_cons` — splitting at a separator splits each side.
* `Kudora.Strconv.parseUint_formatUint` — `ParseUint` reads back every `uint64` that
  `FormatUint` writes, up to `2^64 - 1`.

## Implementation notes

A Go string is a byte string; it is modelled by a Lean `String`, a list of Unicode scalar
values, so the model covers the valid UTF-8 inputs. On those inputs the byte loops of the
source agree with the rune loops here: `Split` searches for an ASCII byte, which never
occurs inside a multi-byte rune, and `ParseUint` rejects the first byte of a non-ASCII rune
exactly where it rejects the rune. `TrimSpace` is modelled by what its ASCII fast path and
its `TrimFunc` fallback both compute: the longest white-space prefix and suffix removed.
-/

namespace Kudora

/-! ### `unicode.IsSpace` -/

namespace Unicode

/-- `unicode.IsSpace`, on the rune's code point: the Latin-1 spaces `'\t'`, `'\n'`, `'\v'`,
`'\f'`, `'\r'`, `' '`, `U+0085`, `U+00A0`, and above Latin-1 the `White_Space` runes
`U+1680`, `U+2000`–`U+200A`, `U+2028`, `U+2029`, `U+202F`, `U+205F`, `U+3000`. -/
def isSpace (c : Char) : Bool :=
  let r := c.toNat
  if r ≤ 0xFF then
    (0x09 ≤ r && r ≤ 0x0D) || r = 0x20 || r = 0x85 || r = 0xA0
  else
    r = 0x1680 || (0x2000 ≤ r && r ≤ 0x200A) || r = 0x2028 || r = 0x2029 || r = 0x202F ||
      r = 0x205F || r = 0x3000

/-- An ASCII digit is not white space. -/
lemma isSpace_of_isDigit {c : Char} (h : c.isDigit) : isSpace c = false := by
  simp only [Char.isDigit, Bool.and_eq_true, decide_eq_true_eq] at h
  have h0 : 48 ≤ c.toNat := h.1
  have h9 : c.toNat ≤ 57 := h.2
  simp only [isSpace]
  split <;> simp only [Bool.or_eq_false_iff, Bool.and_eq_false_iff, decide_eq_false_iff_not] <;>
    omega

end Unicode

/-! ### List helpers for the trimming and splitting lemmas -/

namespace List

variable {α : Type} {p : α → Bool}

/-- Dropping a prefix stops at the first element outside `p`. -/
lemma dropWhile_append_cons_of_not (A B : List α) {c : α} (hc : p c = false) :
    (A ++ c :: B).dropWhile p = A.dropWhile p ++ c :: B := by
  rw [List.dropWhile_append]
  split <;> simp_all [List.dropWhile_cons]

/-- Dropping a suffix stops at the last element outside `p`. -/
lemma rdropWhile_append_cons_of_not (A B : List α) {c : α} (hc : p c = false) :
    (A ++ c :: B).rdropWhile p = A ++ c :: B.rdropWhile p := by
  have h := dropWhile_append_cons_of_not B.reverse A.reverse hc
  simp only [List.rdropWhile, List.reverse_append, List.reverse_cons, List.append_assoc,
    List.singleton_append] at h ⊢
  rw [h]
  simp

/-- A suffix of elements in `p` is dropped whole. -/
lemma rdropWhile_append_of_pos (A W : List α) (hW : ∀ a ∈ W, p a) :
    (A ++ W).rdropWhile p = A.rdropWhile p := by
  simp [List.rdropWhile, @List.dropWhile_append_of_pos _ _ W.reverse _ (by simpa using hW)]

/-- A list with no element in `p` loses nothing from either end. -/
lemma dropWhile_eq_self_of_forall (A : List α) (h : ∀ a ∈ A, p a = false) :
    A.dropWhile p = A := by
  cases A with
  | nil => rfl
  | cons a A => simp [List.dropWhile_cons, h a (List.mem_cons_self a A)]

lemma rdropWhile_eq_self_of_forall (A : List α) (h : ∀ a ∈ A, p a = false) :
    A.rdropWhile p = A := by
  rw [List.rdropWhile, dropWhile_eq_self_of_forall _ (by simpa using h), List.reverse_reverse]

/-- `modifyHead` only looks at the first list of an append. -/
lemma modifyHead_append {f : α → α} {A : List α} (B : List α) (hA : A ≠ []) :
    (A ++ B).modifyHead f = A.modifyHead f ++ B := by
  cases A with
  | nil => exact absurd rfl hA
  | cons a A => rfl

/-- Splitting at a separator splits each side of it. -/
lemma splitOn_append_cons [DecidableEq α] (A B : List α) (sep : α) :
    (A ++ sep :: B).splitOn sep = A.splitOn sep ++ B.splitOn sep := by
  induction A with
  | nil => simp [List.splitOn, List.splitOnP_cons]
  | cons a A ih =>
    simp only [List.splitOn] at ih ⊢
    simp only [List.cons_append, List.splitOnP_cons]
    split
    · simp [ih]
    · rw [ih, modifyHead_append _ (List.splitOnP_ne_nil _ _)]

/-- The first piece of a split runs up to the first separator. -/
lemma splitOn_headD [DecidableEq α] (l : List α) (sep : α) :
    (l.splitOn sep).headD [] = l.takeWhile (· != sep) := by
  induction l with
  | nil => rfl
  | cons a l ih =>
    simp only [List.splitOn, List.splitOnP_cons] at ih ⊢
    by_cases h : a = sep
    · simp [h]
    · obtain ⟨x, xs, hx⟩ := List.exists_cons_of_ne_nil (List.splitOnP_ne_nil (· == sep) l)
      rw [hx] at ih ⊢
      simpa [h] using ih

/-- A list holding `a` splits at its last `a`. -/
lemma exists_eq_append_cons_of_mem [DecidableEq α] {a : α} :
    ∀ {l : List α}, a ∈ l → ∃ A B, l = A ++ a :: B ∧ a ∉ B
  | b :: l, h => by
    by_cases hl : a ∈ l
    · obtain ⟨A, B, rfl, hB⟩ := exists_eq_append_cons_of_mem hl
      exact ⟨b :: A, B, rfl, hB⟩
    · obtain rfl : a = b := (List.mem_cons.mp h).resolve_right hl
      exact ⟨[], l, rfl, hl⟩

end List

/-! ### `strings.TrimSpace` and `strings.Split` -/

namespace Strings

open Unicode

/-- `strings.TrimSpace(s)`: `s` without its leading and trailing white space. -/
def trimSpace (s : String) : String :=
  ⟨(s.data.dropWhile isSpace).rdropWhile isSpace⟩

/-- `strings.Split(s, sep)` for a one-byte separator: the pieces of `s` between the
separators, one more piece than there are separators. -/
def split (s : String) (sep : Char) : List String :=
  (s.data.splitOn sep).map String.mk

/-- Trimming stops at a rune that is not white space, on either side of it. -/
lemma trimSpace_append_cons (A B : List Char) {c : Char} (hc : isSpace c = false) :
    trimSpace ⟨A ++ c :: B⟩ = ⟨A.dropWhile isSpace ++ c :: B.rdropWhile isSpace⟩ := by
  simp only [trimSpace, List.dropWhile_append_cons_of_not _ _ hc,
    List.rdropWhile_append_cons_of_not _ _ hc]

/-- A string without white space is its own trim. -/
lemma trimSpace_eq_self (s : String) (h : ∀ c ∈ s.data, isSpace c = false) :
    trimSpace s = s := by
  simp [trimSpace, List.dropWhile_eq_self_of_forall _ h, List.rdropWhile_eq_self_of_forall _ h]

/-- **White space added around a string is trimmed away again.** -/
theorem trimSpace_append_spaces (ws s ws' : String) (hws : ∀ c ∈ ws.data, isSpace c)
    (hws' : ∀ c ∈ ws'.data, isSpace c) : trimSpace (ws ++ s ++ ws') = trimSpace s := by
  simp only [trimSpace, String.data_append, List.append_assoc,
    List.dropWhile_append_of_pos hws, List.dropWhile_append]
  split
  · rename_i h
    simp only [List.isEmpty_iff] at h
    simp [h, List.dropWhile_eq_nil_iff.mpr hws']
  · rw [List.rdropWhile_append_of_pos _ _ hws']

/-- Splitting at a separator splits each side of it. -/
theorem split_append_cons (A B : List Char) (sep : Char) :
    split ⟨A ++ sep :: B⟩ sep = split ⟨A⟩ sep ++ split ⟨B⟩ sep := by
  simp [split, List.splitOn_append_cons]

/-- A string without the separator is one piece. -/
lemma split_of_not_mem (A : List Char) (sep : Char) (h : sep ∉ A) : split ⟨A⟩ sep = [⟨A⟩] := by
  have hA : ∀ x ∈ A, ¬ (x == sep) = true := fun x hx hxs => h (by rwa [beq_iff_eq.mp hxs] at hx)
  simp [split, List.splitOn, List.splitOnP_eq_single _ _ hA]

/-- The first piece ends at the first separator. -/
lemma split_append_cons_of_not_mem (A B : List Char) (sep : Char) (h : sep ∉ A) :
    split ⟨A ++ sep :: B⟩ sep = ⟨A⟩ :: split ⟨B⟩ sep := by
  rw [split_append_cons, split_of_not_mem _ _ h]
  rfl

/-- `strings.Split(s, sep)[0]` is `s` up to its first separator. -/
lemma split_headD (s : String) (sep : Char) :
    (split s sep).headD "" = ⟨s.data.takeWhile (· != sep)⟩ := by
  rw [← List.splitOn_headD, split]
  cases s.data.splitOn sep <;> rfl

/-- `Split` never returns an empty list. -/
lemma split_ne_nil (s : String) (sep : Char) : split s sep ≠ [] := by
  simpa [split] using List.splitOnP_ne_nil _ _

end Strings

/-! ### `strconv.ParseUint` and `strconv.FormatUint` at base 10 -/

namespace Strconv

/-- `strconv.ErrSyntax`. -/
def errSyntax : Error := .plain "invalid syntax"

/-- `strconv.ErrRange`. -/
def errRange : Error := .plain "value out of range"

/-- `maxUint64/10 + 1`, the `cutoff` of `ParseUint` at base 10: the least `n` for which
`n * 10` leaves `uint64`. -/
def cutoff : Nat := (2 ^ 64 - 1) / 10 + 1

/-- The digit loop of `ParseUint(s, 10, 64)` from the value `n` read so far (always below
`2^64`). Below `cutoff` the product `n * 10` stays in `uint64`; the sum is then taken
modulo `2^64`, and its wrap-around is the test `n1 < n` of the source. -/
def parseUintDigits (s : String) : Nat → List Char → UInt64 × Option Error
  | n, [] => (UInt64.ofNat n, none)
  | n, c :: cs =>
    if c.isDigit then
      if cutoff ≤ n then (UInt64.ofNat (2 ^ 64 - 1), some (.numError "ParseUint" s errRange))
      else
        let n1 := (n * 10 + (c.toNat - '0'.toNat)) % 2 ^ 64
        if n1 < n * 10 then (UInt64.ofNat (2 ^ 64 - 1), some (.numError "ParseUint" s errRange))
        else parseUintDigits s n1 cs
    else (0, some (.numError "ParseUint" s errSyntax))

/-- `strconv.ParseUint(s, 10, 64)`. -/
def parseUint (s : String) : UInt64 × Option Error :=
  if s = "" then (0, some (.numError "ParseUint" s errSyntax)) else parseUintDigits s 0 s.data

/-- `strconv.FormatUint(n, 10)`: the decimal digits of `n`, most significant first. -/
def formatUint (n : UInt64) : String :=
  if n = 0 then "0" else ⟨(Nat.digits 10 n.toNat).reverse.map Nat.digitChar⟩

lemma formatUint_12000 : formatUint 12000 = "12000" := by
  simp [formatUint, Nat.digitChar, UInt64.size]

/-- A successful parse has read only digits. -/
lemma isDigit_of_parseUintDigits {s : String} :
    ∀ (n : Nat) (cs : List Char), (parseUintDigits s n cs).2 = none → ∀ c ∈ cs, c.isDigit
  | _, [], _ => by simp
  | n, c :: cs, h => by
    simp only [parseUintDigits] at h
    split at h
    · split at h
      · simp at h
      · split at h
        · simp at h
        · exact List.forall_mem_cons.mpr ⟨by assumption, isDigit_of_parseUintDigits _ cs h⟩
    · simp at h

/-- **A successful `ParseUint` has read only digits.** -/
theorem isDigit_of_parseUint {s : String} (h : (parseUint s).2 = none) : ∀ c ∈ s.data, c.isDigit := by
  unfold parseUint at h
  split at h
  · simp at h
  · exact isDigit_of_parseUintDigits _ _ h

/-- The decimal value of a list of digits, most significant first, after the value `a`. -/
lemma foldl_decimal_reverse (L : List Nat) (a : Nat) :
    L.reverse.foldl (fun acc d => acc * 10 + d) a = a * 10 ^ L.length + Nat.ofDigits 10 L := by
  induction L generalizing a with
  | nil => simp
  | cons d L ih =>
    rw [List.reverse_cons, List.foldl_append, ih]
    simp only [List.foldl, List.length_cons, Nat.ofDigits_cons, pow_succ]
    ring

lemma le_foldl_decimal (L : List Nat) (a : Nat) : a ≤ L.foldl (fun acc d => acc * 10 + d) a := by
  induction L generalizing a with
  | nil => exact le_rfl
  | cons d L ih => exact (show a ≤ a * 10 + d by omega).trans (ih _)

/-- The digit characters of `Nat.digitChar` and their values. -/
lemma digitChar_isDigit : ∀ d < 10, (Nat.digitChar d).isDigit ∧
    (Nat.digitChar d).toNat - '0'.toNat = d := by
  decide

/-- The loop reads a list of digits as its decimal value, as long as that value fits. -/
lemma parseUintDigits_digitChar (s : String) :
    ∀ (L : List Nat) (a : Nat), (∀ d ∈ L, d < 10) →
      L.foldl (fun acc d => acc * 10 + d) a < 2 ^ 64 →
      parseUintDigits s a (L.map Nat.digitChar) =
        (UInt64.ofNat (L.foldl (fun acc d => acc * 10 + d) a), none)
  | [], _, _, _ => rfl
  | d :: L, a, hL, hlt => by
    have hd := hL d (List.mem_cons_self d L)
    obtain ⟨hdig, hval⟩ := digitChar_isDigit d hd
    have hle := le_foldl_decimal L (a * 10 + d)
    simp only [List.foldl_cons] at hlt ⊢
    have hcut : ¬ cutoff ≤ a := by simp only [cutoff]; omega
    have hmod : (a * 10 + d) % 2 ^ 64 = a * 10 + d := Nat.mod_eq_of_lt (by omega)
    simp only [List.map_cons, parseUintDigits, hdig, hval, hcut, hmod, if_true, if_false]
    rw [if_neg (by omega)]
    exact parseUintDigits_digitChar s L _ (fun d' h' => hL d' (List.mem_cons_of_mem d h')) hlt

/-- **`ParseUint` reads back what `FormatUint` writes**, for every `uint64`. -/
theorem parseUint_formatUint (n : UInt64) : parseUint (formatUint n) = (n, none) := by
  unfold formatUint
  split
  · subst_vars; rfl
  · rename_i hn
    have hN : n.toNat ≠ 0 := fun h => hn (UInt64.toNat.inj (by simpa using h))
    have hval := foldl_decimal_reverse (Nat.digits 10 n.toNat) 0
    rw [zero_mul, zero_add, Nat.ofDigits_digits] at hval
    have hne : (⟨((Nat.digits 10 n.toNat).reverse.map Nat.digitChar)⟩ : String) ≠ "" := by
      simpa [String.ext_iff] using Nat.digits_ne_nil_iff_ne_zero.mpr hN
    rw [parseUint, if_neg hne, parseUintDigits_digitChar _ _ _
      (fun d hd => Nat.digits_lt_base (by norm_num) (List.mem_reverse.mp hd))
      (by rw [hval]; exact n.toNat_lt_size), hval]
    exact congrArg (·, none) (UInt64.toNat.inj (UInt64.toNat_ofNat_of_lt n.toNat_lt_size))

/-- Every character `FormatUint` writes is a digit. -/
lemma isDigit_formatUint (n : UInt64) : ∀ c ∈ (formatUint n).data, c.isDigit :=
  isDigit_of_parseUint (by rw [parseUint_formatUint])

end Strconv

end Kudora
