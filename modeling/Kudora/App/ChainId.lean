import Kudora.Go.Strings

set_option autoImplicit false

/-!
# `parseEVMChainID`: the EVM chain id inside a Cosmos chain id

`parseEVMChainID` trims its input, accepts it whole when it is a decimal `uint64`, and
otherwise reads the number between the last `'_'` and the first `'-'` after it, as in
`"kudora_12000-1"`.

## Main definitions

* `Kudora.App.parseEVMChainID` — the function, with the errors it returns.

## Main results

* `Kudora.App.parseEVMChainID_append_spaces` — white space around the input changes
  nothing.
* `Kudora.App.parseEVMChainID_of_trimSpace_eq` — an input whose trim has a `'_'` is read
  from the part after its last `'_'` and before the first `'-'` there.
* `Kudora.App.parseEVMChainID_formatUint` — the three shapes `name_N-rev`, `name_N` and `N`,
  with any white space around them, give back `N`, for every `uint64` `N`.
* `Kudora.App.parseEVMChainID_of_last_underscore` — the result, and the text of the error, for
  an input with a `'_'`.
* `Kudora.App.parseEVMChainID_eq_ok_iff` — the inputs read without error are exactly a decimal
  `uint64` alone, or one after the last `'_'` up to the next `'-'`.
-/

namespace Kudora.App

open Unicode Strings Strconv

/-- `parseEVMChainID(chainID)`. `parts[len(parts)-1]` is read only when `parts` has two
entries or more, and `strings.Split(last, "-")[0]` exists because `Split` never returns an
empty list (`Kudora.Strings.split_ne_nil`); the defaults of `getLastD` and `headD` are
never reached. -/
def parseEVMChainID (chainID : String) : UInt64 × Option Error :=
  let chainID := trimSpace chainID
  if chainID = "" then (0, some (.plain "empty chain id"))
  else match parseUint chainID with
    | (n, none) => (n, none)
    | (_, some _) =>
      let parts := split chainID '_'
      if parts.length < 2 then
        (0, some (.plain ("cannot extract evm chain id from " ++ quote chainID)))
      else
        let last := parts.getLastD ""
        let evmPart := (split last '-').headD ""
        match parseUint evmPart with
        | (n, none) => (n, none)
        | (_, some err) =>
          (0, some (.wrapError ("invalid evm chain id " ++ quote evmPart ++ " in " ++
            quote chainID ++ ": " ++ err.error) err))

/-- **White space around the input changes nothing**: the function reads only the trim. -/
theorem parseEVMChainID_append_spaces (ws s ws' : String) (hws : ∀ c ∈ ws.data, isSpace c)
    (hws' : ∀ c ∈ ws'.data, isSpace c) :
    parseEVMChainID (ws ++ s ++ ws') = parseEVMChainID s := by
  unfold parseEVMChainID
  rw [trimSpace_append_spaces ws s ws' hws hws']

/-- `ParseUint` fails on a string with a `'_'`. -/
lemma parseUint_of_underscore {s : String} (h : '_' ∈ s.data) : (parseUint s).2 ≠ none :=
  fun hn => absurd (isDigit_of_parseUint hn _ h) (by decide)

/-- **An id with a `'_'` is read after its last `'_'`.** If the trim of the input is
`A ++ "_" ++ B` with no `'_'` in `B`, the result is that of `ParseUint` on `B` up to its first
`'-'`, and its error quotes that part and the trimmed id. -/
lemma parseEVMChainID_of_last_underscore {s : String} {A B : List Char}
    (ht : trimSpace s = ⟨A ++ '_' :: B⟩) (hB : '_' ∉ B) :
    parseEVMChainID s =
      match parseUint ⟨B.takeWhile (· != '-')⟩ with
      | (n, none) => (n, none)
      | (_, some err) =>
        (0, some (.wrapError ("invalid evm chain id " ++ quote ⟨B.takeWhile (· != '-')⟩ ++
          " in " ++ quote (trimSpace s) ++ ": " ++ err.error) err)) := by
  have hparts : split (trimSpace s) '_' = split ⟨A⟩ '_' ++ [⟨B⟩] := by
    rw [ht, split_append_cons, split_of_not_mem _ _ hB]
  have hlen : ¬ (split ⟨A⟩ '_' ++ [(⟨B⟩ : String)]).length < 2 := by
    have := List.length_pos_of_ne_nil (split_ne_nil ⟨A⟩ '_')
    simp only [List.length_append, List.length_singleton]
    omega
  have hne : trimSpace s ≠ "" := by simp [ht, String.ext_iff]
  obtain ⟨m, e, hpe⟩ : ∃ m e, parseUint (trimSpace s) = (m, some e) := by
    rcases hp : parseUint (trimSpace s) with ⟨m, _ | e⟩
    · exact absurd (congrArg Prod.snd hp) (parseUint_of_underscore (by simp [ht]))
    · exact ⟨m, e, rfl⟩
  simp only [parseEVMChainID, if_neg hne, hpe, hparts, if_neg hlen, List.getLastD_concat,
    split_headD]

/-- An id with a `'_'` whose part after the last `'_'` and before the first `'-'` is the
decimal form of `n` is read as `n`. -/
theorem parseEVMChainID_of_trimSpace_eq {s : String} {A B : List Char} {n : UInt64}
    (ht : trimSpace s = ⟨A ++ '_' :: B⟩) (hB : '_' ∉ B)
    (hevm : (split ⟨B⟩ '-').headD "" = formatUint n) :
    parseEVMChainID s = (n, none) := by
  rw [split_headD] at hevm
  rw [parseEVMChainID_of_last_underscore ht hB, hevm, parseUint_formatUint]

/-- `FormatUint` writes neither white space, `'_'` nor `'-'`. -/
lemma not_mem_formatUint (n : UInt64) :
    (∀ c ∈ (formatUint n).data, isSpace c = false) ∧ '_' ∉ (formatUint n).data ∧
      '-' ∉ (formatUint n).data :=
  ⟨fun c hc => isSpace_of_isDigit (isDigit_formatUint n c hc),
    fun h => absurd (isDigit_formatUint n _ h) (by decide),
    fun h => absurd (isDigit_formatUint n _ h) (by decide)⟩

/-- `FormatUint` writes at least one digit. -/
lemma formatUint_ne_empty (n : UInt64) : formatUint n ≠ "" := by
  intro h
  have := parseUint_formatUint n
  rw [h] at this
  simp [parseUint] at this

/-- **Parsing recovers the EVM chain id.** For every name, every `uint64` `n`, every revision
without `'_'`, and any white space `ws`, `ws'` around the input, the ids
`name_n-revision`, `name_n` and `n`, with `n` in decimal, all parse to `n` without error.

**Proof sketch.** `parseEVMChainID_append_spaces` removes the white space. The decimal form
alone has no white space and parses whole. With a name, the trim cuts at most the name's
leading and the revision's trailing white space, and `parseEVMChainID_of_trimSpace_eq`
applies with `B` the decimal form, followed by `'-'` and the trimmed revision if any. -/
theorem parseEVMChainID_formatUint (name revision ws ws' : String) (n : UInt64)
    (hrev : '_' ∉ revision.data) (hws : ∀ c ∈ ws.data, isSpace c)
    (hws' : ∀ c ∈ ws'.data, isSpace c) :
    parseEVMChainID (ws ++ (name ++ "_" ++ formatUint n ++ "-" ++ revision) ++ ws') = (n, none) ∧
      parseEVMChainID (ws ++ (name ++ "_" ++ formatUint n) ++ ws') = (n, none) ∧
      parseEVMChainID (ws ++ formatUint n ++ ws') = (n, none) := by
  obtain ⟨hspace, hunder, hdash⟩ := not_mem_formatUint n
  simp only [parseEVMChainID_append_spaces _ _ _ hws hws']
  refine ⟨?_, ?_, ?_⟩
  · -- `name_n-revision`
    have hs : name ++ "_" ++ formatUint n ++ "-" ++ revision =
        ⟨name.data ++ '_' :: ((formatUint n).data ++ '-' :: revision.data)⟩ := by
      simp [String.ext_iff]
    have hrdrop := List.rdropWhile_prefix (p := isSpace) (l := revision.data)
    refine parseEVMChainID_of_trimSpace_eq (A := name.data.dropWhile isSpace) (by
      rw [hs, trimSpace_append_cons _ _ (by decide),
        List.rdropWhile_append_cons_of_not _ _ (by decide)]) ?_ ?_
    · simp only [List.mem_append, List.mem_cons, not_or]
      exact ⟨hunder, by decide, fun h => hrev (hrdrop.subset h)⟩
    · rw [split_append_cons_of_not_mem _ _ _ hdash]
      rfl
  · -- `name_n`
    have hs : name ++ "_" ++ formatUint n = ⟨name.data ++ '_' :: (formatUint n).data⟩ := by
      simp [String.ext_iff]
    refine parseEVMChainID_of_trimSpace_eq (A := name.data.dropWhile isSpace)
      (B := (formatUint n).data) (by
        rw [hs, trimSpace_append_cons _ _ (by decide),
          List.rdropWhile_eq_self_of_forall _ hspace]) hunder ?_
    rw [split_of_not_mem _ _ hdash]
    rfl
  · -- `n`
    simp only [parseEVMChainID, trimSpace_eq_self _ hspace, if_neg (formatUint_ne_empty n),
      parseUint_formatUint]

/-- The id of the repository's own chain, `kudora_12000-1`, with white space around it. -/
theorem parseEVMChainID_kudora :
    ('_' ∉ "1".data ∧ (∀ c ∈ " ".data, isSpace c) ∧ ∀ c ∈ "\n".data, isSpace c) ∧
      parseEVMChainID (" " ++ ("kudora" ++ "_" ++ formatUint 12000 ++ "-" ++ "1") ++ "\n") =
        (12000, none) :=
  ⟨⟨by decide, by decide, by decide⟩,
    (parseEVMChainID_formatUint "kudora" "1" " " "\n" 12000 (by decide) (by decide)
      (by decide)).1⟩

/-! ### What `parseEVMChainID` accepts -/

/-- **What `parseEVMChainID` accepts.** An input is read as `n` without error exactly when,
once trimmed, it is a decimal `uint64` of value `n`, or it has a decimal `uint64` of value `n`
after its last `'_'`, up to the first `'-'` there.

**Proof sketch.** Without a `'_'` the split has one piece, so only the whole trimmed id can be
read. With one, `parseEVMChainID_of_last_underscore` reads the part after the last `'_'`,
found by `List.exists_eq_append_cons_of_mem`. -/
theorem parseEVMChainID_eq_ok_iff (s : String) (n : UInt64) :
    parseEVMChainID s = (n, none) ↔
      parseUint (trimSpace s) = (n, none) ∨
        ∃ A B : List Char, trimSpace s = ⟨A ++ '_' :: B⟩ ∧ '_' ∉ B ∧
          parseUint ⟨B.takeWhile (· != '-')⟩ = (n, none) := by
  constructor
  · intro h
    by_cases hu : '_' ∈ (trimSpace s).data
    · -- read after the last `'_'`
      obtain ⟨A, B, hAB, hB⟩ := List.exists_eq_append_cons_of_mem hu
      rw [parseEVMChainID_of_last_underscore (String.ext hAB) hB] at h
      refine .inr ⟨A, B, String.ext hAB, hB, ?_⟩
      split at h
      · rename_i m hm; rw [hm, h]
      · cases h
    · -- one piece: only the whole id can be read
      dsimp only [parseEVMChainID] at h
      split at h
      · cases h
      · split at h
        · rename_i m hm; exact .inl (by rw [hm, h])
        · simp [split_of_not_mem _ _ hu] at h
  · rintro (h | ⟨A, B, ht, hB, h⟩)
    · have hne : trimSpace s ≠ "" := fun he => by simp [he, parseUint] at h
      simp only [parseEVMChainID, if_neg hne, h]
    · rw [parseEVMChainID_of_last_underscore ht hB, h]

end Kudora.App
