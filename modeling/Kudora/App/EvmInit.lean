import Kudora.App.ChainId

set_option autoImplicit false

/-!
# `EVMAppOptions`: one EVM initialization per process

`EVMAppOptions(chainID)` runs `initEVM(chainID)` inside `evmInitOnce.Do`, stores its error in
the package variable `evmInitErr`, and returns that variable. `initEVM` looks the chain id up
in `ChainsCoinInfo`, registers the denominations (`setBaseDenom`), reads the EVM chain id
(`parseEVMChainID`) and configures the EVM module. Each of these steps writes process-wide
state of the SDK or of the EVM module, and each may panic.

## Main definitions

* `Kudora.App.LegacyDec`, `Kudora.App.legacyNewDecWithPrec` — the decimals of
  `cosmossdk.io/math` that `setBaseDenom` builds.
* `Kudora.App.chainsCoinInfo`, `Kudora.App.setBaseDenom`, `Kudora.App.initEVM` — the
  initialization, over an `EvmLibrary` of the SDK and EVM-module calls it makes.
* `Kudora.App.EvmGlobals`, `Kudora.App.onceDo`, `Kudora.App.evmAppOptions` — the package
  state, `sync.Once.Do`, and `EVMAppOptions`.
* `Kudora.App.evmAppOptionsRun` — a sequence of calls, in the order the callers enter the
  once-cell.
* `Kudora.App.coinInfoFor`, `Kudora.App.configureEVM` — the lookup of `initEVM` in
  `ChainsCoinInfo`, and its statements after the lookup.
* `Kudora.App.KnownChainID` — the chain ids `ChainsCoinInfo` has coin information for.

## Main results

* `Kudora.App.initEVM_knownChainID` — `initEVM` goes on to register the denominations of
  `kudoraCoinInfo` exactly on the empty id, every `kudora_12000-...` and `kudora_9000-1` alone,
  and refuses every other id before writing any state.
* `Kudora.App.initEVM_returns` — `initEVM` panics only where the library does.
* `Kudora.App.initEVM_kudora12000` — every revision of `kudora_12000` without `'_'` initializes
  the EVM for chain id `12000`; `Kudora.App.initEVM_kudora12000_underscore` — with a `'_'`, the
  EVM chain id is the number after it.
* `Kudora.App.evmAppOptions_of_done` — once the flag is set, a call returns the stored error
  and changes nothing.
* `Kudora.App.evmAppOptionsRun_initial` — from the process start, `initEVM` runs once, on
  the first call's chain id. If it returns, every call returns its result; if it panics,
  the first call panics and every later call returns `nil`.

## Design

`sync.Once.Do` holds a mutex while `f` runs, so concurrent callers enter it one at a time
and the run of any set of concurrent calls is the run of some sequence of them: the order in
which they take the mutex, or find the flag set (`Kudora.App.evmAppOptions_linearizable`
proves this of the statements of `Once.Do`, under every schedule). A panic unwinds only the
goroutine of the call that raised it, so the model goes on with the next call. The state records, as a ghost
field that nothing reads, the chain ids `initEVM` was entered with.
-/

namespace Kudora.App

open Strings Strconv

/-! ### Decimals and coin information -/

/-- `math.LegacyPrecision`. -/
def legacyPrecision : Nat := 18

/-- `math.LegacyDec`: a decimal with `LegacyPrecision` fractional digits, as the integer
`i = value * 10^18`. -/
structure LegacyDec where
  i : Int
deriving DecidableEq, Repr

/-- `math.LegacyOneDec()`. -/
def legacyOneDec : LegacyDec := ⟨10 ^ legacyPrecision⟩

/-- `math.LegacyNewDecWithPrec(i, prec)`, for a precision converted from a `uint32`, hence
never negative: `i * 10^-prec`. Its `precisionMultiplier` panics on a precision above
`LegacyPrecision`. -/
def legacyNewDecWithPrec (i : Int) (prec : Nat) : Call LegacyDec :=
  if legacyPrecision < prec then
    .error ⟨"too much precision, maximum " ++ toString legacyPrecision ++ ", provided " ++
      toString prec⟩
  else .ok ⟨i * 10 ^ (legacyPrecision - prec)⟩

/-- `evmtypes.EvmCoinInfo`. -/
structure EvmCoinInfo where
  denom : String
  extendedDenom : String
  displayDenom : String
  decimals : UInt32
deriving DecidableEq, Repr

/-- `DefaultChainID`. -/
def defaultChainID : String := "kudora_12000-1"

/-- `BaseDenom`. -/
def baseDenom : String := "kud"

/-- `DisplayDenom`. -/
def displayDenom : String := "kudos"

/-- The coin information every entry of `ChainsCoinInfo` holds. -/
def kudoraCoinInfo : EvmCoinInfo where
  denom := baseDenom
  extendedDenom := baseDenom
  displayDenom := displayDenom
  decimals := 18

/-- `ChainsCoinInfo`, the map from chain ids to coin information. -/
def chainsCoinInfo : List (String × EvmCoinInfo) :=
  [(defaultChainID, kudoraCoinInfo), ("kudora_12000", kudoraCoinInfo),
    ("kudora_9000-1", kudoraCoinInfo)]

/-! ### `initEVM` -/

/-- `*evmtypes.ChainConfig`, as far as the model follows it: the EVM chain id it was made
for. -/
structure ChainConfig where
  chainId : UInt64
deriving DecidableEq, Repr

/-- The SDK and EVM-module calls `initEVM` makes, on the process state `σ` they read and
write: `sdk.RegisterDenom`, `evmtypes.DefaultChainConfig`, and
`NewEVMConfigurator().WithChainConfig(cfg).WithEVMCoinInfo(ci).Configure()`. Each returns
or panics; the state a panic leaves stays. -/
structure EvmLibrary (σ : Type) where
  registerDenom : String → LegacyDec → EStateM Panic σ (Option Error)
  defaultChainConfig : UInt64 → EStateM Panic σ ChainConfig
  configure : ChainConfig → EvmCoinInfo → EStateM Panic σ (Option Error)

section Init

variable {σ : Type} (lib : EvmLibrary σ)

/-- A Go call that returns or panics, inside a computation on the process state. -/
def liftCall {α : Type} : Call α → EStateM Panic σ α
  | .ok a => pure a
  | .error p => throw p

/-- `setBaseDenom(ci)`. -/
def setBaseDenom (ci : EvmCoinInfo) : EStateM Panic σ (Option Error) := do
  match ← lib.registerDenom ci.displayDenom legacyOneDec with
  | some err =>
    return some (.wrapError ("failed to register display denom " ++ ci.displayDenom ++ ": " ++
      err.error) err)
  | none =>
    let baseDenomPrecision ← liftCall (legacyNewDecWithPrec 1 ci.decimals.toNat)
    match ← lib.registerDenom ci.denom baseDenomPrecision with
    | some err =>
      return some (.wrapError ("failed to register base denom " ++ ci.denom ++ ": " ++
        err.error) err)
    | none => return none

/-- `initEVM(chainID)`. -/
def initEVM (chainID : String) : EStateM Panic σ (Option Error) := do
  let chainID := if chainID = "" then defaultChainID else chainID
  let baseID := (split chainID '-').headD ""
  match (chainsCoinInfo.lookup baseID).orElse fun _ => chainsCoinInfo.lookup chainID with
  | none =>
    return some (.plain ("unknown chain id: " ++ chainID ++ " (not found in ChainsCoinInfo)"))
  | some coinInfo =>
    match ← setBaseDenom lib coinInfo with
    | some err => return some (.wrapError ("failed to set base denom: " ++ err.error) err)
    | none =>
      match parseEVMChainID chainID with
      | (_, some err) =>
        return some (.wrapError ("failed to parse evm chain id from " ++ quote chainID ++ ": " ++
          err.error) err)
      | (evmChainID, none) =>
        let ethCfg ← lib.defaultChainConfig evmChainID
        match ← lib.configure ethCfg coinInfo with
        | some err => return some (.wrapError ("failed to configure EVM: " ++ err.error) err)
        | none => return none

end Init

/-! ### Which chain ids `initEVM` accepts, and what it configures -/

/-- The lookup of `initEVM` on the chain id it has after replacing the empty id by
`DefaultChainID`: `ChainsCoinInfo[baseID]` with `baseID` the part of the chain id before its
first `'-'`, and failing that `ChainsCoinInfo[chainID]`. -/
def coinInfoFor (chainID : String) : Option EvmCoinInfo :=
  (chainsCoinInfo.lookup ((split chainID '-').headD "")).orElse fun _ =>
    chainsCoinInfo.lookup chainID

lemma lookup_chainsCoinInfo (key : String) (ci : EvmCoinInfo) :
    chainsCoinInfo.lookup key = some ci ↔
      (key = defaultChainID ∨ key = "kudora_12000" ∨ key = "kudora_9000-1") ∧
        ci = kudoraCoinInfo := by
  simp only [chainsCoinInfo, List.lookup_cons, List.lookup_nil]
  by_cases h1 : key = defaultChainID
  · subst h1; simp [eq_comm]
  simp only [beq_false_of_ne h1]
  by_cases h2 : key = "kudora_12000"
  · subst h2; simp [eq_comm]
  simp only [beq_false_of_ne h2]
  by_cases h3 : key = "kudora_9000-1"
  · subst h3; simp [eq_comm]
  simp [beq_false_of_ne h3, h1, h2, h3]

/-- The lookup succeeds on a chain id exactly when its characters before the first `'-'` spell
`kudora_12000` or it is `kudora_9000-1`, and what it finds is always `kudoraCoinInfo`: the part
before the first `'-'` has no `'-'`, so of the three keys of `ChainsCoinInfo` it can only be
`kudora_12000`, and the full id is looked up only when that fails. -/
lemma coinInfoFor_eq_some_iff (chainID : String) (ci : EvmCoinInfo) :
    coinInfoFor chainID = some ci ↔
      (chainID.data.takeWhile (· != '-') = "kudora_12000".data ∨ chainID = "kudora_9000-1") ∧
        ci = kudoraCoinInfo := by
  rw [coinInfoFor, split_headD]
  have hdash : '-' ∉ chainID.data.takeWhile (· != '-') := fun h => by
    simpa using List.mem_takeWhile_imp h
  have hkey : ∀ key : String, '-' ∈ key.data →
      (⟨chainID.data.takeWhile (· != '-')⟩ : String) ≠ key := fun key hk h =>
    hdash (by subst h; exact hk)
  have hbase : ∀ ci', chainsCoinInfo.lookup ⟨chainID.data.takeWhile (· != '-')⟩ = some ci' ↔
      chainID.data.takeWhile (· != '-') = "kudora_12000".data ∧ ci' = kudoraCoinInfo := by
    intro ci'
    rw [lookup_chainsCoinInfo]
    simp only [hkey defaultChainID (by decide), hkey "kudora_9000-1" (by decide), false_or,
      or_false, String.ext_iff]
  by_cases hb : chainID.data.takeWhile (· != '-') = "kudora_12000".data
  · have : chainsCoinInfo.lookup ⟨chainID.data.takeWhile (· != '-')⟩ = some kudoraCoinInfo :=
      (hbase _).mpr ⟨hb, rfl⟩
    rw [this]
    simp [hb, eq_comm]
  · have hnone : chainsCoinInfo.lookup ⟨chainID.data.takeWhile (· != '-')⟩ = none :=
      Option.eq_none_iff_forall_not_mem.mpr fun ci' h => hb ((hbase ci').mp h).1
    -- the two keys with base `kudora_12000` would have been found under their base
    have hfull : ∀ key, key = defaultChainID ∨ key = "kudora_12000" →
        chainID = key → False := by
      rintro key (rfl | rfl) rfl <;> exact hb (by decide)
    simp only [hnone, Option.orElse, lookup_chainsCoinInfo, hb, false_or]
    constructor
    · rintro ⟨(h | h | h), rfl⟩
      exacts [(hfull _ (.inl rfl) h).elim, (hfull _ (.inr rfl) h).elim, ⟨h, rfl⟩]
    · rintro ⟨h, rfl⟩
      exact ⟨.inr (.inr h), rfl⟩

/-- The chain ids `initEVM` finds coin information for: the empty id, which it replaces by
`DefaultChainID`, every id whose characters before the first `'-'` spell `kudora_12000`, and
`kudora_9000-1` alone. -/
def KnownChainID (chainID : String) : Prop :=
  chainID = "" ∨ chainID.data.takeWhile (· != '-') = "kudora_12000".data ∨ chainID = "kudora_9000-1"

instance : DecidablePred KnownChainID := fun _ => inferInstanceAs (Decidable (_ ∨ _ ∨ _))

lemma knownChainID_iff (chainID : String) :
    KnownChainID chainID ↔
      coinInfoFor (if chainID = "" then defaultChainID else chainID) = some kudoraCoinInfo := by
  rw [coinInfoFor_eq_some_iff]
  by_cases h : chainID = ""
  · simp only [KnownChainID, h, if_true, true_or, and_true, true_iff]
    exact .inl (by decide)
  · simp [KnownChainID, h]

/-- The refusal of a chain id `initEVM` finds no coin information for. -/
def unknownChainIDError (chainID : String) : Error :=
  .plain ("unknown chain id: " ++ chainID ++ " (not found in ChainsCoinInfo)")

section Lookup

variable {σ : Type} (lib : EvmLibrary σ)

/-- **The chain ids `initEVM` accepts.** For every library behaviour, `initEVM` goes on to
register the denominations of `kudoraCoinInfo` exactly on the known chain ids, the empty id
among them through its `DefaultChainID` default; it refuses every other id with the
unknown-chain error, before any state is written. -/
theorem initEVM_knownChainID (chainID : String) :
    (KnownChainID chainID → ∃ k, initEVM lib chainID = setBaseDenom lib kudoraCoinInfo >>= k) ∧
      (¬ KnownChainID chainID → ∀ s,
        initEVM lib chainID s = .ok (some (unknownChainIDError chainID)) s) := by
  refine ⟨fun hk => ?_, fun hk s => ?_⟩
  · have hc := (knownChainID_iff chainID).mp hk
    unfold coinInfoFor at hc
    exact ⟨_, by simp only [initEVM, hc]; rfl⟩
  · have hne : chainID ≠ "" := fun h => hk (.inl h)
    have hc : coinInfoFor chainID = none := Option.eq_none_iff_forall_not_mem.mpr fun ci hci =>
      hk (.inr ((coinInfoFor_eq_some_iff chainID ci).mp hci).1)
    unfold coinInfoFor at hc
    simp only [initEVM, if_neg hne, hc]
    rfl

end Lookup

/-- A library whose calls all return `nil`. -/
def quietEvmLibrary : EvmLibrary Unit :=
  ⟨fun _ _ => pure none, fun n => pure ⟨n⟩, fun _ _ => pure none⟩

/-- A library whose calls all return, with an error or without. -/
structure EvmLibrary.Returns {σ : Type} (lib : EvmLibrary σ) : Prop where
  registerDenom : ∀ denom dec s, ∃ r s', lib.registerDenom denom dec s = .ok r s'
  defaultChainConfig : ∀ n s, ∃ cfg s', lib.defaultChainConfig n s = .ok cfg s'
  configure : ∀ cfg ci s, ∃ r s', lib.configure cfg ci s = .ok r s'

lemma quietEvmLibrary_returns : quietEvmLibrary.Returns :=
  ⟨fun _ _ _ => ⟨_, _, rfl⟩, fun _ _ => ⟨_, _, rfl⟩, fun _ _ _ => ⟨_, _, rfl⟩⟩

/-- The chain id of another network is refused. -/
theorem initEVM_refuses_cosmoshub :
    ¬ KnownChainID "cosmoshub-4" ∧
      initEVM quietEvmLibrary "cosmoshub-4" () =
        .ok (some (unknownChainIDError "cosmoshub-4")) () :=
  ⟨by decide, (initEVM_knownChainID quietEvmLibrary "cosmoshub-4").2 (by decide) ()⟩

section Configure

variable {σ : Type} (lib : EvmLibrary σ)

/-- The statements of `initEVM` after the lookup, for a chain id whose EVM chain id parses:
`setBaseDenom(coinInfo)`, then `DefaultChainConfig(evmChainID)` and `Configure()`. -/
def configureEVM (coinInfo : EvmCoinInfo) (evmChainID : UInt64) :
    EStateM Panic σ (Option Error) := do
  match ← setBaseDenom lib coinInfo with
  | some err => return some (.wrapError ("failed to set base denom: " ++ err.error) err)
  | none =>
    let ethCfg ← lib.defaultChainConfig evmChainID
    match ← lib.configure ethCfg coinInfo with
    | some err => return some (.wrapError ("failed to configure EVM: " ++ err.error) err)
    | none => return none

/-- `initEVM` on a chain id it finds coin information for and whose EVM chain id parses. -/
lemma initEVM_of_coinInfoFor {chainID : String} {ci : EvmCoinInfo} {n : UInt64}
    (hne : chainID ≠ "") (hci : coinInfoFor chainID = some ci)
    (hn : parseEVMChainID chainID = (n, none)) :
    initEVM lib chainID = configureEVM lib ci n := by
  unfold coinInfoFor at hci
  simp only [initEVM, if_neg hne, hci, hn]
  rfl

/-- `setBaseDenom` panics on its own only for more than `LegacyPrecision` decimals. -/
lemma setBaseDenom_returns (hlib : lib.Returns) {ci : EvmCoinInfo}
    (hdec : ci.decimals.toNat ≤ legacyPrecision) (s : σ) :
    ∃ r s', setBaseDenom lib ci s = .ok r s' := by
  have hprec : legacyNewDecWithPrec 1 ci.decimals.toNat =
      .ok ⟨1 * 10 ^ (legacyPrecision - ci.decimals.toNat)⟩ := if_neg (not_lt.mpr hdec)
  obtain ⟨r₁, s₁, h₁⟩ := hlib.registerDenom ci.displayDenom legacyOneDec s
  obtain ⟨r₂, s₂, h₂⟩ := hlib.registerDenom ci.denom ⟨1 * 10 ^ (legacyPrecision - ci.decimals.toNat)⟩ s₁
  rw [setBaseDenom, EStateM.bind_of_ok h₁]
  rcases r₁ with _ | err
  · simp only [hprec, liftCall]
    rw [EStateM.bind_of_ok (x := pure _) rfl, EStateM.bind_of_ok h₂]
    cases r₂ <;> exact ⟨_, _, rfl⟩
  · exact ⟨_, _, rfl⟩

/-- **`initEVM` panics only in the library.** Its own panic, the precision check of
`LegacyNewDecWithPrec` in `setBaseDenom`, is never reached: every coin information of
`ChainsCoinInfo` has 18 decimals. So on every chain id `initEVM` returns, with an error or
without, when the library's calls do.

**Proof sketch.** A chain id is refused or looked up to `kudoraCoinInfo`
(`coinInfoFor_eq_some_iff`), on which `setBaseDenom` returns (`setBaseDenom_returns`); the
rest of `initEVM` is library calls and error returns. -/
theorem initEVM_returns (hlib : lib.Returns) (chainID : String) (s : σ) :
    ∃ r s', initEVM lib chainID s = .ok r s' := by
  simp only [initEVM]
  generalize (if chainID = "" then defaultChainID else chainID) = c
  rcases hci : coinInfoFor c with _ | ci
  · simp only [coinInfoFor] at hci
    simp only [hci]
    exact ⟨_, _, rfl⟩
  obtain rfl := ((coinInfoFor_eq_some_iff c ci).mp hci).2
  simp only [coinInfoFor] at hci
  obtain ⟨r₁, s₁, h₁⟩ := setBaseDenom_returns lib hlib
    (show kudoraCoinInfo.decimals.toNat ≤ legacyPrecision from le_rfl) s
  simp only [hci]
  rw [EStateM.bind_of_ok h₁]
  rcases r₁ with _ | err
  · rcases hn : parseEVMChainID c with ⟨n, _ | err⟩
    · obtain ⟨cfg, s₂, h₂⟩ := hlib.defaultChainConfig n s₁
      obtain ⟨r₃, s₃, h₃⟩ := hlib.configure cfg kudoraCoinInfo s₂
      simp only [hn]
      rw [EStateM.bind_of_ok h₂, EStateM.bind_of_ok h₃]
      cases r₃ <;> exact ⟨_, _, rfl⟩
    · simp only [hn]
      exact ⟨_, _, rfl⟩
  · exact ⟨_, _, rfl⟩

theorem initEVM_returns_quiet :
    quietEvmLibrary.Returns ∧ ∃ r s', initEVM quietEvmLibrary "cosmoshub-4" () = .ok r s' :=
  ⟨quietEvmLibrary_returns, initEVM_returns quietEvmLibrary quietEvmLibrary_returns "cosmoshub-4" ()⟩

/-- The lookup finds `kudoraCoinInfo` for every id whose first piece is `kudora_12000`. -/
lemma coinInfoFor_of_headD {chainID : String}
    (h : (split chainID '-').headD "" = "kudora_12000") :
    coinInfoFor chainID = some kudoraCoinInfo := by
  simp only [coinInfoFor, h]
  rfl

/-- The ids `kudora_12000-...` split at `'-'` into `kudora_12000` first. -/
lemma headD_split_kudora12000 (rest : List Char) :
    (split ⟨"kudora_12000".data ++ '-' :: rest⟩ '-').headD "" = "kudora_12000" := by
  rw [split_append_cons_of_not_mem _ _ _ (by decide)]
  rfl

/-- **Every revision of `kudora_12000` initializes the EVM for chain id `12000`.** For every
library behaviour and every revision without `'_'`, `initEVM` on `kudora_12000-<revision>`
registers the denominations of `kudoraCoinInfo` and configures the EVM for chain id `12000`,
as it does for `DefaultChainID`: the coin information and the EVM chain id agree. -/
theorem initEVM_kudora12000 (revision : String) (hrev : '_' ∉ revision.data) :
    initEVM lib ("kudora_12000-" ++ revision) = configureEVM lib kudoraCoinInfo 12000 := by
  have hs : "kudora_12000-" ++ revision =
      ⟨"kudora".data ++ '_' :: ("12000".data ++ '-' :: revision.data)⟩ := by
    simp [String.ext_iff]
  have hn : parseEVMChainID ("kudora_12000-" ++ revision) = (12000, none) := by
    refine parseEVMChainID_of_trimSpace_eq (A := "kudora".data) (by
      rw [hs, trimSpace_append_cons _ _ (by decide),
        List.rdropWhile_append_cons_of_not _ _ (by decide)]
      rfl) ?_ ?_
    · simp only [List.mem_append, List.mem_cons, not_or]
      exact ⟨by decide, by decide,
        fun h => hrev ((List.rdropWhile_prefix Unicode.isSpace revision.data).subset h)⟩
    · rw [split_append_cons_of_not_mem _ _ _ (by decide), formatUint_12000]
      rfl
  have hsplit : "kudora_12000-" ++ revision = ⟨"kudora_12000".data ++ '-' :: revision.data⟩ := by
    simp [String.ext_iff]
  refine initEVM_of_coinInfoFor lib (by simp [String.ext_iff]) (coinInfoFor_of_headD ?_) hn
  rw [hsplit]
  exact headD_split_kudora12000 _

theorem initEVM_kudora12000_one :
    '_' ∉ "1".data ∧
      initEVM quietEvmLibrary ("kudora_12000-" ++ "1") =
        configureEVM quietEvmLibrary kudoraCoinInfo 12000 :=
  ⟨by decide, initEVM_kudora12000 quietEvmLibrary "1" (by decide)⟩

/-- **The EVM chain id is read after the last `'_'`, the coin information before the first
`'-'`.** For every revision and every `uint64` `n`, `initEVM` on
`kudora_12000-<revision>_<n>` finds the coin information of `kudora_12000` and configures the
EVM for chain id `n`: the two parts of the id are read independently, and a `'_'` in the
revision gives the EVM a chain id other than `12000`. -/
theorem initEVM_kudora12000_underscore (revision : String) (n : UInt64) :
    initEVM lib ("kudora_12000-" ++ revision ++ "_" ++ formatUint n) =
      configureEVM lib kudoraCoinInfo n := by
  obtain ⟨hspace, hunder, hdash⟩ := not_mem_formatUint n
  have hs : "kudora_12000-" ++ revision ++ "_" ++ formatUint n =
      ⟨("kudora_12000-".data ++ revision.data) ++ '_' :: (formatUint n).data⟩ := by
    simp [String.ext_iff]
  have hn : parseEVMChainID ("kudora_12000-" ++ revision ++ "_" ++ formatUint n) =
      (n, none) := by
    refine parseEVMChainID_of_trimSpace_eq (B := (formatUint n).data) (by
      rw [hs, trimSpace_append_cons _ _ (by decide),
        List.rdropWhile_eq_self_of_forall _ hspace]) hunder ?_
    rw [split_of_not_mem _ _ hdash]
    rfl
  have hsplit : "kudora_12000-" ++ revision ++ "_" ++ formatUint n =
      ⟨"kudora_12000".data ++ '-' :: (revision.data ++ '_' :: (formatUint n).data)⟩ := by
    simp [String.ext_iff]
  refine initEVM_of_coinInfoFor lib (by simp [String.ext_iff]) (coinInfoFor_of_headD ?_) hn
  rw [hsplit]
  exact headD_split_kudora12000 _

end Configure

/-! ### `EVMAppOptions` and its once-cell -/

/-- The package state of `EVMAppOptions`: the flag of `evmInitOnce`, the variable
`evmInitErr`, the process state `initEVM` writes, and, as a ghost, the chain ids `initEVM`
was entered with. -/
structure EvmGlobals (σ : Type) where
  done : Bool
  evmInitErr : Option Error
  process : σ
  initEVMRuns : List String

/-- The state at process start: the zero `sync.Once` and a `nil` error. -/
def EvmGlobals.initial {σ : Type} (s : σ) : EvmGlobals σ := ⟨false, none, s, []⟩

section AppOptions

variable {σ : Type} (lib : EvmLibrary σ)

/-- `evmInitOnce.Do(f)`: `f` runs only while the flag is clear, and the flag is set when `f`
returns and also when it panics, by the deferred `done.Store(1)`. -/
def onceDo (f : EStateM Panic (EvmGlobals σ) Unit) : EStateM Panic (EvmGlobals σ) Unit :=
  fun g =>
    if g.done then .ok () g
    else match f g with
      | .ok () g' => .ok () { g' with done := true }
      | .error p g' => .error p { g' with done := true }

/-- The closure `func() { evmInitErr = initEVM(chainID) }`. A panic of `initEVM` skips the
assignment. -/
def initEVMClosure (chainID : String) : EStateM Panic (EvmGlobals σ) Unit := fun g =>
  let g := { g with initEVMRuns := g.initEVMRuns ++ [chainID] }
  match initEVM lib chainID g.process with
  | .ok err s => .ok () { g with evmInitErr := err, process := s }
  | .error p s => .error p { g with process := s }

/-- `EVMAppOptions(chainID)`. -/
def evmAppOptions (chainID : String) : EStateM Panic (EvmGlobals σ) (Option Error) := do
  onceDo (initEVMClosure lib chainID)
  return (← get).evmInitErr

/-- One call, as its outcome and the state after it. -/
def evmAppOptionsStep (chainID : String) (g : EvmGlobals σ) : Call (Option Error) × EvmGlobals σ :=
  match evmAppOptions lib chainID g with
  | .ok r g' => (.ok r, g')
  | .error p g' => (.error p, g')

/-- The calls `EVMAppOptions(c1), ..., EVMAppOptions(ck)` in the order they enter the
once-cell: their outcomes, and the state after the last. -/
def evmAppOptionsRun : List String → EvmGlobals σ → List (Call (Option Error)) × EvmGlobals σ
  | [], g => ([], g)
  | c :: cs, g =>
    let (r, g') := evmAppOptionsStep lib c g
    let (rs, g'') := evmAppOptionsRun cs g'
    (r :: rs, g'')

/-- **Once the flag is set, a call returns the stored error and changes nothing.** -/
theorem evmAppOptions_of_done (chainID : String) {g : EvmGlobals σ} (h : g.done = true) :
    evmAppOptionsStep lib chainID g = (.ok g.evmInitErr, g) := by
  simp [evmAppOptionsStep, evmAppOptions, onceDo, h, bind, EStateM.bind, get, getThe,
    MonadStateOf.get, EStateM.get, pure, EStateM.pure]

/-- The first call from a clear flag runs `initEVM` and, when it returns, stores its error
and sets the flag. -/
lemma evmAppOptionsStep_of_ok (chainID : String) {g : EvmGlobals σ} (h : g.done = false)
    {err : Option Error} {s : σ} (hi : initEVM lib chainID g.process = .ok err s) :
    evmAppOptionsStep lib chainID g = (.ok err,
      { g with done := true, evmInitErr := err, process := s,
               initEVMRuns := g.initEVMRuns ++ [chainID] }) := by
  simp only [evmAppOptionsStep, evmAppOptions, onceDo, initEVMClosure, h, hi, bind, EStateM.bind,
    get, getThe, MonadStateOf.get, EStateM.get, pure, EStateM.pure]
  rfl

/-- When `initEVM` panics, the call panics too, and the flag is set all the same while
`evmInitErr` keeps its value. -/
lemma evmAppOptionsStep_of_error (chainID : String) {g : EvmGlobals σ} (h : g.done = false)
    {p : Panic} {s : σ} (hi : initEVM lib chainID g.process = .error p s) :
    evmAppOptionsStep lib chainID g = (.error p,
      { g with done := true, process := s, initEVMRuns := g.initEVMRuns ++ [chainID] }) := by
  simp only [evmAppOptionsStep, evmAppOptions, onceDo, initEVMClosure, h, hi, bind, EStateM.bind]
  rfl

/-- After the flag is set, every call of a run returns the stored error and the state stays. -/
lemma evmAppOptionsRun_of_done {g : EvmGlobals σ} (h : g.done = true) :
    ∀ cs : List String,
      evmAppOptionsRun lib cs g = (List.replicate cs.length (.ok g.evmInitErr), g)
  | [] => rfl
  | c :: cs => by
    simp only [evmAppOptionsRun, evmAppOptions_of_done lib c h, evmAppOptionsRun_of_done h cs,
      List.length_cons, List.replicate_succ]

/-- A run whose first call sets the flag: that call's outcome, then the stored error for
every other call. -/
lemma evmAppOptionsRun_cons_of_step {c : String} {g g' : EvmGlobals σ} {o : Call (Option Error)}
    (hstep : evmAppOptionsStep lib c g = (o, g')) (hdone : g'.done = true) (cs : List String) :
    evmAppOptionsRun lib (c :: cs) g = (o :: List.replicate cs.length (.ok g'.evmInitErr), g') := by
  simp only [evmAppOptionsRun, hstep, evmAppOptionsRun_of_done lib hdone]

/-- **`EVMAppOptions` initializes once.** For every library behaviour, process state and
sequence of calls from the process start, `initEVM` is entered once, on the chain id of the
first call, and the process state after the run is the one `initEVM` left. If `initEVM`
returns an error value `r` (`nil` or not), every call returns `r`. If it panics, the first
call panics and every later call returns `nil`: the failed initialization is reported to
them as a success.

**Proof sketch.** The first call sets the flag whether `initEVM` returns
(`evmAppOptionsStep_of_ok`) or panics (`evmAppOptionsStep_of_error`); every later call then
returns the stored error (`evmAppOptionsRun_cons_of_step`). -/
theorem evmAppOptionsRun_initial {σ : Type} (lib : EvmLibrary σ) (s : σ) (calls : List String) :
    let run := evmAppOptionsRun lib calls (EvmGlobals.initial s)
    run.2.initEVMRuns = calls.take 1 ∧
      ∀ c cs, calls = c :: cs →
        (∀ r s', initEVM lib c s = .ok r s' →
          run.1 = List.replicate calls.length (.ok r) ∧ run.2.process = s') ∧
        (∀ p s', initEVM lib c s = .error p s' →
          run.1 = .error p :: List.replicate cs.length (.ok none) ∧ run.2.process = s') := by
  intro run
  cases calls with
  | nil => exact ⟨rfl, fun _ _ h => nomatch h⟩
  | cons c cs =>
    rcases hinit : initEVM lib c s with ⟨r, s'⟩ | ⟨p, s'⟩
    · have hrun : run = (.ok r :: List.replicate cs.length (.ok r), ⟨true, r, s', [c]⟩) :=
        evmAppOptionsRun_cons_of_step lib
          (evmAppOptionsStep_of_ok lib c (g := EvmGlobals.initial s) rfl hinit) rfl cs
      rw [hrun]
      refine ⟨rfl, ?_⟩
      rintro _ _ ⟨⟩
      simp [hinit, List.replicate_succ]
    · have hrun : run = (.error p :: List.replicate cs.length (.ok none), ⟨true, none, s', [c]⟩) :=
        evmAppOptionsRun_cons_of_step lib
          (evmAppOptionsStep_of_error lib c (g := EvmGlobals.initial s) rfl hinit) rfl cs
      rw [hrun]
      refine ⟨rfl, ?_⟩
      rintro _ _ ⟨⟩
      simp [hinit]

/-- A configuration step that panics: `Configure()` aborts, on the default chain id. -/
def panickingConfigure : EvmLibrary Unit where
  registerDenom := fun _ _ => pure none
  defaultChainConfig := fun n => pure ⟨n⟩
  configure := fun _ _ => throw ⟨"configure"⟩

/-- **A panicking initialization is reported as a success to later callers.** When
`Configure()` panics during the first call, on the valid default chain id, the second call
with that same valid id returns `nil`. -/
theorem evmAppOptionsRun_panicking_configure :
    (evmAppOptionsRun panickingConfigure [defaultChainID, defaultChainID]
      (EvmGlobals.initial ())).1 = [.error ⟨"configure"⟩, .ok none] :=
  rfl

end AppOptions

end Kudora.App
