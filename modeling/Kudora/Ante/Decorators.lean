import Kudora.Sdk.Chain

set_option autoImplicit false

/-!
# The library decorators the two chains are built from

The Cosmos chain and the EVM chain are lists of decorators taken from the SDK, wasmd,
ibc-go and cosmos/evm. Four of them decide which messages and extension options a
transaction may carry, or notify the pending-transaction listeners, and they are modelled
from their library code: `RejectMessagesDecorator` and `AuthzLimiterDecorator` (cosmos/evm
`ante/cosmos`), `RejectExtensionOptionsDecorator` (SDK `x/auth/ante`), and
`TxListenerDecorator` (cosmos/evm `ante`). Every other decorator reads keepers and state the
repository does not define; it is left an arbitrary check, one field of `AnteLibrary`.

## Main definitions

* `Kudora.Ante.AnteLibrary` — the decorator constructors the repository calls, each given
  the arguments the source passes it.
* `Kudora.Ante.rejectMessagesCheck`, `Kudora.Ante.authzLimiterCheck`,
  `Kudora.Ante.extensionOptionsCheck`, `Kudora.Ante.txListenerCheck` — the four modelled
  decorators; `Kudora.Ante.AnteLibrary.withModelled` puts them into a library.
* `Kudora.Ante.authzTypeURLs` — the message types a transaction reaches through authz:
  the authorizations it grants and the messages it executes, at any depth.

## Main results

* `Kudora.Ante.admits_rejectMessagesCheck_iff` — no top-level `MsgEthereumTx`.
* `Kudora.Ante.authzTypeURLs_of_admits_authzLimiterCheck` — an admitted transaction reaches
  no disabled message type through authz, however deeply nested.
* `Kudora.Ante.admits_extensionOptionsCheck_iff` — every extension option passes the
  checker.
* `Kudora.Ante.txListenerCheck_of_returning` — a listener that returns leaves the decorator
  a plain pass.
-/

namespace Kudora.Ante

open Sdk

/-- A keeper, store service, codec, handler map or function value that the repository passes
by reference and whose contents no modelled function reads, named by the expression the
source takes it from. -/
structure Ref where
  name : String
deriving DecidableEq, Repr

/-- `wasmtypes.NodeConfig`, as far as the ante chain reads it. -/
structure NodeConfig where
  simulationGasLimit : Option UInt64
deriving DecidableEq, Repr

/-- `authante.ExtensionOptionChecker`. -/
abbrev ExtensionOptionChecker := Any → Bool

/-- `baseevmante.PendingTxListener`: a callback on the hash of a pending Ethereum
transaction. It returns nothing; it can only return or panic. -/
abbrev PendingTxListener := Hash → Call Unit

/-! ### `RejectMessagesDecorator` -/

/-- `cosmosante.RejectMessagesDecorator`: a `MsgEthereumTx` outside an Ethereum transaction
is refused. -/
def rejectMessagesCheck : Check := fun ctx tx _ =>
  if tx.msgs.any Msg.isEthereumTx then
    .reject ctx (.wrapped ("MsgEthereumTx needs to be contained within a tx with " ++
      "\x27ExtensionOptionsEthereumTx\x27 option") errInvalidType)
  else .next ctx

theorem admits_rejectMessagesCheck_iff (ctx : Context) (tx : Tx) (simulate : Bool) :
    Admits rejectMessagesCheck ctx tx simulate ↔ ∀ m ∈ tx.msgs, m.isEthereumTx = false := by
  simp only [Admits, rejectMessagesCheck]
  split <;> simp_all

/-! ### `AuthzLimiterDecorator` -/

/-- `maxNestedMsgs` of the authz limiter: the deepest `MsgExec` nesting it reads. -/
def maxNestedMsgs : Nat := 7

/-- The error for a nesting deeper than `maxNestedMsgs`. -/
def tooDeepError : Error :=
  .plain ("found more nested msgs than permitted. Limit is : " ++ toString maxNestedMsgs)

mutual

/-- The loop of `AuthzLimiterDecorator.checkDisabledMsgs` over `msgs`, once the entry check of
the nesting level has passed. The level is incremented once per `MsgExec` met in the list,
as the source increments its loop variable. -/
def checkDisabledMsgsLoop (disabled : List String) :
    List Msg → Bool → Nat → Option Error
  | [], _, _ => none
  | m :: rest, isAuthzInnerMsg, nestedLvl =>
    match checkDisabledMsg disabled m isAuthzInnerMsg nestedLvl with
    | (some err, _) => some err
    | (none, nestedLvl) => checkDisabledMsgsLoop disabled rest isAuthzInnerMsg nestedLvl

/-- One turn of that loop: the switch on the message's type, with the level it leaves. -/
def checkDisabledMsg (disabled : List String) : Msg → Bool → Nat → Option Error × Nat
  | .exec inner, _, nestedLvl =>
    let nestedLvl := nestedLvl + 1
    (if maxNestedMsgs ≤ nestedLvl then some tooDeepError
      else checkDisabledMsgsLoop disabled inner true nestedLvl, nestedLvl)
  | .grant url, _, nestedLvl =>
    (if disabled.contains url then some (.plain ("found disabled msg type: " ++ url)) else none,
      nestedLvl)
  | m, isAuthzInnerMsg, nestedLvl =>
    (if isAuthzInnerMsg && disabled.contains m.typeURL then
      some (.plain ("found disabled msg type: " ++ m.typeURL)) else none, nestedLvl)

end

/-- `AuthzLimiterDecorator.checkDisabledMsgs(msgs, isAuthzInnerMsg, nestedLvl)`. -/
def checkDisabledMsgs (disabled : List String) (msgs : List Msg) (isAuthzInnerMsg : Bool)
    (nestedLvl : Nat) : Option Error :=
  if maxNestedMsgs ≤ nestedLvl then some tooDeepError
  else checkDisabledMsgsLoop disabled msgs isAuthzInnerMsg nestedLvl

/-- A `MsgExec` turn checks its inner messages with `checkDisabledMsgs` one level deeper. -/
lemma checkDisabledMsg_exec (disabled : List String) (inner : List Msg) (b : Bool) (lvl : Nat) :
    checkDisabledMsg disabled (.exec inner) b lvl =
      (checkDisabledMsgs disabled inner true (lvl + 1), lvl + 1) := by
  simp [checkDisabledMsg, checkDisabledMsgs]

/-- `cosmosante.AuthzLimiterDecorator` with the disabled message types `disabled`. Its
`AnteHandle` checks the top-level messages at nesting level `1`, so a `MsgExec` nested six deep
already reaches `maxNestedMsgs`. -/
def authzLimiterCheck (disabled : List String) : Check := fun ctx tx _ =>
  match checkDisabledMsgs disabled tx.msgs false 1 with
  | some err => .reject ctx (.wrapped err.error errUnauthorized)
  | none => .next ctx

mutual

/-- The message types `msgs` reaches through authz: what its `MsgGrant`s authorize and what
its `MsgExec`s execute, at any depth; `inner` when `msgs` is itself executed by a `MsgExec`. -/
def authzTypeURLs : List Msg → Bool → List String
  | [], _ => []
  | m :: rest, inner => authzTypeURLsOf m inner ++ authzTypeURLs rest inner

/-- The message types one message reaches through authz. -/
def authzTypeURLsOf : Msg → Bool → List String
  | .exec msgs, _ => authzTypeURLs msgs true
  | .grant url, _ => [url]
  | m, inner => if inner then [m.typeURL] else []

end

mutual

/-- The loop passes only if no type it reaches through authz is disabled. -/
theorem authzTypeURLs_of_loop (disabled : List String) :
    ∀ (msgs : List Msg) (b : Bool) (lvl : Nat), checkDisabledMsgsLoop disabled msgs b lvl = none →
      ∀ u ∈ authzTypeURLs msgs b, disabled.contains u = false
  | [], _, _, _ => by simp [authzTypeURLs]
  | m :: rest, b, lvl, h => by
    simp only [checkDisabledMsgsLoop] at h
    split at h
    · simp at h
    · rename_i lvl' hm
      simp only [authzTypeURLs, List.mem_append]
      rintro u (hu | hu)
      · exact authzTypeURLsOf_of_msg disabled m b lvl (by simp [hm]) u hu
      · exact authzTypeURLs_of_loop disabled rest b lvl' h u hu

/-- One turn passes only if no type its message reaches through authz is disabled. -/
theorem authzTypeURLsOf_of_msg (disabled : List String) :
    ∀ (m : Msg) (b : Bool) (lvl : Nat), (checkDisabledMsg disabled m b lvl).1 = none →
      ∀ u ∈ authzTypeURLsOf m b, disabled.contains u = false
  | .exec inner, _, lvl, h => by
    simp only [checkDisabledMsg] at h
    split at h
    · simp at h
    · exact authzTypeURLs_of_loop disabled inner true (lvl + 1) h
  | .grant url, _, _, h => by
    simp only [checkDisabledMsg] at h
    split at h <;> simp_all [authzTypeURLsOf]
  | .ethereumTx _, b, _, h => by
    simp only [checkDisabledMsg] at h
    cases b <;> split at h <;> simp_all [authzTypeURLsOf]
  | .other _, b, _, h => by
    simp only [checkDisabledMsg] at h
    cases b <;> split at h <;> simp_all [authzTypeURLsOf]

end

/-- **The authz limiter admits no disabled type behind authz**: a transaction it admits
grants no authorization for, and executes through `MsgExec` at no depth, a disabled
message type. -/
theorem authzTypeURLs_of_admits_authzLimiterCheck (disabled : List String) {ctx : Context}
    {tx : Tx} {simulate : Bool} (h : Admits (authzLimiterCheck disabled) ctx tx simulate) :
    ∀ u ∈ authzTypeURLs tx.msgs false, disabled.contains u = false := by
  obtain ⟨ctx', h⟩ := h
  simp only [authzLimiterCheck] at h
  split at h
  · cases h
  · rename_i hc
    rw [checkDisabledMsgs, if_neg (by decide)] at hc
    exact authzTypeURLs_of_loop disabled tx.msgs false 1 hc

/-! ### `RejectExtensionOptionsDecorator` -/

/-- `authante.NewExtensionOptionsDecorator(checker)`: when the transaction implements
`HasExtensionOptionsTx`, each of its extension options must pass the checker; a `nil`
checker is replaced by `rejectExtensionOption`, which passes none. -/
def extensionOptionsCheck (checker : Option ExtensionOptionChecker) : Check := fun ctx tx _ =>
  let checker := checker.getD fun _ => false
  match tx.extensionOptions with
  | some opts => if opts.all checker then .next ctx else .reject ctx errUnknownExtensionOptions
  | none => .next ctx

theorem admits_extensionOptionsCheck_iff (checker : ExtensionOptionChecker) (ctx : Context)
    (tx : Tx) (simulate : Bool) :
    Admits (extensionOptionsCheck (some checker)) ctx tx simulate ↔
      ∀ opts, tx.extensionOptions = some opts → ∀ opt ∈ opts, checker opt := by
  simp only [Admits, extensionOptionsCheck, Option.getD_some]
  split
  · split <;> simp_all
  · simp_all

/-- `evmtypes.HasDynamicFeeExtensionOption`: the option's cached value is an
`ExtensionOptionDynamicFeeTx`, that is, its type URL is the one registered for that type. -/
def hasDynamicFeeExtensionOption (opt : Any) : Bool :=
  opt.typeUrl = dynamicFeeTxExtensionTypeURL

/-! ### `TxListenerDecorator` -/

/-- The listener called on the hash of each `MsgEthereumTx`, in message order. -/
def notifyPendingTxs (listener : PendingTxListener) : List Msg → Call Unit
  | [] => .ok ()
  | .ethereumTx hash :: rest => do listener hash; notifyPendingTxs listener rest
  | _ :: rest => notifyPendingTxs listener rest

/-- `baseevmante.TxListenerDecorator`: in `CheckTx`, outside simulation and with a listener
set, the listener is called on the hash of each Ethereum message; the decorator always calls
`next`, unless a listener panics. -/
def txListenerCheck (listener : Option PendingTxListener) : Check := fun ctx tx simulate =>
  if ctx.isReCheckTx then .next ctx
  else match listener with
    | some l =>
      if ctx.isCheckTx && !simulate then
        match notifyPendingTxs l tx.msgs with
        | .ok () => .next ctx
        | .error p => .abort p
      else .next ctx
    | none => .next ctx

/-- A listener that returns on every hash is notified without effect on the run. -/
lemma notifyPendingTxs_of_returning {l : PendingTxListener} (hl : ∀ h, l h = .ok ()) :
    ∀ msgs, notifyPendingTxs l msgs = .ok ()
  | [] => rfl
  | .ethereumTx h :: rest => by
    simp only [notifyPendingTxs, hl h]
    exact notifyPendingTxs_of_returning hl rest
  | .exec _ :: rest | .grant _ :: rest | .other _ :: rest => notifyPendingTxs_of_returning hl rest

/-- Without a listener the decorator is a plain pass. -/
lemma txListenerCheck_none : txListenerCheck none = fun ctx _ _ => .next ctx := by
  funext ctx tx simulate
  simp [txListenerCheck]

/-- **A listener that returns leaves the decorator a plain pass.** -/
theorem txListenerCheck_of_returning {l : PendingTxListener} (hl : ∀ h, l h = .ok ()) :
    txListenerCheck (some l) = fun ctx _ _ => .next ctx := by
  funext ctx tx simulate
  simp [txListenerCheck, notifyPendingTxs_of_returning hl]

/-! ### The library -/

/-- What `wasmkeeper.NewLimitSimulationGasDecorator(gasLimit)` checks before it builds its
decorator: a limit that is set must not be zero, or the constructor panics. -/
def limitSimulationGasGuard (gasLimit : Option UInt64) : Call Unit :=
  if gasLimit = some 0 then throw ⟨"gas limit must not be zero"⟩ else pure ()

lemma limitSimulationGasGuard_eq_ok {gasLimit : Option UInt64} (h : gasLimit ≠ some 0) :
    limitSimulationGasGuard gasLimit = .ok () :=
  if_neg h

/-- The decorator constructors the repository calls, each with the arguments the source
passes it (`Option` where the argument may be `nil`); each returns the decorator's check.
`NewLimitSimulationGasDecorator` is the one of them that can panic, on a zero limit
(`limitSimulationGasGuard`); its field is the decorator it builds otherwise. -/
structure AnteLibrary where
  newRejectMessagesDecorator : Check
  newAuthzLimiterDecorator : List String → Check
  newSetUpContextDecorator : Check
  newLimitSimulationGasDecorator : Option UInt64 → Check
  newCountTXDecorator : Option Ref → Check
  newGasRegisterDecorator : Option Ref → Check
  newTxContractsDecorator : Check
  newCircuitBreakerDecorator : Option Ref → Check
  newExtensionOptionsDecorator : Option ExtensionOptionChecker → Check
  newValidateBasicDecorator : Check
  newTxTimeoutHeightDecorator : Check
  newValidateMemoDecorator : Option Ref → Check
  newMinGasPriceDecorator : Ref → Option Ref → Check
  newConsumeGasForTxSizeDecorator : Option Ref → Check
  newDeductFeeDecorator : Option Ref → Option Ref → Option Ref → Option Ref → Check
  newSetPubKeyDecorator : Option Ref → Check
  newValidateSigCountDecorator : Option Ref → Check
  newSigGasConsumeDecorator : Option Ref → Option Ref → Check
  newSigVerificationDecorator : Option Ref → Option Ref → Check
  newIncrementSequenceDecorator : Option Ref → Check
  newRedundantRelayDecorator : Option Ref → Check
  newGasWantedDecorator : Option Ref → Ref → Check
  newEVMMonoDecorator : Option Ref → Ref → Option Ref → UInt64 → Check
  newTxListenerDecorator : Option PendingTxListener → Check

/-- The library in which every decorator passes the context on unchanged. -/
def AnteLibrary.passing : AnteLibrary where
  newRejectMessagesDecorator := fun ctx _ _ => .next ctx
  newAuthzLimiterDecorator := fun _ ctx _ _ => .next ctx
  newSetUpContextDecorator := fun ctx _ _ => .next ctx
  newLimitSimulationGasDecorator := fun _ ctx _ _ => .next ctx
  newCountTXDecorator := fun _ ctx _ _ => .next ctx
  newGasRegisterDecorator := fun _ ctx _ _ => .next ctx
  newTxContractsDecorator := fun ctx _ _ => .next ctx
  newCircuitBreakerDecorator := fun _ ctx _ _ => .next ctx
  newExtensionOptionsDecorator := fun _ ctx _ _ => .next ctx
  newValidateBasicDecorator := fun ctx _ _ => .next ctx
  newTxTimeoutHeightDecorator := fun ctx _ _ => .next ctx
  newValidateMemoDecorator := fun _ ctx _ _ => .next ctx
  newMinGasPriceDecorator := fun _ _ ctx _ _ => .next ctx
  newConsumeGasForTxSizeDecorator := fun _ ctx _ _ => .next ctx
  newDeductFeeDecorator := fun _ _ _ _ ctx _ _ => .next ctx
  newSetPubKeyDecorator := fun _ ctx _ _ => .next ctx
  newValidateSigCountDecorator := fun _ ctx _ _ => .next ctx
  newSigGasConsumeDecorator := fun _ _ ctx _ _ => .next ctx
  newSigVerificationDecorator := fun _ _ ctx _ _ => .next ctx
  newIncrementSequenceDecorator := fun _ ctx _ _ => .next ctx
  newRedundantRelayDecorator := fun _ ctx _ _ => .next ctx
  newGasWantedDecorator := fun _ _ ctx _ _ => .next ctx
  newEVMMonoDecorator := fun _ _ _ _ ctx _ _ => .next ctx
  newTxListenerDecorator := fun _ ctx _ _ => .next ctx

/-- The library whose four modelled decorators are as their code computes them, and whose
other decorators are those of `lib`. -/
def AnteLibrary.withModelled (lib : AnteLibrary) : AnteLibrary :=
  { lib with
    newRejectMessagesDecorator := rejectMessagesCheck
    newAuthzLimiterDecorator := authzLimiterCheck
    newExtensionOptionsDecorator := extensionOptionsCheck
    newTxListenerDecorator := txListenerCheck }

end Kudora.Ante
