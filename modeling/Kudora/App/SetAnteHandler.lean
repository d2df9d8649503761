import Kudora.App.AnteHandler

set_option autoImplicit false

/-!
# `setAnteHandler`: the options the application builds and what its handler admits

`setAnteHandler` fills the `HandlerOptions` of the inline `NewAnteHandler`, a struct that
embeds the SDK's `authante.HandlerOptions` and repeats three of its fields, and installs the
handler it returns. Its `PendingTxListener` is a closure that calls, in turn, every listener
`app.pendingTxListeners` holds when the closure runs.

## Main definitions

* `Kudora.App.Inline.HandlerOptions`, `Kudora.App.Inline.newAnteHandler` — the inline
  `NewAnteHandler` and its options, with Go's field promotion written out.
* `Kudora.App` — the application, as far as `setAnteHandler` reads and writes it.
* `Kudora.App.anteOptions`, `Kudora.App.setAnteHandler` — the options literal of
  `setAnteHandler`, and the function.
* `Kudora.App.pendingTxFanOut` — the listener closure.
* `Kudora.App.EvmFamily`, `Kudora.App.CosmosFamily` — the two transaction families the
  handler admits.

## Main results

* `Kudora.App.Inline.newAnteHandler_eq_flatten` — the inline `NewAnteHandler` is the one of
  the `ante` package, on the options its field selectors read.
* `Kudora.App.setAnteHandler_eq_ok_iff`, `Kudora.App.setAnteHandler_panics_iff` —
  `setAnteHandler` installs the dispatcher exactly when the sign mode handler, the codec, the
  EVM keeper and the IBC keeper are set and the simulation gas limit is not zero, and panics
  on a zero limit.
* `Kudora.App.cosmosFamily_of_success` — the Cosmos chain, with the dynamic-fee checker,
  admits only Cosmos-family transactions.
* `Kudora.App.setAnteHandler_family_separation` — every transaction the installed handler
  admits, whatever listeners are registered, is in exactly one family.
* `Kudora.App.newMonoEVMAnteHandler_returning_listeners` — listeners that return do not
  change the EVM chain; `Kudora.App.newMonoEVMAnteHandler_listener_panic` — a listener that
  panics makes it panic.

## Design

Go promotes the fields of an embedded struct: `options.BankKeeper` reads
`options.HandlerOptions.BankKeeper`, unless the outer struct has a field of that name, which
then shadows it. The model writes the path each selector of the source resolves to.

A Go closure that reads a field of the app through its pointer sees the field as it is when the
closure runs. The only such read is the listener loop, so the installed handler is a function of
the listeners registered at the time of the call, and `anteOptions` takes that list.
-/

namespace Kudora

open Sdk Ante

/-- `App`, as far as `setAnteHandler` reads and writes it. A keeper the app holds by value is
a `Ref`: converted to an interface or taken by address it is never `nil`. A pointer or an
interface field is an `Option Ref`. `anteHandler` is the handler of the embedded `BaseApp`,
as a function of the listeners `pendingTxListeners` holds when it runs: the listener closure
of `setAnteHandler` reads that field through the app pointer at each call. -/
structure App where
  authKeeper : Ref
  bankKeeper : Ref
  feeGrantKeeper : Ref
  appCodec : Option Ref
  evmKeeper : Option Ref
  feeMarketKeeper : Ref
  pendingTxListeners : List PendingTxListener
  ibcKeeper : Option Ref
  wasmKeeper : Ref
  circuitBreakerKeeper : Ref
  anteHandler : Option (List PendingTxListener → AnteHandler)

end Kudora

namespace Kudora.App

open Sdk Ante

/-! ### The inline `NewAnteHandler` -/

/-- `authante.HandlerOptions`: the fields `setAnteHandler` sets, and `TxFeeChecker`, which it
leaves `nil`. -/
structure AuthHandlerOptions where
  accountKeeper : Option Ref
  bankKeeper : Option Ref
  extensionOptionChecker : Option ExtensionOptionChecker
  feegrantKeeper : Option Ref
  signModeHandler : Option Ref
  sigGasConsumer : Option Ref
  txFeeChecker : Option Ref

namespace Inline

/-- The `HandlerOptions` of the inline `NewAnteHandler`: the embedded
`authante.HandlerOptions` and the fields of its own. `TxFeeChecker`,
`ExtensionOptionChecker` and `AccountKeeper` shadow the embedded fields of those names. -/
structure HandlerOptions where
  handlerOptions : AuthHandlerOptions
  cdc : Option Ref
  evmKeeper : Option Ref
  feeMarketKeeper : Ref
  maxTxGasWanted : UInt64
  txFeeChecker : Option Ref
  pendingTxListener : Option PendingTxListener
  ibcKeeper : Option Ref
  extensionOptionChecker : Option ExtensionOptionChecker
  accountKeeper : Option Ref
  nodeConfig : Option NodeConfig
  wasmKeeper : Option Ref
  txCounterStoreService : Option Ref
  circuitKeeper : Option Ref

/-- The thirteen `nil` checks of the inline `NewAnteHandler`. -/
def requiredFields (options : HandlerOptions) : List (Bool × String) :=
  [(options.accountKeeper.isSome, "account keeper is required for ante builder"),
    (options.handlerOptions.bankKeeper.isSome, "bank keeper is required for ante builder"),
    (options.handlerOptions.signModeHandler.isSome, "sign mode handler is required for ante builder"),
    (options.extensionOptionChecker.isSome, "extension option checker is required for ante builder"),
    (options.txFeeChecker.isSome, "tx fee checker is required for ante builder"),
    (options.handlerOptions.sigGasConsumer.isSome, "sig gas consumer is required for ante builder"),
    (options.cdc.isSome, "codec is required for ante builder"),
    (options.evmKeeper.isSome, "evm keeper is required for ante builder"),
    (options.nodeConfig.isSome, "wasm config is required for ante builder"),
    (options.txCounterStoreService.isSome, "wasm store service is required for ante builder"),
    (options.wasmKeeper.isSome, "wasm keeper is required for ante builder"),
    (options.circuitKeeper.isSome, "circuit keeper is required for ante builder"),
    (options.ibcKeeper.isSome, "ibc keeper is required for ante builder")]

variable (lib : AnteLibrary) (options : HandlerOptions)

/-- The `cosmosDecorators` literal of the inline `NewAnteHandler`. -/
def cosmosDecorators : List AnteDecorator :=
  [⟨.rejectMessages, lib.newRejectMessagesDecorator⟩,
    ⟨.authzLimiter,
      lib.newAuthzLimiterDecorator [msgEthereumTxTypeURL, msgCreateVestingAccountTypeURL]⟩,
    ⟨.setUpContext, lib.newSetUpContextDecorator⟩,
    ⟨.limitSimulationGas,
      lib.newLimitSimulationGasDecorator (options.nodeConfig.bind NodeConfig.simulationGasLimit)⟩,
    ⟨.countTX, lib.newCountTXDecorator options.txCounterStoreService⟩,
    ⟨.gasRegister, lib.newGasRegisterDecorator options.wasmKeeper⟩,
    ⟨.txContracts, lib.newTxContractsDecorator⟩,
    ⟨.circuitBreaker, lib.newCircuitBreakerDecorator options.circuitKeeper⟩,
    ⟨.extensionOptions, lib.newExtensionOptionsDecorator options.extensionOptionChecker⟩,
    ⟨.validateBasic, lib.newValidateBasicDecorator⟩,
    ⟨.txTimeoutHeight, lib.newTxTimeoutHeightDecorator⟩,
    ⟨.validateMemo, lib.newValidateMemoDecorator options.accountKeeper⟩,
    ⟨.minGasPrice, lib.newMinGasPriceDecorator options.feeMarketKeeper options.evmKeeper⟩,
    ⟨.consumeGasForTxSize, lib.newConsumeGasForTxSizeDecorator options.accountKeeper⟩,
    ⟨.deductFee, lib.newDeductFeeDecorator options.accountKeeper options.handlerOptions.bankKeeper
      options.handlerOptions.feegrantKeeper options.txFeeChecker⟩,
    ⟨.setPubKey, lib.newSetPubKeyDecorator options.accountKeeper⟩,
    ⟨.validateSigCount, lib.newValidateSigCountDecorator options.accountKeeper⟩,
    ⟨.sigGasConsume,
      lib.newSigGasConsumeDecorator options.accountKeeper options.handlerOptions.sigGasConsumer⟩,
    ⟨.sigVerification,
      lib.newSigVerificationDecorator options.accountKeeper options.handlerOptions.signModeHandler⟩,
    ⟨.incrementSequence, lib.newIncrementSequenceDecorator options.accountKeeper⟩,
    ⟨.redundantRelay, lib.newRedundantRelayDecorator options.ibcKeeper⟩,
    ⟨.gasWanted, lib.newGasWantedDecorator options.evmKeeper options.feeMarketKeeper⟩]

/-- The `evmDecorators` literal of the inline `NewAnteHandler`. -/
def evmDecorators : List AnteDecorator :=
  [⟨.evmMono, lib.newEVMMonoDecorator options.accountKeeper options.feeMarketKeeper
      options.evmKeeper options.maxTxGasWanted⟩,
    ⟨.txListener, lib.newTxListenerDecorator options.pendingTxListener⟩]

/-- The closure the inline `NewAnteHandler(options)` returns. -/
def anteHandler : AnteHandler :=
  anteHandlerFor (chainAnteDecorators (cosmosDecorators lib options))
    (chainAnteDecorators (evmDecorators lib options))

/-- The inline `NewAnteHandler(options)`. Building `cosmosDecorators` dereferences
`options.NodeConfig` and `options.WasmKeeper` and calls `NewLimitSimulationGasDecorator`,
which panics on a zero limit. -/
def newAnteHandler : Call (Except Error AnteHandler) :=
  match requireAll (requiredFields options) with
  | .error err => pure (.error err)
  | .ok () => do
    let some nodeConfig := options.nodeConfig | throw nilDereference
    limitSimulationGasGuard nodeConfig.simulationGasLimit
    let some _ := options.wasmKeeper | throw nilDereference
    pure (.ok (anteHandler lib options))

/-- The flat `ante.HandlerOptions` whose every field holds what the selector of that name
reads in the inline options: the outer field where one shadows the embedded one. -/
def HandlerOptions.flatten : Ante.HandlerOptions where
  accountKeeper := options.accountKeeper
  bankKeeper := options.handlerOptions.bankKeeper
  feegrantKeeper := options.handlerOptions.feegrantKeeper
  signModeHandler := options.handlerOptions.signModeHandler
  signatureGasConsumer := options.handlerOptions.sigGasConsumer
  txFeeChecker := options.txFeeChecker
  extensionOptionChecker := options.extensionOptionChecker
  cdc := options.cdc
  evmKeeper := options.evmKeeper
  feeMarketKeeper := options.feeMarketKeeper
  maxTxGasWanted := options.maxTxGasWanted
  pendingTxListener := options.pendingTxListener
  ibcKeeper := options.ibcKeeper
  nodeConfig := options.nodeConfig
  wasmKeeper := options.wasmKeeper
  txCounterStoreService := options.txCounterStoreService
  circuitKeeper := options.circuitKeeper

lemma requiredFields_flatten : App.requiredFields options.flatten = requiredFields options :=
  rfl

/-- **The two versions of `NewAnteHandler` agree.** The inline one checks the same options
with the same messages, panics where the other does, and builds the same two chains, as the
one over `ante.NewCosmosAnteHandler` and `ante.NewMonoEVMAnteHandler`, on the flattened
options. The embedded `AccountKeeper`, `TxFeeChecker` and `ExtensionOptionChecker` are never
read. -/
theorem newAnteHandler_eq_flatten :
    newAnteHandler lib options = App.newAnteHandler lib options.flatten := by
  rw [App.newAnteHandler, requiredFields_flatten, newAnteHandler]
  rcases requireAll (requiredFields options) with err | ⟨⟩
  · rfl
  · rcases options with ⟨_, _, _, _, _, _, _, _, _, _, _ | nodeConfig, _ | _, _, _⟩ <;>
      simp only [callNewCosmosAnteHandler, HandlerOptions.flatten, limitSimulationGasGuard]
    all_goals first
      | rfl
      | by_cases hz : nodeConfig.simulationGasLimit = some 0 <;>
          simp only [hz, if_true, if_false] <;> rfl

/-- The closure is the dispatcher over the two chains of the `ante` package. -/
lemma anteHandler_eq_flatten :
    anteHandler lib options =
      anteHandlerFor (newCosmosAnteHandler lib options.flatten)
        (newMonoEVMAnteHandler lib options.flatten) :=
  rfl

end Inline

/-! ### `setAnteHandler` -/

/-- The closure `setAnteHandler` passes as `PendingTxListener`, with `listeners` the list it
finds in `app.pendingTxListeners` when it is called: every listener is called on the hash, in
registration order. -/
def pendingTxFanOut (listeners : List PendingTxListener) : PendingTxListener := fun hash =>
  listeners.forM fun listener => listener hash

/-- Listeners that all return make the closure return. -/
lemma pendingTxFanOut_of_returning {listeners : List PendingTxListener}
    (hl : ∀ l ∈ listeners, ∀ hash, l hash = .ok ()) (hash : Hash) :
    pendingTxFanOut listeners hash = .ok () := by
  simp only [pendingTxFanOut]
  induction listeners with
  | nil => rfl
  | cons l ls ih =>
    simp only [List.forM_cons', hl l (List.mem_cons_self _ _) hash]
    exact ih fun l' hl' => hl l' (List.mem_cons_of_mem _ hl')

/-- An application with every keeper set and no listener registered. -/
def sampleApp : App where
  authKeeper := ⟨"AuthKeeper"⟩
  bankKeeper := ⟨"BankKeeper"⟩
  feeGrantKeeper := ⟨"FeeGrantKeeper"⟩
  appCodec := some ⟨"appCodec"⟩
  evmKeeper := some ⟨"EVMKeeper"⟩
  feeMarketKeeper := ⟨"FeeMarketKeeper"⟩
  pendingTxListeners := []
  ibcKeeper := some ⟨"IBCKeeper"⟩
  wasmKeeper := ⟨"WasmKeeper"⟩
  circuitBreakerKeeper := ⟨"CircuitBreakerKeeper"⟩
  anteHandler := none

section SetAnteHandler

variable (lib : AnteLibrary) (app : App) (maxGasWanted : UInt64) (signModeHandler : Option Ref)
  (wasmConfig : NodeConfig) (txCounterStoreKey : Ref)

/-- The `HandlerOptions` literal of `setAnteHandler`, with `listeners` the list its
`PendingTxListener` closure finds in `app.pendingTxListeners` when it is called.
`maxGasWanted` is `cast.ToUint64(appOpts.Get(srvflags.EVMMaxTxGasWanted))` and
`signModeHandler` is `txConfig.SignModeHandler()`. -/
def anteOptions (listeners : List PendingTxListener) : Inline.HandlerOptions where
  handlerOptions :=
    { accountKeeper := some app.authKeeper
      bankKeeper := some app.bankKeeper
      signModeHandler := signModeHandler
      feegrantKeeper := some app.feeGrantKeeper
      extensionOptionChecker := some hasDynamicFeeExtensionOption
      sigGasConsumer := some ⟨"evmante.SigVerificationGasConsumer"⟩
      txFeeChecker := none }
  accountKeeper := some app.authKeeper
  cdc := app.appCodec
  evmKeeper := app.evmKeeper
  feeMarketKeeper := app.feeMarketKeeper
  maxTxGasWanted := maxGasWanted
  txFeeChecker := some ⟨"evmdecorators.NewDynamicFeeChecker(app.FeeMarketKeeper)"⟩
  pendingTxListener := some (pendingTxFanOut listeners)
  extensionOptionChecker := some hasDynamicFeeExtensionOption
  ibcKeeper := app.ibcKeeper
  nodeConfig := some wasmConfig
  wasmKeeper := some app.wasmKeeper
  txCounterStoreService := some ⟨"runtime.NewKVStoreService(" ++ txCounterStoreKey.name ++ ")"⟩
  circuitKeeper := some app.circuitBreakerKeeper

/-- `app.setAnteHandler(appOpts, txConfig, wasmConfig, txCounterStoreKey)`: the app with its
ante handler installed, or the error of `NewAnteHandler` behind a prefix; a panic of
`NewAnteHandler` goes through. The handler `NewAnteHandler` returns is `Inline.anteHandler` of
the options, and its listener closure reads `app.pendingTxListeners` when it is called, so the
app holds it as that handler with the listeners registered at the time of the call. -/
def setAnteHandler : Call (Except Error App) := do
  match ← Inline.newAnteHandler lib
      (app.anteOptions maxGasWanted signModeHandler wasmConfig txCounterStoreKey
        app.pendingTxListeners) with
  | .error err => pure (.error (.plain ("failed to create AnteHandler: " ++ err.error)))
  | .ok _ => pure (.ok { app with anteHandler := some (fun listeners =>
      Inline.anteHandler lib
        (app.anteOptions maxGasWanted signModeHandler wasmConfig txCounterStoreKey listeners)) })

/-- Of the thirteen options `NewAnteHandler` requires, `setAnteHandler` may leave only four
unset: the sign mode handler, the codec, the EVM keeper and the IBC keeper. -/
lemma requiredFields_anteOptions (listeners : List PendingTxListener) :
    (∀ r ∈ requiredFields (app.anteOptions maxGasWanted signModeHandler wasmConfig
        txCounterStoreKey listeners).flatten, r.1 = true) ↔
      signModeHandler.isSome ∧ app.appCodec.isSome ∧ app.evmKeeper.isSome ∧
        app.ibcKeeper.isSome := by
  simp [requiredFields, anteOptions, Inline.HandlerOptions.flatten]

@[simp] lemma simulationGasLimit_anteOptions (listeners : List PendingTxListener) :
    (app.anteOptions maxGasWanted signModeHandler wasmConfig txCounterStoreKey
      listeners).flatten.simulationGasLimit = wasmConfig.simulationGasLimit :=
  rfl

/-- **What `setAnteHandler` does**: the prefixed error of the first option missing, the panic
of a zero simulation gas limit, or the app with the handler installed. -/
lemma setAnteHandler_eq :
    app.setAnteHandler lib maxGasWanted signModeHandler wasmConfig txCounterStoreKey =
      match requireAll (requiredFields (app.anteOptions maxGasWanted signModeHandler wasmConfig
          txCounterStoreKey app.pendingTxListeners).flatten) with
      | .error err => .ok (.error (.plain ("failed to create AnteHandler: " ++ err.error)))
      | .ok () =>
        if wasmConfig.simulationGasLimit = some 0 then .error ⟨"gas limit must not be zero"⟩
        else .ok (.ok { app with anteHandler := some (fun listeners =>
          Inline.anteHandler lib (app.anteOptions maxGasWanted signModeHandler wasmConfig
            txCounterStoreKey listeners)) }) := by
  rw [setAnteHandler, Inline.newAnteHandler_eq_flatten, newAnteHandler_eq]
  rcases requireAll (requiredFields (app.anteOptions maxGasWanted signModeHandler wasmConfig
      txCounterStoreKey app.pendingTxListeners).flatten) with err | ⟨⟩
  · rfl
  · by_cases hz : wasmConfig.simulationGasLimit = some 0 <;>
      simp only [simulationGasLimit_anteOptions, hz, if_true, if_false] <;> rfl

/-- **`setAnteHandler` installs the dispatcher exactly when its four optional inputs are set
and the simulation gas limit is not zero**; the handler it installs runs, with the listeners
registered at the time of the call, the dispatcher over the two chains built from its
options. -/
theorem setAnteHandler_eq_ok_iff (app' : App) :
    app.setAnteHandler lib maxGasWanted signModeHandler wasmConfig txCounterStoreKey =
        .ok (.ok app') ↔
      (signModeHandler.isSome ∧ app.appCodec.isSome ∧ app.evmKeeper.isSome ∧
        app.ibcKeeper.isSome) ∧ wasmConfig.simulationGasLimit ≠ some 0 ∧
      app' = { app with anteHandler := some (fun listeners => anteHandlerFor
        (newCosmosAnteHandler lib (app.anteOptions maxGasWanted signModeHandler wasmConfig
          txCounterStoreKey listeners).flatten)
        (newMonoEVMAnteHandler lib (app.anteOptions maxGasWanted signModeHandler wasmConfig
          txCounterStoreKey listeners).flatten)) } := by
  rw [setAnteHandler_eq, ← requiredFields_anteOptions app maxGasWanted signModeHandler wasmConfig
    txCounterStoreKey app.pendingTxListeners, ← requireAll_eq_ok_iff]
  rcases requireAll _ with err | ⟨⟩
  · simp
  · by_cases hz : wasmConfig.simulationGasLimit = some 0 <;>
      simp [hz, eq_comm, Inline.anteHandler_eq_flatten]

/-- **A failed `setAnteHandler` names the option missing**, behind the prefix it adds. -/
lemma setAnteHandler_error {e : Error}
    (h : app.setAnteHandler lib maxGasWanted signModeHandler wasmConfig txCounterStoreKey =
      .ok (.error e)) :
    ∃ r ∈ requiredFields (app.anteOptions maxGasWanted signModeHandler wasmConfig
        txCounterStoreKey app.pendingTxListeners).flatten,
      r.1 = false ∧ e = .plain ("failed to create AnteHandler: " ++ r.2) := by
  rw [setAnteHandler_eq] at h
  split at h
  · rename_i err herr
    obtain ⟨r, hr, hfalse, rfl⟩ := requireAll_eq_error herr
    exact ⟨r, hr, hfalse, by simpa [Error.error] using h.symm⟩
  · split at h <;> cases h

/-- Without an EVM keeper, `setAnteHandler` fails and says so. -/
example :
    { sampleApp with evmKeeper := none }.setAnteHandler .passing 0 (some ⟨"SignModeHandler"⟩)
        ⟨none⟩ ⟨"txCounterStoreKey"⟩ =
      .ok (.error (.plain "failed to create AnteHandler: evm keeper is required for ante builder")) :=
  rfl

/-- **`setAnteHandler` panics exactly on a zero simulation gas limit** once its four optional
inputs are set. -/
lemma setAnteHandler_panics_iff (p : Panic) :
    app.setAnteHandler lib maxGasWanted signModeHandler wasmConfig txCounterStoreKey = .error p ↔
      (signModeHandler.isSome ∧ app.appCodec.isSome ∧ app.evmKeeper.isSome ∧
        app.ibcKeeper.isSome) ∧ wasmConfig.simulationGasLimit = some 0 ∧
        p = ⟨"gas limit must not be zero"⟩ := by
  rw [setAnteHandler_eq, ← requiredFields_anteOptions app maxGasWanted signModeHandler wasmConfig
    txCounterStoreKey app.pendingTxListeners, ← requireAll_eq_ok_iff]
  rcases requireAll _ with err | ⟨⟩
  · simp
  · by_cases hz : wasmConfig.simulationGasLimit = some 0 <;> simp [hz, eq_comm]

/-- With a simulation gas limit that is not zero, `setAnteHandler` returns. -/
lemma setAnteHandler_returns (h : wasmConfig.simulationGasLimit ≠ some 0) :
    ∃ r, app.setAnteHandler lib maxGasWanted signModeHandler wasmConfig txCounterStoreKey =
      .ok r := by
  rw [setAnteHandler_eq]
  split
  · exact ⟨_, rfl⟩
  · exact ⟨_, if_neg h⟩

end SetAnteHandler

/-- The lines of `registerWasmModules` between `wasm.ReadNodeConfig` and `setAnteHandler`: a
simulation gas limit that is unset or zero becomes `5_000_000`. -/
def withDefaultSimulationGasLimit (wasmConfig : NodeConfig) : NodeConfig :=
  if wasmConfig.simulationGasLimit = none ∨ wasmConfig.simulationGasLimit = some 0 then
    { wasmConfig with simulationGasLimit := some 5000000 }
  else wasmConfig

/-- The defaulted simulation gas limit is never zero, so `setAnteHandler` does not panic on
the node config `registerWasmModules` passes it; a limit that is set and not zero is kept. -/
lemma withDefaultSimulationGasLimit_ne_zero (wasmConfig : NodeConfig) :
    (withDefaultSimulationGasLimit wasmConfig).simulationGasLimit ≠ some 0 := by
  unfold withDefaultSimulationGasLimit
  split
  · simp
  · exact (not_or.mp ‹_›).2

/-! ### Family separation -/

/-- The EVM family: the first extension option is `ExtensionOptionsEthereumTx`, and the fused
EVM decorator `evmMono` admitted the transaction. -/
structure EvmFamily (evmMono : Check) (ctx : Context) (tx : Tx) (simulate : Bool) : Prop where
  ethereumTxOption : tx.firstExtensionTypeURL = some ethereumTxExtensionTypeURL
  admitted : Admits evmMono ctx tx simulate

/-- The Cosmos family: no top-level `MsgEthereumTx`, no `MsgEthereumTx` or
`MsgCreateVestingAccount` reached through authz, and every extension option a dynamic-fee
option. -/
structure CosmosFamily (tx : Tx) : Prop where
  noEthereumTx : ∀ m ∈ tx.msgs, m.isEthereumTx = false
  noDisabledAuthz : ∀ u ∈ authzTypeURLs tx.msgs false,
    u ≠ msgEthereumTxTypeURL ∧ u ≠ msgCreateVestingAccountTypeURL
  dynamicFeeOptions : ∀ opts, tx.extensionOptions = some opts →
    ∀ opt ∈ opts, hasDynamicFeeExtensionOption opt = true

/-- A transaction led by an Ethereum-transaction option is not in the Cosmos family. -/
lemma not_cosmosFamily_of_ethereumTxOption {tx : Tx}
    (h : tx.firstExtensionTypeURL = some ethereumTxExtensionTypeURL) : ¬ CosmosFamily tx := by
  intro hc
  obtain ⟨opt, opts, hopts, hurl⟩ := (firstExtensionTypeURL_eq_some_iff tx _).mp h
  have := hc.dynamicFeeOptions _ hopts opt (List.mem_cons_self _ _)
  simp [hasDynamicFeeExtensionOption, hurl, ethereumTxExtensionTypeURL,
    dynamicFeeTxExtensionTypeURL] at this

/-- **The Cosmos chain admits only the Cosmos family** when its extension-option checker is
`HasDynamicFeeExtensionOption`: `RejectMessagesDecorator`, `AuthzLimiterDecorator` and
`ExtensionOptionsDecorator` each passed. -/
theorem cosmosFamily_of_success (lib : AnteLibrary) (options : HandlerOptions)
    (hchecker : options.extensionOptionChecker = some hasDynamicFeeExtensionOption)
    {ctx c : Context} {tx : Tx} {simulate : Bool}
    (h : newCosmosAnteHandler lib.withModelled options ctx tx simulate = .ok (c, none)) :
    CosmosFamily tx := by
  have hadm := admits_of_success h
  obtain ⟨_, hrej⟩ := hadm ⟨.rejectMessages, rejectMessagesCheck⟩ (by simp [cosmosDecorators, AnteLibrary.withModelled])
  obtain ⟨_, hauthz⟩ := hadm ⟨.authzLimiter,
    authzLimiterCheck [msgEthereumTxTypeURL, msgCreateVestingAccountTypeURL]⟩
    (by simp [cosmosDecorators, AnteLibrary.withModelled])
  obtain ⟨_, hext⟩ := hadm ⟨.extensionOptions, extensionOptionsCheck options.extensionOptionChecker⟩
    (by simp [cosmosDecorators, wasmDecorators, AnteLibrary.withModelled])
  rw [hchecker] at hext
  refine ⟨(admits_rejectMessagesCheck_iff _ _ _).mp hrej, fun u hu => ?_,
    (admits_extensionOptionsCheck_iff _ _ _ _).mp hext⟩
  simpa using authzTypeURLs_of_admits_authzLimiterCheck _ hauthz u hu

/-- **Family separation.** If the handler `setAnteHandler` installs returns a `nil` error on a
transaction, then the transaction is in exactly one family: either its first extension option
is `ExtensionOptionsEthereumTx` and `EVMMonoDecorator` admitted it, or it carries no
`MsgEthereumTx` at the top level, none and no `MsgCreateVestingAccount` through authz, and
only dynamic-fee extension options.

**Proof sketch.** The dispatcher runs the route of the first type URL. On the EVM route the
first decorator of the successful chain is `EVMMonoDecorator`; on the Cosmos route
`cosmosFamily_of_success` applies; the rejection returns an error. The families exclude each
other by `not_cosmosFamily_of_ethereumTxOption`. -/
theorem setAnteHandler_family_separation (lib : AnteLibrary) (app : App) {app' : App}
    (maxGasWanted : UInt64) (signModeHandler : Option Ref) (wasmConfig : NodeConfig)
    (txCounterStoreKey : Ref)
    (h : app.setAnteHandler lib.withModelled maxGasWanted signModeHandler wasmConfig
      txCounterStoreKey = .ok (.ok app'))
    {anteHandler : List PendingTxListener → AnteHandler} (hh : app'.anteHandler = some anteHandler)
    (listeners : List PendingTxListener) {ctx ctx' : Context} {tx : Tx} {simulate : Bool}
    (hrun : anteHandler listeners ctx tx simulate = .ok (ctx', none)) :
    Xor' (EvmFamily (lib.newEVMMonoDecorator (some app.authKeeper) app.feeMarketKeeper
        app.evmKeeper maxGasWanted) ctx tx simulate) (CosmosFamily tx) := by
  obtain ⟨-, -, rfl⟩ := (setAnteHandler_eq_ok_iff _ _ _ _ _ _ _).mp h
  cases hh
  dsimp only at hrun
  rw [anteHandlerFor_eq_run] at hrun
  rcases hr : extensionRoute tx.firstExtensionTypeURL with _ | _ | url <;>
    simp only [hr, Route.run] at hrun
  · have hfirst := (extensionRoute_eq_evm_iff _).mp hr
    exact Or.inl ⟨⟨hfirst, admits_head_of_success hrun⟩,
      not_cosmosFamily_of_ethereumTxOption hfirst⟩
  · refine Or.inr ⟨cosmosFamily_of_success _ _ rfl hrun, fun he => ?_⟩
    have hcosmos := (extensionRoute_eq_cosmos_iff _).mp hr
    rw [he.ethereumTxOption] at hcosmos
    simp [ethereumTxExtensionTypeURL, dynamicFeeTxExtensionTypeURL] at hcosmos
  · simp at hrun

/-- A bank send led by a dynamic-fee option, through the handler of an application whose
library passes everything else, is in the Cosmos family and not in the EVM family. -/
theorem setAnteHandler_separates_dynamic_fee_send :
    Xor' (EvmFamily (AnteLibrary.passing.newEVMMonoDecorator (some sampleApp.authKeeper)
        sampleApp.feeMarketKeeper sampleApp.evmKeeper 0)
        ⟨"kudora_12000-1", 1, true, false, 0, []⟩
        ⟨[.other "/cosmos.bank.v1beta1.MsgSend"], some [⟨dynamicFeeTxExtensionTypeURL⟩]⟩ false)
      (CosmosFamily ⟨[.other "/cosmos.bank.v1beta1.MsgSend"], some [⟨dynamicFeeTxExtensionTypeURL⟩]⟩) :=
  setAnteHandler_family_separation .passing sampleApp 0 (some ⟨"SignModeHandler"⟩) ⟨none⟩
    ⟨"txCounterStoreKey"⟩ rfl rfl [] rfl

/-! ### The pending-transaction listeners -/

/-- With a listener that returns on every hash, the EVM chain is the chain with no listener. -/
lemma newMonoEVMAnteHandler_of_returning (lib : AnteLibrary) (options : HandlerOptions)
    {l : PendingTxListener} (hl : ∀ hash, l hash = .ok ())
    (hopt : options.pendingTxListener = some l) :
    newMonoEVMAnteHandler lib.withModelled options =
      newMonoEVMAnteHandler lib.withModelled { options with pendingTxListener := none } := by
  simp only [newMonoEVMAnteHandler, evmDecorators, AnteLibrary.withModelled, hopt,
    txListenerCheck_of_returning hl, txListenerCheck_none]

/-- **Listeners that return leave the EVM chain unchanged.** For every list of listeners
registered when the chain runs, each of which returns on every hash, the EVM chain built from
the options of `setAnteHandler` is the chain with no listener registered: every context,
transaction and simulate flag gets the same result. -/
theorem newMonoEVMAnteHandler_returning_listeners (lib : AnteLibrary) (app : App)
    (maxGasWanted : UInt64) (signModeHandler : Option Ref) (wasmConfig : NodeConfig)
    (txCounterStoreKey : Ref) (listeners : List PendingTxListener)
    (hl : ∀ l ∈ listeners, ∀ hash, l hash = .ok ()) :
    newMonoEVMAnteHandler lib.withModelled (app.anteOptions maxGasWanted signModeHandler
        wasmConfig txCounterStoreKey listeners).flatten =
      newMonoEVMAnteHandler lib.withModelled
        (app.anteOptions maxGasWanted signModeHandler wasmConfig txCounterStoreKey []).flatten := by
  rw [newMonoEVMAnteHandler_of_returning lib _ (pendingTxFanOut_of_returning hl) rfl,
    newMonoEVMAnteHandler_of_returning lib
      (app.anteOptions maxGasWanted signModeHandler wasmConfig txCounterStoreKey []).flatten
      (pendingTxFanOut_of_returning (by simp)) rfl]
  rfl

/-- One listener that returns on every hash leaves the EVM chain as it is with none. -/
theorem newMonoEVMAnteHandler_one_returning_listener :
    newMonoEVMAnteHandler AnteLibrary.passing.withModelled
        (sampleApp.anteOptions 0 none ⟨none⟩ ⟨"txCounterStoreKey"⟩ [fun _ => .ok ()]).flatten =
      newMonoEVMAnteHandler AnteLibrary.passing.withModelled
        (sampleApp.anteOptions 0 none ⟨none⟩ ⟨"txCounterStoreKey"⟩ []).flatten :=
  newMonoEVMAnteHandler_returning_listeners .passing sampleApp 0 none ⟨none⟩ ⟨"txCounterStoreKey"⟩
    _ (by simp)

/-- **A listener panic is not isolated.** When `EVMMonoDecorator` passes the transaction on
in `CheckTx`, outside `ReCheckTx` and simulation, and the fan-out over the listeners registered
at that time panics on the transaction's Ethereum hashes, the EVM chain panics with that value:
the loop of `setAnteHandler`'s closure has no `recover`. -/
theorem newMonoEVMAnteHandler_listener_panic (lib : AnteLibrary) (app : App)
    (maxGasWanted : UInt64) (signModeHandler : Option Ref) (wasmConfig : NodeConfig)
    (txCounterStoreKey : Ref) (listeners : List PendingTxListener) {ctx ctx' : Context} {tx : Tx}
    {simulate : Bool} {p : Panic}
    (hmono : lib.newEVMMonoDecorator (some app.authKeeper) app.feeMarketKeeper app.evmKeeper
      maxGasWanted ctx tx simulate = .next ctx')
    (hcheck : ctx'.isCheckTx = true) (hrecheck : ctx'.isReCheckTx = false)
    (hsimulate : simulate = false)
    (hpanic : notifyPendingTxs (pendingTxFanOut listeners) tx.msgs = .error p) :
    newMonoEVMAnteHandler lib.withModelled
      (app.anteOptions maxGasWanted signModeHandler wasmConfig txCounterStoreKey listeners).flatten
      ctx tx simulate = .error p := by
  subst hsimulate
  simp only [newMonoEVMAnteHandler, evmDecorators, chainAnteDecorators, AnteDecorator.anteHandle,
    AnteLibrary.withModelled, anteOptions, Inline.HandlerOptions.flatten, hmono, Verdict.handle]
  simp [txListenerCheck, hcheck, hrecheck, hpanic]

/-- **Listener failures can change admission.** With one listener that panics, a `CheckTx`
run of the EVM chain on an Ethereum transaction panics, where with no listener registered it
admits the transaction. -/
theorem newMonoEVMAnteHandler_panicking_listener :
    let ctx : Context := ⟨"kudora_12000-1", 1, true, false, 0, []⟩
    let tx : Tx := ⟨[.ethereumTx ⟨[]⟩], some [⟨ethereumTxExtensionTypeURL⟩]⟩
    newMonoEVMAnteHandler AnteLibrary.passing.withModelled
        (sampleApp.anteOptions 0 none ⟨none⟩ ⟨"txCounterStoreKey"⟩
          [fun _ => .error ⟨"listener"⟩]).flatten ctx tx false = .error ⟨"listener"⟩ ∧
      newMonoEVMAnteHandler AnteLibrary.passing.withModelled
        (sampleApp.anteOptions 0 none ⟨none⟩ ⟨"txCounterStoreKey"⟩ []).flatten ctx tx false =
          .ok (ctx, none) :=
  ⟨rfl, rfl⟩

end Kudora.App
