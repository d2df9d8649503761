import Kudora.Ante.Decorators

set_option autoImplicit false

/-!
# The two ante chains of the `ante` package

`NewCosmosAnteHandler` chains the decorators for transactions of the Cosmos family: message
and authz filters, context setup, the four WASM decorators of `wasmDecorators`, then the
SDK's core flow from the circuit breaker to the gas-wanted check. `NewMonoEVMAnteHandler`
chains the fused EVM decorator and the pending-transaction listener.

## Main definitions

* `Kudora.Ante.HandlerOptions` — `ante.HandlerOptions`.
* `Kudora.Ante.wasmDecorators`, `Kudora.Ante.cosmosDecorators`, `Kudora.Ante.evmDecorators`
  — the decorator lists the source builds.
* `Kudora.Ante.newCosmosAnteHandler`, `Kudora.Ante.newMonoEVMAnteHandler` — the handlers the
  two constructors return; `Kudora.Ante.callNewCosmosAnteHandler` — the call, which can panic.

## Main results

* `Kudora.Ante.newCosmosAnteHandler_ordered` — for every behaviour of every decorator, a
  run of the Cosmos chain invokes its decorators in the order of `cosmosAnteOrder`, each at
  most once and only after all earlier ones passed, succeeds only when all passed, and so
  deducts fees only after the structural and fee checks, checks signatures only after the
  fee is deducted, and increments sequences only after signatures are verified.
* `Kudora.Ante.newMonoEVMAnteHandler_ordered` — the EVM chain reaches the pending-transaction
  notifier only after `EVMMonoDecorator` passed.
-/

namespace Kudora.Ante

open Sdk

/-- `ante.HandlerOptions`: the keepers and settings the two chains are built from. -/
structure HandlerOptions where
  accountKeeper : Option Ref
  bankKeeper : Option Ref
  feegrantKeeper : Option Ref
  signModeHandler : Option Ref
  signatureGasConsumer : Option Ref
  txFeeChecker : Option Ref
  extensionOptionChecker : Option ExtensionOptionChecker
  cdc : Option Ref
  evmKeeper : Option Ref
  feeMarketKeeper : Ref
  maxTxGasWanted : UInt64
  pendingTxListener : Option PendingTxListener
  ibcKeeper : Option Ref
  nodeConfig : Option NodeConfig
  wasmKeeper : Option Ref
  txCounterStoreService : Option Ref
  circuitKeeper : Option Ref

variable (lib : AnteLibrary) (options : HandlerOptions)

/-- `wasmDecorators(options)`. `options.NodeConfig.SimulationGasLimit` dereferences the node
config, which `NewAnteHandler` has checked is not `nil`. -/
def wasmDecorators : List AnteDecorator :=
  [⟨.limitSimulationGas,
      lib.newLimitSimulationGasDecorator (options.nodeConfig.bind NodeConfig.simulationGasLimit)⟩,
    ⟨.countTX, lib.newCountTXDecorator options.txCounterStoreService⟩,
    ⟨.gasRegister, lib.newGasRegisterDecorator options.wasmKeeper⟩,
    ⟨.txContracts, lib.newTxContractsDecorator⟩]

/-- The decorators of `NewCosmosAnteHandler(options)`, in the order it appends them. -/
def cosmosDecorators : List AnteDecorator :=
  [⟨.rejectMessages, lib.newRejectMessagesDecorator⟩,
    ⟨.authzLimiter,
      lib.newAuthzLimiterDecorator [msgEthereumTxTypeURL, msgCreateVestingAccountTypeURL]⟩,
    ⟨.setUpContext, lib.newSetUpContextDecorator⟩] ++
  wasmDecorators lib options ++
  [⟨.circuitBreaker, lib.newCircuitBreakerDecorator options.circuitKeeper⟩,
    ⟨.extensionOptions, lib.newExtensionOptionsDecorator options.extensionOptionChecker⟩,
    ⟨.validateBasic, lib.newValidateBasicDecorator⟩,
    ⟨.txTimeoutHeight, lib.newTxTimeoutHeightDecorator⟩,
    ⟨.validateMemo, lib.newValidateMemoDecorator options.accountKeeper⟩,
    ⟨.minGasPrice, lib.newMinGasPriceDecorator options.feeMarketKeeper options.evmKeeper⟩,
    ⟨.consumeGasForTxSize, lib.newConsumeGasForTxSizeDecorator options.accountKeeper⟩,
    ⟨.deductFee, lib.newDeductFeeDecorator options.accountKeeper options.bankKeeper
      options.feegrantKeeper options.txFeeChecker⟩,
    ⟨.setPubKey, lib.newSetPubKeyDecorator options.accountKeeper⟩,
    ⟨.validateSigCount, lib.newValidateSigCountDecorator options.accountKeeper⟩,
    ⟨.sigGasConsume,
      lib.newSigGasConsumeDecorator options.accountKeeper options.signatureGasConsumer⟩,
    ⟨.sigVerification, lib.newSigVerificationDecorator options.accountKeeper options.signModeHandler⟩,
    ⟨.incrementSequence, lib.newIncrementSequenceDecorator options.accountKeeper⟩,
    ⟨.redundantRelay, lib.newRedundantRelayDecorator options.ibcKeeper⟩,
    ⟨.gasWanted, lib.newGasWantedDecorator options.evmKeeper options.feeMarketKeeper⟩]

/-- The handler `NewCosmosAnteHandler(options)` returns: the chain of `cosmosDecorators`. -/
def newCosmosAnteHandler : AnteHandler :=
  chainAnteDecorators (cosmosDecorators lib options)

/-- The simulation gas limit the Cosmos chain is built with. -/
def HandlerOptions.simulationGasLimit : Option UInt64 :=
  options.nodeConfig.bind NodeConfig.simulationGasLimit

/-- The call `NewCosmosAnteHandler(options)`. Building `wasmDecorators` reads
`options.NodeConfig.SimulationGasLimit` and calls `options.WasmKeeper.GetGasRegister()`, which
panic on a `nil` pointer, and `NewLimitSimulationGasDecorator`, which panics on a zero limit;
these are the panics of the construction, and otherwise it returns `newCosmosAnteHandler`. -/
def callNewCosmosAnteHandler : Call AnteHandler := do
  let some nodeConfig := options.nodeConfig | throw nilDereference
  limitSimulationGasGuard nodeConfig.simulationGasLimit
  let some _ := options.wasmKeeper | throw nilDereference
  pure (newCosmosAnteHandler lib options)

/-- With the node config and the wasm keeper set, the construction panics exactly on a zero
simulation gas limit. -/
lemma callNewCosmosAnteHandler_eq {nodeConfig : NodeConfig} {wasmKeeper : Ref}
    (hcfg : options.nodeConfig = some nodeConfig) (hwasm : options.wasmKeeper = some wasmKeeper) :
    callNewCosmosAnteHandler lib options =
      if nodeConfig.simulationGasLimit = some 0 then .error ⟨"gas limit must not be zero"⟩
      else .ok (newCosmosAnteHandler lib options) := by
  simp only [callNewCosmosAnteHandler, hcfg, hwasm, limitSimulationGasGuard]
  split <;> rfl

/-- The decorators of `NewMonoEVMAnteHandler(options)`. -/
def evmDecorators : List AnteDecorator :=
  [⟨.evmMono, lib.newEVMMonoDecorator options.accountKeeper options.feeMarketKeeper
      options.evmKeeper options.maxTxGasWanted⟩,
    ⟨.txListener, lib.newTxListenerDecorator options.pendingTxListener⟩]

/-- `NewMonoEVMAnteHandler(options)`, whose constructors do not panic. -/
def newMonoEVMAnteHandler : AnteHandler :=
  chainAnteDecorators (evmDecorators lib options)

/-- Options with every reference set. -/
def HandlerOptions.complete : HandlerOptions where
  accountKeeper := some ⟨"AccountKeeper"⟩
  bankKeeper := some ⟨"BankKeeper"⟩
  feegrantKeeper := some ⟨"FeegrantKeeper"⟩
  signModeHandler := some ⟨"SignModeHandler"⟩
  signatureGasConsumer := some ⟨"SignatureGasConsumer"⟩
  txFeeChecker := some ⟨"TxFeeChecker"⟩
  extensionOptionChecker := some hasDynamicFeeExtensionOption
  cdc := some ⟨"Cdc"⟩
  evmKeeper := some ⟨"EvmKeeper"⟩
  feeMarketKeeper := ⟨"FeeMarketKeeper"⟩
  maxTxGasWanted := 0
  pendingTxListener := some fun _ => .ok ()
  ibcKeeper := some ⟨"IBCKeeper"⟩
  nodeConfig := some ⟨none⟩
  wasmKeeper := some ⟨"WasmKeeper"⟩
  txCounterStoreService := some ⟨"TXCounterStoreService"⟩
  circuitKeeper := some ⟨"CircuitKeeper"⟩

/-- The order of the Cosmos chain. -/
def cosmosAnteOrder : List DecoratorName :=
  [.rejectMessages, .authzLimiter, .setUpContext,
    .limitSimulationGas, .countTX, .gasRegister, .txContracts,
    .circuitBreaker, .extensionOptions, .validateBasic, .txTimeoutHeight, .validateMemo,
    .minGasPrice, .consumeGasForTxSize, .deductFee,
    .setPubKey, .validateSigCount, .sigGasConsume, .sigVerification, .incrementSequence,
    .redundantRelay, .gasWanted]

lemma cosmosDecorators_names : (cosmosDecorators lib options).map AnteDecorator.name = cosmosAnteOrder :=
  rfl

lemma cosmosAnteOrder_nodup : cosmosAnteOrder.Nodup := by decide

/-- **The Cosmos chain runs in its fixed order.** For every behaviour of every decorator
(each a verdict: `Kudora.Sdk.actsAsVerdict_iff_check`), every context, transaction and
simulate flag, the run of `NewCosmosAnteHandler`
* returns what the handler returns;
* invokes a prefix of `cosmosAnteOrder`, so each decorator at most once and in that order;
* invokes a decorator only after every earlier one passed;
* succeeds only if every decorator passed;
* reaches `DeductFee` only after the message, authz, context, WASM, circuit-breaker,
  structural, memo, gas-price and size checks all passed, reaches `SigGasConsume` and
  `SigVerification` only after `DeductFee` passed, and reaches `IncrementSequence` only
  after `SigVerification` passed. -/
theorem newCosmosAnteHandler_ordered (ctx : Context) (tx : Tx) (simulate : Bool) :
    let run := chainAnteDecoratorsTraced (cosmosDecorators lib options) ctx tx simulate
    let invoked := run.trace.map Prod.fst
    run.result = newCosmosAnteHandler lib options ctx tx simulate ∧
    invoked <+: cosmosAnteOrder ∧ invoked.Nodup ∧
    (∀ e ∈ run.trace.dropLast, e.2 = .passed) ∧
    (∀ c, run.result = .ok (c, none) → run.trace = cosmosAnteOrder.map (·, .passed)) ∧
    (.deductFee ∈ invoked → ∀ m ∈ [.rejectMessages, .authzLimiter, .setUpContext,
        .limitSimulationGas, .countTX, .gasRegister, .txContracts, .circuitBreaker,
        .extensionOptions, .validateBasic, .txTimeoutHeight, .validateMemo, .minGasPrice,
        .consumeGasForTxSize], (m, .passed) ∈ run.trace) ∧
    (.sigGasConsume ∈ invoked ∨ .sigVerification ∈ invoked → (.deductFee, .passed) ∈ run.trace) ∧
    (.incrementSequence ∈ invoked → (.sigVerification, .passed) ∈ run.trace) := by
  intro run invoked
  have hpre : invoked <+: cosmosAnteOrder := by
    simpa only [cosmosDecorators_names] using trace_isPrefix (cosmosDecorators lib options) ctx tx simulate
  have hbefore : ∀ n ∈ invoked, ∀ m ∈ cosmosAnteOrder.takeWhile (· ≠ n), (m, .passed) ∈ run.trace :=
    fun n hn => by
      simpa only [cosmosDecorators_names] using
        passed_of_mem_takeWhile (cosmosDecorators lib options) ctx tx simulate hn
  refine ⟨chainAnteDecoratorsTraced_result _ _ _ _, hpre,
    cosmosAnteOrder_nodup.sublist hpre.sublist,
    trace_passed_of_mem_dropLast _ _ _ _, fun c hc => ?_,
    fun h m hm => hbefore _ h m (by revert m; decide),
    fun h => by rcases h with h | h <;> exact hbefore _ h _ (by decide),
    fun h => hbefore _ h _ (by decide)⟩
  rw [trace_of_success _ _ _ _ hc, ← cosmosDecorators_names lib options, List.map_map]
  rfl

/-- The order of the EVM chain. -/
def evmAnteOrder : List DecoratorName := [.evmMono, .txListener]

lemma evmDecorators_names : (evmDecorators lib options).map AnteDecorator.name = evmAnteOrder :=
  rfl

/-- **The EVM chain notifies only what the fused EVM decorator passed.** For every behaviour of
its two decorators, every context, transaction and simulate flag, the run of
`NewMonoEVMAnteHandler`
* returns what the handler returns;
* invokes `EVMMonoDecorator` first, and the pending-transaction notifier at most once after it;
* reaches the notifier only after `EVMMonoDecorator` passed;
* succeeds only if both passed. -/
theorem newMonoEVMAnteHandler_ordered (ctx : Context) (tx : Tx) (simulate : Bool) :
    let run := chainAnteDecoratorsTraced (evmDecorators lib options) ctx tx simulate
    let invoked := run.trace.map Prod.fst
    run.result = newMonoEVMAnteHandler lib options ctx tx simulate ∧
    invoked <+: evmAnteOrder ∧
    (.txListener ∈ invoked → (.evmMono, .passed) ∈ run.trace) ∧
    (∀ c, run.result = .ok (c, none) → run.trace = evmAnteOrder.map (·, .passed)) := by
  intro run invoked
  refine ⟨chainAnteDecoratorsTraced_result _ _ _ _, ?_, fun h => ?_, fun c hc => ?_⟩
  · simpa only [evmDecorators_names] using trace_isPrefix (evmDecorators lib options) ctx tx simulate
  · have hpassed := passed_of_mem_takeWhile (evmDecorators lib options) ctx tx simulate h
    rw [evmDecorators_names] at hpassed
    exact hpassed _ (by decide)
  · rw [trace_of_success _ _ _ _ hc, ← evmDecorators_names lib options, List.map_map]
    rfl

end Kudora.Ante
