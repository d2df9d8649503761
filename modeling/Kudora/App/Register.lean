import Kudora.App.SetAnteHandler
import Kudora.App.Ibc

set_option autoImplicit false

/-!
# Registering the IBC and wasm modules: where the routers and the ante handler come from

`registerIBCModules` registers the IBC stores, builds the IBC keepers, and calls
`initIBCMiddlewareKeepers` and then `configureIBCMiddlewareStacks`. The latter calls
`registerWasmModules`, which installs the ante handler (`setAnteHandler`) and the post handler,
and then sets the classic and v2 routers of `Kudora.App.Ibc`. So the application's ante handler
is installed in the middle of the IBC registration, and a failure of the wasm registration,
which `configureIBCMiddlewareStacks` cannot return, panics.

## Main definitions

* `Kudora.App.RegisterLibrary` — the SDK, IBC and wasm calls the registration functions make.
* `Kudora.App.Wiring` — the application while it is built: the `App` of `setAnteHandler`,
  the keepers built, the routers and the post handler.
* `Kudora.App.registerIBCModules`, `Kudora.App.initIBCMiddlewareKeepers`,
  `Kudora.App.configureIBCMiddlewareStacks`, `Kudora.App.registerWasmModules`,
  `Kudora.App.setPostHandler` — the functions of the source.

## Main results

* `Kudora.App.registerIBCModules_ok` — a registration that returns `nil` leaves the routers
  `Kudora.App.ibcRouter` and `Kudora.App.ibcRouterV2`, the ante handler `setAnteHandler`
  builds from the IBC keeper it has just created and the defaulted wasm node config, a post
  handler, and every IBC keeper built with an address the codec returned without an error,
  although `registerIBCModules` itself discards that error.
* `Kudora.App.registerIBCModules_error` — every error `registerIBCModules` returns is one of
  its store registration, of the address codec or of its module registration: an error of the
  wasm registration or of `setAnteHandler` never comes back as an error.
* `Kudora.App.registerIBCModules_returns_iff` — when the library calls all return, the
  registration returns exactly when the sign mode handler, the codec and the EVM keeper are
  set, and panics otherwise.

## Design

The library calls are arbitrary computations on a state `σ` that may panic, fields of
`RegisterLibrary`; the address codec and `wasm.ReadNodeConfig` read nothing registration
writes, so they are values. What the model keeps of the application is what the modelled
functions read and what the results are about. The method `app.setAnteHandler` changes the app
in place and returns an error; `Kudora.App.Wiring.setAnteHandler` is that method over
`Kudora.App.setAnteHandler`, whose panic it passes on, so that every error check of
`registerWasmModules` matches on the `error` result of a call.

Each function has a lemma that says what its run did (`_eq_ok`), and with a library whose calls
return, one that runs it (`_of_returns`); the results are assembled from those.
-/

namespace Kudora.App

open Ante

/-- The calls the registration functions make into the SDK's app builder and the IBC and wasm
libraries, on the state `σ` they read and write: the store keys and modules the app holds, the
legacy parameter subspaces, the keepers, the light-client routes and the snapshot manager. -/
structure RegisterLibrary (σ : Type) where
  /-- `app.GetKey(key) != nil`. -/
  hasKey : String → σ → Bool
  /-- `app.RegisterStores(storetypes.NewKVStoreKey(key), ...)`. -/
  registerStores : List String → EStateM Panic σ (Option Error)
  /-- The legacy parameter subspaces and key tables of `registerIBCModules`. -/
  registerSubspaces : EStateM Panic σ Unit
  /-- `NewKeeper` of a keeper, with the authority it is given. -/
  newKeeper : String → String → EStateM Panic σ Unit
  /-- `app.AuthKeeper.AddressCodec().BytesToString(authtypes.NewModuleAddress(govtypes.ModuleName))`:
  the address and the error. -/
  govModuleAddr : String × Option Error
  /-- `authtypes.NewModuleAddress(govtypes.ModuleName).String()`. -/
  govModuleAccAddr : String
  /-- `wasm.ReadNodeConfig(appOpts)`. -/
  readNodeConfig : Except Error NodeConfig
  /-- `app.RegisterModules(...)`, the modules by name. -/
  registerModules : List String → EStateM Panic σ (Option Error)
  /-- The wasm snapshotter registered with the snapshot manager, if the app has one. -/
  registerSnapshotExtension : EStateM Panic σ (Option Error)
  /-- The error of `posthandler.NewPostHandler(posthandler.HandlerOptions{})`. -/
  newPostHandler : Option Error
  /-- The error of `proto.MergedRegistry()`. -/
  mergedRegistry : Option Error
  /-- The error of `msgservice.ValidateProtoAnnotations(protoFiles)`. -/
  validateProtoAnnotations : Option Error
  /-- The tendermint and solo-machine light-client routes of the client keeper. -/
  addClientRoutes : EStateM Panic σ Unit

/-- The application while it is built: the fields `setAnteHandler` reads and writes, the
keepers built so far with their authorities, the routers of the IBC keeper, whether a post
handler is set, and the state of the libraries. -/
structure Wiring (σ : Type) where
  app : App
  keepers : List (String × String)
  router : Option (List (String × IBCModule))
  routerV2 : Option (List (String × IBCModule))
  postHandler : Bool
  lib : σ

section Register

variable {σ : Type} (L : RegisterLibrary σ)

/-- A library call, on the library's part of the state. -/
def Wiring.lift {α : Type} (x : EStateM Panic σ α) : EStateM Panic (Wiring σ) α := fun w =>
  match x w.lib with
  | .ok a s => .ok a { w with lib := s }
  | .error p s => .error p { w with lib := s }

/-- `app.Keeper = keeperpkg.NewKeeper(..., authority, ...)`. -/
def buildKeeper (keeper authority : String) : EStateM Panic (Wiring σ) Unit := do
  Wiring.lift (L.newKeeper keeper authority)
  modify fun w => { w with keepers := w.keepers ++ [(keeper, authority)] }

/-- `wasmtypes.StoreKey`. -/
def wasmStoreKey : String := "wasmtypes.StoreKey"

/-- `app.setPostHandler()`. -/
def setPostHandler : EStateM Panic (Wiring σ) (Option Error) := do
  match L.newPostHandler with
  | some err => return some err
  | none =>
    modify fun w => { w with postHandler := true }
    return none

/-- The first lines of `registerWasmModules`: the wasm store key is registered only if the app
does not hold it yet, and a failure panics. -/
def registerWasmStore : EStateM Panic (Wiring σ) Unit := do
  if L.hasKey wasmStoreKey (← get).lib then return
  match ← Wiring.lift (L.registerStores [wasmStoreKey]) with
  | some err => throw ⟨err.error⟩
  | none => return

variable (ante : AnteLibrary) (maxGasWanted : UInt64) (signModeHandler : Option Ref)

/-- `app.setAnteHandler(appOpts, app.txConfig, wasmConfig, app.GetKey(wasmtypes.StoreKey))`, the
method: it installs the handler `Kudora.App.setAnteHandler` builds on the app in place, and
returns the error, or panics with it. -/
def Wiring.setAnteHandler (wasmConfig : NodeConfig) : EStateM Panic (Wiring σ) (Option Error) :=
  fun w =>
    match w.app.setAnteHandler ante maxGasWanted signModeHandler wasmConfig ⟨wasmStoreKey⟩ with
    | .error p => .error p w
    | .ok (.error err) => .ok (some err) w
    | .ok (.ok app) => .ok none { w with app := app }

/-- `app.registerWasmModules(appOpts, wasmOpts...)`: the wasm stack, `wasm.NewIBCHandler(...)`,
or an error. `maxGasWanted` and `signModeHandler` are what `setAnteHandler` reads from the app
options and from `app.txConfig`. -/
def registerWasmModules : EStateM Panic (Wiring σ) (Except Error IBCModule) := do
  registerWasmStore L
  match L.readNodeConfig with
  | .error err => return .error (.plain ("error while reading wasm config: " ++ err.error))
  | .ok wasmConfig =>
    let wasmConfig := withDefaultSimulationGasLimit wasmConfig
    buildKeeper L "WasmKeeper" L.govModuleAccAddr
    if let some err ← Wiring.lift (L.registerModules ["wasm"]) then
      return .error err
    if let some err ← Wiring.setAnteHandler ante maxGasWanted signModeHandler wasmConfig then
      return .error err
    if let some err ← Wiring.lift L.registerSnapshotExtension then
      return .error (.plain ("failed to register snapshot extension: " ++ err.error))
    if let some err ← setPostHandler L then
      return .error err
    if let some err := L.mergedRegistry then
      return .error err
    if let some err := L.validateProtoAnnotations then
      return .error err
    return .ok .wasm

/-- `app.configureIBCMiddlewareStacks(appOpts)`: the stacks are those of `Kudora.App.Ibc`; an
error of `registerWasmModules` panics. -/
def configureIBCMiddlewareStacks : EStateM Panic (Wiring σ) Unit := do
  match ← registerWasmModules L ante maxGasWanted signModeHandler with
  | .error err => throw ⟨err.error⟩
  | .ok _ =>
    modify fun w => { w with router := some ibcRouter }
    modify fun w => { w with routerV2 := some ibcRouterV2 }

/-- `app.initIBCMiddlewareKeepers()`. -/
def initIBCMiddlewareKeepers : EStateM Panic (Wiring σ) (Option Error) := do
  match L.govModuleAddr with
  | (_, some err) => return some err
  | (govModuleAddr, none) =>
    buildKeeper L "RateLimitKeeper" govModuleAddr
    buildKeeper L "PacketForwardKeeper" govModuleAddr
    return none

/-- The store keys `registerIBCModules` registers. -/
def ibcStoreKeys : List String :=
  ["ibcexported.StoreKey", "ibctransfertypes.StoreKey", "icahosttypes.StoreKey",
    "icacontrollertypes.StoreKey", "packetforwardtypes.StoreKey", "ratelimittypes.StoreKey"]

/-- The modules `registerIBCModules` registers. -/
def ibcModules : List String :=
  ["ibc", "ibctransferevm", "icamodule", "ibctm", "solomachine", "packetforward", "ratelimit"]

/-- The keepers `registerIBCModules` builds before the wasm registration, in order. -/
def ibcKeepers : List String :=
  ["IBCKeeper", "TransferKeeper", "RateLimitKeeper", "PacketForwardKeeper", "ICAHostKeeper",
    "ICAControllerKeeper"]

/-- `app.registerIBCModules(appOpts)`. -/
def registerIBCModules : EStateM Panic (Wiring σ) (Option Error) := do
  match ← Wiring.lift (L.registerStores ibcStoreKeys) with
  | some err => return some err
  | none =>
    Wiring.lift L.registerSubspaces
    let govModuleAddr := L.govModuleAddr.1
    buildKeeper L "IBCKeeper" govModuleAddr
    modify fun w => { w with app := { w.app with ibcKeeper := some ⟨"IBCKeeper"⟩ } }
    buildKeeper L "TransferKeeper" govModuleAddr
    match ← initIBCMiddlewareKeepers L with
    | some err => return some err
    | none =>
      buildKeeper L "ICAHostKeeper" govModuleAddr
      buildKeeper L "ICAControllerKeeper" govModuleAddr
      configureIBCMiddlewareStacks L ante maxGasWanted signModeHandler
      Wiring.lift L.addClientRoutes
      Wiring.lift (L.registerModules ibcModules)

end Register

/-! ### What each statement does -/

section Specs

variable {σ : Type} (L : RegisterLibrary σ) (ante : AnteLibrary) (maxGasWanted : UInt64)
  (signModeHandler : Option Ref)

@[simp] lemma Wiring.lift_eq_ok {α : Type} {x : EStateM Panic σ α} {w w' : Wiring σ} {a : α} :
    Wiring.lift x w = .ok a w' ↔ ∃ s, x w.lib = .ok a s ∧ { w with lib := s } = w' := by
  unfold Wiring.lift
  cases x w.lib <;> simp [and_assoc]

lemma buildKeeper_eq_ok {keeper authority : String} {w w' : Wiring σ} {u : Unit} :
    buildKeeper L keeper authority w = .ok u w' ↔ ∃ s, L.newKeeper keeper authority w.lib = .ok () s ∧
      { w with keepers := w.keepers ++ [(keeper, authority)], lib := s } = w' := by
  simp only [buildKeeper, EStateM.bind_eq_ok, Unique.exists_iff, Wiring.lift_eq_ok,
    EStateM.modify_apply_eq_ok]
  simp

/-- The wasm store is registered only when the app lacks its key. -/
lemma registerWasmStore_eq_ok {w w' : Wiring σ} {u : Unit} :
    registerWasmStore L w = .ok u w' ↔ ∃ s, (L.hasKey wasmStoreKey w.lib = true ∧ s = w.lib ∨
      L.hasKey wasmStoreKey w.lib = false ∧ L.registerStores [wasmStoreKey] w.lib = .ok none s) ∧
        { w with lib := s } = w' := by
  simp only [registerWasmStore, EStateM.bind_eq_ok, EStateM.get_apply_eq_ok, and_assoc,
    exists_and_left, exists_eq_left]
  cases hk : L.hasKey wasmStoreKey w.lib <;>
    simp only [hk, Bool.false_eq_true, if_true, if_false, EStateM.bind_eq_ok, Option.exists,
      Wiring.lift_eq_ok, EStateM.pure_apply_eq_ok, EStateM.throw_apply_eq_ok] <;> aesop

lemma Wiring.setAnteHandler_eq_ok {wasmConfig : NodeConfig} {w w' : Wiring σ} {r : Option Error} :
    Wiring.setAnteHandler ante maxGasWanted signModeHandler wasmConfig w = .ok r w' ↔
      (∃ err, w.app.setAnteHandler ante maxGasWanted signModeHandler wasmConfig ⟨wasmStoreKey⟩ =
        .ok (.error err) ∧ r = some err ∧ w = w') ∨
      ∃ app, w.app.setAnteHandler ante maxGasWanted signModeHandler wasmConfig ⟨wasmStoreKey⟩ =
        .ok (.ok app) ∧ r = none ∧ { w with app := app } = w' := by
  unfold Wiring.setAnteHandler
  rcases w.app.setAnteHandler ante maxGasWanted signModeHandler wasmConfig ⟨wasmStoreKey⟩ with
    _ | _ | _ <;> simp [eq_comm]

lemma setPostHandler_eq_ok {w w' : Wiring σ} {r : Option Error} :
    setPostHandler L w = .ok r w' ↔ r = L.newPostHandler ∧
      w' = if L.newPostHandler = none then { w with postHandler := true } else w := by
  unfold setPostHandler
  cases L.newPostHandler <;>
    simp only [EStateM.bind_eq_ok, EStateM.pure_apply_eq_ok, EStateM.modify_apply_eq_ok] <;> aesop

/-- **What a successful `registerWasmModules` has done**: it read the node config, installed the
ante handler `setAnteHandler` builds from the app and the defaulted config, built the wasm
keeper, and set the post handler. -/
lemma registerWasmModules_eq_ok_ok {w w' : Wiring σ} {stack : IBCModule}
    (h : registerWasmModules L ante maxGasWanted signModeHandler w = .ok (.ok stack) w') :
    ∃ wasmConfig, L.readNodeConfig = .ok wasmConfig ∧
      w.app.setAnteHandler ante maxGasWanted signModeHandler
        (withDefaultSimulationGasLimit wasmConfig) ⟨wasmStoreKey⟩ = .ok (.ok w'.app) ∧
      w'.keepers = w.keepers ++ [("WasmKeeper", L.govModuleAccAddr)] ∧ w'.postHandler = true := by
  rcases hcfg : L.readNodeConfig with err | cfg
  · simp only [registerWasmModules, hcfg, EStateM.bind_eq_ok, EStateM.pure_apply_eq_ok] at h
    simp at h
  simp only [registerWasmModules, hcfg, EStateM.bind_eq_ok, Option.exists,
    EStateM.pure_apply_eq_ok, buildKeeper_eq_ok, registerWasmStore_eq_ok, Wiring.lift_eq_ok,
    Wiring.setAnteHandler_eq_ok, setPostHandler_eq_ok, Unique.exists_iff] at h
  rcases hm : L.mergedRegistry with _ | err <;> rcases hv : L.validateProtoAnnotations with _ | err' <;>
    simp only [hm, hv, bind_pure_comp, map_pure, EStateM.pure_apply_eq_ok, Except.ok.injEq,
      Option.some.injEq, reduceCtorEq, true_and, false_and, and_false, exists_false, false_or,
      or_false, or_self, exists_eq_left', exists_eq_right_right, exists_exists_and_eq_and] at h
  obtain ⟨-, -, -, -, -, -, app, happ, -, -, ⟨hpost, rfl⟩, -⟩ := h
  exact ⟨cfg, rfl, by simpa [← hpost] using happ, by simp [← hpost], by simp [← hpost]⟩

lemma configureIBCMiddlewareStacks_eq_ok {w w' : Wiring σ} {u : Unit} :
    configureIBCMiddlewareStacks L ante maxGasWanted signModeHandler w = .ok u w' ↔
      ∃ stack w₁, registerWasmModules L ante maxGasWanted signModeHandler w = .ok (.ok stack) w₁ ∧
        { w₁ with router := some ibcRouter, routerV2 := some ibcRouterV2 } = w' := by
  simp only [configureIBCMiddlewareStacks, EStateM.bind_eq_ok]
  constructor
  · rintro ⟨r | stack, w₁, h₁, h⟩
    · exact absurd h (by simp)
    · simp only [EStateM.bind_eq_ok, EStateM.modify_apply_eq_ok] at h
      obtain ⟨_, _, rfl, rfl⟩ := h
      exact ⟨stack, w₁, h₁, rfl⟩
  · rintro ⟨stack, w₁, h₁, rfl⟩
    exact ⟨_, w₁, h₁, by simp [EStateM.bind_eq_ok]⟩

lemma initIBCMiddlewareKeepers_eq_ok {w w' : Wiring σ} {r : Option Error} :
    initIBCMiddlewareKeepers L w = .ok r w' ↔
      (∃ err, L.govModuleAddr.2 = some err ∧ some err = r ∧ w = w') ∨
      L.govModuleAddr.2 = none ∧ ∃ s₁ s₂,
        L.newKeeper "RateLimitKeeper" L.govModuleAddr.1 w.lib = .ok () s₁ ∧
        L.newKeeper "PacketForwardKeeper" L.govModuleAddr.1 s₁ = .ok () s₂ ∧ none = r ∧
        { w with keepers := w.keepers ++ [("RateLimitKeeper", L.govModuleAddr.1)] ++
          [("PacketForwardKeeper", L.govModuleAddr.1)], lib := s₂ } = w' := by
  rcases hg : L.govModuleAddr with ⟨addr, _ | err⟩ <;>
    simp only [initIBCMiddlewareKeepers, hg, EStateM.bind_eq_ok, buildKeeper_eq_ok,
      EStateM.pure_apply_eq_ok, Unique.exists_iff, Option.some.injEq, reduceCtorEq, true_and,
      false_and, exists_false, false_or, or_false, exists_and_left, exists_eq_left',
      exists_exists_and_eq_and, exists_eq_right_right]

/-- A library every call of which returns, with no error. -/
structure RegisterLibrary.Returns (L : RegisterLibrary σ) : Prop where
  registerStores : ∀ keys s, ∃ s', L.registerStores keys s = .ok none s'
  registerSubspaces : ∀ s, ∃ s', L.registerSubspaces s = .ok () s'
  newKeeper : ∀ keeper authority s, ∃ s', L.newKeeper keeper authority s = .ok () s'
  govModuleAddr : L.govModuleAddr.2 = none
  registerModules : ∀ modules s, ∃ s', L.registerModules modules s = .ok none s'
  registerSnapshotExtension : ∀ s, ∃ s', L.registerSnapshotExtension s = .ok none s'
  newPostHandler : L.newPostHandler = none
  mergedRegistry : L.mergedRegistry = none
  validateProtoAnnotations : L.validateProtoAnnotations = none
  addClientRoutes : ∀ s, ∃ s', L.addClientRoutes s = .ok () s'

variable {L}

lemma registerWasmStore_of_returns (hL : L.Returns) (w : Wiring σ) :
    ∃ s, registerWasmStore L w = .ok () { w with lib := s } := by
  obtain ⟨s, hs⟩ := hL.registerStores [wasmStoreKey] w.lib
  cases hk : L.hasKey wasmStoreKey w.lib
  · exact ⟨s, (registerWasmStore_eq_ok L).mpr ⟨s, .inr ⟨hk, hs⟩, rfl⟩⟩
  · exact ⟨w.lib, (registerWasmStore_eq_ok L).mpr ⟨w.lib, .inl ⟨hk, rfl⟩, rfl⟩⟩

lemma registerWasmModules_of_returns (hL : L.Returns) {cfg : NodeConfig}
    (hcfg : L.readNodeConfig = .ok cfg) (w : Wiring σ) {r : Except Error App}
    (hs : w.app.setAnteHandler ante maxGasWanted signModeHandler
      (withDefaultSimulationGasLimit cfg) ⟨wasmStoreKey⟩ = .ok r) :
    ∃ w', registerWasmModules L ante maxGasWanted signModeHandler w =
      .ok (r.map fun _ => .wasm) w' := by
  obtain ⟨s₀, h₀⟩ := registerWasmStore_of_returns hL w
  obtain ⟨s₁, h₁⟩ := hL.newKeeper "WasmKeeper" L.govModuleAccAddr s₀
  obtain ⟨s₂, h₂⟩ := hL.registerModules ["wasm"] s₁
  obtain ⟨s₃, h₃⟩ := hL.registerSnapshotExtension s₂
  rcases r with err | app <;>
    simp [registerWasmModules, buildKeeper, Wiring.setAnteHandler, setPostHandler, hcfg, hs,
      bind, EStateM.bind, Wiring.lift, modify, modifyGet, MonadStateOf.modifyGet, EStateM.modifyGet,
      pure, EStateM.pure, h₀, h₁, h₂, h₃, hL.newPostHandler, hL.mergedRegistry,
      hL.validateProtoAnnotations, Except.map]

/-- With a returning library, `registerIBCModules` runs the statements before
`configureIBCMiddlewareStacks` and goes on from the state they leave: the IBC keeper set on the
app, and the six keepers built with the address the codec returned. -/
lemma registerIBCModules_eq_of_returns (hL : L.Returns) (w : Wiring σ) :
    ∃ s, registerIBCModules L ante maxGasWanted signModeHandler w =
      (do configureIBCMiddlewareStacks L ante maxGasWanted signModeHandler
          Wiring.lift L.addClientRoutes
          Wiring.lift (L.registerModules ibcModules))
        { w with app := { w.app with ibcKeeper := some ⟨"IBCKeeper"⟩ },
                 keepers := w.keepers ++ ibcKeepers.map fun keeper => (keeper, L.govModuleAddr.1),
                 lib := s } := by
  obtain ⟨addr, hg⟩ : ∃ addr, L.govModuleAddr = (addr, none) :=
    ⟨_, Prod.ext rfl hL.govModuleAddr⟩
  obtain ⟨s₁, h₁⟩ := hL.registerStores ibcStoreKeys w.lib
  obtain ⟨s₂, h₂⟩ := hL.registerSubspaces s₁
  obtain ⟨s₃, h₃⟩ := hL.newKeeper "IBCKeeper" addr s₂
  obtain ⟨s₄, h₄⟩ := hL.newKeeper "TransferKeeper" addr s₃
  obtain ⟨s₅, h₅⟩ := hL.newKeeper "RateLimitKeeper" addr s₄
  obtain ⟨s₆, h₆⟩ := hL.newKeeper "PacketForwardKeeper" addr s₅
  obtain ⟨s₇, h₇⟩ := hL.newKeeper "ICAHostKeeper" addr s₆
  obtain ⟨s₈, h₈⟩ := hL.newKeeper "ICAControllerKeeper" addr s₇
  refine ⟨s₈, ?_⟩
  simp [registerIBCModules, initIBCMiddlewareKeepers, buildKeeper, hg, bind, EStateM.bind,
    Wiring.lift, modify, modifyGet, MonadStateOf.modifyGet, EStateM.modifyGet, pure, EStateM.pure,
    h₁, h₂, h₃, h₄, h₅, h₆, h₇, h₈, ibcKeepers]

/-- A wasm registration that returns the stack lets `configureIBCMiddlewareStacks` set the
routers. -/
lemma configureIBCMiddlewareStacks_of_ok {w w₁ : Wiring σ} {stack : IBCModule}
    (h : registerWasmModules L ante maxGasWanted signModeHandler w = .ok (.ok stack) w₁) :
    configureIBCMiddlewareStacks L ante maxGasWanted signModeHandler w =
      .ok () { w₁ with router := some ibcRouter, routerV2 := some ibcRouterV2 } := by
  simp only [configureIBCMiddlewareStacks, EStateM.bind_of_ok h]
  rfl

/-- A wasm registration that returns an error makes `configureIBCMiddlewareStacks` panic. -/
lemma configureIBCMiddlewareStacks_of_error {w w₁ : Wiring σ} {err : Error}
    (h : registerWasmModules L ante maxGasWanted signModeHandler w = .ok (.error err) w₁) :
    configureIBCMiddlewareStacks L ante maxGasWanted signModeHandler w = .error ⟨err.error⟩ w₁ := by
  simp only [configureIBCMiddlewareStacks, EStateM.bind_of_ok h]
  rfl

/-- With a returning library, `setAnteHandler` returns on the app `registerIBCModules` has
built, whose simulation gas limit is defaulted; the registration returns `nil` when it
succeeds, and panics with the text of its error otherwise. -/
lemma registerIBCModules_of_returns (hL : L.Returns) {cfg : NodeConfig}
    (hcfg : L.readNodeConfig = .ok cfg) (w : Wiring σ) :
    ∃ r, { w.app with ibcKeeper := some ⟨"IBCKeeper"⟩ }.setAnteHandler ante maxGasWanted
        signModeHandler (withDefaultSimulationGasLimit cfg) ⟨wasmStoreKey⟩ = .ok r ∧
      match r with
      | .ok _ => ∃ w', registerIBCModules L ante maxGasWanted signModeHandler w = .ok none w'
      | .error err =>
        ∃ w', registerIBCModules L ante maxGasWanted signModeHandler w = .error ⟨err.error⟩ w' := by
  obtain ⟨s, hrun⟩ := registerIBCModules_eq_of_returns ante maxGasWanted signModeHandler hL w
  obtain ⟨r, hante⟩ := setAnteHandler_returns ante { w.app with ibcKeeper := some ⟨"IBCKeeper"⟩ }
    maxGasWanted signModeHandler _ ⟨wasmStoreKey⟩ (withDefaultSimulationGasLimit_ne_zero cfg)
  obtain ⟨w₁, hwasm⟩ := registerWasmModules_of_returns ante maxGasWanted signModeHandler hL hcfg
    { w with app := { w.app with ibcKeeper := some ⟨"IBCKeeper"⟩ },
             keepers := w.keepers ++ ibcKeepers.map fun keeper => (keeper, L.govModuleAddr.1),
             lib := s } hante
  refine ⟨r, hante, ?_⟩
  rcases r with err | app <;> simp only [Except.map] at hwasm
  · exact ⟨w₁, by rw [hrun, EStateM.bind_of_error (configureIBCMiddlewareStacks_of_error ante
      maxGasWanted signModeHandler hwasm)]⟩
  · obtain ⟨s₁, h₁⟩ := hL.addClientRoutes w₁.lib
    obtain ⟨s₂, h₂⟩ := hL.registerModules ibcModules s₁
    refine ⟨{ w₁ with router := some ibcRouter, routerV2 := some ibcRouterV2, lib := s₂ }, ?_⟩
    rw [hrun, EStateM.bind_of_ok (configureIBCMiddlewareStacks_of_ok ante maxGasWanted
      signModeHandler hwasm)]
    simp [EStateM.bind_eq_ok, h₁, h₂]

/-- **How a returning `registerIBCModules` ended**: with the error of its store registration,
with the error of the address codec, or, the codec's error being `nil`, after the wasm
registration on the app with the IBC keeper and the six IBC keepers, the routers, and the
module registration whose result it returns. -/
lemma registerIBCModules_eq_ok {w w' : Wiring σ} {r : Option Error}
    (h : registerIBCModules L ante maxGasWanted signModeHandler w = .ok r w') :
    (∃ e s, L.registerStores ibcStoreKeys w.lib = .ok (some e) s ∧ r = some e) ∨
    (∃ e, L.govModuleAddr.2 = some e ∧ r = some e) ∨
    L.govModuleAddr.2 = none ∧ ∃ s w₁ stack s₁ s₂,
      registerWasmModules L ante maxGasWanted signModeHandler
        { w with app := { w.app with ibcKeeper := some ⟨"IBCKeeper"⟩ },
                 keepers := w.keepers ++ ibcKeepers.map fun keeper => (keeper, L.govModuleAddr.1),
                 lib := s } = .ok (.ok stack) w₁ ∧
      L.registerModules ibcModules s₁ = .ok r s₂ ∧
      w' = { w₁ with router := some ibcRouter, routerV2 := some ibcRouterV2, lib := s₂ } := by
  simp only [registerIBCModules, EStateM.bind_eq_ok, Option.exists, Wiring.lift_eq_ok,
    buildKeeper_eq_ok, EStateM.modify_apply_eq_ok, initIBCMiddlewareKeepers_eq_ok,
    configureIBCMiddlewareStacks_eq_ok, EStateM.pure_apply_eq_ok, Unique.exists_iff,
    PUnit.default_eq_unit, reduceCtorEq, false_and, and_false, exists_false, exists_and_left,
    true_and, false_or, or_false, exists_exists_and_eq_and, Option.some.injEq, exists_eq_left'] at h
  rcases h with ⟨_, -, _, -, _, -, _, -, ⟨_, ⟨hgov, _, -, _, -, rfl⟩, _, -, s, -, _,
      ⟨stack, w₁, hwasm, rfl⟩, _, -, _, hmodules, rfl⟩ | ⟨_, _, ⟨_, hgov, rfl, rfl⟩, rfl, rfl⟩⟩ |
    ⟨_, _, hstores, rfl, rfl⟩
  · refine .inr (.inr ⟨hgov, s, w₁, stack, _, _, ?_, hmodules, rfl⟩)
    simpa [ibcKeepers] using hwasm
  · exact .inr (.inl ⟨_, hgov, rfl⟩)
  · exact .inl ⟨_, _, hstores, rfl⟩

end Specs

/-- A library every call of which returns. -/
def quietRegisterLibrary : RegisterLibrary Unit where
  hasKey _ _ := false
  registerStores _ := pure none
  registerSubspaces := pure ()
  newKeeper _ _ := pure ()
  govModuleAddr := ("gov", none)
  govModuleAccAddr := "gov"
  readNodeConfig := .ok ⟨none⟩
  registerModules _ := pure none
  registerSnapshotExtension := pure none
  newPostHandler := none
  mergedRegistry := none
  validateProtoAnnotations := none
  addClientRoutes := pure ()

lemma quietRegisterLibrary_returns : quietRegisterLibrary.Returns :=
  ⟨fun _ _ => ⟨(), rfl⟩, fun _ => ⟨(), rfl⟩, fun _ _ _ => ⟨(), rfl⟩, rfl, fun _ _ => ⟨(), rfl⟩,
    fun _ => ⟨(), rfl⟩, rfl, rfl, rfl, fun _ => ⟨(), rfl⟩⟩

/-- The application before registration: every keeper `setAnteHandler` reads is set but the IBC
keeper, which `registerIBCModules` creates. -/
def unregisteredWiring : Wiring Unit :=
  ⟨{ sampleApp with ibcKeeper := none }, [], none, none, false, ()⟩

/-! ### What registration guarantees -/

section Results

variable {σ : Type} (L : RegisterLibrary σ) (ante : AnteLibrary) (maxGasWanted : UInt64)
  (signModeHandler : Option Ref)

/-- **A successful registration wires the routers and the ante handler.** When
`registerIBCModules` returns `nil`, the IBC keeper holds the classic and v2 routers of
`Kudora.App.Ibc`, the post handler is set, and the app's ante handler is the one
`setAnteHandler` builds from the app with the IBC keeper just created and from the node config
with its simulation gas limit defaulted. Every keeper of the IBC modules was built with the
address the codec returned, and that address came without an error, although
`registerIBCModules` discards the error itself.

**Proof sketch.** By `registerIBCModules_eq_ok` the run went through every statement, the
codec's error being `nil`; `registerWasmModules_eq_ok_ok` describes the wasm registration, after
which `configureIBCMiddlewareStacks` sets the routers. -/
theorem registerIBCModules_ok {w w' : Wiring σ}
    (h : registerIBCModules L ante maxGasWanted signModeHandler w = .ok none w') :
    w'.router = some ibcRouter ∧ w'.routerV2 = some ibcRouterV2 ∧ w'.postHandler = true ∧
      L.govModuleAddr.2 = none ∧
      w'.keepers = w.keepers ++ ibcKeepers.map (fun keeper => (keeper, L.govModuleAddr.1)) ++
        [("WasmKeeper", L.govModuleAccAddr)] ∧
      ∃ wasmConfig, L.readNodeConfig = .ok wasmConfig ∧
        { w.app with ibcKeeper := some ⟨"IBCKeeper"⟩ }.setAnteHandler ante maxGasWanted
          signModeHandler (withDefaultSimulationGasLimit wasmConfig) ⟨wasmStoreKey⟩ =
            .ok (.ok w'.app) := by
  rcases registerIBCModules_eq_ok ante maxGasWanted signModeHandler h with
    ⟨_, _, _, ⟨⟩⟩ | ⟨_, _, ⟨⟩⟩ | ⟨hgov, _, _, _, _, _, hwasm, -, rfl⟩
  obtain ⟨wasmConfig, hcfg, hante, hkeepers, hpost⟩ :=
    registerWasmModules_eq_ok_ok L ante maxGasWanted signModeHandler hwasm
  exact ⟨rfl, rfl, hpost, hgov, hkeepers, wasmConfig, hcfg, hante⟩

theorem registerIBCModules_ok_quiet :
    ∃ w', registerIBCModules quietRegisterLibrary .passing 0 (some ⟨"SignModeHandler"⟩)
        unregisteredWiring = .ok none w' ∧
      w'.router = some ibcRouter ∧ w'.routerV2 = some ibcRouterV2 ∧ w'.postHandler = true ∧
      quietRegisterLibrary.govModuleAddr.2 = none ∧
      w'.keepers = unregisteredWiring.keepers ++
        ibcKeepers.map (fun keeper => (keeper, quietRegisterLibrary.govModuleAddr.1)) ++
          [("WasmKeeper", quietRegisterLibrary.govModuleAccAddr)] ∧
      ∃ wasmConfig, quietRegisterLibrary.readNodeConfig = .ok wasmConfig ∧
        { unregisteredWiring.app with ibcKeeper := some ⟨"IBCKeeper"⟩ }.setAnteHandler .passing 0
          (some ⟨"SignModeHandler"⟩) (withDefaultSimulationGasLimit wasmConfig) ⟨wasmStoreKey⟩ =
            .ok (.ok w'.app) :=
  ⟨_, rfl, registerIBCModules_ok quietRegisterLibrary .passing 0 (some ⟨"SignModeHandler"⟩) rfl⟩

/-- **Wasm and ante handler failures never come back as errors.** Every error
`registerIBCModules` returns is the error of its store registration, of the address codec
(through `initIBCMiddlewareKeepers`) or of its module registration. An error of
`registerWasmModules`, that of `setAnteHandler` among them, reaches
`configureIBCMiddlewareStacks`, which has no error result and panics with it. -/
theorem registerIBCModules_error {w w' : Wiring σ} {e : Error}
    (h : registerIBCModules L ante maxGasWanted signModeHandler w = .ok (some e) w') :
    (∃ s, L.registerStores ibcStoreKeys w.lib = .ok (some e) s) ∨ L.govModuleAddr.2 = some e ∨
      ∃ s s', L.registerModules ibcModules s = .ok (some e) s' := by
  rcases registerIBCModules_eq_ok ante maxGasWanted signModeHandler h with
    ⟨_, _, hstores, ⟨⟩⟩ | ⟨_, hgov, ⟨⟩⟩ | ⟨-, -, -, -, _, _, -, hmodules, -⟩
  exacts [.inl ⟨_, hstores⟩, .inr (.inl hgov), .inr (.inr ⟨_, _, hmodules⟩)]

/-- A library whose address codec fails. -/
def badAddressRegisterLibrary : RegisterLibrary Unit :=
  { quietRegisterLibrary with govModuleAddr := ("", some (.plain "invalid address")) }

/-- The address codec's error, discarded by `registerIBCModules`, comes back through
`initIBCMiddlewareKeepers`. -/
theorem registerIBCModules_error_bad_address :
    ∃ w', registerIBCModules badAddressRegisterLibrary .passing 0 (some ⟨"SignModeHandler"⟩)
        unregisteredWiring = .ok (some (.plain "invalid address")) w' ∧
      ((∃ s, badAddressRegisterLibrary.registerStores ibcStoreKeys unregisteredWiring.lib =
          .ok (some (.plain "invalid address")) s) ∨
        badAddressRegisterLibrary.govModuleAddr.2 = some (.plain "invalid address") ∨
        ∃ s s', badAddressRegisterLibrary.registerModules ibcModules s =
          .ok (some (.plain "invalid address")) s') :=
  ⟨_, rfl, registerIBCModules_error badAddressRegisterLibrary .passing 0 (some ⟨"SignModeHandler"⟩)
    rfl⟩

/-- **The ante handler options decide whether the node starts.** When every library call
returns, `registerIBCModules` returns `nil` exactly when the sign mode handler, the codec and the
EVM keeper are set: the IBC keeper, the fourth option `setAnteHandler` may find unset, is the one
`registerIBCModules` has just created. Otherwise `setAnteHandler` fails, and the registration
panics with the text of its error.

**Proof sketch.** `registerIBCModules_of_returns` runs the registration up to the result of
`setAnteHandler`, which returns on the defaulted node config; `setAnteHandler_eq_ok_iff` says
when it succeeds. -/
theorem registerIBCModules_returns_iff (hL : L.Returns) {cfg : NodeConfig}
    (hcfg : L.readNodeConfig = .ok cfg) (w : Wiring σ) :
    ((∃ w', registerIBCModules L ante maxGasWanted signModeHandler w = .ok none w') ↔
      signModeHandler.isSome ∧ w.app.appCodec.isSome ∧ w.app.evmKeeper.isSome) ∧
    ∀ err, { w.app with ibcKeeper := some ⟨"IBCKeeper"⟩ }.setAnteHandler ante maxGasWanted
        signModeHandler (withDefaultSimulationGasLimit cfg) ⟨wasmStoreKey⟩ = .ok (.error err) →
      ∃ w', registerIBCModules L ante maxGasWanted signModeHandler w = .error ⟨err.error⟩ w' := by
  obtain ⟨r, hante, hrun⟩ :=
    registerIBCModules_of_returns ante maxGasWanted signModeHandler hL hcfg w
  refine ⟨⟨fun ⟨w', hw'⟩ => ?_, fun hset => ?_⟩, fun err herr => ?_⟩
  · rcases r with err | app
    · obtain ⟨w'', hw''⟩ := hrun
      cases hw'.symm.trans hw''
    · obtain ⟨⟨h₁, h₂, h₃, -⟩, -⟩ :=
        (setAnteHandler_eq_ok_iff ante _ maxGasWanted signModeHandler _ _ app).mp hante
      exact ⟨h₁, h₂, h₃⟩
  · have hok := (setAnteHandler_eq_ok_iff ante { w.app with ibcKeeper := some ⟨"IBCKeeper"⟩ }
      maxGasWanted signModeHandler (withDefaultSimulationGasLimit cfg) ⟨wasmStoreKey⟩ _).mpr
        ⟨⟨hset.1, hset.2.1, hset.2.2, rfl⟩, withDefaultSimulationGasLimit_ne_zero cfg, rfl⟩
    cases hok.symm.trans hante
    exact hrun
  · cases herr.symm.trans hante
    exact hrun

/-- With every library call returning, the registration of an app without its IBC keeper
returns with a sign mode handler and panics without one. -/
theorem registerIBCModules_returns_iff_quiet :
    quietRegisterLibrary.Returns ∧ quietRegisterLibrary.readNodeConfig = .ok ⟨none⟩ ∧
      ((∃ w', registerIBCModules quietRegisterLibrary .passing 0 none unregisteredWiring =
          .ok none w') ↔
        (none : Option Ref).isSome ∧ unregisteredWiring.app.appCodec.isSome ∧
          unregisteredWiring.app.evmKeeper.isSome) ∧
      ∀ err, { unregisteredWiring.app with ibcKeeper := some ⟨"IBCKeeper"⟩ }.setAnteHandler
          .passing 0 none (withDefaultSimulationGasLimit ⟨none⟩) ⟨wasmStoreKey⟩ =
            .ok (.error err) →
        ∃ w', registerIBCModules quietRegisterLibrary .passing 0 none unregisteredWiring =
          .error ⟨err.error⟩ w' :=
  ⟨quietRegisterLibrary_returns, rfl,
    registerIBCModules_returns_iff quietRegisterLibrary .passing 0 none quietRegisterLibrary_returns rfl
      unregisteredWiring⟩

end Results

end Kudora.App
