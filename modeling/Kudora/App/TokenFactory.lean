import Kudora.App.Register

set_option autoImplicit false

/-!
# Registering the token factory: the address codec is checked before the keeper is built

`registerTokenFactoryModule` registers the token factory's store and its legacy parameter
subspace, asks the address codec for the governance module's address, builds the keeper with
that address as its authority, and registers the module; it returns the first error. The
codec's error is returned before the keeper is built, where `registerIBCModules` discards it
and builds the IBC and transfer keepers with whatever address came back.

## Main definitions

* `Kudora.App.TokenFactoryLibrary` — the calls of `Kudora.App.RegisterLibrary` and
  `app.ParamsKeeper.Subspace`.
* `Kudora.App.registerTokenFactoryModule` — the function of the source.

## Main results

* `Kudora.App.registerModules_codecError` — when the address codec alone fails, both
  registrations return its error, `registerIBCModules` having built the IBC and transfer
  keepers with the address the codec returned with it, `registerTokenFactoryModule` having
  built none.

## Design

The capabilities the keeper is given are not recorded: no modelled function reads them. A run
is read through one `_eq_ok` lemma, as in `Kudora.App.Register`; from it,
`registerTokenFactoryModule_keepers` says what a returning registration leaves and
`registerTokenFactoryModule_of_returns` runs it with a library whose calls return.
-/

namespace Kudora.App

open Ante

/-- The calls of `registerTokenFactoryModule`: those of the IBC registration, and
`app.ParamsKeeper.Subspace(name)`. -/
structure TokenFactoryLibrary (σ : Type) extends RegisterLibrary σ where
  /-- `app.ParamsKeeper.Subspace(name)`. -/
  subspace : String → EStateM Panic σ Unit

/-- A library every call of which returns, with no error. -/
structure TokenFactoryLibrary.Returns {σ : Type} (L : TokenFactoryLibrary σ)
    extends L.toRegisterLibrary.Returns : Prop where
  subspace : ∀ name s, ∃ s', L.subspace name s = .ok () s'

/-- `tokenfactorytypes.StoreKey`. -/
def tokenFactoryStoreKey : String := "tokenfactorytypes.StoreKey"

section TokenFactory

variable {σ : Type} (L : TokenFactoryLibrary σ)

/-- `app.registerTokenFactoryModule(appOpts)`. -/
def registerTokenFactoryModule : EStateM Panic (Wiring σ) (Option Error) := do
  if let some err ← Wiring.lift (L.registerStores [tokenFactoryStoreKey]) then
    return some err
  Wiring.lift (L.subspace "tokenfactorytypes.ModuleName")
  match L.govModuleAddr with
  | (_, some err) => return some err
  | (govModuleAddr, none) =>
    buildKeeper L.toRegisterLibrary "TokenFactoryKeeper" govModuleAddr
    Wiring.lift (L.registerModules ["tokenfactory"])

/-- **What a returning `registerTokenFactoryModule` has done**: it registered the store and the
subspace and then stopped at the codec's error or built the keeper and returned the result of
the module registration, or it stopped at the error of the store registration. -/
lemma registerTokenFactoryModule_eq_ok {w w' : Wiring σ} {r : Option Error} :
    registerTokenFactoryModule L w = .ok r w' ↔
      (∃ s₁ s₂, L.registerStores [tokenFactoryStoreKey] w.lib = .ok none s₁ ∧
        L.subspace "tokenfactorytypes.ModuleName" s₁ = .ok () s₂ ∧
        ((∃ err, L.govModuleAddr.2 = some err ∧ some err = r ∧ { w with lib := s₂ } = w') ∨
          L.govModuleAddr.2 = none ∧ ∃ s₃ s₄,
            L.newKeeper "TokenFactoryKeeper" L.govModuleAddr.1 s₂ = .ok () s₃ ∧
            L.registerModules ["tokenfactory"] s₃ = .ok r s₄ ∧
            { w with keepers := w.keepers ++ [("TokenFactoryKeeper", L.govModuleAddr.1)],
                     lib := s₄ } = w')) ∨
      ∃ err s, L.registerStores [tokenFactoryStoreKey] w.lib = .ok (some err) s ∧
        some err = r ∧ { w with lib := s } = w' := by
  rcases hg : L.govModuleAddr with ⟨addr, _ | err⟩ <;>
    simp only [registerTokenFactoryModule, hg, EStateM.bind_eq_ok, Option.exists,
      Wiring.lift_eq_ok, buildKeeper_eq_ok, EStateM.pure_apply_eq_ok, Unique.exists_iff,
      PUnit.default_eq_unit, Option.some.injEq, reduceCtorEq, true_and, false_and, exists_false,
      false_or, or_false, exists_and_left, exists_eq_left, exists_eq_left',
      exists_exists_and_eq_and, exists_eq_right_right]

/-- **The token factory keeper is built with a checked address, or nothing changes.** A
registration that returns either has left the application as it was but for the libraries'
state, and returns an error, or has built the token factory keeper, and no other, with the
address the codec returned without an error. -/
lemma registerTokenFactoryModule_keepers {w w' : Wiring σ} {r : Option Error}
    (h : registerTokenFactoryModule L w = .ok r w') :
    (r.isSome ∧ { w' with lib := w.lib } = w) ∨
      L.govModuleAddr.2 = none ∧ { w' with lib := w.lib } =
        { w with keepers := w.keepers ++ [("TokenFactoryKeeper", L.govModuleAddr.1)] } := by
  rcases (registerTokenFactoryModule_eq_ok L).mp h with
    ⟨_, _, -, -, ⟨_, -, rfl, rfl⟩ | ⟨hgov, _, _, -, -, rfl⟩⟩ | ⟨_, _, -, rfl, rfl⟩
  exacts [.inl ⟨rfl, rfl⟩, .inr ⟨hgov, rfl⟩, .inl ⟨rfl, rfl⟩]

/-- **With a returning library the token factory is registered.** -/
lemma registerTokenFactoryModule_of_returns (hL : L.Returns) (w : Wiring σ) :
    ∃ s, registerTokenFactoryModule L w = .ok none
      { w with keepers := w.keepers ++ [("TokenFactoryKeeper", L.govModuleAddr.1)], lib := s } := by
  obtain ⟨s₁, h₁⟩ := hL.registerStores [tokenFactoryStoreKey] w.lib
  obtain ⟨s₂, h₂⟩ := hL.subspace "tokenfactorytypes.ModuleName" s₁
  obtain ⟨s₃, h₃⟩ := hL.newKeeper "TokenFactoryKeeper" L.govModuleAddr.1 s₂
  obtain ⟨s₄, h₄⟩ := hL.registerModules ["tokenfactory"] s₃
  exact ⟨s₄, (registerTokenFactoryModule_eq_ok L).mpr
    (.inl ⟨s₁, s₂, h₁, h₂, .inr ⟨hL.govModuleAddr, s₃, s₄, h₃, h₄, rfl⟩⟩)⟩

end TokenFactory

/-- A library every call of which returns. -/
def quietTokenFactoryLibrary : TokenFactoryLibrary Unit :=
  { quietRegisterLibrary with subspace := fun _ => pure () }

lemma quietTokenFactoryLibrary_returns : quietTokenFactoryLibrary.Returns :=
  { quietRegisterLibrary_returns with subspace := fun _ _ => ⟨(), rfl⟩ }

/-! ### The two registrations on a failing address codec -/

section CodecError

variable {σ : Type} (L : TokenFactoryLibrary σ) (ante : AnteLibrary) (maxGasWanted : UInt64)
  (signModeHandler : Option Ref)

/-- **Only `registerIBCModules` builds keepers with an address the codec failed on.** When every
library call returns but the address codec, which returns `addr` with the error `err`, both
registrations return `err`. `registerIBCModules`, which discards the codec's error, has by then
created the IBC keeper and built it and the transfer keeper with `addr`, before
`initIBCMiddlewareKeepers` converts the address again and returns the error;
`registerTokenFactoryModule` has built nothing. -/
theorem registerModules_codecError (hL : L.Returns) (addr : String) (err : Error)
    (w : Wiring σ) :
    (∃ s, registerIBCModules { L.toRegisterLibrary with govModuleAddr := (addr, some err) } ante
        maxGasWanted signModeHandler w = .ok (some err)
        { w with app := { w.app with ibcKeeper := some ⟨"IBCKeeper"⟩ },
                 keepers := w.keepers ++ [("IBCKeeper", addr), ("TransferKeeper", addr)],
                 lib := s }) ∧
      ∃ s, registerTokenFactoryModule { L with govModuleAddr := (addr, some err) } w =
        .ok (some err) { w with lib := s } := by
  obtain ⟨s₁, h₁⟩ := hL.registerStores ibcStoreKeys w.lib
  obtain ⟨s₂, h₂⟩ := hL.registerSubspaces s₁
  obtain ⟨s₃, h₃⟩ := hL.newKeeper "IBCKeeper" addr s₂
  obtain ⟨s₄, h₄⟩ := hL.newKeeper "TransferKeeper" addr s₃
  obtain ⟨t₁, g₁⟩ := hL.registerStores [tokenFactoryStoreKey] w.lib
  obtain ⟨t₂, g₂⟩ := hL.subspace "tokenfactorytypes.ModuleName" t₁
  refine ⟨⟨s₄, ?_⟩, t₂, (registerTokenFactoryModule_eq_ok _).mpr
    (.inl ⟨t₁, t₂, g₁, g₂, .inl ⟨err, rfl, rfl, rfl⟩⟩)⟩
  simp [registerIBCModules, initIBCMiddlewareKeepers, buildKeeper, bind, EStateM.bind,
    Wiring.lift, modify, modifyGet, MonadStateOf.modifyGet, EStateM.modifyGet, pure, EStateM.pure,
    h₁, h₂, h₃, h₄]

end CodecError

theorem registerModules_codecError_quiet :
    (∃ s, registerIBCModules { quietTokenFactoryLibrary.toRegisterLibrary with
        govModuleAddr := ("", some (.plain "invalid address")) } .passing 0
        (some ⟨"SignModeHandler"⟩) unregisteredWiring = .ok (some (.plain "invalid address"))
        { unregisteredWiring with
          app := { unregisteredWiring.app with ibcKeeper := some ⟨"IBCKeeper"⟩ },
          keepers := unregisteredWiring.keepers ++ [("IBCKeeper", ""), ("TransferKeeper", "")],
          lib := s }) ∧
      ∃ s, registerTokenFactoryModule { quietTokenFactoryLibrary with
        govModuleAddr := ("", some (.plain "invalid address")) } unregisteredWiring =
        .ok (some (.plain "invalid address")) { unregisteredWiring with lib := s } :=
  registerModules_codecError quietTokenFactoryLibrary .passing 0 (some ⟨"SignModeHandler"⟩)
    quietTokenFactoryLibrary_returns "" (.plain "invalid address") unregisteredWiring

end Kudora.App
