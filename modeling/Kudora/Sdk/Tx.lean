import Kudora.Go.Runtime

set_option autoImplicit false

/-!
# Transactions, messages and execution contexts

The data the ante pipeline reads: the execution context a decorator receives and passes on,
and the transaction with its messages and extension options. Only what a modelled function
reads is kept. A library decorator that the model does not define (fee deduction, signature
checks, ...) is an arbitrary function of the whole context and transaction, so leaving out
the fields only such decorators read loses nothing of the theorems about the chains.

## Main definitions

* `Kudora.Sdk.Context` — `sdk.Context`: gas meter, chain id, height, execution mode, store.
* `Kudora.Sdk.Msg` — the messages the decorators tell apart: `authz.MsgExec`,
  `authz.MsgGrant`, `evmtypes.MsgEthereumTx`, and every other message by its type URL.
* `Kudora.Sdk.Tx` — the messages and, when the transaction implements
  `HasExtensionOptionsTx`, its extension options.
* The registered SDK errors the pipeline returns: `errUnauthorized`, `errInvalidType`,
  `errUnknownExtensionOptions`.
-/

namespace Kudora.Sdk

/-- `sdk.Context`, as far as the pipeline's contract speaks of it: the chain id, the block
height, the execution mode (`CheckTx`, `ReCheckTx`, or block execution when both are
false), the gas consumed on the gas meter, and the key-value store the decorators write. -/
structure Context where
  chainID : String
  blockHeight : Nat
  isCheckTx : Bool
  isReCheckTx : Bool
  gasConsumed : Nat
  store : List (String × String)
deriving DecidableEq, Repr

/-- `common.Hash`: the hash of an Ethereum transaction. -/
structure Hash where
  bytes : List UInt8
deriving DecidableEq, Repr

/-- `codectypes.Any`, an extension option: its type URL. The packed value is read by no
modelled function. -/
structure Any where
  typeUrl : String
deriving DecidableEq, Repr

/-- A transaction message, as the ante decorators tell messages apart. -/
inductive Msg where
  /-- `authz.MsgExec`, with the messages it executes. -/
  | exec (msgs : List Msg)
  /-- `authz.MsgGrant`, with the `MsgTypeURL()` of the authorization it grants. -/
  | grant (authorizationMsgTypeURL : String)
  /-- `evmtypes.MsgEthereumTx`, with its hash. -/
  | ethereumTx (hash : Hash)
  /-- Any other message, by its type URL. -/
  | other (typeURL : String)

/-- `sdk.MsgTypeURL` of `MsgEthereumTx`. -/
def msgEthereumTxTypeURL : String := "/cosmos.evm.vm.v1.MsgEthereumTx"

/-- `sdk.MsgTypeURL` of the vesting module's `MsgCreateVestingAccount`. -/
def msgCreateVestingAccountTypeURL : String := "/cosmos.vesting.v1beta1.MsgCreateVestingAccount"

/-- `sdk.MsgTypeURL(msg)`. -/
def Msg.typeURL : Msg → String
  | exec _ => "/cosmos.authz.v1beta1.MsgExec"
  | grant _ => "/cosmos.authz.v1beta1.MsgGrant"
  | ethereumTx _ => msgEthereumTxTypeURL
  | other url => url

/-- The type assertion `msg.(*evmtypes.MsgEthereumTx)`. -/
def Msg.isEthereumTx : Msg → Bool
  | ethereumTx _ => true
  | _ => false

/-- The type URL of `ExtensionOptionsEthereumTx`, the option of an Ethereum transaction. -/
def ethereumTxExtensionTypeURL : String := "/cosmos.evm.vm.v1.ExtensionOptionsEthereumTx"

/-- The type URL of `ExtensionOptionDynamicFeeTx`, the option of a dynamic-fee Cosmos
transaction. -/
def dynamicFeeTxExtensionTypeURL : String := "/cosmos.evm.types.v1.ExtensionOptionDynamicFeeTx"

/-- A transaction: its messages, and its extension options when it implements
`authante.HasExtensionOptionsTx` (`none` when it does not). -/
structure Tx where
  msgs : List Msg
  extensionOptions : Option (List Any)

/-- The type URL of the first extension option, when the transaction implements
`HasExtensionOptionsTx` and carries at least one. -/
def Tx.firstExtensionTypeURL (tx : Tx) : Option String :=
  tx.extensionOptions.bind fun opts => opts.head?.map Any.typeUrl

/-- `errortypes.ErrUnauthorized`. -/
def errUnauthorized : Error := .registered "sdk" 4 "unauthorized"

/-- `errortypes.ErrInvalidType`. -/
def errInvalidType : Error := .registered "sdk" 29 "invalid type"

/-- `errortypes.ErrUnknownExtensionOptions`. -/
def errUnknownExtensionOptions : Error := .registered "sdk" 31 "unknown extension options"

end Kudora.Sdk
