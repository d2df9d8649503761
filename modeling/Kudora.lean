import Kudora.Go.Unicode
import Kudora.Go.Runtime
import Kudora.Go.Strings
import Kudora.Sdk.Tx
import Kudora.Sdk.Chain
import Kudora.Ante.Decorators
import Kudora.Ante.Handler
import Kudora.App.AnteHandler
import Kudora.App.SetAnteHandler
import Kudora.App.ChainId
import Kudora.App.EvmInit
import Kudora.App.EvmOnce
import Kudora.App.Ibc
import Kudora.App.Register
import Kudora.App.TokenFactory
import Kudora.App.Init
