import Kudora.Go.Runtime

set_option autoImplicit false

/-!
# The IBC transfer stacks and the rate limiter

`configureIBCMiddlewareStacks` stacks the classic (v1) transfer application under packet
forwarding, rate limiting and ERC20 conversion, and routes the transfer port to it; the IBC v2
router sends the transfer port to the v2 transfer application under ERC20 conversion alone.
`registerIBCModules` gives the transfer keeper the channel keeper as its ICS4 wrapper, the
component through which it sends packets, and `initIBCMiddlewareKeepers` builds the rate-limit
keeper with a `nil` ICS4 wrapper.

## Main definitions

* `Kudora.App.IbcEnv` — what the keepers decide, packet by packet.
* `Kudora.App.ICS4Wrapper`, `Kudora.App.ICS4Wrapper.sendPacket`,
  `Kudora.App.transferKeeperTransfer` — the send side.
* `Kudora.App.IBCModule`, `Kudora.App.IBCModule.onRecvPacket` — the applications and
  middlewares of the stacks, and what each does with a received packet.
* `Kudora.App.transferStack`, `Kudora.App.transferStackV2`, `Kudora.App.ibcRouter`,
  `Kudora.App.ibcRouterV2`, `Kudora.App.recvPacket` — the stacks and routers of the source.
* `Kudora.App.RecvCheckedBefore`, `Kudora.App.Precedes` — order conditions on the effects of a
  received packet; `Kudora.App.CheckedRun`, `Kudora.App.CreditedRun` — what the rate-limited
  stacks and the stacks over the transfer applications guarantee of one packet.

## Main results

* `Kudora.App.transferKeeperTransfer_overLimit` — the transfer keeper commits a transfer the
  rate limiter refuses; the rate-limit keeper would refuse it, and as it is built it panics on
  every send.
* `Kudora.App.onRecvPacket_returns` — receiving never panics.
* `Kudora.App.recvCheckedBefore_of_rateLimited` — a stack whose every way down passes a
  rate-limit middleware checks every packet before it moves tokens, for every behaviour of
  the keepers.
* `Kudora.App.recvPacket_transfer_rateLimited` — every packet the classic router delivers to
  the transfer port is checked by the rate limiter before any tokens are credited or
  forwarded; `Kudora.App.recvPacketV2_overLimit` — the v2 router credits a packet the rate
  limiter refuses.
* `Kudora.App.credit_precedes_erc20` — on every stack over the transfer applications, the
  ERC20 keeper is called only after the transfer application credited the packet.

## Design

The applications, middlewares and keepers are library code. What the model takes from each is
the order of its calls, as its `OnRecvPacket` or `SendPacket` makes them: the rate-limit
middleware evaluates `ReceiveRateLimitedPacket` and calls the application below only if it
passes; packet forwarding calls the application below (with its own receiver) and forwards
through `TransferKeeper.Transfer` only after a successful acknowledgement; the ERC20 middleware
calls the application below first, returns at once on an error acknowledgement, and otherwise
calls its keeper. The rate-limit keeper's `SendPacket` sends through its own ICS4 wrapper and
then evaluates `SendRateLimitedPacket`, whose error reverts the send. Every decision these
components make is an arbitrary function of the packet, a field of `IbcEnv`, so the results
hold for every behaviour of the keepers and every state of the chain.

Each middleware has one equation saying what it does with the result of the module below
(`onRecvPacket_rateLimit`, `onRecvPacket_packetForward`, `onRecvPacket_erc20`); the
inductions over the stacks cite them, one case per module.

What this does not model: the interchain-account and wasm stacks, whose receive side is an
arbitrary function here, and the amounts of the flows, which the rate limiter counts and
which play no part in the order of the calls.
-/

namespace Kudora.App

/-- A packet, as the router and the stacks tell packets apart: its destination port and its
data. -/
structure Packet where
  destinationPort : String
  data : String
deriving DecidableEq, Repr

/-- What packet handling does, in the order it happens. -/
inductive Effect where
  /-- `ReceiveRateLimitedPacket` was evaluated, and passed or not. -/
  | recvRateLimitCheck (passed : Bool)
  /-- `SendRateLimitedPacket` was evaluated, and passed or not. -/
  | sendRateLimitCheck (passed : Bool)
  /-- The transfer application credited the packet's tokens (mint or unescrow). -/
  | credit
  /-- Packet forwarding sent the tokens on to the next hop. -/
  | forward
  /-- The channel keeper committed an outgoing packet. -/
  | commit
  /-- The ERC20 middleware called its keeper's `OnRecvPacket`. -/
  | erc20OnRecvPacket
  /-- Something another component did. -/
  | other (what : String)
deriving DecidableEq, Repr

/-- The effects that move tokens. -/
def Effect.movesTokens : Effect → Bool
  | .credit | .forward | .commit => true
  | _ => false

/-- An acknowledgement as a stack returns it: written now, successful or an error, or `nil`,
which packet forwarding returns for a forwarded packet. -/
inductive Ack where
  | success
  | error
  | async
deriving DecidableEq, Repr

/-- What packet forwarding reads from a packet's memo: no `forward` entry (or no ICS-20 data),
a `forward` entry that fails to decode or validate, or a valid one. -/
inductive ForwardMetadata where
  | none
  | invalid
  | forward
deriving DecidableEq, Repr

/-- The behaviour of the keepers and of the state of the chain, packet by packet. -/
structure IbcEnv where
  /-- `ReceiveRateLimitedPacket` passes. -/
  rateLimitRecv : Packet → Bool
  /-- `SendRateLimitedPacket` passes. -/
  rateLimitSend : Packet → Bool
  /-- `ChannelKeeper.SendPacket` accepts the packet: the channel is open, its client active and
  the timeout ahead. -/
  channelSend : Packet → Bool
  /-- What packet forwarding reads from the memo. -/
  forwardMetadata : Packet → ForwardMetadata
  /-- The packet packet forwarding sends to the next hop. -/
  forwardPacket : Packet → Packet
  /-- The transfer application accepts the packet and credits its tokens. -/
  transferRecv : Packet → Bool
  /-- What the ERC20 keeper does after a non-error acknowledgement. -/
  erc20Recv : Packet → Ack → Ack × List Effect
  /-- What the interchain-account and wasm stacks do. -/
  otherRecv : Packet → Ack × List Effect

/-! ### The send side -/

/-- `ChannelKeeper.SendPacket`: the packet is committed if the channel keeper accepts it, and
refused otherwise. -/
def channelKeeperSendPacket (env : IbcEnv) (p : Packet) : Bool × List Effect :=
  if env.channelSend p then (true, [.commit]) else (false, [])

/-- An ICS4 wrapper, through which a keeper sends packets. -/
inductive ICS4Wrapper where
  /-- A `nil` interface value. -/
  | nil
  /-- `app.IBCKeeper.ChannelKeeper`. -/
  | channelKeeper
  /-- A rate-limit keeper, with the ICS4 wrapper it was built with. -/
  | rateLimitKeeper (ics4Wrapper : ICS4Wrapper)
deriving DecidableEq, Repr

/-- `SendPacket` through an ICS4 wrapper: whether the packet was sent, and the effects. A call
on `nil` panics. The rate-limit keeper sends through its own wrapper first and then evaluates
`SendRateLimitedPacket`, whose error reverts the send. -/
def ICS4Wrapper.sendPacket (env : IbcEnv) : ICS4Wrapper → Packet → Call (Bool × List Effect)
  | .nil, _ => .error nilDereference
  | .channelKeeper, p => .ok (channelKeeperSendPacket env p)
  | .rateLimitKeeper ics4Wrapper, p => do
    let (sent, es) ← ics4Wrapper.sendPacket env p
    if !sent then return (false, es)
    if env.rateLimitSend p then return (true, es ++ [.sendRateLimitCheck true])
    else return (false, [.sendRateLimitCheck false])

/-- The ICS4 wrapper `registerIBCModules` gives the transfer keeper:
`app.IBCKeeper.ChannelKeeper`. -/
def transferKeeperICS4Wrapper : ICS4Wrapper := .channelKeeper

/-- The ICS4 wrapper `initIBCMiddlewareKeepers` gives the rate-limit keeper: the last argument
of `ratelimitkeeper.NewKeeper`, `nil`. -/
def rateLimitKeeperICS4Wrapper : ICS4Wrapper := .nil

/-- `TransferKeeper.Transfer`: the tokens are escrowed or burnt and the packet is sent through
the keeper's ICS4 wrapper. A user's `MsgTransfer`, a forwarding hop and a wasm contract's
transfer all reach the channel this way. -/
def transferKeeperTransfer (env : IbcEnv) (p : Packet) : Call (Bool × List Effect) :=
  transferKeeperICS4Wrapper.sendPacket env p

/-- A transfer returns, with what the channel keeper decides. -/
lemma transferKeeperTransfer_eq (env : IbcEnv) (p : Packet) :
    transferKeeperTransfer env p = .ok (channelKeeperSendPacket env p) :=
  rfl

/-- The keepers in which every check passes, the channel keeper accepts every packet and the
transfer application accepts every packet. -/
def acceptingEnv : IbcEnv where
  rateLimitRecv := fun _ => true
  rateLimitSend := fun _ => true
  channelSend := fun _ => true
  forwardMetadata := fun _ => .none
  forwardPacket := id
  transferRecv := fun _ => true
  erc20Recv := fun _ ack => (ack, [])
  otherRecv := fun _ => (.success, [])

/-- The keepers of `acceptingEnv`, but for a rate limiter that refuses every send. -/
def overLimitEnv : IbcEnv := { acceptingEnv with rateLimitSend := fun _ => false }

/-- An ICS-20 packet on the transfer port. -/
def transferPacket : Packet := ⟨"transfer", "ics20"⟩

/-- **Outgoing transfers bypass the rate limiter.** With keepers in which the channel accepts
a transfer packet and `SendRateLimitedPacket` refuses it, `TransferKeeper.Transfer` commits the
packet: its ICS4 wrapper is the channel keeper, and the send check is never evaluated. Sent
through the rate-limit keeper over the channel keeper, the same packet is refused; through the
rate-limit keeper as `initIBCMiddlewareKeepers` builds it, with a `nil` ICS4 wrapper, every
send panics. -/
theorem transferKeeperTransfer_overLimit :
    transferKeeperTransfer overLimitEnv transferPacket = .ok (true, [.commit]) ∧
      (ICS4Wrapper.rateLimitKeeper .channelKeeper).sendPacket overLimitEnv transferPacket =
        .ok (false, [.sendRateLimitCheck false]) ∧
      (ICS4Wrapper.rateLimitKeeper rateLimitKeeperICS4Wrapper).sendPacket overLimitEnv
        transferPacket = .error nilDereference :=
  ⟨rfl, rfl, rfl⟩

/-! ### The receive side -/

/-- The applications and middlewares of the stacks, each with the one it wraps. -/
inductive IBCModule where
  /-- `ibctransferevm.NewIBCModule(app.TransferKeeper)`. -/
  | transfer
  /-- `ibctransferv2evm.NewIBCModule(app.TransferKeeper)`. -/
  | transferV2
  /-- `packetforward.NewIBCMiddleware(app, ...)`. -/
  | packetForward (app : IBCModule)
  /-- `ratelimit.NewIBCMiddleware(keeper, app)`. -/
  | rateLimit (app : IBCModule)
  /-- `erc20.NewIBCMiddleware(keeper, app)`. -/
  | erc20 (app : IBCModule)
  /-- `erc20v2.NewIBCMiddleware(app, keeper)`. -/
  | erc20V2 (app : IBCModule)
  /-- The interchain-account controller and host stacks and the wasm stack. -/
  | icaController
  | icaHost
  | wasm
deriving DecidableEq, Repr

/-- `OnRecvPacket` of a module: the acknowledgement and the effects, or the panic of a send of
packet forwarding. -/
def IBCModule.onRecvPacket (env : IbcEnv) : IBCModule → Packet → Call (Ack × List Effect)
  | .transfer, p | .transferV2, p =>
    .ok (if env.transferRecv p then (.success, [.credit]) else (.error, []))
  | .rateLimit app, p =>
    if env.rateLimitRecv p then do
      let (ack, es) ← app.onRecvPacket env p
      return (ack, .recvRateLimitCheck true :: es)
    else .ok (.error, [.recvRateLimitCheck false])
  | .packetForward app, p =>
    match env.forwardMetadata p with
    | .none => app.onRecvPacket env p
    | .invalid => .ok (.error, [])
    | .forward => do
      let (ack, es) ← app.onRecvPacket env p
      if ack = .success then
        let (sent, es') ← transferKeeperTransfer env (env.forwardPacket p)
        return (if sent then .async else .error, es ++ .forward :: es')
      else return (ack, es)
  | .erc20 app, p | .erc20V2 app, p => do
    let (ack, es) ← app.onRecvPacket env p
    if ack = .error then return (ack, es)
    let (ack', es') := env.erc20Recv p ack
    return (ack', es ++ .erc20OnRecvPacket :: es')
  | .icaController, p | .icaHost, p | .wasm, p => .ok (env.otherRecv p)

/-- The classic transfer stack of `configureIBCMiddlewareStacks`: ERC20 over rate limiting
over packet forwarding over the transfer application. -/
def transferStack : IBCModule := .erc20 (.rateLimit (.packetForward .transfer))

/-- The v2 transfer stack: ERC20 over the v2 transfer application. -/
def transferStackV2 : IBCModule := .erc20V2 .transferV2

/-- `ibctransfertypes.ModuleName` and `ibctransfertypes.PortID`. -/
def transferPortID : String := "transfer"

/-- The classic router, `porttypes.NewRouter().AddRoute(...)`. -/
def ibcRouter : List (String × IBCModule) :=
  [(transferPortID, transferStack), ("icacontroller", .icaController), ("icahost", .icaHost),
    ("wasm", .wasm)]

/-- The v2 router, `ibcapi.NewRouter().AddRoute(ibctransfertypes.PortID, transferStackV2)`. -/
def ibcRouterV2 : List (String × IBCModule) :=
  [(transferPortID, transferStackV2)]

/-- Core IBC delivering a received packet: the module routed at its destination port, if any,
handles it. -/
def recvPacket (router : List (String × IBCModule)) (env : IbcEnv) (p : Packet) :
    Option (Call (Ack × List Effect)) :=
  (router.lookup p.destinationPort).map fun m => m.onRecvPacket env p

/-! ### What each middleware does with the result of the module below -/

section Recv

variable {env : IbcEnv} {p : Packet} {app : IBCModule} {ack : Ack} {es : List Effect}

/-- The rate-limit middleware: the passed check in front of what the module below did, or an
error acknowledgement after a failed check. -/
lemma onRecvPacket_rateLimit (h : app.onRecvPacket env p = .ok (ack, es)) :
    (IBCModule.rateLimit app).onRecvPacket env p =
      .ok (if env.rateLimitRecv p then (ack, .recvRateLimitCheck true :: es)
        else (.error, [.recvRateLimitCheck false])) := by
  simp only [IBCModule.onRecvPacket, h, Call.ok_bind]
  split <;> rfl

/-- Packet forwarding: the module below alone without a `forward` entry, an error on an invalid
one, and otherwise, after a successful acknowledgement, the forward through the transfer
keeper, which the channel keeper commits or refuses. -/
lemma onRecvPacket_packetForward (h : app.onRecvPacket env p = .ok (ack, es)) :
    (IBCModule.packetForward app).onRecvPacket env p =
      .ok (match env.forwardMetadata p with
        | .none => (ack, es)
        | .invalid => (.error, [])
        | .forward =>
          if ack = .success then
            if env.channelSend (env.forwardPacket p) then (.async, es ++ [.forward, .commit])
            else (.error, es ++ [.forward])
          else (ack, es)) := by
  simp only [IBCModule.onRecvPacket, h, transferKeeperTransfer_eq, channelKeeperSendPacket,
    Call.ok_bind]
  split <;> try rfl
  split <;> try rfl
  split <;> rfl

/-- The ERC20 middleware: an error acknowledgement of the module below is passed on, and any
other goes to the keeper, whose effects follow its call. -/
lemma onRecvPacket_erc20 (h : app.onRecvPacket env p = .ok (ack, es)) :
    (IBCModule.erc20 app).onRecvPacket env p =
      .ok (if ack = .error then (ack, es)
        else ((env.erc20Recv p ack).1, es ++ .erc20OnRecvPacket :: (env.erc20Recv p ack).2)) := by
  simp only [IBCModule.onRecvPacket, h, Call.ok_bind]
  split <;> rfl

/-- The v2 ERC20 middleware does what the classic one does. -/
lemma onRecvPacket_erc20V2 :
    (IBCModule.erc20V2 app).onRecvPacket env p = (IBCModule.erc20 app).onRecvPacket env p :=
  rfl

end Recv

/-- **Receiving never panics**: the only send on the receive side, that of packet forwarding,
goes through the transfer keeper's channel keeper, which returns. -/
theorem onRecvPacket_returns (env : IbcEnv) (p : Packet) :
    ∀ m : IBCModule, ∃ r, m.onRecvPacket env p = .ok r
  | .transfer | .transferV2 | .icaController | .icaHost | .wasm => ⟨_, rfl⟩
  | .rateLimit app =>
    let ⟨(_, _), h⟩ := onRecvPacket_returns env p app
    ⟨_, onRecvPacket_rateLimit h⟩
  | .packetForward app =>
    let ⟨(_, _), h⟩ := onRecvPacket_returns env p app
    ⟨_, onRecvPacket_packetForward h⟩
  | .erc20 app | .erc20V2 app =>
    let ⟨(_, _), h⟩ := onRecvPacket_returns env p app
    ⟨_, onRecvPacket_erc20 h⟩

/-! ### Rate-limited stacks -/

/-- No effect before the first passed receive check moves tokens: every credit, forward or
commit comes after `ReceiveRateLimitedPacket` passed. -/
def RecvCheckedBefore (es : List Effect) : Prop :=
  ∀ e ∈ es.takeWhile (· != .recvRateLimitCheck true), e.movesTokens = false

instance (es : List Effect) : Decidable (RecvCheckedBefore es) :=
  inferInstanceAs (Decidable (∀ e ∈ _, _))

/-- A stack in which every way from the top down to the transfer application passes a
rate-limit middleware. -/
def IBCModule.rateLimited : IBCModule → Bool
  | .rateLimit _ => true
  | .packetForward app | .erc20 app | .erc20V2 app => app.rateLimited
  | _ => false

lemma recvCheckedBefore_nil : RecvCheckedBefore [] := by
  simp [RecvCheckedBefore]

lemma recvCheckedBefore_cons_check (es : List Effect) :
    RecvCheckedBefore (.recvRateLimitCheck true :: es) := by
  simp [RecvCheckedBefore]

/-- Before the first passed check, an effect that is not that check is kept. -/
lemma takeWhile_cons_unchecked {e : Effect} (he : e ≠ .recvRateLimitCheck true)
    (es : List Effect) :
    (e :: es).takeWhile (· != .recvRateLimitCheck true) =
      e :: es.takeWhile (· != .recvRateLimitCheck true) :=
  List.takeWhile_cons_of_pos (by simpa using he)

/-- After a passed check, anything may follow. -/
lemma recvCheckedBefore_append {es : List Effect} (h : RecvCheckedBefore es)
    (hc : .recvRateLimitCheck true ∈ es) (fs : List Effect) : RecvCheckedBefore (es ++ fs) := by
  induction es with
  | nil => simp at hc
  | cons e es ih =>
    by_cases he : e = .recvRateLimitCheck true
    · subst he
      exact recvCheckedBefore_cons_check _
    · have hc' : .recvRateLimitCheck true ∈ es := (List.mem_cons.mp hc).resolve_left (Ne.symm he)
      simp only [RecvCheckedBefore, List.cons_append, takeWhile_cons_unchecked he,
        List.mem_cons, forall_eq_or_imp] at h ⊢
      exact ⟨h.1, ih h.2 hc'⟩

/-- What a rate-limited stack guarantees of one received packet: no tokens move before a
passed check, and an acknowledgement that is not an error comes after a passed check. -/
def CheckedRun (r : Ack × List Effect) : Prop :=
  RecvCheckedBefore r.2 ∧ (r.1 ≠ .error → .recvRateLimitCheck true ∈ r.2)

/-- A checked run stays checked when more effects follow a non-error acknowledgement. -/
lemma checkedRun_append {ack ack' : Ack} {es : List Effect} (h : CheckedRun (ack, es))
    (hack : ack ≠ .error) (fs : List Effect) : CheckedRun (ack', es ++ fs) :=
  ⟨recvCheckedBefore_append h.1 (h.2 hack) fs, fun _ => List.mem_append_left _ (h.2 hack)⟩

/-- **A rate-limited stack checks every packet before it moves tokens**, for every behaviour
of the keepers.

**Proof sketch.** Induction over the stack, one case per module. The rate-limit middleware
puts the passed check first or stops; packet forwarding and the ERC20 middleware add effects
only after a non-error acknowledgement of the stack below, which comes after a passed check. -/
theorem recvCheckedBefore_of_rateLimited (env : IbcEnv) (p : Packet) :
    ∀ m : IBCModule, m.rateLimited = true → ∀ r, m.onRecvPacket env p = .ok r → CheckedRun r
  | .rateLimit app, _, r, h => by
    obtain ⟨⟨ack, es⟩, happ⟩ := onRecvPacket_returns env p app
    rw [onRecvPacket_rateLimit happ] at h
    cases h
    split
    · exact ⟨recvCheckedBefore_cons_check _, fun _ => List.mem_cons_self _ _⟩
    · exact ⟨by decide, fun h => absurd rfl h⟩
  | .packetForward app, hm, r, h => by
    obtain ⟨⟨ack, es⟩, happ⟩ := onRecvPacket_returns env p app
    have ih := recvCheckedBefore_of_rateLimited env p app hm _ happ
    rw [onRecvPacket_packetForward happ] at h
    cases h
    split
    · exact ih
    · exact ⟨recvCheckedBefore_nil, fun h => absurd rfl h⟩
    · split
      · split <;> exact checkedRun_append ih (by simp [*]) _
      · exact ih
  | .erc20 app, hm, r, h | .erc20V2 app, hm, r, h => by
    obtain ⟨⟨ack, es⟩, happ⟩ := onRecvPacket_returns env p app
    have ih := recvCheckedBefore_of_rateLimited env p app hm _ happ
    simp only [onRecvPacket_erc20V2, onRecvPacket_erc20 happ] at h
    cases h
    split
    · exact ih
    · exact checkedRun_append ih ‹_› _

/-- **The classic router rate-limits the transfer port.** Every packet core IBC delivers to
the transfer port through the classic router is handled by the transfer stack, which returns
and evaluates `ReceiveRateLimitedPacket` before the transfer application or packet forwarding
credits or forwards any tokens, and acknowledges without an error only after the check
passed. -/
theorem recvPacket_transfer_rateLimited (env : IbcEnv) (p : Packet)
    (hport : p.destinationPort = transferPortID) :
    ∃ r, recvPacket ibcRouter env p = some (.ok r) ∧ CheckedRun r := by
  obtain ⟨r, hr⟩ := onRecvPacket_returns env p transferStack
  exact ⟨r, by simp [recvPacket, hport, ibcRouter, transferPortID, hr],
    recvCheckedBefore_of_rateLimited env p transferStack rfl r hr⟩

/-- A transfer received on the classic router. -/
theorem recvPacket_transfer_accepted :
    transferPacket.destinationPort = transferPortID ∧
      recvPacket ibcRouter acceptingEnv transferPacket =
        some (.ok (.success, [.recvRateLimitCheck true, .credit, .erc20OnRecvPacket])) ∧
      ∃ r, recvPacket ibcRouter acceptingEnv transferPacket = some (.ok r) ∧ CheckedRun r :=
  ⟨rfl, rfl, recvPacket_transfer_rateLimited acceptingEnv transferPacket rfl⟩

/-- A transfer the rate limiter refuses: the v2 router credits it, where the classic router
acknowledges it with an error after the failed check. -/
theorem recvPacketV2_overLimit :
    recvPacket ibcRouterV2 { acceptingEnv with rateLimitRecv := fun _ => false } transferPacket =
        some (.ok (.success, [.credit, .erc20OnRecvPacket])) ∧
      recvPacket ibcRouter { acceptingEnv with rateLimitRecv := fun _ => false } transferPacket =
        some (.ok (.error, [.recvRateLimitCheck false])) :=
  ⟨rfl, rfl⟩

/-! ### The ERC20 keeper comes after the credit -/

/-- A stack over the transfer applications: its way down ends in one of them. -/
def IBCModule.overTransfer : IBCModule → Bool
  | .transfer | .transferV2 => true
  | .packetForward app | .rateLimit app | .erc20 app | .erc20V2 app => app.overTransfer
  | _ => false

/-- In the effects `es`, `a` happens before the first `b`, if `b` happens at all. -/
def Precedes (a b : Effect) (es : List Effect) : Prop :=
  b ∈ es → a ∈ es.takeWhile (· != b)

instance (a b : Effect) (es : List Effect) : Decidable (Precedes a b es) :=
  inferInstanceAs (Decidable (_ → _))

/-- An effect other than `b` put in front keeps the order. -/
lemma precedes_cons {a b c : Effect} {es : List Effect} (hc : c ≠ b) (h : Precedes a b es) :
    Precedes a b (c :: es) := fun hb => by
  rw [List.takeWhile_cons_of_pos (by simpa using hc)]
  exact List.mem_cons_of_mem _ (h ((List.mem_cons.mp hb).resolve_left (Ne.symm hc)))

/-- Once `a` has happened, whatever follows keeps the order. -/
lemma precedes_append {a b : Effect} {es : List Effect} (h : Precedes a b es) (ha : a ∈ es)
    (fs : List Effect) : Precedes a b (es ++ fs) := fun _ => by
  by_cases hb : b ∈ es
  · rw [List.takeWhile_append]
    split
    exacts [List.mem_append_left _ ha, h hb]
  · rw [List.takeWhile_append_of_pos fun e he => by simpa using ne_of_mem_of_not_mem he hb]
    exact List.mem_append_left _ ha

/-- What a stack over the transfer applications guarantees of one received packet: an
acknowledgement that is not an error comes with the packet's tokens credited, and the ERC20
keeper is called only after the credit. -/
def CreditedRun (r : Ack × List Effect) : Prop :=
  (r.1 ≠ .error → .credit ∈ r.2) ∧ Precedes .credit .erc20OnRecvPacket r.2

instance (r : Ack × List Effect) : Decidable (CreditedRun r) :=
  inferInstanceAs (Decidable (_ ∧ _))

/-- A credited run stays credited when more effects follow a non-error acknowledgement. -/
lemma creditedRun_append {ack ack' : Ack} {es : List Effect} (h : CreditedRun (ack, es))
    (hack : ack ≠ .error) (fs : List Effect) : CreditedRun (ack', es ++ fs) :=
  ⟨fun _ => List.mem_append_left _ (h.1 hack), precedes_append h.2 (h.1 hack) fs⟩

/-- **The ERC20 keeper runs after the credit.** On every stack over the transfer applications,
whatever its middlewares and whatever the keepers do, the ERC20 keeper's `OnRecvPacket` is
called only after the transfer application credited the packet's tokens, and an
acknowledgement that is not an error comes with the credit. So the ERC20 middleware, outermost
on both stacks of `configureIBCMiddlewareStacks`, sees the tokens already credited.

**Proof sketch.** Induction over the stack, one case per module: the transfer application
credits exactly when it succeeds; the rate-limit middleware puts its check in front; packet
forwarding and the ERC20 middleware add effects only after a non-error acknowledgement of the
stack below, which comes with the credit. -/
theorem credit_precedes_erc20 (env : IbcEnv) (p : Packet) :
    ∀ m : IBCModule, m.overTransfer = true → ∀ r, m.onRecvPacket env p = .ok r →
      CreditedRun r
  | .transfer, _, r, h | .transferV2, _, r, h => by
    cases h
    split <;> decide
  | .rateLimit app, hm, r, h => by
    obtain ⟨⟨ack, es⟩, happ⟩ := onRecvPacket_returns env p app
    have ih := credit_precedes_erc20 env p app hm _ happ
    rw [onRecvPacket_rateLimit happ] at h
    cases h
    split
    · exact ⟨fun hack => List.mem_cons_of_mem _ (ih.1 hack), precedes_cons (by decide) ih.2⟩
    · decide
  | .packetForward app, hm, r, h => by
    obtain ⟨⟨ack, es⟩, happ⟩ := onRecvPacket_returns env p app
    have ih := credit_precedes_erc20 env p app hm _ happ
    rw [onRecvPacket_packetForward happ] at h
    cases h
    split
    · exact ih
    · decide
    · split
      · split <;> exact creditedRun_append ih (by simp [*]) _
      · exact ih
  | .erc20 app, hm, r, h | .erc20V2 app, hm, r, h => by
    obtain ⟨⟨ack, es⟩, happ⟩ := onRecvPacket_returns env p app
    have ih := credit_precedes_erc20 env p app hm _ happ
    simp only [onRecvPacket_erc20V2, onRecvPacket_erc20 happ] at h
    cases h
    split
    · exact ih
    · exact creditedRun_append ih ‹_› _

/-- The classic transfer stack calls the ERC20 keeper on an accepted transfer after crediting
it. -/
theorem credit_precedes_erc20_accepted :
    transferStack.overTransfer = true ∧
      transferStack.onRecvPacket acceptingEnv transferPacket =
        .ok (.success, [.recvRateLimitCheck true, .credit, .erc20OnRecvPacket]) ∧
      CreditedRun (.success, [.recvRateLimitCheck true, .credit, .erc20OnRecvPacket]) :=
  ⟨rfl, rfl, credit_precedes_erc20 acceptingEnv transferPacket transferStack rfl _ rfl⟩

end Kudora.App
