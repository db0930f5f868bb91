import TradingGateway.Events.Router
import TradingGateway.Websocket.Connection

/-!
# The provider registry (`crates/core/src/websocket/registry.rs`)

One provider with its event router. The provider event task takes the events of the provider's
stream one by one: each goes through the router, then to the strategies, and a fill or cancellation
also to the internal channel. The position synthesis task takes the internal events one by one and
turns fills into position events.

* `World`: the router, the strategy connections and the internal channel.
* `Action`, `step`: an event of the stream, a round of the synthesis task, the loss and the return
  of the stream, and what the strategies and their send tasks do.

The staleness tracker is left out; the notice it gives rise to is part of the stream event. So is
the acknowledgement bridge, which has a module of its own.
-/

namespace Gateway.Registry

structure Ctx (β γ : Type) where
  router : Events.Ctx β γ
  platform : TradingPlatform
  /-- The entry order of a native bracket leg (`parent_order_id_for` of the adapter). -/
  nativeParent : String → OrderStatus → Option String
  /-- A quote reaches the price source of the trailing stops. -/
  handleQuote : WsMessage → γ → γ
  /-- The provider filters its events itself, or the subscription filter lets the event pass. -/
  wanted : WsMessage → Bool

structure World (β γ : Type) where
  router : Events.World β γ
  manager : WsConnectionManager
  connectedStrategies : List Uuid
  correlations : Table String String
  /-- The internal events that the synthesis task has not taken yet. -/
  internal : List InternalTradingEvent

variable {β γ : Type}

/-! ## The provider event task -/

/-- The entry order of an exit leg: tracked by the exit handler, or known to the adapter. -/
def trackedParent (c : Ctx β γ) (order : Order) (w : Events.World β γ) : Option String :=
  (w.exit.handler.parentOrderIdFor order.id).or (c.nativeParent order.id order.status)

/-- Route an event through the router. The result is the entry order, for an event of an exit
leg. -/
def routeEventThroughRouter (c : Ctx β γ) (event : WsMessage) (w : Events.World β γ) :
    Option String × Events.World β γ :=
  match event with
  | .order eventType order parentOrderId =>
    (trackedParent c order w, Events.handleOrderEvent c.router eventType order parentOrderId w)
  | .position eventType position => (none, Events.handlePositionEvent c.router eventType position w)
  | _ => (none, w)

/-- The order is done with its correlation id. -/
def endsCorrelation : OrderEventType → Bool
  | .orderFilled | .orderRejected | .orderCancelled | .orderExpired => true
  | _ => false

/-- An order event with its correlation id and its entry order, as strategies see it. -/
def enrich (tracked : Option String) (event : WsMessage) (correlations : Table String String) :
    WsMessage × Table String String :=
  match event with
  | .order eventType order parentOrderId =>
    let parent := parentOrderId.or tracked
    let order' : Order :=
      { order with correlationId := correlations.get order.id, parentOrderId := parent }
    (.order eventType order' parent,
      if endsCorrelation eventType then correlations.remove order.id else correlations)
  | other => (other, correlations)

/-- Send an event to every strategy; a failure is only logged. -/
def deliver (strategies : List Uuid) (event : WsMessage) (engineEventId : Option String)
    (manager : WsConnectionManager) : WsConnectionManager :=
  strategies.foldl (fun manager id => (manager.sendTo id (event, engineEventId)).2) manager

/-- The synthesis task is to see the event. -/
def isInternal : WsMessage → Bool
  | .order .orderFilled .. | .order .orderPartiallyFilled .. | .order .orderCancelled .. => true
  | _ => false

/-- Take one event of the provider's stream. `fresh` is the notice that the event ended the
staleness of its symbol. -/
def handleStreamEvent (c : Ctx β γ) (event : WsMessage) (engineEventId : Option String)
    (fresh : Option WsMessage) (w : World β γ) : World β γ :=
  let manager := match fresh with
    | some notice => w.manager.broadcast notice
    | none => w.manager
  let router := { w.router with
    trailing := { w.router.trailing with
      outside := c.handleQuote event w.router.trailing.outside } }
  let (tracked, router) := routeEventThroughRouter c event router
  let (event, correlations) := enrich tracked event w.correlations
  { w with
    router
    correlations
    manager :=
      if c.wanted event then deliver w.connectedStrategies event engineEventId manager
      else manager
    internal :=
      if isInternal event then w.internal ++ [.new event c.platform] else w.internal }

/-! ## The position synthesis task -/

/-- The signed quantity of a cached position. -/
def signedQuantity (p : CachedPosition) : Decimal :=
  match p.side with
  | .short => -p.quantity
  | .long => p.quantity

/-- The net position after a fill, from the cached position: `last_fill_qty` is the quantity of
this execution, if the provider tells it. -/
def calculatePositionQtyFromFill (s : StateManager) (order : Order)
    (lastFillQty : Option Decimal) : Decimal :=
  let previousQty := ((s.getPositionBySymbol order.symbol).map signedQuantity).getD 0
  let fillDelta := lastFillQty.getD order.filledQuantity
  match order.side with
  | .buy => previousQty + fillDelta
  | .sell => previousQty - fillDelta

/-- Process one internal event. -/
def handleInternalEvent (c : Ctx β γ) (event : InternalTradingEvent) (w : Events.World β γ) :
    Events.World β γ :=
  match event.message with
  | .connection .connected .. => Events.reconcileAfterReconnect c.router w
  | .order eventType order _ =>
    if Events.isFillEvent eventType then
      let positionQty := (event.context.bind OrderContext.positionQty).getD
        (calculatePositionQtyFromFill w.state order
          (event.context.bind OrderContext.lastFillQty))
      Events.synthesizePositionFromFill c.router order positionQty w
    else w
  | _ => w

/-- A round of the synthesis task. -/
def synthesisRound (c : Ctx β γ) (w : World β γ) : World β γ :=
  match w.internal with
  | [] => w
  | event :: rest => { w with router := handleInternalEvent c event w.router, internal := rest }

/-! ## The stream is lost and comes back -/

def brokerNotice (c : Ctx β γ) (event : ConnectionEventType) : WsMessage :=
  .connection event none (some c.platform.headerValue)

/-- The stream closed: the strategies are told, and which of the data is stale now. -/
def streamClosed (c : Ctx β γ) (stale : Option WsMessage) (w : World β γ) : World β γ :=
  let manager := w.manager.broadcast (brokerNotice c .brokerDisconnected)
  { w with
    manager := match stale with
      | some notice => manager.broadcast notice
      | none => manager }

/-- The stream is back: reconcile, then tell the strategies. -/
def reconnected (c : Ctx β γ) (w : World β γ) : World β γ :=
  { w with
    router := Events.reconcileAfterReconnect c.router w.router
    manager := w.manager.broadcast (brokerNotice c .brokerReconnected) }

/-- Reconnecting was given up. -/
def connectionFailed (c : Ctx β γ) (w : World β γ) : World β γ :=
  { w with manager := w.manager.broadcast (brokerNotice c .brokerConnectionFailed) }

/-! ## Runs -/

inductive Action where
  | streamEvent (event : WsMessage) (engineEventId : Option String) (fresh : Option WsMessage)
  | synthesis
  | streamClosed (stale : Option WsMessage)
  | reconnected
  | connectionFailed
  /-- A strategy connects; its queue has this capacity. -/
  | connect (id : Uuid) (capacity : ℕ)
  | disconnect (id : Uuid)
  /-- A round of a connection's send task. -/
  | write (id : Uuid) (ok : Bool)
  deriving DecidableEq, Repr

def step (c : Ctx β γ) (w : World β γ) : Action → World β γ
  | .streamEvent event engineEventId fresh => handleStreamEvent c event engineEventId fresh w
  | .synthesis => synthesisRound c w
  | .streamClosed stale => streamClosed c stale w
  | .reconnected => reconnected c w
  | .connectionFailed => connectionFailed c w
  | .connect id capacity =>
    { w with
      manager := w.manager.step (.addConnection id capacity)
      connectedStrategies := w.connectedStrategies.insert id }
  | .disconnect id =>
    { w with
      manager := w.manager.step (.removeConnection id)
      connectedStrategies := w.connectedStrategies.erase id }
  | .write id ok => { w with manager := w.manager.step (.write id ok) }

/-- The simulated provider; every event is wanted. -/
def Ctx.simulated : Ctx (List (String × OrderRequest)) ℕ where
  router := .simulated
  platform := .mock
  nativeParent _ _ := none
  handleQuote _ n := n
  wanted _ := true

def World.simulated : World (List (String × OrderRequest)) ℕ := ⟨.simulated, ∅, [], ∅, []⟩

end Gateway.Registry
