import TradingGateway.Websocket.Registry

/-!
# Events of the engine (`crates/tektii/src/websocket.rs`, `conversions.rs`)

The read loop takes the messages of the engine's socket one by one. Each order or position message
goes two ways: a spawned task gives it to the event router, and the stream to the registry carries
it, whose event task gives it to the same router. A spawned task runs at any later moment.

* `ServerMessage` with its conversions, `World`, `step`: the read loop, its tasks and the pipeline.
* `router_step`: the log of the received calls is what the router does.
* `load_exec`: every message read makes two calls of the router, whatever the schedule.
* `applied_once_iff`: so no order or position that a message is about gets its events once.

The acknowledgements have a module of their own.
-/

namespace Gateway.Tektii

/-! ## The engine's types -/

inductive EngineOrderType where
  | market
  | limit
  | stop
  | stopLimit
  deriving DecidableEq, Repr

inductive EngineOrderStatus where
  | open
  | partiallyFilled
  | filled
  | cancelled
  | rejected
  deriving DecidableEq, Repr

inductive EngineTimeInForce where
  | gtc
  | ioc
  deriving DecidableEq, Repr

inductive EngineOrderEventType where
  | created
  | partialFill
  | filled
  | cancelled
  | rejected
  deriving DecidableEq, Repr

structure EngineOrder where
  id : String
  clientOrderId : Option String
  symbol : String
  side : Side
  orderType : EngineOrderType
  quantity : Decimal
  filledQuantity : Decimal
  averageFillPrice : Option Decimal
  /-- The limit price of a limit order, the trigger of a stop order; 0 for a market order. -/
  price : Decimal
  /-- The limit price of a stop-limit order. -/
  limitPrice : Option Decimal
  status : EngineOrderStatus
  timeInForce : EngineTimeInForce
  positionId : Option String
  deriving DecidableEq, Repr

structure EnginePosition where
  id : String
  symbol : String
  side : PositionSide
  quantity : Decimal
  avgEntryPrice : Decimal
  currentPrice : Decimal
  unrealizedPnl : Decimal
  deriving DecidableEq, Repr

/-- A message of the engine. Trades, account updates and candles are only relayed: `data`. -/
inductive ServerMessage where
  | order (eventId : String) (event : EngineOrderEventType) (order : EngineOrder)
  | position (eventId : String) (position : EnginePosition)
  | data (eventId type payload : String)
  | backtestComplete (eventId : String)
  | error (eventId code message : String)
  | pong
  deriving DecidableEq, Repr

def ServerMessage.eventId : ServerMessage → Option String
  | .order eventId .. | .position eventId _ | .data eventId .. | .backtestComplete eventId
  | .error eventId .. => some eventId
  | .pong => none

/-! ## Conversions -/

def engineOrderTypeToApi : EngineOrderType → OrderType
  | .market => .market
  | .limit => .limit
  | .stop => .stop
  | .stopLimit => .stopLimit

def engineOrderStatusToApi : EngineOrderStatus → OrderStatus
  | .open => .open
  | .partiallyFilled => .partiallyFilled
  | .filled => .filled
  | .cancelled => .cancelled
  | .rejected => .rejected

def engineTimeInForceToApi : EngineTimeInForce → TimeInForce
  | .gtc => .gtc
  | .ioc => .ioc

def engineOrderEventTypeToApi : EngineOrderEventType → OrderEventType
  | .created => .orderCreated
  | .partialFill => .orderPartiallyFilled
  | .filled => .orderFilled
  | .cancelled => .orderCancelled
  | .rejected => .orderRejected

/-- The limit price and the stop price: the engine has one price field for both. -/
def enginePrices (order : EngineOrder) : Option Decimal × Option Decimal :=
  if order.price = 0 then (none, none)
  else
    match order.orderType with
    | .limit => (some order.price, none)
    | .stop => (none, some order.price)
    | .stopLimit => (order.limitPrice, some order.price)
    | .market => (none, none)

def engineOrderToApi (order : EngineOrder) : Order where
  id := order.id
  clientOrderId := order.clientOrderId
  symbol := order.symbol
  side := order.side
  orderType := engineOrderTypeToApi order.orderType
  quantity := order.quantity
  filledQuantity := order.filledQuantity
  remainingQuantity := order.quantity - order.filledQuantity
  limitPrice := (enginePrices order).1
  stopPrice := (enginePrices order).2
  averageFillPrice := order.averageFillPrice
  status :=
    if order.status = .open ∧ order.filledQuantity ≠ 0 ∧ order.filledQuantity < order.quantity then
      .partiallyFilled
    else engineOrderStatusToApi order.status
  positionId := order.positionId
  timeInForce := engineTimeInForceToApi order.timeInForce

def enginePositionToApi (position : EnginePosition) : Position where
  id := position.id
  symbol := position.symbol
  side := position.side
  quantity := position.quantity
  averageEntryPrice := position.avgEntryPrice
  currentPrice := position.currentPrice
  unrealizedPnl := position.unrealizedPnl
  realizedPnl := 0
  marginMode := none
  leverage := none
  liquidationPrice := none

/-! ## The read loop -/

/-- A call of the event router. -/
inductive RouterCall where
  | handleOrderEvent (event : OrderEventType) (order : Order) (parentOrderId : Option String)
  | handlePositionEvent (event : PositionEventType) (position : Position)
  deriving DecidableEq, Repr

/-- What the call does. -/
def RouterCall.apply {β γ : Type} (c : Events.Ctx β γ) (call : RouterCall) (w : Events.World β γ) :
    Events.World β γ :=
  match call with
  | .handleOrderEvent event order parentOrderId =>
    Events.handleOrderEvent c event order parentOrderId w
  | .handlePositionEvent event position => Events.handlePositionEvent c event position w

/-- The message for the stream to the registry. -/
def serverMessageToWsMessage (platform : TradingPlatform) : ServerMessage → Option WsMessage
  | .order _ event order =>
    some (.order (engineOrderEventTypeToApi event) (engineOrderToApi order) none)
  | .position _ position => some (.position .positionModified (enginePositionToApi position))
  | .data _ type payload => some (.other type payload)
  | .backtestComplete _ => some (.backtestComplete (some platform.headerValue))
  | .error .. | .pong => none

/-- The task that the read loop spawns for a message: a call of the router. -/
def handleServerMessage : ServerMessage → Option RouterCall
  | .order _ event order =>
    some (.handleOrderEvent (engineOrderEventTypeToApi event) (engineOrderToApi order) none)
  | .position _ position =>
    some (.handlePositionEvent .positionModified (enginePositionToApi position))
  | _ => none

/-- The call that the registry's event task makes for a message of the stream. -/
def pipelineCall : WsMessage → Option RouterCall
  | .order event order parentOrderId => some (.handleOrderEvent event order parentOrderId)
  | .position event position => some (.handlePositionEvent event position)
  | _ => none

variable {β γ : Type}

/-- The read loop with its spawned tasks, and the registry behind the stream. `received` is history:
the calls that the router got from both. -/
structure World (β γ : Type) where
  registry : Registry.World β γ
  /-- The spawned tasks that have not run yet. -/
  tasks : List RouterCall
  /-- The stream to the registry, with the engine's event ids. -/
  stream : List (WsMessage × Option String)
  received : List RouterCall

inductive Action where
  /-- The read loop takes a message. -/
  | read (message : ServerMessage)
  /-- The `i`-th of the waiting tasks runs. -/
  | task (i : ℕ)
  /-- The registry's event task takes a message; `fresh` is its notice on staleness. -/
  | relay (fresh : Option WsMessage)
  /-- A round of the position synthesis task. -/
  | synthesis
  deriving DecidableEq, Repr

def step (c : Registry.Ctx β γ) (w : World β γ) : Action → World β γ
  | .read message =>
    { w with
      tasks := w.tasks ++ (handleServerMessage message).toList
      stream := w.stream ++
        (serverMessageToWsMessage c.platform message).toList.map (·, message.eventId) }
  | .task i =>
    match w.tasks[i]? with
    | none => w
    | some call =>
      { w with
        registry := { w.registry with router := call.apply c.router w.registry.router }
        tasks := w.tasks.eraseIdx i
        received := w.received ++ [call] }
  | .relay fresh =>
    match w.stream with
    | [] => w
    | (message, engineEventId) :: rest =>
      { w with
        registry := Registry.handleStreamEvent c message engineEventId fresh w.registry
        stream := rest
        received := w.received ++ (pipelineCall message).toList }
  | .synthesis => { w with registry := Registry.synthesisRound c w.registry }

/-- What a step logs as received is what its router does: the calls are made one after the other.
Only the quote of a relayed message, or a round of the synthesis, comes before. -/
theorem router_step (c : Registry.Ctx β γ) (w : World β γ) (a : Action) :
    ∃ calls, (step c w a).received = w.received ++ calls ∧
      (step c w a).registry.router = calls.foldl (fun r call => call.apply c.router r)
        (match a, w.stream with
        | .relay _, (message, _) :: _ =>
          { w.registry.router with
            trailing := { w.registry.router.trailing with
              outside := c.handleQuote message w.registry.router.trailing.outside } }
        | .synthesis, _ => (Registry.synthesisRound c w.registry).router
        | _, _ => w.registry.router) := by
  cases a with
  | read message => exact ⟨[], (List.append_nil _).symm, rfl⟩
  | task i =>
    simp only [step]
    cases w.tasks[i]? with
    | none => exact ⟨[], (List.append_nil _).symm, rfl⟩
    | some call => exact ⟨[call], rfl, rfl⟩
  | relay fresh =>
    simp only [step]
    cases w.stream with
    | nil => exact ⟨[], (List.append_nil _).symm, rfl⟩
    | cons m rest =>
      obtain ⟨message, engineEventId⟩ := m
      refine ⟨(pipelineCall message).toList, rfl, ?_⟩
      cases message <;> rfl
  | synthesis => exact ⟨[], (List.append_nil _).symm, rfl⟩

/-! ## Two calls for each message -/

section load

variable (c : Registry.Ctx β γ) (p : RouterCall → Bool)

/-- The calls of a kind that were made or are still to be made. -/
def load (w : World β γ) : ℕ :=
  w.received.countP p + w.tasks.countP p +
    (w.stream.filterMap fun m => pipelineCall m.1).countP p

/-- The call that a message stands for, if one is read. -/
def Action.call : Action → Option RouterCall
  | .read message => handleServerMessage message
  | _ => none

/-- The calls that the messages read in the schedule stand for. -/
def callsRead (actions : List Action) : List RouterCall := actions.filterMap Action.call

variable (platform : TradingPlatform) (w : World β γ) (message : ServerMessage)

/-- The stream carries the same call as the spawned task. -/
theorem pipelineCall_serverMessage :
    (serverMessageToWsMessage platform message).bind pipelineCall =
      handleServerMessage message := by
  cases message <;> rfl

theorem countP_stream :
    (((serverMessageToWsMessage platform message).toList.map
      (·, message.eventId)).filterMap fun m => pipelineCall m.1).countP p =
        (handleServerMessage message).toList.countP p := by
  rw [← pipelineCall_serverMessage platform]
  cases serverMessageToWsMessage platform message with
  | none => rfl
  | some m => cases h : pipelineCall m <;> simp [h]

/-- A message read adds two calls; a task or a relay makes one that was waiting. -/
theorem load_step (a : Action) : load p (step c w a) = load p w + 2 * (callsRead [a]).countP p := by
  cases a with
  | read message =>
    have hread : callsRead [.read message] = (handleServerMessage message).toList := by
      cases h : handleServerMessage message <;> simp [callsRead, Action.call, h]
    rw [hread]
    simp only [load, step, List.countP_append, List.filterMap_append, countP_stream]
    omega
  | task i =>
    unfold step
    dsimp only
    cases h : w.tasks[i]? with
    | none => rfl
    | some call =>
      obtain ⟨hi, hcall⟩ := List.getElem?_eq_some_iff.mp h
      have hperm : w.tasks.countP p = [call].countP p + (w.tasks.eraseIdx i).countP p := by
        rw [← List.countP_append, List.singleton_append, ← hcall]
        exact (List.getElem_cons_eraseIdx_perm hi).symm.countP_eq p
      simp only [load, List.countP_append, callsRead, List.filterMap_cons, Action.call,
        List.filterMap_nil, List.countP_nil]
      omega
  | relay fresh =>
    unfold step
    dsimp only
    cases h : w.stream with
    | nil => rfl
    | cons m rest =>
      have hhead : (w.stream.filterMap fun m => pipelineCall m.1).countP p =
          (pipelineCall m.1).toList.countP p +
            (rest.filterMap fun m => pipelineCall m.1).countP p := by
        rw [h, List.filterMap_cons]
        cases pipelineCall m.1 <;> simp [List.countP_cons, Nat.add_comm]
      simp only [load, List.countP_append, callsRead, List.filterMap_cons, Action.call,
        List.filterMap_nil, List.countP_nil, hhead]
      omega
  | synthesis => rfl

theorem load_exec (actions : List Action) :
    load p (Run.exec (step c) w actions) = load p w + 2 * (callsRead actions).countP p := by
  induction actions generalizing w with
  | nil => rfl
  | cons a actions ih =>
    have hcons : callsRead (a :: actions) = callsRead [a] ++ callsRead actions := by
      simp only [callsRead, ← List.filterMap_append, List.singleton_append]
    rw [Run.exec_cons, ih, load_step, hcons, List.countP_append]
    omega

end load

/-! ## Once and in order -/

/-- What a call is about: an order or a position, by its id. -/
inductive Subject where
  | order (id : String)
  | position (id : String)
  deriving DecidableEq, Repr

def RouterCall.subject : RouterCall → Subject
  | .handleOrderEvent _ order _ => .order order.id
  | .handlePositionEvent _ position => .position position.id

/-- The calls about a subject. -/
def about (subject : Subject) (calls : List RouterCall) : List RouterCall :=
  calls.filter fun call => call.subject = subject

/-- From nothing read to everything handled. -/
structure FullSchedule (c : Registry.Ctx β γ) (w : World β γ) (actions : List Action) : Prop where
  tasks : w.tasks = []
  stream : w.stream = []
  received : w.received = []
  tasksDone : (Run.exec (step c) w actions).tasks = []
  streamDone : (Run.exec (step c) w actions).stream = []

/-- The router gets the events of the subject once each and in the order in which they were read. -/
def AppliedOnce (c : Registry.Ctx β γ) (w : World β γ) (actions : List Action) (subject : Subject) :
    Prop :=
  about subject (Run.exec (step c) w actions).received = about subject (callsRead actions)

/-- In every schedule, the router gets the events of an order or position once and in order only if
there are none: it gets each twice. -/
theorem applied_once_iff {c : Registry.Ctx β γ} {w : World β γ} {actions : List Action}
    (h : FullSchedule c w actions) (subject : Subject) :
    AppliedOnce c w actions subject ↔ about subject (callsRead actions) = [] := by
  have htwice : (about subject (Run.exec (step c) w actions).received).length =
      2 * (about subject (callsRead actions)).length := by
    have hload := load_exec c (fun call => call.subject = subject) w actions
    simp only [load, h.tasks, h.stream, h.received, h.tasksDone, h.streamDone, List.filterMap_nil,
      List.countP_nil, Nat.add_zero, Nat.zero_add] at hload
    rw [List.countP_eq_length_filter, List.countP_eq_length_filter] at hload
    exact hload
  constructor
  · intro honce
    have hlen : (about subject (Run.exec (step c) w actions).received).length =
        (about subject (callsRead actions)).length := congrArg List.length honce
    apply List.eq_nil_of_length_eq_zero
    omega
  · intro hnone
    unfold AppliedOnce
    rw [hnone] at htwice ⊢
    exact List.eq_nil_of_length_eq_zero htwice

/-- Nothing read yet, with the simulated provider. -/
def World.simulated : World (List (String × OrderRequest)) ℕ := ⟨.simulated, [], [], []⟩

/-- An order of 10 units, of which the engine has filled `filled`. -/
def sampleEngineOrder (filled : Decimal) : EngineOrder where
  id := "o1"
  clientOrderId := none
  symbol := "BTCUSD"
  side := .buy
  orderType := .market
  quantity := 10
  filledQuantity := filled
  averageFillPrice := none
  price := 0
  limitPrice := none
  status := if filled = 10 then .filled else .open
  timeInForce := .gtc
  positionId := none

/-- Two messages on `o1`; the tasks run in the other order. -/
def crossedSchedule : List Action :=
  [.read (.order "e1" .partialFill (sampleEngineOrder 4)),
    .read (.order "e2" .filled (sampleEngineOrder 10)), .task 1, .task 0, .relay none, .relay none]

theorem crossedSchedule_full :
    FullSchedule .simulated World.simulated crossedSchedule :=
  ⟨rfl, rfl, rfl, by decide +kernel, by decide +kernel⟩

/-- An order without messages gets no call. -/
theorem applied_once_other : AppliedOnce .simulated .simulated crossedSchedule (.order "o2") :=
  (applied_once_iff crossedSchedule_full (.order "o2")).mpr (by decide +kernel)

/-- The router hears of the fill, then of the partial fill before it, then of both once more. -/
theorem crossedSchedule_twice :
    FullSchedule .simulated World.simulated crossedSchedule ∧
      (about (.order "o1") (callsRead crossedSchedule)).length = 2 ∧
      (about (.order "o1")
        (Run.exec (step .simulated) World.simulated crossedSchedule).received).map (fun
          | .handleOrderEvent event .. => some event
          | _ => none) =
        [some .orderFilled, some .orderPartiallyFilled, some .orderPartiallyFilled,
          some .orderFilled] ∧
      ¬ AppliedOnce .simulated .simulated crossedSchedule (.order "o1") := by
  refine ⟨crossedSchedule_full, by decide +kernel, by decide +kernel, ?_⟩
  unfold AppliedOnce
  decide +kernel

end Gateway.Tektii
