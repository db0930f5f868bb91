import TradingGateway.Adapter
import TradingGateway.Lib.Table
import TradingGateway.Websocket.Messages

/-!
# The mock provider (`crates/mock/src/adapter.rs`)

An exchange in memory. Every order that is submitted spawns a fill task. The task sleeps, looks at
the price, and fills the order: in one piece, or in two with a second sleep between them. What it
fills first is fixed when the order is submitted; meanwhile the order can be modified or cancelled.

The calls are steps on `MockState`; a task that wakes up is a step as well (`wake`), with the price
that the price generator draws. An id that the code draws at random is an argument of the call. A
division by zero ends its task by a panic, which is recorded (`panicked`).
-/

namespace Gateway

/-! ## Validation (`crates/core/src/models/order.rs`) -/

section validate

-- how a decimal is written
variable (text : Decimal → String)

def missingField (orderType field : String) : GatewayError :=
  .invalidRequest (orderType ++ " orders require " ++ field) (some field)

/-- Refuse a field that orders of this type do not have. -/
def rejectUnexpected (orderType field : String) : Option Decimal → Except GatewayError Unit
  | some v =>
    .error (.invalidValue field (orderType ++ " orders should not have " ++ field) (some (text v)))
  | none => .ok ()

/-- A field that has to be there and to be positive. -/
def requirePositive (orderType field : String) : Option Decimal → Except GatewayError Decimal
  | none => .error (missingField orderType field)
  | some v =>
    if v ≤ 0 then .error (.invalidValue field "must be positive" (some (text v))) else .ok v

/-- A field that has to be positive if it is there. -/
def positiveIfPresent (field : String) : Option Decimal → Except GatewayError Unit
  | some v =>
    if v ≤ 0 then .error (.invalidValue field "must be positive" (some (text v))) else .ok ()
  | none => .ok ()

def OrderRequest.validateSemantics (r : OrderRequest) : Except GatewayError Unit := do
  match r.orderType with
  | .market =>
    rejectUnexpected text "Market" "limit_price" r.limitPrice
    rejectUnexpected text "Market" "stop_price" r.stopPrice
    rejectUnexpected text "Market" "trailing_distance" r.trailingDistance
  | .limit =>
    let _ ← requirePositive text "Limit" "limit_price" r.limitPrice
    rejectUnexpected text "Limit" "stop_price" r.stopPrice
    rejectUnexpected text "Limit" "trailing_distance" r.trailingDistance
  | .stop =>
    let _ ← requirePositive text "Stop" "stop_price" r.stopPrice
    rejectUnexpected text "Stop" "limit_price" r.limitPrice
    rejectUnexpected text "Stop" "trailing_distance" r.trailingDistance
  | .stopLimit =>
    let _ ← requirePositive text "StopLimit" "stop_price" r.stopPrice
    let _ ← requirePositive text "StopLimit" "limit_price" r.limitPrice
    rejectUnexpected text "StopLimit" "trailing_distance" r.trailingDistance
  | .trailingStop =>
    let distance ← requirePositive text "TrailingStop" "trailing_distance" r.trailingDistance
    if r.trailingType.isNone then throw (missingField "TrailingStop" "trailing_type")
    if r.trailingType = some .percent ∧ distance ≥ 100 then
      throw (.invalidValue "trailing_distance" "percent trailing distance must be less than 100"
        (some (text distance)))
    rejectUnexpected text "TrailingStop" "limit_price" r.limitPrice
    rejectUnexpected text "TrailingStop" "stop_price" r.stopPrice
  positiveIfPresent text "stop_loss" r.stopLoss
  positiveIfPresent text "take_profit" r.takeProfit
  positiveIfPresent text "display_quantity" r.displayQuantity
  match r.displayQuantity with
  | some dq =>
    if dq ≥ r.quantity then
      throw (.invalidValue "display_quantity" "must be less than quantity" (some (text dq)))
  | none => pure ()
  positiveIfPresent text "leverage" r.leverage

end validate

namespace Mock

/-! ## State -/

structure Trade where
  id : String
  orderId : String
  symbol : String
  side : Side
  quantity : Decimal
  price : Decimal
  commission : Decimal
  commissionCurrency : String
  isMaker : Option Bool
  deriving DecidableEq, Repr

/-- The trade of a fill. -/
def Trade.ofFill (id orderId symbol : String) (side : Side) (quantity price : Decimal) : Trade where
  id := id
  orderId := orderId
  symbol := symbol
  side := side
  quantity := quantity
  price := price
  commission := 0
  commissionCurrency := "USD"
  isMaker := some false

/-- What a fill task knows of its order. -/
structure Fill where
  orderId : String
  symbol : String
  side : Side
  quantity : Decimal
  orderType : OrderType
  limitPrice : Option Decimal
  stopPrice : Option Decimal
  deriving DecidableEq, Repr

/-- A fill task sleeps before its first fill, or before the rest. -/
inductive FillTask where
  | first (fill : Fill)
  | second (fill : Fill) (remainder : Decimal)
  deriving DecidableEq, Repr

structure MockState where
  orders : Table String Order
  /-- One position for each symbol. -/
  positions : Table String Position
  trades : List Trade
  /-- The fill tasks that sleep, by their order. -/
  tasks : Table String FillTask
  /-- The events handed to the event sink. -/
  sent : List (OrderEventType × Order)
  /-- A task divided by zero. -/
  panicked : Bool

def MockState.new : MockState := ⟨∅, ∅, [], ∅, [], false⟩

structure MockProviderAdapter where
  partialFillRatio : Option Decimal
  /-- A ratio is between 0 and 1. -/
  inside : ∀ ratio ∈ partialFillRatio, 0 < ratio ∧ ratio < 1
  /-- How a decimal is written. -/
  text : Decimal → String

namespace MockProviderAdapter

def new (text : Decimal → String) : MockProviderAdapter := ⟨none, nofun, text⟩

/-- Fill in two pieces. A ratio that is not between 0 and 1 is ignored. -/
def withPartialFillRatio (a : MockProviderAdapter) (ratio : Decimal) : MockProviderAdapter :=
  if h : 0 < ratio ∧ ratio < 1 then
    { a with
      partialFillRatio := some ratio
      inside := by
        intro r hr
        cases hr
        exact h }
  else a

end MockProviderAdapter

/-! ## Fills -/

/-- Net a fill into the position of its symbol. `true` if a division by zero ends it, when the new
quantity is already stored. -/
def upsertPosition (positions : Table String Position) (symbol : String) (side : Side)
    (quantity fillPrice : Decimal) : Table String Position × Bool :=
  let fillSide : PositionSide := match side with
    | .buy => .long
    | .sell => .short
  match positions.get symbol with
  | some pos =>
    if pos.side = fillSide then
      let totalCost := pos.averageEntryPrice * pos.quantity + fillPrice * quantity
      let newQuantity := pos.quantity + quantity
      if newQuantity = 0 then (positions.insert symbol { pos with quantity := newQuantity }, true)
      else
        (positions.insert symbol
          { pos with
            quantity := newQuantity
            averageEntryPrice := totalCost / newQuantity
            currentPrice := fillPrice }, false)
    else if quantity ≥ pos.quantity then
      let remainder := quantity - pos.quantity
      if remainder = 0 then (positions.remove symbol, false)
      else
        (positions.insert symbol
          { pos with
            side := fillSide
            quantity := remainder
            averageEntryPrice := fillPrice
            currentPrice := fillPrice }, false)
    else
      (positions.insert symbol
        { pos with quantity := pos.quantity - quantity, currentPrice := fillPrice }, false)
  | none =>
    (positions.insert symbol
      { id := "mock-pos-" ++ symbol
        symbol
        side := fillSide
        quantity
        averageEntryPrice := fillPrice
        currentPrice := fillPrice
        unrealizedPnl := 0
        realizedPnl := 0
        marginMode := none
        leverage := none
        liquidationPrice := none }, false)

def limitMet (side : Side) (limitPrice : Option Decimal) (fillPrice : Decimal) : Bool :=
  match side, limitPrice with
  | .buy, some lp => fillPrice ≤ lp
  | .sell, some lp => fillPrice ≥ lp
  | _, none => true

def stopMet (side : Side) (stopPrice : Option Decimal) (fillPrice : Decimal) : Bool :=
  match side, stopPrice with
  | .buy, some sp => fillPrice ≥ sp
  | .sell, some sp => fillPrice ≤ sp
  | _, none => true

/-- The price condition of the order, with the prices it was submitted with. -/
def Fill.shouldFill (f : Fill) (fillPrice : Decimal) : Bool :=
  match f.orderType with
  | .market | .trailingStop => true
  | .limit => limitMet f.side f.limitPrice fillPrice
  | .stop => stopMet f.side f.stopPrice fillPrice
  | .stopLimit => stopMet f.side f.stopPrice fillPrice && limitMet f.side f.limitPrice fillPrice

/-- The order after a fill. -/
def fillOrder (o : Order) (fillQuantity fillPrice : Decimal) : Order :=
  let previouslyFilled := o.filledQuantity
  let totalFilled := previouslyFilled + fillQuantity
  let remainingQuantity := o.quantity - totalFilled
  { o with
    averageFillPrice :=
      if totalFilled > 0 then
        let notional := o.averageFillPrice.getD 0 * previouslyFilled + fillPrice * fillQuantity
        some (notional / totalFilled)
      else o.averageFillPrice
    filledQuantity := totalFilled
    remainingQuantity
    status := if remainingQuantity > 0 then .partiallyFilled else .filled }

/-- How a fill ends. -/
inductive FillOutcome where
  /-- The order is not there, or cancelled. -/
  | gone
  | filled (order : Order)
  | panicked

/-- Fill a part of an order: the order, a trade, the position. -/
def applyFill (s : MockState) (orderId symbol : String) (side : Side)
    (fillQuantity fillPrice : Decimal) (tradeId : String) : FillOutcome × MockState :=
  match s.orders.get orderId with
  | none => (.gone, s)
  | some order =>
    if order.status = .cancelled then (.gone, s)
    else
      let order := fillOrder order fillQuantity fillPrice
      let trade := Trade.ofFill tradeId orderId symbol side fillQuantity fillPrice
      let (positions, panicked) := upsertPosition s.positions symbol side fillQuantity fillPrice
      (if panicked then .panicked else .filled order,
        { s with
          orders := s.orders.insert orderId order
          trades := s.trades ++ [trade]
          positions
          panicked := s.panicked || panicked })

/-- The first of two pieces, if the order fills in two. -/
def MockProviderAdapter.firstTranche (a : MockProviderAdapter) (quantity : Decimal) :
    Option Decimal :=
  (a.partialFillRatio.map fun ratio => quantity * ratio).filter fun tranche =>
    tranche > 0 ∧ tranche < quantity

/-- The end of a fill task. -/
def endTask (orderId : String) : FillOutcome × MockState → MockState
  | (.filled order, s) =>
    let event : OrderEventType :=
      if order.status = .filled then .orderFilled else .orderPartiallyFilled
    { s with tasks := s.tasks.remove orderId, sent := s.sent ++ [(event, order)] }
  | (_, s) => { s with tasks := s.tasks.remove orderId }

/-- The fill task of an order wakes up, at a price. -/
def wake (a : MockProviderAdapter) (s : MockState) (orderId : String) (fillPrice : Decimal)
    (tradeId : String) : MockState :=
  match s.tasks.get orderId with
  | none => s
  | some (.first f) =>
    if f.shouldFill fillPrice = false then { s with tasks := s.tasks.remove orderId }
    else
      match a.firstTranche f.quantity with
      | some tranche =>
        match applyFill s orderId f.symbol f.side tranche fillPrice tradeId with
        | (.filled order, s) =>
          { s with
            tasks := s.tasks.insert orderId (.second f order.remainingQuantity)
            sent := s.sent ++ [(.orderPartiallyFilled, order)] }
        | (_, s) => { s with tasks := s.tasks.remove orderId }
      | none =>
        endTask orderId (applyFill s orderId f.symbol f.side f.quantity fillPrice tradeId)
  | some (.second f remainder) =>
    endTask orderId (applyFill s orderId f.symbol f.side remainder fillPrice tradeId)

/-! ## Calls -/

def submitOrder (a : MockProviderAdapter) (s : MockState) (orderId : String)
    (request : OrderRequest) : Except GatewayError OrderHandle × MockState :=
  match request.validateSemantics a.text with
  | .error e => (.error e, s)
  | .ok () =>
    let order := request.toOrder orderId
    (.ok { id := orderId, clientOrderId := request.clientOrderId, status := .open },
      { s with
        orders := s.orders.insert orderId order
        sent := s.sent ++ [(.orderCreated, order)]
        tasks := s.tasks.insert orderId (.first
          { orderId
            symbol := request.symbol
            side := request.side
            quantity := request.quantity
            orderType := request.orderType
            limitPrice := request.limitPrice
            stopPrice := request.stopPrice }) })

/-- The `Debug` text of an order status. -/
def statusName : OrderStatus → String
  | .pending => "Pending"
  | .pendingCancel => "PendingCancel"
  | .open => "Open"
  | .partiallyFilled => "PartiallyFilled"
  | .filled => "Filled"
  | .cancelled => "Cancelled"
  | .rejected => "Rejected"
  | .expired => "Expired"

/-- The prices are stored before the quantity is checked, so they stay if it is refused. -/
def modifyOrder (s : MockState) (orderId : String) (request : ModifyOrderRequest) :
    Except GatewayError ModifyOrderResult × MockState :=
  match s.orders.get orderId with
  | none => (.error (.orderNotFound orderId), s)
  | some order =>
    if order.status ≠ .open then
      (.error (.invalidRequest ("Cannot modify order in " ++ statusName order.status ++ " state")
        none), s)
    else
      let order := { order with
        limitPrice := request.limitPrice <|> order.limitPrice
        stopPrice := request.stopPrice <|> order.stopPrice }
      let put (order : Order) := { s with orders := s.orders.insert orderId order }
      match request.quantity with
      | some qty =>
        if qty < order.filledQuantity then
          (.error (.invalidRequest "New quantity cannot be less than filled quantity"
            (some "quantity")), put order)
        else
          let order := { order with
            quantity := qty
            remainingQuantity := qty - order.filledQuantity }
          (.ok ⟨order, none⟩, put order)
      | none => (.ok ⟨order, none⟩, put order)

def cancelOrder (s : MockState) (orderId : String) :
    Except GatewayError CancelOrderResult × MockState :=
  match s.orders.get orderId with
  | none => (.error (.orderNotFound orderId), s)
  | some order =>
    if order.status = .filled then
      (.error (.invalidRequest "Cannot cancel a filled order" none), s)
    else
      let order := { order with status := .cancelled }
      (.ok ⟨true, order⟩,
        { s with
          orders := s.orders.insert orderId order
          sent := s.sent ++ [(.orderCancelled, order)] })

/-- The order that closes a position, filled at once. -/
def closingOrder (orderId positionId symbol : String) (side : Side) (quantity fillPrice : Decimal) :
    Order where
  id := orderId
  symbol := symbol
  side := side
  orderType := .market
  quantity := quantity
  filledQuantity := quantity
  remainingQuantity := 0
  averageFillPrice := some fillPrice
  status := .filled
  positionId := some positionId
  reduceOnly := some true
  timeInForce := .gtc

/-- Close a position, or `quantity` of it, at the price `fillPrice`. -/
def closePosition (s : MockState) (positionId : String) (quantity : Option Decimal)
    (orderId tradeId : String) (fillPrice : Decimal) :
    Except GatewayError OrderHandle × MockState :=
  match s.positions.toList.find? fun (_, p) => p.id = positionId with
  | none => (.error (.positionNotFound positionId), s)
  | some (key, position) =>
    let closeQty := min (quantity.getD position.quantity) position.quantity
    let positions :=
      if closeQty = position.quantity then s.positions.remove key
      else s.positions.insert key { position with quantity := position.quantity - closeQty }
    let closeSide : Side := match position.side with
      | .long => .sell
      | .short => .buy
    let order := closingOrder orderId positionId position.symbol closeSide closeQty fillPrice
    let trade := Trade.ofFill tradeId orderId position.symbol closeSide closeQty fillPrice
    (.ok { id := orderId, status := .filled },
      { s with
        positions
        orders := s.orders.insert orderId order
        trades := s.trades ++ [trade]
        sent := s.sent ++ [(.orderFilled, order)] })

/-- A step of the provider: a call, or a task that wakes up. -/
inductive MockCall where
  | submitOrder (orderId : String) (request : OrderRequest)
  | modifyOrder (orderId : String) (request : ModifyOrderRequest)
  | cancelOrder (orderId : String)
  | closePosition (positionId : String) (quantity : Option Decimal) (orderId tradeId : String)
      (fillPrice : Decimal)
  | wake (orderId : String) (fillPrice : Decimal) (tradeId : String)

def MockCall.step (a : MockProviderAdapter) (s : MockState) : MockCall → MockState
  | .submitOrder orderId request => (Mock.submitOrder a s orderId request).2
  | .modifyOrder orderId request => (Mock.modifyOrder s orderId request).2
  | .cancelOrder orderId => (Mock.cancelOrder s orderId).2
  | .closePosition positionId quantity orderId tradeId fillPrice =>
    (Mock.closePosition s positionId quantity orderId tradeId fillPrice).2
  | .wake orderId fillPrice tradeId => Mock.wake a s orderId fillPrice tradeId

end Mock

end Gateway
