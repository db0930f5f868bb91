import TradingGateway.Error
import TradingGateway.Lib.Table
import TradingGateway.Saxo.Frame

/-!
# Orders to and from the broker (`crates/saxo/src/adapter.rs`)

`buildOrderRequest` encodes a gateway request for the broker, `translateOrder` decodes an order
resource of the broker. A floating-point number of the wire is the exact rational it stands for.

The encoder puts the limit price of a `stopLimit` order into both price fields of the broker. The
decoder reads the stop price from the first of them, so it reports the limit price as the stop
price.

* `saxo_round_trip_iff`: which requests survive the round trip.
-/

namespace Gateway.Saxo

/-! ## The broker's data -/

structure SaxoDuration where
  durationType : String
  deriving DecidableEq, Repr

/-- A related order attached to a working order. -/
structure SaxoRelatedOrder where
  orderType : String
  price : Option Decimal
  trailingStopDistanceToMarket : Option Decimal
  deriving DecidableEq, Repr

/-- A related open order, active after the entry filled. -/
structure SaxoRelatedOpenOrder where
  orderId : String
  orderType : String
  price : Option Decimal
  status : String
  deriving DecidableEq, Repr

/-- A single order resource. -/
structure SaxoOrder where
  orderId : String
  uic : UInt32
  assetType : String
  buySell : String
  orderType : String
  amount : Decimal
  filledAmount : Decimal
  price : Option Decimal
  stopPrice : Option Decimal
  trailingStopDistanceToMarket : Option Decimal
  trailingStopStep : Option Decimal
  status : String
  duration : Option SaxoDuration
  externalReference : Option String
  relatedOrders : Option (List SaxoRelatedOrder)
  relatedOpenOrders : Option (List SaxoRelatedOpenOrder)
  averageFillPrice : Option Decimal
  deriving DecidableEq, Repr

/-- A related order in a bracket request. -/
structure SaxoRelatedOrderRequest where
  orderType : String
  orderPrice : Option Decimal
  orderDuration : SaxoDuration
  buySell : String
  amount : Decimal
  deriving DecidableEq, Repr

/-- The body of a new order. -/
structure SaxoOrderRequest where
  uic : UInt32
  assetType : String
  buySell : String
  amount : Decimal
  orderType : String
  manualOrder : Bool
  accountKey : String
  orderDuration : SaxoDuration
  orderPrice : Option Decimal
  stopLimitPrice : Option Decimal
  trailingStopDistanceToMarket : Option Decimal
  trailingStopStep : Option Decimal
  externalReference : Option String
  orders : Option (List SaxoRelatedOrderRequest)
  deriving DecidableEq, Repr

structure SaxoInstrumentInfo where
  uic : UInt32
  assetType : String
  deriving DecidableEq, Repr

/-- Bidirectional map between symbols and the broker's instrument ids. -/
structure SaxoInstrumentMap where
  symbolToSaxo : Table String SaxoInstrumentInfo
  uicToSymbol : Table (UInt32 × String) String

namespace SaxoInstrumentMap

def resolveSymbol (map : SaxoInstrumentMap) (symbol : String) :
    Except GatewayError SaxoInstrumentInfo :=
  match map.symbolToSaxo.get symbol with
  | some info => .ok info
  | none => .error (.symbolNotFound symbol)

def resolveUic (map : SaxoInstrumentMap) (uic : UInt32) (assetType : String) :
    Except GatewayError String :=
  match map.uicToSymbol.get (uic, assetType) with
  | some symbol => .ok symbol
  | none => .error (.symbolNotFound ("UIC " ++ toString uic ++ " (" ++ assetType ++ ")"))

end SaxoInstrumentMap

/-! ## Words of the wire -/

def toSaxoOrderType : OrderType → String
  | .market => "Market"
  | .limit => "Limit"
  | .stop => "StopIfTraded"
  | .stopLimit => "StopLimit"
  | .trailingStop => "TrailingStopIfTraded"

def fromSaxoOrderType : String → Except GatewayError OrderType
  | "Market" => .ok .market
  | "Limit" => .ok .limit
  | "StopIfTraded" | "Stop" => .ok .stop
  | "StopLimit" => .ok .stopLimit
  | "TrailingStopIfTraded" | "TrailingStop" => .ok .trailingStop
  | other => .error (.invalidValue "order_type" ("Unknown Saxo order type: " ++ other) (some other))

def toSaxoBuySell : Side → String
  | .buy => "Buy"
  | .sell => "Sell"

def fromSaxoBuySell : String → Except GatewayError Side
  | "Buy" => .ok .buy
  | "Sell" => .ok .sell
  | other => .error (.invalidValue "buy_sell" ("Unknown Saxo buy/sell: " ++ other) (some other))

def toSaxoDuration : TimeInForce → SaxoDuration
  | .gtc => ⟨"GoodTillCancel"⟩
  | .day => ⟨"DayOrder"⟩
  | .ioc => ⟨"ImmediateOrCancel"⟩
  | .fok => ⟨"FillOrKill"⟩

def fromSaxoDuration (duration : SaxoDuration) : Except GatewayError TimeInForce :=
  match duration.durationType with
  | "GoodTillCancel" | "GoodTillDate" => .ok .gtc
  | "DayOrder" => .ok .day
  | "ImmediateOrCancel" => .ok .ioc
  | "FillOrKill" => .ok .fok
  | other =>
    .error (.invalidValue "duration_type" ("Unknown Saxo duration type: " ++ other) (some other))

def fromSaxoOrderStatus : String → Except GatewayError OrderStatus
  | "Working" => .ok .open
  | "Filled" | "FinalFill" => .ok .filled
  | "Cancelled" | "Canceled" => .ok .cancelled
  | "Rejected" => .ok .rejected
  | "Expired" => .ok .expired
  | "LockedPlacementPending" | "Placed" | "NotWorking" => .ok .pending
  | "PartiallyFilled" => .ok .partiallyFilled
  | other => .error (.invalidValue "status" ("Unknown Saxo order status: " ++ other) (some other))

theorem fromSaxoOrderType_toSaxoOrderType (t : OrderType) :
    fromSaxoOrderType (toSaxoOrderType t) = .ok t := by
  cases t <;> rfl

theorem fromSaxoBuySell_toSaxoBuySell (side : Side) :
    fromSaxoBuySell (toSaxoBuySell side) = .ok side := by
  cases side <;> rfl

/-! ## The decoder -/

/-- Which entry order each exit order belongs to. -/
abbrev BracketLinks := Table String String

/-- Note the entry that each of the order's bracket legs belongs to. -/
def recordBracketLegs (links : BracketLinks) (order : SaxoOrder) : BracketLinks :=
  match order.relatedOpenOrders with
  | none => links
  | some related => related.foldl (fun links rel => links.insert rel.orderId order.orderId) links

/-- One related order: a later stop loss or take profit replaces an earlier one. -/
def takeRelated (exits : Option Decimal × Option Decimal) (orderType : String)
    (price : Option Decimal) : Option Decimal × Option Decimal :=
  match orderType with
  | "StopIfTraded" | "Stop" => (price, exits.2)
  | "Limit" => (exits.1, price)
  | _ => exits

/-- The stop loss and the take profit. -/
def extractSlTpFromRelated (order : SaxoOrder) : Option Decimal × Option Decimal :=
  let exits := (order.relatedOrders.getD []).foldl
    (fun exits rel => takeRelated exits rel.orderType rel.price) (none, none)
  (order.relatedOpenOrders.getD []).foldl
    (fun exits rel => takeRelated exits rel.orderType rel.price) exits

/-- The limit price and the stop price of an order resource. -/
def pricesFrom (orderType : OrderType) (price stopPrice : Option Decimal) :
    Option Decimal × Option Decimal :=
  match orderType with
  | .limit => (price, none)
  | .stop => (none, price)
  | .stopLimit => (stopPrice, price)
  | _ => (none, none)

/-- The gateway order of an order resource. A resolved leg gives up its link. -/
def translateOrder (map : SaxoInstrumentMap) (links : BracketLinks) (order : SaxoOrder) :
    Except GatewayError (Order × BracketLinks) := do
  let symbol ← map.resolveUic order.uic order.assetType
  let side ← fromSaxoBuySell order.buySell
  let orderType ← fromSaxoOrderType order.orderType
  let status ← fromSaxoOrderStatus order.status
  let timeInForce ← (order.duration.mapM fromSaxoDuration)
  let prices := pricesFrom orderType order.price order.stopPrice
  let exits := extractSlTpFromRelated order
  let links := recordBracketLegs links order
  let parentOrderId := links.get order.orderId
  let links := if status.isTerminal then links.remove order.orderId else links
  pure
    ({ id := order.orderId
       clientOrderId := order.externalReference
       symbol
       side
       orderType
       quantity := order.amount
       filledQuantity := order.filledAmount
       remainingQuantity := order.amount - order.filledAmount
       limitPrice := prices.1
       stopPrice := prices.2
       stopLoss := exits.1
       takeProfit := exits.2
       trailingDistance := order.trailingStopDistanceToMarket
       averageFillPrice := order.averageFillPrice
       status
       parentOrderId
       timeInForce := timeInForce.getD .gtc }, links)

/-! ## The encoder -/

def maxExternalReferenceLen : ℕ := 50

/-- The client order id, cut off after 50 bytes. The cut panics inside a character. -/
def externalReference : Option String → Checked GatewayError (Option String)
  | none => .ok none
  | some id =>
    if (utf8 id).length > maxExternalReferenceLen then
      match String.fromUTF8? ((utf8 id).take maxExternalReferenceLen).toByteArray with
      | some cut => .ok (some cut)
      | none => .panic
    else .ok (some id)

/-- The bracket of a request: a stop loss and a take profit on the other side. -/
def buildRelatedOrders (request : OrderRequest) : Option (List SaxoRelatedOrderRequest) :=
  if request.stopLoss.isNone && request.takeProfit.isNone then none
  else
    let buySell := match request.side with
      | .buy => "Sell"
      | .sell => "Buy"
    let related (orderType : String) (price : Decimal) : SaxoRelatedOrderRequest :=
      { orderType
        orderPrice := some price
        orderDuration := ⟨"GoodTillCancel"⟩
        buySell
        amount := request.quantity }
    some ((request.stopLoss.map (related "StopIfTraded")).toList ++
      (request.takeProfit.map (related "Limit")).toList)

/-- The first price field of a request. -/
def orderPrice (request : OrderRequest) : Option Decimal := request.limitPrice.or request.stopPrice

/-- The second price field of a request. -/
def stopLimitPrice (request : OrderRequest) : Option Decimal :=
  if request.orderType = .stopLimit then request.limitPrice else none

/-- The body that the adapter submits for a request. -/
def buildOrderRequest (map : SaxoInstrumentMap) (accountKey : String) (request : OrderRequest) :
    Checked GatewayError SaxoOrderRequest := do
  let info ← Checked.ofExcept (map.resolveSymbol request.symbol)
  let reference ← externalReference request.clientOrderId
  pure
    { uic := info.uic
      assetType := info.assetType
      buySell := toSaxoBuySell request.side
      amount := request.quantity
      orderType := toSaxoOrderType request.orderType
      manualOrder := false
      accountKey
      orderDuration :=
        if request.orderType = .market then ⟨"FillOrKill"⟩ else toSaxoDuration request.timeInForce
      orderPrice := orderPrice request
      stopLimitPrice := stopLimitPrice request
      trailingStopDistanceToMarket := request.trailingDistance
      trailingStopStep := none
      externalReference := reference
      orders := buildRelatedOrders request }

/-! ## The round trip -/

/-- What an accepted order looks like at the broker. -/
theorem buildOrderRequest_eq_ok {map : SaxoInstrumentMap} {accountKey : String} {r : OrderRequest}
    {q : SaxoOrderRequest} (h : buildOrderRequest map accountKey r = .ok q) :
    q.buySell = toSaxoBuySell r.side ∧ q.orderType = toSaxoOrderType r.orderType ∧
      q.amount = r.quantity ∧ q.orderPrice = orderPrice r ∧
      q.stopLimitPrice = stopLimitPrice r := by
  unfold buildOrderRequest at h
  obtain ⟨info, -, h⟩ := Checked.bind_eq_ok h
  obtain ⟨reference, -, h⟩ := Checked.bind_eq_ok h
  cases h
  exact ⟨rfl, rfl, rfl, rfl, rfl⟩

/-- What the gateway reports of an order resource. -/
theorem translateOrder_eq_ok {map : SaxoInstrumentMap} {links : BracketLinks} {o : SaxoOrder}
    {order : Order} (h : (translateOrder map links o).map Prod.fst = .ok order) :
    fromSaxoBuySell o.buySell = .ok order.side ∧
      fromSaxoOrderType o.orderType = .ok order.orderType ∧ order.quantity = o.amount ∧
      (order.limitPrice, order.stopPrice) = pricesFrom order.orderType o.price o.stopPrice := by
  obtain ⟨result, hrun, rfl⟩ := Checked.exceptMap_eq_ok h
  unfold translateOrder at hrun
  obtain ⟨symbol, -, hrun⟩ := Checked.exceptBind_eq_ok hrun
  obtain ⟨side, hside, hrun⟩ := Checked.exceptBind_eq_ok hrun
  obtain ⟨orderType, htype, hrun⟩ := Checked.exceptBind_eq_ok hrun
  obtain ⟨status, -, hrun⟩ := Checked.exceptBind_eq_ok hrun
  obtain ⟨timeInForce, -, hrun⟩ := Checked.exceptBind_eq_ok hrun
  cases hrun
  exact ⟨hside, htype, rfl, rfl⟩

/-- The broker's resource has the fields as they were submitted. -/
structure Echoes (q : SaxoOrderRequest) (o : SaxoOrder) : Prop where
  buySell : o.buySell = q.buySell
  orderType : o.orderType = q.orderType
  amount : o.amount = q.amount
  price : o.price = q.orderPrice
  stopPrice : o.stopPrice = q.stopLimitPrice

/-- The reported order is the requested one. -/
structure Reports (r : OrderRequest) (order : Order) : Prop where
  side : order.side = r.side
  orderType : order.orderType = r.orderType
  quantity : order.quantity = r.quantity
  limitPrice : order.limitPrice = r.limitPrice
  stopPrice : order.stopPrice = r.stopPrice

/-- The request has the prices that its type requires. -/
def HasPrices (r : OrderRequest) : Prop :=
  match r.orderType with
  | .market => True
  | .limit => r.limitPrice.isSome
  | .stop => r.stopPrice.isSome
  | .stopLimit => r.limitPrice.isSome ∧ r.stopPrice.isSome
  | .trailingStop => False

/-- No price of the request gets lost: a `stopLimit` order has one price for both, and any other
order has no price that its type has no use for. -/
def KeepsPrices (r : OrderRequest) : Prop :=
  match r.orderType with
  | .market | .trailingStop => r.limitPrice = none ∧ r.stopPrice = none
  | .limit => r.stopPrice = none
  | .stop => r.limitPrice = none
  | .stopLimit => r.stopPrice = r.limitPrice

/-- A request that the adapter accepts is reported as it was made, if the broker echoes what was
submitted, exactly if it is a `stopLimit` request with one price for both or has no price beyond
those of its type. -/
theorem saxo_round_trip_iff (map : SaxoInstrumentMap) (accountKey : String) (r : OrderRequest)
    (q : SaxoOrderRequest) (o : SaxoOrder) (links : BracketLinks) (order : Order)
    (hr : HasPrices r) (hbuild : buildOrderRequest map accountKey r = .ok q) (hecho : Echoes q o)
    (htranslate : (translateOrder map links o).map Prod.fst = .ok order) :
    Reports r order ↔ KeepsPrices r := by
  obtain ⟨hbs, htype, hamount, hprice, hstop⟩ := buildOrderRequest_eq_ok hbuild
  obtain ⟨hside, hordType, hquantity, hprices⟩ := translateOrder_eq_ok htranslate
  rw [hecho.buySell, hbs, fromSaxoBuySell_toSaxoBuySell, Except.ok.injEq] at hside
  rw [hecho.orderType, htype, fromSaxoOrderType_toSaxoOrderType, Except.ok.injEq] at hordType
  rw [hecho.amount, hamount] at hquantity
  rw [hecho.price, hprice, hecho.stopPrice, hstop, ← hordType, Prod.ext_iff] at hprices
  obtain ⟨hlimit, hstopPrice⟩ := hprices
  have hreports : Reports r order ↔
      order.limitPrice = r.limitPrice ∧ order.stopPrice = r.stopPrice :=
    ⟨fun h => ⟨h.limitPrice, h.stopPrice⟩,
      fun h => ⟨hside.symm, hordType.symm, hquantity, h.1, h.2⟩⟩
  rw [hreports]
  simp only at hlimit hstopPrice
  rw [hlimit, hstopPrice]
  unfold HasPrices at hr
  unfold KeepsPrices pricesFrom orderPrice stopLimitPrice
  cases ht : r.orderType with
  | market => simp [eq_comm]
  | limit =>
    rw [ht] at hr
    obtain ⟨limit, hl⟩ := Option.isSome_iff_exists.mp hr
    simp [hl, eq_comm]
  | stop =>
    rw [ht] at hr
    obtain ⟨stop, hs⟩ := Option.isSome_iff_exists.mp hr
    cases hl : r.limitPrice with
    | none => simp [hs]
    | some limit => simp
  | stopLimit =>
    rw [ht] at hr
    obtain ⟨limit, hl⟩ := Option.isSome_iff_exists.mp hr.1
    simp [hl, eq_comm]
  | trailingStop =>
    rw [ht] at hr
    exact hr.elim

/-- One instrument. -/
def sampleMap : SaxoInstrumentMap where
  symbolToSaxo := (∅ : Table _ _).insert "EURUSD:FxSpot" ⟨21, "FxSpot"⟩
  uicToSymbol := (∅ : Table _ _).insert (21, "FxSpot") "EURUSD:FxSpot"

/-- The working order of a submitted request. -/
def echo (q : SaxoOrderRequest) : SaxoOrder where
  orderId := "o1"
  uic := q.uic
  assetType := q.assetType
  buySell := q.buySell
  orderType := q.orderType
  amount := q.amount
  filledAmount := 0
  price := q.orderPrice
  stopPrice := q.stopLimitPrice
  trailingStopDistanceToMarket := q.trailingStopDistanceToMarket
  trailingStopStep := q.trailingStopStep
  status := "Working"
  duration := some q.orderDuration
  externalReference := q.externalReference
  relatedOrders := none
  relatedOpenOrders := none
  averageFillPrice := none

theorem echoes_echo (q : SaxoOrderRequest) : Echoes q (echo q) := ⟨rfl, rfl, rfl, rfl, rfl⟩

/-- What the broker is sent for a request for 10 at the given prices. -/
def sampleBody (orderType : String) (orderPrice stopLimitPrice : Option Decimal) :
    SaxoOrderRequest where
  uic := 21
  assetType := "FxSpot"
  buySell := "Buy"
  amount := 10
  orderType
  manualOrder := false
  accountKey := "key"
  orderDuration := ⟨"GoodTillCancel"⟩
  orderPrice
  stopLimitPrice
  trailingStopDistanceToMarket := none
  trailingStopStep := none
  externalReference := none
  orders := none

/-- What the gateway reports of it. -/
def sampleOrder (orderType : OrderType) (limitPrice stopPrice : Option Decimal) : Order where
  id := "o1"
  symbol := "EURUSD:FxSpot"
  side := .buy
  orderType
  quantity := 10
  filledQuantity := 0
  remainingQuantity := 10
  limitPrice
  stopPrice
  status := .open
  timeInForce := .gtc

def stopRequest : OrderRequest :=
  { symbol := "EURUSD:FxSpot", side := .buy, quantity := 10, orderType := .stop,
    stopPrice := some 100 }

def stopLimitRequest : OrderRequest :=
  { symbol := "EURUSD:FxSpot", side := .buy, quantity := 10, orderType := .stopLimit,
    limitPrice := some 101, stopPrice := some 100 }

theorem saxo_round_trip_stop : Reports stopRequest (sampleOrder .stop none (some 100)) :=
  (saxo_round_trip_iff sampleMap "key" stopRequest (sampleBody "StopIfTraded" (some 100) none)
    (echo (sampleBody "StopIfTraded" (some 100) none)) ∅ (sampleOrder .stop none (some 100)) rfl
    (by decide +kernel) (echoes_echo _) (by decide +kernel)).mpr rfl

/-- A stop at 100 with a limit of 101 is reported as a stop at 101. -/
theorem stop_limit_reports_limit_as_stop :
    HasPrices stopLimitRequest ∧
      buildOrderRequest sampleMap "key" stopLimitRequest =
        .ok (sampleBody "StopLimit" (some 101) (some 101)) ∧
      Echoes (sampleBody "StopLimit" (some 101) (some 101))
        (echo (sampleBody "StopLimit" (some 101) (some 101))) ∧
      (translateOrder sampleMap ∅ (echo (sampleBody "StopLimit" (some 101) (some 101)))).map
        Prod.fst = .ok (sampleOrder .stopLimit (some 101) (some 101)) ∧
      ¬ Reports stopLimitRequest (sampleOrder .stopLimit (some 101) (some 101)) := by
  refine ⟨⟨rfl, rfl⟩, by decide +kernel, echoes_echo _, by decide +kernel, fun h => ?_⟩
  have hstop := h.stopPrice
  revert hstop
  decide +kernel

end Gateway.Saxo
