import TradingGateway.CircuitBreaker
import TradingGateway.Decimals
import TradingGateway.Lib.Json

/-!
# Orders over REST (`crates/oanda/src/adapter.rs`, `types.rs`)

What Oanda sends for an order and what it is sent, the translations between that and the gateway's
orders, and the errors of a request. A request is modelled by its answer. The orders of the gateway
have no time stamps here.
-/

namespace Gateway.Oanda

/-! ## Wire types -/

structure OandaClientExtensions where
  id : Option String := none
  tag : Option String := none
  comment : Option String := none
  deriving DecidableEq, Repr

/-- A stop loss or a take profit that is created when the order is filled. -/
structure OandaOnFill where
  price : String
  timeInForce : String := "GTC"
  clientExtensions : Option OandaClientExtensions := none
  deriving DecidableEq, Repr

structure OandaTrailingStopLossOnFill where
  distance : String
  timeInForce : String := "GTC"
  deriving DecidableEq, Repr

structure OandaOrder where
  id : String
  orderType : String
  instrument : Option String := none
  units : Option String := none
  price : Option String := none
  timeInForce : Option String := none
  positionFill : Option String := none
  state : String
  createTime : String
  stopLossOnFill : Option OandaOnFill := none
  takeProfitOnFill : Option OandaOnFill := none
  trailingStopLossOnFill : Option OandaTrailingStopLossOnFill := none
  /-- The trade that the order belongs to, if it is a stop loss or a take profit. -/
  tradeId : Option String := none
  clientExtensions : Option OandaClientExtensions := none
  deriving DecidableEq, Repr

structure OandaOrderRequest where
  orderType : String
  instrument : String
  units : String
  timeInForce : String
  positionFill : Option String
  price : Option String
  stopLossOnFill : Option OandaOnFill
  takeProfitOnFill : Option OandaOnFill
  trailingStopLossOnFill : Option OandaTrailingStopLossOnFill
  clientExtensions : Option OandaClientExtensions
  deriving DecidableEq, Repr

/-! ## Translations -/

/-- The fill may only reduce a position. -/
def reduceOnlyPositionFill : String := "REDUCE_ONLY"

variable (text : DecimalText)

/-- Signed units. -/
def toOandaUnits (side : Side) (quantity : Decimal) : String :=
  match side with
  | .buy => text.write quantity
  | .sell => "-" ++ text.write quantity

def fromOandaUnits (units : String) : Except GatewayError (Side × Decimal) :=
  match text.read units with
  | none =>
    .error (.invalidValue "units" ("Cannot parse Oanda units '" ++ units ++ "' as decimal")
      (some units))
  | some d => if d < 0 then .ok (.sell, |d|) else .ok (.buy, d)

def toOandaOrderType : OrderType → Except GatewayError String
  | .market => .ok "MARKET"
  | .limit => .ok "LIMIT"
  | .stop => .ok "STOP"
  | .stopLimit => .ok "MARKET_IF_TOUCHED"
  | .trailingStop => .error (.unsupportedOperation "standalone trailing stop order" "oanda")

def fromOandaOrderType (oandaType : String) : Except GatewayError OrderType :=
  match oandaType with
  | "MARKET" => .ok .market
  | "LIMIT" | "TAKE_PROFIT" => .ok .limit
  | "STOP" | "STOP_LOSS" => .ok .stop
  | "MARKET_IF_TOUCHED" => .ok .stopLimit
  | "TRAILING_STOP_LOSS" => .ok .trailingStop
  | other =>
    .error (.invalidValue "order_type" ("Unknown order type from Oanda: " ++ other) (some other))

def toOandaTif : TimeInForce → String
  | .gtc => "GTC"
  | .day => "GFD"
  | .ioc => "IOC"
  | .fok => "FOK"

def fromOandaTif (tif : String) : Except GatewayError TimeInForce :=
  match tif with
  | "GTC" | "GTD" => .ok .gtc
  | "GFD" => .ok .day
  | "IOC" => .ok .ioc
  | "FOK" => .ok .fok
  | other =>
    .error (.invalidValue "time_in_force" ("Unknown time in force from Oanda: " ++ other)
      (some other))

def fromOandaOrderState (state : String) : Except GatewayError OrderStatus :=
  match state with
  | "PENDING" => .ok .open
  | "FILLED" | "TRIGGERED" => .ok .filled
  | "CANCELLED" => .ok .cancelled
  | other =>
    .error (.invalidValue "state" ("Unknown order state from Oanda: " ++ other) (some other))

/-- The limit and the stop price of an order with this trigger price. -/
def triggerPrices (orderType : OrderType) (price : Option Decimal) :
    Option Decimal × Option Decimal :=
  match orderType with
  | .limit => (price, none)
  | .stop => (none, price)
  | .stopLimit => (price, price)
  | _ => (none, none)

/-- The side and the quantity of an order; an order without units buys nothing. -/
def orderUnits (units : Option String) : Except GatewayError (Side × Decimal) :=
  match units with
  | some units => fromOandaUnits text units
  | none => .ok (.buy, 0)

def orderTif (tif : Option String) : Except GatewayError TimeInForce :=
  match tif with
  | some tif => fromOandaTif tif
  | none => .ok .gtc

/-- An order of the broker as an order of the gateway. The broker does not tell how much of a
pending order is filled. -/
def translateOandaOrder (o : OandaOrder) : Except GatewayError Order := do
  let (side, quantity) ← orderUnits text o.units
  let orderType ← fromOandaOrderType o.orderType
  let prices := triggerPrices orderType (o.price.bind text.read)
  let timeInForce ← orderTif o.timeInForce
  let status ← fromOandaOrderState o.state
  pure
    { id := o.id
      clientOrderId := o.clientExtensions.bind OandaClientExtensions.id
      symbol := o.instrument.getD ""
      side
      orderType
      quantity
      filledQuantity := 0
      remainingQuantity := quantity
      limitPrice := prices.1
      stopPrice := prices.2
      stopLoss := o.stopLossOnFill.bind fun sl => text.read sl.price
      takeProfit := o.takeProfitOnFill.bind fun tp => text.read tp.price
      trailingDistance := o.trailingStopLossOnFill.bind fun ts => text.read ts.distance
      status
      reduceOnly := o.positionFill.map fun fill => fill = reduceOnlyPositionFill
      timeInForce }

/-! ## Requests -/

def mapOandaRejectCode (reason : String) : String :=
  match reason with
  | "INSUFFICIENT_MARGIN" | "INSUFFICIENT_FUNDS" | "INSUFFICIENT_LIQUIDITY" => "INSUFFICIENT_FUNDS"
  | "MARKET_HALTED" | "INSTRUMENT_NOT_TRADEABLE" => "MARKET_CLOSED"
  | "" => "ORDER_REJECTED"
  | other => other

def mapHttpError (status : ℕ) (body : Json) : GatewayError :=
  let message :=
    (((body.get "errorMessage").or (body.get "message")).bind Json.asStr).getD "Unknown error"
  match status with
  | 429 => .rateLimited none
  | 503 => .providerUnavailable message
  | 500 | 502 | 504 => .providerError message (some "oanda")
  | 400 => .invalidRequest message none
  | 401 | 403 => .unauthorized message "AUTH_FAILED"
  | 404 => .providerError ("Upstream returned 404: " ++ message) (some "oanda")
  | 422 =>
    .orderRejected message
      (some (mapOandaRejectCode (((body.get "rejectReason").bind Json.asStr).getD "")))
  | status => .providerError ("HTTP " ++ toString status ++ ": " ++ message) (some "oanda")

/-- What becomes of a request: no answer, or an answer with its body, as JSON if it is, and as the
value that was asked for. -/
inductive Answer (α : Type) where
  | failed (error : String)
  | answered (status : ℕ) (json : Option Json) (value : Except String α)

def isSuccess (status : ℕ) : Bool := 200 ≤ status && status < 300

/-- The body of an error, if it is JSON. -/
def errorBody (json : Option Json) : Json :=
  json.getD (.obj [("errorMessage", .str "Unknown error")])

def getJson {α : Type} : Answer α → Except GatewayError α
  | .failed error => .error (.providerError ("Request failed: " ++ error) (some "oanda"))
  | .answered status json value =>
    if isSuccess status then
      match value with
      | .ok value => .ok value
      | .error error => .error (.internal ("Failed to parse Oanda response: " ++ error))
    else .error (mapHttpError status (errorBody json))

/-- An error of the provider that mentions 404 becomes `missing`. -/
def orMissing {α : Type} (missing : GatewayError) : Except GatewayError α → Except GatewayError α
  | .error (.providerError message provider) =>
    if containsWord message.toList "404" then .error missing
    else .error (.providerError message provider)
  | result => result

def checkCircuitBreaker (breaker : AdapterCircuitBreaker) : Except GatewayError Unit :=
  if breaker.isOpen then .error breaker.openError else .ok ()

end Gateway.Oanda
