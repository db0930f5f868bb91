import Mathlib.Algebra.Order.BigOperators.Group.List
import TradingGateway.Decimals
import TradingGateway.Websocket.Messages

/-!
# Spot orders (`crates/binance/src/spot/adapter.rs`, `websocket.rs`)

An order is reported by an execution report for each of its executions, and can be asked for over
REST. Both are translated to an order of the gateway, with an average fill price.

* `convertBinanceOrder`: the translation of a REST order. Its average is the quote quantity over the
  filled quantity.
* `buildOrderFromSpotReport`: the translation of a report. Its average is the price of the last
  execution.
* `average_iff_last_price`: when that is the average.
-/

namespace Gateway.Binance

/-! ## Wire types -/

structure BinanceOrder where
  orderId : ℤ
  symbol : String
  status : String
  clientOrderId : String
  price : String
  origQty : String
  executedQty : String
  cummulativeQuoteQty : String
  orderType : String
  side : String
  timeInForce : String
  /-- In milliseconds. -/
  time : ℤ
  stopPrice : Option String
  deriving DecidableEq, Repr

structure SpotExecutionReport where
  symbol : String
  clientOrderId : String
  side : String
  orderType : String
  timeInForce : String
  quantity : String
  price : String
  stopPrice : String
  executionType : String
  orderStatus : String
  orderId : ℕ
  lastExecutedQty : String
  cumulativeFilledQty : String
  lastExecutedPrice : String
  originalClientOrderId : String
  deriving DecidableEq, Repr

/-! ## Tables -/

def mapBinanceOrderStatus (status : String) : Except GatewayError OrderStatus :=
  match status with
  | "NEW" => .ok .open
  | "PARTIALLY_FILLED" => .ok .partiallyFilled
  | "FILLED" => .ok .filled
  | "CANCELED" => .ok .cancelled
  | "PENDING_CANCEL" => .ok .pending
  | "REJECTED" => .ok .rejected
  | "EXPIRED" => .ok .expired
  | other =>
    .error (.invalidValue "status" ("Unknown order status from Binance: " ++ other) (some other))

def binanceSide (side : String) : Side :=
  match side with
  | "BUY" => .buy
  | _ => .sell

def binanceTimeInForce (tif : String) : TimeInForce :=
  match tif with
  | "IOC" => .ioc
  | "FOK" => .fok
  | _ => .gtc

/-- The order types of reports. -/
def binanceOrderType (orderType : String) : OrderType :=
  match orderType with
  | "LIMIT" => .limit
  | "STOP_LOSS" | "STOP" | "STOP_MARKET" => .stop
  | "STOP_LOSS_LIMIT" | "STOP_LIMIT" => .stopLimit
  | "TRAILING_STOP_MARKET" => .trailingStop
  | _ => .market

/-- The order types of REST orders. -/
def restOrderType (orderType : String) : OrderType :=
  match orderType with
  | "LIMIT" => .limit
  | "STOP_LOSS" => .stop
  | "STOP_LOSS_LIMIT" => .stopLimit
  | "TRAILING_STOP_MARKET" => .trailingStop
  | _ => .market

def binanceExecutionToEventType (executionType orderStatus : String) : OrderEventType :=
  match executionType with
  | "NEW" => .orderCreated
  | "TRADE" => if orderStatus = "FILLED" then .orderFilled else .orderPartiallyFilled
  | "CANCELED" => .orderCancelled
  | "REJECTED" => .orderRejected
  | "EXPIRED" => .orderExpired
  | _ => .orderModified

/-! ## Translations -/

variable (text : DecimalText)

/-- The price of an order without one. -/
def zeroPrice : String := "0.00000000"

/-- `ocoGroupId` is the group that the state manager has for an order. -/
def convertBinanceOrder (ocoGroupId : String → Option String) (o : BinanceOrder) :
    Except GatewayError Order := do
  let status ← mapBinanceOrderStatus o.status
  let quantity := (text.read o.origQty).getD 0
  let filledQuantity := (text.read o.executedQty).getD 0
  pure
    { id := toString o.orderId
      clientOrderId := some o.clientOrderId
      symbol := o.symbol
      side := binanceSide o.side
      orderType := restOrderType o.orderType
      quantity
      filledQuantity
      remainingQuantity := quantity - filledQuantity
      limitPrice := if o.price = zeroPrice then none else text.read o.price
      stopPrice := o.stopPrice.bind text.read
      averageFillPrice :=
        if filledQuantity > 0 then
          some ((text.read o.cummulativeQuoteQty).getD 0 / filledQuantity)
        else none
      status
      ocoGroupId := ocoGroupId (toString o.orderId)
      timeInForce := binanceTimeInForce o.timeInForce }

def reportClientOrderId (report : SpotExecutionReport) : Option String :=
  if report.executionType = "CANCELED" ∧ report.originalClientOrderId ≠ "" then
    some report.originalClientOrderId
  else if report.clientOrderId ≠ "" then some report.clientOrderId
  else none

def buildOrderFromSpotReport (report : SpotExecutionReport) (status : OrderStatus) : Order :=
  let quantity := (text.read report.quantity).getD 0
  let filledQuantity := (text.read report.cumulativeFilledQty).getD 0
  { id := toString report.orderId
    clientOrderId := reportClientOrderId report
    symbol := report.symbol
    side := binanceSide report.side
    orderType := binanceOrderType report.orderType
    quantity
    filledQuantity
    remainingQuantity := max (quantity - filledQuantity) 0
    limitPrice := (text.read report.price).filter fun p => p > 0
    stopPrice := (text.read report.stopPrice).filter fun p => p > 0
    averageFillPrice := if filledQuantity > 0 then text.read report.lastExecutedPrice else none
    status
    timeInForce := binanceTimeInForce report.timeInForce }

/-- The messages of a report. One with an unknown status is dropped. -/
def parseSpotExecutionReport (report : SpotExecutionReport) : List WsMessage :=
  match mapBinanceOrderStatus report.orderStatus with
  | .error _ => []
  | .ok status =>
    [.order (binanceExecutionToEventType report.executionType report.orderStatus)
      (buildOrderFromSpotReport text report status) none]

/-! ## The executions of an order -/

structure Execution where
  quantity : Decimal
  price : Decimal
  quantity_pos : 0 < quantity
  price_pos : 0 < price

/-- The quantity that is filled. -/
def filled (executions : List Execution) : Decimal := (executions.map Execution.quantity).sum

/-- What was paid for it. -/
def quote (executions : List Execution) : Decimal :=
  (executions.map fun e => e.quantity * e.price).sum

/-- The price on average, by quantity. -/
def average (executions : List Execution) : Decimal := quote executions / filled executions

/-- The report of the last execution, after the earlier ones. -/
structure Reports (earlier : List Execution) (last : Execution) (report : SpotExecutionReport) :
    Prop where
  lastQuantity : text.read report.lastExecutedQty = some last.quantity
  lastPrice : text.read report.lastExecutedPrice = some last.price
  cumulative : text.read report.cumulativeFilledQty = some (filled (earlier ++ [last]))
  /-- The order is still there, partly or wholly filled. -/
  status : report.orderStatus = "PARTIALLY_FILLED" ∨ report.orderStatus = "FILLED"

/-- The order over REST after the executions. -/
structure Shows (executions : List Execution) (o : BinanceOrder) : Prop where
  executed : text.read o.executedQty = some (filled executions)
  quote : text.read o.cummulativeQuoteQty = some (quote executions)
  status : o.status = "PARTIALLY_FILLED" ∨ o.status = "FILLED"

/-! ## The average -/

variable {text} {earlier : List Execution} {last : Execution} {executions : List Execution}

theorem filled_concat (earlier : List Execution) (last : Execution) :
    filled (earlier ++ [last]) = filled earlier + last.quantity := by
  simp [filled]

theorem quote_concat (earlier : List Execution) (last : Execution) :
    quote (earlier ++ [last]) = quote earlier + last.quantity * last.price := by
  simp [quote]

theorem filled_nonneg (executions : List Execution) : 0 ≤ filled executions :=
  List.sum_nonneg (by simpa using fun e _ => e.quantity_pos.le)

theorem filled_pos (h : executions ≠ []) : 0 < filled executions := by
  obtain ⟨e, executions, rfl⟩ := List.exists_cons_of_ne_nil h
  have hrest := filled_nonneg executions
  rw [filled, List.map_cons, List.sum_cons, ← filled]
  exact add_pos_of_pos_of_nonneg e.quantity_pos hrest

/-- The last price is the average exactly if it is the first one, or the average so far. -/
theorem last_eq_average_iff (earlier : List Execution) (last : Execution) :
    last.price = average (earlier ++ [last]) ↔ earlier = [] ∨ last.price = average earlier := by
  have hsum : 0 < filled (earlier ++ [last]) := filled_pos (by simp)
  rw [average, eq_div_iff hsum.ne', filled_concat, quote_concat]
  by_cases hearlier : earlier = []
  · subst hearlier
    simp [filled, quote, mul_comm]
  · have hfilled : 0 < filled earlier := filled_pos hearlier
    rw [average, eq_div_iff hfilled.ne', mul_add, mul_comm last.quantity, add_left_inj]
    simp [hearlier]

theorem mapBinanceOrderStatus_filled {status : String}
    (h : status = "PARTIALLY_FILLED" ∨ status = "FILLED") :
    ∃ s, mapBinanceOrderStatus status = .ok s := by
  rcases h with rfl | rfl
  · exact ⟨.partiallyFilled, rfl⟩
  · exact ⟨.filled, rfl⟩

theorem parseSpotExecutionReport_average {report : SpotExecutionReport}
    (h : Reports text earlier last report) :
    ∃ event order, parseSpotExecutionReport text report = [.order event order none] ∧
      order.averageFillPrice = some last.price := by
  obtain ⟨status, hstatus⟩ := mapBinanceOrderStatus_filled h.status
  refine ⟨_, buildOrderFromSpotReport text report status, by
    rw [parseSpotExecutionReport, hstatus], ?_⟩
  have hpos : 0 < filled (earlier ++ [last]) := filled_pos (by simp)
  simp only [buildOrderFromSpotReport, h.cumulative, Option.getD_some, gt_iff_lt, hpos, if_true,
    h.lastPrice]

theorem convertBinanceOrder_average {o : BinanceOrder} (hne : executions ≠ [])
    (h : Shows text executions o) (ocoGroupId : String → Option String) :
    ∃ order, convertBinanceOrder text ocoGroupId o = .ok order ∧
      order.averageFillPrice = some (average executions) := by
  obtain ⟨status, hstatus⟩ := mapBinanceOrderStatus_filled h.status
  have hpos : 0 < filled executions := filled_pos hne
  refine ⟨_, by rw [convertBinanceOrder, hstatus]; rfl, ?_⟩
  simp only [h.executed, h.quote, Option.getD_some, gt_iff_lt, hpos, if_true, average]

/-- For every sequence of executions: the event of the last one has the average price, and the same
one as the order over REST, exactly if it was the first one or at the average price so far. -/
theorem average_iff_last_price (text : DecimalText) (ocoGroupId : String → Option String)
    (earlier : List Execution) (last : Execution) (report : SpotExecutionReport) (o : BinanceOrder)
    (hreport : Reports text earlier last report) (hshows : Shows text (earlier ++ [last]) o) :
    ∃ event order rest, parseSpotExecutionReport text report = [.order event order none] ∧
      convertBinanceOrder text ocoGroupId o = .ok rest ∧
      (order.averageFillPrice = some (average (earlier ++ [last])) ∧
          order.averageFillPrice = rest.averageFillPrice ↔
        earlier = [] ∨ last.price = average earlier) := by
  obtain ⟨event, order, hparse, horder⟩ := parseSpotExecutionReport_average hreport
  obtain ⟨rest, hconvert, hrest⟩ := convertBinanceOrder_average (by simp) hshows ocoGroupId
  refine ⟨event, order, rest, hparse, hconvert, ?_⟩
  rw [horder, hrest, Option.some.injEq, and_self, last_eq_average_iff]

/-- Two executions, 1 at 100 and 3 at 200. -/
def firstHundred : Execution := ⟨1, 100, by norm_num, by norm_num⟩

def thenTwoHundred : Execution := ⟨3, 200, by norm_num, by norm_num⟩

def secondReport : SpotExecutionReport where
  symbol := "BTCUSDT"
  clientOrderId := "c1"
  side := "BUY"
  orderType := "LIMIT"
  timeInForce := "GTC"
  quantity := "10"
  price := "200"
  stopPrice := "0"
  executionType := "TRADE"
  orderStatus := "PARTIALLY_FILLED"
  orderId := 7
  lastExecutedQty := "3"
  cumulativeFilledQty := "4"
  lastExecutedPrice := "200"
  originalClientOrderId := ""

def orderAfterTwo : BinanceOrder where
  orderId := 7
  symbol := "BTCUSDT"
  status := "PARTIALLY_FILLED"
  clientOrderId := "c1"
  price := "200"
  origQty := "10"
  executedQty := "4"
  cummulativeQuoteQty := "700"
  orderType := "LIMIT"
  side := "BUY"
  timeInForce := "GTC"
  time := 0
  stopPrice := none

theorem secondReport_reports :
    Reports .fractions [firstHundred] thenTwoHundred secondReport := by
  constructor <;> decide +kernel

theorem orderAfterTwo_shows :
    Shows .fractions ([firstHundred] ++ [thenTwoHundred]) orderAfterTwo := by
  constructor <;> decide +kernel

theorem average_iff_last_price_second :
    Reports .fractions [firstHundred] thenTwoHundred secondReport ∧
      Shows .fractions ([firstHundred] ++ [thenTwoHundred]) orderAfterTwo ∧
      ∃ event order rest, parseSpotExecutionReport .fractions secondReport =
          [.order event order none] ∧
        convertBinanceOrder .fractions (fun _ => none) orderAfterTwo = .ok rest ∧
        (order.averageFillPrice = some (average ([firstHundred] ++ [thenTwoHundred])) ∧
            order.averageFillPrice = rest.averageFillPrice ↔
          [firstHundred] = [] ∨ thenTwoHundred.price = average [firstHundred]) :=
  ⟨secondReport_reports, orderAfterTwo_shows,
    average_iff_last_price .fractions (fun _ => none) [firstHundred] thenTwoHundred secondReport
      orderAfterTwo secondReport_reports orderAfterTwo_shows⟩

/-- The event says 200, the order over REST 175, which is the average. -/
theorem second_average_differs :
    ((parseSpotExecutionReport .fractions secondReport).map fun m => match m with
      | .order _ order _ => order.averageFillPrice
      | _ => none) = [some 200] ∧
      (convertBinanceOrder .fractions (fun _ => none) orderAfterTwo).map Order.averageFillPrice =
        .ok (some 175) ∧
      average ([firstHundred] ++ [thenTwoHundred]) = 175 := by
  decide +kernel

end Gateway.Binance
