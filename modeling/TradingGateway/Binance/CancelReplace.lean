import TradingGateway.Binance.SpotOrders
import TradingGateway.Lib.Checked

/-!
# Modifying a spot order (`crates/binance/src/spot/adapter.rs`)

`modify_order` cancels the order and places a new one, in one request. The quantity of the request
is the new total of the order. What is already filled of the old order stays filled.

* `total_conserved_iff`: the filled quantity and the new order make up the total exactly if nothing
  was filled.
-/

namespace Gateway.Binance

structure BinanceCancelReplaceResponse where
  cancelResult : String
  newOrderResult : String
  newOrderResponse : Option BinanceOrder
  deriving DecidableEq, Repr

/-- `parse::<i64>` -/
def parseI64 (s : String) : Option ℤ :=
  let n : Option ℤ := match s.toList with
    | '-' :: digits => (DecimalText.readNat digits).map fun n : ℕ => -(n : ℤ)
    | '+' :: digits => (DecimalText.readNat digits).map fun n : ℕ => (n : ℤ)
    | digits => (DecimalText.readNat digits).map fun n : ℕ => (n : ℤ)
  n.filter fun n => -2 ^ 63 ≤ n ∧ n < 2 ^ 63

variable (text : DecimalText)

/-- The parameters of the request, in their order. -/
def replaceParams (binanceOrderId : ℤ) (existing : BinanceOrder) (request : ModifyOrderRequest) :
    List (String × String) :=
  let newQuantity := (request.quantity.map text.write).getD existing.origQty
  let newPrice := (request.limitPrice.map text.write).or
    (if existing.price = zeroPrice then none else some existing.price)
  [("symbol", existing.symbol), ("side", existing.side), ("type", existing.orderType),
    ("cancelReplaceMode", "STOP_ON_FAILURE"), ("cancelOrderId", toString binanceOrderId),
    ("quantity", newQuantity), ("timeInForce", existing.timeInForce)] ++
    (newPrice.map fun price => ("price", price)).toList ++
    (request.stopPrice.map fun price => ("stopPrice", text.write price)).toList

/-- What `modify_order` sends, after the answer `existing` to its request for the order. -/
def replaceRequest (orderId : String) (request : ModifyOrderRequest)
    (existing : Except GatewayError BinanceOrder) :
    Except GatewayError (List (String × String)) :=
  match parseI64 orderId with
  | none => .error (.invalidRequest ("Invalid order ID format: " ++ orderId) (some "order_id"))
  | some binanceOrderId => do
    let existing ← existing
    if existing.status ≠ "NEW" ∧ existing.status ≠ "PARTIALLY_FILLED" then
      .error (.orderNotModifiable orderId ("Order status is " ++ existing.status))
    else .ok (replaceParams text binanceOrderId existing request)

/-- `response` is the answer to the request that is sent. -/
def modifyOrder (ocoGroupId : String → Option String) (orderId : String)
    (request : ModifyOrderRequest) (existing : Except GatewayError BinanceOrder)
    (response : Except GatewayError BinanceCancelReplaceResponse) :
    Except GatewayError ModifyOrderResult := do
  let _ ← replaceRequest text orderId request existing
  let response ← response
  if response.cancelResult ≠ "SUCCESS" then
    .error (.orderNotModifiable orderId ("Cancel failed: " ++ response.cancelResult))
  else if response.newOrderResult ≠ "SUCCESS" then
    .error (.invalidRequest ("New order placement failed: " ++ response.newOrderResult) none)
  else
    match response.newOrderResponse with
    | none => .error (.internal "Cancel-replace succeeded but no new order in response")
    | some newOrder =>
      let order ← convertBinanceOrder text ocoGroupId newOrder
      pure { order, previousOrderId := some orderId }

/-- The quantity of the order that a request places. -/
def orderedQuantity (params : List (String × String)) : Option Decimal :=
  (params.lookup "quantity").bind text.read

/-- What can be traded in all: what is filled of the old order, and the new one. -/
def tradable (existing : BinanceOrder) (params : List (String × String)) : Option Decimal := do
  let filled ← text.read existing.executedQty
  let ordered ← orderedQuantity text params
  pure (filled + ordered)

variable {text} {existing : BinanceOrder} {request : ModifyOrderRequest}

theorem orderedQuantity_replaceParams (binanceOrderId : ℤ) {quantity : Decimal}
    (hquantity : text.read existing.origQty = some quantity) :
    orderedQuantity text (replaceParams text binanceOrderId existing request) =
      some (request.quantity.getD quantity) := by
  have hlookup : (replaceParams text binanceOrderId existing request).lookup "quantity" =
      some ((request.quantity.map text.write).getD existing.origQty) := by
    rfl
  rw [orderedQuantity, hlookup, Option.bind_some]
  cases request.quantity with
  | none => exact hquantity
  | some q => exact text.read_write q

theorem replaceRequest_ok {orderId : String} {params : List (String × String)}
    (h : replaceRequest text orderId request (.ok existing) = .ok params) :
    ∃ binanceOrderId, params = replaceParams text binanceOrderId existing request := by
  unfold replaceRequest at h
  cases hid : parseI64 orderId with
  | none =>
    rw [hid] at h
    cases h
  | some binanceOrderId =>
    rw [hid] at h
    have hstatus : (if existing.status ≠ "NEW" ∧ existing.status ≠ "PARTIALLY_FILLED" then
        .error (.orderNotModifiable orderId ("Order status is " ++ existing.status))
      else .ok (replaceParams text binanceOrderId existing request) :
        Except GatewayError (List (String × String))) = .ok params := h
    split at hstatus <;> cases hstatus
    exact ⟨binanceOrderId, rfl⟩

/-- For every order of which `filled` is filled and every accepted request: what is filled and the
new order make up the requested total, or else the old one, exactly if nothing was filled. -/
theorem total_conserved_iff (text : DecimalText) (ocoGroupId : String → Option String)
    (orderId : String) (request : ModifyOrderRequest) (existing : BinanceOrder)
    (response : Except GatewayError BinanceCancelReplaceResponse) (result : ModifyOrderResult)
    (quantity filled : Decimal) (hquantity : text.read existing.origQty = some quantity)
    (hfilled : text.read existing.executedQty = some filled)
    (h : modifyOrder text ocoGroupId orderId request (.ok existing) response = .ok result) :
    ∃ params, replaceRequest text orderId request (.ok existing) = .ok params ∧
      (tradable text existing params = some (request.quantity.getD quantity) ↔ filled = 0) := by
  obtain ⟨params, hparams, -⟩ := Checked.exceptBind_eq_ok h
  obtain ⟨binanceOrderId, rfl⟩ := replaceRequest_ok hparams
  refine ⟨_, hparams, ?_⟩
  rw [tradable, hfilled, orderedQuantity_replaceParams binanceOrderId hquantity]
  simp

/-- Long 10 at 100, of which 4 are filled. -/
def fourOfTen : BinanceOrder where
  orderId := 7
  symbol := "BTCUSDT"
  status := "PARTIALLY_FILLED"
  clientOrderId := "c1"
  price := "100"
  origQty := "10"
  executedQty := "4"
  cummulativeQuoteQty := "400"
  orderType := "LIMIT"
  side := "BUY"
  timeInForce := "GTC"
  time := 0
  stopPrice := none

/-- The price is changed, and the broker does that. -/
def repriceFourOfTen : Except GatewayError ModifyOrderResult :=
  modifyOrder .fractions (fun _ => none) "7" { limitPrice := some 101 } (.ok fourOfTen)
    (.ok ⟨"SUCCESS", "SUCCESS",
      some { fourOfTen with orderId := 8, status := "NEW", executedQty := "0", price := "101" }⟩)

theorem total_conserved_fourOfTen :
    ∃ result, repriceFourOfTen = .ok result ∧
      ∃ params, replaceRequest .fractions "7" { limitPrice := some 101 } (.ok fourOfTen) =
          .ok params ∧
        (tradable .fractions fourOfTen params = some 10 ↔ (4 : Decimal) = 0) := by
  have hok : repriceFourOfTen.isOk = true := by decide +kernel
  have hquantity : DecimalText.fractions.read fourOfTen.origQty = some 10 := by decide +kernel
  have hfilled : DecimalText.fractions.read fourOfTen.executedQty = some 4 := by decide +kernel
  cases hresult : repriceFourOfTen with
  | error e =>
    rw [hresult] at hok
    cases hok
  | ok result =>
    exact ⟨result, rfl,
      total_conserved_iff _ _ _ _ _ _ result 10 4 hquantity hfilled hresult⟩

/-- The new order is for 10 again: 14 in all. -/
theorem reprice_trades_fourteen :
    repriceFourOfTen.isOk = true ∧
      (replaceRequest .fractions "7" { limitPrice := some 101 } (.ok fourOfTen)).map
        (tradable .fractions fourOfTen) = .ok (some 14) ∧
      DecimalText.fractions.read fourOfTen.origQty = some 10 := by
  decide +kernel

end Gateway.Binance
