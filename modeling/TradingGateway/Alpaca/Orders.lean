import TradingGateway.Decimals
import TradingGateway.Error
import TradingGateway.Lib.Table

/-!
# Orders over REST and over the stream (`crates/alpaca/src/adapter.rs`, `websocket.rs`)

Alpaca describes an order in the same words over REST and in the events of the trading stream. The
two sides of the gateway translate them with tables of their own. A REST response with a word that
the table does not have is an error; the stream falls back on a default.

* `translations_agree_iff`: the sides agree exactly on the snapshots that `Common` describes.
-/

namespace Gateway.Alpaca

/-! ## Wire types -/

/-- An order of a REST response. -/
structure AlpacaOrder where
  id : String
  clientOrderId : Option String
  symbol : String
  qty : String
  side : String
  orderType : String
  timeInForce : String
  status : String
  filledQty : String
  filledAvgPrice : Option String
  limitPrice : Option String
  stopPrice : Option String
  createdAt : String
  legs : Option (List AlpacaOrder) := none

/-- The order of a stream event. -/
structure AlpacaTradingOrderInfo where
  id : String
  clientOrderId : Option String
  symbol : String
  side : String
  orderType : String
  qty : Option String
  filledQty : Option String
  filledAvgPrice : Option String
  limitPrice : Option String
  stopPrice : Option String
  status : String
  timeInForce : String

/-! ## Tables -/

/-- A word in lower case. -/
def lowerWord (s : String) : String := String.ofList (toLowercase s)

def translateOrderStatus (status : String) : Except GatewayError OrderStatus :=
  match lowerWord status with
  | "new" | "accepted" | "pending_new" => .ok .open
  | "partially_filled" => .ok .partiallyFilled
  | "filled" => .ok .filled
  | "canceled" | "cancelled" => .ok .cancelled
  | "expired" => .ok .expired
  | "rejected" | "pending_cancel" | "pending_replace" => .ok .rejected
  | other =>
    .error (.invalidValue "status" ("Unknown order status from Alpaca: " ++ other) (some other))

def parseSide (side : String) : Except GatewayError Side :=
  match lowerWord side with
  | "buy" => .ok .buy
  | "sell" => .ok .sell
  | other =>
    .error (.invalidValue "side" ("Unknown order side from Alpaca: " ++ other) (some other))

def parseOrderType (orderType : String) : Except GatewayError OrderType :=
  match lowerWord orderType with
  | "market" => .ok .market
  | "limit" => .ok .limit
  | "stop" => .ok .stop
  | "stop_limit" => .ok .stopLimit
  | "trailing_stop" => .ok .trailingStop
  | other =>
    .error (.invalidValue "order_type" ("Unknown order type from Alpaca: " ++ other) (some other))

def parseTimeInForce (tif : String) : Except GatewayError TimeInForce :=
  match lowerWord tif with
  | "gtc" => .ok .gtc
  | "day" => .ok .day
  | "ioc" => .ok .ioc
  | "fok" => .ok .fok
  | other =>
    .error (.invalidValue "time_in_force" ("Unknown time in force from Alpaca: " ++ other)
      (some other))

def streamSide (side : String) : Side :=
  match lowerWord side with
  | "buy" => .buy
  | _ => .sell

def streamOrderType (orderType : String) : OrderType :=
  match lowerWord orderType with
  | "limit" => .limit
  | "stop" => .stop
  | "stop_limit" => .stopLimit
  | "trailing_stop" => .trailingStop
  | _ => .market

def streamOrderStatus (status : String) : OrderStatus :=
  match lowerWord status with
  | "new" | "accepted" | "pending_new" => .open
  | "partially_filled" => .partiallyFilled
  | "filled" => .filled
  | "canceled" | "cancelled" => .cancelled
  | "rejected" => .rejected
  | "expired" => .expired
  | "pending_cancel" => .pendingCancel
  | _ => .pending

def streamTimeInForce (tif : String) : TimeInForce :=
  match lowerWord tif with
  | "day" => .day
  | "ioc" => .ioc
  | "fok" => .fok
  | _ => .gtc

/-! ## The translation of a response -/

/-- The entry that each bracket leg belongs to. -/
abbrev BracketLinks := Table String String

def recordBracketLegs (links : BracketLinks) (order : AlpacaOrder) : BracketLinks :=
  (order.legs.getD []).foldl (fun links leg => links.insert leg.id order.id) links

variable (text : DecimalText)

/-- The order, with the words of the response translated. -/
def orderOf (order : AlpacaOrder) (parentOrderId : Option String) (status : OrderStatus) :
    Except GatewayError Order := do
  let qty := (text.read order.qty).getD 0
  let filledQty := (text.read order.filledQty).getD 0
  let side ← parseSide order.side
  let orderType ← parseOrderType order.orderType
  let timeInForce ← parseTimeInForce order.timeInForce
  pure
    { id := order.id
      clientOrderId := order.clientOrderId
      symbol := order.symbol
      side
      orderType
      quantity := qty
      filledQuantity := filledQty
      remainingQuantity := qty - filledQty
      limitPrice := order.limitPrice.bind text.read
      stopPrice := order.stopPrice.bind text.read
      averageFillPrice := order.filledAvgPrice.bind text.read
      status
      parentOrderId
      timeInForce }

/-- The translation, and the bracket links after it: the legs are noted first, and the link of an
order that is over is dropped even if the order cannot be translated. -/
def translateAlpacaOrder (links : BracketLinks) (order : AlpacaOrder) :
    Except GatewayError Order × BracketLinks :=
  let links := recordBracketLegs links order
  match translateOrderStatus order.status with
  | .error e => (.error e, links)
  | .ok status =>
    (orderOf text order (links.get order.id) status,
      if status.isTerminal then links.remove order.id else links)

/-! ## The translation of a stream event -/

def positive (price : Option Decimal) : Option Decimal := price.filter fun p => p > 0

def alpacaOrderToTradingOrder (info : AlpacaTradingOrderInfo) : Order :=
  let quantity := (info.qty.bind text.read).getD 0
  let filledQuantity := (info.filledQty.bind text.read).getD 0
  { id := info.id
    clientOrderId := info.clientOrderId
    symbol := info.symbol
    side := streamSide info.side
    orderType := streamOrderType info.orderType
    quantity
    filledQuantity
    remainingQuantity := max (quantity - filledQuantity) 0
    limitPrice := positive (info.limitPrice.bind text.read)
    stopPrice := positive (info.stopPrice.bind text.read)
    averageFillPrice := positive (info.filledAvgPrice.bind text.read)
    status := streamOrderStatus info.status
    timeInForce := streamTimeInForce info.timeInForce }

/-! ## One order, seen from both sides -/

/-- The broker's description of an order at one moment. -/
structure Snapshot where
  id : String
  clientOrderId : Option String := none
  symbol : String
  qty : Option String
  side : String
  orderType : String
  timeInForce : String
  status : String
  filledQty : Option String
  filledAvgPrice : Option String := none
  limitPrice : Option String := none
  stopPrice : Option String := none
  createdAt : String := ""
  legs : Option (List AlpacaOrder) := none

/-- A REST response must have both quantities. -/
def Snapshot.rest (s : Snapshot) : Option AlpacaOrder := do
  let qty ← s.qty
  let filledQty ← s.filledQty
  pure
    { id := s.id
      clientOrderId := s.clientOrderId
      symbol := s.symbol
      qty
      side := s.side
      orderType := s.orderType
      timeInForce := s.timeInForce
      status := s.status
      filledQty
      filledAvgPrice := s.filledAvgPrice
      limitPrice := s.limitPrice
      stopPrice := s.stopPrice
      createdAt := s.createdAt
      legs := s.legs }

def Snapshot.info (s : Snapshot) : AlpacaTradingOrderInfo where
  id := s.id
  clientOrderId := s.clientOrderId
  symbol := s.symbol
  side := s.side
  orderType := s.orderType
  qty := s.qty
  filledQty := s.filledQty
  filledAvgPrice := s.filledAvgPrice
  limitPrice := s.limitPrice
  stopPrice := s.stopPrice
  status := s.status
  timeInForce := s.timeInForce

/-- What the two translations should agree on. -/
structure OrderView where
  status : OrderStatus
  side : Side
  orderType : OrderType
  quantity : Decimal
  filledQuantity : Decimal
  remainingQuantity : Decimal
  limitPrice : Option Decimal
  stopPrice : Option Decimal
  averageFillPrice : Option Decimal
  deriving DecidableEq, Repr

def OrderView.of (o : Order) : OrderView where
  status := o.status
  side := o.side
  orderType := o.orderType
  quantity := o.quantity
  filledQuantity := o.filledQuantity
  remainingQuantity := o.remainingQuantity
  limitPrice := o.limitPrice
  stopPrice := o.stopPrice
  averageFillPrice := o.averageFillPrice

/-- Both sides have the order, and agree on it. -/
def Agree (links : BracketLinks) (s : Snapshot) : Prop :=
  (s.rest.map fun r => (translateAlpacaOrder text links r).1.map OrderView.of) =
    some (.ok (OrderView.of (alpacaOrderToTradingOrder text s.info)))

/-- The snapshots on which they do: both quantities are there, every word is one that both tables
have with one meaning, no more is filled than was ordered, and no price is zero or negative. -/
structure Common (s : Snapshot) : Prop where
  qty : s.qty ≠ none
  filledQty : s.filledQty ≠ none
  status : lowerWord s.status ∈ ["new", "accepted", "pending_new", "partially_filled", "filled",
    "canceled", "cancelled", "expired", "rejected"]
  side : lowerWord s.side ∈ ["buy", "sell"]
  orderType : lowerWord s.orderType ∈ ["market", "limit", "stop", "stop_limit", "trailing_stop"]
  timeInForce : lowerWord s.timeInForce ∈ ["gtc", "day", "ioc", "fok"]
  remaining : ((s.filledQty.bind text.read).getD 0) ≤ (s.qty.bind text.read).getD 0
  limitPrice : ∀ p ∈ s.limitPrice.bind text.read, 0 < p
  stopPrice : ∀ p ∈ s.stopPrice.bind text.read, 0 < p
  averageFillPrice : ∀ p ∈ s.filledAvgPrice.bind text.read, 0 < p

/-! ## Word by word -/

theorem status_agrees (s : String) :
    translateOrderStatus s = .ok (streamOrderStatus s) ↔
      lowerWord s ∈ ["new", "accepted", "pending_new", "partially_filled", "filled", "canceled",
        "cancelled", "expired", "rejected"] := by
  unfold translateOrderStatus streamOrderStatus
  generalize lowerWord s = w
  split <;> simp_all

theorem side_agrees (s : String) :
    parseSide s = .ok (streamSide s) ↔ lowerWord s ∈ ["buy", "sell"] := by
  unfold parseSide streamSide
  generalize lowerWord s = w
  split <;> simp_all

theorem orderType_agrees (s : String) :
    parseOrderType s = .ok (streamOrderType s) ↔
      lowerWord s ∈ ["market", "limit", "stop", "stop_limit", "trailing_stop"] := by
  unfold parseOrderType streamOrderType
  generalize lowerWord s = w
  split <;> simp_all

theorem timeInForce_known (s : String) :
    (∃ tif, parseTimeInForce s = .ok tif) ↔ lowerWord s ∈ ["gtc", "day", "ioc", "fok"] := by
  unfold parseTimeInForce
  generalize lowerWord s = w
  split <;> simp_all

theorem eq_positive_iff (price : Option Decimal) : price = positive price ↔ ∀ p ∈ price, 0 < p := by
  cases price with
  | none => simp [positive]
  | some p => by_cases hp : 0 < p <;> simp [positive, Option.filter_some, hp]

theorem eq_max_sub_iff (quantity filled : Decimal) :
    quantity - filled = max (quantity - filled) 0 ↔ filled ≤ quantity := by
  rw [eq_comm, max_eq_left_iff, sub_nonneg]

/-! ## The whole order -/

variable {text} {links : BracketLinks} {s : Snapshot}

/-- What the REST translation says of an order. -/
def restView (text : DecimalText) (r : AlpacaOrder) : Except GatewayError OrderView := do
  let status ← translateOrderStatus r.status
  let side ← parseSide r.side
  let orderType ← parseOrderType r.orderType
  let _ ← parseTimeInForce r.timeInForce
  pure
    { status
      side
      orderType
      quantity := (text.read r.qty).getD 0
      filledQuantity := (text.read r.filledQty).getD 0
      remainingQuantity := (text.read r.qty).getD 0 - (text.read r.filledQty).getD 0
      limitPrice := r.limitPrice.bind text.read
      stopPrice := r.stopPrice.bind text.read
      averageFillPrice := r.filledAvgPrice.bind text.read }

theorem view_translateAlpacaOrder (links : BracketLinks) (r : AlpacaOrder) :
    (translateAlpacaOrder text links r).1.map OrderView.of = restView text r := by
  unfold restView
  unfold translateAlpacaOrder orderOf
  cases translateOrderStatus r.status with
  | error e => rfl
  | ok status =>
    cases parseSide r.side with
    | error e => rfl
    | ok side =>
      cases parseOrderType r.orderType with
      | error e => rfl
      | ok orderType => cases parseTimeInForce r.timeInForce <;> rfl

/-- The sides agree if they do so word by word and number by number. -/
theorem agree_iff_fields {qty filledQty : String} (hqty : s.qty = some qty)
    (hfilled : s.filledQty = some filledQty) :
    Agree text links s ↔
      translateOrderStatus s.status = .ok (streamOrderStatus s.status) ∧
      parseSide s.side = .ok (streamSide s.side) ∧
      parseOrderType s.orderType = .ok (streamOrderType s.orderType) ∧
      (∃ tif, parseTimeInForce s.timeInForce = .ok tif) ∧
      (text.read qty).getD 0 - (text.read filledQty).getD 0 =
        max ((text.read qty).getD 0 - (text.read filledQty).getD 0) 0 ∧
      s.limitPrice.bind text.read = positive (s.limitPrice.bind text.read) ∧
      s.stopPrice.bind text.read = positive (s.stopPrice.bind text.read) ∧
      s.filledAvgPrice.bind text.read = positive (s.filledAvgPrice.bind text.read) := by
  unfold Agree Snapshot.rest
  rw [hqty, hfilled]
  simp only [Option.bind_eq_bind, Option.bind_some, Option.pure_def, Option.map_some,
    view_translateAlpacaOrder, restView, Option.some.injEq]
  cases translateOrderStatus s.status with
  | error e => simp [bind, Except.bind]
  | ok status =>
    cases parseSide s.side with
    | error e => simp [bind, Except.bind]
    | ok side =>
      cases parseOrderType s.orderType with
      | error e => simp [bind, Except.bind]
      | ok orderType =>
        cases parseTimeInForce s.timeInForce with
        | error e => simp [bind, Except.bind]
        | ok tif =>
          simp [bind, Except.bind, pure, Except.pure, OrderView.of, alpacaOrderToTradingOrder,
            Snapshot.info, hqty, hfilled]

theorem not_agree_of_missing (h : s.qty = none ∨ s.filledQty = none) :
    ¬ Agree text links s := by
  have hrest : s.rest = none := by
    unfold Snapshot.rest
    rcases h with h | h
    · rw [h]
      rfl
    · rw [h]
      cases s.qty <;> rfl
  rw [Agree, hrest]
  exact nofun

/-- For every snapshot of an order, the REST translation and the stream event agree on it exactly if
it is a common one. -/
theorem translations_agree_iff (text : DecimalText) (links : BracketLinks) (s : Snapshot) :
    Agree text links s ↔ Common text s := by
  cases hqty : s.qty with
  | none => exact iff_of_false (not_agree_of_missing (.inl hqty)) fun h => h.qty hqty
  | some qty =>
    cases hfilled : s.filledQty with
    | none =>
      exact iff_of_false (not_agree_of_missing (.inr hfilled)) fun h => h.filledQty hfilled
    | some filledQty =>
      rw [agree_iff_fields hqty hfilled, status_agrees, side_agrees, orderType_agrees,
        timeInForce_known, eq_max_sub_iff, eq_positive_iff, eq_positive_iff, eq_positive_iff]
      constructor
      · rintro ⟨hstatus, hside, htype, htif, hremaining, hlimit, hstop, haverage⟩
        exact
          { qty := by simp [hqty]
            filledQty := by simp [hfilled]
            status := hstatus
            side := hside
            orderType := htype
            timeInForce := htif
            remaining := by simpa [hqty, hfilled] using hremaining
            limitPrice := hlimit
            stopPrice := hstop
            averageFillPrice := haverage }
      · intro h
        have hremaining := h.remaining
        rw [hqty, hfilled] at hremaining
        exact ⟨h.status, h.side, h.orderType, h.timeInForce, hremaining, h.limitPrice, h.stopPrice,
          h.averageFillPrice⟩

/-- An order with a request to cancel it on the way. -/
def cancelling : Snapshot where
  id := "o1"
  symbol := "AAPL"
  qty := some "10"
  side := "buy"
  orderType := "limit"
  timeInForce := "day"
  status := "pending_cancel"
  filledQty := some "0"
  limitPrice := some "100"

/-- Over REST the order is rejected, which is final; in the stream it is being cancelled. An order
that is held for review is an error over REST, and pending in the stream. -/
theorem cancelling_disagrees :
    (cancelling.rest.map fun r => (translateAlpacaOrder .fractions ∅ r).1.map Order.status) =
        some (.ok .rejected) ∧
      (alpacaOrderToTradingOrder .fractions cancelling.info).status = .pendingCancel ∧
      (({ cancelling with status := "held" }.rest).map fun r =>
          (translateAlpacaOrder .fractions ∅ r).1.map Order.status) =
        some (.error (.invalidValue "status" "Unknown order status from Alpaca: held"
          (some "held"))) ∧
      (alpacaOrderToTradingOrder .fractions { cancelling with status := "held" }.info).status =
        .pending := by
  decide +kernel

end Gateway.Alpaca
