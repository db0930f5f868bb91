import TradingGateway.Alpaca.Orders
import TradingGateway.Binance.SpotOrders
import TradingGateway.Lib.Checked
import TradingGateway.Oanda.Rest
import TradingGateway.OrderQuery

/-!
# Lists of orders (`get_orders` of `crates/alpaca`, `crates/oanda` and `crates/binance`)

Each adapter makes one request of the criteria, and translates all that it is given: no criterion is
checked afterwards. The broker is a function from requests to answers.

* `Alpaca.getOrders`: a status list becomes the scope `open` or `closed`; side and ids are not sent.
* `Oanda.getOrders`: only the symbol is sent.
* `Binance.getOrders`: a status list with `open` becomes the scope `open`, any other query the scope
  `all`; side and ids are not sent, and times in milliseconds.
* `Alpaca.exact_scope_iff`, `Binance.exact_scope_iff`: the status lists whose scope is exact.
* `listings_exact_iff`: when the lists are what the mock adapter would list.
-/

namespace Gateway

/-- The times of orders. -/
structure Clock where
  parseFromRfc3339 : String → Option DateTime
  fromTimestampMillis : ℤ → Option DateTime
  /-- The time at which the order with this id is translated. -/
  now : String → DateTime

/-- The time of creation, as text. -/
def Clock.created (clock : Clock) (id createdAt : String) : DateTime :=
  (clock.parseFromRfc3339 createdAt).getD (clock.now id)

/-! ## Alpaca -/

namespace Alpaca

def mapAlpacaRejectCode (raw : String) : String :=
  match raw with
  | "insufficient_buying_power" | "forbidden" => "INSUFFICIENT_FUNDS"
  | "market_closed_error" => "MARKET_CLOSED"
  | "invalid_qty" => "INVALID_QUANTITY"
  | "symbol_not_found" => "INVALID_SYMBOL"
  | "" => "ORDER_REJECTED"
  | other => other

def mapHttpError (status : ℕ) (body : Json) (retryAfterHeader : Option ℕ) : GatewayError :=
  let message :=
    (((body.get "message").or (body.get "error")).bind Json.asStr).getD "Unknown error"
  match status with
  | 429 => .rateLimited (retryAfterHeader.or ((body.get "retry_after").bind Json.asU64))
  | 503 => .providerUnavailable message
  | 500 | 502 | 504 => .providerError message (some "alpaca")
  | 400 => .invalidRequest message none
  | 401 => .unauthorized message "AUTH_FAILED"
  | 403 | 422 =>
    .orderRejected message
      (some (mapAlpacaRejectCode (((body.get "code").bind Json.asStr).getD "")))
  | 404 => .invalidRequest ("Not found: " ++ message) none
  | status =>
    if 500 ≤ status then
      .providerError ("HTTP " ++ toString status ++ ": " ++ message) (some "alpaca")
    else .invalidRequest ("HTTP " ++ toString status ++ ": " ++ message) none

/-- What becomes of a request: no answer, or an answer with its body, as JSON if it is, and as the
value that was asked for. -/
inductive Answer (α : Type) where
  | failed (error : String)
  | answered (status : ℕ) (retryAfterHeader : Option ℕ) (json : Option Json)
    (value : Except String α)

def Answer.read {α : Type} : Answer α → Except GatewayError α
  | .failed error => .error (.providerError ("Request failed: " ++ error) (some "alpaca"))
  | .answered status retryAfterHeader json value =>
    if Oanda.isSuccess status then
      match value with
      | .ok value => .ok value
      | .error error => .error (.internal ("Failed to parse response: " ++ error))
    else
      .error (mapHttpError status (json.getD (.obj [("error", .str "Unknown error")]))
        retryAfterHeader)

/-- The parameters of the request, besides `nested=true`. -/
structure AlpacaOrdersQuery where
  status : Option Scope
  symbols : Option String
  limit : Option ℕ
  after : Option DateTime
  untilTime : Option DateTime
  deriving DecidableEq, Repr

def ordersQuery (params : OrderQueryParams) : AlpacaOrdersQuery where
  status := params.status.map fun statuses =>
    if statuses.any fun s => s = .pending || s = .open || s = .partiallyFilled then .open
    else .closed
  symbols := params.symbol
  limit := params.limit
  after := params.since
  untilTime := params.untilTime

/-- The lists that are exact: all statuses that are not over, or all that are. -/
theorem exact_scope_iff (statuses : List OrderStatus) (default : Scope) :
    ((ordersQuery { status := some statuses }).status.getD default).Exact statuses ↔
      Scope.open.Exact statuses ∨ Scope.closed.Exact statuses := by
  simp only [ordersQuery, Option.map_some, Option.getD_some]
  split
  · rename_i hany
    refine ⟨.inl, fun h => h.resolve_right fun hclosed => ?_⟩
    obtain ⟨s, hs, hopen⟩ := List.any_eq_true.mp hany
    have hover := (hclosed s).mpr hs
    cases s <;> first
      | exact absurd hover Bool.false_ne_true
      | exact absurd hopen Bool.false_ne_true
  · rename_i hnone
    refine ⟨.inr, fun h => h.resolve_left fun hopen => hnone ?_⟩
    exact List.any_eq_true.mpr ⟨.open, (hopen .open).mp rfl, rfl⟩

def AlpacaOrdersQuery.sent (query : AlpacaOrdersQuery) : Sent :=
  ⟨query.symbols, query.after, query.untilTime⟩

variable (text : DecimalText) (clock : Clock)

/-- The orders of an entry: the entry without its legs, then the legs. -/
def unnested (order : AlpacaOrder) : List AlpacaOrder :=
  { order with legs := none } :: order.legs.getD []

def dated (source : AlpacaOrder) (order : Order) : DatedOrder :=
  { order with createdAt := clock.created source.id source.createdAt }

/-- An order that cannot be translated is skipped. -/
def pushOrder (listed : List DatedOrder × BracketLinks) (order : AlpacaOrder) :
    List DatedOrder × BracketLinks :=
  match translateAlpacaOrder text listed.2 order with
  | (.ok translated, links) => (listed.1 ++ [dated clock order translated], links)
  | (.error _, links) => (listed.1, links)

def pushEntry (listed : List DatedOrder × BracketLinks) (order : AlpacaOrder) :
    List DatedOrder × BracketLinks :=
  (unnested order).foldl (pushOrder text clock) (listed.1, recordBracketLegs listed.2 order)

def translateAlpacaOrders (links : BracketLinks) (orders : List AlpacaOrder) :
    List DatedOrder × BracketLinks :=
  orders.foldl (pushEntry text clock) ([], links)

def getOrdersInternal (links : BracketLinks) (params : OrderQueryParams)
    (answer : AlpacaOrdersQuery → Answer (List AlpacaOrder)) :
    Except GatewayError (List DatedOrder × BracketLinks) :=
  (answer (ordersQuery params)).read.map (translateAlpacaOrders text clock links)

def checkCircuitBreaker (breaker : AdapterCircuitBreaker) : Except GatewayError Unit :=
  Oanda.checkCircuitBreaker breaker

/-- The orders and the bracket links after the call; an error leaves the links as they were. -/
def getOrders (breaker : AdapterCircuitBreaker) (links : BracketLinks) (params : OrderQueryParams)
    (answer : AlpacaOrdersQuery → Answer (List AlpacaOrder)) :
    Except GatewayError (List DatedOrder × BracketLinks) := do
  checkCircuitBreaker breaker
  getOrdersInternal text clock links params answer

/-! ### Translations -/

/-- The order without the link to its entry. The links are not criteria, and are known or not
according to what was listed before. -/
def unlinked (order : DatedOrder) : DatedOrder := { order with parentOrderId := none }

/-- The translation of an order, without its link. -/
def translation (order : AlpacaOrder) : Option DatedOrder :=
  (translateAlpacaOrder text ∅ order).1.toOption.map fun o => unlinked (dated clock order o)

variable {text clock}

variable (links : BracketLinks) (orders : List AlpacaOrder)
  (listed : List DatedOrder × BracketLinks) (order : AlpacaOrder)

/-- The entry is only noted. -/
theorem unlinked_orderOf (parent parent' : Option String) (status : OrderStatus) :
    ((orderOf text order parent status).toOption.map fun o => unlinked (dated clock order o)) =
      (orderOf text order parent' status).toOption.map fun o => unlinked (dated clock order o) := by
  unfold orderOf
  cases parseSide order.side with
  | error e => exact Eq.refl none
  | ok side =>
    cases parseOrderType order.orderType with
    | error e => exact Eq.refl none
    | ok orderType => cases parseTimeInForce order.timeInForce <;> rfl

theorem unlinked_translateAlpacaOrder :
    ((translateAlpacaOrder text links order).1.toOption.map fun o =>
        unlinked (dated clock order o)) = translation text clock order := by
  unfold translation translateAlpacaOrder
  cases translateOrderStatus order.status with
  | error e => rfl
  | ok status => exact unlinked_orderOf order _ _ status

theorem unlinked_pushOrder :
    (pushOrder text clock listed order).1.map unlinked =
      listed.1.map unlinked ++ (translation text clock order).toList := by
  rw [← unlinked_translateAlpacaOrder listed.2 order]
  unfold pushOrder
  rcases translateAlpacaOrder text listed.2 order with ⟨_ | translated, links⟩
  · exact (List.append_nil _).symm
  · exact List.map_append

theorem unlinked_foldl_pushOrder :
    (orders.foldl (pushOrder text clock) listed).1.map unlinked =
      listed.1.map unlinked ++ orders.filterMap (translation text clock) := by
  induction orders generalizing listed with
  | nil => exact (List.append_nil _).symm
  | cons order orders ih =>
    rw [List.foldl_cons, ih, unlinked_pushOrder, List.append_assoc, List.filterMap_cons]
    cases translation text clock order <;> rfl

theorem unlinked_foldl_pushEntry :
    (orders.foldl (pushEntry text clock) listed).1.map unlinked =
      listed.1.map unlinked ++ (orders.flatMap unnested).filterMap (translation text clock) := by
  induction orders generalizing listed with
  | nil => exact (List.append_nil _).symm
  | cons order orders ih =>
    rw [List.foldl_cons, ih, pushEntry, unlinked_foldl_pushOrder, List.append_assoc,
      List.flatMap_cons, List.filterMap_append]

theorem unlinked_translateAlpacaOrders :
    (translateAlpacaOrders text clock links orders).1.map unlinked =
      (orders.flatMap unnested).filterMap (translation text clock) :=
  unlinked_foldl_pushEntry orders ([], links)

/-- The broker's answers to requests without a limit: in whatever way the legs are nested, the
orders are those that its endpoints give. -/
def Serves (e : Endpoints (translation text clock)) (orders : List AlpacaOrder)
    (answer : AlpacaOrdersQuery → Answer (List AlpacaOrder)) : Prop :=
  ∀ query, query.limit = none → ∀ listed, (answer query).read = .ok listed →
    (listed.flatMap unnested).Perm (orders.filter (e.gives query.status query.sent))

/-- What was given, and the list as its translation. -/
theorem given_of_getOrders {breaker : AdapterCircuitBreaker} {links links' : BracketLinks}
    {params : OrderQueryParams} {answer : AlpacaOrdersQuery → Answer (List AlpacaOrder)}
    {listed : List DatedOrder}
    (h : getOrders text clock breaker links params answer = .ok (listed, links')) :
    ∃ given, (answer (ordersQuery params)).read = .ok given ∧
      listed.map unlinked = (given.flatMap unnested).filterMap (translation text clock) := by
  obtain ⟨-, -, h⟩ := Checked.exceptBind_eq_ok h
  obtain ⟨given, hread, htranslated⟩ := Checked.exceptMap_eq_ok h
  refine ⟨given, hread, ?_⟩
  rw [← unlinked_translateAlpacaOrders links, htranslated]

end Alpaca

/-! ## Oanda -/

namespace Oanda

variable (text : DecimalText) (clock : Clock)

def translateDated (order : OandaOrder) : Except GatewayError DatedOrder :=
  (translateOandaOrder text order).map fun o =>
    { o with createdAt := clock.created order.id order.createTime }

/-- The request names an instrument or none; one order that cannot be translated fails the call. -/
def getOrders (breaker : AdapterCircuitBreaker) (params : OrderQueryParams)
    (answer : Option String → Answer (List OandaOrder)) :
    Except GatewayError (List DatedOrder) := do
  checkCircuitBreaker breaker
  let orders ← getJson (answer params.symbol)
  orders.mapM (translateDated text clock)

def translation (order : OandaOrder) : Option DatedOrder :=
  (translateDated text clock order).toOption

variable {text clock}

def Serves (e : Endpoints (translation text clock)) (orders : List OandaOrder)
    (answer : Option String → Answer (List OandaOrder)) : Prop :=
  ∀ instrument listed, getJson (answer instrument) = .ok listed →
    listed.Perm (orders.filter (e.gives none { symbol := instrument }))

theorem given_of_getOrders {breaker : AdapterCircuitBreaker} {params : OrderQueryParams}
    {answer : Option String → Answer (List OandaOrder)} {listed : List DatedOrder}
    (h : getOrders text clock breaker params answer = .ok listed) :
    ∃ given, getJson (answer params.symbol) = .ok given ∧
      listed = given.filterMap (translation text clock) := by
  obtain ⟨-, -, h⟩ := Checked.exceptBind_eq_ok h
  obtain ⟨given, hread, hlisted⟩ := Checked.exceptBind_eq_ok h
  exact ⟨given, hread, Checked.mapM_eq_ok hlisted⟩

end Oanda

/-! ## Binance -/

namespace Binance

/-- The endpoints of order lists. -/
inductive OrdersEndpoint where
  | openOrders
  | allOrders
  deriving DecidableEq, Repr

def OrdersEndpoint.scope : OrdersEndpoint → Scope
  | openOrders => .open
  | allOrders => .all

def timestampMillis (t : DateTime) : ℤ := t / 10 ^ 6

structure BinanceOrdersQuery where
  symbol : Option String
  limit : Option ℕ
  startTime : Option ℤ
  endTime : Option ℤ
  deriving DecidableEq, Repr

def BinanceOrdersQuery.sent (query : BinanceOrdersQuery) : Sent :=
  ⟨query.symbol, query.startTime.map (· * 10 ^ 6), query.endTime.map (· * 10 ^ 6)⟩

def ordersEndpoint (params : OrderQueryParams) : OrdersEndpoint :=
  if params.status.any fun statuses => .open ∈ statuses then .openOrders else .allOrders

def ordersQuery (params : OrderQueryParams) : BinanceOrdersQuery where
  symbol := params.symbol
  limit := params.limit
  startTime := params.since.map timestampMillis
  endTime := params.untilTime.map timestampMillis

/-- The lists that are exact: all statuses that are not over. -/
theorem exact_scope_iff (statuses : List OrderStatus) :
    (ordersEndpoint { status := some statuses }).scope.Exact statuses ↔
      Scope.open.Exact statuses := by
  simp only [ordersEndpoint, Option.any_some, decide_eq_true_eq]
  split
  · rfl
  · rename_i hopen
    exact iff_of_false (fun h => hopen ((h .open).mp rfl)) fun h => hopen ((h .open).mp rfl)

variable (text : DecimalText) (clock : Clock) (ocoGroupId : String → Option String)

def convertDated (order : BinanceOrder) : Except GatewayError DatedOrder :=
  (convertBinanceOrder text ocoGroupId order).map fun o =>
    { o with
      createdAt :=
        (clock.fromTimestampMillis order.time).getD (clock.now (toString order.orderId)) }

/-- All orders can only be listed for a symbol. -/
def getOrders (params : OrderQueryParams)
    (answer : OrdersEndpoint → BinanceOrdersQuery → Except GatewayError (List BinanceOrder)) :
    Except GatewayError (List DatedOrder) :=
  if ordersEndpoint params = .allOrders ∧ params.symbol = none then
    .error (.invalidRequest ("Binance requires a symbol to query order history. " ++
      "Use a status filter for open orders to list across all symbols.") (some "symbol"))
  else do
    let orders ← answer (ordersEndpoint params) (ordersQuery params)
    orders.mapM (convertDated text clock ocoGroupId)

def translation (order : BinanceOrder) : Option DatedOrder :=
  (convertDated text clock ocoGroupId order).toOption

variable {text clock ocoGroupId}

def Serves (e : Endpoints (translation text clock ocoGroupId)) (orders : List BinanceOrder)
    (answer : OrdersEndpoint → BinanceOrdersQuery → Except GatewayError (List BinanceOrder)) :
    Prop :=
  ∀ endpoint query, query.limit = none → ∀ listed, answer endpoint query = .ok listed →
    listed.Perm (orders.filter (e.gives (some endpoint.scope) query.sent))

theorem given_of_getOrders {params : OrderQueryParams}
    {answer : OrdersEndpoint → BinanceOrdersQuery → Except GatewayError (List BinanceOrder)}
    {listed : List DatedOrder} (h : getOrders text clock ocoGroupId params answer = .ok listed) :
    ∃ given, answer (ordersEndpoint params) (ordersQuery params) = .ok given ∧
      listed = given.filterMap (translation text clock ocoGroupId) := by
  unfold getOrders at h
  split at h
  · cases h
  · obtain ⟨given, hread, hlisted⟩ := Checked.exceptBind_eq_ok h
    exact ⟨given, hread, Checked.mapM_eq_ok hlisted⟩

end Binance

/-! ## All three -/

/-- Whenever `get_orders` succeeds for a query without a limit, it returns the broker's orders that
satisfy all criteria, as the mock adapter would, exactly if the scope and the criteria that are sent
select the same of the broker's orders as all criteria do. -/
theorem listings_exact_iff (text : DecimalText) (clock : Clock)
    (ocoGroupId : String → Option String) (breaker : AdapterCircuitBreaker)
    (params : OrderQueryParams) (hlimit : params.limit = none) :
    (∀ (e : Endpoints (Alpaca.translation text clock)) (orders : List Alpaca.AlpacaOrder)
        (answer : Alpaca.AlpacaOrdersQuery → Alpaca.Answer (List Alpaca.AlpacaOrder))
        (links links' : Alpaca.BracketLinks) (listed : List DatedOrder),
      Alpaca.Serves e orders answer →
      Alpaca.getOrders text clock breaker links params answer = .ok (listed, links') →
      ((listed.map Alpaca.unlinked).Perm
          (Mock.getOrders (orders.filterMap (Alpaca.translation text clock)) params) ↔
        e.Honours (Alpaca.ordersQuery params).status (Alpaca.ordersQuery params).sent params
          orders)) ∧
    (∀ (e : Endpoints (Oanda.translation text clock)) (orders : List Oanda.OandaOrder)
        (answer : Option String → Oanda.Answer (List Oanda.OandaOrder)) (listed : List DatedOrder),
      Oanda.Serves e orders answer →
      Oanda.getOrders text clock breaker params answer = .ok listed →
      (listed.Perm (Mock.getOrders (orders.filterMap (Oanda.translation text clock)) params) ↔
        e.Honours none { symbol := params.symbol } params orders)) ∧
    ∀ (e : Endpoints (Binance.translation text clock ocoGroupId))
        (orders : List Binance.BinanceOrder)
        (answer : Binance.OrdersEndpoint → Binance.BinanceOrdersQuery →
          Except GatewayError (List Binance.BinanceOrder)) (listed : List DatedOrder),
      Binance.Serves e orders answer →
      Binance.getOrders text clock ocoGroupId params answer = .ok listed →
      (listed.Perm (Mock.getOrders
          (orders.filterMap (Binance.translation text clock ocoGroupId)) params) ↔
        e.Honours (some (Binance.ordersEndpoint params).scope) (Binance.ordersQuery params).sent
          params orders) := by
  refine ⟨?_, ?_, ?_⟩
  · intro e orders answer links links' listed hserves h
    obtain ⟨given, hread, hlisted⟩ := Alpaca.given_of_getOrders h
    rw [hlisted]
    exact e.perm_getOrders_iff hlimit (hserves _ hlimit given hread)
  · intro e orders answer listed hserves h
    obtain ⟨given, hread, hlisted⟩ := Oanda.given_of_getOrders h
    rw [hlisted]
    exact e.perm_getOrders_iff hlimit (hserves _ given hread)
  · intro e orders answer listed hserves h
    obtain ⟨given, hread, hlisted⟩ := Binance.given_of_getOrders h
    rw [hlisted]
    exact e.perm_getOrders_iff hlimit (hserves _ _ hlimit given hread)

/-! ### An open and a filled order -/

def Clock.atEpoch : Clock := ⟨fun _ => some 0, fun ms => some (ms * 10 ^ 6), fun _ => 0⟩

def onlyOpen : OrderQueryParams := { status := some [.open] }

def openOrFilled : OrderQueryParams := { status := some [.open, .filled] }

namespace Alpaca

def orderWith (id status filledQty : String) : AlpacaOrder where
  id
  clientOrderId := none
  symbol := "AAPL"
  qty := "1"
  side := "buy"
  orderType := "market"
  timeInForce := "day"
  status
  filledQty
  filledAvgPrice := none
  limitPrice := none
  stopPrice := none
  createdAt := "1970-01-01T00:00:00Z"

def twoOrders : List AlpacaOrder := [orderWith "1" "new" "0", orderWith "2" "filled" "1"]

def twoEndpoints : Endpoints (translation .fractions .atEpoch) :=
  .translatable _ (fun o => o.status = "filled") .open true false

def twoAnswer (query : AlpacaOrdersQuery) : Answer (List AlpacaOrder) :=
  .answered 200 none none
    (.ok (twoOrders.filter (twoEndpoints.gives query.status query.sent)))

/-- Orders without legs are listed as they are. -/
theorem flatMap_unnested {orders : List AlpacaOrder} (h : ∀ o ∈ orders, o.legs = none) :
    orders.flatMap unnested = orders := by
  have heach : ∀ o ∈ orders, unnested o = [o] := by
    intro o ho
    have hlegs := h o ho
    cases o
    cases hlegs
    rfl
  rw [List.flatMap_congr heach, List.flatMap_singleton']

theorem serves_two : Serves twoEndpoints twoOrders twoAnswer := by
  rintro query - listed hread
  obtain rfl := Except.ok.inj hread
  have hlegs : ∀ o ∈ twoOrders, o.legs = none := by simp [twoOrders, orderWith]
  rw [flatMap_unnested fun o ho => hlegs o (List.mem_filter.mp ho).1]

end Alpaca

namespace Oanda

def orderWith (id state : String) : OandaOrder where
  id
  orderType := "MARKET"
  instrument := some "EUR_USD"
  units := some "1"
  state
  createTime := "1970-01-01T00:00:00Z"

def twoOrders : List OandaOrder := [orderWith "1" "PENDING", orderWith "2" "FILLED"]

def twoEndpoints : Endpoints (translation .fractions .atEpoch) :=
  .translatable _ (fun o => o.state = "FILLED") .open true false

def twoAnswer (instrument : Option String) : Answer (List OandaOrder) :=
  .answered 200 none (.ok (twoOrders.filter (twoEndpoints.gives none { symbol := instrument })))

theorem serves_two : Serves twoEndpoints twoOrders twoAnswer := by
  intro instrument listed hread
  obtain rfl := Except.ok.inj hread
  exact .refl _

end Oanda

namespace Binance

def orderWith (id : ℤ) (status executedQty cummulativeQuoteQty : String) : BinanceOrder where
  orderId := id
  symbol := "BTCUSDT"
  status
  clientOrderId := "c"
  price := "100"
  origQty := "1"
  executedQty
  cummulativeQuoteQty
  orderType := "LIMIT"
  side := "BUY"
  timeInForce := "GTC"
  time := 0
  stopPrice := none

def twoOrders : List BinanceOrder := [orderWith 1 "NEW" "0" "0", orderWith 2 "FILLED" "1" "100"]

def twoEndpoints : Endpoints (translation .fractions .atEpoch fun _ => none) :=
  .translatable _ (fun o => o.status = "FILLED") .all true true

def twoAnswer (endpoint : OrdersEndpoint) (query : BinanceOrdersQuery) :
    Except GatewayError (List BinanceOrder) :=
  .ok (twoOrders.filter (twoEndpoints.gives (some endpoint.scope) query.sent))

theorem serves_two : Serves twoEndpoints twoOrders twoAnswer := by
  rintro endpoint query - listed hread
  obtain rfl := Except.ok.inj hread
  exact .refl _

end Binance

def untripped : AdapterCircuitBreaker := .new 3 (60 * 10 ^ 9) "broker"

/-- Only open orders are asked for: all three lists are exact. -/
theorem listings_exact_onlyOpen :
    (∃ listed links', Alpaca.getOrders .fractions .atEpoch untripped ∅ onlyOpen Alpaca.twoAnswer =
        .ok (listed, links') ∧
      (listed.map Alpaca.unlinked).Perm (Mock.getOrders
        (Alpaca.twoOrders.filterMap (Alpaca.translation .fractions .atEpoch)) onlyOpen)) ∧
    (∃ listed, Oanda.getOrders .fractions .atEpoch untripped onlyOpen Oanda.twoAnswer =
        .ok listed ∧
      listed.Perm (Mock.getOrders
        (Oanda.twoOrders.filterMap (Oanda.translation .fractions .atEpoch)) onlyOpen)) ∧
    ∃ listed, Binance.getOrders .fractions .atEpoch (fun _ => none) onlyOpen Binance.twoAnswer =
        .ok listed ∧
      listed.Perm (Mock.getOrders (Binance.twoOrders.filterMap
        (Binance.translation .fractions .atEpoch fun _ => none)) onlyOpen) := by
  obtain ⟨halpaca, hoanda, hbinance⟩ :=
    listings_exact_iff .fractions .atEpoch (fun _ => none) untripped onlyOpen rfl
  refine ⟨⟨_, _, rfl, ?_⟩, ⟨_, rfl, ?_⟩, _, rfl, ?_⟩
  · exact (halpaca Alpaca.twoEndpoints _ _ ∅ _ _ Alpaca.serves_two rfl).mpr (by decide +kernel)
  · exact (hoanda Oanda.twoEndpoints _ _ _ Oanda.serves_two rfl).mpr (by decide +kernel)
  · exact (hbinance Binance.twoEndpoints _ _ _ Binance.serves_two rfl).mpr (by decide +kernel)

/-- A status list with open and filled: each adapter returns the open order only. -/
theorem mixed_statuses_lose_filled :
    openOrFilled.limit = none ∧
    (Alpaca.Serves Alpaca.twoEndpoints Alpaca.twoOrders Alpaca.twoAnswer ∧
      ∃ listed links', Alpaca.getOrders .fractions .atEpoch untripped ∅ openOrFilled
          Alpaca.twoAnswer = .ok (listed, links') ∧
        ¬ (listed.map Alpaca.unlinked).Perm (Mock.getOrders
          (Alpaca.twoOrders.filterMap (Alpaca.translation .fractions .atEpoch)) openOrFilled)) ∧
    (Oanda.Serves Oanda.twoEndpoints Oanda.twoOrders Oanda.twoAnswer ∧
      ∃ listed, Oanda.getOrders .fractions .atEpoch untripped openOrFilled Oanda.twoAnswer =
          .ok listed ∧
        ¬ listed.Perm (Mock.getOrders
          (Oanda.twoOrders.filterMap (Oanda.translation .fractions .atEpoch)) openOrFilled)) ∧
    Binance.Serves Binance.twoEndpoints Binance.twoOrders Binance.twoAnswer ∧
      ∃ listed, Binance.getOrders .fractions .atEpoch (fun _ => none) openOrFilled
          Binance.twoAnswer = .ok listed ∧
        ¬ listed.Perm (Mock.getOrders (Binance.twoOrders.filterMap
          (Binance.translation .fractions .atEpoch fun _ => none)) openOrFilled) := by
  refine ⟨rfl, ⟨Alpaca.serves_two, _, _, rfl, ?_⟩, ⟨Oanda.serves_two, _, rfl, ?_⟩,
    Binance.serves_two, _, rfl, ?_⟩
  · decide +kernel
  · decide +kernel
  · decide +kernel

end Gateway
