import TradingGateway.Lib.Checked
import TradingGateway.Oanda.Rest

/-!
# Modifying an order (`crates/oanda/src/adapter.rs`)

Oanda has no request that changes an order: `modify_order` reads the order, builds a new one from
its translation and replaces it.

* `replacement_exact_iff`: the replacement changes only what the request names exactly for orders
  with nothing that the translation or the request body leaves out (`Plain`).
-/

namespace Gateway.Oanda

variable (text : DecimalText) (breaker : AdapterCircuitBreaker)

/-! ## The adapter -/

def getOrder (orderId : String) (answer : Answer OandaOrder) : Except GatewayError Order := do
  checkCircuitBreaker breaker
  let order ← orMissing (.orderNotFound orderId) (getJson answer)
  translateOandaOrder text order

/-- The order that replaces `current`. -/
def buildReplacement (request : ModifyOrderRequest) (current : Order) :
    Except GatewayError OandaOrderRequest := do
  let orderType ← toOandaOrderType current.orderType
  pure
    { orderType
      instrument := current.symbol
      units := toOandaUnits text current.side (request.quantity.getD current.quantity)
      timeInForce := toOandaTif current.timeInForce
      positionFill := if current.reduceOnly.getD false then some reduceOnlyPositionFill else none
      price := (((request.limitPrice.or request.stopPrice).or current.limitPrice).or
        current.stopPrice).map text.write
      stopLossOnFill := none
      takeProfitOnFill := none
      trailingStopLossOnFill := none
      clientExtensions := none }

/-- What `modify_order` sends, after the answer `current` to its request for the order. -/
def replacement (orderId : String) (request : ModifyOrderRequest) (current : Answer OandaOrder) :
    Except GatewayError OandaOrderRequest := do
  checkCircuitBreaker breaker
  let current ← getOrder text breaker orderId current
  buildReplacement text request current

/-- The id under which the new order is fetched. -/
def replacedId (orderId : String) (body : Json) : String :=
  (((body.get "orderCreateTransaction").bind (Json.get · "id")).bind Json.asStr).getD orderId

/-- `answer` is the answer to the replacement and `fetch` the ones to requests for an order. -/
def modifyOrder (orderId : String) (request : ModifyOrderRequest) (current : Answer OandaOrder)
    (answer : Answer Json) (fetch : String → Answer OandaOrder) :
    Except GatewayError ModifyOrderResult := do
  let _ ← replacement text breaker orderId request current
  match answer with
  | .failed error => .error (.providerError ("Request failed: " ++ error) (some "oanda"))
  | .answered status json value =>
    if status = 404 then .error (.orderNotFound orderId)
    else if isSuccess status then
      match value with
      | .error error => .error (.internal ("Failed to parse modify response: " ++ error))
      | .ok body =>
        let newId := replacedId orderId body
        let order ← getOrder text breaker newId (fetch newId)
        pure { order, previousOrderId := some orderId }
    else .error (mapHttpError status (errorBody json))

/-! ## What an order is -/

/-- The attributes of an order at the broker. -/
structure Attributes where
  orderType : String
  instrument : Option String
  /-- Negative for a sale. -/
  units : Option Decimal
  limitPrice : Option Decimal
  stopPrice : Option Decimal
  timeInForce : String
  positionFill : String
  stopLoss : Option OandaOnFill
  takeProfit : Option OandaOnFill
  trailingStopLoss : Option OandaTrailingStopLossOnFill
  tradeId : Option String
  clientExtensions : Option OandaClientExtensions
  deriving DecidableEq

/-- The limit and the stop price of an order of this type. -/
def pricesOf (orderType : String) (price : Option Decimal) : Option Decimal × Option Decimal :=
  match fromOandaOrderType orderType with
  | .ok orderType => triggerPrices orderType price
  | .error _ => (none, none)

def OandaOrderRequest.attributes (r : OandaOrderRequest) : Attributes where
  orderType := r.orderType
  instrument := some r.instrument
  units := text.read r.units
  limitPrice := (pricesOf r.orderType (r.price.bind text.read)).1
  stopPrice := (pricesOf r.orderType (r.price.bind text.read)).2
  timeInForce := r.timeInForce
  positionFill := r.positionFill.getD "DEFAULT"
  stopLoss := r.stopLossOnFill
  takeProfit := r.takeProfitOnFill
  trailingStopLoss := r.trailingStopLossOnFill
  tradeId := none
  clientExtensions := r.clientExtensions

/-- The requested quantity on the side of the order. -/
def expectedUnits (units requested : Option Decimal) : Option Decimal :=
  match units with
  | none => requested
  | some u => some (requested.elim u fun q => if u < 0 then -q else q)

/-- A stop loss or take profit at the requested price. -/
def onFillAt (held : Option OandaOnFill) (price : Decimal) : OandaOnFill :=
  match held with
  | none => { price := text.write price }
  | some held => { held with price := text.write price }

def trailingAt (held : Option OandaTrailingStopLossOnFill) (distance : Decimal) :
    OandaTrailingStopLossOnFill :=
  match held with
  | none => { distance := text.write distance }
  | some held => { held with distance := text.write distance }

/-- The order with the attributes that the request names changed, and no others. -/
def expected (o : OandaOrder) (request : ModifyOrderRequest) : Attributes where
  orderType := o.orderType
  instrument := o.instrument
  units := expectedUnits (o.units.bind text.read) request.quantity
  limitPrice := request.limitPrice.or (pricesOf o.orderType (o.price.bind text.read)).1
  stopPrice := request.stopPrice.or (pricesOf o.orderType (o.price.bind text.read)).2
  timeInForce := o.timeInForce.getD "GTC"
  positionFill := o.positionFill.getD "DEFAULT"
  stopLoss := (request.stopLoss.map (onFillAt text o.stopLossOnFill)).or o.stopLossOnFill
  takeProfit := (request.takeProfit.map (onFillAt text o.takeProfitOnFill)).or o.takeProfitOnFill
  trailingStopLoss :=
    (request.trailingDistance.map (trailingAt text o.trailingStopLossOnFill)).or
      o.trailingStopLossOnFill
  tradeId := o.tradeId
  clientExtensions := o.clientExtensions

/-- The request names no price that an order of this type does not have, and no two different ones
for an order with one price. -/
def NamesOnePrice (orderType : String) (price : Option Decimal) (request : ModifyOrderRequest) :
    Prop :=
  match fromOandaOrderType orderType with
  | .ok .limit => request.stopPrice = none
  | .ok .stop => request.limitPrice = none
  | .ok .stopLimit => request.limitPrice.or price = request.stopPrice.or price
  | _ => request.limitPrice = none ∧ request.stopPrice = none

/-- The order has, and the request names, nothing that the replacement leaves out. -/
structure Plain (o : OandaOrder) (request : ModifyOrderRequest) : Prop where
  orderType : o.orderType ≠ "TAKE_PROFIT" ∧ o.orderType ≠ "STOP_LOSS"
  instrument : o.instrument ≠ none
  units : o.units ≠ none ∨ request.quantity ≠ none
  quantity : ∀ u ∈ o.units.bind text.read, u < 0 → ∀ q ∈ request.quantity, 0 ≤ q
  prices : NamesOnePrice o.orderType (o.price.bind text.read) request
  timeInForce : o.timeInForce ≠ some "GTD"
  positionFill : o.positionFill = none ∨ o.positionFill = some "DEFAULT" ∨
    o.positionFill = some reduceOnlyPositionFill
  stopLoss : o.stopLossOnFill = none ∧ request.stopLoss = none
  takeProfit : o.takeProfitOnFill = none ∧ request.takeProfit = none
  trailingStopLoss : o.trailingStopLossOnFill = none ∧ request.trailingDistance = none
  tradeId : o.tradeId = none
  clientExtensions : o.clientExtensions = none

/-! ## What the translation keeps -/

variable {text breaker} {o : OandaOrder} {c : Order} {request : ModifyOrderRequest}

/-- What the translation `c` has of the order `o`. -/
structure Translated (text : DecimalText) (o : OandaOrder) (c : Order) : Prop where
  units : orderUnits text o.units = .ok (c.side, c.quantity)
  orderType : fromOandaOrderType o.orderType = .ok c.orderType
  timeInForce : orderTif o.timeInForce = .ok c.timeInForce
  symbol : c.symbol = o.instrument.getD ""
  prices : (c.limitPrice, c.stopPrice) = triggerPrices c.orderType (o.price.bind text.read)
  reduceOnly : c.reduceOnly = o.positionFill.map fun fill => decide (fill = reduceOnlyPositionFill)

theorem translateOandaOrder_cases (h : translateOandaOrder text o = .ok c) :
    Translated text o c := by
  unfold translateOandaOrder at h
  obtain ⟨⟨side, quantity⟩, hunits, h⟩ := Checked.exceptBind_eq_ok h
  obtain ⟨orderType, htype, h⟩ := Checked.exceptBind_eq_ok h
  obtain ⟨tif, htif, h⟩ := Checked.exceptBind_eq_ok h
  obtain ⟨status, -, h⟩ := Checked.exceptBind_eq_ok h
  cases h
  exact ⟨hunits, htype, htif, rfl, rfl, rfl⟩

/-! ## Attribute by attribute -/

variable {t t' : String} {orderType : OrderType}

theorem orderType_exact (hfrom : fromOandaOrderType t = .ok orderType)
    (hto : toOandaOrderType orderType = .ok t') :
    t' = t ↔ t ≠ "TAKE_PROFIT" ∧ t ≠ "STOP_LOSS" := by
  unfold fromOandaOrderType at hfrom
  split at hfrom <;> cases hfrom <;> cases hto <;> decide

theorem fromOandaOrderType_to (hto : toOandaOrderType orderType = .ok t) :
    fromOandaOrderType t = .ok orderType := by
  cases orderType <;> cases hto <;> rfl

theorem timeInForce_exact {t : Option String} {tif : TimeInForce} (h : orderTif t = .ok tif) :
    toOandaTif tif = t.getD "GTC" ↔ t ≠ some "GTD" := by
  cases t with
  | none => cases h; decide
  | some t =>
    unfold orderTif fromOandaTif at h
    dsimp only at h
    split at h <;> cases h <;> decide

theorem positionFill_exact (fill : Option String) :
    (if (fill.map fun fill => decide (fill = reduceOnlyPositionFill)).getD false then
        some reduceOnlyPositionFill else none).getD "DEFAULT" = fill.getD "DEFAULT" ↔
      fill = none ∨ fill = some "DEFAULT" ∨ fill = some reduceOnlyPositionFill := by
  cases fill with
  | none => simp
  | some fill =>
    by_cases hfill : fill = reduceOnlyPositionFill
    · simp [hfill]
    · simp [hfill, eq_comm]

theorem units_exact (h : Translated text o c) (requested : Option Decimal) :
    text.read (toOandaUnits text c.side (requested.getD c.quantity)) =
        expectedUnits (o.units.bind text.read) requested ↔
      (o.units ≠ none ∨ requested ≠ none) ∧
        ∀ u ∈ o.units.bind text.read, u < 0 → ∀ q ∈ requested, 0 ≤ q := by
  have hunits := h.units
  cases hu : o.units with
  | none =>
    rw [hu] at hunits
    obtain ⟨hside, hquantity⟩ := Prod.mk.inj (Except.ok.inj hunits)
    rw [← hside, ← hquantity, toOandaUnits, text.read_write]
    cases requested <;> simp [expectedUnits]
  | some units =>
    rw [hu] at hunits
    unfold orderUnits fromOandaUnits at hunits
    dsimp only at hunits
    split at hunits
    · cases hunits
    · rename_i d hread
      rw [Option.bind_some, hread]
      by_cases hneg : d < 0
      · rw [if_pos hneg] at hunits
        obtain ⟨hside, hquantity⟩ := Prod.mk.inj (Except.ok.inj hunits)
        rw [← hside, ← hquantity, toOandaUnits, text.read_neg_write]
        cases requested with
        | none => simp [expectedUnits, abs_of_neg hneg, hneg.le]
        | some q => simp [expectedUnits, hneg]
      · rw [if_neg hneg] at hunits
        obtain ⟨hside, hquantity⟩ := Prod.mk.inj (Except.ok.inj hunits)
        rw [← hside, ← hquantity, toOandaUnits, text.read_write]
        cases requested <;> simp [expectedUnits, hneg]

theorem prices_exact (request : ModifyOrderRequest) (p : Option Decimal)
    (ht : fromOandaOrderType t = .ok orderType) (ht' : fromOandaOrderType t' = .ok orderType) :
    pricesOf t' (((request.limitPrice.or request.stopPrice).or (triggerPrices orderType p).1).or
        (triggerPrices orderType p).2) =
      (request.limitPrice.or (pricesOf t p).1, request.stopPrice.or (pricesOf t p).2) ↔
    NamesOnePrice t p request := by
  unfold pricesOf NamesOnePrice
  rw [ht, ht']
  obtain ⟨limit, stop, -, -, -, -⟩ := request
  cases orderType <;> cases limit <;> cases stop <;> cases p <;> simp [triggerPrices, eq_comm]

/-- Nothing is sent in the place of something that is held or requested. -/
theorem none_exact {α β : Type} (requested : Option α) (f : α → β) (held : Option β) :
    none = (requested.map f).or held ↔ held = none ∧ requested = none := by
  cases requested <;> cases held <;> simp

theorem attributes_exact_iff {sent : OandaOrderRequest} (h : Translated text o c)
    (hsent : buildReplacement text request c = .ok sent) :
    sent.attributes text = expected text o request ↔ Plain text o request := by
  obtain ⟨t, ht, hsent⟩ := Checked.exceptBind_eq_ok hsent
  obtain rfl := Except.ok.inj hsent
  have htype := orderType_exact h.orderType ht
  have hprices := prices_exact request (o.price.bind text.read) h.orderType
    (fromOandaOrderType_to ht)
  have htif := timeInForce_exact h.timeInForce
  have hunits := units_exact h request.quantity
  have hfill := positionFill_exact o.positionFill
  have hread (p : Option Decimal) : (p.map text.write).bind text.read = p := by
    cases p <;> simp [text.read_write]
  have hinstrument : some c.symbol = o.instrument ↔ o.instrument ≠ none := by
    rw [h.symbol]
    cases o.instrument <;> simp
  have hlimit : c.limitPrice = (triggerPrices c.orderType (o.price.bind text.read)).1 :=
    congrArg Prod.fst h.prices
  have hstop : c.stopPrice = (triggerPrices c.orderType (o.price.bind text.read)).2 :=
    congrArg Prod.snd h.prices
  rw [Prod.ext_iff] at hprices
  simp only [OandaOrderRequest.attributes, expected, Attributes.mk.injEq, hread, hlimit, hstop,
    h.reduceOnly, htype, hinstrument, hunits, htif, hfill, none_exact]
  constructor
  · rintro ⟨htype, hinstrument, ⟨hunits, hquantity⟩, hlimit, hstop, htif, hfill, hstopLoss,
      htakeProfit, htrailing, htrade, hextensions⟩
    exact
      { orderType := htype
        instrument := hinstrument
        units := hunits
        quantity := hquantity
        prices := hprices.mp ⟨hlimit, hstop⟩
        timeInForce := htif
        positionFill := hfill
        stopLoss := hstopLoss
        takeProfit := htakeProfit
        trailingStopLoss := htrailing
        tradeId := htrade.symm
        clientExtensions := hextensions.symm }
  · intro hplain
    obtain ⟨hlimit, hstop⟩ := hprices.mpr hplain.prices
    exact ⟨hplain.orderType, hplain.instrument, ⟨hplain.units, hplain.quantity⟩, hlimit, hstop,
      hplain.timeInForce, hplain.positionFill, hplain.stopLoss, hplain.takeProfit,
      hplain.trailingStopLoss, hplain.tradeId.symm, hplain.clientExtensions.symm⟩

theorem modifyOrder_ok {orderId : String} {current : Answer OandaOrder} {answer : Answer Json}
    {fetch : String → Answer OandaOrder} {result : ModifyOrderResult}
    (h : modifyOrder text breaker orderId request current answer fetch = .ok result) :
    ∃ sent, replacement text breaker orderId request current = .ok sent := by
  obtain ⟨sent, hsent, -⟩ := Checked.exceptBind_eq_ok h
  exact ⟨sent, hsent⟩

/-- For every order that the broker has and every accepted request: the replacement is the order
with only the named attributes changed, exactly if the order has, and the request names, nothing
that it leaves out. -/
theorem replacement_exact_iff (text : DecimalText) (breaker : AdapterCircuitBreaker)
    (orderId : String) (request : ModifyOrderRequest) (o : OandaOrder) (answer : Answer Json)
    (fetch : String → Answer OandaOrder) (result : ModifyOrderResult)
    (h : modifyOrder text breaker orderId request (.answered 200 none (.ok o)) answer fetch =
      .ok result) :
    ∃ sent, replacement text breaker orderId request (.answered 200 none (.ok o)) = .ok sent ∧
      (sent.attributes text = expected text o request ↔ Plain text o request) := by
  obtain ⟨sent, hsent⟩ := modifyOrder_ok h
  refine ⟨sent, hsent, ?_⟩
  obtain ⟨_, -, hsent⟩ := Checked.exceptBind_eq_ok hsent
  obtain ⟨c, hc, hsent⟩ := Checked.exceptBind_eq_ok hsent
  obtain ⟨_, -, hc⟩ := Checked.exceptBind_eq_ok hc
  exact attributes_exact_iff (translateOandaOrder_cases hc) hsent

/-- A limit order with a stop loss, a take profit and a client id. -/
def bracketed : OandaOrder where
  id := "42"
  orderType := "LIMIT"
  instrument := some "EUR_USD"
  units := some "-100"
  price := some "2"
  timeInForce := some "GTC"
  state := "PENDING"
  createTime := "2024-01-01T00:00:00Z"
  stopLossOnFill := some { price := "3" }
  takeProfitOnFill := some { price := "1" }
  clientExtensions := some { id := some "entry-1" }

/-- The price of the order is changed, and the broker accepts that. -/
def reprice : Except GatewayError ModifyOrderResult :=
  modifyOrder .fractions (.new 3 0 "oanda") "42" { limitPrice := some (5 / 2) }
    (.answered 200 none (.ok bracketed)) (.answered 201 none (.ok (.obj [])))
    fun _ => .answered 200 none (.ok bracketed)

theorem replacement_exact_bracketed :
    ∃ result, reprice = .ok result ∧
      ∃ sent, replacement .fractions (.new 3 0 "oanda") "42" { limitPrice := some (5 / 2) }
          (.answered 200 none (.ok bracketed)) = .ok sent ∧
        (sent.attributes .fractions =
            expected .fractions bracketed { limitPrice := some (5 / 2) } ↔
          Plain .fractions bracketed { limitPrice := some (5 / 2) }) := by
  have hok : reprice.isOk = true := by decide +kernel
  cases hresult : reprice with
  | error e =>
    rw [hresult] at hok
    cases hok
  | ok result => exact ⟨result, rfl, replacement_exact_iff _ _ _ _ _ _ _ result hresult⟩

/-- The new order has the new price, but neither the exits nor the client id of the old one. -/
theorem reprice_drops_exits :
    reprice.isOk = true ∧
      replacement .fractions (.new 3 0 "oanda") "42" { limitPrice := some (5 / 2) }
          (.answered 200 none (.ok bracketed)) =
        .ok
          { orderType := "LIMIT"
            instrument := "EUR_USD"
            units := "-100"
            timeInForce := "GTC"
            positionFill := none
            price := some "5/2"
            stopLossOnFill := none
            takeProfitOnFill := none
            trailingStopLossOnFill := none
            clientExtensions := none } ∧
      (expected .fractions bracketed { limitPrice := some (5 / 2) }).stopLoss =
        some { price := "3" } ∧
      (expected .fractions bracketed { limitPrice := some (5 / 2) }).takeProfit =
        some { price := "1" } ∧
      (expected .fractions bracketed { limitPrice := some (5 / 2) }).clientExtensions =
        some { id := some "entry-1" } := by
  decide +kernel

end Gateway.Oanda
