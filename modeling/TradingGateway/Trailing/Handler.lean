import TradingGateway.Lib.Routine
import TradingGateway.Lib.Table
import TradingGateway.Exit.CircuitBreaker
import TradingGateway.Trailing.Types

/-!
# The trailing-stop handler (`crates/core/src/trailing_stop/handler.rs`)

The handler follows the price for every entry and keeps a stop order at the provider.

* `Ctx`: what the handler is made with: the executor that places the stops (`executor.rs`), the
  price source (`price_source.rs`), the clock.
* `World`: the handler's maps, the outside state `β`, and the stop orders that are live according
  to the executor's answers (`live`). No modelled function reads `live`; the statements about stops
  at the provider are about it.
* `TrailM`: the code of a handler function. Each operation on a map is one step, each call of the
  executor, the price source or the quote subscriber is awaited.
-/

namespace Gateway.Trailing

open Gateway.Exit (ExitOrderCircuitBreaker)

/-! ## Executor and price source -/

structure StopOrderRequest where
  symbol : String
  side : Side
  quantity : Decimal
  stopPrice : Decimal
  limitPrice : Decimal
  deriving DecidableEq, Repr

structure ModifyStopRequest where
  orderId : String
  symbol : String
  side : Side
  quantity : Decimal
  newStopPrice : Decimal
  newLimitPrice : Decimal
  deriving DecidableEq, Repr

structure PlacedStopOrder where
  orderId : String
  stopPrice : Decimal
  deriving DecidableEq, Repr

structure StopOrderStatus where
  orderId : String
  stopPrice : Decimal
  isActive : Bool
  deriving DecidableEq, Repr

/-- The executor of stop orders, over an outside state `β`. -/
structure StopOrderExecutor (β : Type) where
  placeStopOrder : StopOrderRequest → β → Except GatewayError PlacedStopOrder × β
  modifyStopOrder : ModifyStopRequest → β → Except GatewayError PlacedStopOrder × β
  cancelStopOrder : (orderId symbol : String) → β → Except GatewayError Unit × β
  getStopOrderStatus : (orderId symbol : String) → β → Except GatewayError StopOrderStatus × β

/-- The price source with the quote subscriber. A subscription is known by its symbol. -/
structure PriceSource (β : Type) where
  ensureSubscribed : String → β → Except GatewayError Unit × β
  currentPrice : String → β → Except GatewayError Decimal × β
  subscribe : String → β → Except GatewayError Unit × β
  unsubscribe : String → β → Except GatewayError Unit × β
  /-- The first update of a subscription, if one comes in time. -/
  recv : String → Duration → β → Option Decimal × β

structure Ctx (β : Type) where
  config : TrailingStopConfig
  platform : TradingPlatform
  executor : StopOrderExecutor β
  priceSource : PriceSource β
  /-- The monotonic clock. -/
  now : β → Instant
  /-- The handler was made by `new_arc`, so it can spawn tracking tasks. -/
  selfRef : Bool

/-- Every call succeeds, and a stop rests at the price that was asked for. -/
structure StopOrderExecutor.Succeeds {β : Type} (ex : StopOrderExecutor β) : Prop where
  place : ∀ r b, ∃ o b', ex.placeStopOrder r b = (.ok o, b') ∧ o.stopPrice = r.stopPrice
  modify : ∀ r b, ∃ o b', ex.modifyStopOrder r b = (.ok o, b') ∧ o.stopPrice = r.newStopPrice
  cancel : ∀ id symbol b, ∃ b', ex.cancelStopOrder id symbol b = (.ok (), b')

/-! ## State -/

/-- The tracking task of a symbol: its cancellation token and its number of users. -/
structure SymbolTask where
  token : ℕ
  refcount : ℕ
  deriving DecidableEq, Repr

structure TrailingStopHandler where
  entriesByPlaceholder : Table String TrailingEntry
  /-- An entry stands at its own placeholder id. -/
  keyed : ∀ {k e}, entriesByPlaceholder.get k = some e → e.placeholderId = k
  entriesByPrimary : Table String String
  symbolTasks : Table String SymbolTask
  circuitBreaker : ExitOrderCircuitBreaker
  /-- The number of cancellation tokens made so far. -/
  tokens : ℕ
  /-- The tokens that were cancelled. -/
  cancelledTokens : List ℕ

def TrailingStopHandler.new : TrailingStopHandler where
  entriesByPlaceholder := ∅
  keyed := by simp
  entriesByPrimary := ∅
  symbolTasks := ∅
  circuitBreaker := .new 3 (300 * 10 ^ 9)
  tokens := 0
  cancelledTokens := []

/-- A stop order at the provider. -/
structure StopOrder where
  /-- The entry it was placed for. -/
  placeholderId : String
  orderId : String
  stopPrice : Decimal
  deriving DecidableEq, Repr

structure World (β : Type) where
  handler : TrailingStopHandler
  outside : β
  /-- The live stop orders, oldest first. -/
  live : List StopOrder

variable {β : Type}

/-- A new handler. -/
def World.initial (b : β) : World β := ⟨.new, b, []⟩

namespace World

/-- The live stops of an entry. -/
def liveFor (w : World β) (placeholderId : String) : List StopOrder :=
  w.live.filter fun o => o.placeholderId = placeholderId

def addStop (w : World β) (placeholderId orderId : String) (stopPrice : Decimal) : World β :=
  { w with live := w.live ++ [⟨placeholderId, orderId, stopPrice⟩] }

def dropStop (w : World β) (placeholderId orderId : String) : World β :=
  { w with
    live := w.live.filter fun o => ¬ (o.placeholderId = placeholderId ∧ o.orderId = orderId) }

end World

/-- The code of a handler function. -/
abbrev TrailM (β : Type) := Routine (World β)

namespace TrailingStopHandler

def getEntry (h : TrailingStopHandler) (placeholderId : String) : Option TrailingEntry :=
  h.entriesByPlaceholder.get placeholderId

def getPlaceholderForPrimary (h : TrailingStopHandler) (primaryOrderId : String) : Option String :=
  h.entriesByPrimary.get primaryOrderId

def isCircuitBreakerOpen (h : TrailingStopHandler) : Bool := h.circuitBreaker.isOpen

def insertEntry (h : TrailingStopHandler) (entry : TrailingEntry) : TrailingStopHandler :=
  { h with
    entriesByPlaceholder := h.entriesByPlaceholder.insert entry.placeholderId entry
    keyed := by
      intro k e he
      rw [Table.get_insert] at he
      split at he
      · rename_i hk; cases he; exact hk.symm
      · exact h.keyed he }

/-- Change the entry at `placeholderId`, if it is there (`get_mut`). -/
def modifyEntry (h : TrailingStopHandler) (placeholderId : String)
    (f : TrailingEntry → TrailingEntry) (hf : ∀ e, (f e).placeholderId = e.placeholderId) :
    TrailingStopHandler :=
  { h with
    entriesByPlaceholder := h.entriesByPlaceholder.modify placeholderId f
    keyed := by
      intro k e he
      rw [Table.get_modify] at he
      split at he
      · rename_i hk
        obtain ⟨e', he', rfl⟩ := Option.map_eq_some_iff.mp he
        rw [hf, h.keyed he', hk]
      · exact h.keyed he }

/-- Give the entry at `placeholderId` the status that `f` finds for it, if it finds one. -/
def updateStatus (h : TrailingStopHandler) (placeholderId : String)
    (f : TrailingEntry → Option TrailingEntryStatus) : TrailingStopHandler :=
  h.modifyEntry placeholderId
    (fun e => match f e with
      | some status => e.setStatus status
      | none => e)
    (fun e => by cases f e <;> rfl)

/-- The placeholders of the entries that `p` selects. -/
def selectEntries (h : TrailingStopHandler) (p : TrailingEntry → Bool) : List String :=
  ((h.entriesByPlaceholder.toList.map Prod.snd).filter p).map TrailingEntry.placeholderId

end TrailingStopHandler

def readHandler {τ : Type} (f : TrailingStopHandler → τ) : TrailM β τ :=
  Routine.read fun w => f w.handler

def modifyHandler (f : TrailingStopHandler → TrailingStopHandler) : TrailM β Unit :=
  Routine.modify fun w => { w with handler := f w.handler }

/-! ## Calls -/

/-- Await a call on the outside state that places, moves and cancels no stop. -/
def outsideCall {τ : Type} (f : β → τ × β) : TrailM β τ :=
  Routine.call fun w => ((f w.outside).1, { w with outside := (f w.outside).2 })

def placeStopOrder (c : Ctx β) (placeholderId : String) (r : StopOrderRequest) :
    TrailM β (Except GatewayError PlacedStopOrder) :=
  Routine.call fun w =>
    let (result, outside) := c.executor.placeStopOrder r w.outside
    let w := { w with outside }
    match result with
    | .ok o => (.ok o, w.addStop placeholderId o.orderId o.stopPrice)
    | .error e => (.error e, w)

/-- A modification replaces the stop that it names. -/
def modifyStopOrder (c : Ctx β) (placeholderId : String) (r : ModifyStopRequest) :
    TrailM β (Except GatewayError PlacedStopOrder) :=
  Routine.call fun w =>
    let (result, outside) := c.executor.modifyStopOrder r w.outside
    let w := { w with outside }
    match result with
    | .ok o =>
      (.ok o, (w.dropStop placeholderId r.orderId).addStop placeholderId o.orderId o.stopPrice)
    | .error e => (.error e, w)

def cancelStopOrder (c : Ctx β) (placeholderId orderId symbol : String) :
    TrailM β (Except GatewayError Unit) :=
  Routine.call fun w =>
    let (result, outside) := c.executor.cancelStopOrder orderId symbol w.outside
    let w := { w with outside }
    match result with
    | .ok () => (.ok (), w.dropStop placeholderId orderId)
    | .error e => (.error e, w)

/-- The answer tells where the stop rests. -/
def getStopOrderStatus (c : Ctx β) (placeholderId orderId symbol : String) :
    TrailM β (Except GatewayError StopOrderStatus) :=
  Routine.call fun w =>
    let (result, outside) := c.executor.getStopOrderStatus orderId symbol w.outside
    let w := { w with outside }
    match result with
    | .ok s =>
      let w := w.dropStop placeholderId orderId
      (.ok s, if s.isActive then w.addStop placeholderId s.orderId s.stopPrice else w)
    | .error e => (.error e, w)

/-! ## Placing and adjusting a stop -/

/-- Record a failed placement or modification with the circuit breaker. -/
def recordStopOrderFailure (c : Ctx β) : TrailM β Unit :=
  Routine.modify fun w =>
    { w with
      handler := { w.handler with
        circuitBreaker := w.handler.circuitBreaker.recordFailure (c.now w.outside) } }

/-- Place the first stop of an entry. `false` if it was not placed. -/
def placeInitialStop (c : Ctx β) (placeholderId symbol : String) (side : Side)
    (quantity stopLevel : Decimal) : TrailM β (Except GatewayError Bool) := do
  if ← readHandler TrailingStopHandler.isCircuitBreakerOpen then pure (.ok false)
  else
    match ← placeStopOrder c placeholderId
        ⟨symbol, side, quantity, stopLevel, stopLevel⟩ with
    | .ok placed =>
      modifyHandler fun h => h.updateStatus placeholderId fun entry =>
        some (.active placed.orderId (entry.currentPeak.getD stopLevel) placed.stopPrice)
      pure (.ok true)
    | .error e =>
      recordStopOrderFailure c
      modifyHandler fun h => h.updateStatus placeholderId fun _ => some (.failed e.display 0)
      pure (.ok false)

/-- The status of an active entry whose stop is now `orderId` at `stopPrice`: the peak stays. -/
def movedStatus (orderId : String) (stopPrice : Decimal) (entry : TrailingEntry) :
    Option TrailingEntryStatus :=
  match entry.status with
  | .active _ peakPrice _ => some (.active orderId peakPrice stopPrice)
  | _ => none

/-- Move the stop of an entry. `none` if nothing was sent. -/
def adjustStopOrder (c : Ctx β) (placeholderId stopOrderId symbol : String)
    (newStopLevel : Decimal) (side : Side) (quantity : Decimal) :
    TrailM β (Except GatewayError (Option String)) := do
  if ← readHandler TrailingStopHandler.isCircuitBreakerOpen then pure (.ok none)
  else
    match ← modifyStopOrder c placeholderId
        ⟨stopOrderId, symbol, side, quantity, newStopLevel, newStopLevel⟩ with
    | .ok placed =>
      modifyHandler fun h =>
        h.updateStatus placeholderId (movedStatus placed.orderId placed.stopPrice)
      pure (.ok (some placed.orderId))
    | .error e =>
      recordStopOrderFailure c
      -- The modification may have taken effect although its answer was an error.
      match ← getStopOrderStatus c placeholderId stopOrderId symbol with
      | .ok status =>
        if status.stopPrice = newStopLevel then
          modifyHandler fun h =>
            h.updateStatus placeholderId (movedStatus status.orderId status.stopPrice)
          pure (.ok (some status.orderId))
        else pure (.error e)
      | .error _ => pure (.error e)

/-! ## Registration -/

/-- The `Debug` text of an order type. -/
def orderTypeName : OrderType → String
  | .market => "Market"
  | .limit => "Limit"
  | .stop => "Stop"
  | .stopLimit => "StopLimit"
  | .trailingStop => "TrailingStop"

/-- The distance and its type, or why `register` refuses the order. -/
def trailingTerms (order : OrderRequest) : Except GatewayError (Decimal × TrailingType) :=
  if order.orderType ≠ .trailingStop then
    .error (.invalidRequest
      ("Expected TrailingStop order, got " ++ orderTypeName order.orderType) none)
  else
    match order.trailingDistance with
    | none =>
      .error (.invalidRequest "trailing_distance is required for trailing stop orders" none)
    | some trailingDistance =>
      let trailingType := order.trailingType.getD .percent
      if trailingDistance ≤ 0 then
        .error (.invalidRequest
          ("trailing_distance must be positive, got " ++ trailingDistance.display) none)
      else if trailingType = .percent ∧ trailingDistance ≥ 100 then
        .error (.invalidRequest
          ("trailing_distance percentage must be less than 100, got " ++
            trailingDistance.display) none)
      else .ok (trailingDistance, trailingType)

/-- Register a trailing stop for a primary order. The result is its placeholder id. -/
def register (c : Ctx β) (primaryOrderId : String) (order : OrderRequest) :
    TrailM β (Except GatewayError String) := do
  match trailingTerms order with
  | .error e => pure (.error e)
  | .ok (trailingDistance, trailingType) =>
    if (← readHandler fun h => h.entriesByPlaceholder.len) ≥ c.config.maxPendingEntries then
      pure (.error (.internal ("Resource exhausted: trailing_stop_entries (limit: " ++
        toString c.config.maxPendingEntries ++ ")")))
    else
      let now ← Routine.read fun w : World β => c.now w.outside
      let entry := TrailingEntry.new primaryOrderId order.symbol order.side order.quantity
        trailingDistance trailingType c.platform now
      modifyHandler fun h => h.insertEntry entry
      modifyHandler fun h =>
        { h with
          entriesByPrimary := h.entriesByPrimary.insert primaryOrderId entry.placeholderId }
      pure (.ok entry.placeholderId)

/-! ## Activation -/

/-- Count one more user of the symbol's tracking task, and start the task if there is none. The task
itself calls `onPriceUpdate` for each price and `onPriceSourceDisconnected` when its feed closes. -/
def spawnTrackingTask (c : Ctx β) (symbol : String) : TrailM β Unit := do
  if c.selfRef then
    modifyHandler fun h =>
      match h.symbolTasks.get symbol with
      | some task =>
        { h with
          symbolTasks := h.symbolTasks.insert symbol { task with refcount := task.refcount + 1 } }
      | none =>
        { h with
          symbolTasks := h.symbolTasks.insert symbol ⟨h.tokens, 1⟩
          tokens := h.tokens + 1 }
  else pure ()

/-- The price that tracking starts from: the cached one, or the first update in time. -/
def activationPrice (c : Ctx β) (symbol : String) : TrailM β (Except GatewayError Decimal) := do
  match ← outsideCall (c.priceSource.currentPrice symbol) with
  | .ok price =>
    match ← outsideCall (c.priceSource.subscribe symbol) with
    | .ok () => pure (.ok price)
    | .error e => pure (.error e)
  | .error _ =>
    match ← outsideCall (c.priceSource.subscribe symbol) with
    | .error e => pure (.error e)
    | .ok () =>
      match ← outsideCall (c.priceSource.recv symbol c.config.activationTimeout) with
      | some price => pure (.ok price)
      | none =>
        let _ ← outsideCall (c.priceSource.unsubscribe symbol)
        pure (.error (.symbolNotFound symbol))

/-- Start tracking for a copy of an entry. The result is the copy, tracking. -/
def tryActivateTracking (c : Ctx β) (entry : TrailingEntry) :
    TrailM β (Except GatewayError TrailingEntry) := do
  -- A failed subscription is only logged.
  let _ ← outsideCall (c.priceSource.ensureSubscribed entry.symbol)
  match ← activationPrice c entry.symbol with
  | .error e => pure (.error e)
  | .ok currentPrice =>
    let entry := entry.setStatus (.tracking currentPrice (entry.calculateStop currentPrice))
    spawnTrackingTask c entry.symbol
    pure (.ok entry)

/-- The entry after a failed activation, or the error if it is not one to wait for. -/
def handleActivationFailure (entry : TrailingEntry) :
    GatewayError → Except GatewayError TrailingEntry
  | .unsupportedOperation .. =>
    .ok (entry.setStatus (.priceSourceUnavailable
      "Real-time price tracking not yet implemented" 0 none))
  | .symbolNotFound sym =>
    .ok (entry.setStatus (.priceSourceUnavailable ("Price not available for " ++ sym) 0 none))
  | .providerUnavailable message =>
    .ok (entry.setStatus (.priceSourceUnavailable
      ("Price source unavailable: " ++ message) 0 none))
  | other => .error other

/-- The primary order filled. `true` if tracking started. -/
def onPrimaryFilled (c : Ctx β) (primaryOrderId : String) (_fillPrice : Decimal) :
    TrailM β (Except GatewayError Bool) := do
  match ← readHandler fun h => h.getPlaceholderForPrimary primaryOrderId with
  | none => pure (.ok false)
  | some placeholderId =>
    if ← readHandler fun h => (h.getEntry placeholderId).any fun e => e.status.isPending then
      match ← readHandler fun h => h.getEntry placeholderId with
      | none => pure (.ok false)
      | some entry =>
        match ← tryActivateTracking c entry with
        | .ok entry =>
          modifyHandler fun h => h.insertEntry entry
          pure (.ok true)
        | .error e =>
          match handleActivationFailure entry e with
          | .error e => pure (.error e)
          | .ok entry =>
            modifyHandler fun h => h.insertEntry entry
            pure (.ok false)
    else pure (.ok false)

/-! ## Cancellation -/

/-- One user less of the symbol's tracking task; the last one stops it. -/
def decrementSymbolTask (symbol : String) : TrailM β Unit :=
  modifyHandler fun h =>
    match h.symbolTasks.get symbol with
    | none => h
    | some task =>
      let refcount := task.refcount - 1
      if refcount = 0 then
        { h with
          symbolTasks := h.symbolTasks.remove symbol
          cancelledTokens := task.token :: h.cancelledTokens }
      else { h with symbolTasks := h.symbolTasks.insert symbol { task with refcount } }

/-- Mark an entry cancelled, unless it is terminal. The entry as it was, if it was marked. -/
def markCancelled (placeholderId : String) (reason : CancellationReason) :
    TrailM β (Option TrailingEntry) :=
  Routine.step fun w =>
    match w.handler.getEntry placeholderId with
    | none => (none, w)
    | some e =>
      if e.status.isTerminal then (none, w)
      else
        (some e, { w with
          handler := w.handler.updateStatus placeholderId fun _ => some (.cancelled reason) })

/-- Cancel an entry, without a call to the provider. -/
def cancel (placeholderId : String) (reason : CancellationReason) :
    TrailM β (Except GatewayError Bool) := do
  match ← markCancelled placeholderId reason with
  | none => pure (.ok false)
  | some e =>
    modifyHandler fun h =>
      { h with entriesByPrimary := h.entriesByPrimary.remove e.primaryOrderId }
    decrementSymbolTask e.symbol
    pure (.ok true)

/-- Cancel an entry, and its stop order at the provider if the entry is active. -/
def cancelAsync (c : Ctx β) (placeholderId : String) (reason : CancellationReason) :
    TrailM β (Except GatewayError Bool) := do
  match ← readHandler fun h => h.getEntry placeholderId with
  | none => pure (.ok false)
  | some entry =>
    if entry.status.isTerminal then pure (.ok false)
    else
      match entry.status.stopOrderId with
      | some stopOrderId =>
        -- An error is only logged: the order may be filled or cancelled already.
        let _ ← cancelStopOrder c placeholderId stopOrderId entry.symbol
        cancel placeholderId reason
      | none => cancel placeholderId reason

/-- Cancel the entry of a primary order. -/
def cancelForPrimary (primaryOrderId : String) (reason : CancellationReason) :
    TrailM β (Except GatewayError Bool) := do
  match ← readHandler fun h => h.getPlaceholderForPrimary primaryOrderId with
  | none => pure (.ok false)
  | some placeholderId => cancel placeholderId reason

def onPrimaryCancelled (primaryOrderId : String) : TrailM β (Except GatewayError Bool) :=
  cancelForPrimary primaryOrderId .primaryCancelled

def onPrimaryRejected (primaryOrderId : String) : TrailM β (Except GatewayError Bool) :=
  cancelForPrimary primaryOrderId .primaryRejected

/-! ## Price updates -/

/-- What a price update does for one entry. -/
inductive PriceUpdateAction where
  | placeStop (symbol : String) (side : Side) (quantity stopLevel newPeak : Decimal)
  | adjustStop (stopOrderId symbol : String) (side : Side) (quantity newStopLevel newPeak : Decimal)
  | updateStateOnly (newPeak newStopLevel : Decimal)
  deriving DecidableEq, Repr

/-- The action for an entry at a price, chosen under the entry's guard. -/
def priceUpdateAction (entry : TrailingEntry) (price : Decimal) : Option PriceUpdateAction :=
  match entry.status with
  | .tracking currentPeak currentStop =>
    if entry.isPeakImprovement currentPeak price then
      some (.placeStop entry.symbol entry.side entry.quantity (entry.calculateStop price) price)
    else some (.placeStop entry.symbol entry.side entry.quantity currentStop currentPeak)
  | .active stopOrderId currentPeak oldStopLevel =>
    if entry.isPeakImprovement currentPeak price then
      let newStopLevel := entry.calculateStop price
      if shouldAdjustStop oldStopLevel newStopLevel then
        some (.adjustStop stopOrderId entry.symbol entry.side entry.quantity newStopLevel price)
      else some (.updateStateOnly price newStopLevel)
    else none
  | _ => none

/-- The first stop of an entry; without one the entry keeps tracking from the new peak. -/
def handlePlaceStopAction (c : Ctx β) (placeholderId symbol : String) (side : Side)
    (quantity stopLevel newPeak : Decimal) : TrailM β Unit := do
  match ← placeInitialStop c placeholderId symbol side quantity stopLevel with
  | .ok true => pure ()
  | _ =>
    modifyHandler fun h => h.updateStatus placeholderId fun entry =>
      match entry.status with
      | .tracking _ _ => some (.tracking newPeak (entry.calculateStop newPeak))
      | _ => none

def executePriceUpdateAction (c : Ctx β) (placeholderId : String) :
    PriceUpdateAction → TrailM β Unit
  | .placeStop symbol side quantity stopLevel newPeak =>
    handlePlaceStopAction c placeholderId symbol side quantity stopLevel newPeak
  | .adjustStop stopOrderId symbol side quantity newStopLevel newPeak => do
    match ← adjustStopOrder c placeholderId stopOrderId symbol newStopLevel side quantity with
    | .ok none =>
      modifyHandler fun h => h.updateStatus placeholderId fun entry =>
        match entry.status with
        | .active stopOrderId _ _ => some (.active stopOrderId newPeak newStopLevel)
        | _ => none
    | _ => pure ()
  | .updateStateOnly newPeak newStopLevel =>
    modifyHandler fun h => h.updateStatus placeholderId fun entry =>
      match entry.status with
      | .tracking _ _ => some (.tracking newPeak newStopLevel)
      | .active stopOrderId _ _ => some (.active stopOrderId newPeak newStopLevel)
      | _ => none

/-- A price for one of the entries that were selected. -/
def updateEntry (c : Ctx β) (price : Decimal) (placeholderId : String) : TrailM β Unit := do
  match ← readHandler fun h => h.getEntry placeholderId with
  | none => pure ()
  | some entry =>
    match priceUpdateAction entry price with
    | none => pure ()
    | some action => executePriceUpdateAction c placeholderId action

def updateEntries (c : Ctx β) (price : Decimal) : List String → TrailM β Unit
  | [] => pure ()
  | placeholderId :: rest => do
    updateEntry c price placeholderId
    updateEntries c price rest

/-- A price of a symbol, for all its entries that follow the price. -/
def onPriceUpdate (c : Ctx β) (symbol : String) (price : Decimal) :
    TrailM β (Except GatewayError Unit) := do
  let entriesToUpdate ← readHandler fun h =>
    h.selectEntries fun e => e.symbol = symbol ∧ e.status.isActive
  updateEntries c price entriesToUpdate
  pure (.ok ())

/-! ## The price feed goes and comes back -/

/-- The status of an entry that loses its feed. -/
def disconnectedStatus (entry : TrailingEntry) : TrailingEntryStatus :=
  let reason := match entry.status with
    | .active stopOrderId _ _ =>
      "Price source disconnected (stop order " ++ stopOrderId ++ " still active at broker)"
    | _ => "Price source disconnected"
  .priceSourceUnavailable reason 0 none

def disconnectEntries : List String → TrailM β Unit
  | [] => pure ()
  | placeholderId :: rest => do
    modifyHandler fun h =>
      h.updateStatus placeholderId fun entry => some (disconnectedStatus entry)
    disconnectEntries rest

/-- The feed of a symbol closed. -/
def onPriceSourceDisconnected (symbol : String) : TrailM β Unit := do
  let entries ← readHandler fun h =>
    h.selectEntries fun e => e.symbol = symbol ∧ e.status.isActive
  disconnectEntries entries
  modifyHandler fun h => { h with symbolTasks := h.symbolTasks.remove symbol }

/-- How long to wait after the last of `failureCount` failed recoveries. A duration is at most
`u64::MAX` seconds and 999,999,999 nanoseconds; a product beyond that is the maximal back-off. -/
def calculateRecoveryBackoff (config : TrailingStopConfig) (failureCount : ℕ) : Duration :=
  if failureCount = 0 then 0
  else
    let exponent := min (failureCount - 1) 20
    let product := config.recoveryInterval * 2 ^ exponent
    let backoff := if product < 2 ^ 64 * 10 ^ 9 then product else config.maxRecoveryBackoff
    min backoff config.maxRecoveryBackoff

structure RecoveryStats where
  attempted : ℕ := 0
  recovered : ℕ := 0
  expired : ℕ := 0
  stillUnavailable : ℕ := 0
  skipped : ℕ := 0
  deriving DecidableEq, Repr

/-- Count a failed recovery at `now`; `u32` saturates. -/
def failedRecovery (now : Instant) (entry : TrailingEntry) : TrailingEntry :=
  match entry.status with
  | .priceSourceUnavailable reason failures _ =>
    { entry with
      status := .priceSourceUnavailable reason (min (failures + 1) (2 ^ 32 - 1)) (some now) }
  | _ => entry

theorem failedRecovery_placeholderId (now : Instant) (entry : TrailingEntry) :
    (failedRecovery now entry).placeholderId = entry.placeholderId := by
  unfold failedRecovery
  split <;> rfl

/-- The entry failed to recover not long ago. -/
def backingOff (config : TrailingStopConfig) (now : Instant) (entry : TrailingEntry) : Bool :=
  match entry.status with
  | .priceSourceUnavailable _ failures (some lastAttempt) =>
    failures > 0 ∧ now - lastAttempt < calculateRecoveryBackoff config failures
  | _ => false

inductive RecoveryCheck where
  | expired | skipped | due
  deriving DecidableEq, Repr

/-- What a recovery scan does with an entry. -/
def recoveryCheck (config : TrailingStopConfig) (now : Instant) (entry : TrailingEntry) :
    RecoveryCheck :=
  if now - entry.createdAt > config.entryTtl then .expired
  else if backingOff config now entry then .skipped
  else .due

/-- Store a recovered status, if the entry still waits for its feed. -/
def storeRecovered (placeholderId : String) (status : TrailingEntryStatus) : TrailM β Bool :=
  Routine.step fun w =>
    match w.handler.getEntry placeholderId with
    | some e =>
      if e.status.isUnavailable then
        (true, { w with handler := w.handler.updateStatus placeholderId fun _ => some status })
      else (false, w)
    | none => (false, w)

/-- Try to recover an entry without a feed. -/
def tryRecoverEntry (c : Ctx β) (placeholderId : String) (stats : RecoveryStats) :
    TrailM β RecoveryStats := do
  match ← readHandler fun h => h.getEntry placeholderId with
  | none => pure stats
  | some entry =>
    let now ← Routine.read fun w : World β => c.now w.outside
    match recoveryCheck c.config now entry with
    | .expired =>
      modifyHandler fun h => h.updateStatus placeholderId fun _ =>
        some (.failed "Entry TTL expired while waiting for price source" 0)
      pure { stats with expired := stats.expired + 1 }
    | .skipped => pure { stats with skipped := stats.skipped + 1 }
    | .due =>
      match ← tryActivateTracking c entry with
      | .ok recovered =>
        if ← storeRecovered placeholderId recovered.status then
          pure { stats with recovered := stats.recovered + 1 }
        else pure stats
      | .error _ =>
        Routine.modify fun w =>
          { w with
            handler := w.handler.modifyEntry placeholderId (failedRecovery (c.now w.outside))
              (failedRecovery_placeholderId _) }
        pure { stats with stillUnavailable := stats.stillUnavailable + 1 }

def tryRecoverEntries (c : Ctx β) : List String → RecoveryStats → TrailM β RecoveryStats
  | [], stats => pure stats
  | placeholderId :: rest, stats => do
    let stats ← tryRecoverEntry c placeholderId stats
    tryRecoverEntries c rest stats

/-- Try to recover every entry without a feed. -/
def retryUnavailableEntries (c : Ctx β) : TrailM β RecoveryStats := do
  let unavailableIds ← readHandler fun h => h.selectEntries fun e => e.status.isUnavailable
  tryRecoverEntries c unavailableIds { attempted := unavailableIds.length }

/-! ## A simulated provider -/

/-- An executor that numbers the stops and always succeeds; its state is the number of stops. -/
def StopOrderExecutor.simulated : StopOrderExecutor ℕ where
  placeStopOrder r n := (.ok ⟨"s" ++ toString n, r.stopPrice⟩, n + 1)
  modifyStopOrder r n := (.ok ⟨"s" ++ toString n, r.newStopPrice⟩, n + 1)
  cancelStopOrder _ _ n := (.ok (), n)
  getStopOrderStatus id _ n := (.error (.orderNotFound id), n)

theorem StopOrderExecutor.simulated_succeeds : simulated.Succeeds where
  place _ _ := ⟨_, _, rfl, rfl⟩
  modify _ _ := ⟨_, _, rfl, rfl⟩
  cancel _ _ n := ⟨n, rfl⟩

/-- The simulated executor, with a price source whose cached price is 100. -/
def Ctx.simulated : Ctx ℕ where
  config := {}
  platform := .mock
  executor := .simulated
  priceSource :=
    { ensureSubscribed := fun _ n => (.ok (), n)
      currentPrice := fun _ n => (.ok 100, n)
      subscribe := fun _ n => (.ok (), n)
      unsubscribe := fun _ n => (.ok (), n)
      recv := fun _ _ n => (none, n) }
  now n := n
  selfRef := true

/-- A sell stop that trails by 5 percent. -/
def sampleTrailing : OrderRequest :=
  { symbol := "BTCUSD"
    side := .sell
    quantity := 1
    orderType := .trailingStop
    trailingDistance := some 5
    trailingType := some .percent }

end Gateway.Trailing
