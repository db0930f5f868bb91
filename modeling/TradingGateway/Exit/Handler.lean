import TradingGateway.Lib.Routine
import TradingGateway.Lib.Table
import TradingGateway.Adapter
import TradingGateway.Exit.CircuitBreaker
import TradingGateway.Exit.Types

/-!
# The exit handler (`crates/core/src/exit_management/handler.rs`)

The handler's maps, the world they stand in, and the registration of exit legs.

* `ExitHandler`: the maps and the circuit breaker. The configuration, the platform and the adapter
  never change; they are in `Ctx`.
* `World`: the handler, the provider, and a history of what the provider did for the handler. The
  history (`accepted`, `cancelled`, `filled`, `placing`) is read by no modelled function; the
  statements about live orders are about it.
* `ExitM`: the code of a handler function. Each operation on a map is one step, each call of the
  adapter is awaited.
-/

namespace Gateway.Exit

/-- A fill that arrived before its order's exits were registered. -/
structure BufferedFill where
  filledQty : Decimal
  totalQty : Decimal
  positionQty : Option Decimal
  positionId : Option String
  bufferedAt : Instant
  deriving DecidableEq, Repr

/-- The state of an exit handler. -/
structure ExitHandler where
  pendingByPlaceholder : Table String ExitEntry
  pendingByPrimary : Table String (List String)
  unmatchedFills : Table String BufferedFill
  circuitBreaker : ExitOrderCircuitBreaker

def ExitHandler.new (config : ExitHandlerConfig) : ExitHandler where
  pendingByPlaceholder := ∅
  pendingByPrimary := ∅
  unmatchedFills := ∅
  circuitBreaker := .new config.circuitBreakerThreshold config.circuitBreakerWindow

/-- What a handler is made with, and the adapter its calls are given. -/
structure Ctx (β : Type) where
  config : ExitHandlerConfig
  platform : TradingPlatform
  adapter : TradingAdapter β

/-- An exit order that the provider accepted. -/
structure AcceptedOrder where
  orderId : String
  /-- The exit entry it was placed for. -/
  placeholderId : String
  clientOrderId : Option String
  orderType : OrderType
  quantity : Decimal
  limitPrice : Option Decimal
  stopPrice : Option Decimal
  deriving DecidableEq, Repr

/-- The handler, the provider, and the history of exit orders. -/
structure World (β : Type) where
  handler : ExitHandler
  broker : β
  /-- The exit orders that the provider accepted, oldest first. -/
  accepted : List AcceptedOrder
  /-- The orders that the provider cancelled. -/
  cancelled : List String
  /-- The exit orders that filled. -/
  filled : List String
  /-- The entry for which an exit order is being placed and not yet recorded. -/
  placing : Option String

/-- A new handler at a provider with state `b`. -/
def World.initial {β : Type} (config : ExitHandlerConfig) (b : β) : World β where
  handler := .new config
  broker := b
  accepted := []
  cancelled := []
  filled := []
  placing := none

/-- The default configuration at the simulated provider. -/
def Ctx.simulated : Ctx (List (String × OrderRequest)) := ⟨{}, .mock, .simulated⟩

/-- The code of a handler function. -/
abbrev ExitM (β : Type) := Routine (World β)

variable {β : Type}

/-! ## The maps -/

namespace ExitHandler

def getEntry (h : ExitHandler) (placeholderId : String) : Option ExitEntry :=
  h.pendingByPlaceholder.get placeholderId

def getPlaceholdersForPrimary (h : ExitHandler) (primaryOrderId : String) : List String :=
  (h.pendingByPrimary.get primaryOrderId).getD []

def hasPendingForPrimary (h : ExitHandler) (primaryOrderId : String) : Bool :=
  (h.getPlaceholdersForPrimary primaryOrderId).any fun id => (h.getEntry id).isSome

/-- The first tracked entry that lists `orderId`, in the order of the table. -/
def findEntryByActualOrder (h : ExitHandler) (orderId : String) : Option ExitEntry :=
  (h.pendingByPlaceholder.toList.map Prod.snd).find? fun e =>
    e.actualOrders.any fun o => o.orderId == orderId

/-- The entry order that `orderId` exits, if it is a tracked exit leg. -/
def parentOrderIdFor (h : ExitHandler) (orderId : String) : Option String :=
  (h.findEntryByActualOrder orderId).map ExitEntry.primaryOrderId

def insertEntry (h : ExitHandler) (entry : ExitEntry) : ExitHandler :=
  { h with pendingByPlaceholder := h.pendingByPlaceholder.insert entry.placeholderId entry }

/-- Change the entry at `placeholderId`, if it is there (`get_mut`). -/
def modifyEntry (h : ExitHandler) (placeholderId : String) (f : ExitEntry → ExitEntry) :
    ExitHandler :=
  { h with pendingByPlaceholder := h.pendingByPlaceholder.modify placeholderId f }

def extendSecondaryIndex (h : ExitHandler) (primaryOrderId : String)
    (placeholderIds : List String) : ExitHandler :=
  { h with
    pendingByPrimary := h.pendingByPrimary.insert primaryOrderId
      (h.getPlaceholdersForPrimary primaryOrderId ++ placeholderIds) }

def addToSecondaryIndex (h : ExitHandler) (primaryOrderId placeholderId : String) : ExitHandler :=
  h.extendSecondaryIndex primaryOrderId [placeholderId]

/-- Drop a primary order from the index. -/
def dropPrimary (h : ExitHandler) (primaryOrderId : String) : ExitHandler :=
  { h with pendingByPrimary := h.pendingByPrimary.remove primaryOrderId }

def removeBatchFromSecondaryIndex (h : ExitHandler) (primaryOrderId : String)
    (toRemove : List String) : ExitHandler :=
  match h.pendingByPrimary.get primaryOrderId with
  | none => h
  | some ids =>
    let rest := ids.filter fun id => id ∉ toRemove
    { h with
      pendingByPrimary :=
        if rest.isEmpty then h.pendingByPrimary.remove primaryOrderId
        else h.pendingByPrimary.insert primaryOrderId rest }

/-- Remove an entry from both maps. -/
def removePendingEntry (h : ExitHandler) (placeholderId primaryOrderId : String) : ExitHandler :=
  { h with pendingByPlaceholder := h.pendingByPlaceholder.remove placeholderId }
    |>.removeBatchFromSecondaryIndex primaryOrderId [placeholderId]

/-- The number of orders that the entry lists now. -/
def placedCount (h : ExitHandler) (placeholderId : String) : ℕ :=
  match h.getEntry placeholderId with
  | some e => e.actualOrders.length
  | none => 0

end ExitHandler

/-! ## Reading the maps after an update -/

namespace ExitHandler

variable (h : ExitHandler)

variable (config : ExitHandlerConfig) (e : ExitEntry) (p k id k' : String)
  (f : ExitEntry → ExitEntry) (p' : String) (ids : List String)

@[simp] theorem getEntry_new : (ExitHandler.new config).getEntry k = none := rfl

@[simp] theorem getPlaceholdersForPrimary_new :
    (ExitHandler.new config).getPlaceholdersForPrimary p = [] := rfl

theorem getEntry_modifyEntry :
    (h.modifyEntry k f).getEntry k' = if k' = k then (h.getEntry k).map f else h.getEntry k' :=
  Table.get_modify ..

@[simp] theorem getEntry_modifyEntry_self :
    (h.modifyEntry k f).getEntry k = (h.getEntry k).map f := by
  simp [getEntry_modifyEntry]

theorem getEntry_modifyEntry_ne {k k' : String} (hk : k' ≠ k) :
    (h.modifyEntry k f).getEntry k' = h.getEntry k' := by
  simp [getEntry_modifyEntry, hk]

theorem modifyEntry_modifyEntry (g : ExitEntry → ExitEntry) :
    (h.modifyEntry k f).modifyEntry k g = h.modifyEntry k fun e => g (f e) := by
  simp [modifyEntry, Table.modify_modify]

theorem getEntry_insertEntry :
    (h.insertEntry e).getEntry k = if k = e.placeholderId then some e else h.getEntry k :=
  Table.get_insert ..

@[simp] theorem getPlaceholdersForPrimary_insertEntry :
    (h.insertEntry e).getPlaceholdersForPrimary p = h.getPlaceholdersForPrimary p := rfl

@[simp] theorem getEntry_extendSecondaryIndex :
    (h.extendSecondaryIndex p ids).getEntry k = h.getEntry k := rfl

theorem getPlaceholdersForPrimary_extendSecondaryIndex :
    (h.extendSecondaryIndex p ids).getPlaceholdersForPrimary p' =
      if p' = p then h.getPlaceholdersForPrimary p ++ ids else h.getPlaceholdersForPrimary p' := by
  simp only [extendSecondaryIndex, getPlaceholdersForPrimary, Table.get_insert]
  split <;> rfl

@[simp] theorem getEntry_addToSecondaryIndex (k : String) :
    (h.addToSecondaryIndex p id).getEntry k = h.getEntry k := rfl

theorem getPlaceholdersForPrimary_addToSecondaryIndex (id : String) :
    (h.addToSecondaryIndex p id).getPlaceholdersForPrimary p' =
      if p' = p then h.getPlaceholdersForPrimary p ++ [id] else h.getPlaceholdersForPrimary p' :=
  h.getPlaceholdersForPrimary_extendSecondaryIndex p p' [id]

@[simp] theorem getEntry_dropPrimary : (h.dropPrimary p).getEntry k = h.getEntry k := rfl

theorem getPlaceholdersForPrimary_dropPrimary :
    (h.dropPrimary p).getPlaceholdersForPrimary p' =
      if p' = p then [] else h.getPlaceholdersForPrimary p' := by
  simp only [dropPrimary, getPlaceholdersForPrimary, Table.get_remove]
  split <;> rfl

theorem getPlaceholdersForPrimary_removeBatch :
    (h.removeBatchFromSecondaryIndex p ids).getPlaceholdersForPrimary p' =
      if p' = p then (h.getPlaceholdersForPrimary p).filter fun id => id ∉ ids
      else h.getPlaceholdersForPrimary p' := by
  unfold removeBatchFromSecondaryIndex getPlaceholdersForPrimary
  cases hp : h.pendingByPrimary.get p with
  | none =>
    by_cases hpp : p' = p
    · simp [hpp, hp]
    · simp [hpp]
  | some all =>
    simp only [Option.getD_some]
    generalize all.filter (fun id => decide (id ∉ ids)) = rest
    by_cases hpp : p' = p
    · subst hpp
      cases rest <;> simp
    · cases rest <;> simp [hpp, Table.get_remove, Table.get_insert]

@[simp] theorem getEntry_removeBatch :
    (h.removeBatchFromSecondaryIndex p ids).getEntry k = h.getEntry k := by
  unfold removeBatchFromSecondaryIndex
  split <;> rfl

theorem getEntry_removePendingEntry (p k : String) :
    (h.removePendingEntry id p).getEntry k = if k = id then none else h.getEntry k := by
  rw [removePendingEntry, getEntry_removeBatch]
  exact Table.get_remove ..

theorem getPlaceholdersForPrimary_removePendingEntry (p p' : String) :
    (h.removePendingEntry id p).getPlaceholdersForPrimary p' =
      if p' = p then (h.getPlaceholdersForPrimary p).filter (· ≠ id)
      else h.getPlaceholdersForPrimary p' := by
  rw [removePendingEntry, getPlaceholdersForPrimary_removeBatch]
  simp [getPlaceholdersForPrimary]

/-- What the scan for an order finds is a tracked entry that lists it. -/
theorem findEntryByActualOrder_some {id : String} {e : ExitEntry}
    (he : h.findEntryByActualOrder id = some e) :
    (∃ k, h.getEntry k = some e) ∧ ∃ o ∈ e.actualOrders, o.orderId = id := by
  unfold findEntryByActualOrder at he
  obtain ⟨hlist, hmem⟩ := And.intro (List.find?_some he) (List.mem_of_find?_eq_some he)
  obtain ⟨⟨k, e'⟩, hke, rfl⟩ := List.mem_map.mp hmem
  exact ⟨⟨k, Table.mem_toList.mp hke⟩, by simpa using hlist⟩

theorem findEntryByActualOrder_none {id : String} :
    h.findEntryByActualOrder id = none ↔
      ∀ k e, h.getEntry k = some e → ∀ o ∈ e.actualOrders, o.orderId ≠ id := by
  unfold findEntryByActualOrder
  rw [List.find?_eq_none]
  constructor
  · intro hn k e hk o ho hid
    have := hn e (List.mem_map.mpr ⟨(k, e), Table.mem_toList.mpr hk, rfl⟩)
    simp only [List.any_eq_true, beq_iff_eq, not_exists, not_and] at this
    exact this o ho hid
  · intro hn e he hany
    obtain ⟨⟨k, e'⟩, hke, rfl⟩ := List.mem_map.mp he
    simp only [List.any_eq_true, beq_iff_eq] at hany
    obtain ⟨o, ho, hid⟩ := hany
    exact hn k e' (Table.mem_toList.mp hke) o ho hid

end ExitHandler

/-! ## Steps on the handler -/

/-- Read the handler. -/
def readHandler {τ : Type} (f : ExitHandler → τ) : ExitM β τ := Routine.read fun w => f w.handler

/-- Change the handler. -/
def modifyHandler (f : ExitHandler → ExitHandler) : ExitM β Unit :=
  Routine.modify fun w => { w with handler := f w.handler }

@[simp] theorem run_readHandler {τ : Type} (f : ExitHandler → τ) (w : World β) :
    (readHandler f).run w = (f w.handler, w) := rfl

@[simp] theorem run_modifyHandler (f : ExitHandler → ExitHandler) (w : World β) :
    (modifyHandler f).run w = ((), { w with handler := f w.handler }) := rfl

/-! ## Calls of the adapter -/

/-- The history entry of an accepted exit order. -/
def AcceptedOrder.ofRequest (orderId placeholderId : String) (r : OrderRequest) :
    AcceptedOrder where
  orderId
  placeholderId
  clientOrderId := r.clientOrderId
  orderType := r.orderType
  quantity := r.quantity
  limitPrice := r.limitPrice
  stopPrice := r.stopPrice

/-- The history entry of an order that the provider changed in place. -/
def AcceptedOrder.changed (a : AcceptedOrder) (o : Order) : AcceptedOrder :=
  { a with quantity := o.quantity, limitPrice := o.limitPrice, stopPrice := o.stopPrice }

/-- The history entry of an order that the provider put in the place of another one. -/
def AcceptedOrder.ofOrder (placeholderId : String) (o : Order) : AcceptedOrder where
  orderId := o.id
  placeholderId
  clientOrderId := o.clientOrderId
  orderType := o.orderType
  quantity := o.quantity
  limitPrice := o.limitPrice
  stopPrice := o.stopPrice

/-- History: the provider accepted the request `r` for the entry `placeholderId`. -/
def World.accept (w : World β) (placeholderId orderId : String) (r : OrderRequest) : World β :=
  { w with accepted := w.accepted ++ [.ofRequest orderId placeholderId r] }

/-- `submit_order`, for the exit entry `placeholderId`. -/
def submitOrder (c : Ctx β) (placeholderId : String) (r : OrderRequest) :
    ExitM β (Except GatewayError OrderHandle) :=
  Routine.call fun w =>
    match c.adapter.submitOrder r w.broker with
    | (.ok handle, b) => (.ok handle, { w with broker := b }.accept placeholderId handle.id r)
    | (.error e, b) => (.error e, { w with broker := b })

def getOrder (c : Ctx β) (orderId : String) : ExitM β (Except GatewayError Order) :=
  Routine.call fun w =>
    let (r, b) := c.adapter.getOrder orderId w.broker
    (r, { w with broker := b })

def cancelOrder (c : Ctx β) (orderId : String) : ExitM β (Except GatewayError CancelOrderResult) :=
  Routine.call fun w =>
    match c.adapter.cancelOrder orderId w.broker with
    | (.ok r, b) => (.ok r, { w with broker := b, cancelled := w.cancelled ++ [orderId] })
    | (.error e, b) => (.error e, { w with broker := b })

/-- `modify_order`, for the exit entry `placeholderId`. The provider changes the order in place, or
replaces it by one with a new id. -/
def modifyOrder (c : Ctx β) (placeholderId orderId : String) (r : ModifyOrderRequest) :
    ExitM β (Except GatewayError ModifyOrderResult) :=
  Routine.call fun w =>
    match c.adapter.modifyOrder orderId r w.broker with
    | (.ok result, b) =>
      if result.order.id = orderId then
        (.ok result,
          { w with
            broker := b
            accepted := w.accepted.map fun a =>
              if a.orderId = orderId then a.changed result.order else a })
      else
        (.ok result,
          { w with
            broker := b
            accepted := w.accepted ++ [.ofOrder placeholderId result.order]
            cancelled := w.cancelled ++ [orderId] })
    | (.error e, b) => (.error e, { w with broker := b })

def sleep (c : Ctx β) (delay : Duration) : ExitM β Unit :=
  Routine.call fun w => ((), { w with broker := c.adapter.sleep delay w.broker })

/-! ## Registration -/

def validatePrice (price : Decimal) (fieldName : String) : Except GatewayError Unit :=
  if price ≤ 0 then
    .error (.invalidRequest (fieldName ++ " must be a positive number, got " ++ price.display) none)
  else .ok ()

/-- Check the prices of the legs that the order has. -/
def validateExitPrices (order : OrderRequest) : Except GatewayError Unit := do
  match order.stopLoss with
  | some slPrice => validatePrice slPrice "stop_loss"
  | none => pure ()
  match order.takeProfit with
  | some tpPrice => validatePrice tpPrice "take_profit"
  | none => pure ()

/-- The entry that `register` makes for one leg. -/
def legEntry (c : Ctx β) (primaryOrderId : String) (order : OrderRequest) (leg : ExitLegType)
    (price : Decimal) (now : Instant) : ExitEntry :=
  .new
    { primaryOrderId
      parentClientOrderId := order.clientOrderId
      orderType := leg
      symbol := order.symbol
      side := oppositeSide order.side
      triggerPrice := price
      limitPrice := none
      quantity := order.quantity
      platform := c.platform } now

/-- Register one leg, if the order has it: insert its entry, then index it. -/
def registerLeg (c : Ctx β) (primaryOrderId : String) (order : OrderRequest) (leg : ExitLegType) :
    Option Decimal → ExitM β (Option String)
  | none => pure none
  | some price => do
    Routine.modify fun w =>
      { w with
        handler := w.handler.insertEntry
          (legEntry c primaryOrderId order leg price (c.adapter.now w.broker)) }
    modifyHandler fun h => h.addToSecondaryIndex primaryOrderId
      (generatePlaceholderId leg primaryOrderId)
    pure (some (generatePlaceholderId leg primaryOrderId))

/-- Link the two legs, if both are registered. -/
def linkSiblings : Option String → Option String → ExitM β Unit
  | some slId, some tpId => do
    let (firstId, secondId) := if Text.lt slId tpId then (slId, tpId) else (tpId, slId)
    modifyHandler fun h => h.modifyEntry firstId (.setSibling secondId)
    modifyHandler fun h => h.modifyEntry secondId (.setSibling firstId)
  | _, _ => pure ()

/-- Register the stop-loss and take-profit legs of a primary order. -/
def register (c : Ctx β) (primaryOrderId : String) (order : OrderRequest) :
    ExitM β (Except GatewayError RegisteredExitLegs) := do
  let count ← readHandler fun h => h.pendingByPlaceholder.len
  if count ≥ c.config.maxPendingEntries then
    pure (.error (.internal ("Resource exhausted: pending_exit_entries (limit: " ++
      toString c.config.maxPendingEntries ++ ")")))
  else if order.stopLoss.isNone && order.takeProfit.isNone then
    pure (.ok {})
  else
    match validateExitPrices order with
    | .error e => pure (.error e)
    | .ok () => do
      let slId ← registerLeg c primaryOrderId order .stopLoss order.stopLoss
      let tpId ← registerLeg c primaryOrderId order .takeProfit order.takeProfit
      linkSiblings slId tpId
      pure (.ok { stopLossId := slId, takeProfitId := tpId })

/-! ## Backups -/

structure ExitBackupRegistration where
  id : String
  placeholderIds : List String
  deriving DecidableEq, Repr

/-- Register the legs of an order before the provider is asked for a native bracket. `uuid` is the
new identifier that the call draws. -/
def registerPreemptive (c : Ctx β) (uuid : String) (orderRequest : OrderRequest) :
    ExitM β (Except GatewayError ExitBackupRegistration) := do
  let backupId := "backup:" ++ uuid
  match ← register c backupId orderRequest with
  | .error e => pure (.error e)
  | .ok registered =>
    pure (.ok ⟨backupId, registered.stopLossId.toList ++ registered.takeProfitId.toList⟩)

/-- Link the entries of a backup to the actual primary order. -/
def ExitHandler.activateBackup (h : ExitHandler) (backupId actualPrimaryId : String) :
    Except GatewayError Unit × ExitHandler :=
  let placeholderIds := h.getPlaceholdersForPrimary backupId
  if placeholderIds.isEmpty then (.error (.orderNotFound backupId), h)
  else
    let h' := placeholderIds.foldl
      (fun h id => h.modifyEntry id (.setPrimary actualPrimaryId)) h
    (.ok (), (h'.dropPrimary backupId).extendSecondaryIndex actualPrimaryId placeholderIds)

/-- Drop the entries of a backup after the provider placed the bracket itself. -/
def ExitHandler.cancelBackup (h : ExitHandler) (backupId : String) :
    Except GatewayError Unit × ExitHandler :=
  let placeholderIds := h.getPlaceholdersForPrimary backupId
  if placeholderIds.isEmpty then (.error (.orderNotFound backupId), h)
  else
    let h' := placeholderIds.foldl
      (fun h id => { h with pendingByPlaceholder := h.pendingByPlaceholder.remove id }) h
    (.ok (), h'.dropPrimary backupId)

end Gateway.Exit
