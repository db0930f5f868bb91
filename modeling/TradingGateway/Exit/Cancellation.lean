import TradingGateway.Exit.Handler

/-!
# Cancellation (`crates/core/src/exit_management/cancellation.rs`)

What happens to the legs when their primary order is cancelled, when the position closes, or when
the user cancels one of them. None of these functions takes the fill-processing lock.
-/

namespace Gateway.Exit

variable {β : Type}

/-- What the caller of `cancel_entry` has to do. -/
inductive CancelExitResultInternal where
  | cancelledPending (info : CancelledExitInfo)
  | needsCancelAtProvider (actualOrders : List ActualOrder) (info : CancelledExitInfo)
  | needsCancelPartiallyTriggered (actualOrders : List ActualOrder) (info : CancelledExitInfo)
  | needsCancelFailed (actualOrders : List ActualOrder) (info : CancelledExitInfo)
  | alreadyTerminal (status : ExitEntryStatus)
  deriving DecidableEq, Repr

/-- Cancel an entry by its placeholder id. An entry with orders at the provider stays as it is. -/
def cancelEntry (placeholderId : String) :
    ExitM β (Except GatewayError CancelExitResultInternal) := do
  match ← readHandler fun h => h.getEntry placeholderId with
  | none => pure (.error (.orderNotFound placeholderId))
  | some entry =>
    let info := entry.cancelledInfo placeholderId
    let markCancelled : ExitM β Unit := modifyHandler fun h =>
      h.modifyEntry placeholderId fun e => e.setStatus (.cancelled .userRequested)
    match entry.status with
    | .pending => do
      markCancelled
      pure (.ok (.cancelledPending info))
    | .partiallyTriggered _ _ orders =>
      if orders.isEmpty then do
        markCancelled
        pure (.ok (.cancelledPending info))
      else pure (.ok (.needsCancelPartiallyTriggered orders info))
    | .placed orders => pure (.ok (.needsCancelAtProvider orders info))
    | .failed _ _ orders =>
      if orders.isEmpty then pure (.ok (.alreadyTerminal entry.status))
      else pure (.ok (.needsCancelFailed orders info))
    | .cancelled _ | .expired => pure (.ok (.alreadyTerminal entry.status))

/-! ## Cancellation of the primary order -/

/-- Mark an entry cancelled, if it still waits for fills. -/
def cancelPendingEntry (placeholderId : String) : ExitM β (Option CancelledExitInfo) :=
  Routine.step fun w =>
    match w.handler.getEntry placeholderId with
    | some entry =>
      if entry.isPending then
        (some (entry.cancelledInfo placeholderId),
          { w with
            handler := w.handler.modifyEntry placeholderId fun e =>
              e.setStatus (.cancelled .primaryCancelled) })
      else (none, w)
    | none => (none, w)

def cancelPendingEntries : List String → ExitM β (List CancelledExitInfo)
  | [] => pure []
  | placeholderId :: rest => do
    let cancelled ← cancelPendingEntry placeholderId
    let more ← cancelPendingEntries rest
    pure (cancelled.toList ++ more)

/-- Take the placeholders of a primary order out of the index. -/
def takePlaceholders (primaryOrderId : String) : ExitM β (List String) :=
  Routine.step fun w =>
    (w.handler.getPlaceholdersForPrimary primaryOrderId,
      { w with handler := w.handler.dropPrimary primaryOrderId })

/-- Cancel the pending entries of a cancelled primary order. -/
def handleCancellationInternal (primaryOrderId : String) : ExitM β (List CancelledExitInfo) := do
  let placeholderIds ← takePlaceholders primaryOrderId
  cancelPendingEntries placeholderIds

/-! ## Closing a position -/

/-- The orders to cancel for an entry when its position closes, if it is to be cancelled. -/
def closeOrders : ExitEntryStatus → Option (List ActualOrder)
  | .pending => some []
  | .placed orders | .partiallyTriggered _ _ orders => some orders
  | .failed _ _ orders => if orders.isEmpty then none else some orders
  | .cancelled _ | .expired => none

/-- The entries of a symbol to cancel, with their orders at this moment. -/
def ExitHandler.entriesToCancel (h : ExitHandler) (symbol : String) :
    List (String × List ActualOrder) :=
  h.pendingByPlaceholder.toList.filterMap fun (placeholderId, e) =>
    if e.symbol ≠ symbol then none
    else (closeOrders e.status).map fun orders => (placeholderId, orders)

/-- Cancel each order at the provider; a failure is only logged. -/
def cancelOrders (c : Ctx β) : List ActualOrder → ExitM β Unit
  | [] => pure ()
  | actual :: rest => do
    let _ ← cancelOrder c actual.orderId
    cancelOrders c rest

/-- Mark an entry cancelled, in whatever status it is. -/
def closeEntry (placeholderId : String) : ExitM β (Option CancelledExitInfo) :=
  Routine.step fun w =>
    match w.handler.getEntry placeholderId with
    | some entry =>
      (some (entry.cancelledInfo placeholderId),
        { w with
          handler := w.handler.modifyEntry placeholderId fun e =>
            e.setStatus (.cancelled .positionClosed) })
    | none => (none, w)

def closeEntries (c : Ctx β) : List (String × List ActualOrder) → ExitM β (List CancelledExitInfo)
  | [] => pure []
  | (placeholderId, orders) :: rest => do
    cancelOrders c orders
    let cancelled ← closeEntry placeholderId
    let more ← closeEntries c rest
    pure (cancelled.toList ++ more)

/-- Cancel the exits of a symbol before its position closes. -/
def cancelForPositionCloseInternal (c : Ctx β) (symbol : String) :
    ExitM β (List CancelledExitInfo) := do
  let entriesToCancel ← readHandler fun h => h.entriesToCancel symbol
  closeEntries c entriesToCancel

/-! ## Failed entries -/

/-- A failed entry, as it is announced again after a reconnect. -/
structure FailedExitInfo where
  primaryOrderId : String
  symbol : String
  orderType : ExitLegType
  error : String
  actualOrderIds : List String
  deriving DecidableEq, Repr

def ExitHandler.getFailedEntries (h : ExitHandler) : List FailedExitInfo :=
  h.pendingByPlaceholder.toList.filterMap fun (_, e) =>
    match e.status with
    | .failed error _ orders =>
      some ⟨e.primaryOrderId, e.symbol, e.orderType, error, orders.map ActualOrder.orderId⟩
    | _ => none

/-- The values of each key, with the keys as they first occur. -/
def groupByKey {α : Type} (xs : List (String × α)) : List (String × List α) :=
  ((xs.map Prod.fst).reverse.dedup.reverse).map fun key =>
    (key, (xs.filter fun x => x.1 = key).map Prod.snd)

/-- Remove the failed entries from both maps. -/
def ExitHandler.clearFailedEntries (h : ExitHandler) : ExitHandler :=
  let failed := h.pendingByPlaceholder.toList.filter fun (_, e) =>
    match e.status with
    | .failed .. => true
    | _ => false
  let h := { h with
    pendingByPlaceholder := failed.foldl (fun t (key, _) => t.remove key) h.pendingByPlaceholder }
  (groupByKey (failed.map fun (key, e) => (e.primaryOrderId, key))).foldl
    (fun h (primaryOrderId, ids) => h.removeBatchFromSecondaryIndex primaryOrderId ids) h

/-! ## Expired entries -/

/-- Take entries out of the table. What is taken, with the primary order it was for. -/
def takeEntries : List String → Table String ExitEntry →
    List (String × String) × Table String ExitEntry
  | [], entries => ([], entries)
  | placeholderId :: rest, entries =>
    match entries.get placeholderId with
    | none => takeEntries rest entries
    | some e =>
      let (taken, entries) := takeEntries rest (entries.remove placeholderId)
      ((e.primaryOrderId, placeholderId) :: taken, entries)

/-- Remove the entries that are older than the TTL from both maps. The result is their number. -/
def ExitHandler.cleanupExpiredEntries (h : ExitHandler) (config : ExitHandlerConfig)
    (now : Instant) : ℕ × ExitHandler :=
  let expired := (h.pendingByPlaceholder.toList.filter fun (_, e) =>
    now - e.createdAt > config.entryTtl).map fun (_, e) => e.placeholderId
  let (taken, entries) := takeEntries expired h.pendingByPlaceholder
  (expired.length, (groupByKey taken).foldl
    (fun h (primaryOrderId, ids) => h.removeBatchFromSecondaryIndex primaryOrderId ids)
    { h with pendingByPlaceholder := entries })

end Gateway.Exit
