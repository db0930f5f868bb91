import TradingGateway.Exit.Fill

/-!
# Moving a leg (`crates/core/src/exit_management/replace.rs`)

A resting leg moves to a new trigger price order by order: by the provider's own modification or,
where that is unsupported, by cancelling and placing again. A rejected replacement is followed by
restoring the original order.
-/

namespace Gateway.Exit

variable {β : Type}

/-- Why a leg could not be moved, and whether the position still has cover. -/
inductive ReplaceExitLegError where
  | stillProtected (error : GatewayError)
  | unprotected (cancelledOrderId : String) (source restoreError : GatewayError)
  deriving DecidableEq, Repr

structure ExitLegPlacement where
  orderIds : List String
  triggerPrice : Decimal
  deriving DecidableEq, Repr

/-- A stop-loss carries its trigger as stop price, a take-profit as limit price. -/
def modifyRequest (leg : ExitLegType) (triggerPrice : Decimal) : ModifyOrderRequest :=
  match leg with
  | .stopLoss => { stopPrice := some triggerPrice }
  | .takeProfit => { limitPrice := some triggerPrice }

/-- `replacement` in the place of the first order with id `previousId`, or at the end. -/
def replaceSlot (previousId : String) (replacement : ActualOrder) :
    List ActualOrder → List ActualOrder
  | [] => [replacement]
  | order :: rest =>
    if order.orderId = previousId then replacement :: rest
    else order :: replaceSlot previousId replacement rest

/-- Point the entry at the order that now holds the leg, at its new trigger. -/
def recordMovedLeg (previous : ActualOrder) (newOrderId : String) (triggerPrice : Decimal)
    (entry : ExitEntry) : ExitEntry :=
  let replacement : ActualOrder := ⟨newOrderId, previous.remainingQty, .open, previous.legType⟩
  let orders := replaceSlot previous.orderId replacement entry.actualOrders
  { entry with
    triggerPrice
    status := match entry.status with
      | .partiallyTriggered filledQty totalQty _ => .partiallyTriggered filledQty totalQty orders
      | .failed error retryCount _ => .failed error retryCount orders
      | _ => .placed orders }

/-- The request that places what remains of `resting` again, at the trigger of `entry`. -/
def buildReplacement (entry : ExitEntry) (resting : ActualOrder) (placedCount : ℕ) : OrderRequest :=
  buildExitOrderRequest entry resting.remainingQty placedCount entry.positionId

/-- Submit an order in the place of `resting`, and record it if it is accepted. -/
def resubmit (c : Ctx β) (placeholderId : String) (entry : ExitEntry) (resting : ActualOrder) :
    ExitM β (Except GatewayError OrderHandle) := do
  let placedCount ← readHandler fun h => h.placedCount placeholderId
  match ← submitOrder c placeholderId (buildReplacement entry resting placedCount) with
  | .ok handle => do
    modifyHandler fun h => h.modifyEntry placeholderId
      (recordMovedLeg resting handle.id entry.triggerPrice)
    pure (.ok handle)
  | .error e => pure (.error e)

/-- Move a resting order on a provider that cannot modify it. -/
def cancelAndReplace (c : Ctx β) (placeholderId : String) (entry : ExitEntry)
    (resting : ActualOrder) (newTriggerPrice : Decimal) :
    ExitM β (Except ReplaceExitLegError String) := do
  match ← cancelOrder c resting.orderId with
  | .error e => pure (.error (.stillProtected e))
  | .ok _ =>
    match ← resubmit c placeholderId { entry with triggerPrice := newTriggerPrice } resting with
    | .ok handle => pure (.ok handle.id)
    | .error replaceError =>
      match ← resubmit c placeholderId entry resting with
      | .ok _ =>
        pure (.error (.stillProtected (.orderNotModifiable resting.orderId
          ("replacement rejected (" ++ replaceError.display ++
            "); the original exit was restored"))))
      | .error restoreError => do
        modifyHandler fun h => h.modifyEntry placeholderId
          (updateEntryToFailed restoreError.display 0)
        pure (.error (.unprotected resting.orderId replaceError restoreError))

/-- Move one resting order; the id of the order that now holds it. -/
def moveRestingOrder (c : Ctx β) (placeholderId : String) (entry : ExitEntry)
    (resting : ActualOrder) (newTriggerPrice : Decimal) :
    ExitM β (Except ReplaceExitLegError String) := do
  match ← modifyOrder c placeholderId resting.orderId
      (modifyRequest entry.orderType newTriggerPrice) with
  | .ok result => do
    modifyHandler fun h => h.modifyEntry placeholderId
      (recordMovedLeg resting result.order.id newTriggerPrice)
    pure (.ok result.order.id)
  | .error (.unsupportedOperation _ _) =>
    cancelAndReplace c placeholderId entry resting newTriggerPrice
  | .error e => pure (.error (.stillProtected e))

/-- Move the resting orders one by one, up to the first error. -/
def moveRestingOrders (c : Ctx β) (placeholderId : String) (entry : ExitEntry)
    (newTriggerPrice : Decimal) :
    List ActualOrder → ExitM β (Except ReplaceExitLegError (List String))
  | [] => pure (.ok [])
  | resting :: rest => do
    match ← moveRestingOrder c placeholderId entry resting newTriggerPrice with
    | .error e => pure (.error e)
    | .ok orderId =>
      match ← moveRestingOrders c placeholderId entry newTriggerPrice rest with
      | .error e => pure (.error e)
      | .ok orderIds => pure (.ok (orderId :: orderIds))

/-- Move a leg to a new trigger price, holding the fill-processing lock. -/
def replaceExitLeg (c : Ctx β) (placeholderId : String) (newTriggerPrice : Decimal) :
    ExitM β (Except ReplaceExitLegError ExitLegPlacement) :=
  Routine.locked do
    match ← readHandler fun h => h.getEntry placeholderId with
    | none => pure (.error (.stillProtected (.orderNotFound placeholderId)))
    | some entry =>
      let resting := entry.actualOrders.filter ActualOrder.isActive
      if resting.isEmpty then
        pure (.error (.stillProtected (.orderNotModifiable placeholderId
          (entry.orderType.display ++ " leg has no resting order to move"))))
      else do
        match ← moveRestingOrders c placeholderId entry newTriggerPrice resting with
        | .error e => pure (.error e)
        | .ok orderIds => pure (.ok ⟨orderIds, newTriggerPrice⟩)

end Gateway.Exit
