import TradingGateway.Events.Router

/-!
# What the steps of an order event touch

Small facts about the parts of `handleOrderEvent`: each part of the world that a part of the
handler leaves alone, and the handler as the sequence of its parts.
-/

namespace Gateway.Events

variable {β γ : Type} (c : Ctx β γ) (w : World β γ)

/-! ## Broadcasts -/

section broadcast

variable (m : WsMessage)

@[simp] theorem exit_broadcast : (w.broadcast c m).exit = w.exit := by
  unfold World.broadcast
  split <;> rfl

@[simp] theorem state_broadcast : (w.broadcast c m).state = w.state := by
  unfold World.broadcast
  split <;> rfl

@[simp] theorem calls_broadcast : (w.broadcast c m).calls = w.calls := by
  unfold World.broadcast
  split <;> rfl

@[simp] theorem exit_broadcastCritical : (w.broadcastCritical m).exit = w.exit := rfl

@[simp] theorem state_broadcastCritical : (w.broadcastCritical m).state = w.state := rfl

@[simp] theorem calls_broadcastCritical : (w.broadcastCritical m).calls = w.calls := rfl

@[simp] theorem exit_record (call : Call) : (w.record call).exit = w.exit := rfl

@[simp] theorem state_record (call : Call) : (w.record call).state = w.state := rfl

@[simp] theorem calls_record (call : Call) : (w.record call).calls = w.calls ++ [call] := rfl

end broadcast

/-! ## Fills -/

section fill

variable (order : Order) (results : List Exit.PlacementResult)

@[simp] theorem exit_broadcastUnprotected :
    (broadcastUnprotectedPositionIfNeeded order results w).exit = w.exit := by
  unfold broadcastUnprotectedPositionIfNeeded
  split <;> rfl

@[simp] theorem state_broadcastUnprotected :
    (broadcastUnprotectedPositionIfNeeded order results w).state = w.state := by
  unfold broadcastUnprotectedPositionIfNeeded
  split <;> rfl

@[simp] theorem calls_broadcastUnprotected :
    (broadcastUnprotectedPositionIfNeeded order results w).calls = w.calls := by
  unfold broadcastUnprotectedPositionIfNeeded
  split <;> rfl

/-- The fill as the exit handler takes it. -/
def exitFill : Exit.ExitM β (List Exit.PlacementResult) :=
  Exit.handleFill c.exit order.id order.filledQuantity order.quantity none order.positionId

theorem exit_routeFillToExitHandler :
    (routeFillToExitHandler c order w).exit = ((exitFill c order).run w.exit).2 := by
  simp [routeFillToExitHandler, exitFill]

@[simp] theorem state_routeFillToExitHandler :
    (routeFillToExitHandler c order w).state = w.state := by
  simp [routeFillToExitHandler]

@[simp] theorem calls_routeFillToExitHandler :
    (routeFillToExitHandler c order w).calls = w.calls ++
      [.handleFill order.id order.filledQuantity order.quantity none order.positionId] := by
  simp [routeFillToExitHandler]

@[simp] theorem state_routeFill (event : OrderEventType) :
    (routeFill c event order w).state = w.state := by
  unfold routeFill
  split <;> simp

end fill

/-! ## Trailing stops -/

section trailing

variable (event : OrderEventType) (order : Order)

@[simp] theorem exit_routeTrailingStopEvent :
    (routeTrailingStopEvent c event order w).exit = w.exit := by
  unfold routeTrailingStopEvent
  (repeat' split) <;> rfl

@[simp] theorem state_routeTrailingStopEvent :
    (routeTrailingStopEvent c event order w).state = w.state := by
  unfold routeTrailingStopEvent
  (repeat' split) <;> rfl

/-- The calls on the trailing-stop handler. -/
def trailingCalls : List Call :=
  if c.trailing.isNone then []
  else
    match event with
    | .orderFilled => [.onPrimaryFilled order.id (order.averageFillPrice.getD 0)]
    | .orderCancelled => [.onPrimaryCancelled order.id]
    | .orderRejected => [.onPrimaryRejected order.id]
    | _ => []

theorem calls_routeTrailingStopEvent :
    (routeTrailingStopEvent c event order w).calls =
      w.calls ++ trailingCalls c event order := by
  unfold routeTrailingStopEvent trailingCalls
  cases c.trailing with
  | none => simp
  | some tc => cases event <;> simp

end trailing

/-! ## OCO siblings -/

section oco

variable (order : Order)

theorem state_cancelSiblings (ids : List String) :
    (ids.foldl (cancelSibling c) w).state = w.state := by
  induction ids generalizing w with
  | nil => rfl
  | cons id ids ih =>
    rw [List.foldl_cons, ih]
    rfl

theorem calls_cancelSiblings (ids : List String) :
    (ids.foldl (cancelSibling c) w).calls = w.calls ++ ids.map .cancelOrder := by
  induction ids generalizing w with
  | nil => simp
  | cons id ids ih =>
    rw [List.foldl_cons, ih]
    simp [cancelSibling]

/-- The siblings that a fill or rejection cancels: none without a group, or if the group has a fill
already. -/
def siblingsToCancel (s : StateManager) : List String :=
  match ocoGroupOf order s with
  | none => []
  | some groupId =>
    if (s.ocoFills.get groupId).isSome then [] else s.getOcoSiblings groupId order.id

theorem calls_cancelOcoSiblings :
    (cancelOcoSiblings c order w).calls =
      w.calls ++ (siblingsToCancel order w.state).map .cancelOrder := by
  unfold cancelOcoSiblings siblingsToCancel StateManager.recordOcoFill
  cases ocoGroupOf order w.state with
  | none => simp
  | some groupId =>
    dsimp only
    cases w.state.ocoFills.get groupId with
    | some previous => simp
    | none => exact calls_cancelSiblings ..

theorem positionMaps_cancelOcoSiblings :
    (cancelOcoSiblings c order w).state.positionMaps = w.state.positionMaps := by
  unfold cancelOcoSiblings
  split
  · rfl
  · rename_i groupId _
    have hkeep := w.state.positionMaps_recordOcoFill groupId order.id order.filledQuantity
      order.symbol order.side
    split
    · rename_i state heq
      rw [heq] at hkeep
      exact hkeep
    · rename_i state heq
      rw [heq] at hkeep
      rw [state_cancelSiblings]
      exact hkeep

end oco

/-! ## Order events -/

section event

variable (event : OrderEventType) (order : Order) (parentOrderId : Option String)

theorem positionMaps_updateState (s : StateManager) :
    (updateStateForOrderEvent event order s).positionMaps = s.positionMaps := by
  cases event <;> simp [updateStateForOrderEvent]

/-- An order event changes no position. -/
theorem positionMaps_handleOrderEvent :
    (handleOrderEvent c event order parentOrderId w).state.positionMaps =
      w.state.positionMaps := by
  unfold handleOrderEvent
  rw [state_broadcast]
  split
  · rw [positionMaps_cancelOcoSiblings]
    simp [positionMaps_updateState]
  · simp [positionMaps_updateState]

end event

end Gateway.Events
