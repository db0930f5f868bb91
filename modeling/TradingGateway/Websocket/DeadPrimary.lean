import TradingGateway.Events.Steps
import TradingGateway.Websocket.Registry

/-!
# A primary order that dies unfilled

An order that is cancelled, rejected or expires takes no exits with it: on its way from the
provider's stream through the router, no such event reaches the exit handler. The exits of the order
stay armed, and a later fill of it places them.

* `dead_primary_stays_armed`: no event of this kind disarms the order.
-/

namespace Gateway

/-- The events that end an order unfilled. -/
def OrderEventType.isDeath : OrderEventType → Bool
  | .orderCancelled | .orderRejected | .orderExpired => true
  | _ => false

namespace Events

variable {β γ : Type} (c : Ctx β γ) (order : Order) (w : World β γ)

theorem handler_cancelOrder (ec : Exit.Ctx β) (id : String) (w : Exit.World β) :
    ((Exit.cancelOrder ec id).run w).2.handler = w.handler := by
  unfold Exit.cancelOrder
  rw [Routine.run_call]
  split <;> rfl

theorem handler_cancelSiblings (ids : List String) :
    (ids.foldl (cancelSibling c) w).exit.handler = w.exit.handler := by
  induction ids generalizing w with
  | nil => rfl
  | cons id ids ih =>
    have hfirst : (cancelSibling c w id).exit.handler = w.exit.handler :=
      handler_cancelOrder c.exit id w.exit
    rw [List.foldl_cons, ih, hfirst]

/-- Cancelling siblings is a matter between the router and the provider. -/
theorem handler_cancelOcoSiblings :
    (cancelOcoSiblings c order w).exit.handler = w.exit.handler := by
  unfold cancelOcoSiblings
  split
  · rfl
  · split
    · rfl
    · exact handler_cancelSiblings ..

theorem handler_handleOrderEvent {event : OrderEventType} (hevent : isFillEvent event = false)
    (parentOrderId : Option String) :
    (handleOrderEvent c event order parentOrderId w).exit.handler = w.exit.handler := by
  unfold handleOrderEvent
  rw [exit_broadcast]
  split
  · rw [handler_cancelOcoSiblings]
    simp [routeFill, hevent]
  · simp [routeFill, hevent]

/-- No exit of the primary order waits for a fill, and its trailing stops have ended. -/
def Disarmed (primaryOrderId : String) (w : World β γ) : Prop :=
  (∀ ph e, w.exit.handler.getEntry ph = some e → e.primaryOrderId = primaryOrderId →
    e.status ≠ .pending) ∧
  ∀ ph e, w.trailing.handler.getEntry ph = some e → e.primaryOrderId = primaryOrderId →
    e.status.isTerminal = true

end Events

namespace Registry

variable {β γ : Type} (c : Ctx β γ)

/-- The exit handler never hears of the death of an order. -/
theorem handler_handleStreamEvent {event : OrderEventType} (hevent : event.isDeath = true)
    (order : Order) (parentOrderId engineEventId : Option String) (fresh : Option WsMessage)
    (w : World β γ) :
    (handleStreamEvent c (.order event order parentOrderId) engineEventId fresh
      w).router.exit.handler = w.router.exit.handler := by
  have hfill : Events.isFillEvent event = false := by cases event <;> first | rfl | cases hevent
  exact Events.handler_handleOrderEvent c.router order _ hfill parentOrderId

/-- No event of this kind disarms an order that has an exit waiting. -/
theorem dead_primary_stays_armed {event : OrderEventType} (hevent : event.isDeath = true)
    {order : Order} (parentOrderId engineEventId : Option String) (fresh : Option WsMessage)
    {w : World β γ} {ph : String} {e : Exit.ExitEntry}
    (he : w.router.exit.handler.getEntry ph = some e) (hprimary : e.primaryOrderId = order.id)
    (hpending : e.status = .pending) :
    ¬ Events.Disarmed order.id (handleStreamEvent c (.order event order parentOrderId) engineEventId
      fresh w).router := by
  rintro ⟨hexits, -⟩
  refine hexits ph e ?_ hprimary hpending
  rw [handler_handleStreamEvent c hevent]
  exact he

/-- The bracket order `p` is registered with both exits. -/
def bracketWorld : World (List (String × OrderRequest)) ℕ :=
  { World.simulated with
    router := { Events.World.simulated with
      exit := ((Exit.register .simulated "p" sampleBracket).run Events.World.simulated.exit).2 } }

/-- The bracket order is cancelled. -/
def bracketCancelled : World (List (String × OrderRequest)) ℕ :=
  handleStreamEvent .simulated (.order .orderCancelled (sampleBracket.toOrder "p") none) none none
    bracketWorld

theorem bracketWorld_waits :
    ∃ e, bracketWorld.router.exit.handler.getEntry "exit:sl:p" = some e ∧
      e.primaryOrderId = "p" ∧ e.status = .pending := by
  have hwaits : (bracketWorld.router.exit.handler.getEntry "exit:sl:p").any fun e =>
      e.primaryOrderId = "p" ∧ e.status = .pending := by decide +kernel
  obtain ⟨e, he, hdata⟩ := (Option.any_eq_true _ _).mp hwaits
  exact ⟨e, he, of_decide_eq_true hdata⟩

theorem bracket_stays_armed :
    ∃ e, bracketWorld.router.exit.handler.getEntry "exit:sl:p" = some e ∧ e.status = .pending ∧
      ¬ Events.Disarmed "p" bracketCancelled.router := by
  obtain ⟨e, he, hprimary, hpending⟩ := bracketWorld_waits
  exact ⟨e, he, hpending,
    dead_primary_stays_armed .simulated rfl none none none he hprimary hpending⟩

/-- Both exits of the cancelled order wait on, and a fill of it places them. -/
theorem bracketCancelled_places_exits :
    (∀ e ∈ bracketWorld.router.exit.handler.pendingByPlaceholder.toList, e.2.status = .pending) ∧
      ¬ Events.Disarmed "p" bracketCancelled.router ∧
      bracketCancelled.router.exit.accepted = [] ∧
      (handleStreamEvent .simulated (.order .orderFilled
        { sampleBracket.toOrder "p" with filledQuantity := 10 } none) none none
        bracketCancelled).router.exit.accepted.map Exit.AcceptedOrder.placeholderId =
          ["exit:sl:p", "exit:tp:p"] := by
  refine ⟨by decide +kernel, ?_, by decide +kernel, by decide +kernel⟩
  rintro ⟨hexits, -⟩
  obtain ⟨e, he, hprimary, hpending⟩ := bracketWorld_waits
  have he' : bracketCancelled.router.exit.handler.getEntry "exit:sl:p" = some e := by
    rw [bracketCancelled, handler_handleStreamEvent _ rfl]
    exact he
  exact hexits _ e he' hprimary hpending

end Registry

end Gateway
