import TradingGateway.Events.OcoGroups

/-!
# The double-exit alarm

The first fill or rejection of an OCO group leaves a record for the group, and every later fill or
rejection finds it and raises the alarm. The record does not say whether its order was filled or
rejected, and the order of the event is not compared with it.

* `alarm_exact_iff`: the histories of a group in which the alarm is exact.
-/

namespace Gateway

namespace StateManager

variable (s : StateManager)

theorem ocoFills_upsertOrder (order : Order) : (s.upsertOrder order).ocoFills = s.ocoFills := by
  unfold upsertOrder
  dsimp only
  split <;> split <;> (try split) <;> first | rfl | exact ocoFills_leaveGroup ..

end StateManager

namespace Events

variable {β γ : Type} {c : Ctx β γ}

/-! ## What an event announces -/

/-- The alarms among the announced messages. -/
def isDoubleExit : WsMessage → Bool
  | .error .ocoDoubleExit _ _ => true
  | _ => false

/-- The number of alarms that were given out. -/
def World.alarms (w : World β γ) : ℕ := w.announced.countP isDoubleExit

section alarms

variable (c) (w : World β γ) (order : Order)

@[simp] theorem alarms_broadcast_order (event : OrderEventType) (parent : Option String) :
    (w.broadcast c (.order event order parent)).alarms = w.alarms := by
  unfold World.broadcast
  split
  · rfl
  · simp [World.alarms, isDoubleExit]

@[simp] theorem alarms_broadcastUnprotected (results : List Exit.PlacementResult) :
    (broadcastUnprotectedPositionIfNeeded order results w).alarms = w.alarms := by
  unfold broadcastUnprotectedPositionIfNeeded
  split
  · rfl
  · simp [World.alarms, World.broadcastCritical, unprotectedMessage, isDoubleExit]

@[simp] theorem alarms_routeFill (event : OrderEventType) :
    (routeFill c event order w).alarms = w.alarms := by
  unfold routeFill
  split
  · rw [routeFillToExitHandler, alarms_broadcastUnprotected]
    rfl
  · rfl

@[simp] theorem alarms_routeTrailingStopEvent (event : OrderEventType) :
    (routeTrailingStopEvent c event order w).alarms = w.alarms := by
  unfold routeTrailingStopEvent
  (repeat' split) <;> rfl

theorem alarms_cancelSiblings (ids : List String) :
    (ids.foldl (cancelSibling c) w).alarms = w.alarms := by
  induction ids generalizing w with
  | nil => rfl
  | cons id ids ih =>
    rw [List.foldl_cons, ih]
    rfl

end alarms

theorem ocoFills_updateState (event : OrderEventType) (order : Order) (s : StateManager) :
    (updateStateForOrderEvent event order s).ocoFills = s.ocoFills := by
  cases event with
  | orderCreated | orderModified | bracketOrderCreated | bracketOrderModified =>
    exact s.ocoFills_upsertOrder order
  | orderPartiallyFilled => rfl
  | orderFilled | orderCancelled | orderRejected | orderExpired =>
    exact s.ocoFills_removeOrder order.id

/-- A fill or rejection of a group: the alarm if the group has a record, else the record. -/
theorem cancelOcoSiblings_group {order : Order} {g : String} (hg : order.ocoGroupId = some g)
    (w : World β γ) :
    (cancelOcoSiblings c order w).alarms =
        w.alarms + (w.state.ocoFills.get g).isSome.toNat ∧
      ((cancelOcoSiblings c order w).state.ocoFills.get g).isSome = true := by
  have hgroup : ocoGroupOf order w.state = some g := by rw [ocoGroupOf, hg, Option.some_or]
  unfold cancelOcoSiblings StateManager.recordOcoFill
  rw [hgroup]
  dsimp only
  cases hrec : w.state.ocoFills.get g with
  | some previous =>
    dsimp only
    refine ⟨?_, ?_⟩
    · simp [World.alarms, World.broadcastCritical, doubleExitMessage, isDoubleExit]
    · rw [state_broadcastCritical, hrec]
      rfl
  | none =>
    dsimp only
    rw [alarms_cancelSiblings, state_cancelSiblings]
    exact ⟨rfl, by simp⟩

/-! ## The events of a group -/

/-- An order event, with what the router is given for it. -/
structure OrderEvent where
  event : OrderEventType
  order : Order
  parentOrderId : Option String

namespace OrderEvent

def step (c : Ctx β γ) (w : World β γ) (e : OrderEvent) : World β γ :=
  handleOrderEvent c e.event e.order e.parentOrderId w

/-- The alarm is broadcast at the event. -/
def Alarms (c : Ctx β γ) (w : World β γ) (e : OrderEvent) : Prop :=
  (e.step c w).alarms ≠ w.alarms

/-- The event is the fill of a member, and a different member was reported filled before. -/
def DoubleExit (before : List OrderEvent) (e : OrderEvent) : Prop :=
  e.event = .orderFilled ∧ ∃ e' ∈ before, e'.event = .orderFilled ∧ e'.order.id ≠ e.order.id

/-- The fill or rejection of a member. -/
def resolves (e : OrderEvent) : Bool := cancelsSiblings e.event

end OrderEvent

section step

variable {e : OrderEvent} {g : String} (hg : e.order.ocoGroupId = some g) (w : World β γ)

include hg

/-- The alarm is raised by a fill or rejection that finds a record. -/
theorem alarms_step : e.Alarms c w ↔
    c.adapterSet = true ∧ e.resolves = true ∧ (w.state.ocoFills.get g).isSome = true := by
  unfold OrderEvent.Alarms OrderEvent.step OrderEvent.resolves handleOrderEvent
  rw [alarms_broadcast_order]
  cases hc : cancelsSiblings e.event && c.adapterSet with
  | false =>
    rw [if_neg (by simp)]
    simp only [alarms_routeTrailingStopEvent, alarms_routeFill]
    refine iff_of_false (fun h => h rfl) fun ⟨hset, hres, _⟩ => ?_
    rw [hset, hres] at hc
    cases hc
  | true =>
    obtain ⟨hres, hset⟩ := Bool.and_eq_true_iff.mp hc
    rw [if_pos rfl, (cancelOcoSiblings_group hg _).1]
    simp only [alarms_routeTrailingStopEvent, alarms_routeFill, state_routeTrailingStopEvent,
      state_routeFill, ocoFills_updateState, hres, hset, true_and]
    cases (w.state.ocoFills.get g).isSome <;> simp [World.alarms]

theorem record_step : ((e.step c w).state.ocoFills.get g).isSome = true ↔
    (w.state.ocoFills.get g).isSome = true ∨ c.adapterSet = true ∧ e.resolves = true := by
  unfold OrderEvent.step OrderEvent.resolves handleOrderEvent
  rw [state_broadcast]
  cases hc : cancelsSiblings e.event && c.adapterSet with
  | false =>
    rw [if_neg (by simp)]
    simp only [state_routeTrailingStopEvent, state_routeFill, ocoFills_updateState]
    refine ⟨.inl, fun h => h.resolve_right fun ⟨hset, hres⟩ => ?_⟩
    rw [hset, hres] at hc
    cases hc
  | true =>
    obtain ⟨hres, hset⟩ := Bool.and_eq_true_iff.mp hc
    rw [if_pos rfl]
    exact iff_of_true (cancelOcoSiblings_group hg _).2 (.inr ⟨hset, hres⟩)

end step

/-- The group has a record exactly if it had one before or there was a fill or rejection. -/
theorem record_exec {g : String} {events : List OrderEvent}
    (hg : ∀ e ∈ events, e.order.ocoGroupId = some g) (w : World β γ) :
    ((Run.exec (OrderEvent.step c) w events).state.ocoFills.get g).isSome = true ↔
      (w.state.ocoFills.get g).isSome = true ∨
        c.adapterSet = true ∧ ∃ e ∈ events, e.resolves = true := by
  induction events generalizing w with
  | nil => simp
  | cons e events ih =>
    obtain ⟨he, hrest⟩ := List.forall_mem_cons.mp hg
    rw [Run.exec_cons, ih hrest, record_step he]
    simp only [List.mem_cons, exists_eq_or_imp]
    constructor
    · rintro ((h | ⟨hset, hres⟩) | ⟨hset, hres⟩)
      · exact .inl h
      · exact .inr ⟨hset, .inl hres⟩
      · exact .inr ⟨hset, .inr hres⟩
    · rintro (h | ⟨hset, hres | hres⟩)
      · exact .inl (.inl h)
      · exact .inl (.inr ⟨hset, hres⟩)
      · exact .inr ⟨hset, hres⟩

/-! ## The alarm along a history -/

/-- The event does not mislead the alarm: if it is a fill or rejection after another one, it is the
fill of a member after the fill of a different one. Without an adapter there is no alarm, so no such
fill may come. -/
def OrderEvent.Clear (c : Ctx β γ) (before : List OrderEvent) (e : OrderEvent) : Prop :=
  if c.adapterSet then
    e.resolves = true → (∃ e' ∈ before, e'.resolves = true) → e.DoubleExit before
  else ¬ e.DoubleExit before

/-- The double-exit alarm is raised at exactly the double exits of a group exactly if each
rejection is the first fill or rejection of the group, and each fill after the first fill or
rejection comes after the fill of a different member. -/
theorem alarm_exact_iff {w : World β γ} {g : String} (hnew : w.state.ocoFills.get g = none)
    {events : List OrderEvent} (hg : ∀ e ∈ events, e.order.ocoGroupId = some g) :
    (∀ before e, before ++ [e] <+: events →
        (e.Alarms c (Run.exec (OrderEvent.step c) w before) ↔ e.DoubleExit before)) ↔
      ∀ before e, before ++ [e] <+: events → e.Clear c before := by
  refine forall_congr' fun before => forall_congr' fun e => forall_congr' fun hp => ?_
  have hmem (e' : OrderEvent) (h' : e' ∈ before ++ [e]) : e'.order.ocoGroupId = some g :=
    hg e' (hp.subset h')
  have hbefore : ∀ e' ∈ before, e'.order.ocoGroupId = some g :=
    fun e' h' => hmem e' (List.mem_append_left _ h')
  have he := hmem e (List.mem_append_right _ List.mem_cons_self)
  rw [alarms_step he, record_exec hbefore, hnew, OrderEvent.Clear]
  cases hset : c.adapterSet with
  | false => simp
  | true =>
    simp only [Option.isSome_none, Bool.false_eq_true, false_or, true_and, if_true]
    constructor
    · intro hiff hres hsome
      exact hiff.mp ⟨hres, hsome⟩
    · intro hclear
      refine ⟨fun ⟨hres, hsome⟩ => hclear hres hsome, ?_⟩
      rintro ⟨hfill, e', he', hfill', -⟩
      exact ⟨by rw [OrderEvent.resolves, hfill]; rfl, e', he', by
        rw [OrderEvent.resolves, hfill']; rfl⟩

/-- The fill of an order of the pair. -/
def fillOf (id : String) : OrderEvent := ⟨.orderFilled, pairedOrder id (some "g"), none⟩

/-- The rejection of an order of the pair. -/
def rejectionOf (id : String) : OrderEvent := ⟨.orderRejected, pairedOrder id (some "g"), none⟩

/-- Both orders of the pair fill: the second fill raises the alarm. -/
theorem alarm_exact_pair :
    (fillOf "b").Alarms .simulatedLog
      (Run.exec (OrderEvent.step .simulatedLog) pairWorld [fillOf "a"]) := by
  have hclear : ∀ before e, before ++ [e] <+: [fillOf "a", fillOf "b"] →
      e.Clear .simulatedLog before := by
    intro before e hp _ hbefore
    rcases before with _ | ⟨e₁, _ | ⟨e₂, before⟩⟩
    · obtain ⟨_, hmem, -⟩ := hbefore
      cases hmem
    · simp only [List.cons_append, List.nil_append, List.cons_prefix_cons] at hp
      obtain ⟨rfl, rfl, -⟩ := hp
      exact ⟨rfl, fillOf "a", List.mem_cons_self, rfl, by decide⟩
    · simp at hp
  have hgroup : ∀ e ∈ [fillOf "a", fillOf "b"], e.order.ocoGroupId = some "g" := by
    intro e he
    rcases List.mem_pair.mp he with rfl | rfl <;> rfl
  have hnew : pairWorld.state.ocoFills.get "g" = none := by decide +kernel
  exact ((alarm_exact_iff hnew hgroup).mpr hclear [fillOf "a"] (fillOf "b") List.prefix_rfl).mpr
    ⟨rfl, fillOf "a", List.mem_cons_self, rfl, by decide⟩

/-- A rejection and then a fill raise the alarm, and so does the same fill twice: no two members
were filled. -/
theorem alarm_without_double_exit :
    ((fillOf "b").Alarms .simulatedLog
        (Run.exec (OrderEvent.step .simulatedLog) pairWorld [rejectionOf "a"]) ∧
      ¬ (fillOf "b").DoubleExit [rejectionOf "a"]) ∧
    (fillOf "a").Alarms .simulatedLog
        (Run.exec (OrderEvent.step .simulatedLog) pairWorld [fillOf "a"]) ∧
      ¬ (fillOf "a").DoubleExit [fillOf "a"] := by
  refine ⟨⟨by unfold OrderEvent.Alarms; decide +kernel, ?_⟩,
    by unfold OrderEvent.Alarms; decide +kernel, ?_⟩
  · rintro ⟨-, e, he, hfill, -⟩
    rw [List.mem_singleton.mp he] at hfill
    cases hfill
  · rintro ⟨-, e, he, -, hne⟩
    rw [List.mem_singleton.mp he] at hne
    exact hne rfl

end Events

end Gateway
