import TradingGateway.Websocket.Registry

/-!
# What the router announces

The router gives its own notifications (a position without exits, a double exit, what a
reconciliation or the position synthesis found) to a broadcast channel. `main` makes the channel and
drops its only receiver; the strategies get what the registry sends to their connections.

* `critical_never_delivered`: no notification of the router reaches a strategy.
-/

namespace Gateway

/-! ## The channel -/

namespace Events

variable {β γ : Type}

/-- The channel has no receiver. -/
def Silent (w : World β γ) : Prop := w.broadcaster.receivers = []

section silent

variable {c : Ctx β γ} {w : World β γ}

theorem Silent.broadcast (h : Silent w) (m : WsMessage) : Silent (w.broadcast c m) := by
  have hnone : w.broadcaster.receivers = [] := h
  unfold World.broadcast
  split
  · exact h
  · simp [Silent, hnone]

theorem Silent.broadcastCritical (h : Silent w) (m : WsMessage) :
    Silent (w.broadcastCritical m) := by
  have hnone : w.broadcaster.receivers = [] := h
  simp [Silent, World.broadcastCritical, Broadcaster.send, hnone]

theorem Silent.routeFillToExitHandler (h : Silent w) (order : Order) :
    Silent (routeFillToExitHandler c order w) := by
  unfold Events.routeFillToExitHandler broadcastUnprotectedPositionIfNeeded
  dsimp only
  split
  · exact h
  · exact Silent.broadcastCritical h _

theorem Silent.routeFill (h : Silent w) (event : OrderEventType) (order : Order) :
    Silent (routeFill c event order w) := by
  unfold Events.routeFill
  split
  · exact h.routeFillToExitHandler order
  · exact h

theorem Silent.routeTrailingStopEvent (h : Silent w) (event : OrderEventType) (order : Order) :
    Silent (routeTrailingStopEvent c event order w) := by
  unfold Events.routeTrailingStopEvent
  (repeat' split) <;> exact h

theorem Silent.cancelSiblings (h : Silent w) (ids : List String) :
    Silent (ids.foldl (cancelSibling c) w) := by
  induction ids generalizing w with
  | nil => exact h
  | cons id ids ih => exact ih h

theorem Silent.cancelOcoSiblings (h : Silent w) (order : Order) :
    Silent (cancelOcoSiblings c order w) := by
  unfold Events.cancelOcoSiblings
  split
  · exact h
  · split
    · exact Silent.broadcastCritical h _
    · apply Silent.cancelSiblings
      exact h

theorem Silent.handleOrderEvent (h : Silent w) (event : OrderEventType) (order : Order)
    (parentOrderId : Option String) : Silent (handleOrderEvent c event order parentOrderId w) := by
  have hstate : Silent { w with state := updateStateForOrderEvent event order w.state } := h
  have hfill : Silent (Events.routeFill c event order _) := hstate.routeFill event order
  have hrouted : Silent (Events.routeTrailingStopEvent c event order _) :=
    hfill.routeTrailingStopEvent event order
  unfold Events.handleOrderEvent
  apply Silent.broadcast
  split
  · exact hrouted.cancelOcoSiblings order
  · exact hrouted

theorem Silent.handlePositionEvent (h : Silent w) (event : PositionEventType)
    (position : Position) : Silent (handlePositionEvent c event position w) := by
  unfold Events.handlePositionEvent
  apply Silent.broadcast
  cases event with
  | positionOpened | positionModified => exact h
  | positionClosed =>
    dsimp only
    split <;> exact h

theorem Silent.synthesizePositionFromFill (h : Silent w) (order : Order) (qty : Decimal) :
    Silent (synthesizePositionFromFill c order qty w) := by
  unfold Events.synthesizePositionFromFill
  dsimp only
  split
  · exact h
  · exact h.handlePositionEvent _ _

theorem Silent.applyMissedEvent (h : Silent w) (event : OrderEventType) (order : Order) :
    Silent (applyMissedEvent c event order w) := by
  unfold Events.applyMissedEvent
  apply Silent.broadcast
  split
  · apply Silent.routeFillToExitHandler
    exact h
  · exact h

theorem Silent.reconcileOrder (h : Silent w) (f : Fetched) : Silent (reconcileOrder c w f) := by
  unfold Events.reconcileOrder
  split
  · exact h
  · split
    · exact h.applyMissedEvent _ _
    · exact h
  · exact h
  · exact h

theorem Silent.reconcileOrders (h : Silent w) (fs : List Fetched) :
    Silent (fs.foldl (Events.reconcileOrder c) w) := by
  induction fs generalizing w with
  | nil => exact h
  | cons f fs ih => exact ih (h.reconcileOrder f)

theorem Silent.rebroadcast (h : Silent w) (failed : List Exit.FailedExitInfo) :
    Silent (rebroadcastUnprotectedPositions failed w) := by
  unfold rebroadcastUnprotectedPositions
  induction Exit.groupByKey (failed.map fun e => (e.primaryOrderId, e)) generalizing w with
  | nil => exact h
  | cons group groups ih => exact ih (Silent.broadcastCritical h _)

theorem Silent.finishReconcile (h : Silent w) (orders : List Order) (positions : List Position) :
    Silent (finishReconcile c orders positions w) := by
  have hsynced : Silent { w with state := .syncFromProvider orders positions } := h
  unfold Events.finishReconcile handleConnectionEvent
  apply Silent.broadcast
  split
  · exact h
  · have hsent := hsynced.rebroadcast w.exit.handler.getFailedEntries
    unfold Silent at hsent ⊢
    dsimp only
    exact hsent

theorem Silent.setBroker (h : Silent w) (b : β) : Silent (w.setBroker b) := h

theorem Silent.reconcileBody (h : Silent w) : Silent (reconcileBody c w) := by
  unfold Events.reconcileBody
  split
  · exact h
  · have horders (b : β) (fs : List Fetched) :
        Silent (fs.foldl (Events.reconcileOrder c) (w.setBroker b)) :=
      (h.setBroker b).reconcileOrders fs
    dsimp only
    split
    · exact horders _ _
    · split
      · exact horders _ _
      · apply Silent.finishReconcile
        exact horders _ _

theorem Silent.reconcileAfterReconnect (h : Silent w) : Silent (reconcileAfterReconnect c w) := by
  have hstart : Silent { w with reconciling := true } := h
  unfold Events.reconcileAfterReconnect
  split
  · exact h
  · exact hstart.reconcileBody (c := c)

end silent

end Events

/-! ## The connections -/

namespace WsConnectionManager

/-- From one manager to the next every connection stays, and only messages of `P` are addressed to
it. -/
def Addresses (P : WsMessage → Prop) (manager manager' : WsConnectionManager) : Prop :=
  ∀ id conn, Table.get manager id = some conn → ∃ conn' sent, Table.get manager' id = some conn' ∧
    conn'.addressed = conn.addressed ++ sent ∧ ∀ m ∈ sent, P m.1

variable {P : WsMessage → Prop} {manager manager' manager'' : WsConnectionManager}

theorem Addresses.refl : Addresses P manager manager :=
  fun _ conn hget => ⟨conn, [], hget, by simp, by simp⟩

theorem Addresses.trans (h : Addresses P manager manager') (h' : Addresses P manager' manager'') :
    Addresses P manager manager'' := by
  intro id conn hget
  obtain ⟨conn', sent, hget', heq, hsent⟩ := h id conn hget
  obtain ⟨conn'', sent', hget'', heq', hsent'⟩ := h' id conn' hget'
  refine ⟨conn'', sent ++ sent', hget'', by simp [heq, heq'], fun m hm => ?_⟩
  rcases List.mem_append.mp hm with hm | hm
  · exact hsent m hm
  · exact hsent' m hm

theorem addressed_send (conn : WsConnection) (m : Outgoing) :
    (conn.send m).2.addressed = conn.addressed ++ [m] := by
  unfold WsConnection.send
  dsimp only
  split
  · rfl
  · split <;> rfl

theorem addresses_broadcast {message : WsMessage} (h : P message) :
    Addresses P manager (manager.broadcast message) := by
  intro id conn hget
  refine ⟨(conn.send (message, none)).2, [(message, none)], ?_, addressed_send .., by simpa using h⟩
  unfold broadcast
  rw [Table.get_mapValues, hget]
  rfl

theorem addresses_sendTo (id : Uuid) {m : Outgoing} (h : P m.1) :
    Addresses P manager (manager.sendTo id m).2 := by
  intro id' conn hget
  unfold sendTo
  cases hid : Table.get manager id with
  | none => exact ⟨conn, [], hget, by simp, by simp⟩
  | some conn₀ =>
    dsimp only
    by_cases heq : id' = id
    · subst heq
      obtain rfl : conn₀ = conn := Option.some.inj (hid.symm.trans hget)
      exact ⟨_, [m], Table.get_insert_self .., addressed_send .., by simpa using h⟩
    · refine ⟨conn, [], ?_, by simp, by simp⟩
      rw [Table.get_insert_ne _ _ heq]
      exact hget

end WsConnectionManager

namespace Registry

open WsConnectionManager

variable {P : WsMessage → Prop} {event : WsMessage}

theorem addresses_deliver (h : P event) (strategies : List Uuid) (engineEventId : Option String)
    (manager : WsConnectionManager) :
    Addresses P manager (deliver strategies event engineEventId manager) := by
  induction strategies generalizing manager with
  | nil => exact .refl
  | cons id ids ih => exact (addresses_sendTo id h).trans (ih _)

variable {β γ : Type} {c : Ctx β γ} {w : World β γ}

/-! ## The gateway -/

/-- A gateway as `main` wires it, after any steps of the registry's tasks. The rest of the gateway
may change anything in between but the channel, to which it has no access. -/
inductive Reachable (c : Ctx β γ) : World β γ → Prop where
  | wired (config : Exit.ExitHandlerConfig) (b : β) (g : γ) :
      Reachable c ⟨.initial config b g ⟨[]⟩, ∅, [], ∅, []⟩
  | step {w : World β γ} (h : Reachable c w) (a : Action) : Reachable c (step c w a)
  | outside {w w' : World β γ} (h : Reachable c w)
      (hchannel : w'.router.broadcaster = w.router.broadcaster) : Reachable c w'

theorem silent_routeEvent (event : WsMessage) {router : Events.World β γ}
    (h : Events.Silent router) : Events.Silent (routeEventThroughRouter c event router).2 := by
  cases event with
  | order eventType order parentOrderId => exact h.handleOrderEvent ..
  | position eventType position => exact h.handlePositionEvent ..
  | _ => exact h

theorem silent_synthesisRound (h : Events.Silent w.router) :
    Events.Silent (synthesisRound c w).router := by
  unfold synthesisRound
  split
  · exact h
  · unfold handleInternalEvent
    split
    · exact h.reconcileAfterReconnect
    · split
      · exact h.synthesizePositionFromFill ..
      · exact h
    · exact h

theorem silent_step (h : Events.Silent w.router) (a : Action) :
    Events.Silent (step c w a).router := by
  cases a with
  | streamEvent event engineEventId fresh =>
    have hquoted : Events.Silent { w.router with
      trailing := { w.router.trailing with
        outside := c.handleQuote event w.router.trailing.outside } } := h
    exact silent_routeEvent event hquoted
  | synthesis => exact silent_synthesisRound h
  | reconnected => exact h.reconcileAfterReconnect
  | _ => exact h

/-- The channel of a wired gateway never has a receiver. -/
theorem Reachable.silent (hw : Reachable c w) : Events.Silent w.router := by
  induction hw with
  | wired => rfl
  | step _ a ih => exact silent_step ih a
  | outside _ hchannel ih =>
    unfold Events.Silent
    rw [hchannel]
    exact ih

/-- The router gives the message to its channel in this step. -/
def Announces (c : Ctx β γ) (w : World β γ) (a : Action) (m : WsMessage) : Prop :=
  ∃ news, (step c w a).router.announced = w.router.announced ++ news ∧ m ∈ news

/-- The messages that strategies get in no other way: unprotected positions and double exits, order
events that a reconciliation found, and synthesized position events. -/
def Action.critical : Action → WsMessage → Bool
  | .streamEvent .., .error .. => true
  | .reconnected, .error .. => true
  | .reconnected, .order .. => true
  | .synthesis, .position .. => true
  | _, _ => false

/-- The notice that an event ended the staleness of its symbol is a message of its own kind. -/
def Action.noticeOk : Action → Bool
  | .streamEvent _ _ (some (.other ..)) => true
  | .streamEvent _ _ (some _) => false
  | _ => true

/-- In this step the message is sent to the connection, or a receiver of the channel gets it. -/
def Reaches (c : Ctx β γ) (w : World β γ) (a : Action) (m : WsMessage) (id : Uuid) : Prop :=
  (∃ conn conn' sent, Table.get w.manager id = some conn ∧
    Table.get (step c w a).manager id = some conn' ∧ conn'.addressed = conn.addressed ++ sent ∧
    ∃ x ∈ sent, x.1 = m) ∨
  ∃ received ∈ (step c w a).router.broadcaster.receivers, m ∈ received

/-- Every connection whose queue has room gets the message. -/
def Notifies (c : Ctx β γ) (w : World β γ) (a : Action) (m : WsMessage) : Prop :=
  ∀ id conn, Table.get w.manager id = some conn → conn.closed = false → conn.isFull = false →
    Reaches c w a m id

/-- A stream event sends the strategies its notice, and the event as they see it. -/
theorem addresses_handleStreamEvent {fresh : Option WsMessage}
    (hfresh : ∀ notice, fresh = some notice → P notice)
    (hevent : ∀ tracked, P (enrich tracked event w.correlations).1)
    (engineEventId : Option String) :
    Addresses P w.manager (handleStreamEvent c event engineEventId fresh w).manager := by
  have hdeliver (tracked : Option String) (manager : WsConnectionManager) : Addresses P manager
      (deliver w.connectedStrategies (enrich tracked event w.correlations).1 engineEventId
        manager) :=
    addresses_deliver (hevent tracked) _ _ _
  cases fresh with
  | none =>
    unfold handleStreamEvent
    dsimp only
    split
    · exact hdeliver _ _
    · exact .refl
  | some notice =>
    have hnotice : Addresses P w.manager (w.manager.broadcast notice) :=
      addresses_broadcast (hfresh notice rfl)
    unfold handleStreamEvent
    dsimp only
    split
    · exact hnotice.trans (hdeliver _ _)
    · exact hnotice

/-- What the registry sends to the strategies in a step is not what the router announces in it. -/
theorem addresses_step {a : Action} (hnotice : a.noticeOk = true) {m : WsMessage}
    (hm : Announces c w a m) (hcritical : a.critical m = true) :
    Addresses (· ≠ m) w.manager (step c w a).manager := by
  cases a with
  | streamEvent event engineEventId fresh =>
    have herror : ∃ code message details, m = .error code message details := by
      cases m <;> first | exact ⟨_, _, _, rfl⟩ | cases hcritical
    obtain ⟨code, message, details, rfl⟩ := herror
    refine addresses_handleStreamEvent ?_ ?_ engineEventId
    · rintro notice rfl
      cases notice <;> first | (intro h; cases h; done) | cases hnotice
    · intro tracked
      cases event with
      | order => exact nofun
      | position => exact nofun
      | _ =>
        -- No announcement: the router does not see the event.
        obtain ⟨news, heq, hmem⟩ := hm
        have hnil : news = [] := List.append_right_eq_self.mp heq.symm
        rw [hnil] at hmem
        cases hmem
  | synthesis =>
    show Addresses _ w.manager (synthesisRound c w).manager
    unfold synthesisRound
    split <;> exact .refl
  | reconnected =>
    refine addresses_broadcast ?_
    cases m <;> first | (intro h; cases h; done) | cases hcritical
  | _ => cases m <;> cases hcritical

/-- In a gateway as `main` wires it, no such message gets to a strategy: not one of the connections
with room is sent it, and the channel has nobody to pass it on. -/
theorem critical_never_delivered (hw : Reachable c w) {a : Action} (hnotice : a.noticeOk = true)
    {m : WsMessage} (hm : Announces c w a m) (hcritical : a.critical m = true) {id : Uuid}
    {conn : WsConnection} (hconn : Table.get w.manager id = some conn)
    (hopen : conn.closed = false) (hroom : conn.isFull = false) : ¬ Notifies c w a m := by
  intro hall
  rcases hall id conn hconn hopen hroom with ⟨conn₀, conn', sent, hget, hget', heq, x, hx, hxm⟩ | h
  · obtain rfl : conn₀ = conn := Option.some.inj (hget.symm.trans hconn)
    obtain ⟨conn'', sent', hget'', heq', hsent⟩ :=
      addresses_step hnotice hm hcritical id conn₀ hconn
    obtain rfl : conn' = conn'' := Option.some.inj (hget'.symm.trans hget'')
    obtain rfl : sent = sent' := List.append_cancel_left (heq.symm.trans heq')
    exact hsent x hx hxm
  · obtain ⟨received, hmem, -⟩ := h
    have hnone : (step c w a).router.broadcaster.receivers = [] := (hw.step a).silent
    rw [hnone] at hmem
    cases hmem

/-! ## A provider that refuses the exits -/

/-- The simulated provider, which takes no order. -/
def refusing : Ctx (List (String × OrderRequest)) ℕ :=
  { Ctx.simulated with
    router := { Events.Ctx.simulated with
      exit := { Exit.Ctx.simulated with
        adapter := { TradingAdapter.simulated with
          submitOrder := fun _ b => (.error (.internal "down"), b) } } } }

/-- A strategy is connected. -/
def connectedWorld : World (List (String × OrderRequest)) ℕ :=
  step refusing .simulated (.connect 1 8)

/-- A strategy is connected, and the bracket order `p` is registered with both exits. -/
def listeningWorld : World (List (String × OrderRequest)) ℕ :=
  { connectedWorld with
    router := { connectedWorld.router with
      exit := ((Exit.register refusing.router.exit "p" sampleBracket).run
        connectedWorld.router.exit).2 } }

/-- The order `p` fills. -/
def bracketFill : Action :=
  .streamEvent (.order .orderFilled { sampleBracket.toOrder "p" with filledQuantity := 10 } none)
    none none

/-- Neither of its exits could be placed. -/
def bracketUnprotected : WsMessage :=
  .error .positionUnprotected "Exit order placement failed for BTCUSD — position may be unprotected"
    (some (.unprotected "p" "BTCUSD"
      [⟨.stopLoss, .failed "Internal error: down", []⟩,
        ⟨.takeProfit, .failed "Internal error: down", []⟩] false false))

theorem listeningWorld_reachable : Reachable refusing listeningWorld :=
  .outside (.step (.wired {} [] 0) (.connect 1 8)) rfl

theorem listeningWorld_announces :
    Announces refusing listeningWorld bracketFill bracketUnprotected :=
  ⟨(step refusing listeningWorld bracketFill).router.announced, by decide +kernel,
    by decide +kernel⟩

theorem unprotected_never_delivered :
    ∃ m, Announces refusing listeningWorld bracketFill m ∧ bracketFill.critical m = true ∧
      Table.get listeningWorld.manager 1 = some (.new 8) ∧
      ¬ Notifies refusing listeningWorld bracketFill m :=
  ⟨bracketUnprotected, listeningWorld_announces, rfl, rfl,
    critical_never_delivered listeningWorld_reachable rfl listeningWorld_announces rfl
      (show Table.get listeningWorld.manager 1 = some (.new 8) from rfl) rfl rfl⟩

/-- The strategy is sent the fill; that the position has no exits it is not told. -/
theorem strategy_told_fill_only :
    Reachable refusing listeningWorld ∧
      Announces refusing listeningWorld bracketFill bracketUnprotected ∧
      bracketFill.critical bracketUnprotected = true ∧
      Table.get listeningWorld.manager 1 = some (.new 8) ∧
      ((Table.get (step refusing listeningWorld bracketFill).manager 1).map fun conn =>
        conn.addressed.map Prod.fst) =
          some [.order .orderFilled { sampleBracket.toOrder "p" with filledQuantity := 10 } none] ∧
      ¬ Notifies refusing listeningWorld bracketFill bracketUnprotected := by
  have hsent : ((Table.get (step refusing listeningWorld bracketFill).manager 1).map fun conn =>
      conn.addressed.map Prod.fst) = some
        [.order .orderFilled { sampleBracket.toOrder "p" with filledQuantity := 10 } none] := by
    decide +kernel
  refine ⟨listeningWorld_reachable, listeningWorld_announces, rfl, rfl, hsent, fun hall => ?_⟩
  rcases hall 1 (.new 8) rfl rfl rfl with ⟨conn, conn', sent, hget, hget', heq, x, hx, hxm⟩ | h
  · rw [hget', Option.map_some] at hsent
    have hmem : x.1 ∈ conn'.addressed.map Prod.fst := by
      rw [heq]
      exact List.mem_map_of_mem (List.mem_append_right _ hx)
    rw [Option.some.inj hsent, hxm] at hmem
    exact absurd (List.mem_singleton.mp hmem) nofun
  · obtain ⟨received, hmem, -⟩ := h
    have hnone : (step refusing listeningWorld bracketFill).router.broadcaster.receivers = [] := by
      decide +kernel
    rw [hnone] at hmem
    cases hmem

end Registry

end Gateway
