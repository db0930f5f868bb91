import TradingGateway.Events.OcoGroups

/-!
# A missed event and the live one

After a reconnect the router asks for each cached order and handles the changes that it finds. It
does for a change what the live event does, but for two things: the trailing-stop handler is not
told, and no OCO sibling is cancelled.

* `missed_event_same_iff`: the calls are the same if the live event makes none of these two kinds.
-/

namespace Gateway.Events

variable {β γ : Type} (c : Ctx β γ) (w : World β γ)

/-! ## The live event -/

section live

variable (event : OrderEventType) (order : Order)

/-- The call on the exit handler. -/
def fillCalls : List Call :=
  if isFillEvent event then
    [.handleFill order.id order.filledQuantity order.quantity none order.positionId]
  else []

/-- The calls on the adapter for the siblings. -/
def siblingCalls (s : StateManager) : List Call :=
  if cancelsSiblings event then
    (siblingsToCancel order (updateStateForOrderEvent event order s)).map .cancelOrder
  else []

theorem calls_handleOrderEvent (hset : c.adapterSet = true) (parentOrderId : Option String) :
    (handleOrderEvent c event order parentOrderId w).calls =
      w.calls ++ (fillCalls event order ++ (trailingCalls c event order ++
        siblingCalls event order w.state)) := by
  have hfill (w : World β γ) : (routeFill c event order w).calls =
      w.calls ++ fillCalls event order := by
    unfold routeFill fillCalls
    cases isFillEvent event <;> simp [hset]
  unfold handleOrderEvent siblingCalls
  rw [calls_broadcast]
  cases cancelsSiblings event <;>
    simp [hset, calls_cancelOcoSiblings, calls_routeTrailingStopEvent, hfill]

theorem orders_cancelOcoSiblings :
    (cancelOcoSiblings c order w).state.orders = w.state.orders := by
  unfold cancelOcoSiblings StateManager.recordOcoFill
  cases ocoGroupOf order w.state with
  | none => rfl
  | some groupId =>
    dsimp only
    cases w.state.ocoFills.get groupId with
    | some previous => rfl
    | none => rw [state_cancelSiblings]

/-- The cached orders change only at the start of the event. -/
theorem orders_handleOrderEvent (parentOrderId : Option String) :
    (handleOrderEvent c event order parentOrderId w).state.orders =
      (updateStateForOrderEvent event order w.state).orders := by
  unfold handleOrderEvent
  rw [state_broadcast]
  split
  · rw [orders_cancelOcoSiblings]
    simp
  · simp

end live

/-! ## The missed event -/

section missed

theorem calls_applyMissedEvent (event : OrderEventType) (order : Order) :
    (applyMissedEvent c event order w).calls = w.calls ++ fillCalls event order := by
  unfold applyMissedEvent fillCalls
  rw [calls_broadcast]
  cases isFillEvent event <;> simp

theorem state_applyMissedEvent (event : OrderEventType) (order : Order) :
    (applyMissedEvent c event order w).state = updateStateForOrderEvent event order w.state := by
  unfold applyMissedEvent
  rw [state_broadcast]
  split <;> simp

/-- The provider has the order as it is cached. -/
def Fetched.Unchanged (f : Fetched) : Prop :=
  ∃ o, f.answer = some (.ok o) ∧ detectStatusChange f.cachedStatus f.cachedFilledQty o = none

/-- The provider has a change of the order, which amounts to `event`. -/
def Fetched.Changed (f : Fetched) (event : OrderEventType) (order : Order) : Prop :=
  f.answer = some (.ok order) ∧
    detectStatusChange f.cachedStatus f.cachedFilledQty order = some event

theorem reconcileOrder_unchanged {f : Fetched} (h : f.Unchanged) : reconcileOrder c w f = w := by
  obtain ⟨o, ha, hd⟩ := h
  simp [reconcileOrder, ha, hd]

theorem reconcileOrder_changed {f : Fetched} {event : OrderEventType} {order : Order}
    (h : f.Changed event order) : reconcileOrder c w f = applyMissedEvent c event order w := by
  obtain ⟨ha, hd⟩ := h
  simp [reconcileOrder, ha, hd]

theorem reconcileOrders_unchanged {fs : List Fetched} (h : ∀ f ∈ fs, f.Unchanged) :
    fs.foldl (reconcileOrder c) w = w := by
  induction fs with
  | nil => rfl
  | cons f fs ih =>
    rw [List.foldl_cons, reconcileOrder_unchanged c w (h f (by simp))]
    exact ih fun f' hf' => h f' (by simp [hf'])

/-- The answers for all cached orders, and the provider's state after. -/
def fetchAll : List Fetched × β := fetchOrders c w.state w.state.getAllOrderIds w.exit.broker

/-- The world after the changes are handled. -/
def reconciledOrders : World β γ :=
  (fetchAll c w).1.foldl (reconcileOrder c) (w.setBroker (fetchAll c w).2)

/-- One cached order changed at the provider while the stream was down. -/
structure SingleChange (orderId : String) (event : OrderEventType) (order : Order) : Prop where
  cached : (w.state.getOrder orderId).isSome = true
  only : ∃ before f after, (fetchAll c w).1 = before ++ f :: after ∧ f.orderId = orderId ∧
    f.Changed event order ∧ ∀ f' ∈ before ++ after, f'.Unchanged

variable {c w}

theorem SingleChange.reconciledOrders {orderId : String} {event : OrderEventType} {order : Order}
    (h : SingleChange c w orderId event order) :
    reconciledOrders c w = applyMissedEvent c event order (w.setBroker (fetchAll c w).2) := by
  obtain ⟨before, f, after, hall, -, hchanged, hrest⟩ := h.only
  have hbefore : ∀ f' ∈ before, f'.Unchanged := fun f' hf' => hrest f' (by simp [hf'])
  have hafter : ∀ f' ∈ after, f'.Unchanged := fun f' hf' => hrest f' (by simp [hf'])
  unfold Events.reconciledOrders
  rw [hall, List.foldl_append, reconcileOrders_unchanged c _ hbefore, List.foldl_cons,
    reconcileOrder_changed c _ hchanged, reconcileOrders_unchanged c _ hafter]

end missed

/-! ## The end of a reconciliation -/

theorem calls_rebroadcast (failed : List Exit.FailedExitInfo) :
    (rebroadcastUnprotectedPositions failed w).calls = w.calls := by
  unfold rebroadcastUnprotectedPositions
  induction Exit.groupByKey (failed.map fun e => (e.primaryOrderId, e)) generalizing w with
  | nil => rfl
  | cons group groups ih =>
    rw [List.foldl_cons, ih]
    rfl

theorem calls_finishReconcile (orders : List Order) (positions : List Position) :
    (finishReconcile c orders positions w).calls = w.calls := by
  unfold finishReconcile handleConnectionEvent
  rw [calls_broadcast]
  split
  · rfl
  · dsimp only
    rw [calls_rebroadcast]

theorem calls_reconcileBody (hset : c.adapterSet = true) :
    (reconcileBody c w).calls = (reconciledOrders c w).calls := by
  simp only [reconcileBody, hset, Bool.not_true, Bool.false_eq_true, if_false]
  split
  · rfl
  · split
    · rfl
    · exact calls_finishReconcile ..

/-- After the orders, a reconciliation makes no call. -/
theorem calls_reconcileAfterReconnect (hset : c.adapterSet = true) (hidle : w.reconciling = false) :
    (reconcileAfterReconnect c w).calls =
      (reconciledOrders c { w with reconciling := true }).calls := by
  simp only [reconcileAfterReconnect, hidle, Bool.false_eq_true, if_false]
  exact calls_reconcileBody c _ hset

/-! ## Both ways compared -/

section same

variable {c w} {orderId : String} {event : OrderEventType} {order : Order}
  {status : Option OrderStatus} {filled : Decimal}

/-- A reconciliation makes the calls of the live event and does the same to the cached order. -/
structure SameAsLive (c : Ctx β γ) (w : World β γ) (orderId : String) (event : OrderEventType)
    (order : Order) : Prop where
  calls : (reconcileAfterReconnect c w).calls = (handleOrderEvent c event order none w).calls
  cached : (reconciledOrders c w).state.getOrder orderId =
    (handleOrderEvent c event order none w).state.getOrder orderId

theorem detectStatusChange_cases (h : detectStatusChange status filled order = some event) :
    event = .orderFilled ∨ event = .orderCancelled ∨ event = .orderRejected ∨
      event = .orderExpired ∨ event = .orderPartiallyFilled := by
  unfold detectStatusChange at h
  split at h <;> first | cases h | (split at h <;> cases h; simp)

/-- The trailing-stop handler hears of fills, cancellations and rejections. -/
theorem trailingCalls_eq_nil_iff (h : detectStatusChange status filled order = some event) :
    trailingCalls c event order = [] ↔
      c.trailing = none ∨ event = .orderPartiallyFilled ∨ event = .orderExpired := by
  unfold trailingCalls
  cases c.trailing with
  | none => simp
  | some tc => rcases detectStatusChange_cases h with rfl | rfl | rfl | rfl | rfl <;> simp

theorem siblingCalls_eq_nil_iff (s : StateManager) :
    siblingCalls event order s = [] ↔
      (event = .orderFilled ∨ event = .orderRejected → foundSiblings order s = []) := by
  have hnil : siblingsToCancel order (s.removeOrder order.id) = [] ↔ foundSiblings order s = [] :=
    ⟨fun h => (h ▸ siblingsToCancel_removeOrder order s).nil_eq.symm,
      fun h => (h ▸ siblingsToCancel_removeOrder order s).eq_nil⟩
  cases event <;> simp [siblingCalls, cancelsSiblings, updateStateForOrderEvent, hnil]

/-- Reconciling a missed change is the same as its live event exactly if the live event would not
have told the trailing-stop handler, nor found a sibling to cancel. -/
theorem missed_event_same_iff (hset : c.adapterSet = true) (hidle : w.reconciling = false)
    (h : SingleChange c w orderId event order) :
    SameAsLive c w orderId event order ↔
      (c.trailing = none ∨ event = .orderPartiallyFilled ∨ event = .orderExpired) ∧
        (event = .orderFilled ∨ event = .orderRejected → foundSiblings order w.state = []) := by
  have hrun : SingleChange c { w with reconciling := true } orderId event order :=
    ⟨h.cached, h.only⟩
  have hcalls : (reconcileAfterReconnect c w).calls = w.calls ++ fillCalls event order := by
    rw [calls_reconcileAfterReconnect c w hset hidle, hrun.reconciledOrders, calls_applyMissedEvent]
    rfl
  have hcached : (reconciledOrders c w).state.getOrder orderId =
      (handleOrderEvent c event order none w).state.getOrder orderId := by
    unfold StateManager.getOrder
    rw [h.reconciledOrders, state_applyMissedEvent, orders_handleOrderEvent]
    rfl
  obtain ⟨before, f, after, -, -, ⟨-, hdetect⟩, -⟩ := h.only
  rw [← trailingCalls_eq_nil_iff hdetect, ← siblingCalls_eq_nil_iff]
  constructor
  · intro hsame
    have heq := hcalls.symm.trans hsame.calls
    rw [calls_handleOrderEvent c w event order hset none] at heq
    simpa using heq
  · rintro ⟨htrailing, hsiblings⟩
    refine ⟨?_, hcached⟩
    rw [hcalls, calls_handleOrderEvent c w event order hset none, htrailing, hsiblings]
    simp

end same

/-- The simulated provider reports `order`, whichever is asked for. -/
def Ctx.reporting (order : Order) : Ctx (List (String × OrderRequest)) ℕ :=
  { Ctx.simulated with
    exit := { Exit.Ctx.simulated with
      adapter := { TradingAdapter.simulated with getOrder := fun _ b => (.ok order, b) } } }

/-- The order `o1` is cached as open. -/
def cachedWorld : World (List (String × OrderRequest)) ℕ :=
  { World.simulated with state := StateManager.new.upsertOrder (sampleBracket.toOrder "o1") }

/-- What the provider reports after the reconnect. -/
def filledOrder (quantity : Decimal) (status : OrderStatus) : Order :=
  { sampleBracket.toOrder "o1" with filledQuantity := quantity, status }

/-- A missed partial fill is handled like the live one. -/
theorem missed_partial_fill_same :
    SingleChange (.reporting (filledOrder 4 .partiallyFilled)) cachedWorld "o1"
        .orderPartiallyFilled (filledOrder 4 .partiallyFilled) ∧
      SameAsLive (.reporting (filledOrder 4 .partiallyFilled)) cachedWorld "o1"
        .orderPartiallyFilled (filledOrder 4 .partiallyFilled) := by
  have hchange : SingleChange (.reporting (filledOrder 4 .partiallyFilled)) cachedWorld "o1"
      .orderPartiallyFilled (filledOrder 4 .partiallyFilled) :=
    ⟨by decide +kernel, [], _, [], rfl, rfl, ⟨rfl, by decide +kernel⟩, by simp⟩
  exact ⟨hchange, (missed_event_same_iff rfl rfl hchange).mpr ⟨.inr (.inl rfl), by simp⟩⟩

/-- A missed fill never reaches the trailing-stop handler. -/
theorem missed_fill_differs :
    SingleChange (.reporting (filledOrder 10 .filled)) cachedWorld "o1" .orderFilled
        (filledOrder 10 .filled) ∧
      (reconcileAfterReconnect (.reporting (filledOrder 10 .filled)) cachedWorld).calls =
        [.handleFill "o1" 10 10 none none] ∧
      (handleOrderEvent (.reporting (filledOrder 10 .filled)) .orderFilled (filledOrder 10 .filled)
        none cachedWorld).calls = [.handleFill "o1" 10 10 none none, .onPrimaryFilled "o1" 0] ∧
      ¬ SameAsLive (.reporting (filledOrder 10 .filled)) cachedWorld "o1" .orderFilled
        (filledOrder 10 .filled) := by
  have hmissed : (reconcileAfterReconnect (.reporting (filledOrder 10 .filled)) cachedWorld).calls =
      [.handleFill "o1" 10 10 none none] := by decide +kernel
  have hlive : (handleOrderEvent (.reporting (filledOrder 10 .filled)) .orderFilled
      (filledOrder 10 .filled) none cachedWorld).calls =
      [.handleFill "o1" 10 10 none none, .onPrimaryFilled "o1" 0] := by decide +kernel
  refine ⟨⟨by decide +kernel, [], _, [], rfl, rfl, ⟨rfl, by decide +kernel⟩, by simp⟩, hmissed,
    hlive, fun hsame => ?_⟩
  have heq := hmissed.symm.trans (hsame.calls.trans hlive)
  exact absurd heq (by decide)

end Gateway.Events
