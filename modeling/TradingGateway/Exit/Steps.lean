import TradingGateway.Exit.Fill

/-!
# What a fill does to the world

The functions of the fill path as relations between the world before and after, for a handler that
runs alone: `FillOutcome` for one entry, `FillEvent` for a whole event. Every invariant is proved
from these, not from the code.
-/

namespace Gateway.Exit

open Routine

variable {β : Type} {c : Ctx β}

/-! ## Placing an order -/

/-- From the state `b` on, the provider accepted `r` under `handle`, and reported `o` for it or
nothing; its state is then `b'`. -/
def Confirmed (c : Ctx β) (b : β) (r : OrderRequest) (handle : OrderHandle) (o : Order) (b' : β) :
    Prop :=
  ∃ b₁ b₂ b₃, c.adapter.Reaches b [] b₁ ∧ c.adapter.submitOrder r b₁ = (.ok handle, b₂) ∧
    c.adapter.Reaches b₂ [] b' ∧
    (c.adapter.getOrder handle.id b₂ = (.ok o, b₃) ∨ o = fallbackOrder r handle)

variable {b b' : β} {r : OrderRequest} {o : Order} {e : ExitEntry} {w' : World β} {id : String}
  {handle : OrderHandle}

theorem Confirmed.id_quantity (hc : Confirmed c b r handle o b') (ha : c.adapter.AcceptsSubmits) :
    o.id = handle.id ∧ o.quantity = r.quantity := by
  obtain ⟨b₁, b₂, b₃, -, hs, -, hr | rfl⟩ := hc
  · exact ha.reports hs hr
  · exact ⟨rfl, rfl⟩

theorem Confirmed.reaches (hc : Confirmed c b r handle o b') : c.adapter.Reaches b [] b' := by
  obtain ⟨b₁, b₂, b₃, h₁, hs, h₂, -⟩ := hc
  have hsubmit := h₁.submit r
  rw [hs] at hsubmit
  exact hsubmit.trans _ h₂

/-- The id of a confirmed order was not in use before, and is from then on. -/
theorem Confirmed.issued {issued : β → String → Prop} (hi : c.adapter.IssuesIds issued)
    (hc : Confirmed c b r handle o b') : ¬ issued b handle.id ∧ issued b' handle.id := by
  obtain ⟨b₁, b₂, b₃, h₁, hs, h₂, -⟩ := hc
  exact ⟨fun h => (hi.fresh hs).1 (hi.mono h₁ h), hi.mono h₂ (hi.fresh hs).2⟩

/-- The provider accepts `r` in one of `n` attempts from the state `b` on: at once, or after an
error that is tried again. -/
def acceptsWithin (c : Ctx β) (r : OrderRequest) : ℕ → ℕ → β → Bool
  | 0, _, _ => false
  | n + 1, attempt, b =>
    match c.adapter.submitOrder r b with
    | (.ok _, _) => true
    | (.error e, b) => (classifyAndHandlePlacementError c.config e attempt 0).isNone &&
        acceptsWithin c r n (attempt + 1) (c.adapter.sleep (c.config.retryDelays.getD attempt 0) b)

/-- The provider accepts one of the attempts to place `r`. -/
def acceptsPlacement (c : Ctx β) (r : OrderRequest) (b : β) : Bool :=
  acceptsWithin c r (c.config.retryDelays.length + 1) 0 b

theorem acceptsPlacement_of_submit (hs : c.adapter.submitOrder r b = (.ok handle, b')) :
    acceptsPlacement c r b = true := by
  simp [acceptsPlacement, acceptsWithin, hs]

theorem acceptsPlacement_ne_false (ha : c.adapter.AcceptsSubmits) (r : OrderRequest) (b : β) :
    acceptsPlacement c r b ≠ false := by
  obtain ⟨handle, b', hs⟩ := ha.accepts r b
  simp [acceptsPlacement_of_submit hs]

theorem classifyAndHandlePlacementError_isNone (config : ExitHandlerConfig) (e : GatewayError)
    (attempt retry : ℕ) : (classifyAndHandlePlacementError config e attempt retry).isNone =
      (classifyAndHandlePlacementError config e attempt 0).isNone := by
  unfold classifyAndHandlePlacementError
  dsimp only
  split_ifs <;> rfl

variable (ph : String) (f T : Decimal) (pos : Option Decimal) (pid : Option String) (w : World β)

/-- The submission loop places the order if the provider accepts an attempt, and leaves the handler
alone. -/
theorem run_placeAttempts (r : OrderRequest) (n attempt retry : ℕ) (w : World β) :
    (acceptsWithin c r n attempt w.broker = true ∧ ∃ handle o retry' b,
      Confirmed c w.broker r handle o b ∧ (placeAttempts c ph r n attempt retry).run w =
        (.ok (o, retry'), { w with broker := b }.accept ph handle.id r)) ∨
    acceptsWithin c r n attempt w.broker = false ∧ ∃ err b, c.adapter.Reaches w.broker [] b ∧
      (placeAttempts c ph r n attempt retry).run w = (.error err, { w with broker := b }) := by
  induction n generalizing attempt retry w with
  | zero => exact .inr ⟨rfl, _, w.broker, .refl, rfl⟩
  | succ n ih =>
    rw [placeAttempts, run_bind]
    cases hs : c.adapter.submitOrder r w.broker with
    | mk res b =>
      have hreach : c.adapter.Reaches w.broker [] b := by
        have := TradingAdapter.Reaches.submit (.refl : c.adapter.Reaches w.broker [] w.broker) r
        rwa [hs] at this
      cases res with
      | ok handle =>
        refine .inl ⟨by simp [acceptsWithin, hs], handle, ?_⟩
        simp only [submitOrder, run_call, hs, run_bind, getOrder]
        have hget := TradingAdapter.Reaches.get (.refl : c.adapter.Reaches b [] b) handle.id
        cases hg : c.adapter.getOrder handle.id b with
        | mk res' b' =>
          rw [hg] at hget
          cases res' with
          | ok o =>
            exact ⟨o, retry, b', ⟨_, b, b', .refl, hs, hget, .inl hg⟩, by simp [World.accept, hg]⟩
          | error e =>
            exact ⟨fallbackOrder r handle, retry, b', ⟨_, b, b', .refl, hs, hget, .inr rfl⟩,
              by simp [World.accept, hg]⟩
      | error e =>
        simp only [submitOrder, run_call, hs]
        have hagain := classifyAndHandlePlacementError_isNone c.config e attempt retry
        simp only [acceptsWithin, hs, ← hagain]
        cases hcl : classifyAndHandlePlacementError c.config e attempt retry with
        | some err => exact .inr ⟨rfl, err, b, hreach, by simp⟩
        | none =>
          -- the error is retryable: the clock moves on and the loop goes on
          simp only [run_bind, sleep, run_call]
          have hslept := hreach.sleep (c.config.retryDelays.getD attempt 0)
          rcases ih (attempt + 1) (toU32 (attempt + 1))
              { w with broker := c.adapter.sleep (c.config.retryDelays.getD attempt 0) b }
            with ⟨hacc, handle, o, retry', b', ⟨b₁, b₂, b₃, h₁, h₂⟩, hrun⟩ |
              ⟨hacc, err, b', h₁, hrun⟩
          · exact .inl ⟨hacc, handle, o, retry', b', ⟨b₁, b₂, b₃, hslept.trans _ h₁, h₂⟩, hrun⟩
          · exact .inr ⟨hacc, err, b', hslept.trans _ h₁, hrun⟩

/-! ## One entry -/

/-- A fill of `f` is processed for the entry: it is in no terminal state, and no fill of that much
was tried before. -/
def Eligible (f : Decimal) (e : ExitEntry) : Prop :=
  e.status.isTerminal = false ∧ ∀ last, e.lastAttemptedFillQty = some last → last < f

/-- The quantity that the entry's orders do not cover yet. -/
def qtyToPlace (f T : Decimal) (pos : Option Decimal) (e : ExitEntry) : Decimal :=
  targetQty f T pos - calculateActiveCoverage e.actualOrders e.orderType

/-- The fill makes the handler place an order for the entry. -/
def Places (c : Ctx β) (f T : Decimal) (pos : Option Decimal) (w : World β) (e : ExitEntry) :
    Prop :=
  Eligible f e ∧ c.config.minExitOrderQty ≤ qtyToPlace f T pos e ∧
    w.handler.circuitBreaker.isOpen = false

/-- The request for the uncovered quantity. -/
def fillRequest (f T : Decimal) (pos : Option Decimal) (pid : Option String) (e : ExitEntry) :
    OrderRequest :=
  buildExitOrderRequest e (qtyToPlace f T pos e) e.actualOrders.length pid

/-- A partial fill's quantities; `none` for a full fill. -/
def partialFill (f T : Decimal) : Option (Decimal × Decimal) := if f < T then some (f, T) else none

/-- The entry after a placement was tried for `f`. -/
def ExitEntry.attempted (f : Decimal) (pid : Option String) (e : ExitEntry) : ExitEntry :=
  { e with lastAttemptedFillQty := some f, positionId := pid.or e.positionId }

/-- The entry at `ph` changed. -/
def World.updateEntry (w : World β) (ph : String) (g : ExitEntry → ExitEntry) : World β :=
  { w with handler := w.handler.modifyEntry ph g }

@[simp] theorem circuitBreaker_updateEntry (ph : String) (g : ExitEntry → ExitEntry) :
    (w.updateEntry ph g).handler.circuitBreaker = w.handler.circuitBreaker := rfl

@[simp] theorem run_modifyEntry (g : ExitEntry → ExitEntry) (w : World β) :
    (modifyHandler fun h => h.modifyEntry ph g).run w = ((), w.updateEntry ph g) := rfl

/-- The reason of a deferral lies with the provider's account. -/
def DeferReason.Account : DeferReason → Prop
  | .insufficientBalance _ | .washTrade _ => True
  | _ => False

/-- What `processEntryFill` answers for the entry `ph` at a fill of `f` out of `T`, and does. -/
inductive FillOutcome (c : Ctx β) (ph : String) (f T : Decimal) (pos : Option Decimal)
    (pid : Option String) (w : World β) : PlacementResult → World β → Prop where
  /-- There is no entry, or the fill is not processed for it. -/
  | skipped {r : PlacementResult}
      (h : validateEntryForFill ph f (w.handler.getEntry ph) = .error r)
      (hel : ∀ e, w.handler.getEntry ph = some e → ¬ Eligible f e) :
      FillOutcome c ph f T pos pid w r w
  | belowMinimum {e : ExitEntry} (he : w.handler.getEntry ph = some e) (hel : Eligible f e)
      (hq : qtyToPlace f T pos e < c.config.minExitOrderQty) :
      FillOutcome c ph f T pos pid w
        ⟨ph, e.orderType,
          .deferred (.belowMinimum (qtyToPlace f T pos e) c.config.minExitOrderQty)⟩
        (w.updateEntry ph (ExitEntry.attempted f none))
  | breakerOpen {e : ExitEntry} (he : w.handler.getEntry ph = some e) (hel : Eligible f e)
      (hq : c.config.minExitOrderQty ≤ qtyToPlace f T pos e)
      (hb : w.handler.circuitBreaker.isOpen = true) :
      FillOutcome c ph f T pos pid w ⟨ph, e.orderType, .deferred .circuitBreakerOpen⟩
        (w.updateEntry ph (ExitEntry.attempted f none))
  /-- The provider refused the order, for a reason that a later fill may not meet. -/
  | refused {e : ExitEntry} {b : β} {reason : DeferReason} (hreason : reason.Account)
      (hreach : c.adapter.Reaches w.broker [] b) (he : w.handler.getEntry ph = some e)
      (hel : Eligible f e) (hq : c.config.minExitOrderQty ≤ qtyToPlace f T pos e)
      (hb : w.handler.circuitBreaker.isOpen = false)
      (hr : acceptsPlacement c (fillRequest f T pos pid e) w.broker = false) :
      FillOutcome c ph f T pos pid w ⟨ph, e.orderType, .deferred reason⟩
        { w.updateEntry ph (ExitEntry.attempted f pid) with broker := b, placing := none }
  /-- The provider refused the order, and the entry has failed. -/
  | failed {e : ExitEntry} {b : β} (breaker : ExitOrderCircuitBreaker) (message : String)
      (retryCount : ℕ) (hreach : c.adapter.Reaches w.broker [] b)
      (he : w.handler.getEntry ph = some e) (hel : Eligible f e)
      (hq : c.config.minExitOrderQty ≤ qtyToPlace f T pos e)
      (hb : w.handler.circuitBreaker.isOpen = false)
      (hr : acceptsPlacement c (fillRequest f T pos pid e) w.broker = false) :
      FillOutcome c ph f T pos pid w ⟨ph, e.orderType, .failed message retryCount⟩
        { w with
          handler :=
            { w.handler.modifyEntry ph
                (fun e => updateEntryToFailed message retryCount (e.attempted f pid)) with
              circuitBreaker := breaker }
          broker := b
          placing := none }
  /-- The order is placed and recorded. -/
  | placed {e : ExitEntry} {handle : OrderHandle} {o : Order} {b : β}
      (he : w.handler.getEntry ph = some e) (hel : Eligible f e)
      (hq : c.config.minExitOrderQty ≤ qtyToPlace f T pos e)
      (hb : w.handler.circuitBreaker.isOpen = false)
      (hc : Confirmed c w.broker (fillRequest f T pos pid e) handle o b)
      (hacc : acceptsPlacement c (fillRequest f T pos pid e) w.broker = true) :
      FillOutcome c ph f T pos pid w ⟨ph, e.orderType, .success o.id o⟩
        ({ w with broker := b, placing := none }.accept ph handle.id (fillRequest f T pos pid e)
          |>.updateEntry ph fun e' => recordPlacement ⟨o.id, o.quantity, .open, e.orderType⟩
            (partialFill f T) (e'.attempted f pid))

/-- The world after a fill, whatever the answer. -/
def FillStep (c : Ctx β) (ph : String) (f T : Decimal) (pos : Option Decimal) (pid : Option String)
    (w w' : World β) : Prop := ∃ r, FillOutcome c ph f T pos pid w r w'

theorem validateEntryForFill_eq_ok {ph : String} {f : Decimal} {found : Option ExitEntry} :
    validateEntryForFill ph f found = .ok e ↔ found = some e ∧ Eligible f e := by
  cases found with
  | none => simp [validateEntryForFill]
  | some e' =>
    simp only [validateEntryForFill, Eligible]
    constructor
    · intro h
      split at h
      · cases h
      · rename_i ht
        split at h
        · cases h
        · rename_i hl
          cases h
          refine ⟨rfl, by simpa using ht, fun last hlast => ?_⟩
          simpa [hlast] using hl
    · rintro ⟨he, ht, hl⟩
      cases he
      rw [if_neg (by simp [ht]), if_neg]
      cases hlast : e.lastAttemptedFillQty with
      | none => simp
      | some last => simpa using hl last hlast

theorem calculateExitQuantity_eq (config : ExitHandlerConfig) (ph : String) (e : ExitEntry)
    (f T : Decimal) (pos : Option Decimal) :
    calculateExitQuantity config ph e f T pos =
      if qtyToPlace f T pos e < config.minExitOrderQty then
        .error ⟨ph, e.orderType, .deferred (.belowMinimum (qtyToPlace f T pos e)
          config.minExitOrderQty)⟩
      else .ok (qtyToPlace f T pos e, e.actualOrders) := rfl

/-- `updateLastAttemptedFillQty`, then `recordPositionId`, as one update. -/
theorem run_recordPositionId :
    (recordPositionId ph pid).run (w.updateEntry ph (updateLastAttemptedFillQty f)) =
      ((), w.updateEntry ph (ExitEntry.attempted f pid)) := by
  cases pid with
  | none => rfl
  | some id =>
    simp only [recordPositionId, run_modifyHandler, World.updateEntry,
      ExitHandler.modifyEntry_modifyEntry]
    rfl

/-- `placeExitOrder` places and records the order, or the provider refused it: then it defers the
order or fails the entry. -/
theorem run_placeExitOrder (e : ExitEntry) (r : OrderRequest) (pf : Option (Decimal × Decimal))
    (w : World β) :
    (acceptsPlacement c r w.broker = true ∧ ∃ handle o b, Confirmed c w.broker r handle o b ∧
      (placeExitOrder c ph e r pf).run w =
        (⟨ph, e.orderType, .success o.id o⟩,
          ({ w with broker := b }.accept ph handle.id r).updateEntry ph
            (recordPlacement ⟨o.id, o.quantity, .open, e.orderType⟩ pf))) ∨
    acceptsPlacement c r w.broker = false ∧ ∃ b, c.adapter.Reaches w.broker [] b ∧
      ((∃ reason : DeferReason, reason.Account ∧ (placeExitOrder c ph e r pf).run w =
          (⟨ph, e.orderType, .deferred reason⟩, { w with broker := b })) ∨
        ∃ breaker message retryCount, (placeExitOrder c ph e r pf).run w =
          (⟨ph, e.orderType, .failed message retryCount⟩,
            { w with
              handler :=
                { w.handler.modifyEntry ph (updateEntryToFailed message retryCount) with
                  circuitBreaker := breaker }
              broker := b })) := by
  have hplace := run_placeAttempts (c := c) ph r (c.config.retryDelays.length + 1) 0 0 w
  rw [placeExitOrder, run_bind]
  rcases hplace with ⟨hacc, handle, o, retry, b, hc, hrun⟩ | ⟨hacc, ⟨err, retry⟩, b, hreach, hrun⟩
  · refine .inl ⟨hacc, handle, o, b, hc, ?_⟩
    simp only [placeOrderWithRetry, hrun]
    rfl
  · refine .inr ⟨hacc, b, hreach, ?_⟩
    simp only [placeOrderWithRetry, hrun]
    cases err with
    | insufficientBalance message => exact .inl ⟨.insufficientBalance message, trivial, rfl⟩
    | washTrade message => exact .inl ⟨.washTrade message, trivial, rfl⟩
    | failed message n category =>
      refine .inr ?_
      cases hcat : category.shouldCountTowardBreaker with
      | true => exact ⟨w.handler.circuitBreaker.recordFailure (c.adapter.now b), message, retry,
          by simp [handlePlacementError, hcat]; rfl⟩
      | false => exact ⟨w.handler.circuitBreaker, message, retry,
          by simp [handlePlacementError, hcat]; rfl⟩

theorem run_processEntryFill_outcome :
    FillOutcome c ph f T pos pid w ((processEntryFill c ph f T pos pid).run w).1
      ((processEntryFill c ph f T pos pid).run w).2 := by
  unfold processEntryFill
  rw [run_bind]
  simp only [run_readHandler]
  cases hv : validateEntryForFill ph f (w.handler.getEntry ph) with
  | error result =>
    refine .skipped hv fun e he hel => ?_
    rw [validateEntryForFill_eq_ok.mpr ⟨he, hel⟩] at hv
    cases hv
  | ok e =>
    obtain ⟨he, hel⟩ := validateEntryForFill_eq_ok.mp hv
    simp only [run_bind, run_modifyEntry, calculateExitQuantity_eq]
    by_cases hq : qtyToPlace f T pos e < c.config.minExitOrderQty
    · simp only [hq, if_true]
      exact .belowMinimum he hel hq
    · simp only [hq, if_false, run_bind, run_readHandler]
      have hq' := not_lt.mp hq
      cases hb : w.handler.circuitBreaker.isOpen with
      | true =>
        simp only [circuitBreaker_updateEntry, hb, if_true]
        exact .breakerOpen he hel hq' hb
      | false =>
        simp only [circuitBreaker_updateEntry, hb, Bool.false_eq_true, if_false, run_bind,
          run_recordPositionId, setPlacing, run_modify, pure_eq, run_ret]
        rcases run_placeExitOrder (c := c) ph e (fillRequest f T pos pid e) (partialFill f T)
            { w.updateEntry ph (ExitEntry.attempted f pid) with placing := some ph }
          with ⟨hacc, handle, o, b, hc, hrun⟩ |
            ⟨hr, b, hreach, ⟨reason, hreason, hrun⟩ | ⟨breaker, message, n, hrun⟩⟩
        · have h : FillOutcome c ph f T pos pid w _ _ := .placed he hel hq' hb hc hacc
          simp only [fillRequest, partialFill] at hrun
          rw [hrun]
          convert h using 1
          simp [World.updateEntry, World.accept, ExitHandler.modifyEntry_modifyEntry, fillRequest,
            partialFill]
        · have h : FillOutcome c ph f T pos pid w _ _ := .refused hreason hreach he hel hq' hb hr
          simp only [fillRequest, partialFill] at hrun
          rw [hrun]
          exact h
        · have h : FillOutcome c ph f T pos pid w _ _ :=
            .failed breaker message n hreach he hel hq' hb hr
          simp only [fillRequest, partialFill] at hrun
          rw [hrun]
          convert h using 1
          simp [World.updateEntry, ExitHandler.modifyEntry_modifyEntry]

theorem run_processEntryFill :
    FillStep c ph f T pos pid w ((processEntryFill c ph f T pos pid).run w).2 :=
  ⟨_, run_processEntryFill_outcome ph f T pos pid w⟩

/-! ## What a step leaves alone -/

section frame

variable {ph : String} {f T : Decimal} {pos : Option Decimal} {pid : Option String} {w w' : World β}

@[simp] theorem getEntry_accept (w : World β) (ph id k : String) (r : OrderRequest) :
    (w.accept ph id r).handler.getEntry k = w.handler.getEntry k := rfl

theorem FillStep.getEntry_ne (hs : FillStep c ph f T pos pid w w') {k : String} (hk : k ≠ ph) :
    w'.handler.getEntry k = w.handler.getEntry k := by
  obtain ⟨_, hs⟩ := hs
  cases hs with
  | skipped => rfl
  | belowMinimum | breakerOpen | refused | failed | placed =>
    exact w.handler.getEntry_modifyEntry_ne _ hk

theorem FillStep.placeholders (hs : FillStep c ph f T pos pid w w') (p : String) :
    w'.handler.getPlaceholdersForPrimary p = w.handler.getPlaceholdersForPrimary p := by
  obtain ⟨_, hs⟩ := hs
  cases hs <;> rfl

theorem FillStep.breaker (ha : c.adapter.AcceptsSubmits) (hs : FillStep c ph f T pos pid w w') :
    w'.handler.circuitBreaker = w.handler.circuitBreaker := by
  obtain ⟨_, hs⟩ := hs
  cases hs with
  | skipped | belowMinimum | breakerOpen | placed => rfl
  | refused _ _ _ _ _ _ hr | failed _ _ _ _ _ _ _ _ hr =>
    exact absurd hr (acceptsPlacement_ne_false ha _ _)

/-- The entry after a step, with a provider that accepts every submission. -/
theorem FillStep.entry_accepts (ha : c.adapter.AcceptsSubmits)
    (hs : FillStep c ph f T pos pid w w') {e : ExitEntry} (he : w.handler.getEntry ph = some e)
    (hb : w.handler.circuitBreaker.isOpen = false) :
    ∃ e', w'.handler.getEntry ph = some e' ∧
      (¬ Eligible f e ∧ e' = e ∨
        Eligible f e ∧ qtyToPlace f T pos e < c.config.minExitOrderQty ∧
          e' = e.attempted f none ∨
        Eligible f e ∧ c.config.minExitOrderQty ≤ qtyToPlace f T pos e ∧
          ∃ id, e' = recordPlacement ⟨id, qtyToPlace f T pos e, .open, e.orderType⟩
            (partialFill f T) (e.attempted f pid)) := by
  obtain ⟨_, hs⟩ := hs
  cases hs with
  | skipped _ h => exact ⟨e, he, .inl ⟨h e he, rfl⟩⟩
  | belowMinimum he₀ hel hq =>
    cases he.symm.trans he₀
    exact ⟨_, by simp [World.updateEntry, he], .inr (.inl ⟨hel, hq, rfl⟩)⟩
  | breakerOpen _ _ _ hopen => cases hb.symm.trans hopen
  | refused _ _ _ _ _ _ hr | failed _ _ _ _ _ _ _ _ hr =>
    exact absurd hr (acceptsPlacement_ne_false ha _ _)
  | @placed _ handle o _ he₀ hel hq _ hc =>
    cases he.symm.trans he₀
    obtain ⟨-, hqty⟩ := hc.id_quantity ha
    refine ⟨_, by simp [World.updateEntry, he]; rfl, .inr (.inr ⟨hel, hq, o.id, ?_⟩)⟩
    rw [hqty]
    rfl

end frame

/-! ## All entries of the primary order -/

/-- `processEntries`: a `FillStep` for each of the placeholders. -/
inductive FillSteps (c : Ctx β) (f T : Decimal) (pos : Option Decimal) (pid : Option String) :
    List String → World β → World β → Prop where
  | nil (w : World β) : FillSteps c f T pos pid [] w w
  | cons {ph : String} {rest : List String} {w w' w'' : World β}
      (first : FillStep c ph f T pos pid w w') (others : FillSteps c f T pos pid rest w' w'') :
      FillSteps c f T pos pid (ph :: rest) w w''

theorem run_processEntries (phs : List String) (w : World β) :
    FillSteps c f T pos pid phs w ((processEntries c f T pos pid phs).run w).2 := by
  induction phs generalizing w with
  | nil => exact .nil w
  | cons ph rest ih =>
    simp only [processEntries, run_bind]
    exact .cons (run_processEntryFill ph f T pos pid w) (ih _)

theorem FillSteps.inv {f T : Decimal} {pos : Option Decimal} {pid : Option String}
    {phs : List String} {w : World β} (hs : FillSteps c f T pos pid phs w w') {I : World β → Prop}
    (hstep : ∀ ph ∈ phs, ∀ w w', FillStep c ph f T pos pid w w' → I w → I w') (hw : I w) :
    I w' := by
  induction hs with
  | nil w => exact hw
  | cons first _ ih =>
    refine ih (fun ph hph => hstep ph (List.mem_cons_of_mem _ hph)) ?_
    exact hstep _ List.mem_cons_self _ _ first hw

/-! ## A fill of an exit order -/

/-- The ids of the active ones of `os`. -/
def activeIds (os : List ActualOrder) : List String :=
  (os.filter ActualOrder.isActive).map ActualOrder.orderId

/-- The cancellation loop cancels active orders only, and all of them if it reports so. -/
theorem run_cancelActiveOrders (os : List ActualOrder) (w : World β) :
    ∃ b ids, c.adapter.Reaches w.broker (activeIds os) b ∧
      ((cancelActiveOrders c os).run w).2 =
        { w with broker := b, cancelled := w.cancelled ++ ids } ∧
      ids.Sublist (activeIds os) ∧
      (((cancelActiveOrders c os).run w).1 = true → ids = activeIds os) ∧
      (c.adapter.AcceptsCancels → ((cancelActiveOrders c os).run w).1 = true) := by
  induction os generalizing w with
  | nil => exact ⟨w.broker, [], .refl, by simp [cancelActiveOrders], by simp [activeIds],
      by simp [activeIds], by simp [cancelActiveOrders]⟩
  | cons o os ih =>
    by_cases ha : o.isActive = true
    · have hact : activeIds (o :: os) = o.orderId :: activeIds os := by simp [activeIds, ha]
      rw [hact]
      have hreach :=
        TradingAdapter.Reaches.cancel (.refl : c.adapter.Reaches w.broker [] w.broker) o.orderId
      cases hc : c.adapter.cancelOrder o.orderId w.broker with
      | mk res b =>
        rw [hc] at hreach
        cases res with
        | ok r =>
          obtain ⟨b', ids, hreach', hw, hsub, hall, hacc⟩ :=
            ih { w with broker := b, cancelled := w.cancelled ++ [o.orderId] }
          refine ⟨b', o.orderId :: ids, hreach.trans _ hreach', ?_, ?_, ?_, ?_⟩
          · simp [cancelActiveOrders, ha, cancelOrder, hc, hw]
          · exact hsub.cons_cons _
          · intro hok
            rw [hall]
            simpa [cancelActiveOrders, ha, cancelOrder, hc, Except.isOk, Except.toBool] using hok
          · intro hcan
            simpa [cancelActiveOrders, ha, cancelOrder, hc, Except.isOk, Except.toBool]
              using hacc hcan
        | error e =>
          obtain ⟨b', ids, hreach', hw, hsub, hall, hacc⟩ := ih { w with broker := b }
          refine ⟨b', ids, hreach.trans _ hreach', ?_, ?_, ?_, ?_⟩
          · simp [cancelActiveOrders, ha, cancelOrder, hc, hw]
          · exact hsub.cons _
          · intro hok
            simp [cancelActiveOrders, ha, cancelOrder, hc, Except.isOk, Except.toBool] at hok
          · intro hcan
            obtain ⟨r, b'', hok⟩ := hcan o.orderId w.broker
            rw [hc] at hok
            cases hok
    · have hact : activeIds (o :: os) = activeIds os := by simp [activeIds, ha]
      simpa [cancelActiveOrders, ha, hact] using ih w

/-- The entry is dropped from both maps. -/
def World.dropEntry (w : World β) (ph primary : String) : World β :=
  { w with handler := w.handler.removePendingEntry ph primary }

/-- What the full fill of an order of the entry `e` does. -/
inductive OcoStep (c : Ctx β) (e : ExitEntry) (w : World β) : World β → Prop where
  /-- There is no sibling to cancel. -/
  | alone (h : ∀ s, e.siblingId = some s →
        (w.dropEntry e.placeholderId e.primaryOrderId).handler.getEntry s = none) :
      OcoStep c e w (w.dropEntry e.placeholderId e.primaryOrderId)
  /-- The sibling's orders are cancelled, and it is dropped. -/
  | resolved {s : String} {e' : ExitEntry} {b : β}
      (hreach : c.adapter.Reaches w.broker (activeIds e'.actualOrders) b)
      (hs : e.siblingId = some s)
      (he' : (w.dropEntry e.placeholderId e.primaryOrderId).handler.getEntry s = some e') :
      OcoStep c e w
        ({ w with broker := b, cancelled := w.cancelled ++ activeIds e'.actualOrders }.dropEntry
            e.placeholderId e.primaryOrderId |>.dropEntry s e.primaryOrderId)
  /-- A cancellation failed: the sibling stays tracked. -/
  | retained {s : String} {e' : ExitEntry} {b : β} (ids : List String)
      (hreach : c.adapter.Reaches w.broker (activeIds e'.actualOrders) b)
      (hs : e.siblingId = some s)
      (he' : (w.dropEntry e.placeholderId e.primaryOrderId).handler.getEntry s = some e')
      (hids : ids.Sublist (activeIds e'.actualOrders)) (hr : ¬ c.adapter.AcceptsCancels) :
      OcoStep c e w
        ({ w with broker := b, cancelled := w.cancelled ++ ids }.dropEntry
          e.placeholderId e.primaryOrderId)

theorem run_handleExitLegFill {w : World β} (he : w.handler.findEntryByActualOrder id = some e) :
    ∃ w', (handleExitLegFill c id true).run w = (true, w') ∧ OcoStep c e w w' := by
  simp only [handleExitLegFill, run_bind, run_readHandler, he, Bool.not_true,
    Bool.false_eq_true, if_false, run_modifyHandler]
  cases hs : e.siblingId with
  | none => exact ⟨_, rfl, .alone (by simp [hs])⟩
  | some s =>
    simp only [cancelExitLegOrders, run_bind, run_readHandler]
    cases he' : (w.handler.removePendingEntry e.placeholderId e.primaryOrderId).getEntry s with
    | none =>
      refine ⟨_, rfl, .alone fun s' hs' => ?_⟩
      rw [hs] at hs'
      cases hs'
      exact he'
    | some e' =>
      obtain ⟨b, ids, hreach, hw, hsub, hall, hacc⟩ :=
        run_cancelActiveOrders (c := c) e'.actualOrders
          (w.dropEntry e.placeholderId e.primaryOrderId)
      simp only [run_bind]
      cases hok : ((cancelActiveOrders c e'.actualOrders).run
          (w.dropEntry e.placeholderId e.primaryOrderId)).1 with
      | true =>
        obtain rfl := hall hok
        refine ⟨_, rfl, ?_⟩
        have h : OcoStep c e w _ := .resolved hreach hs he'
        convert h using 1
        simp only [World.dropEntry] at hw hok ⊢
        simp [hok, hw]
      | false =>
        refine ⟨_, rfl, ?_⟩
        have h : OcoStep c e w _ :=
          .retained ids hreach hs he' hsub (fun ha => by simp [hacc ha] at hok)
        convert h using 1
        simp only [World.dropEntry] at hw hok ⊢
        simp [hok, hw]

/-! ## The fill event -/

/-- What `handleFill` does. -/
inductive FillEvent (c : Ctx β) (id : String) (f T : Decimal) (pos : Option Decimal)
    (pid : Option String) (w : World β) : World β → Prop where
  | ignored (h : f ≤ 0 ∨ T ≤ 0) : FillEvent c id f T pos pid w w
  /-- `id` is a primary order with exits. -/
  | primary {w' : World β} (hf : 0 < f) (hT : 0 < T)
      (hp : w.handler.getPlaceholdersForPrimary id ≠ [])
      (hs : FillSteps c f T pos pid (w.handler.getPlaceholdersForPrimary id) w w') :
      FillEvent c id f T pos pid w w'
  /-- `id` is an exit order that filled in part. -/
  | exitPartial {e : ExitEntry} (hf : 0 < f) (hT : 0 < T)
      (hp : w.handler.getPlaceholdersForPrimary id = [])
      (he : w.handler.findEntryByActualOrder id = some e) (hpart : f < T) :
      FillEvent c id f T pos pid w w
  /-- `id` is an exit order that filled. -/
  | exitFull {e : ExitEntry} {w' : World β} (hf : 0 < f) (hT : 0 < T)
      (hp : w.handler.getPlaceholdersForPrimary id = [])
      (he : w.handler.findEntryByActualOrder id = some e) (hfull : T ≤ f) (ho : OcoStep c e w w') :
      FillEvent c id f T pos pid w w'
  /-- `id` is unknown: the fill is buffered. -/
  | unmatched (hf : 0 < f) (hT : 0 < T) (hp : w.handler.getPlaceholdersForPrimary id = [])
      (he : w.handler.findEntryByActualOrder id = none) :
      FillEvent c id f T pos pid w
        { w with
          handler := bufferUnmatchedFill (c.adapter.now w.broker) id f T pos pid w.handler }

theorem run_handleUnmatchedFill_none {f T : Decimal} {pos : Option Decimal} {pid : Option String}
    {w : World β} (hp : w.handler.getPlaceholdersForPrimary id = [])
    (he : w.handler.findEntryByActualOrder id = none) :
    (handleUnmatchedFill c id f T pos pid).run w =
      ([], { w with
        handler := bufferUnmatchedFill (c.adapter.now w.broker) id f T pos pid w.handler }) := by
  have hpend : (bufferUnmatchedFill (c.adapter.now w.broker) id f T pos pid
      w.handler).hasPendingForPrimary id = false := by
    have hp' : (bufferUnmatchedFill (c.adapter.now w.broker) id f T pos pid
        w.handler).getPlaceholdersForPrimary id = [] := hp
    simp [ExitHandler.hasPendingForPrimary, hp']
  simp [handleUnmatchedFill, handleExitLegFill, he, hpend]

theorem run_handleFill (id : String) (f T : Decimal) (pos : Option Decimal) (pid : Option String)
    (w : World β) : FillEvent c id f T pos pid w ((handleFill c id f T pos pid).run w).2 := by
  simp only [handleFill, handleFillInternal, run_locked]
  by_cases hq : f ≤ 0 ∨ T ≤ 0
  · simp only [hq, Bool.or_eq_true, decide_eq_true_eq, if_true]
    exact .ignored hq
  · have hq' : 0 < f ∧ 0 < T := by simpa using hq
    obtain ⟨hf, hT⟩ := hq'
    simp only [hq, Bool.or_eq_true, decide_eq_true_eq, if_false, run_bind, run_readHandler]
    by_cases hp : w.handler.getPlaceholdersForPrimary id = []
    · simp only [hp, List.isEmpty_nil, if_true, run_bind]
      cases he : w.handler.findEntryByActualOrder id with
      | none =>
        rw [run_handleUnmatchedFill_none hp he]
        exact .unmatched hf hT hp he
      | some e =>
        by_cases hfull : T ≤ f
        · obtain ⟨w', hrun, ho⟩ := run_handleExitLegFill (c := c) he
          have hrun' : (handleUnmatchedFill c id f T pos pid).run w = ([], w') := by
            simp [handleUnmatchedFill, hfull, hrun]
          rw [hrun']
          exact .exitFull hf hT hp he hfull ho
        · have hrun' : (handleUnmatchedFill c id f T pos pid).run w = ([], w) := by
            simp [handleUnmatchedFill, handleExitLegFill, he, hfull]
          rw [hrun']
          exact .exitPartial hf hT hp he (not_le.mp hfull)
    · have hne : (w.handler.getPlaceholdersForPrimary id).isEmpty = false := by simpa using hp
      simp only [hne, Bool.false_eq_true, if_false]
      exact .primary hf hT hp (run_processEntries f T pos pid _ w)

end Gateway.Exit
