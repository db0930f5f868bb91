import TradingGateway.Exit.Replace
import TradingGateway.Exit.Steps

/-!
# What the move of a leg does to the world

`replaceExitLeg` as relations between the world before and after, for a handler that runs alone.
Each resting order is moved in turn (`MoveOutcome`): it stays, the provider changes or swaps it, it
is cancelled and placed again, or it is lost.
-/

namespace Gateway

/-- The provider cannot modify an order. -/
def TradingAdapter.CannotModify {β : Type} (ad : TradingAdapter β) : Prop :=
  ∀ id r b, ∃ operation provider,
    (ad.modifyOrder id r b).1 = .error (.unsupportedOperation operation provider)

theorem TradingAdapter.CannotModify.ne_ok {β : Type} {ad : TradingAdapter β}
    (h : ad.CannotModify) {id : String} {r : ModifyOrderRequest} {b b' : β}
    {result : ModifyOrderResult} : ad.modifyOrder id r b ≠ (.ok result, b') := by
  intro hm
  obtain ⟨_, _, herr⟩ := h id r b
  rw [hm] at herr
  cases herr

namespace Exit

open Routine

variable {β : Type} {c : Ctx β}

/-- What the move of the resting order `r` of the entry `ph` to `price` answers, and what it does.
`entry` is a copy of the entry. -/
inductive MoveOutcome (c : Ctx β) (ph : String) (entry : ExitEntry) (r : ActualOrder)
    (price : Decimal) (w : World β) : Except ReplaceExitLegError String → World β → Prop where
  /-- The provider refused, and the order stays. -/
  | kept {b : β} {ids : List String} (err : GatewayError)
      (hreach : c.adapter.Reaches w.broker ids b)
      (h : ¬ (c.adapter.CannotModify ∧ c.adapter.AcceptsCancels)) :
      MoveOutcome c ph entry r price w (.error (.stillProtected err)) { w with broker := b }
  /-- The provider changed the order in place. -/
  | changed {b : β} {result : ModifyOrderResult}
      (hm : c.adapter.modifyOrder r.orderId (modifyRequest entry.orderType price) w.broker =
        (.ok result, b))
      (hid : result.order.id = r.orderId) :
      MoveOutcome c ph entry r price w (.ok result.order.id)
        (World.updateEntry
          { w with
            broker := b
            accepted := w.accepted.map fun a =>
              if a.orderId = r.orderId then a.changed result.order else a }
          ph (recordMovedLeg r result.order.id price))
  /-- The provider put another order in its place. -/
  | swapped {b : β} {result : ModifyOrderResult}
      (hm : c.adapter.modifyOrder r.orderId (modifyRequest entry.orderType price) w.broker =
        (.ok result, b))
      (hid : result.order.id ≠ r.orderId) :
      MoveOutcome c ph entry r price w (.ok result.order.id)
        (World.updateEntry
          { w with
            broker := b
            accepted := w.accepted ++ [.ofOrder ph result.order]
            cancelled := w.cancelled ++ [r.orderId] }
          ph (recordMovedLeg r result.order.id price))
  /-- The order is cancelled, and what remained of it is placed again. -/
  | replaced {b b' : β} {ids : List String} {handle : OrderHandle}
      (hreach : c.adapter.Reaches w.broker ids b)
      (hs : c.adapter.submitOrder (buildReplacement { entry with triggerPrice := price } r
        (w.handler.placedCount ph)) b = (.ok handle, b')) :
      MoveOutcome c ph entry r price w (.ok handle.id)
        (World.updateEntry
          (World.accept { w with broker := b', cancelled := w.cancelled ++ [r.orderId] } ph
            handle.id (buildReplacement { entry with triggerPrice := price } r
              (w.handler.placedCount ph)))
          ph (recordMovedLeg r handle.id price))
  | restored {b b' : β} {ids : List String} {handle : OrderHandle} (err : GatewayError)
      (hreach : c.adapter.Reaches w.broker ids b)
      (hs : c.adapter.submitOrder (buildReplacement entry r (w.handler.placedCount ph)) b =
        (.ok handle, b'))
      (hr : ¬ c.adapter.AcceptsSubmits) :
      MoveOutcome c ph entry r price w (.error (.stillProtected err))
        (World.updateEntry
          (World.accept { w with broker := b', cancelled := w.cancelled ++ [r.orderId] } ph
            handle.id (buildReplacement entry r (w.handler.placedCount ph)))
          ph (recordMovedLeg r handle.id entry.triggerPrice))
  /-- The order is cancelled, and the provider refused to place it again. -/
  | lost {b : β} {ids : List String} (replaceError restoreError : GatewayError)
      (hreach : c.adapter.Reaches w.broker ids b) (hr : ¬ c.adapter.AcceptsSubmits) :
      MoveOutcome c ph entry r price w
        (.error (.unprotected r.orderId replaceError restoreError))
        (World.updateEntry { w with broker := b, cancelled := w.cancelled ++ [r.orderId] } ph
          (updateEntryToFailed restoreError.display 0))

/-- The world after the move of the resting order `r`, whatever the answer. -/
def MoveStep (c : Ctx β) (ph : String) (entry : ExitEntry) (r : ActualOrder) (w w' : World β) :
    Prop := ∃ price res, MoveOutcome c ph entry r price w res w'

/-- The resting orders are moved one by one; an error ends the sequence. -/
inductive MoveSteps (c : Ctx β) (ph : String) (entry : ExitEntry) :
    List ActualOrder → World β → World β → Prop where
  | stop (rs : List ActualOrder) (w : World β) : MoveSteps c ph entry rs w w
  | cons {r : ActualOrder} {rs : List ActualOrder} {w w' w'' : World β}
      (first : MoveStep c ph entry r w w') (others : MoveSteps c ph entry rs w' w'') :
      MoveSteps c ph entry (r :: rs) w w''

/-- The same with the answers: the ids of the moved orders, or the error. -/
inductive MoveOutcomes (c : Ctx β) (ph : String) (entry : ExitEntry) (price : Decimal) :
    List ActualOrder → World β → Except ReplaceExitLegError (List String) → World β → Prop where
  | done (w : World β) : MoveOutcomes c ph entry price [] w (.ok []) w
  | stopped {r : ActualOrder} {w w' : World β} {err : ReplaceExitLegError} (rs : List ActualOrder)
      (first : MoveOutcome c ph entry r price w (.error err) w') :
      MoveOutcomes c ph entry price (r :: rs) w (.error err) w'
  | moved {r : ActualOrder} {rs : List ActualOrder} {w w' w'' : World β} {id : String}
      {res : Except ReplaceExitLegError (List String)}
      (first : MoveOutcome c ph entry r price w (.ok id) w')
      (others : MoveOutcomes c ph entry price rs w' res w'') :
      MoveOutcomes c ph entry price (r :: rs) w (res.map (id :: ·)) w''

variable (ph : String) {entry : ExitEntry} {w w' : World β} {rs os : List ActualOrder}
  {previousId : String} {replacement o : ActualOrder}

theorem MoveOutcomes.steps {ph : String} {entry : ExitEntry} {price : Decimal}
    {rs : List ActualOrder} {w w' : World β} {res : Except ReplaceExitLegError (List String)}
    (h : MoveOutcomes c ph entry price rs w res w') : MoveSteps c ph entry rs w w' := by
  induction h with
  | done w => exact .stop [] w
  | stopped rs first => exact .cons ⟨_, _, first⟩ (.stop rs _)
  | moved first _ ih => exact .cons ⟨_, _, first⟩ ih

/-- A resubmission is accepted and recorded, or refused. -/
theorem run_resubmit (entry : ExitEntry) (r : ActualOrder) (w : World β) :
    (∃ handle b, c.adapter.submitOrder (buildReplacement entry r (w.handler.placedCount ph))
        w.broker = (.ok handle, b) ∧
      (resubmit c ph entry r).run w =
        (.ok handle, ({ w with broker := b }.accept ph handle.id
          (buildReplacement entry r (w.handler.placedCount ph))).updateEntry ph
            (recordMovedLeg r handle.id entry.triggerPrice))) ∨
    ∃ err b, ¬ c.adapter.AcceptsSubmits ∧ c.adapter.Reaches w.broker [] b ∧
      (resubmit c ph entry r).run w = (.error err, { w with broker := b }) := by
  simp only [resubmit, run_bind, run_readHandler, submitOrder, run_call]
  have hreach := TradingAdapter.Reaches.submit (.refl : c.adapter.Reaches w.broker [] w.broker)
    (buildReplacement entry r (w.handler.placedCount ph))
  cases hs : c.adapter.submitOrder (buildReplacement entry r (w.handler.placedCount ph))
      w.broker with
  | mk res b =>
    rw [hs] at hreach
    cases res with
    | ok handle => exact .inl ⟨handle, b, rfl, rfl⟩
    | error err =>
      refine .inr ⟨err, b, fun ha => ?_, hreach, rfl⟩
      obtain ⟨handle, b', hok⟩ := ha.accepts (buildReplacement entry r (w.handler.placedCount ph))
        w.broker
      rw [hs] at hok
      cases hok

/-- The provider's state `b` is that after it refused to modify the order. -/
theorem run_cancelAndReplace (entry : ExitEntry) (r : ActualOrder) (price : Decimal) {b : β}
    {ids : List String} (hreach : c.adapter.Reaches w.broker ids b) :
    MoveOutcome c ph entry r price w
      ((cancelAndReplace c ph entry r price).run { w with broker := b }).1
      ((cancelAndReplace c ph entry r price).run { w with broker := b }).2 := by
  simp only [cancelAndReplace, run_bind, cancelOrder, run_call]
  have hreach' := hreach.cancel r.orderId
  cases hc : c.adapter.cancelOrder r.orderId b with
  | mk res b₀ =>
    rw [hc] at hreach'
    cases res with
    | error e =>
      refine .kept e hreach' fun hcan => ?_
      obtain ⟨_, _, hok⟩ := hcan.2 r.orderId b
      rw [hc] at hok
      cases hok
    | ok result =>
      simp only [run_bind]
      rcases run_resubmit (c := c) ph { entry with triggerPrice := price } r
          { w with broker := b₀, cancelled := w.cancelled ++ [r.orderId] }
        with ⟨handle, b₁, hs, hrun⟩ | ⟨err, b₁, hr, hreach₁, hrun⟩
      · rw [hrun]
        exact .replaced hreach' hs
      · -- the replacement is refused: the original order is placed again
        rw [hrun]
        simp only [run_bind]
        rcases run_resubmit (c := c) ph entry r
            { w with broker := b₁, cancelled := w.cancelled ++ [r.orderId] }
          with ⟨handle, b₂, hs, hrun'⟩ | ⟨err', b₂, -, hreach₂, hrun'⟩
        · rw [hrun']
          exact .restored _ (hreach'.trans _ hreach₁) hs hr
        · rw [hrun']
          exact .lost err err' ((hreach'.trans _ hreach₁).trans _ hreach₂) hr

theorem run_moveRestingOrder (entry : ExitEntry) (r : ActualOrder) (price : Decimal) (w : World β) :
    MoveOutcome c ph entry r price w ((moveRestingOrder c ph entry r price).run w).1
      ((moveRestingOrder c ph entry r price).run w).2 := by
  simp only [moveRestingOrder, run_bind, modifyOrder, run_call]
  have hreach := TradingAdapter.Reaches.modify (.refl : c.adapter.Reaches w.broker [] w.broker)
    r.orderId (modifyRequest entry.orderType price)
  cases hm : c.adapter.modifyOrder r.orderId (modifyRequest entry.orderType price) w.broker with
  | mk res b =>
    rw [hm] at hreach
    cases res with
    | ok result =>
      by_cases hid : result.order.id = r.orderId
      · simp only [hid, if_true]
        have h : MoveOutcome c ph entry r price w _ _ := .changed hm hid
        rw [hid] at h
        exact h
      · simp only [hid, if_false]
        exact .swapped hm hid
    | error e =>
      have hkept : (∀ operation provider, e ≠ .unsupportedOperation operation provider) →
          ¬ (c.adapter.CannotModify ∧ c.adapter.AcceptsCancels) := by
        intro hne hcan
        obtain ⟨operation, provider, herr⟩ :=
          hcan.1 r.orderId (modifyRequest entry.orderType price) w.broker
        rw [hm] at herr
        exact hne operation provider (Except.error.inj herr)
      cases e with
      | unsupportedOperation operation provider =>
        exact run_cancelAndReplace ph entry r price hreach
      | _ => exact .kept _ hreach (hkept (by simp))

theorem run_moveRestingOrders_cons (entry : ExitEntry) (price : Decimal) (r : ActualOrder)
    (rs : List ActualOrder) (w : World β) :
    (moveRestingOrders c ph entry price (r :: rs)).run w =
      match (moveRestingOrder c ph entry r price).run w with
      | (.error err, w') => (.error err, w')
      | (.ok id, w') =>
        (((moveRestingOrders c ph entry price rs).run w').1.map (id :: ·),
          ((moveRestingOrders c ph entry price rs).run w').2) := by
  simp only [moveRestingOrders, run_bind]
  generalize (moveRestingOrder c ph entry r price).run w = first
  obtain ⟨res, w'⟩ := first
  cases res with
  | error e => rfl
  | ok orderId =>
    simp only [run_bind]
    generalize (moveRestingOrders c ph entry price rs).run w' = rest
    obtain ⟨res, w''⟩ := rest
    cases res <;> rfl

theorem run_moveRestingOrders (entry : ExitEntry) (price : Decimal) (rs : List ActualOrder)
    (w : World β) :
    MoveOutcomes c ph entry price rs w ((moveRestingOrders c ph entry price rs).run w).1
      ((moveRestingOrders c ph entry price rs).run w).2 := by
  induction rs generalizing w with
  | nil => exact .done w
  | cons r rs ih =>
    have hfirst := run_moveRestingOrder (c := c) ph entry r price w
    rw [run_moveRestingOrders_cons]
    generalize (moveRestingOrder c ph entry r price).run w = first at hfirst ⊢
    obtain ⟨res, w'⟩ := first
    cases res with
    | error e => exact .stopped rs hfirst
    | ok orderId => exact .moved hfirst (ih w')

theorem run_replaceExitLeg_cons {ph : String} {r : ActualOrder}
    (he : w.handler.getEntry ph = some entry)
    (hrs : entry.actualOrders.filter ActualOrder.isActive = r :: rs) (price : Decimal) :
    (replaceExitLeg c ph price).run w =
      (((moveRestingOrders c ph entry price (r :: rs)).run w).1.map fun ids => ⟨ids, price⟩,
        ((moveRestingOrders c ph entry price (r :: rs)).run w).2) := by
  simp only [replaceExitLeg, run_locked, run_bind, run_readHandler, he, hrs,
    List.isEmpty_cons, Bool.false_eq_true, if_false]
  generalize (moveRestingOrders c ph entry price (r :: rs)).run w = run
  obtain ⟨res, w'⟩ := run
  cases res <;> rfl

/-- `replaceExitLeg` moves the active orders that the entry lists; without one it does nothing. -/
theorem run_replaceExitLeg_outcome {ph : String} (he : w.handler.getEntry ph = some entry)
    (price : Decimal) :
    (entry.actualOrders.filter ActualOrder.isActive = [] ∧
      ∃ err, (replaceExitLeg c ph price).run w = (.error (.stillProtected err), w)) ∨
    ∃ res, MoveOutcomes c ph entry price (entry.actualOrders.filter ActualOrder.isActive) w res
        ((replaceExitLeg c ph price).run w).2 ∧
      ((replaceExitLeg c ph price).run w).1 = res.map fun ids => ⟨ids, price⟩ := by
  cases hrs : entry.actualOrders.filter ActualOrder.isActive with
  | nil =>
    refine .inl ⟨rfl, .orderNotModifiable ph
      (entry.orderType.display ++ " leg has no resting order to move"), ?_⟩
    simp only [replaceExitLeg, run_locked, run_bind, run_readHandler, he, hrs]
    rfl
  | cons r rs =>
    rw [run_replaceExitLeg_cons he hrs]
    exact .inr ⟨_, run_moveRestingOrders ph entry price (r :: rs) w, rfl⟩

theorem run_replaceExitLeg (price : Decimal) (w : World β) :
    ((replaceExitLeg c ph price).run w).2 = w ∨
      ∃ entry, w.handler.getEntry ph = some entry ∧
        MoveSteps c ph entry (entry.actualOrders.filter ActualOrder.isActive) w
          ((replaceExitLeg c ph price).run w).2 := by
  cases he : w.handler.getEntry ph with
  | none =>
    refine .inl ?_
    simp only [replaceExitLeg, run_locked, run_bind, run_readHandler, he]
    rfl
  | some entry =>
    rcases run_replaceExitLeg_outcome (c := c) he price with ⟨-, err, hrun⟩ | ⟨res, hmoves, -⟩
    · exact .inl (by rw [hrun])
    · exact .inr ⟨entry, rfl, hmoves.steps⟩

theorem MoveSteps.inv {ph : String} (hs : MoveSteps c ph entry rs w w') {I : World β → Prop}
    (hstep : ∀ r ∈ rs, ∀ w w', MoveStep c ph entry r w w' → I w → I w') (hw : I w) : I w' := by
  induction hs with
  | stop rs w => exact hw
  | cons first _ ih =>
    refine ih (fun r hr => hstep r (List.mem_cons_of_mem _ hr)) ?_
    exact hstep _ List.mem_cons_self _ _ first hw

/-! ## The orders that a moved leg lists -/

/-- The slot of the moved order gets the new one; every other order stays listed. -/
theorem mem_replaceSlot (h : o ∈ replaceSlot previousId replacement os) :
    o = replacement ∨ o ∈ os := by
  induction os with
  | nil => exact .inl (by simpa [replaceSlot] using h)
  | cons o' os ih =>
    unfold replaceSlot at h
    split at h
    · rcases List.mem_cons.mp h with h | h
      · exact .inl h
      · exact .inr (List.mem_cons_of_mem _ h)
    · rcases List.mem_cons.mp h with h | h
      · exact .inr (List.mem_cons.mpr (.inl h))
      · exact (ih h).imp id (List.mem_cons_of_mem _)

theorem replacement_mem_replaceSlot (previousId : String) (replacement : ActualOrder)
    (os : List ActualOrder) : replacement ∈ replaceSlot previousId replacement os := by
  induction os with
  | nil => simp [replaceSlot]
  | cons o' os ih =>
    unfold replaceSlot
    split
    · exact List.mem_cons_self
    · exact List.mem_cons_of_mem _ ih

theorem mem_replaceSlot_of_ne (h : o ∈ os) (hne : o.orderId ≠ previousId) :
    o ∈ replaceSlot previousId replacement os := by
  induction os with
  | nil => cases h
  | cons o' os ih =>
    unfold replaceSlot
    split
    · rename_i hid
      rcases List.mem_cons.mp h with rfl | h
      · exact absurd hid hne
      · exact List.mem_cons_of_mem _ h
    · rcases List.mem_cons.mp h with rfl | h
      · exact List.mem_cons_self
      · exact List.mem_cons_of_mem _ (ih h)

theorem replaceSlot_length (replacement : ActualOrder) (h : ∃ o ∈ os, o.orderId = previousId) :
    (replaceSlot previousId replacement os).length = os.length := by
  induction os with
  | nil => simp at h
  | cons o os ih =>
    unfold replaceSlot
    split
    · rfl
    · rename_i hne
      obtain ⟨o', ho', hid⟩ := h
      rcases List.mem_cons.mp ho' with rfl | ho'
      · exact absurd hid hne
      · rw [List.length_cons, List.length_cons, ih ⟨o', ho', hid⟩]

theorem recordMovedLeg_actualOrders (r : ActualOrder) (id : String) (price : Decimal)
    (e : ExitEntry) :
    (recordMovedLeg r id price e).actualOrders =
      replaceSlot r.orderId ⟨id, r.remainingQty, .open, r.legType⟩ e.actualOrders := by
  unfold recordMovedLeg
  cases hst : e.status <;>
    simp [ExitEntry.actualOrders, ExitEntryStatus.actualOrders, hst]

/-- The bracket over 10 has filled: the stop-loss is the order `o0`, the take-profit `o1`. -/
def protectedBracket : World (List (String × OrderRequest)) :=
  ((handleFill .simulated "p" 10 10 none none).run
    ((register .simulated "p" sampleBracket).run (World.initial {} [])).2).2

theorem protectedBracket_stopLoss : ∃ e, protectedBracket.handler.getEntry "exit:sl:p" = some e ∧
    e.status = .placed [⟨"o0", 10, .open, .stopLoss⟩] ∧ e.orderType = .stopLoss ∧
      e.triggerPrice = 90 := by
  have h : (protectedBracket.handler.getEntry "exit:sl:p").map
      (fun e => (e.status, e.orderType, e.triggerPrice)) =
        some (.placed [⟨"o0", 10, .open, .stopLoss⟩], .stopLoss, 90) := by decide +kernel
  obtain ⟨e, he, heq⟩ := Option.map_eq_some_iff.mp h
  simp only [Prod.mk.injEq] at heq
  exact ⟨e, he, heq⟩

end Exit

end Gateway
