import TradingGateway.Adapter
import TradingGateway.Trailing.Steps

/-!
# Stops through the trading adapter (`crates/core/src/trailing_stop/adapter_executor.rs`)

The executor that places stops as orders of a `TradingAdapter`. It modifies a stop in two calls: it
cancels the order, then submits another one. If the second call fails, or the first one reports that
the order has filled, no stop is left and the modification is an error.

`adjust_stop_order` then asks for the status of the old order, but looks only at its stop price. So
the entry stays active in every case (`run_adjustStopOrder_error`), and it may name an order that is
gone.

* `active_stop_live_iff`: when an active entry names a live order after the adjustment.
-/

namespace Gateway

open Routine

variable {β : Type}

/-- `live b` are the orders at work at the provider in the state `b`. Neither a submission that
fails nor a question changes whether the order `id` is one of them. Nothing is assumed of a
cancellation, and nothing of a submission that succeeds: the new order may be dead at once. -/
structure TradingAdapter.KeepsBook (ad : TradingAdapter β) (live : β → String → Prop)
    (id : String) : Prop where
  refused : ∀ {r b e b'}, ad.submitOrder r b = (.error e, b') → (live b' id ↔ live b id)
  asked : ∀ b, live (ad.getOrder id b).2 id ↔ live b id
  reports : ad.ReportsAsked

namespace Trailing

/-! ## The executor -/

/-- A stop market order: the limit price of the request is not used. -/
def buildStopOrder (request : StopOrderRequest) : OrderRequest where
  symbol := request.symbol
  side := request.side
  quantity := request.quantity
  orderType := .stop
  stopPrice := some request.stopPrice
  reduceOnly := true

/-- The stop that replaces the one of the request. -/
def ModifyStopRequest.replacement (request : ModifyStopRequest) : StopOrderRequest where
  symbol := request.symbol
  side := request.side
  quantity := request.quantity
  stopPrice := request.newStopPrice
  limitPrice := request.newLimitPrice

/-- The order still works at the provider. -/
def isWorking : OrderStatus → Bool
  | .pending | .open | .partiallyFilled => true
  | _ => false

def adapterStopOrderExecutor (ad : TradingAdapter β) : StopOrderExecutor β where
  placeStopOrder request b :=
    match ad.submitOrder (buildStopOrder request) b with
    | (.ok handle, b) => (.ok ⟨handle.id, request.stopPrice⟩, b)
    | (.error e, b) => (.error e, b)
  modifyStopOrder request b :=
    match ad.cancelOrder request.orderId b with
    | (.error e, b) => (.error e, b)
    | (.ok cancelResult, b) =>
      if cancelResult.order.status = .filled then
        (.error (.internal ("Stop order " ++ request.orderId ++
          " already filled — trailing stop triggered before modification")), b)
      else
        match ad.submitOrder (buildStopOrder request.replacement) b with
        | (.ok handle, b) => (.ok ⟨handle.id, request.newStopPrice⟩, b)
        -- The old stop is cancelled by now.
        | (.error placeErr, b) => (.error placeErr, b)
  cancelStopOrder orderId _ b :=
    -- An answer without success is only logged.
    match ad.cancelOrder orderId b with
    | (.ok _, b) => (.ok (), b)
    | (.error e, b) => (.error e, b)
  getStopOrderStatus orderId _ b :=
    match ad.getOrder orderId b with
    | (.ok order, b) => (.ok ⟨order.id, order.stopPrice.getD 0, isWorking order.status⟩, b)
    | (.error e, b) => (.error e, b)

/-! ## A modification -/

/-- The stop is cancelled before it filled, and the provider answers the submission of the new one
with `handle`. -/
def Replaces (ad : TradingAdapter β) (request : ModifyStopRequest) (b : β) (handle : OrderHandle)
    (b' : β) : Prop :=
  ∃ cancelResult b₁, ad.cancelOrder request.orderId b = (.ok cancelResult, b₁) ∧
    cancelResult.order.status ≠ .filled ∧
    ad.submitOrder (buildStopOrder request.replacement) b₁ = (.ok handle, b')

variable {ad : TradingAdapter β} {live : β → String → Prop} {request : ModifyStopRequest} {b b' : β}

/-- A modification that succeeds has replaced the stop by the one that it names. -/
theorem modifyStopOrder_ok {placed : PlacedStopOrder}
    (h : (adapterStopOrderExecutor ad).modifyStopOrder request b = (.ok placed, b')) :
    ∃ handle, Replaces ad request b handle b' ∧ placed.orderId = handle.id := by
  simp only [adapterStopOrderExecutor] at h
  split at h
  · cases h
  · rename_i cancelResult b₁ hcancel
    split_ifs at h with hfilled
    · cases h
    · split at h
      · rename_i handle b₂ hsubmit
        cases h
        exact ⟨handle, ⟨cancelResult, b₁, hcancel, hfilled, hsubmit⟩, rfl⟩
      · cases h

/-- The calls of a modification have one outcome. -/
theorem Replaces.modifyStopOrder {handle : OrderHandle} (h : Replaces ad request b handle b') :
    (adapterStopOrderExecutor ad).modifyStopOrder request b =
      (.ok ⟨handle.id, request.newStopPrice⟩, b') := by
  obtain ⟨cancelResult, b₁, hcancel, hfilled, hsubmit⟩ := h
  simp only [adapterStopOrderExecutor, hcancel, if_neg hfilled, hsubmit]

/-- After a modification that fails the old stop is live if the cancellation left it so. -/
theorem modifyStopOrder_error {e : GatewayError} (hbook : ad.KeepsBook live request.orderId)
    (h : (adapterStopOrderExecutor ad).modifyStopOrder request b = (.error e, b')) :
    live b' request.orderId ↔ live (ad.cancelOrder request.orderId b).2 request.orderId := by
  simp only [adapterStopOrderExecutor] at h
  split at h
  · rename_i e₁ b₁ hcancel
    cases h
    rw [hcancel]
  · rename_i cancelResult b₁ hcancel
    split_ifs at h with hfilled
    · cases h
      rw [hcancel]
    · split at h
      · cases h
      · rename_i e₁ b₂ hsubmit
        cases h
        rw [hcancel, hbook.refused hsubmit]

/-- A status is about the stop that was asked for, and the question leaves it as it was. -/
theorem getStopOrderStatus_keeps {orderId : String} (hbook : ad.KeepsBook live orderId)
    (symbol : String) :
    (live ((adapterStopOrderExecutor ad).getStopOrderStatus orderId symbol b).2 orderId ↔
      live b orderId) ∧
    ∀ status,
      ((adapterStopOrderExecutor ad).getStopOrderStatus orderId symbol b).1 = .ok status →
      status.orderId = orderId := by
  have hasked := hbook.asked b
  simp only [adapterStopOrderExecutor]
  split
  · rename_i order b₁ hget
    rw [hget] at hasked
    refine ⟨hasked, fun status hstatus => ?_⟩
    cases hstatus
    exact hbook.reports hget
  · rename_i e b₁ hget
    rw [hget] at hasked
    exact ⟨hasked, fun status hstatus => by cases hstatus⟩

/-! ## An adjustment -/

section adjust

variable {c : Ctx β} {w : World β} {ph stopOrderId symbol : String} {side : Side}
  {quantity newStopLevel peak level : Decimal} {e : TrailingEntry}

theorem run_adjustStopOrder_open (hopen : w.handler.isCircuitBreakerOpen = true) :
    ((adjustStopOrder c ph stopOrderId symbol newStopLevel side quantity).run w).2 = w := by
  unfold adjustStopOrder
  simp only [run_bind, run_readHandler, hopen, if_true, pure_eq, run_ret]

section closed

variable (hclosed : w.handler.isCircuitBreakerOpen = false)
  (hentry : w.handler.getEntry ph = some e) (hactive : e.status = .active stopOrderId peak level)

include hclosed hentry hactive

theorem run_adjustStopOrder_ok {placed : PlacedStopOrder}
    (hmodify : c.executor.modifyStopOrder
      ⟨stopOrderId, symbol, side, quantity, newStopLevel, newStopLevel⟩ w.outside =
        (.ok placed, b)) :
    let w' := ((adjustStopOrder c ph stopOrderId symbol newStopLevel side quantity).run w).2
    w'.outside = b ∧ w'.handler.getEntry ph =
      some (e.setStatus (.active placed.orderId peak placed.stopPrice)) := by
  unfold adjustStopOrder
  simp only [run_bind, run_readHandler, hclosed, Bool.false_eq_true, if_false,
    modifyStopOrder, run_call, hmodify, run_modifyHandler, pure_eq,
    run_ret]
  refine ⟨rfl, TrailingStopHandler.getEntry_updateStatus_self _ hentry ?_⟩
  simp only [movedStatus, hactive]

/-- After a modification that failed the entry is active all the same: it names the old stop, or
the one whose status was reported. -/
theorem run_adjustStopOrder_error {err : GatewayError}
    (hmodify : c.executor.modifyStopOrder
      ⟨stopOrderId, symbol, side, quantity, newStopLevel, newStopLevel⟩ w.outside =
        (.error err, b)) :
    let w' := ((adjustStopOrder c ph stopOrderId symbol newStopLevel side quantity).run w).2
    w'.outside = (c.executor.getStopOrderStatus stopOrderId symbol b).2 ∧
      ∃ e' id level', w'.handler.getEntry ph = some e' ∧ e'.status = .active id peak level' ∧
        (id = stopOrderId ∨ ∃ status,
          (c.executor.getStopOrderStatus stopOrderId symbol b).1 = .ok status ∧
            status.orderId = id) := by
  unfold adjustStopOrder
  simp only [run_bind, run_readHandler, hclosed, Bool.false_eq_true, if_false,
    modifyStopOrder, run_call, hmodify, recordStopOrderFailure, run_modify]
  -- the world after the failure is recorded
  generalize hw₁ : World.mk _ b w.live = w₁
  have hentry₁ : w₁.handler.getEntry ph = some e := hw₁ ▸ hentry
  have hasked : w₁.outside = b := hw₁ ▸ rfl
  obtain ⟨hanswer, hhandler, houtside⟩ :=
    run_getStopOrderStatus (c := c) w₁ ph stopOrderId symbol
  rw [hasked] at hanswer houtside
  rw [← hanswer, ← houtside]
  rw [← hhandler] at hentry₁
  cases hresult : ((getStopOrderStatus c ph stopOrderId symbol).run w₁).1 with
  | error verifyErr => exact ⟨rfl, e, stopOrderId, level, hentry₁, hactive, .inl rfl⟩
  | ok status =>
    dsimp only
    by_cases hprice : status.stopPrice = newStopLevel
    · rw [if_pos hprice]
      simp only [run_bind, run_modifyHandler, pure_eq, run_ret, true_and]
      refine ⟨e.setStatus (.active status.orderId peak status.stopPrice), _, _,
        TrailingStopHandler.getEntry_updateStatus_self _ hentry₁ ?_, rfl, .inr ⟨status, rfl, rfl⟩⟩
      simp only [movedStatus, hactive]
    · rw [if_neg hprice]
      exact ⟨rfl, e, stopOrderId, level, hentry₁, hactive, .inl rfl⟩

end closed

end adjust

/-! ## Active entries and live stops -/

/-- If the entry is active, it names a live order. -/
def StopIsLive (live : β → String → Prop) (ph : String) (w : World β) : Prop :=
  ∀ {e id peak level}, w.handler.getEntry ph = some e → e.status = .active id peak level →
    live w.outside id

theorem stopIsLive_iff {w : World β} {ph id : String} {peak level : Decimal} {e : TrailingEntry}
    (hentry : w.handler.getEntry ph = some e) (hactive : e.status = .active id peak level) :
    StopIsLive live ph w ↔ live w.outside id := by
  refine ⟨fun h => h hentry hactive, fun h e' id' peak' level' hentry' hactive' => ?_⟩
  rw [hentry] at hentry'
  cases hentry'
  rw [hactive] at hactive'
  cases hactive'
  exact h

theorem StopIsLive.of_status {w : World β} {ph id : String} {peak level : Decimal}
    (h : StopIsLive live ph w)
    (hstatus : (w.handler.getEntry ph).map TrailingEntry.status = some (.active id peak level)) :
    live w.outside id := by
  obtain ⟨e, hentry, hactive⟩ := Option.map_eq_some_iff.mp hstatus
  exact h hentry hactive

/-- After an adjustment through the adapter the active entry names a live order exactly if nothing
was sent, the stop was replaced by one that is live, or it was not replaced and is live after the
cancellation. -/
theorem active_stop_live_iff {stopOrderId : String} (hbook : ad.KeepsBook live stopOrderId)
    {c : Ctx β} (hexecutor : c.executor = adapterStopOrderExecutor ad) {w : World β} {ph : String}
    {peak level : Decimal} {e : TrailingEntry}
    (hentry : w.handler.getEntry ph = some e) (hactive : e.status = .active stopOrderId peak level)
    (hlive : live w.outside stopOrderId) (symbol : String) (newStopLevel : Decimal) (side : Side)
    (quantity : Decimal) :
    let replaces := Replaces ad
      ⟨stopOrderId, symbol, side, quantity, newStopLevel, newStopLevel⟩ w.outside
    StopIsLive live ph
        ((adjustStopOrder c ph stopOrderId symbol newStopLevel side quantity).run w).2 ↔
      w.handler.isCircuitBreakerOpen = true ∨
        (∃ handle b, replaces handle b ∧ live b handle.id) ∨
        live (ad.cancelOrder stopOrderId w.outside).2 stopOrderId ∧
          ∀ handle b, ¬ replaces handle b := by
  intro replaces
  by_cases hopen : w.handler.isCircuitBreakerOpen = true
  · rw [run_adjustStopOrder_open hopen, stopIsLive_iff hentry hactive]
    exact iff_of_true hlive (.inl hopen)
  rw [or_iff_right hopen]
  rw [Bool.not_eq_true] at hopen
  cases hmodify : c.executor.modifyStopOrder
      ⟨stopOrderId, symbol, side, quantity, newStopLevel, newStopLevel⟩ w.outside with
  | mk result b =>
    have hexec := hmodify
    rw [hexecutor] at hexec
    cases result with
    | ok placed =>
      obtain ⟨houtside, hentry'⟩ := run_adjustStopOrder_ok hopen hentry hactive hmodify
      obtain ⟨handle, hreplaces, hid⟩ := modifyStopOrder_ok hexec
      rw [stopIsLive_iff hentry' rfl, houtside, hid]
      refine ⟨fun h => .inl ⟨handle, b, hreplaces, h⟩, ?_⟩
      rintro (⟨handle', b', hreplaces', h⟩ | ⟨-, hnot⟩)
      · -- the provider has answered once
        have hsame := hreplaces'.modifyStopOrder.symm.trans hexec
        simp only [Prod.mk.injEq, Except.ok.injEq] at hsame
        rw [← hid, ← hsame.1, ← hsame.2]
        exact h
      · exact absurd hreplaces (hnot handle b)
    | error err =>
      obtain ⟨houtside, e', id, level', hentry', hactive', hid⟩ :=
        run_adjustStopOrder_error hopen hentry hactive hmodify
      have hold := modifyStopOrder_error hbook hexec
      have hnot (handle : OrderHandle) (b' : β) : ¬ replaces handle b' := by
        intro h
        cases h.modifyStopOrder.symm.trans hexec
      rw [hexecutor] at houtside hid
      obtain ⟨hkeeps, hreported⟩ := getStopOrderStatus_keeps hbook (b := b) symbol
      have hsame : id = stopOrderId := by
        rcases hid with hid | ⟨status, hstatus, hid⟩
        · exact hid
        · rw [← hid, hreported status hstatus]
      rw [stopIsLive_iff hentry' hactive', houtside, hsame, hkeeps, or_iff_right, and_iff_left hnot]
      · exact hold
      · rintro ⟨handle, b', h, -⟩
        exact hnot handle b' h

/-! ## A provider that goes down -/

/-- The orders that a provider accepted, those of them that are live, and how many more it will
accept. -/
structure OrderBook where
  orders : List (String × OrderRequest) := []
  live : List String := []
  accepts : ℕ

def OrderBook.adapter : TradingAdapter OrderBook where
  submitOrder r b :=
    if b.accepts = 0 then (.error (.providerUnavailable "down"), b)
    else
      let id := "s" ++ toString b.orders.length
      (.ok { id, status := .open }, ⟨(id, r) :: b.orders, id :: b.live, b.accepts - 1⟩)
  getOrder id b :=
    match b.orders.lookup id with
    | some r =>
      (.ok { r.toOrder id with status := if id ∈ b.live then .open else .cancelled }, b)
    | none => (.error (.orderNotFound id), b)
  modifyOrder _ _ b := (.error (.unsupportedOperation "modify_order" "book"), b)
  cancelOrder id b :=
    match b.orders.lookup id with
    | some r =>
      (.ok ⟨true, { r.toOrder id with status := .cancelled }⟩,
        { b with live := b.live.filter (· ≠ id) })
    | none => (.error (.orderNotFound id), b)
  now b := b.orders.length
  sleep _ b := b

theorem OrderBook.keepsBook (id : String) :
    OrderBook.adapter.KeepsBook (fun b id => id ∈ b.live) id where
  refused {r b e b'} h := by
    simp only [OrderBook.adapter] at h
    split_ifs at h <;> cases h
    rfl
  asked b := by
    simp only [OrderBook.adapter]
    split <;> rfl
  reports {id b o b'} h := by
    simp only [OrderBook.adapter] at h
    split at h <;> cases h
    rfl

/-- The handler with stops in the book. -/
def Ctx.booked : Ctx OrderBook where
  config := {}
  platform := .mock
  executor := adapterStopOrderExecutor OrderBook.adapter
  priceSource :=
    { ensureSubscribed := fun _ b => (.ok (), b)
      currentPrice := fun _ b => (.ok 100, b)
      subscribe := fun _ b => (.ok (), b)
      unsubscribe := fun _ b => (.ok (), b)
      recv := fun _ _ b => (none, b) }
  now b := b.orders.length
  selfRef := true

/-- A trailing stop that follows the price from 100, with its first stop at 95, at a provider that
accepts so many orders. -/
def bookedStop (accepts : ℕ) : World OrderBook :=
  let w := ((register Ctx.booked "p" sampleTrailing).run (World.initial { accepts })).2
  let w := ((onPrimaryFilled Ctx.booked "p" 100).run w).2
  ((onPriceUpdate Ctx.booked "BTCUSD" 100).run w).2

theorem bookedStop_status (n : ℕ) (hn : n = 1 ∨ n = 2) :
    ((bookedStop n).handler.getEntry "trailing:p").map TrailingEntry.status =
        some (.active "s0" 100 95) ∧
      "s0" ∈ (bookedStop n).outside.live := by
  rcases hn with rfl | rfl <;> decide +kernel

/-- A provider that accepts a second order: the entry names it. -/
theorem active_stop_live_replaced :
    StopIsLive (fun b id => id ∈ b.live) "trailing:p"
      ((adjustStopOrder Ctx.booked "trailing:p" "s0" "BTCUSD" 114 .sell 1).run
        (bookedStop 2)).2 := by
  obtain ⟨hstatus, hlive⟩ := bookedStop_status 2 (.inr rfl)
  obtain ⟨e, hentry, hactive⟩ := Option.map_eq_some_iff.mp hstatus
  refine (active_stop_live_iff (OrderBook.keepsBook "s0") rfl hentry hactive hlive _ _ _ _).mpr
    (.inr (.inl ?_))
  have hcancel : ∃ result b', OrderBook.adapter.cancelOrder "s0" (bookedStop 2).outside =
      (.ok result, b') ∧ result.order.status ≠ .filled ∧ b'.accepts ≠ 0 :=
    ⟨_, _, rfl, by decide +kernel, by decide +kernel⟩
  obtain ⟨result, b', hcancel, hstatus, haccepts⟩ := hcancel
  exact ⟨_, _, ⟨result, b', hcancel, hstatus, if_neg haccepts⟩, List.mem_cons_self⟩

/-- The provider cancels the stop and refuses the new one: the entry is active and names the
cancelled order. -/
theorem active_without_stop :
    (((bookedStop 1).handler.getEntry "trailing:p").map TrailingEntry.status =
        some (.active "s0" 100 95) ∧
      "s0" ∈ (bookedStop 1).outside.live) ∧
    ¬ StopIsLive (fun b id => id ∈ b.live) "trailing:p"
      ((adjustStopOrder Ctx.booked "trailing:p" "s0" "BTCUSD" 114 .sell 1).run
        (bookedStop 1)).2 := by
  refine ⟨bookedStop_status 1 (.inl rfl), fun hlive => ?_⟩
  have hactive : ((((adjustStopOrder Ctx.booked "trailing:p" "s0" "BTCUSD" 114 .sell 1).run
      (bookedStop 1)).2).handler.getEntry "trailing:p").map TrailingEntry.status =
        some (.active "s0" 100 95) := by
    decide +kernel
  exact absurd (hlive.of_status hactive) (by decide +kernel)

end Trailing

end Gateway
