import TradingGateway.Exit.History
import TradingGateway.Exit.Moves
import TradingGateway.Lib.Run

/-!
# Partial fills of an exit order

An exit order that filled in part protects what remains of it. The status `PartiallyFilled` is made
for that: `remainingQty` subtracts the filled quantity, and both the coverage of the leg and the
replacement of the order go by it. But nothing writes the status: the fill path knows the report as
one of an exit leg, and leaves the entry as it is.

* `partial_exits_resized_iff`: a leg is sized by what remains only if no partial fill came.
-/

namespace Gateway.Exit

variable {β : Type} {c : Ctx β}

/-! ## The reports -/

/-- A report that an exit order has filled `filledQty` so far. -/
structure ExitFill where
  filledQty : Decimal
  positionQty : Option Decimal
  positionId : Option String

/-- The report is about the order `id` over `Q`. -/
def ExitFill.step (c : Ctx β) (id : String) (Q : Decimal) (w : World β) (x : ExitFill) : World β :=
  ((handleFill c id x.filledQty Q x.positionQty x.positionId).run w).2

/-- What the order has filled by the last report. -/
def filledSoFar (xs : List ExitFill) : Decimal := (xs.getLast?.map ExitFill.filledQty).getD 0

variable {xs : List ExitFill} {id : String} {Q : Decimal} {w : World β}

theorem filledSoFar_pos (hxs : ∀ x ∈ xs, 0 < x.filledQty) (hne : xs ≠ []) : 0 < filledSoFar xs := by
  rw [filledSoFar, List.getLast?_eq_some_getLast hne]
  exact hxs _ (List.getLast_mem hne)

/-- A partial fill of a listed exit order is recognised, and nothing is recorded. -/
theorem ExitFill.step_eq {x : ExitFill} (hp : w.handler.getPlaceholdersForPrimary id = [])
    (hlisted : w.Tracked id) (hx : 0 < x.filledQty ∧ x.filledQty < Q) : x.step c id Q w = w := by
  have hev := run_handleFill (c := c) id x.filledQty Q x.positionQty x.positionId w
  unfold ExitFill.step
  generalize ((handleFill c id x.filledQty Q x.positionQty x.positionId).run w).2 = w' at hev ⊢
  cases hev with
  | ignored | exitPartial => rfl
  | primary _ _ hne => exact absurd hp hne
  | exitFull _ _ _ _ hfull => exact absurd hx.2 (not_lt.mpr hfull)
  | unmatched _ _ _ hnone =>
    obtain ⟨ph, e, he, o, ho, hid⟩ := hlisted
    exact absurd hid (w.handler.findEntryByActualOrder_none.mp hnone ph e he o ho)

theorem exec_exitFill (hp : w.handler.getPlaceholdersForPrimary id = []) (hlisted : w.Tracked id)
    (hxs : ∀ x ∈ xs, 0 < x.filledQty ∧ x.filledQty < Q) :
    Run.exec (ExitFill.step c id Q) w xs = w := by
  induction xs with
  | nil => rfl
  | cons x xs ih =>
    rw [Run.exec_cons, ExitFill.step_eq hp hlisted (hxs x List.mem_cons_self)]
    exact ih fun y hy => hxs y (List.mem_cons_of_mem _ hy)

/-! ## The quantities that a move places -/

/-- The quantities of the orders that the move of the leg places. -/
def movedQuantities (c : Ctx β) (ph : String) (price : Decimal) (w : World β) : List Decimal :=
  (((replaceExitLeg c ph price).run w).2.accepted.drop w.accepted.length).map AcceptedOrder.quantity

section move

variable {ph : String} {entry : ExitEntry} {price : Decimal} {w w' : World β}

/-- A provider that only cancels and accepts: the order is placed again, over what remains. -/
theorem MoveOutcome.places (hm : c.adapter.CannotModify) (hc : c.adapter.AcceptsCancels)
    (ha : c.adapter.AcceptsSubmits) {r : ActualOrder} {res : Except ReplaceExitLegError String}
    (h : MoveOutcome c ph entry r price w res w') :
    (∃ id, res = .ok id) ∧ ∃ a, w'.accepted = w.accepted ++ [a] ∧ a.quantity = r.remainingQty := by
  cases h with
  | kept _ _ h => exact absurd ⟨hm, hc⟩ h
  | changed h => exact absurd h hm.ne_ok
  | swapped h => exact absurd h hm.ne_ok
  | replaced => exact ⟨⟨_, rfl⟩, _, rfl, rfl⟩
  | restored _ _ _ hr => exact absurd ha hr
  | lost _ _ _ hr => exact absurd ha hr

theorem MoveOutcomes.places (hm : c.adapter.CannotModify) (hc : c.adapter.AcceptsCancels)
    (ha : c.adapter.AcceptsSubmits) {rs : List ActualOrder}
    {res : Except ReplaceExitLegError (List String)}
    (h : MoveOutcomes c ph entry price rs w res w') :
    ∃ news, w'.accepted = w.accepted ++ news ∧
      news.map AcceptedOrder.quantity = rs.map ActualOrder.remainingQty := by
  induction h with
  | done w => exact ⟨[], by simp⟩
  | stopped rs first =>
    obtain ⟨⟨id, hid⟩, -⟩ := first.places hm hc ha
    cases hid
  | moved first _ ih =>
    obtain ⟨-, a, hacc, hq⟩ := first.places hm hc ha
    obtain ⟨news, hacc', hqs⟩ := ih
    exact ⟨a :: news, by rw [hacc', hacc, List.append_assoc]; rfl, by simp [hq, hqs]⟩

theorem movedQuantities_eq (hm : c.adapter.CannotModify) (hc : c.adapter.AcceptsCancels)
    (ha : c.adapter.AcceptsSubmits) (he : w.handler.getEntry ph = some entry) (price : Decimal) :
    movedQuantities c ph price w =
      (entry.actualOrders.filter ActualOrder.isActive).map ActualOrder.remainingQty := by
  unfold movedQuantities
  rcases run_replaceExitLeg_outcome (c := c) he price with ⟨hnone, err, hrun⟩ | ⟨res, hmoves, -⟩
  · rw [hrun, hnone]
    simp
  · obtain ⟨news, hacc, hqs⟩ := hmoves.places hm hc ha
    rw [hacc, List.drop_left, hqs]

end move

/-! ## Sizing by what remains -/

/-- The order `id` of the leg counts for `remaining`: in the coverage, and when a provider that
cannot modify has the leg moved. -/
structure Resized (c : Ctx β) (ph id : String) (remaining : Decimal) (w : World β) : Prop where
  counted : ∃ e, w.handler.getEntry ph = some e ∧
    calculateActiveCoverage (e.actualOrders.filter fun o => o.orderId = id) e.orderType = remaining
  resubmitted : c.adapter.CannotModify → c.adapter.AcceptsCancels → c.adapter.AcceptsSubmits →
    ∀ e, w.handler.getEntry ph = some e → ∀ price,
      movedQuantities c ph price w = (e.actualOrders.filter ActualOrder.isActive).map fun o =>
        if o.orderId = id then remaining else o.remainingQty

/-- The open order `id` over `Q` is reported to fill in part, any number of times: then the leg is
sized by what remains of it if and only if no report came. -/
theorem partial_exits_resized_iff {ph id : String} {Q : Decimal} {e : ExitEntry} {w : World β}
    (he : w.handler.getEntry ph = some e)
    (hid : (e.actualOrders.filter fun o => o.orderId = id) = [⟨id, Q, .open, e.orderType⟩])
    (hp : w.handler.getPlaceholdersForPrimary id = []) (xs : List ExitFill)
    (hxs : ∀ x ∈ xs, 0 < x.filledQty ∧ x.filledQty < Q) :
    Resized c ph id (Q - filledSoFar xs) (Run.exec (ExitFill.step c id Q) w xs) ↔ xs = [] := by
  have hmem : (⟨id, Q, .open, e.orderType⟩ : ActualOrder) ∈
      e.actualOrders.filter fun o => o.orderId = id := by rw [hid]; exact List.mem_cons_self
  rw [exec_exitFill hp ⟨ph, e, he, _, (List.mem_filter.mp hmem).1, rfl⟩ hxs]
  constructor
  · rintro ⟨⟨e', he', hcov⟩, -⟩
    cases he.symm.trans he'
    rw [hid, calculateActiveCoverage_open] at hcov
    by_contra hne
    have hpos := filledSoFar_pos (fun x hx => (hxs x hx).1) hne
    linarith
  · rintro rfl
    have hQ : Q - filledSoFar [] = Q := sub_zero Q
    rw [hQ]
    refine ⟨⟨e, he, by rw [hid, calculateActiveCoverage_open]⟩, fun hm hc ha e' he' price => ?_⟩
    cases he.symm.trans he'
    rw [movedQuantities_eq hm hc ha he]
    refine List.map_congr_left fun o ho => ?_
    split
    · -- the only order with this id is the open one
      rename_i ho'
      have : o ∈ e.actualOrders.filter fun o => o.orderId = id :=
        List.mem_filter.mpr ⟨(List.mem_filter.mp ho).1, by simpa using ho'⟩
      rw [hid, List.mem_singleton] at this
      rw [this]
      rfl
    · rfl

/-- The stop-loss before any report, and after it filled 4 and then 7. -/
theorem partial_exits_resized_stopLoss :
    Resized .simulated "exit:sl:p" "o0" (10 - filledSoFar []) protectedBracket ∧
      ¬ Resized .simulated "exit:sl:p" "o0" (10 - filledSoFar [⟨4, none, none⟩, ⟨7, none, none⟩])
        (Run.exec (ExitFill.step .simulated "o0" 10) protectedBracket
          [⟨4, none, none⟩, ⟨7, none, none⟩]) := by
  obtain ⟨e, he, hst, hleg, -⟩ := protectedBracket_stopLoss
  have hid : (e.actualOrders.filter fun o => o.orderId = "o0") =
      [⟨"o0", 10, .open, e.orderType⟩] := by
    rw [ExitEntry.actualOrders, hst, hleg]
    rfl
  have hp : protectedBracket.handler.getPlaceholdersForPrimary "o0" = [] := by decide +kernel
  refine ⟨(partial_exits_resized_iff he hid hp [] (by simp)).mpr rfl, fun h => ?_⟩
  have hnil := (partial_exits_resized_iff he hid hp [⟨4, none, none⟩, ⟨7, none, none⟩]
    (by norm_num)).mp h
  cases hnil

/-- The stop-loss over 10 sold 4. The leg still counts for 10, and a move places a new order over
10 for the 6 that are left. -/
theorem partial_exit_ignored :
    let w := Run.exec (ExitFill.step .simulated "o0" 10) protectedBracket [⟨4, none, none⟩]
    movedQuantities .simulated "exit:sl:p" 95 w = [10] ∧
      ¬ Resized .simulated "exit:sl:p" "o0" (10 - filledSoFar [⟨4, none, none⟩]) w := by
  intro w
  refine ⟨by decide +kernel, ?_⟩
  rintro ⟨⟨e, he, hcov⟩, -⟩
  have hten : (w.handler.getEntry "exit:sl:p").map (fun e => calculateActiveCoverage
      (e.actualOrders.filter fun o => o.orderId = "o0") e.orderType) = some 10 := by decide +kernel
  rw [he, Option.map_some, hcov, Option.some.injEq] at hten
  norm_num [filledSoFar] at hten

end Gateway.Exit
