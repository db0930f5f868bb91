import TradingGateway.Exit.Cancellation
import TradingGateway.Exit.Registration
import TradingGateway.Exit.Steps

/-!
# Does a position close forget exits that are still live?

Before a position closes, the exits of its symbol are cancelled at the provider
(`cancelForPositionCloseInternal`). A cancellation that fails is only logged, and the entry is
marked `cancelled` all the same: its orders are no longer listed, and no later close tries them
again.

* `close_keeps_failed_iff`: a close forgets only exits that are gone exactly if every cancellation
  of an active order succeeds.
-/

namespace Gateway.Exit

variable {β : Type} {c : Ctx β}

/-! ## The answers of the provider -/

/-- The answer to the cancellation of one order of the entry. -/
structure CancelAnswer where
  placeholderId : String
  order : ActualOrder
  cancelled : Bool
  deriving DecidableEq, Repr

/-- The answers for the orders of one entry, and the state of the provider after them. -/
def cancelAnswers (c : Ctx β) (placeholderId : String) :
    List ActualOrder → β → List CancelAnswer × β
  | [], b => ([], b)
  | order :: rest, b =>
    let (r, b) := c.adapter.cancelOrder order.orderId b
    let (answers, b) := cancelAnswers c placeholderId rest b
    (⟨placeholderId, order, r.isOk⟩ :: answers, b)

/-- The answers for all entries of a close. -/
def closeAnswers (c : Ctx β) : List (String × List ActualOrder) → β → List CancelAnswer × β
  | [], b => ([], b)
  | (placeholderId, orders) :: rest, b =>
    let (answers, b) := cancelAnswers c placeholderId orders b
    let (more, b) := closeAnswers c rest b
    (answers ++ more, b)

/-- The orders that were cancelled. -/
def cancelledIds (answers : List CancelAnswer) : List String :=
  (answers.filter CancelAnswer.cancelled).map fun a => a.order.orderId

variable (entries : List (String × List ActualOrder)) (ph : String) (os : List ActualOrder) (b : β)
  (symbol : String) {k : String} {s : ExitEntryStatus}

theorem map_cancelAnswers :
    (cancelAnswers c ph os b).1.map (fun a => (a.placeholderId, a.order)) =
      os.map fun o => (ph, o) := by
  induction os generalizing b with
  | nil => rfl
  | cons o os ih => simp only [cancelAnswers, List.map_cons, ih]

theorem map_closeAnswers :
    (closeAnswers c entries b).1.map (fun a => (a.placeholderId, a.order)) =
      entries.flatMap fun x => x.2.map fun o => (x.1, o) := by
  induction entries generalizing b with
  | nil => rfl
  | cons x entries ih =>
    simp only [closeAnswers, List.map_append, map_cancelAnswers, ih, List.flatMap_cons]

/-! ## The close -/

theorem run_cancelOrders (w : World β) :
    ((cancelOrders c os).run w).2 =
      { w with
        broker := (cancelAnswers c ph os w.broker).2
        cancelled := w.cancelled ++ cancelledIds (cancelAnswers c ph os w.broker).1 } := by
  induction os generalizing w with
  | nil => simp [cancelOrders, cancelAnswers, cancelledIds]
  | cons o os ih =>
    rw [cancelOrders, Routine.run_bind, ih, cancelAnswers]
    cases hr : c.adapter.cancelOrder o.orderId w.broker with
    | mk r b =>
      cases r <;> simp [cancelOrder, hr, cancelledIds, Except.isOk, Except.toBool]

/-- The entry, marked cancelled. -/
def ExitEntry.positionClosed (e : ExitEntry) : ExitEntry :=
  e.setStatus (.cancelled .positionClosed)

theorem run_closeEntry (w : World β) :
    ((closeEntry ph).run w).2 = w.updateEntry ph ExitEntry.positionClosed := by
  rw [closeEntry, Routine.run_step]
  cases he : w.handler.getEntry ph with
  | some e => rfl
  | none =>
    have hget : w.handler.pendingByPlaceholder.get ph = none := he
    simp [World.updateEntry, ExitHandler.modifyEntry, Table.modify, hget]

/-- A close marks its entries cancelled, whatever the provider answers. -/
theorem run_closeEntries (w : World β) :
    ((closeEntries c entries).run w).2 =
      { w with
        handler := (entries.map Prod.fst).foldl
          (fun h id => h.modifyEntry id ExitEntry.positionClosed) w.handler
        broker := (closeAnswers c entries w.broker).2
        cancelled := w.cancelled ++ cancelledIds (closeAnswers c entries w.broker).1 } := by
  induction entries generalizing w with
  | nil => simp [closeEntries, closeAnswers, cancelledIds]
  | cons x entries ih =>
    obtain ⟨ph, os⟩ := x
    simp only [closeEntries, Routine.run_bind, run_cancelOrders ph, run_closeEntry, ih,
      Routine.pure_eq, Routine.run_ret, World.updateEntry, closeAnswers, cancelledIds,
      List.filter_append, List.map_append, List.append_assoc, List.map_cons, List.foldl_cons]

/-- The answers to the cancellations that a close of the symbol makes. -/
def World.closeAnswers (c : Ctx β) (symbol : String) (w : World β) : List CancelAnswer :=
  (Exit.closeAnswers c (w.handler.entriesToCancel symbol) w.broker).1

theorem run_cancelForPositionClose (w : World β) :
    ((cancelForPositionCloseInternal c symbol).run w).2 =
      { w with
        handler := ((w.handler.entriesToCancel symbol).map Prod.fst).foldl
          (fun h id => h.modifyEntry id ExitEntry.positionClosed) w.handler
        broker := (Exit.closeAnswers c (w.handler.entriesToCancel symbol) w.broker).2
        cancelled := w.cancelled ++ cancelledIds (w.closeAnswers c symbol) } := by
  simp only [cancelForPositionCloseInternal, Routine.run_bind, run_readHandler, run_closeEntries,
    World.closeAnswers]

/-- The entries that a close takes, with their orders. -/
theorem mem_entriesToCancel {h : ExitHandler} {symbol : String} {os : List ActualOrder} :
    (k, os) ∈ h.entriesToCancel symbol ↔
      ∃ e, h.getEntry k = some e ∧ e.symbol = symbol ∧ closeOrders e.status = some os := by
  simp only [ExitHandler.entriesToCancel, List.mem_filterMap, Prod.exists, Table.mem_toList]
  constructor
  · rintro ⟨k', e, he, hsel⟩
    split at hsel
    · cases hsel
    · rename_i hsym
      obtain ⟨os', hos, heq⟩ := Option.map_eq_some_iff.mp hsel
      cases heq
      exact ⟨e, he, not_not.mp hsym, hos⟩
  · rintro ⟨e, he, hsym, hos⟩
    exact ⟨k, e, he, by simp [hsym, hos]⟩

/-- An entry with orders at the provider is taken with all of them. -/
theorem closeOrders_of_ne_nil (h : s.actualOrders ≠ []) : closeOrders s = some s.actualOrders := by
  cases s <;> simp_all [closeOrders, ExitEntryStatus.actualOrders]

theorem closeOrders_eq {os : List ActualOrder} (h : closeOrders s = some os) :
    os = s.actualOrders := by
  cases s <;> simp_all [closeOrders, ExitEntryStatus.actualOrders]

/-- The provider is asked for each order of the symbol's entries, and for no other. -/
theorem mem_closeAnswers {symbol : String} {o : ActualOrder} {w : World β} :
    (∃ a ∈ w.closeAnswers c symbol, a.placeholderId = k ∧ a.order = o) ↔
      ∃ e, w.handler.getEntry k = some e ∧ e.symbol = symbol ∧ o ∈ e.actualOrders := by
  have hmap := map_closeAnswers (c := c) (w.handler.entriesToCancel symbol) w.broker
  have hleft : (∃ a ∈ w.closeAnswers c symbol, a.placeholderId = k ∧ a.order = o) ↔
      (k, o) ∈ (w.closeAnswers c symbol).map (fun a => (a.placeholderId, a.order)) := by
    simp [List.mem_map]
  rw [hleft, World.closeAnswers, hmap, List.mem_flatMap]
  constructor
  · rintro ⟨⟨k', os⟩, hm, ho⟩
    obtain ⟨o', ho', heq⟩ := List.mem_map.mp ho
    cases heq
    obtain ⟨e, he, hsym, hos⟩ := mem_entriesToCancel.mp hm
    exact ⟨e, he, hsym, by rw [closeOrders_eq hos] at ho'; exact ho'⟩
  · rintro ⟨e, he, hsym, ho⟩
    refine ⟨(k, e.actualOrders), mem_entriesToCancel.mpr ⟨e, he, hsym, ?_⟩,
      List.mem_map.mpr ⟨o, ho, rfl⟩⟩
    exact closeOrders_of_ne_nil (List.ne_nil_of_mem ho)

theorem getEntry_cancelForPositionClose (k : String) (w : World β) :
    ((cancelForPositionCloseInternal c symbol).run w).2.handler.getEntry k =
      if k ∈ (w.handler.entriesToCancel symbol).map Prod.fst then
        (w.handler.getEntry k).map ExitEntry.positionClosed
      else w.handler.getEntry k := by
  rw [run_cancelForPositionClose]
  exact ExitHandler.getEntry_foldl_modifyEntry (g := ExitEntry.positionClosed) (fun _ => rfl) ..

/-! ## What a close forgets -/

/-- Every active order of the entry was cancelled. -/
def AllCancelled (answers : List CancelAnswer) (k : String) (e : ExitEntry) : Prop :=
  ∀ o ∈ e.actualOrders, o.isActive = true → ⟨k, o, true⟩ ∈ answers ∧ ⟨k, o, false⟩ ∉ answers

/-- The entry is tracked, and lists the orders of `k` whose cancellation failed. -/
def ListsFailed (answers : List CancelAnswer) (k : String) (e : ExitEntry) : Prop :=
  e.status.isTracking = true ∧ ∀ a ∈ answers, a.placeholderId = k → a.cancelled = false →
    ∃ o ∈ e.actualOrders, o.orderId = a.order.orderId

/-- A close of the symbol from `w` to `w'`, with these answers, forgets only exits that are gone. -/
structure ForgetsOnlyGone (symbol : String) (answers : List CancelAnswer) (w w' : World β) :
    Prop where
  others : ∀ k e, w.handler.getEntry k = some e → e.symbol ≠ symbol →
    w'.handler.getEntry k = some e
  exits : ∀ k e, w.handler.getEntry k = some e → e.symbol = symbol →
    (∃ o ∈ e.actualOrders, o.isActive = true) →
    AllCancelled answers k e ∨ ∃ e', w'.handler.getEntry k = some e' ∧ ListsFailed answers k e'

/-- A close forgets only exits that are gone exactly if the provider cancels every active order that
it is asked to cancel. -/
theorem close_keeps_failed_iff (c : Ctx β) (symbol : String) (w : World β) :
    ForgetsOnlyGone symbol (w.closeAnswers c symbol) w
        ((cancelForPositionCloseInternal c symbol).run w).2 ↔
      ∀ a ∈ w.closeAnswers c symbol, a.order.isActive = true → a.cancelled = true := by
  constructor
  · intro h a ha hactive
    obtain ⟨e, he, hsym, ho⟩ := mem_closeAnswers.mp ⟨a, ha, rfl, rfl⟩
    by_contra hfailed
    obtain hall | ⟨e', he', htracking, -⟩ :=
      h.exits a.placeholderId e he hsym ⟨a.order, ho, hactive⟩
    · refine (hall a.order ho hactive).2 ?_
      rw [Bool.not_eq_true] at hfailed
      rw [← hfailed]
      exact ha
    · -- the entry was taken, so it is `cancelled` now
      have htaken : a.placeholderId ∈ (w.handler.entriesToCancel symbol).map Prod.fst :=
        List.mem_map.mpr ⟨(a.placeholderId, e.actualOrders), mem_entriesToCancel.mpr
          ⟨e, he, hsym, closeOrders_of_ne_nil (List.ne_nil_of_mem ho)⟩, rfl⟩
      rw [getEntry_cancelForPositionClose, if_pos htaken, he] at he'
      cases he'
      cases htracking
  · intro h
    constructor
    · intro k e he hsym
      rw [getEntry_cancelForPositionClose, if_neg, he]
      intro htaken
      obtain ⟨⟨k', os⟩, hm, rfl⟩ := List.mem_map.mp htaken
      obtain ⟨e', he', hsym', -⟩ := mem_entriesToCancel.mp hm
      cases he.symm.trans he'
      exact hsym hsym'
    · rintro k e he hsym -
      refine .inl fun o ho hactive => ?_
      obtain ⟨⟨k', o', ok⟩, ha, rfl, rfl⟩ := mem_closeAnswers.mpr ⟨e, he, hsym, ho⟩
      have hok : ok = true := h _ ha hactive
      subst hok
      refine ⟨ha, fun hfailed => ?_⟩
      cases h _ hfailed hactive

/-- The simulated provider, when it refuses every cancellation. -/
def Ctx.refusesCancels : Ctx (List (String × OrderRequest)) :=
  { Ctx.simulated with
    adapter := { TradingAdapter.simulated with
      cancelOrder := fun _ b => (.error (.providerUnavailable "down"), b) } }

/-- A registered order that filled at that provider: both exits rest there. -/
def filledBracket : World (List (String × OrderRequest)) :=
  ((handleFill Ctx.refusesCancels "p" 10 10 none none).run
    ((register Ctx.refusesCancels "p" sampleBracket).run (World.initial {} [])).2).2

/-- The same after its position closed. -/
def closedBracket : World (List (String × OrderRequest)) :=
  ((cancelForPositionCloseInternal Ctx.refusesCancels "BTCUSD").run filledBracket).2

/-- The provider refuses to cancel the stop-loss order. The entry is forgotten all the same, and a
second close asks for nothing. -/
theorem refused_cancel_forgotten :
    (∃ a ∈ filledBracket.closeAnswers .refusesCancels "BTCUSD",
        a.placeholderId = "exit:sl:p" ∧ a.order.isActive = true ∧ a.cancelled = false) ∧
      (closedBracket.handler.getEntry "exit:sl:p").map ExitEntry.status =
        some (.cancelled .positionClosed) ∧
      closedBracket.closeAnswers .refusesCancels "BTCUSD" = [] ∧
      ¬ ForgetsOnlyGone "BTCUSD" (filledBracket.closeAnswers .refusesCancels "BTCUSD")
        filledBracket
        ((cancelForPositionCloseInternal Ctx.refusesCancels "BTCUSD").run filledBracket).2 := by
  have hstatus : (closedBracket.handler.getEntry "exit:sl:p").map ExitEntry.status =
      some (.cancelled .positionClosed) := by decide +kernel
  refine ⟨by decide +kernel, hstatus, by decide +kernel, fun h => ?_⟩
  have hentry : (filledBracket.handler.getEntry "exit:sl:p").any (fun e => e.symbol = "BTCUSD" ∧
      ∃ o ∈ e.actualOrders, o.isActive = true ∧
        ⟨"exit:sl:p", o, false⟩ ∈ filledBracket.closeAnswers .refusesCancels "BTCUSD") = true := by
    decide +kernel
  obtain ⟨e, he, hfacts⟩ := (Option.any_eq_true ..).mp hentry
  obtain ⟨hsym, o, ho, hactive, hfailed⟩ := of_decide_eq_true hfacts
  obtain hall | ⟨e', he', htracking, -⟩ := h.exits _ e he hsym ⟨o, ho, hactive⟩
  · exact (hall o ho hactive).2 hfailed
  · have he'' : closedBracket.handler.getEntry "exit:sl:p" = some e' := he'
    rw [he'', Option.map_some, Option.some.injEq] at hstatus
    rw [hstatus] at htracking
    cases htracking

end Gateway.Exit
