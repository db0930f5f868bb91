import TradingGateway.Exit.Steps

/-!
# The cancellations of a fill

Which orders the exit handler asks the provider to cancel when a fill comes in, whatever the
provider answers. A provider with a log of the requests (`logCancels`) then lists them
(`log_of_reaches`). Placing an exit order cancels nothing; only the full fill of an exit order does
(`FillEvent.reaches`).
-/

namespace Gateway

/-- The provider `ad`, with a log of the orders that it is asked to cancel. -/
def TradingAdapter.logCancels {β : Type} (ad : TradingAdapter β) :
    TradingAdapter (β × List String) where
  submitOrder r b := ((ad.submitOrder r b.1).1, (ad.submitOrder r b.1).2, b.2)
  getOrder id b := ((ad.getOrder id b.1).1, (ad.getOrder id b.1).2, b.2)
  modifyOrder id r b := ((ad.modifyOrder id r b.1).1, (ad.modifyOrder id r b.1).2, b.2)
  cancelOrder id b := ((ad.cancelOrder id b.1).1, (ad.cancelOrder id b.1).2, b.2 ++ [id])
  now b := ad.now b.1
  sleep delay b := (ad.sleep delay b.1, b.2)

namespace Exit

/-- The active orders of the entry's sibling, once the entry is dropped. -/
def ExitHandler.siblingOrders (h : ExitHandler) (e : ExitEntry) : List String :=
  match e.siblingId.bind (h.removePendingEntry e.placeholderId e.primaryOrderId).getEntry with
  | none => []
  | some sibling => activeIds sibling.actualOrders

/-- The orders to cancel at a fill of `f` out of `T` of the order `id`: the sibling's, if `id` is an
exit order that filled. -/
def ExitHandler.fillCancels (h : ExitHandler) (id : String) (f T : Decimal) : List String :=
  if f ≤ 0 ∨ T ≤ 0 ∨ h.getPlaceholdersForPrimary id ≠ [] ∨ f < T then []
  else
    match h.findEntryByActualOrder id with
    | none => []
    | some e => h.siblingOrders e

/-- What the provider logs. -/
theorem log_of_reaches {β : Type} {ad : TradingAdapter β} {b b' : β × List String}
    {ids : List String} (h : ad.logCancels.Reaches b ids b') : b'.2 = b.2 ++ ids := by
  induction h with
  | refl => simp
  | cancel _ id ih => simp [TradingAdapter.logCancels, ih]
  | submit _ _ ih | get _ _ ih | modify _ _ _ ih | sleep _ _ ih => exact ih

theorem log_cancelOrder {β : Type} {ad : TradingAdapter β} {c : Ctx (β × List String)}
    (hc : c.adapter = ad.logCancels) (id : String) (w : World (β × List String)) :
    ((cancelOrder c id).run w).2.broker.2 = w.broker.2 ++ [id] := by
  unfold cancelOrder
  rw [hc, Routine.run_call]
  cases h : (ad.cancelOrder id w.broker.1).1 <;> simp [TradingAdapter.logCancels, h]

section calls

variable {β : Type} {c : Ctx β} {w w' : World β} {f T : Decimal} {pos : Option Decimal}
  {pid : Option String}

/-- Placing an exit order cancels nothing. -/
theorem FillStep.reaches {ph : String} (h : FillStep c ph f T pos pid w w') :
    c.adapter.Reaches w.broker [] w'.broker := by
  obtain ⟨_, h⟩ := h
  cases h with
  | skipped | belowMinimum | breakerOpen => exact .refl
  | refused _ hreach | failed _ _ _ hreach => exact hreach
  | placed _ _ _ _ hc => exact hc.reaches

theorem OcoStep.reaches {e : ExitEntry} (h : OcoStep c e w w') :
    c.adapter.Reaches w.broker (w.handler.siblingOrders e) w'.broker := by
  unfold ExitHandler.siblingOrders
  cases h with
  | alone hnone =>
    cases hs : e.siblingId with
    | none => exact .refl
    | some s =>
      simp only [World.dropEntry] at hnone
      simp only [Option.bind_some, hnone s hs]
      exact .refl
  | resolved hreach hs he' | retained _ hreach hs he' =>
    simp only [World.dropEntry] at he'
    simp only [hs, Option.bind_some, he']
    exact hreach

/-- A fill asks the provider to cancel the orders of `fillCancels`, one after the other. -/
theorem FillEvent.reaches {id : String} (h : FillEvent c id f T pos pid w w') :
    c.adapter.Reaches w.broker (w.handler.fillCancels id f T) w'.broker := by
  unfold ExitHandler.fillCancels
  cases h with
  | ignored hq =>
    rw [if_pos (hq.imp_right .inl)]
    exact .refl
  | primary _ _ hp hs =>
    rw [if_pos (.inr (.inr (.inl hp)))]
    exact hs.inv (I := fun w' => c.adapter.Reaches w.broker [] w'.broker)
      (fun _ _ _ _ hstep hw => hw.trans _ hstep.reaches) .refl
  | exitPartial _ _ _ _ hpart =>
    rw [if_pos (.inr (.inr (.inr hpart)))]
    exact .refl
  | exitFull hf hT hp he hfull ho =>
    rw [if_neg (by simp [hf, hT, hp, hfull]), he]
    exact ho.reaches
  | unmatched hf hT hp he =>
    rw [he, ite_self]
    exact .refl

end calls

end Exit

end Gateway
