import TradingGateway.Exit.History
import TradingGateway.Exit.Moves
import Mathlib.Data.Fintype.EquivFin
import Mathlib.Data.Multiset.Filter

/-!
# Failed moves of a leg

`StillProtected` promises that a leg which could not be moved protects the position as before: the
same triggers and quantities at the provider, and the old trigger in the entry.

* `failed_move_harmless_iff`: the promise is kept at every provider if and only if the leg has at
  most one resting order, and that order rests as the entry records it. With two, the second may
  fail after the first has moved.
-/

namespace Gateway.Exit

variable {β γ : Type} {c : Ctx β} {id : String}

/-! ## The protection at the provider -/

/-- The price at which an order of the leg triggers. -/
def AcceptedOrder.trigger (leg : ExitLegType) (a : AcceptedOrder) : Option Decimal :=
  match leg with
  | .stopLoss => a.stopPrice
  | .takeProfit => a.limitPrice

/-- A replacement triggers at the entry's price and is over what remained. -/
theorem trigger_buildReplacement (id ph : String) (e : ExitEntry) (r : ActualOrder) (n : ℕ) :
    (AcceptedOrder.ofRequest id ph (buildReplacement e r n)).trigger e.orderType =
      some e.triggerPrice := by
  unfold buildReplacement buildExitOrderRequest AcceptedOrder.trigger
  cases hleg : e.orderType with
  | takeProfit => rfl
  | stopLoss => cases hlim : e.limitPrice <;> rfl

namespace World

/-- The live orders of an entry. -/
def liveOrders (w : World β) (ph : String) : List AcceptedOrder :=
  (w.acceptedFor ph).filter fun a => w.Live a.orderId

/-- The triggers and quantities of the leg's live orders. -/
def protection (w : World β) (ph : String) (leg : ExitLegType) :
    Multiset (Option Decimal × Decimal) :=
  (w.liveOrders ph : Multiset AcceptedOrder).map fun a => (a.trigger leg, a.quantity)

/-- The part of it that the order `id` gives. -/
def protectionBy (w : World β) (ph : String) (leg : ExitLegType) (id : String) :
    Multiset (Option Decimal × Decimal) :=
  ((w.liveOrders ph : Multiset AcceptedOrder).filter fun a => a.orderId = id).map fun a =>
    (a.trigger leg, a.quantity)

/-- The handler and the history at another provider. -/
def withBroker (w : World β) (b : γ) : World γ where
  handler := w.handler
  broker := b
  accepted := w.accepted
  cancelled := w.cancelled
  filled := w.filled
  placing := w.placing

end World

section replace

variable {w w' : World β} {ph gone : String} {leg : ExitLegType} {a : AcceptedOrder}

theorem liveOrders_replace (hacc : w'.accepted = w.accepted ++ [a])
    (hcan : w'.cancelled = w.cancelled ++ [gone]) (hfil : w'.filled = w.filled)
    (hph : a.placeholderId = ph) (hlive : w'.Live a.orderId) :
    w'.liveOrders ph = (w.liveOrders ph).filter (fun x => ¬ x.orderId = gone) ++ [a] := by
  subst hph
  unfold World.liveOrders
  rw [acceptedFor_append hacc, List.filter_append, List.filter_filter]
  congr 1
  · refine List.filter_congr fun x _ => ?_
    rw [← Bool.decide_and]
    simp only [live_cancelled hcan hfil, and_comm]
  · simp [hlive]

/-- The order `gone` is cancelled and `a` is placed. -/
theorem protection_replace (hacc : w'.accepted = w.accepted ++ [a])
    (hcan : w'.cancelled = w.cancelled ++ [gone]) (hfil : w'.filled = w.filled)
    (hph : a.placeholderId = ph) (hlive : w'.Live a.orderId) :
    w'.protection ph leg + w.protectionBy ph leg gone =
      w.protection ph leg + {(a.trigger leg, a.quantity)} := by
  unfold World.protection World.protectionBy
  rw [liveOrders_replace hacc hcan hfil hph hlive, ← Multiset.coe_add, Multiset.map_add,
    ← Multiset.filter_coe]
  conv_rhs => rw [← Multiset.filter_add_not (fun x => x.orderId = gone)
    (w.liveOrders ph : Multiset AcceptedOrder), Multiset.map_add]
  simp only [Multiset.coe_singleton, Multiset.map_singleton]
  exact (Multiset.add_comm _ _).trans (Multiset.add_assoc _ _ _).symm

end replace

/-! ## What a failed move has to leave -/

/-- If the move to `price` fails and the leg is said to be still protected, then the orders at the
provider protect as before, and the entry has its old trigger. -/
def FailedMoveHarmless (c : Ctx β) (ph : String) (price : Decimal) (w : World β) : Prop :=
  ∀ e err, w.handler.getEntry ph = some e →
    ((replaceExitLeg c ph price).run w).1 = .error (.stillProtected err) →
      ((replaceExitLeg c ph price).run w).2.protection ph e.orderType =
          w.protection ph e.orderType ∧
        (((replaceExitLeg c ph price).run w).2.handler.getEntry ph).map ExitEntry.triggerPrice =
          some e.triggerPrice

/-- The same at every provider that gives each order an id of its own, and for every price. -/
def World.KeepsProtection (w : World β) (ph : String) : Prop :=
  ∀ (γ : Type) (c : Ctx γ) (b : γ) (issued : γ → String → Prop), c.adapter.IssuesIds issued →
    (∀ id ∈ w.usedIds, issued b id) → ∀ price, FailedMoveHarmless c ph price (w.withBroker b)

/-! ## A leg with one order -/

section one

variable {ph : String} {e : ExitEntry} {r : ActualOrder} {price : Decimal} {w w' : World β}
  {err : GatewayError}

/-- The order is placed again under the id `id`: the leg protects as before if and only if the
cancelled order rested as the entry records it. -/
theorem protection_restored_iff {id : String} (hnew : id ∉ w.usedIds) (hne : id ≠ r.orderId)
    (b : β) (n : ℕ) (g : ExitEntry → ExitEntry) :
    (World.updateEntry
        (World.accept { w with broker := b, cancelled := w.cancelled ++ [r.orderId] } ph id
          (buildReplacement e r n)) ph g).protection ph e.orderType =
      w.protection ph e.orderType ↔
    w.protectionBy ph e.orderType r.orderId = {(some e.triggerPrice, r.remainingQty)} := by
  generalize hw' : World.updateEntry _ ph g = w'
  have hlive : w'.Live id := by
    rw [live_cancelled (w := w) (by rw [← hw']; rfl) (by rw [← hw']; rfl)]
    exact ⟨live_of_notMem_usedIds hnew, hne⟩
  have hsum : w'.protection ph e.orderType + w.protectionBy ph e.orderType r.orderId =
      w.protection ph e.orderType + {(some e.triggerPrice, r.remainingQty)} := by
    rw [← trigger_buildReplacement id ph e r n]
    exact protection_replace (by rw [← hw']; rfl) (by rw [← hw']; rfl) (by rw [← hw']; rfl) rfl
      hlive
  constructor
  · intro heq
    rw [heq] at hsum
    exact Multiset.add_right_inj.mp hsum
  · intro heq
    rw [heq] at hsum
    exact Multiset.add_left_inj.mp hsum

/-- The order of a leg that is still protected was kept or restored. -/
theorem MoveOutcome.protection_eq {issued : β → String → Prop} (hi : c.adapter.IssuesIds issued)
    (hused : ∀ id ∈ w.usedIds, issued w.broker id)
    (hrest : w.protectionBy ph e.orderType r.orderId = {(some e.triggerPrice, r.remainingQty)})
    (h : MoveOutcome c ph e r price w (.error (.stillProtected err)) w') :
    w'.protection ph e.orderType = w.protection ph e.orderType := by
  cases h with
  | kept => rfl
  | @restored b b' _ handle _ hreach hs =>
    have hnew : handle.id ∉ w.usedIds := fun h => (hi.fresh hs).1 (hi.mono hreach (hused _ h))
    -- the cancelled order was live, so its id was in use
    have hgone : r.orderId ∈ w.usedIds := by
      have hmem : (some e.triggerPrice, r.remainingQty) ∈
          w.protectionBy ph e.orderType r.orderId := by
        rw [hrest]
        exact Multiset.mem_singleton_self _
      obtain ⟨a, ha, -⟩ := Multiset.mem_map.mp hmem
      obtain ⟨ha, hid⟩ := Multiset.mem_filter.mp ha
      have hacc := (List.mem_filter.mp (List.mem_filter.mp (Multiset.mem_coe.mp ha)).1).1
      exact mem_usedIds.mpr (.inl ⟨a, hacc, hid⟩)
    have hne : handle.id ≠ r.orderId := fun heq => hnew (heq ▸ hgone)
    exact (protection_restored_iff hnew hne b' _ _).mpr hrest

theorem MoveOutcome.triggerPrice_eq (he : w.handler.getEntry ph = some e)
    (h : MoveOutcome c ph e r price w (.error (.stillProtected err)) w') :
    (w'.handler.getEntry ph).map ExitEntry.triggerPrice = some e.triggerPrice := by
  cases h with
  | kept => simp [he]
  | restored => simp [World.updateEntry, World.accept, he, recordMovedLeg]

end one

/-! ## Providers that break the promise -/

/-- A provider that modifies an order once, and then refuses. -/
def modifiesOnce : TradingAdapter Bool where
  submitOrder _ b := (.error .shuttingDown, b)
  getOrder id b := (.error (.orderNotFound id), b)
  modifyOrder id r b :=
    match b with
    | true =>
      (.ok ⟨{ sampleBracket.toOrder id with stopPrice := r.stopPrice, limitPrice := r.limitPrice },
        none⟩, false)
    | false => (.error .shuttingDown, false)
  cancelOrder _ b := (.error .shuttingDown, b)
  now _ := 0
  sleep _ b := b

theorem modifiesOnce_issuesIds : modifiesOnce.IssuesIds fun _ _ => True where
  fresh hs := by cases hs
  mono _ h := h

theorem run_moveRestingOrder_modifiesOnce (ph : String) (e : ExitEntry) (r : ActualOrder)
    (price : Decimal) (w : World β) :
    let run := (moveRestingOrder ⟨{}, .mock, modifiesOnce⟩ ph e r price).run (w.withBroker true)
    run.1 = .ok r.orderId ∧ run.2.broker = false ∧
      run.2.handler = w.handler.modifyEntry ph (recordMovedLeg r r.orderId price) := by
  simp only [moveRestingOrder, Routine.run_bind, modifyOrder, Routine.run_call, modifiesOnce,
    World.withBroker, OrderRequest.toOrder, if_true]
  exact ⟨rfl, rfl, rfl⟩

theorem run_modifiesOnce {ph : String} {e : ExitEntry} {r r' : ActualOrder} {rs : List ActualOrder}
    {w : World β} (he : w.handler.getEntry ph = some e)
    (hrs : e.actualOrders.filter ActualOrder.isActive = r :: r' :: rs) (price : Decimal) :
    let run := (replaceExitLeg ⟨{}, .mock, modifiesOnce⟩ ph price).run (w.withBroker true)
    run.1 = .error (.stillProtected .shuttingDown) ∧
      (run.2.handler.getEntry ph).map ExitEntry.triggerPrice = some price := by
  have he' : (w.withBroker true).handler.getEntry ph = some e := he
  have hfirst := run_moveRestingOrder_modifiesOnce ph e r price w
  rw [run_replaceExitLeg_cons he' hrs, run_moveRestingOrders_cons]
  generalize (moveRestingOrder ⟨{}, .mock, modifiesOnce⟩ ph e r price).run (w.withBroker true) =
    first at hfirst ⊢
  obtain ⟨res, w'⟩ := first
  obtain ⟨hres, hb, hh⟩ := hfirst
  have hsecond : (moveRestingOrder ⟨{}, .mock, modifiesOnce⟩ ph e r' price).run w' =
      (.error (.stillProtected .shuttingDown), w') := by
    obtain ⟨h, b, acc, can, fil, pl⟩ := w'
    cases hb
    rfl
  simp only at hres
  subst hres
  simp only [run_moveRestingOrders_cons, hsecond]
  refine ⟨rfl, ?_⟩
  rw [hh, ExitHandler.getEntry_modifyEntry_self, he]
  rfl

/-- A provider that cannot modify, cancels, refuses one order and accepts the next as `id`. -/
def restoresAs (id : String) : TradingAdapter ℕ where
  submitOrder _ n :=
    if n = 1 then (.ok { id, status := .open }, 2) else (.error .shuttingDown, n + 1)
  getOrder id n := (.error (.orderNotFound id), n)
  modifyOrder _ _ n := (.error (.unsupportedOperation "modify_order" "mock"), n)
  cancelOrder id n := (.ok ⟨true, sampleBracket.toOrder id⟩, n)
  now _ := 0
  sleep _ n := n

theorem le_of_reaches_restoresAs {n n' : ℕ} {ids : List String}
    (h : (restoresAs id).Reaches n ids n') : n ≤ n' := by
  induction h with
  | refl => exact le_rfl
  | @submit n' _ r ih =>
    simp only [restoresAs]
    split <;> simp only <;> omega
  | get | modify | cancel | sleep => assumption

theorem restoresAs_issuesIds {used : List String} (hnew : id ∉ used) :
    (restoresAs id).IssuesIds fun n id' => id' ∈ used ∨ 2 ≤ n ∧ id' = id where
  fresh {r n h n'} hs := by
    simp only [restoresAs] at hs
    split at hs
    · cases hs
      refine ⟨?_, .inr ⟨le_rfl, rfl⟩⟩
      rintro (h | ⟨h, -⟩)
      · exact hnew h
      · omega
    · cases hs
  mono hreach := by
    have hle := le_of_reaches_restoresAs hreach
    exact Or.imp_right (And.imp_left fun h => h.trans hle)

/-- The only order is cancelled, and restored after the replacement was refused. -/
theorem run_restoresAs {ph : String} {e : ExitEntry} {r : ActualOrder} {w : World β}
    (he : w.handler.getEntry ph = some e)
    (hrs : e.actualOrders.filter ActualOrder.isActive = [r]) (id : String) (price : Decimal) :
    ∃ err, (replaceExitLeg ⟨{}, .mock, restoresAs id⟩ ph price).run (w.withBroker 0) =
      (.error (.stillProtected err),
        World.updateEntry
          (World.accept { w.withBroker 2 with cancelled := w.cancelled ++ [r.orderId] } ph id
            (buildReplacement e r (w.handler.placedCount ph))) ph
          (recordMovedLeg r id e.triggerPrice)) := by
  have he' : (w.withBroker 0).handler.getEntry ph = some e := he
  rw [run_replaceExitLeg_cons he' hrs, run_moveRestingOrders_cons]
  exact ⟨_, rfl⟩

theorem exists_fresh_id (used : List String) : ∃ id, id ∉ used := by
  obtain ⟨id, hid⟩ := Infinite.exists_notMem_finset used.toFinset
  exact ⟨id, fun h => hid (List.mem_toFinset.mpr h)⟩

/-! ## The result -/

/-- The leg has no resting order, or one that rests at the provider as the entry records it. -/
def World.RestsAsRecorded (w : World β) (ph : String) (e : ExitEntry) : Prop :=
  e.actualOrders.filter ActualOrder.isActive = [] ∨
    ∃ r, e.actualOrders.filter ActualOrder.isActive = [r] ∧
      w.protectionBy ph e.orderType r.orderId = {(some e.triggerPrice, r.remainingQty)}

/-- Failed moves leave the protection as it was, whatever the provider answers, if and only if the
leg has at most one resting order, as recorded. -/
theorem failed_move_harmless_iff {w : World β} {ph : String} {e : ExitEntry}
    (he : w.handler.getEntry ph = some e) : w.KeepsProtection ph ↔ w.RestsAsRecorded ph e := by
  constructor
  · intro hkeep
    cases hrs : e.actualOrders.filter ActualOrder.isActive with
    | nil => exact .inl hrs
    | cons r rs =>
      cases rs with
      | nil =>
        -- one order: the provider cancels it, refuses the replacement and restores it
        obtain ⟨id, hid⟩ := exists_fresh_id (r.orderId :: w.usedIds)
        rw [List.mem_cons, not_or] at hid
        obtain ⟨err, hrun⟩ := run_restoresAs he hrs id 0
        have hharm := hkeep ℕ ⟨{}, .mock, restoresAs id⟩ 0 _ (restoresAs_issuesIds hid.2)
          (fun _ h => .inl h) 0 e err he (by rw [hrun])
        rw [hrun] at hharm
        have hnew : id ∉ (w.withBroker (0 : ℕ)).usedIds := hid.2
        exact .inr ⟨r, hrs, (protection_restored_iff hnew hid.1 2 _ _).mp hharm.1⟩
      | cons r' rs =>
        -- two orders: the provider moves the first and refuses the second
        obtain ⟨hres, hprice⟩ := run_modifiesOnce he hrs (e.triggerPrice + 1)
        have hharm := hkeep Bool ⟨{}, .mock, modifiesOnce⟩ true _ modifiesOnce_issuesIds
          (fun _ _ => trivial) (e.triggerPrice + 1) e _ he hres
        have heq := hharm.2.symm.trans hprice
        simp at heq
  · rintro hrest γ c b issued hi hused price e' err he' hres
    cases he.symm.trans he'
    have he₀ : (w.withBroker b).handler.getEntry ph = some e := he
    rcases run_replaceExitLeg_outcome (c := c) he₀ price with ⟨-, err', hrun⟩ | ⟨res, hmoves, hres'⟩
    · rw [hrun]
      exact ⟨rfl, by simp [he₀]⟩
    · rw [hres'] at hres
      generalize ((replaceExitLeg c ph price).run (w.withBroker b)).2 = w' at hmoves ⊢
      rcases hrest with hnone | ⟨r, hone, hby⟩
      · rw [hnone] at hmoves
        cases hmoves
        cases hres
      · rw [hone] at hmoves
        cases hmoves with
        | stopped _ first =>
          cases hres
          exact ⟨first.protection_eq hi hused hby, first.triggerPrice_eq he₀⟩
        | moved _ others =>
          cases others
          cases hres

/-- The bracket filled in two parts: the stop-loss rests as `o0` over 4 and `o2` over 6. -/
def protectedInParts : World (List (String × OrderRequest)) :=
  ((handleFill .simulated "p" 10 10 none none).run
    ((handleFill .simulated "p" 4 10 none none).run
      ((register .simulated "p" sampleBracket).run (World.initial {} [])).2).2).2

/-- A leg with one order, and one with two. -/
theorem failed_move_harmless_bracket :
    protectedBracket.KeepsProtection "exit:sl:p" ∧
      ¬ protectedInParts.KeepsProtection "exit:sl:p" := by
  constructor
  · obtain ⟨e, he, hst, hleg, hprice⟩ := protectedBracket_stopLoss
    refine (failed_move_harmless_iff he).mpr (.inr ⟨⟨"o0", 10, .open, .stopLoss⟩, ?_, ?_⟩)
    · rw [ExitEntry.actualOrders, hst]
      rfl
    · rw [hleg, hprice]
      decide +kernel
  · have htwo : (protectedInParts.handler.getEntry "exit:sl:p").map
        (fun e => (e.actualOrders.filter ActualOrder.isActive).length) = some 2 := by decide +kernel
    obtain ⟨e, he, hlen⟩ := Option.map_eq_some_iff.mp htwo
    rw [failed_move_harmless_iff he]
    rintro (hnone | ⟨r, hone, -⟩)
    · rw [hnone] at hlen
      cases hlen
    · rw [hone] at hlen
      cases hlen

/-- The simulated provider, but able to modify the order `o0`. -/
def Ctx.modifiesFirst : Ctx (List (String × OrderRequest)) :=
  { Ctx.simulated with
    adapter := { TradingAdapter.simulated with
      modifyOrder := fun id r b =>
        if id = "o0" then
          (.ok ⟨{ ((b.lookup id).getD sampleBracket).toOrder id with stopPrice := r.stopPrice },
            none⟩, b)
        else (.error (.rateLimited none), b) } }

/-- The stop-loss is moved from 90 to 95. The first order moves, the second is refused: the answer
is that the leg is still protected, with one order at 95 and one at 90, and 95 in the entry. -/
theorem failed_move_leaves_half :
    let run := (replaceExitLeg .modifiesFirst "exit:sl:p" 95).run protectedInParts
    run.1 = .error (.stillProtected (.rateLimited none)) ∧
      protectedInParts.protection "exit:sl:p" .stopLoss = {(some 90, 4), (some 90, 6)} ∧
      run.2.protection "exit:sl:p" .stopLoss = {(some 95, 4), (some 90, 6)} ∧
      ¬ FailedMoveHarmless .modifiesFirst "exit:sl:p" 95 protectedInParts := by
  intro run
  have hres : run.1 = .error (.stillProtected (.rateLimited none)) := by decide +kernel
  refine ⟨hres, by decide +kernel, by decide +kernel, fun hharm => ?_⟩
  have hold : (protectedInParts.handler.getEntry "exit:sl:p").map ExitEntry.triggerPrice =
      some 90 := by decide +kernel
  obtain ⟨e, he, hprice⟩ := Option.map_eq_some_iff.mp hold
  have hnew := (hharm e _ he hres).2
  rw [hprice] at hnew
  have h95 : (run.2.handler.getEntry "exit:sl:p").map ExitEntry.triggerPrice = some 95 := by
    decide +kernel
  have heq := hnew.symm.trans h95
  norm_num at heq

end Gateway.Exit
