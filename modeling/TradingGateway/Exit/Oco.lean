import TradingGateway.Exit.History
import TradingGateway.Exit.Progressive
import Mathlib.Algebra.Order.BigOperators.Group.List

/-!
# Resolving a pair of exits

One primary order with a stop-loss and a take-profit, from its registration at a new handler on:
fills of the primary order, interleaved with full fills of the exit orders. The stop-loss orders
that are live are to cover what the fills opened and the exits have not closed yet.

The full fill of one exit order drops its whole leg and cancels the whole sibling leg, and fills
that come later find no leg. So the cover holds all along a run exactly if an exit order fills only
when it is the only order of its leg, and after that the fills open less than the minimum order
quantity (`oco_covered_iff`).

* `Opened`: the legs are tracked, and list what the provider accepted for them.
* `Resolved`: an exit order has filled, no leg is tracked and no exit order is live.
-/

namespace Gateway.Exit

variable {β : Type} {c : Ctx β} {issued : β → String → Prop}

/-! ## Runs on one primary order -/

/-- The world, and how much of the primary order has filled. -/
structure OcoState (β : Type) where
  world : World β
  entryFilled : Decimal

inductive OcoEvent where
  /-- A fill event of the primary order with cumulative quantity `f`. -/
  | entryFill (f : Decimal) (pid : Option String)
  /-- The exit order `orderId` of quantity `q` fills. -/
  | exitFill (orderId : String) (q : Decimal) (pid : Option String)

/-- One event, for a primary order of total quantity `T`. -/
def ocoStep (c : Ctx β) (primary : String) (T : Decimal) (s : OcoState β) : OcoEvent → OcoState β
  | .entryFill f pid => ⟨((handleFill c primary f T none pid).run s.world).2, f⟩
  | .exitFill id q pid => ⟨((handleFill c id q q none pid).run (s.world.fill id)).2, s.entryFilled⟩

/-- The state after the registration at a new handler. -/
def ocoStart (c : Ctx β) (primary : String) (order : OrderRequest) (b : β) : OcoState β :=
  ⟨((register c primary order).run (World.initial c.config b)).2, 0⟩

/-- Fills of the primary order grow up to the total; an exit order fills while it is live. -/
def OcoLegal (T : Decimal) (s : OcoState β) : OcoEvent → Prop
  | .entryFill f _ => s.entryFilled < f ∧ f ≤ T
  | .exitFill id q _ => ∃ a ∈ s.world.accepted, a.orderId = id ∧ a.quantity = q ∧ s.world.Live id

instance (T : Decimal) (s : OcoState β) : (ev : OcoEvent) → Decidable (OcoLegal T s ev)
  | .entryFill f _ => inferInstanceAs (Decidable (s.entryFilled < f ∧ f ≤ T))
  | .exitFill id q _ => inferInstanceAs (Decidable (∃ a ∈ s.world.accepted,
      a.orderId = id ∧ a.quantity = q ∧ s.world.Live id))

/-- The open quantity is covered by the live stop-loss orders, up to the minimum order quantity, and
each of them is listed in a tracked entry. -/
def OcoCovered (c : Ctx β) (primary : String) (s : OcoState β) : Prop :=
  0 < s.entryFilled - s.world.exitedQty →
    s.entryFilled - s.world.exitedQty - s.world.liveQty (generatePlaceholderId .stopLoss primary) <
        c.config.minExitOrderQty ∧
      ∀ a ∈ s.world.acceptedFor (generatePlaceholderId .stopLoss primary),
        s.world.Live a.orderId → s.world.Tracked a.orderId

/-- An exit order fills when it is the only one of its leg, and after that the fills of the primary
order open less than the minimum order quantity. -/
def OcoStepOk (c : Ctx β) (s : OcoState β) : OcoEvent → Prop
  | .entryFill f _ => s.world.filled ≠ [] → f - s.world.exitedQty < c.config.minExitOrderQty
  | .exitFill id _ _ => ∀ ph e, s.world.handler.getEntry ph = some e →
      (∃ o ∈ e.actualOrders, o.orderId = id) → e.actualOrders.length = 1

/-! ## While no exit has filled -/

/-- The order as the entry lists it. -/
def AcceptedOrder.toActual (leg : ExitLegType) (a : AcceptedOrder) : ActualOrder :=
  ⟨a.orderId, a.quantity, .open, leg⟩

@[simp] theorem AcceptedOrder.toActual_orderId (leg : ExitLegType) (a : AcceptedOrder) :
    (a.toActual leg).orderId = a.orderId := rfl

/-- The leg has seen fills up to `m`, and lists what the provider accepted for it. -/
structure OpenedLeg (c : Ctx β) (primary : String) (T m : Decimal) (w : World β) (leg : ExitLegType)
    (e : ExitEntry) : Prop where
  entry : w.handler.getEntry (generatePlaceholderId leg primary) = some e
  id : e.placeholderId = generatePlaceholderId leg primary
  parent : e.primaryOrderId = primary
  sibling : e.siblingId = some (generatePlaceholderId leg.other primary)
  legType : e.orderType = leg
  tracks : Tracks c.config.minExitOrderQty T m e
  orders : e.actualOrders =
    (w.acceptedFor (generatePlaceholderId leg primary)).map (AcceptedOrder.toActual leg)

/-- Both legs are open; `m leg` is the largest fill that the leg has seen. -/
structure Opened (c : Ctx β) (issued : β → String → Prop) (primary : String) (T : Decimal)
    (m : ExitLegType → Decimal) (w : World β) : Prop where
  leg : ∀ leg, ∃ e, OpenedLeg c primary T (m leg) w leg e
  only : ∀ ph e, w.handler.getEntry ph = some e → ∃ leg, ph = generatePlaceholderId leg primary
  index : ∀ p, w.handler.getPlaceholdersForPrimary p =
    if p = primary then
      [generatePlaceholderId .stopLoss primary, generatePlaceholderId .takeProfit primary]
    else []
  accepted : ∀ a ∈ w.accepted, (∃ leg, a.placeholderId = generatePlaceholderId leg primary) ∧
    c.config.minExitOrderQty ≤ a.quantity ∧ issued w.broker a.orderId ∧ a.orderId ≠ primary
  nodup : (w.accepted.map AcceptedOrder.orderId).Nodup
  primaryIssued : issued w.broker primary
  cancelled : w.cancelled = []
  filled : w.filled = []
  breaker : w.handler.circuitBreaker.isOpen = false

section opened

variable {primary : String} {T f : Decimal} {m : ExitLegType → Decimal} {pid : Option String}
  {w w' : World β}

theorem OpenedLeg.of_eq {leg : ExitLegType} {e : ExitEntry} {m : Decimal}
    (h : OpenedLeg c primary T m w leg e)
    (hentry : w'.handler.getEntry (generatePlaceholderId leg primary) =
      w.handler.getEntry (generatePlaceholderId leg primary))
    (hacc : w'.acceptedFor (generatePlaceholderId leg primary) =
      w.acceptedFor (generatePlaceholderId leg primary)) : OpenedLeg c primary T m w' leg e :=
  ⟨by rw [hentry, h.entry], h.id, h.parent, h.sibling, h.legType, h.tracks, by rw [hacc, h.orders]⟩

/-- The leg's next order is placed and recorded. -/
theorem OpenedLeg.place {leg : ExitLegType} {e : ExitEntry} {m : Decimal} {a : AcceptedOrder}
    (h : OpenedLeg c primary T m w leg e) (hd : 0 < c.config.minExitOrderQty) (hm : 0 ≤ m)
    (hf : m < f) (hq : c.config.minExitOrderQty ≤ qtyToPlace f T none e) (pid : Option String)
    (hqty : a.quantity = qtyToPlace f T none e)
    (hentry : w'.handler.getEntry (generatePlaceholderId leg primary) =
      some (recordPlacement ⟨a.orderId, qtyToPlace f T none e, .open, e.orderType⟩
        (partialFill f T) (e.attempted f pid)))
    (hacc : w'.acceptedFor (generatePlaceholderId leg primary) =
      w.acceptedFor (generatePlaceholderId leg primary) ++ [a]) :
    ∃ e', OpenedLeg c primary T f w' leg e' := by
  have hpend : (e.attempted f pid).isPending = true := h.tracks.isPending_of_place hf hq
  refine ⟨_, hentry, ?_, ?_, ?_, ?_, h.tracks.placed hd hm hf hq a.orderId pid, ?_⟩
  · rw [recordPlacement_eq]; exact h.id
  · rw [recordPlacement_eq]; exact h.parent
  · rw [recordPlacement_eq]; exact h.sibling
  · rw [recordPlacement_eq]; exact h.legType
  · have horders : (e.attempted f pid).actualOrders = e.actualOrders := rfl
    rw [recordPlacement_actualOrders _ _ _ hpend, horders, h.orders, hacc, h.legType]
    simp [AcceptedOrder.toActual, hqty]

/-- The ids stay distinct when the provider accepts an order of a leg under a new id. -/
theorem Opened.accepted_new (h : Opened c issued primary T m w) (leg : ExitLegType) {id : String}
    {r : OrderRequest} {b : β} (hmono : ∀ {id}, issued w.broker id → issued b id)
    (hfresh : ¬ issued w.broker id) (hnew : issued b id)
    (hmin : c.config.minExitOrderQty ≤ r.quantity) :
    (∀ a ∈ w.accepted ++ [AcceptedOrder.ofRequest id (generatePlaceholderId leg primary) r],
      (∃ leg, a.placeholderId = generatePlaceholderId leg primary) ∧
        c.config.minExitOrderQty ≤ a.quantity ∧ issued b a.orderId ∧ a.orderId ≠ primary) ∧
    ((w.accepted ++ [AcceptedOrder.ofRequest id (generatePlaceholderId leg primary) r]).map
      AcceptedOrder.orderId).Nodup := by
  refine ⟨fun a ha => ?_, ?_⟩
  · rcases List.mem_append.mp ha with hold | hlast
    · obtain ⟨hleg, hq, his, hnp⟩ := h.accepted a hold
      exact ⟨hleg, hq, hmono his, hnp⟩
    · obtain rfl := List.mem_singleton.mp hlast
      exact ⟨⟨leg, rfl⟩, hmin, hnew, fun heq : id = primary => hfresh (heq ▸ h.primaryIssued)⟩
  · rw [List.map_append, List.nodup_append]
    refine ⟨h.nodup, by simp, ?_⟩
    intro id₁ hold id₂ hlast heq
    obtain ⟨a, ha, rfl⟩ := List.mem_map.mp hold
    obtain rfl : id₂ = id := by simpa [AcceptedOrder.ofRequest] using hlast
    exact hfresh (heq ▸ (h.accepted a ha).2.2.1)

variable (l : List AcceptedOrder) {leg : ExitLegType} {e : ExitEntry} {a : AcceptedOrder}
  {ph : String}

theorem Opened.step (ha : c.adapter.AcceptsSubmits) (hi : c.adapter.IssuesIds issued)
    (hd : 0 < c.config.minExitOrderQty) (hm : 0 ≤ m leg) (hf : m leg < f)
    (h : Opened c issued primary T m w)
    (hs : FillStep c (generatePlaceholderId leg primary) f T none pid w w') :
    Opened c issued primary T (Function.update m leg f) w' := by
  obtain ⟨e, he⟩ := h.leg leg
  have hel : Eligible f e := (he.tracks.eligible_iff (lt_of_le_of_lt hm hf)).mpr hf
  have hne : ∀ leg', leg' ≠ leg →
      generatePlaceholderId leg' primary ≠ generatePlaceholderId leg primary :=
    fun leg' hl heq => hl (generatePlaceholderId_inj heq).1
  have honly : ∀ ph e, w'.handler.getEntry ph = some e →
      ∃ leg, ph = generatePlaceholderId leg primary := by
    intro ph e' he'
    by_cases hph : ph = generatePlaceholderId leg primary
    · exact ⟨leg, hph⟩
    · rw [hs.getEntry_ne hph] at he'
      exact h.only ph e' he'
  have hindex := fun p => (hs.placeholders p).trans (h.index p)
  have hbreaker : w'.handler.circuitBreaker.isOpen = false := by rw [hs.breaker ha]; exact h.breaker
  -- the other leg keeps its entry; whether it keeps its orders depends on what was accepted
  have hother : (∀ leg', leg' ≠ leg → w'.acceptedFor (generatePlaceholderId leg' primary) =
        w.acceptedFor (generatePlaceholderId leg' primary)) →
      (∃ e', OpenedLeg c primary T f w' leg e') →
      ∀ leg', ∃ e', OpenedLeg c primary T (Function.update m leg f leg') w' leg' e' := by
    intro hacc hself leg'
    by_cases hl : leg' = leg
    · subst hl
      simpa using hself
    · obtain ⟨e', he'⟩ := h.leg leg'
      rw [Function.update_of_ne hl]
      exact ⟨e', he'.of_eq (hs.getEntry_ne (hne leg' hl)) (hacc leg' hl)⟩
  obtain ⟨_, hs⟩ := hs
  cases hs with
  | skipped _ hskip => exact absurd hel (hskip e he.entry)
  | refused _ _ _ _ _ _ hr | failed _ _ _ _ _ _ _ _ hr =>
    exact absurd hr (acceptsPlacement_ne_false ha _ _)
  | breakerOpen _ _ _ hopen => cases h.breaker.symm.trans hopen
  | belowMinimum he₀ _ hq' =>
    rw [he.entry] at he₀
    cases he₀
    refine ⟨hother (fun _ _ => rfl) ⟨e.attempted f none, ?_, he.id, he.parent, he.sibling,
      he.legType, he.tracks.deferred hm hf hq', he.orders⟩, honly, hindex, h.accepted, h.nodup,
      h.primaryIssued, h.cancelled, h.filled, hbreaker⟩
    simp [World.updateEntry, he.entry]
  | @placed _ handle o b he₀ _ hq _ hc =>
    rw [he.entry] at he₀
    cases he₀
    obtain ⟨hid, hqty⟩ := hc.id_quantity ha
    obtain ⟨hfresh, hnew⟩ := hc.issued hi
    have hmono : ∀ {id}, issued w.broker id → issued b id := fun h => hi.mono hc.reaches h
    obtain ⟨hall, hnodup⟩ :=
      h.accepted_new leg (r := fillRequest f T none pid e) hmono hfresh hnew hq
    refine ⟨hother (fun leg' hl => ?_) (he.place (a := .ofRequest handle.id
        (generatePlaceholderId leg primary) (fillRequest f T none pid e)) hd hm hf hq pid rfl ?_
        ?_), honly, hindex, hall, hnodup, hmono h.primaryIssued, h.cancelled, h.filled, hbreaker⟩
    · exact (acceptedFor_accept _ _ _ _ _).trans (by simp [(hne leg' hl).symm]; rfl)
    · simp only [World.updateEntry, World.accept, ExitHandler.getEntry_modifyEntry_self, he.entry,
        Option.map_some, hid, hqty]
      rfl
    · exact (acceptedFor_accept _ _ _ _ _).trans (by simp; rfl)

theorem Opened.entryFill (ha : c.adapter.AcceptsSubmits) (hi : c.adapter.IssuesIds issued)
    (hd : 0 < c.config.minExitOrderQty) {m : Decimal} (hm : 0 ≤ m) (hf : m < f) (hT : 0 < T)
    (h : Opened c issued primary T (fun _ => m) w) (pid : Option String) :
    Opened c issued primary T (fun _ => f) ((handleFill c primary f T none pid).run w).2 := by
  have hev := run_handleFill (c := c) primary f T none pid w
  have hidx := h.index primary
  rw [if_pos rfl] at hidx
  generalize ((handleFill c primary f T none pid).run w).2 = w' at hev ⊢
  cases hev with
  | ignored hq => exact absurd hq (not_or.mpr ⟨not_le.mpr (lt_of_le_of_lt hm hf), not_le.mpr hT⟩)
  | exitPartial _ _ hp | exitFull _ _ hp | unmatched _ _ hp => simp [hidx] at hp
  | primary _ _ _ hs =>
    rw [hidx] at hs
    obtain _ | ⟨hsl, _ | ⟨htp, _ | _⟩⟩ := hs
    have h₁ : Opened c issued primary T (Function.update (fun _ => m) .stopLoss f) _ :=
      h.step ha hi hd hm hf hsl
    have h' := h₁.step ha hi hd (by simpa using hm) (by simpa using hf) htp
    convert h' using 1
    funext leg
    cases leg <;> simp

/-! ### The cover -/

theorem coverage_map_toActual (leg : ExitLegType) :
    calculateActiveCoverage (l.map (AcceptedOrder.toActual leg)) leg =
      (l.map AcceptedOrder.quantity).sum := by
  induction l with
  | nil => rfl
  | cons a l ih =>
    rw [List.map_cons, List.map_cons, List.sum_cons, ← ih, ← List.singleton_append,
      calculateActiveCoverage_append]
    exact congrArg (· + _) (calculateActiveCoverage_open _ _ _)

theorem activeIds_map_toActual (leg : ExitLegType) :
    activeIds (l.map (AcceptedOrder.toActual leg)) = l.map AcceptedOrder.orderId := by
  induction l with
  | nil => rfl
  | cons a l ih =>
    have hact : (a.toActual leg).isActive = true := rfl
    simpa [activeIds, hact] using ih

theorem OpenedLeg.coverage {m : Decimal} (h : OpenedLeg c primary T m w leg e) :
    e.coverage =
      ((w.acceptedFor (generatePlaceholderId leg primary)).map AcceptedOrder.quantity).sum := by
  rw [ExitEntry.coverage, h.orders, h.legType, coverage_map_toActual]

/-- While no exit has filled, the open quantity is covered. -/
theorem Opened.covered {m : Decimal} (hmT : m ≤ T) (h : Opened c issued primary T (fun _ => m) w) :
    OcoCovered c primary ⟨w, m⟩ := by
  have hlive : ∀ id, w.Live id := fun id => ⟨by simp [h.cancelled], by simp [h.filled]⟩
  have hex : w.exitedQty = 0 := by simp [World.exitedQty, h.filled]
  obtain ⟨e, he⟩ := h.leg .stopLoss
  intro _
  refine ⟨?_, fun a ha' _ => ?_⟩
  · have hgap := he.tracks.gap
    rw [min_eq_right hmT, he.coverage] at hgap
    simpa [hex, World.liveQty, hlive] using hgap
  · refine ⟨_, e, he.entry, a.toActual .stopLoss, ?_, rfl⟩
    rw [he.orders]
    exact List.mem_map_of_mem ha'

/-! ### The full fill of an exit order -/

/-- The entry that lists an accepted order is its own leg's. -/
theorem Opened.lists_iff (h : Opened c issued primary T m w)
    (ha : a ∈ w.acceptedFor (generatePlaceholderId leg primary))
    (he : w.handler.getEntry ph = some e) (hlist : ∃ o ∈ e.actualOrders, o.orderId = a.orderId) :
    ph = generatePlaceholderId leg primary := by
  obtain ⟨leg', rfl⟩ := h.only ph e he
  obtain ⟨e', he'⟩ := h.leg leg'
  obtain rfl : e = e' := Option.some.inj (he.symm.trans he'.entry)
  obtain ⟨o, ho, hid⟩ := hlist
  rw [he'.orders] at ho
  obtain ⟨a', ha', rfl⟩ := List.mem_map.mp ho
  obtain ⟨hmem, hph⟩ := List.mem_filter.mp ha
  obtain ⟨hmem', hph'⟩ := List.mem_filter.mp ha'
  obtain rfl : a' = a := List.inj_on_of_nodup_map h.nodup hmem' hmem hid
  simp only [decide_eq_true_eq] at hph hph'
  rw [← hph, ← hph']

theorem Opened.getEntry_none (h : Opened c issued primary T m w) (leg : ExitLegType)
    (h₁ : ph ≠ generatePlaceholderId leg primary)
    (h₂ : ph ≠ generatePlaceholderId leg.other primary) : w.handler.getEntry ph = none := by
  cases hget : w.handler.getEntry ph with
  | none => rfl
  | some e =>
    obtain ⟨leg', rfl⟩ := h.only ph e hget
    cases leg <;> cases leg' <;> simp [ExitLegType.other] at h₁ h₂

theorem Opened.getEntry_removeBoth (h : Opened c issued primary T m w) (leg : ExitLegType)
    (ph : String) :
    ((w.handler.removePendingEntry (generatePlaceholderId leg primary) primary).removePendingEntry
      (generatePlaceholderId leg.other primary) primary).getEntry ph = none := by
  rw [ExitHandler.getEntry_removePendingEntry, ExitHandler.getEntry_removePendingEntry]
  by_cases h₁ : ph = generatePlaceholderId leg.other primary
  · rw [if_pos h₁]
  · by_cases h₂ : ph = generatePlaceholderId leg primary
    · rw [if_neg h₁, if_pos h₂]
    · rw [if_neg h₁, if_neg h₂]
      exact h.getEntry_none leg h₂ h₁

theorem Opened.placeholders_removeBoth (h : Opened c issued primary T m w) (leg : ExitLegType)
    (p : String) :
    ((w.handler.removePendingEntry (generatePlaceholderId leg primary) primary).removePendingEntry
      (generatePlaceholderId leg.other primary) primary).getPlaceholdersForPrimary p = [] := by
  simp only [ExitHandler.getPlaceholdersForPrimary_removePendingEntry, h.index]
  by_cases hp : p = primary
  · cases leg <;> simp [hp, ExitLegType.other]
  · simp [hp]

/-- What the full fill of the order `a` of the leg `leg` makes of the world `w`: both legs are
dropped and the other leg's orders are cancelled. -/
structure AfterExit (primary : String) (leg : ExitLegType) (a : AcceptedOrder) (w w' : World β) :
    Prop where
  entries : ∀ ph, w'.handler.getEntry ph = none
  index : ∀ p, w'.handler.getPlaceholdersForPrimary p = []
  accepted : w'.accepted = w.accepted
  filled : w'.filled = [a.orderId]
  cancelled : w'.cancelled =
    (w.acceptedFor (generatePlaceholderId leg.other primary)).map AcceptedOrder.orderId

theorem Opened.exitFill (hcan : c.adapter.AcceptsCancels) (hd : 0 < c.config.minExitOrderQty)
    (h : Opened c issued primary T m w) (ha : a ∈ w.acceptedFor (generatePlaceholderId leg primary))
    (pid : Option String) :
    AfterExit primary leg a w
      ((handleFill c a.orderId a.quantity a.quantity none pid).run (w.fill a.orderId)).2 := by
  have hmem : a ∈ w.accepted := (List.mem_filter.mp ha).1
  obtain ⟨-, hmin, -, hnp⟩ := h.accepted a hmem
  obtain ⟨e, he⟩ := h.leg leg
  obtain ⟨e', he'⟩ := h.leg leg.other
  have hlist : ∃ o ∈ e.actualOrders, o.orderId = a.orderId :=
    ⟨a.toActual leg, by rw [he.orders]; exact List.mem_map_of_mem ha, rfl⟩
  have hidx : w.handler.getPlaceholdersForPrimary a.orderId = [] := by rw [h.index, if_neg hnp]
  have hev := run_handleFill (c := c) a.orderId a.quantity a.quantity none pid (w.fill a.orderId)
  generalize ((handleFill c a.orderId a.quantity a.quantity none pid).run (w.fill a.orderId)).2 = w'
    at hev ⊢
  cases hev with
  | ignored hq => exact absurd hq (by simpa using lt_of_lt_of_le hd hmin)
  | primary _ _ hp => exact absurd hidx hp
  | exitPartial _ _ _ _ hlt => exact absurd hlt (lt_irrefl _)
  | unmatched _ _ _ hnone =>
    obtain ⟨o, ho, hid⟩ := hlist
    exact absurd hid ((ExitHandler.findEntryByActualOrder_none _).mp hnone _ e he.entry o ho)
  | @exitFull e₀ _ _ _ _ hfind _ hoco =>
    -- the scan finds the leg of the order
    obtain ⟨⟨ph, hph⟩, hlist'⟩ := ExitHandler.findEntryByActualOrder_some _ hfind
    obtain rfl := h.lists_iff ha hph hlist'
    obtain rfl : e = e₀ := Option.some.inj (he.entry.symm.trans hph)
    have hne : generatePlaceholderId leg.other primary ≠ generatePlaceholderId leg primary := by
      intro heq
      cases leg <;> cases (generatePlaceholderId_inj heq).1
    have hsib : ((w.fill a.orderId).dropEntry e.placeholderId e.primaryOrderId).handler.getEntry
        (generatePlaceholderId leg.other primary) = some e' := by
      simp [World.dropEntry, World.fill, ExitHandler.getEntry_removePendingEntry, he.id, hne,
        he'.entry]
    cases hoco with
    | alone halone =>
      have := halone _ he.sibling
      rw [hsib] at this
      cases this
    | retained _ _ _ _ _ hr => exact absurd hcan hr
    | resolved _ hs he₁ =>
      obtain rfl := Option.some.inj (he.sibling.symm.trans hs)
      obtain rfl := Option.some.inj (hsib.symm.trans he₁)
      refine ⟨fun ph => ?_, fun p => ?_, rfl, by simp [World.dropEntry, World.fill, h.filled], ?_⟩
      · simp only [World.dropEntry, World.fill, he.id, he.parent]
        exact h.getEntry_removeBoth leg ph
      · simp only [World.dropEntry, World.fill, he.id, he.parent]
        exact h.placeholders_removeBoth leg p
      · simp [World.dropEntry, World.fill, h.cancelled, he'.orders, activeIds_map_toActual]

end opened

/-! ## Once an exit has filled -/

/-- No leg is tracked and no exit order is live; less than the minimum is open. -/
structure Resolved (c : Ctx β) (s : OcoState β) : Prop where
  entries : ∀ ph, s.world.handler.getEntry ph = none
  index : ∀ p, s.world.handler.getPlaceholdersForPrimary p = []
  dead : ∀ a ∈ s.world.accepted, ¬ s.world.Live a.orderId
  filled : s.world.filled ≠ []
  nonneg : 0 ≤ s.entryFilled
  gap : s.entryFilled - s.world.exitedQty < c.config.minExitOrderQty

theorem liveQty_eq_zero {w : World β} {ph : String}
    (hdead : ∀ a ∈ w.acceptedFor ph, ¬ w.Live a.orderId) : w.liveQty ph = 0 := by
  have hnil : (w.acceptedFor ph).filter (fun a => decide (w.Live a.orderId)) = [] := by
    simpa [List.filter_eq_nil_iff] using hdead
  rw [World.liveQty, hnil]
  rfl

theorem Resolved.covered {primary : String} {s : OcoState β} (h : Resolved c s) :
    OcoCovered c primary s := by
  intro _
  have hdead : ∀ a ∈ s.world.acceptedFor (generatePlaceholderId .stopLoss primary),
      ¬ s.world.Live a.orderId := fun a ha => h.dead a (List.mem_filter.mp ha).1
  refine ⟨?_, fun a ha hlive => absurd hlive (hdead a ha)⟩
  rw [liveQty_eq_zero hdead, sub_zero]
  exact h.gap

/-- A fill of the primary order is buffered: no leg is there to cover it. -/
theorem Resolved.entryFill {s : OcoState β} (h : Resolved c s) {primary : String} {T f : Decimal}
    (hf : 0 < f) (hT : 0 < T) (pid : Option String) :
    ((handleFill c primary f T none pid).run s.world).2 =
      { s.world with
        handler := bufferUnmatchedFill (c.adapter.now s.world.broker) primary f T none pid
          s.world.handler } := by
  have hev := run_handleFill (c := c) primary f T none pid s.world
  generalize ((handleFill c primary f T none pid).run s.world).2 = w' at hev ⊢
  cases hev with
  | ignored hq => exact absurd hq (not_or.mpr ⟨not_le.mpr hf, not_le.mpr hT⟩)
  | primary _ _ hp => exact absurd (h.index primary) hp
  | exitPartial _ _ _ he | exitFull _ _ _ he =>
    obtain ⟨⟨ph, hph⟩, -⟩ := ExitHandler.findEntryByActualOrder_some _ he
    rw [h.entries] at hph
    cases hph
  | unmatched => rfl

theorem exitedQty_single {w : World β} (hn : (w.accepted.map AcceptedOrder.orderId).Nodup)
    {a : AcceptedOrder} (ha : a ∈ w.accepted) (hf : w.filled = [a.orderId]) :
    w.exitedQty = a.quantity := by
  have hfilter : w.accepted.filter (fun x => decide (x.orderId ∈ [a.orderId])) = [a] := by
    generalize w.accepted = l at hn ha
    induction l with
    | nil => cases ha
    | cons x l ih =>
      obtain ⟨hx, hl⟩ := List.nodup_cons.mp hn
      by_cases hxa : x = a
      · subst hxa
        have hrest : l.filter (fun y => decide (y.orderId = x.orderId)) = [] := by
          refine List.filter_eq_nil_iff.mpr fun y hy hid => hx ?_
          exact of_decide_eq_true hid ▸ List.mem_map_of_mem hy
        simp [hrest]
      · have hmem : a ∈ l := (List.mem_cons.mp ha).resolve_left fun h => hxa h.symm
        have hid : x.orderId ≠ a.orderId := fun h => hx (h ▸ List.mem_map_of_mem hmem)
        simpa [hid] using ih hl hmem
  rw [World.exitedQty, hf, hfilter]
  simp

/-- Of a leg with more than one order, one order leaves at least the minimum over. -/
theorem other_order_le_sum {l : List AcceptedOrder} {d : Decimal} (hd : 0 ≤ d)
    (hmin : ∀ a ∈ l, d ≤ a.quantity) {a a' : AcceptedOrder} (ha : a ∈ l) (ha' : a' ∈ l)
    (hne : a' ≠ a) : a.quantity + d ≤ (l.map AcceptedOrder.quantity).sum := by
  rw [← List.sum_map_erase AcceptedOrder.quantity ha]
  have hmem : a' ∈ l.erase a := (List.mem_erase_of_ne hne).mpr ha'
  have hle : a'.quantity ≤ ((l.erase a).map AcceptedOrder.quantity).sum := by
    refine List.single_le_sum (fun x hx => ?_) _ (List.mem_map_of_mem hmem)
    obtain ⟨y, hy, rfl⟩ := List.mem_map.mp hx
    exact le_trans hd (hmin y (List.mem_of_mem_erase hy))
  have := hmin a' ha'
  linarith

/-! ## Every run -/

/-- The invariant of a run that has kept the cover so far. -/
def OcoInv (c : Ctx β) (issued : β → String → Prop) (primary : String) (T : Decimal)
    (s : OcoState β) : Prop :=
  (Opened c issued primary T (fun _ => s.entryFilled) s.world ∧ 0 ≤ s.entryFilled ∧
    s.entryFilled ≤ T) ∨ Resolved c s

section run

variable {primary : String} {T : Decimal} {m : ExitLegType → Decimal} {s : OcoState β} {w : World β}

theorem OcoInv.covered (h : OcoInv c issued primary T s) : OcoCovered c primary s := by
  rcases h with ⟨ho, -, hT⟩ | hr
  · exact ho.covered hT
  · exact hr.covered

variable {a a' : AcceptedOrder} {leg : ExitLegType} {w' : World β} {n : Decimal}

theorem Opened.eq_of_orderId (h : Opened c issued primary T m w) (ha : a ∈ w.accepted)
    (ha' : a' ∈ w.accepted) (hid : a.orderId = a'.orderId) : a = a' :=
  List.inj_on_of_nodup_map h.nodup ha ha' hid

theorem Opened.mem_acceptedFor (h : Opened c issued primary T m w) (ha : a ∈ w.accepted) :
    ∃ leg, a ∈ w.acceptedFor (generatePlaceholderId leg primary) := by
  obtain ⟨⟨leg, hleg⟩, -⟩ := h.accepted a ha
  exact ⟨leg, by simp [World.acceptedFor, ha, hleg]⟩

/-- Only the order's own leg lists it. -/
theorem Opened.stepOk_iff (h : Opened c issued primary T m s.world)
    (ha : a ∈ s.world.acceptedFor (generatePlaceholderId leg primary)) (q : Decimal)
    (pid : Option String) : OcoStepOk c s (.exitFill a.orderId q pid) ↔
      (s.world.acceptedFor (generatePlaceholderId leg primary)).length = 1 := by
  obtain ⟨e, he⟩ := h.leg leg
  have hlen : e.actualOrders.length =
      (s.world.acceptedFor (generatePlaceholderId leg primary)).length := by rw [he.orders]; simp
  constructor
  · intro hok
    rw [← hlen]
    exact hok _ e he.entry ⟨a.toActual leg, by rw [he.orders]; exact List.mem_map_of_mem ha, rfl⟩
  · intro hone ph e' he' hlist
    obtain rfl := h.lists_iff ha he' hlist
    obtain rfl : e = e' := Option.some.inj (he.entry.symm.trans he')
    rw [hlen, hone]

/-- A leg with an order and not exactly one has another order. -/
theorem Opened.exists_other_order (h : Opened c issued primary T m w) {ph : String}
    (ha : a ∈ w.acceptedFor ph) (hmany : (w.acceptedFor ph).length ≠ 1) :
    ∃ a' ∈ w.acceptedFor ph, a' ≠ a := by
  by_contra hnone
  have hall : ∀ x ∈ w.acceptedFor ph, x = a :=
    fun x hx => by_contra fun hne => hnone ⟨x, hx, hne⟩
  have hnodup : (w.acceptedFor ph).Nodup := (h.nodup.of_map _).filter _
  rw [List.eq_replicate_of_mem hall, List.nodup_replicate] at hnodup
  have hpos := List.length_pos_of_mem ha
  omega

theorem AfterExit.exitedQty (hx : AfterExit primary leg a w w') (h : Opened c issued primary T m w)
    (ha : a ∈ w.accepted) : w'.exitedQty = a.quantity :=
  exitedQty_single (by rw [hx.accepted]; exact h.nodup) (by rw [hx.accepted]; exact ha) hx.filled

/-- The order was all there was of its leg, and the other leg is cancelled. -/
theorem AfterExit.resolved (hx : AfterExit primary leg a w w')
    (h : Opened c issued primary T (fun _ => n) w) (hn : 0 ≤ n) (hT : n ≤ T)
    (hone : w.acceptedFor (generatePlaceholderId leg primary) = [a]) :
    Resolved c ⟨w', n⟩ := by
  have ha : a ∈ w.acceptedFor (generatePlaceholderId leg primary) := by simp [hone]
  refine ⟨hx.entries, hx.index, fun a' ha' hlive => ?_, by simp [hx.filled], hn, ?_⟩
  · rw [hx.accepted] at ha'
    obtain ⟨leg', hfor⟩ := h.mem_acceptedFor ha'
    by_cases hll : leg' = leg
    · subst hll
      obtain rfl : a' = a := by simpa [hone] using hfor
      exact hlive.2 (by simp [hx.filled])
    · have hother : leg' = leg.other := by
        cases leg <;> cases leg' <;> simp_all [ExitLegType.other]
      subst hother
      exact hlive.1 (by rw [hx.cancelled]; exact List.mem_map_of_mem hfor)
  · obtain ⟨e, he⟩ := h.leg leg
    have hgap := he.tracks.gap
    rw [min_eq_right hT, he.coverage, hone] at hgap
    simpa [hx.exitedQty h (List.mem_filter.mp ha).1] using hgap

/-- Another stop-loss order than the filled one stays live at the provider. -/
theorem AfterExit.live_other (hx : AfterExit primary .stopLoss a w w')
    (h : Opened c issued primary T m w) (ha : a ∈ w.accepted)
    (ha' : a' ∈ w.acceptedFor (generatePlaceholderId .stopLoss primary)) (hne : a' ≠ a) :
    w'.Live a'.orderId := by
  obtain ⟨hmem', hph⟩ := List.mem_filter.mp ha'
  refine ⟨fun hin => ?_, fun hin => ?_⟩
  · rw [hx.cancelled] at hin
    obtain ⟨x, hx, hid⟩ := List.mem_map.mp hin
    obtain ⟨hxmem, hxph⟩ := List.mem_filter.mp hx
    obtain rfl := h.eq_of_orderId hxmem hmem' hid
    simp only [decide_eq_true_eq] at hph hxph
    exact absurd (hph.symm.trans hxph) (stopLossId_ne_takeProfitId primary)
  · rw [hx.filled, List.mem_singleton] at hin
    exact hne (h.eq_of_orderId hmem' ha hin)

/-- Another order of the leg is left over: at least the minimum is open, and nothing covers it that
an entry lists. -/
theorem AfterExit.not_covered (hx : AfterExit primary leg a w w')
    (hd : 0 < c.config.minExitOrderQty) (h : Opened c issued primary T (fun _ => n) w) (hT : n ≤ T)
    (ha : a ∈ w.acceptedFor (generatePlaceholderId leg primary))
    (ha' : a' ∈ w.acceptedFor (generatePlaceholderId leg primary)) (hne : a' ≠ a) :
    ¬ OcoCovered c primary ⟨w', n⟩ := by
  intro hcovered
  have hmem := (List.mem_filter.mp ha).1
  have hex := hx.exitedQty h hmem
  have hopen : c.config.minExitOrderQty ≤ n - a.quantity := by
    obtain ⟨e, he⟩ := h.leg leg
    have hle := he.tracks.le
    rw [min_eq_right hT, he.coverage] at hle
    have hmin : ∀ x ∈ w.acceptedFor (generatePlaceholderId leg primary),
        c.config.minExitOrderQty ≤ x.quantity :=
      fun x hin => (h.accepted x (List.mem_filter.mp hin).1).2.1
    have hsum := other_order_le_sum hd.le hmin ha ha' hne
    linarith
  obtain ⟨hcover, htracked⟩ := hcovered (by simp only [hex]; exact lt_of_lt_of_le hd hopen)
  simp only [hex] at hcover
  have hfor : ∀ ph, w'.acceptedFor ph = w.acceptedFor ph := fun ph => by
    simp only [World.acceptedFor, hx.accepted]
  cases leg with
  | takeProfit =>
    -- the stop-loss orders are all cancelled
    have hzero : w'.liveQty (generatePlaceholderId .stopLoss primary) = 0 := by
      refine liveQty_eq_zero fun x hin hlive => hlive.1 ?_
      rw [hfor] at hin
      rw [hx.cancelled]
      exact List.mem_map_of_mem hin
    rw [hzero, sub_zero] at hcover
    exact absurd hcover (not_lt.mpr hopen)
  | stopLoss =>
    -- the left-over stop-loss order is live and no entry lists it
    obtain ⟨ph, e', he', -⟩ :=
      htracked a' (by rw [hfor]; exact ha') (hx.live_other h hmem ha' hne)
    rw [hx.entries] at he'
    cases he'

/-- The fill of an exit order keeps the invariant exactly if the order is the only one of its leg;
otherwise the cover is lost. -/
theorem Opened.exitFill_iff (hcan : c.adapter.AcceptsCancels) (hd : 0 < c.config.minExitOrderQty)
    (h : Opened c issued primary T (fun _ => s.entryFilled) s.world) (hm : 0 ≤ s.entryFilled)
    (hT : s.entryFilled ≤ T) {id : String} {q : Decimal} (pid : Option String)
    (hl : OcoLegal T s (.exitFill id q pid)) :
    (OcoStepOk c s (.exitFill id q pid) → Resolved c (ocoStep c primary T s (.exitFill id q pid))) ∧
    (¬ OcoStepOk c s (.exitFill id q pid) →
      ¬ OcoCovered c primary (ocoStep c primary T s (.exitFill id q pid))) := by
  obtain ⟨a, hmem, rfl, rfl, -⟩ := hl
  obtain ⟨leg, ha⟩ := h.mem_acceptedFor hmem
  have hx := h.exitFill hcan hd ha pid
  rw [h.stepOk_iff ha]
  refine ⟨fun hone => ?_, fun hmany => ?_⟩
  · obtain ⟨x, hone⟩ := List.length_eq_one_iff.mp hone
    obtain rfl : a = x := by simpa [hone] using ha
    exact hx.resolved h hm hT hone
  · obtain ⟨a', ha', hne⟩ := h.exists_other_order ha hmany
    exact hx.not_covered hd h hT ha ha' hne

theorem Opened.start {order : OrderRequest} {b : β} {legs : RegisteredExitLegs}
    (hp : issued b primary)
    (hreg : ((register c primary order).run (World.initial c.config b)).1 = .ok legs)
    (hsl : order.stopLoss.isSome = true) (htp : order.takeProfit.isSome = true)
    (hd : 0 < c.config.minExitOrderQty) (hT : 0 < T) :
    Opened c issued primary T (fun _ => 0) (ocoStart c primary order b).world := by
  have hstep := run_register (c := c) primary order (World.initial c.config b)
  rw [hreg] at hstep
  unfold ocoStart
  generalize ((register c primary order).run (World.initial c.config b)).2 = w at hstep ⊢
  cases hstep with
  | empty h => simp [h] at hsl
  | one leg _ _ hleg =>
    cases leg with
    | stopLoss => simp [hleg.2] at htp
    | takeProfit => simp [hleg.2] at hsl
  | @both sl tp =>
    have hne := stopLossId_ne_takeProfitId primary
    refine ⟨fun leg => ?_, fun ph e he => ?_, fun p => ?_, by simp [World.initial],
      by simp [World.initial], hp, rfl, rfl, rfl⟩
    · cases leg with
      | stopLoss =>
        refine ⟨(legEntry c primary order .stopLoss sl (c.adapter.now b)).setSibling
          (generatePlaceholderId .takeProfit primary), ?_, rfl, rfl, rfl, rfl,
          .start hd hT rfl rfl, rfl⟩
        rw [ExitHandler.getEntry_registerPair, if_pos rfl]
        rfl
      | takeProfit =>
        refine ⟨(legEntry c primary order .takeProfit tp (c.adapter.now b)).setSibling
          (generatePlaceholderId .stopLoss primary), ?_, rfl, rfl, rfl, rfl,
          .start hd hT rfl rfl, rfl⟩
        rw [ExitHandler.getEntry_registerPair, if_neg hne.symm, if_pos rfl]
        rfl
    · by_contra hnone
      have h₁ : ph ≠ generatePlaceholderId .stopLoss primary := fun h => hnone ⟨_, h⟩
      have h₂ : ph ≠ generatePlaceholderId .takeProfit primary := fun h => hnone ⟨_, h⟩
      simp [ExitHandler.getEntry_registerPair, h₁, h₂, World.initial] at he
    · simp [ExitHandler.getPlaceholdersForPrimary_registerPair, World.initial]

/-- A step that meets the condition keeps the invariant, and one that does not loses the cover. -/
theorem OcoInv.step (ha : c.adapter.AcceptsSubmits) (hcan : c.adapter.AcceptsCancels)
    (hi : c.adapter.IssuesIds issued) (hd : 0 < c.config.minExitOrderQty) (ev : OcoEvent)
    (h : OcoInv c issued primary T s) (hl : OcoLegal T s ev) :
    (OcoStepOk c s ev → OcoInv c issued primary T (ocoStep c primary T s ev)) ∧
    (¬ OcoStepOk c s ev → ¬ OcoCovered c primary (ocoStep c primary T s ev)) := by
  rcases h with ⟨ho, hm, hT⟩ | hr
  · cases ev with
    | entryFill f pid =>
      obtain ⟨hmf, hfT⟩ := hl
      have hf : 0 < f := lt_of_le_of_lt hm hmf
      refine ⟨fun _ => .inl ⟨ho.entryFill ha hi hd hm hmf (lt_of_lt_of_le hf hfT) pid, hf.le, hfT⟩,
        fun hn => absurd (fun hfil => absurd ho.filled hfil) hn⟩
    | exitFill id q pid =>
      obtain ⟨hok, hnot⟩ := ho.exitFill_iff hcan hd hm hT pid hl
      exact ⟨fun h => .inr (hok h), hnot⟩
  · cases ev with
    | exitFill id q pid =>
      obtain ⟨a, hmem, rfl, -, hlive⟩ := hl
      exact absurd hlive (hr.dead a hmem)
    | entryFill f pid =>
      obtain ⟨hmf, hfT⟩ := hl
      have hf : 0 < f := lt_of_le_of_lt hr.nonneg hmf
      have hstep : ocoStep c primary T s (.entryFill f pid) = ⟨_, f⟩ := rfl
      rw [hr.entryFill hf (lt_of_lt_of_le hf hfT)] at hstep
      rw [hstep]
      refine ⟨fun hok => .inr ⟨hr.entries, hr.index, hr.dead, hr.filled, hf.le, hok hr.filled⟩,
        fun hnot hcov => hnot fun _ => ?_⟩
      -- no stop-loss order is live, so what is open must be below the minimum
      by_cases hpos : 0 < f - s.world.exitedQty
      · have hcover : f - s.world.exitedQty -
            s.world.liveQty (generatePlaceholderId .stopLoss primary) < _ := (hcov hpos).1
        rwa [liveQty_eq_zero fun a ha => hr.dead a (List.mem_filter.mp ha).1, sub_zero] at hcover
      · exact lt_of_le_of_lt (not_lt.mp hpos) hd

/-- All along a run, the open quantity is covered by live and tracked stop-loss orders exactly if
each exit order that fills is the only one of its leg and, once one has filled, the fills of the
primary order open less than the minimum order quantity. -/
theorem oco_covered_iff (ha : c.adapter.AcceptsSubmits) (hcan : c.adapter.AcceptsCancels)
    (hi : c.adapter.IssuesIds issued) (hd : 0 < c.config.minExitOrderQty) {order : OrderRequest}
    {b : β} (hp : issued b primary) {legs : RegisteredExitLegs}
    (hreg : ((register c primary order).run (World.initial c.config b)).1 = .ok legs)
    (hsl : order.stopLoss.isSome = true) (htp : order.takeProfit.isSome = true) (hT : 0 < T)
    (evs : List OcoEvent)
    (hl : Run.Guarded (ocoStep c primary T) (OcoLegal T) (ocoStart c primary order b) evs) :
    (∀ evs', evs' <+: evs →
        OcoCovered c primary (Run.exec (ocoStep c primary T) (ocoStart c primary order b) evs')) ↔
      Run.Guarded (ocoStep c primary T) (OcoStepOk c) (ocoStart c primary order b) evs := by
  have hstart : OcoInv c issued primary T (ocoStart c primary order b) :=
    .inl ⟨Opened.start hp hreg hsl htp hd hT, le_rfl, hT.le⟩
  refine Run.forall_prefix_iff_guarded (fun s h => h.covered) ?_ ?_ hstart hl
  · exact fun s ev h hlegal hok => (h.step ha hcan hi hd ev hlegal).1 hok
  · exact fun s ev h hlegal hnot => (h.step ha hcan hi hd ev hlegal).2 hnot

end run

/-- One full fill and the fill of its take-profit, at the simulated provider. -/
theorem oco_covered_iff_full_fill :
    (∀ evs', evs' <+: [.entryFill 10 none, .exitFill "o1" 10 none] →
        OcoCovered .simulated "p"
          (Run.exec (ocoStep .simulated "p" 10) (ocoStart .simulated "p" sampleBracket []) evs')) ↔
      Run.Guarded (ocoStep .simulated "p" 10) (OcoStepOk .simulated)
        (ocoStart .simulated "p" sampleBracket [])
        [.entryFill 10 none, .exitFill "o1" 10 none] :=
  oco_covered_iff TradingAdapter.simulated_acceptsSubmits TradingAdapter.simulated_acceptsCancels
    TradingAdapter.simulated_issuesIds (by decide +kernel) (.inl rfl) rfl rfl rfl (by norm_num) _
    (by decide +kernel)

/-- Fills of 4 and 10 out of 10, then the take-profit order over 4 fills: 6 are left open, and both
stop-loss orders are cancelled. -/
theorem oco_cover_lost :
    Run.Guarded (ocoStep .simulated "p" 10) (OcoLegal 10) (ocoStart .simulated "p" sampleBracket [])
        [.entryFill 4 none, .entryFill 10 none, .exitFill "o1" 4 none] ∧
      ¬ OcoCovered .simulated "p"
        (Run.exec (ocoStep .simulated "p" 10) (ocoStart .simulated "p" sampleBracket [])
          [.entryFill 4 none, .entryFill 10 none, .exitFill "o1" 4 none]) :=
  ⟨by decide +kernel, fun h => absurd (h (by decide +kernel)).1 (by decide +kernel)⟩

end Gateway.Exit
