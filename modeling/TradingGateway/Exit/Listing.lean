import TradingGateway.Exit.History
import TradingGateway.Exit.Steps
import TradingGateway.Lib.Run

/-!
# Are accepted exit orders listed?

A fill of the primary order may place an exit order for an entry; its answer names the order as the
provider reported it. The entry should list each of these orders once, in the order of their
acceptance. It does while it waits for fills. From `Placed` on, a larger fill still places an order,
but a partial one is not recorded and a full one replaces the list.

* `placed_orders_listed_iff`: a run lists every accepted order exactly if no fill places one while
  the entry is `Placed`.
-/

namespace Gateway.Exit

open Routine

variable {β : Type} {c : Ctx β}

/-- The listed orders, with the quantity of each. -/
def ExitEntry.listed (e : ExitEntry) : List (String × Decimal) :=
  e.actualOrders.map fun o => (o.orderId, o.quantity)

/-- The order that a placement for `ph` was answered, as the provider reported it. -/
def PlacementResult.reportedFor (ph : String) (r : PlacementResult) : Option (String × Decimal) :=
  match r.outcome with
  | .success id o => if r.placeholderId = ph then some (id, o.quantity) else none
  | _ => none

/-- The orders that were accepted for `ph`, in the order of the answers. -/
def reported (ph : String) (rs : List PlacementResult) : List (String × Decimal) :=
  rs.filterMap (PlacementResult.reportedFor ph)

@[simp] theorem reported_append (ph : String) (rs rs' : List PlacementResult) :
    reported ph (rs ++ rs') = reported ph rs ++ reported ph rs' := List.filterMap_append

/-! ## One fill, one entry -/

/-- What a fill of `f` out of `T` does to the list of an entry, and the order accepted for it. -/
inductive Listing (f T : Decimal) (e e' : ExitEntry) : List (String × Decimal) → Prop where
  | kept (hst : e'.status = e.status ∨ e'.status.isTerminal = true) (h : e'.listed = e.listed) :
      Listing f T e e' []
  | appended {x : String × Decimal} (hst : e.isPending = true)
      (h : e'.listed = e.listed ++ [x]) : Listing f T e e' [x]
  /-- A full fill of a placed leg forgets the orders before it. -/
  | replaced {x : String × Decimal} {os : List ActualOrder} (hst : e.status = .placed os)
      (hfull : T ≤ f) (h : e'.listed = [x]) : Listing f T e e' [x]
  /-- A partial fill of a placed leg is not recorded. -/
  | dropped {x : String × Decimal} {os : List ActualOrder} (hst : e.status = .placed os)
      (hpart : f < T) (h : e'.listed = e.listed) : Listing f T e e' [x]

/-- A fill that lists the order it places: the entry waits for fills, or it is placed without orders
and the fill is full. -/
def ExitEntry.ListsNext (e : ExitEntry) (f T : Decimal) : Prop :=
  ∀ os, e.status = .placed os → os = [] ∧ T ≤ f

theorem ExitEntry.listed_placed {e : ExitEntry} {os : List ActualOrder}
    (h : e.status = .placed os) : e.listed = os.map fun o => (o.orderId, o.quantity) := by
  rw [listed, actualOrders, h]
  rfl

namespace Listing

variable {f T : Decimal} {e e' : ExitEntry} {xs : List (String × Decimal)}

/-- Every accepted order is listed at the end. -/
theorem lists (h : Listing f T e e' xs) (hk : xs ≠ [] → e.ListsNext f T) :
    e'.listed = e.listed ++ xs := by
  cases h with
  | kept _ h => rw [h, List.append_nil]
  | appended _ h => exact h
  | replaced hst _ h =>
    obtain ⟨rfl, -⟩ := hk (List.cons_ne_nil _ _) _ hst
    rw [h, ExitEntry.listed_placed hst]
    rfl
  | dropped hst hpart h =>
    exact absurd hpart (not_lt.mpr (hk (List.cons_ne_nil _ _) _ hst).2)

/-- A fill that loses an order does not make the list longer. -/
theorem length_le (h : Listing f T e e' xs) (hk : ¬ (xs ≠ [] → e.ListsNext f T)) :
    e'.listed.length ≤ e.listed.length ∧ 0 < xs.length := by
  rw [Classical.not_imp] at hk
  refine ⟨?_, List.length_pos_iff.mpr hk.1⟩
  cases h with
  | kept => exact absurd rfl hk.1
  | appended hst =>
    refine absurd (fun os hos => ?_) hk.2
    simp [ExitEntry.isPending, hos] at hst
  | @replaced x os hst hfull h =>
    rw [h, ExitEntry.listed_placed hst, List.length_map]
    refine List.length_pos_iff.mpr fun hnil => hk.2 fun os' hos' => ⟨?_, hfull⟩
    cases hst.symm.trans hos'
    exact hnil
  | dropped _ _ h => rw [h]

end Listing

/-- Both entries submit under the same ids. -/
def ExitEntry.SameIds (e e' : ExitEntry) : Prop :=
  idSeed e' = idSeed e ∧ e'.orderType = e.orderType

/-- A fill turned the entry `e` at `ph` into `e'`, and `xs` was accepted for it, under the entry's
next id. -/
structure EntryFilled (c : Ctx β) (ph : String) (f T : Decimal) (e e' : ExitEntry) (w w' : World β)
    (xs : List (String × Decimal)) : Prop where
  entry : w'.handler.getEntry ph = some e'
  sameIds : e.SameIds e'
  listing : Listing f T e e' xs
  accepted : ∃ as, w'.acceptedFor ph = w.acceptedFor ph ++ as ∧ as.length = xs.length ∧
    (∀ a ∈ as, a.clientOrderId =
      some (exitClientOrderId (idSeed e) e.orderType e.actualOrders.length)) ∧
    (c.adapter.ReportsAsked → as.map AcceptedOrder.orderId = xs.map Prod.fst)

theorem EntryFilled.quiet {ph : String} {f T : Decimal} {e e' : ExitEntry} {w w' : World β}
    (he : w'.handler.getEntry ph = some e') (hids : e.SameIds e')
    (hst : e'.status = e.status ∨ e'.status.isTerminal = true) (hl : e'.listed = e.listed)
    (ha : w'.acceptedFor ph = w.acceptedFor ph) : EntryFilled c ph f T e e' w w' [] :=
  ⟨he, hids, .kept hst hl, [], by rw [ha, List.append_nil], rfl, by simp, fun _ => rfl⟩

section step

variable {ph : String} {f T : Decimal} {pos : Option Decimal} {pid : Option String} {w w' : World β}
  {r : PlacementResult} {e : ExitEntry}

theorem not_eligible_of_last (h : e.lastAttemptedFillQty = some f) : ¬ Eligible f e :=
  fun hel => lt_irrefl f (hel.2 f h)

/-- A failure ends the entry, and keeps its orders if it waits for fills or is placed. -/
theorem updateEntryToFailed_spec (message : String) (n : ℕ) :
    (updateEntryToFailed message n e).status.isTerminal = true ∧
      (updateEntryToFailed message n e).actualOrders =
        (if e.status.isTerminal then [] else e.actualOrders) ∧
      (updateEntryToFailed message n e).lastAttemptedFillQty = e.lastAttemptedFillQty ∧
      e.SameIds (updateEntryToFailed message n e) := by
  unfold updateEntryToFailed ExitEntry.actualOrders
  cases e.status <;>
    simp [ExitEntry.setStatus, ExitEntryStatus.isTerminal, ExitEntryStatus.actualOrders,
      ExitEntry.SameIds, idSeed]

/-- The new order is listed at the end, replaces the list, or is not recorded. -/
theorem recordPlacement_listing {o : ActualOrder} (h : e.status.isTerminal = false) :
    Listing f T e (recordPlacement o (partialFill f T) e) [(o.orderId, o.quantity)] := by
  by_cases hpend : e.isPending = true
  · refine .appended hpend ?_
    rw [ExitEntry.listed, recordPlacement_actualOrders _ _ _ hpend, List.map_append]
    rfl
  · cases hst : e.status with
    | pending | partiallyTriggered => simp [ExitEntry.isPending, hst] at hpend
    | failed | cancelled | expired => simp [hst, ExitEntryStatus.isTerminal] at h
    | placed os =>
      by_cases hpart : f < T
      · refine .dropped hst hpart ?_
        simp [partialFill, hpart, recordPlacement, updateEntryPartialFill, hst]
      · refine .replaced hst (not_lt.mp hpart) ?_
        simp [partialFill, hpart, recordPlacement, updateEntryToPlaced, hst, ExitEntry.listed,
          ExitEntry.actualOrders, ExitEntryStatus.actualOrders]

/-- The mark of the attempt does not matter for the list. -/
theorem Listing.of_attempted {e' : ExitEntry} {xs : List (String × Decimal)}
    (h : Listing f T (e.attempted f pid) e' xs) : Listing f T e e' xs := by
  cases h with
  | kept hst h => exact .kept hst h
  | appended hst h => exact .appended hst h
  | replaced hst hfull h => exact .replaced hst hfull h
  | dropped hst hpart h => exact .dropped hst hpart h

theorem validateEntryForFill_error {found : Option ExitEntry}
    (hv : validateEntryForFill ph f found = .error r) :
    r.placeholderId = ph ∧ ∀ k, r.reportedFor k = none := by
  unfold validateEntryForFill at hv
  split at hv
  · cases hv
    exact ⟨rfl, fun _ => rfl⟩
  · split at hv
    · cases hv
      exact ⟨rfl, fun _ => rfl⟩
    · split at hv <;> cases hv
      exact ⟨rfl, fun _ => rfl⟩

theorem FillOutcome.placeholderId (h : FillOutcome c ph f T pos pid w r w') :
    r.placeholderId = ph := by
  cases h with
  | skipped hv => exact (validateEntryForFill_error hv).1
  | _ => rfl

/-- A fill for another entry. -/
theorem FillOutcome.frame (h : FillOutcome c ph f T pos pid w r w') {k : String} (hk : k ≠ ph) :
    w'.handler.getEntry k = w.handler.getEntry k ∧ r.reportedFor k = none ∧
      w'.acceptedFor k = w.acceptedFor k := by
  refine ⟨FillStep.getEntry_ne ⟨r, h⟩ hk, ?_, ?_⟩
  · unfold PlacementResult.reportedFor
    rw [h.placeholderId]
    split
    · exact if_neg hk.symm
    · rfl
  · cases h with
    | skipped | belowMinimum | breakerOpen | refused | failed => rfl
    | @placed e handle o b =>
      refine (acceptedFor_accept { w with broker := b, placing := none } ph k handle.id _).trans ?_
      rw [if_neg hk.symm, List.append_nil]
      rfl

theorem FillOutcome.of_not_eligible (h : FillOutcome c ph f T pos pid w r w')
    (hel : ∀ e, w.handler.getEntry ph = some e → ¬ Eligible f e) :
    w' = w ∧ r.reportedFor ph = none := by
  cases h with
  | skipped hv => exact ⟨rfl, (validateEntryForFill_error hv).2 ph⟩
  | belowMinimum he hel' | breakerOpen he hel' | refused _ _ he hel' | failed _ _ _ _ he hel'
  | placed he hel' => exact absurd hel' (hel _ he)

/-- An order is accepted exactly if the code places one and the provider takes it. -/
theorem FillOutcome.reportedFor_ne_none (h : FillOutcome c ph f T pos pid w r w')
    (he : w.handler.getEntry ph = some e) : r.reportedFor ph ≠ none ↔
      Places c f T pos w e ∧ acceptsPlacement c (fillRequest f T pos pid e) w.broker = true := by
  cases h with
  | skipped hv hnot =>
    exact iff_of_false (not_not.mpr ((validateEntryForFill_error hv).2 ph))
      fun h => hnot e he h.1.1
  | belowMinimum he' _ hq =>
    cases he.symm.trans he'
    exact iff_of_false (not_not.mpr rfl) fun h => absurd hq (not_lt.mpr h.1.2.1)
  | breakerOpen he' _ _ hb =>
    cases he.symm.trans he'
    exact iff_of_false (not_not.mpr rfl) fun h => by cases hb.symm.trans h.1.2.2
  | refused _ _ he' _ _ _ hr | failed _ _ _ _ he' _ _ _ hr =>
    cases he.symm.trans he'
    exact iff_of_false (not_not.mpr rfl) fun h => by cases hr.symm.trans h.2
  | placed he' hel hq hb _ hacc =>
    cases he.symm.trans he'
    exact iff_of_true (by simp [PlacementResult.reportedFor]) ⟨⟨hel, hq, hb⟩, hacc⟩

/-- The entry after its own step: it is not to be processed for this fill again. -/
theorem FillOutcome.entryFilled (h : FillOutcome c ph f T pos pid w r w')
    (he : w.handler.getEntry ph = some e) :
    ∃ e', EntryFilled c ph f T e e' w w' (r.reportedFor ph).toList ∧ ¬ Eligible f e' := by
  have hset (g : ExitEntry → ExitEntry) :
      (w.handler.modifyEntry ph g).getEntry ph = some (g e) := by
    rw [ExitHandler.getEntry_modifyEntry_self, he, Option.map_some]
  cases h with
  | skipped hv hnot =>
    rw [(validateEntryForFill_error hv).2 ph]
    exact ⟨e, .quiet he ⟨rfl, rfl⟩ (.inl rfl) rfl rfl, hnot e he⟩
  | belowMinimum | breakerOpen | refused =>
    exact ⟨_, .quiet (hset _) ⟨rfl, rfl⟩ (.inl rfl) rfl rfl, not_eligible_of_last rfl⟩
  | failed _ message n _ he' hel =>
    cases he.symm.trans he'
    obtain ⟨hterm, horders, hlast, hids⟩ :=
      updateEntryToFailed_spec (e := e.attempted f pid) message n
    refine ⟨_, .quiet (hset _) hids (.inr hterm) ?_ rfl, not_eligible_of_last hlast⟩
    have hlive : ¬ (e.attempted f pid).status.isTerminal = true := Bool.eq_false_iff.mp hel.1
    rw [ExitEntry.listed, horders, if_neg hlive]
    rfl
  | @placed e₀ handle o b he' hel _ _ hc =>
    cases he.symm.trans he'
    have hrep : PlacementResult.reportedFor ph ⟨ph, e.orderType, .success o.id o⟩ =
        some (o.id, o.quantity) := if_pos rfl
    rw [hrep]
    have heq := recordPlacement_eq ⟨o.id, o.quantity, .open, e.orderType⟩ (partialFill f T)
      (e.attempted f pid)
    refine ⟨_, ⟨hset _, ?_, (recordPlacement_listing (e := e.attempted f pid) hel.1).of_attempted,
      [.ofRequest handle.id ph (fillRequest f T pos pid e)], ?_, rfl, ?_, fun ha => ?_⟩,
      not_eligible_of_last ?_⟩
    · rw [heq]
      exact ⟨rfl, rfl⟩
    · refine (acceptedFor_accept { w with broker := b, placing := none } ph ph handle.id _).trans ?_
      rw [if_pos rfl]
      rfl
    · exact fun a ha => by rw [List.mem_singleton.mp ha]; rfl
    · obtain ⟨_, _, _, _, _, _, hr | rfl⟩ := hc
      · exact congrArg (fun id => [id]) (ha hr).symm
      · rfl
    · rw [heq]
      rfl

end step

/-! ## One fill event -/

section event

variable {p ph : String} {f T : Decimal} {pos : Option Decimal} {pid : Option String} {w : World β}
  {e : ExitEntry}

@[simp] theorem reported_cons (ph : String) (r : PlacementResult) (rs : List PlacementResult) :
    reported ph (r :: rs) = (r.reportedFor ph).toList ++ reported ph rs := by
  unfold reported
  cases h : r.reportedFor ph <;> simp [h]

theorem processEntries_of_not_eligible (T : Decimal) (pos : Option Decimal) (pid : Option String)
    (phs : List String) (hel : ∀ e, w.handler.getEntry ph = some e → ¬ Eligible f e) :
    let run := (processEntries c f T pos pid phs).run w
    run.2.handler.getEntry ph = w.handler.getEntry ph ∧ reported ph run.1 = [] ∧
      run.2.acceptedFor ph = w.acceptedFor ph := by
  induction phs generalizing w with
  | nil => exact ⟨rfl, rfl, rfl⟩
  | cons ph' rest ih =>
    have hout := run_processEntryFill_outcome (c := c) ph' f T pos pid w
    simp only [processEntries, run_bind, pure_eq, run_ret, reported_cons]
    generalize (processEntryFill c ph' f T pos pid).run w = first at hout ⊢
    have hstep : first.2.handler.getEntry ph = w.handler.getEntry ph ∧
        first.1.reportedFor ph = none ∧ first.2.acceptedFor ph = w.acceptedFor ph := by
      by_cases hph : ph = ph'
      · subst hph
        obtain ⟨hw, hnone⟩ := hout.of_not_eligible hel
        exact ⟨by rw [hw], hnone, by rw [hw]⟩
      · exact hout.frame hph
    obtain ⟨he', hrest, ha⟩ := ih (w := first.2) (by rwa [hstep.1])
    exact ⟨he'.trans hstep.1, by rw [hstep.2.1, hrest]; rfl, ha.trans hstep.2.2⟩

/-- All entries of the primary order: the entry's own step is among them at most once. -/
theorem entryFilled_processEntries (T : Decimal) (pos : Option Decimal) (pid : Option String)
    (phs : List String) (he : w.handler.getEntry ph = some e) :
    let run := (processEntries c f T pos pid phs).run w
    ∃ e', EntryFilled c ph f T e e' w run.2 (reported ph run.1) := by
  induction phs generalizing w with
  | nil => exact ⟨e, .quiet he ⟨rfl, rfl⟩ (.inl rfl) rfl rfl⟩
  | cons ph' rest ih =>
    have hout := run_processEntryFill_outcome (c := c) ph' f T pos pid w
    simp only [processEntries, run_bind, pure_eq, run_ret, reported_cons]
    generalize (processEntryFill c ph' f T pos pid).run w = first at hout ⊢
    by_cases hph : ph = ph'
    · subst hph
      obtain ⟨e₁, h₁, hnot⟩ := hout.entryFilled he
      -- the fill is marked as attempted, so later occurrences are skipped
      obtain ⟨he', hrest, ha⟩ := processEntries_of_not_eligible (c := c) T pos pid rest
        fun e' he' => Option.some.inj (h₁.entry.symm.trans he') ▸ hnot
      rw [hrest, List.append_nil]
      exact ⟨e₁, he'.trans h₁.entry, h₁.sameIds, h₁.listing, by rw [ha]; exact h₁.accepted⟩
    · obtain ⟨hentry, hnone, ha⟩ := hout.frame hph
      obtain ⟨e', h'⟩ := ih (hentry.trans he)
      rw [hnone, Option.toList_none, List.nil_append]
      exact ⟨e', h'.entry, h'.sameIds, h'.listing, by rw [← ha]; exact h'.accepted⟩

/-- The world when the turn of `ph` comes: the entries before it have been processed. -/
def turnOf (c : Ctx β) (f T : Decimal) (pos : Option Decimal) (pid : Option String) (ph : String)
    (phs : List String) (w : World β) : World β :=
  ((processEntries c f T pos pid (phs.takeWhile fun k => k ≠ ph)).run w).2

/-- The entry has an order accepted exactly if it has one at its turn. -/
theorem reported_processEntries_ne_nil (phs : List String) (hmem : ph ∈ phs)
    (he : w.handler.getEntry ph = some e) :
    reported ph ((processEntries c f T pos pid phs).run w).1 ≠ [] ↔
      Places c f T pos (turnOf c f T pos pid ph phs w) e ∧
        acceptsPlacement c (fillRequest f T pos pid e)
          (turnOf c f T pos pid ph phs w).broker = true := by
  induction phs generalizing w with
  | nil => cases hmem
  | cons ph' rest ih =>
    have hout := run_processEntryFill_outcome (c := c) ph' f T pos pid w
    by_cases hph : ph = ph'
    · subst hph
      have hturn : turnOf c f T pos pid ph (ph :: rest) w = w := by simp [turnOf, processEntries]
      rw [hturn, ← hout.reportedFor_ne_none he]
      obtain ⟨e₁, h₁, hnot⟩ := hout.entryFilled he
      obtain ⟨-, hrest, -⟩ := processEntries_of_not_eligible (c := c) T pos pid rest
        fun e' he' => Option.some.inj (h₁.entry.symm.trans he') ▸ hnot
      simp [processEntries, hrest]
    · have hturn : turnOf c f T pos pid ph (ph' :: rest) w =
          turnOf c f T pos pid ph rest ((processEntryFill c ph' f T pos pid).run w).2 := by
        simp [turnOf, Ne.symm hph, processEntries]
      obtain ⟨hentry, hnone, -⟩ := hout.frame hph
      rw [hturn, ← ih ((List.mem_cons.mp hmem).resolve_left hph) (hentry.trans he)]
      simp [processEntries, hnone]

theorem run_handleFill_primary (hp : w.handler.getPlaceholdersForPrimary p ≠ []) :
    (handleFill c p f T pos pid).run w =
      if f ≤ 0 ∨ T ≤ 0 then ([], w)
      else (processEntries c f T pos pid (w.handler.getPlaceholdersForPrimary p)).run w := by
  have hne : (w.handler.getPlaceholdersForPrimary p).isEmpty = false := by simpa using hp
  simp only [handleFill, handleFillInternal, run_locked]
  by_cases hq : f ≤ 0 ∨ T ≤ 0
  · simp only [hq, Bool.or_eq_true, decide_eq_true_eq, if_true]
    rfl
  · simp only [hq, Bool.or_eq_true, decide_eq_true_eq, if_false, run_bind, run_readHandler,
      hne, Bool.false_eq_true]

theorem placeholders_handleFill (hp : ph ∈ w.handler.getPlaceholdersForPrimary p) (q : String) :
    ((handleFill c p f T pos pid).run w).2.handler.getPlaceholdersForPrimary q =
      w.handler.getPlaceholdersForPrimary q := by
  rw [run_handleFill_primary (List.ne_nil_of_mem hp)]
  split
  · rfl
  · refine (run_processEntries f T pos pid _ w).inv
      (I := fun w' => w'.handler.getPlaceholdersForPrimary q =
        w.handler.getPlaceholdersForPrimary q) (fun ph' _ v v' hs hv => ?_) rfl
    rw [hs.placeholders, hv]

theorem entryFilled_handleFill (hp : ph ∈ w.handler.getPlaceholdersForPrimary p)
    (he : w.handler.getEntry ph = some e) :
    let run := (handleFill c p f T pos pid).run w
    ∃ e', EntryFilled c ph f T e e' w run.2 (reported ph run.1) := by
  rw [run_handleFill_primary (List.ne_nil_of_mem hp)]
  split
  · exact ⟨e, .quiet he ⟨rfl, rfl⟩ (.inl rfl) rfl rfl⟩
  · exact entryFilled_processEntries _ _ _ _ he

end event

/-! ## Every run of fill events -/

/-- A fill event of the primary order. -/
structure PrimaryFill where
  filledQty : Decimal
  totalQty : Decimal
  positionQty : Option Decimal
  positionId : Option String

namespace PrimaryFill

/-- What the event is answered, and the world after it. -/
def handle (c : Ctx β) (p : String) (w : World β) (fill : PrimaryFill) :
    List PlacementResult × World β :=
  (handleFill c p fill.filledQty fill.totalQty fill.positionQty fill.positionId).run w

/-- The world and all answers so far. -/
def step (c : Ctx β) (p : String) (s : World β × List PlacementResult) (fill : PrimaryFill) :
    World β × List PlacementResult :=
  ((fill.handle c p s.1).2, s.2 ++ (fill.handle c p s.1).1)

/-- The event places an order for the entry `e` at `ph`: it concerns the entry, which is left with a
quantity to place, and when its turn comes, the breaker is closed and the provider accepts. -/
def Places (c : Ctx β) (p ph : String) (w : World β) (e : ExitEntry) (fill : PrimaryFill) : Prop :=
  let w₁ := turnOf c fill.filledQty fill.totalQty fill.positionQty fill.positionId ph
    (w.handler.getPlaceholdersForPrimary p) w
  0 < fill.filledQty ∧ 0 < fill.totalQty ∧
    Exit.Places c fill.filledQty fill.totalQty fill.positionQty w₁ e ∧
    acceptsPlacement c (fillRequest fill.filledQty fill.totalQty fill.positionQty fill.positionId e)
      w₁.broker = true

/-- The event places no order while the entry at `ph` is placed. (A placed leg without orders would
be listed again by a full fill.) -/
def Keeps (c : Ctx β) (p ph : String) (s : World β × List PlacementResult) (fill : PrimaryFill) :
    Prop :=
  ∀ e, s.1.handler.getEntry ph = some e → fill.Places c p ph s.1 e →
    e.ListsNext fill.filledQty fill.totalQty

theorem places_iff {p ph : String} {w : World β} {e : ExitEntry}
    (hp : ph ∈ w.handler.getPlaceholdersForPrimary p) (he : w.handler.getEntry ph = some e)
    (fill : PrimaryFill) : fill.Places c p ph w e ↔ reported ph (fill.handle c p w).1 ≠ [] := by
  rw [handle, run_handleFill_primary (List.ne_nil_of_mem hp)]
  split
  · rename_i hq
    refine iff_of_false (fun ⟨hf, hT, _⟩ => ?_) (not_not.mpr rfl)
    exact hq.elim (not_le.mpr hf) (not_le.mpr hT)
  · rename_i hq
    rw [reported_processEntries_ne_nil _ hp he]
    rw [not_or, not_le, not_le] at hq
    exact ⟨fun h => h.2.2, fun h => ⟨hq.1, hq.2, h⟩⟩

end PrimaryFill

/-- After the fills, the entry lists the orders it listed before and then each order that was
accepted for it, with the quantity that the provider reported. -/
def ListsAccepted (c : Ctx β) (p ph : String) (w : World β) (fills : List PrimaryFill) : Prop :=
  let s := Run.exec (PrimaryFill.step c p) (w, []) fills
  (s.1.acceptedFor ph).map AcceptedOrder.orderId =
      (w.acceptedFor ph).map AcceptedOrder.orderId ++ (reported ph s.2).map Prod.fst ∧
    ∃ e e', w.handler.getEntry ph = some e ∧ s.1.handler.getEntry ph = some e' ∧
      e'.listed = e.listed ++ reported ph s.2

section run

variable {p ph : String} {s : World β × List PlacementResult}

/-- The entry is tracked for the primary order. -/
structure TrackedFor (p ph : String) (s : World β × List PlacementResult) : Prop where
  indexed : ph ∈ s.1.handler.getPlaceholdersForPrimary p
  entry : ∃ e, s.1.handler.getEntry ph = some e

/-- How many orders the entry lists, less the number that was accepted. -/
def surplus (ph : String) (s : World β × List PlacementResult) : ℤ :=
  ((s.1.handler.getEntry ph).elim 0 fun e => e.listed.length) - (reported ph s.2).length

theorem TrackedFor.step (h : TrackedFor p ph s) (fill : PrimaryFill) :
    TrackedFor p ph (fill.step c p s) ∧ ∀ e, s.1.handler.getEntry ph = some e →
      ∃ e', EntryFilled c ph fill.filledQty fill.totalQty e e' s.1 (fill.step c p s).1
        (reported ph (fill.handle c p s.1).1) := by
  have hsame : (fill.step c p s).1.handler.getPlaceholdersForPrimary p =
      s.1.handler.getPlaceholdersForPrimary p := placeholders_handleFill h.indexed p
  refine ⟨⟨hsame ▸ h.indexed, ?_⟩, fun e he => entryFilled_handleFill h.indexed he⟩
  obtain ⟨e, he⟩ := h.entry
  obtain ⟨e', hfill⟩ : ∃ e', EntryFilled c ph fill.filledQty fill.totalQty e e' s.1
      (fill.step c p s).1 _ := entryFilled_handleFill h.indexed he
  exact ⟨e', hfill.entry⟩

theorem TrackedFor.keeps_iff (h : TrackedFor p ph s) {e : ExitEntry}
    (he : s.1.handler.getEntry ph = some e) (fill : PrimaryFill) :
    fill.Keeps c p ph s ↔ (reported ph (fill.handle c p s.1).1 ≠ [] →
      e.ListsNext fill.filledQty fill.totalQty) := by
  simp only [PrimaryFill.Keeps, he, Option.some.injEq, forall_eq', fill.places_iff h.indexed he]

/-- The surplus falls at an event that loses an order, and only there. -/
theorem surplus_step (h : TrackedFor p ph s) (fill : PrimaryFill) :
    surplus ph (fill.step c p s) ≤ surplus ph s ∧
      (surplus ph (fill.step c p s) = surplus ph s ↔ fill.Keeps c p ph s) := by
  obtain ⟨e, he⟩ := h.entry
  obtain ⟨e', hfill⟩ := (h.step (c := c) fill).2 e he
  have hafter : surplus ph (fill.step c p s) = e'.listed.length -
      ((reported ph s.2).length + (reported ph (fill.handle c p s.1).1).length) := by
    rw [surplus, hfill.entry, PrimaryFill.step, reported_append, List.length_append, Nat.cast_add]
    rfl
  have hbefore : surplus ph s = e.listed.length - (reported ph s.2).length := by
    rw [surplus, he]
    rfl
  rw [h.keeps_iff he, hafter, hbefore]
  by_cases hk : reported ph (fill.handle c p s.1).1 ≠ [] →
      e.ListsNext fill.filledQty fill.totalQty
  · have hlen := congrArg List.length (hfill.listing.lists hk)
    rw [List.length_append] at hlen
    exact ⟨by omega, iff_of_true (by omega) hk⟩
  · have hlen := hfill.listing.length_le hk
    exact ⟨by omega, iff_of_false (by omega) hk⟩

/-- The entry lists the orders `before` and then each order that was accepted for it since. -/
structure ListedSince (p ph : String) (ids : List String) (before : List (String × Decimal))
    (s : World β × List PlacementResult) : Prop where
  tracked : TrackedFor p ph s
  accepted : (s.1.acceptedFor ph).map AcceptedOrder.orderId = ids ++ (reported ph s.2).map Prod.fst
  listed : ∃ e, s.1.handler.getEntry ph = some e ∧ e.listed = before ++ reported ph s.2

theorem ListedSince.step (ha : c.adapter.ReportsAsked) {ids : List String}
    {before : List (String × Decimal)} (s : World β × List PlacementResult) (fill : PrimaryFill)
    (h : ListedSince p ph ids before s) (hk : fill.Keeps c p ph s) :
    ListedSince p ph ids before (fill.step c p s) := by
  obtain ⟨ht', hl⟩ := h.tracked.step (c := c) fill
  obtain ⟨e, he, hlist⟩ := h.listed
  obtain ⟨e', hfill⟩ := hl e he
  obtain ⟨as, hacc, -, -, hids⟩ := hfill.accepted
  have hlists := hfill.listing.lists ((h.tracked.keeps_iff he fill).mp hk)
  refine ⟨ht', ?_, e', hfill.entry, ?_⟩
  · rw [hacc, List.map_append, h.accepted, hids ha, PrimaryFill.step, reported_append,
      List.map_append, List.append_assoc]
  · rw [hlists, hlist, PrimaryFill.step, reported_append, List.append_assoc]

/-- The entry lists every order that was accepted for it in a run of fills exactly if no fill places
an order while it is placed. -/
theorem placed_orders_listed_iff (ha : c.adapter.ReportsAsked) {w : World β} {e : ExitEntry}
    (hp : ph ∈ w.handler.getPlaceholdersForPrimary p) (he : w.handler.getEntry ph = some e)
    (fills : List PrimaryFill) :
    ListsAccepted c p ph w fills ↔
      Run.Guarded (PrimaryFill.step c p) (PrimaryFill.Keeps c p ph) (w, []) fills := by
  have hstart : TrackedFor p ph (w, []) := ⟨hp, e, he⟩
  have hsurplus : surplus ph (w, []) = e.listed.length := by
    rw [surplus, he]
    exact Int.sub_zero _
  have hkept : surplus ph (Run.exec (PrimaryFill.step c p) (w, []) fills) = surplus ph (w, []) ↔
      Run.Guarded (PrimaryFill.step c p) (PrimaryFill.Keeps c p ph) (w, []) fills :=
    Run.measure_exec_eq_iff (I := TrackedFor p ph) (m := surplus ph)
      (fun s fill hs => (hs.step fill).1) (fun s fill hs => (surplus_step hs fill).1)
      (fun s fill hs => (surplus_step hs fill).2) hstart
  constructor
  · rintro ⟨-, e₀, e', he₀, he', hlist⟩
    cases he.symm.trans he₀
    refine hkept.mp ?_
    have hlen := congrArg List.length hlist
    rw [List.length_append] at hlen
    rw [hsurplus, surplus, he', Option.elim_some]
    omega
  · intro hg
    have hw : ListedSince p ph ((w.acceptedFor ph).map AcceptedOrder.orderId) e.listed (w, []) :=
      ⟨hstart, (List.append_nil _).symm, e, he, (List.append_nil _).symm⟩
    obtain ⟨-, hacc, e', he', hlist⟩ := Run.exec_inv (ListedSince.step ha) hw hg
    exact ⟨hacc, e, e', he, he', hlist⟩

end run

theorem keeps_of_isPending {p ph : String} {s : World β × List PlacementResult} {fill : PrimaryFill}
    (h : (s.1.handler.getEntry ph).any ExitEntry.isPending = true) : fill.Keeps c p ph s := by
  intro e he _ os hos
  rw [he, Option.any_some] at h
  simp [ExitEntry.isPending, hos] at h

/-- A registered bracket. -/
def registeredBracket : World (List (String × OrderRequest)) :=
  ((register .simulated "p" sampleBracket).run (World.initial {} [])).2

/-- Fills of 4 and 10 out of 10: both exit orders are listed. -/
theorem placed_orders_listed_simulated :
    ListsAccepted .simulated "p" "exit:sl:p" registeredBracket
      [⟨4, 10, none, none⟩, ⟨10, 10, none, none⟩] := by
  have hentry : (registeredBracket.handler.getEntry "exit:sl:p").isSome = true := by
    decide +kernel
  obtain ⟨e, he⟩ := Option.isSome_iff_exists.mp hentry
  refine (placed_orders_listed_iff TradingAdapter.simulated_reportsAsked (by decide +kernel) he
    [_, _]).mpr ⟨keeps_of_isPending ?_, keeps_of_isPending ?_, trivial⟩
  · decide +kernel
  · decide +kernel

/-- Fills of 4 out of 4 and of 10 out of 10: the provider accepted both exit orders for the stop
loss, and the entry lists the second alone. -/
theorem placed_order_dropped :
    let s := Run.exec (PrimaryFill.step .simulated "p") (registeredBracket, [])
      [⟨4, 4, none, none⟩, ⟨10, 10, none, none⟩]
    reported "exit:sl:p" s.2 = [("o0", 4), ("o2", 6)] ∧
      (s.1.handler.getEntry "exit:sl:p").map ExitEntry.listed = some [("o2", 6)] ∧
      ¬ ListsAccepted .simulated "p" "exit:sl:p" registeredBracket
        [⟨4, 4, none, none⟩, ⟨10, 10, none, none⟩] := by
  intro s
  have hreported : reported "exit:sl:p" s.2 = [("o0", 4), ("o2", 6)] := by decide +kernel
  have hlisted : (s.1.handler.getEntry "exit:sl:p").map ExitEntry.listed = some [("o2", 6)] := by
    decide +kernel
  refine ⟨hreported, hlisted, ?_⟩
  rintro ⟨-, e, e', -, he', hlist⟩
  have hone : e'.listed = [("o2", 6)] := by
    rw [show s.1.handler.getEntry "exit:sl:p" = some e' from he'] at hlisted
    exact Option.some.inj hlisted
  have hlen := congrArg List.length hlist
  rw [hone, List.length_append, show reported "exit:sl:p" _ = _ from hreported] at hlen
  simp at hlen

end Gateway.Exit
