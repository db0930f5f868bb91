import TradingGateway.Lib.Interleave
import TradingGateway.Api.Routes
import TradingGateway.Exit.History
import TradingGateway.Exit.Registration
import TradingGateway.Exit.Steps

/-!
# A fill and the registration of its exits at the same time

The submit task registers the legs of an order and then replays a buffered fill; the event task
handles the order's one full fill. Their atomic steps interleave in any way. Is each registered leg
placed exactly once?

* `each_leg_covered_once`: it is, if no lookup of the event task falls between the steps that index
  the stop-loss and the take-profit (`SeesAllLegs`).
* `lookup_between_legs`: a lookup there sees the stop-loss only, and the take-profit is never
  placed.

The fill has one owner at a time (`Owner`): the event task that received it, the buffer, or the
submit task that took it out of the buffer. Only the owner places orders. The owner and whether the
submit task has looked into the buffer are the ghost values of the proof.
-/

namespace Gateway.Exit

open Routine

variable {β α : Type} {c : Ctx β}

/-! ## Placing the legs -/

/-- The leg has no order for the fill yet and waits for fills. -/
def LegWaits (w₀ w : World β) (k : String) : Prop :=
  w.acceptedFor k = w₀.acceptedFor k ∧ ∃ e, w.handler.getEntry k = some e ∧
    e.status = .pending ∧ e.lastAttemptedFillQty = none

/-- The leg has exactly one order more than at the start, over the quantity `q`. -/
def LegCovered (w₀ : World β) (q : Decimal) (w : World β) (k : String) : Prop :=
  ∃ a, w.acceptedFor k = w₀.acceptedFor k ++ [a] ∧ a.quantity = q

/-- The legs in `done` are placed, those in `todo` wait. -/
structure Placing (w₀ : World β) (q : Decimal) (done todo : List String) (w : World β) : Prop where
  covered : ∀ k ∈ done, LegCovered w₀ q w k
  waits : ∀ k ∈ todo, LegWaits w₀ w k
  breaker : w.handler.circuitBreaker.isOpen = false

/-- What another task may do to the entries `keys` meanwhile: link them. -/
structure Links (keys : List String) (w w' : World β) : Prop where
  accepted : w'.accepted = w.accepted
  breaker : w'.handler.circuitBreaker = w.handler.circuitBreaker
  entries : ∀ k ∈ keys, ∀ e, w.handler.getEntry k = some e →
    ∃ e', w'.handler.getEntry k = some e' ∧ e'.status = e.status ∧
      e'.lastAttemptedFillQty = e.lastAttemptedFillQty

/-- What the placement itself leaves alone. -/
structure Works (w w' : World β) : Prop where
  index : ∀ p, w'.handler.getPlaceholdersForPrimary p = w.handler.getPlaceholdersForPrimary p
  fills : w'.handler.unmatchedFills = w.handler.unmatchedFills
  breaker : w'.handler.circuitBreaker = w.handler.circuitBreaker

section placing

variable {w₀ w w' : World β} {q : Decimal} {done todo keys : List String} {k ph : String}

theorem Links.refl (keys : List String) (w : World β) : Links keys w w :=
  ⟨rfl, rfl, fun _ _ e he => ⟨e, he, rfl, rfl⟩⟩

theorem acceptedFor_congr (h : w'.accepted = w.accepted) (k : String) :
    w'.acceptedFor k = w.acceptedFor k := by
  unfold World.acceptedFor
  rw [h]

theorem LegWaits.link (h : LegWaits w₀ w k) (hl : Links keys w w') (hk : k ∈ keys) :
    LegWaits w₀ w' k := by
  obtain ⟨hacc, e, he, hst, hlast⟩ := h
  obtain ⟨e', he', hst', hlast'⟩ := hl.entries k hk e he
  exact ⟨(acceptedFor_congr hl.accepted k).trans hacc, e', he', hst'.trans hst, hlast'.trans hlast⟩

theorem LegCovered.of_accepted (h : LegCovered w₀ q w k) (ha : w'.accepted = w.accepted) :
    LegCovered w₀ q w' k := by
  obtain ⟨a, hacc, hq⟩ := h
  exact ⟨a, (acceptedFor_congr ha k).trans hacc, hq⟩

theorem Placing.link (h : Placing w₀ q done todo w) (hl : Links keys w w') (hk : todo ⊆ keys) :
    Placing w₀ q done todo w' where
  covered k hd := (h.covered k hd).of_accepted hl.accepted
  waits k ht := (h.waits k ht).link hl (hk ht)
  breaker := by rw [hl.breaker]; exact h.breaker

/-- A step of the placement for `ph` that submits nothing. -/
structure Quiet (ph : String) (w w' : World β) : Prop extends Works w w' where
  accepted : w'.accepted = w.accepted
  entries : ∀ k, k ≠ ph → w'.handler.getEntry k = w.handler.getEntry k

theorem Placing.quiet (h : Placing w₀ q done todo w) (hs : Quiet ph w w') (hph : ph ∉ todo) :
    Placing w₀ q done todo w' where
  covered k hd := (h.covered k hd).of_accepted hs.accepted
  waits k ht := by
    obtain ⟨hacc, e, he, hst⟩ := h.waits k ht
    refine ⟨(acceptedFor_congr hs.accepted k).trans hacc, e, ?_, hst⟩
    rw [hs.entries k fun heq => hph (heq ▸ ht)]
    exact he
  breaker := by rw [hs.breaker]; exact h.breaker

theorem Placing.accept (h : Placing w₀ q done todo w) (hacc : w.acceptedFor ph = w₀.acceptedFor ph)
    (hdone : ph ∉ done) (htodo : ph ∉ todo) (id : String) {r : OrderRequest}
    (hr : r.quantity = q) : Placing w₀ q (ph :: done) todo (w.accept ph id r) where
  covered k hd := by
    rcases List.mem_cons.mp hd with rfl | hd
    · refine ⟨.ofRequest id k r, ?_, hr⟩
      rw [acceptedFor_accept, if_pos rfl, hacc]
    · have hne : ph ≠ k := fun h => hdone (h ▸ hd)
      obtain ⟨a, hk, hq⟩ := h.covered k hd
      refine ⟨a, ?_, hq⟩
      rw [acceptedFor_accept, if_neg hne, List.append_nil]
      exact hk
  waits k ht := by
    have hne : ph ≠ k := fun h => htodo (h ▸ ht)
    obtain ⟨hk, he⟩ := h.waits k ht
    refine ⟨?_, he⟩
    rw [acceptedFor_accept, if_neg hne, List.append_nil]
    exact hk
  breaker := h.breaker

end placing

/-- A task that owns the fill of the legs `L` (`mine`): the others only link the legs, and what it
does to place them is within its guarantee. -/
structure Owns {γ : Type} (R G : World β × γ → World β × γ → Prop) (mine : World β × γ → Prop)
    (L : List String) : Prop where
  rely : ∀ x y, R x y → mine x → mine y ∧ Links L x.1 y.1
  guarantee : ∀ x w', mine x → Works x.1 w' → mine (w', x.2) ∧ G x (w', x.2)

section owner

variable {γ : Type} {Ok : Op (World β) → World β → Prop} {R G : World β × γ → World β × γ → Prop}
  {mine P : World β × γ → Prop} {L : List String} {w₀ : World β} {q : Decimal}
  {done todo : List String} {ph : String}

theorem Works.refl (w : World β) : Works w w := ⟨fun _ => rfl, rfl, rfl⟩

theorem Owns.refl (ho : Owns R G mine L) {x : World β × γ} (hx : mine x) : G x x :=
  (ho.guarantee x x.1 hx (.refl x.1)).2

/-- The owner's assertion `P` survives the steps for `ph` that submit nothing. -/
structure Survives (mine : World β × γ → Prop) (ph : String) (P : World β × γ → Prop) : Prop where
  owned : ∀ x, P x → mine x
  quiet : ∀ x w', P x → Quiet ph x.1 w' → mine (w', x.2) → P (w', x.2)

theorem Owns.quiet_step (ho : Owns R G mine L) (hP : Stable R P) (hs : Survives mine ph P)
    {f : World β → α × World β} (hf : ∀ w, Quiet ph w (f w).2) :
    Spec Ok R G P (Routine.step f) fun _ => P := by
  refine Spec.step hP (fun _ => hP) fun w g hw _ => ?_
  obtain ⟨hmine, hG⟩ := ho.guarantee (w, g) (f w).2 (hs.owned _ hw) (hf w).toWorks
  exact ⟨g, hG, hs.quiet (w, g) _ hw (hf w) hmine⟩

theorem Owns.quiet_call (ho : Owns R G mine L) (hP : Stable R P) (hs : Survives mine ph P)
    {f : World β → α × World β} (hf : ∀ w, Quiet ph w (f w).2) :
    Spec Ok R G P (Routine.call f) fun _ => P :=
  ho.quiet_step hP hs hf

theorem quiet_updateEntry (ph : String) (g : ExitEntry → ExitEntry) (w : World β) :
    Quiet ph w (w.updateEntry ph g) :=
  ⟨⟨fun _ => rfl, rfl, rfl⟩, rfl, fun _ hk => w.handler.getEntry_modifyEntry_ne g hk⟩

/-- The owner places the order of `ph`: nothing is submitted for it yet. -/
def Trying (w₀ : World β) (q : Decimal) (done : List String) (ph : String) (todo : List String)
    (w : World β) : Prop :=
  Placing w₀ q done todo w ∧ w.acceptedFor ph = w₀.acceptedFor ph

theorem Placing.trying {w w' : World β} (h : Placing w₀ q done (ph :: todo) w)
    (hs : Quiet ph w w') (ht : ph ∉ todo) : Trying w₀ q done ph todo w' := by
  have hrest : Placing w₀ q done todo w :=
    ⟨h.covered, fun k hk => h.waits k (List.mem_cons_of_mem _ hk), h.breaker⟩
  exact ⟨hrest.quiet hs ht,
    (acceptedFor_congr hs.accepted ph).trans (h.waits ph List.mem_cons_self).1⟩

theorem Owns.stable_placing (ho : Owns R G mine L) (htodo : todo ⊆ L) :
    Stable R fun x => mine x ∧ Placing w₀ q done todo x.1 := by
  intro x y h hx
  obtain ⟨hmine, hl⟩ := ho.rely x y h hx.1
  exact ⟨hmine, hx.2.link hl htodo⟩

theorem Owns.stable_trying (ho : Owns R G mine L) (htodo : todo ⊆ L) :
    Stable R fun x => mine x ∧ Trying w₀ q done ph todo x.1 := by
  intro x y h hx
  obtain ⟨hmine, hl⟩ := ho.rely x y h hx.1
  exact ⟨hmine, hx.2.1.link hl htodo, (acceptedFor_congr hl.accepted ph).trans hx.2.2⟩

theorem survives_placing (hph : ph ∉ todo) :
    Survives mine ph fun x => mine x ∧ Placing w₀ q done todo x.1 :=
  ⟨fun _ h => h.1, fun _ _ h hs hm => ⟨hm, h.2.quiet hs hph⟩⟩

theorem survives_trying (hph : ph ∉ todo) :
    Survives mine ph fun x => mine x ∧ Trying w₀ q done ph todo x.1 :=
  ⟨fun _ h => h.1, fun _ _ h hs hm =>
    ⟨hm, h.2.1.quiet hs hph, (acceptedFor_congr hs.accepted ph).trans h.2.2⟩⟩

variable {f T : Decimal} {r : OrderRequest} {e : ExitEntry} {pos : Option Decimal}

theorem submitOrder_covers (ha : c.adapter.AcceptsSubmits) (ho : Owns R G mine L) (htodo : todo ⊆ L)
    (hd : ph ∉ done) (ht : ph ∉ todo) (hr : r.quantity = q) :
    Spec Ok R G (fun x => mine x ∧ Trying w₀ q done ph todo x.1) (submitOrder c ph r)
      fun res x => (∃ handle, res = .ok handle) ∧
        mine x ∧ Placing w₀ q (ph :: done) todo x.1 := by
  refine Spec.call (ho.stable_trying htodo)
    (fun _ => (ho.stable_placing htodo).guard) fun w g hw _ => ⟨g, ?_⟩
  obtain ⟨handle, b, hs⟩ := ha.accepts r w.broker
  simp only [hs]
  obtain ⟨hmine, hG⟩ := ho.guarantee (w, g) ({ w with broker := b }.accept ph handle.id r) hw.1
    ⟨fun _ => rfl, rfl, rfl⟩
  refine ⟨hG, ⟨handle, rfl⟩, hmine, ?_⟩
  have hquiet : Quiet ph w { w with broker := b } :=
    ⟨⟨fun _ => rfl, rfl, rfl⟩, rfl, fun _ _ => rfl⟩
  exact (hw.2.1.quiet hquiet ht).accept hw.2.2 hd ht handle.id hr

theorem placeExitOrder_covers (ha : c.adapter.AcceptsSubmits) (ho : Owns R G mine L)
    (htodo : todo ⊆ L) (hd : ph ∉ done) (ht : ph ∉ todo) (e : ExitEntry) (hr : r.quantity = q)
    (pf : Option (Decimal × Decimal)) :
    Spec Ok R G (fun x => mine x ∧ Trying w₀ q done ph todo x.1) (placeExitOrder c ph e r pf)
      fun _ x => mine x ∧ Placing w₀ q (ph :: done) todo x.1 := by
  have hstable : Stable R fun x => mine x ∧ Placing w₀ q (ph :: done) todo x.1 :=
    ho.stable_placing htodo
  have hsurvives : Survives mine ph fun x => mine x ∧ Placing w₀ q (ph :: done) todo x.1 :=
    survives_placing ht
  have hrecord : ∀ o : Order, Spec Ok R G (fun x => mine x ∧ Placing w₀ q (ph :: done) todo x.1)
      (handleSuccessfulPlacement (β := β) ph e o pf)
      fun _ x => mine x ∧ Placing w₀ q (ph :: done) todo x.1 := fun o =>
    Spec.bind (ho.quiet_step hstable hsurvives fun w => quiet_updateEntry ph _ w) fun _ =>
      Spec.ret hstable fun _ h => h
  -- the first submission is accepted, so only the successful branches are left
  have hattempt : Spec Ok R G (fun x => mine x ∧ Trying w₀ q done ph todo x.1)
      (placeOrderWithRetry c ph r) fun res x => (∃ o n, res = .ok (o, n)) ∧
        mine x ∧ Placing w₀ q (ph :: done) todo x.1 := by
    unfold placeOrderWithRetry placeAttempts
    refine Spec.bind_of (submitOrder_covers ha ho htodo hd ht hr) ?_
    rintro _ ⟨handle, rfl⟩
    refine Spec.bind (ho.quiet_call (α := Except GatewayError Order) hstable hsurvives fun w => ?_)
      fun res => ?_
    · exact ⟨⟨fun _ => rfl, rfl, rfl⟩, rfl, fun _ _ => rfl⟩
    · cases res with
      | ok o => exact Spec.ret hstable.guard fun x hx => ⟨⟨o, 0, rfl⟩, hx⟩
      | error e => exact Spec.ret hstable.guard fun x hx => ⟨⟨_, 0, rfl⟩, hx⟩
  refine Spec.bind_of hattempt ?_
  rintro _ ⟨o, n, rfl⟩
  exact hrecord o

theorem validateEntryForFill_untried (hst : e.status = .pending)
    (hlast : e.lastAttemptedFillQty = none) : validateEntryForFill ph f (some e) = .ok e :=
  validateEntryForFill_eq_ok.mpr ⟨rfl, by rw [hst]; rfl, by rw [hlast]; simp⟩

/-- Nothing is covered by the orders of a leg that waits. -/
theorem calculateExitQuantity_pending (hst : e.status = .pending)
    (hmin : c.config.minExitOrderQty ≤ q) (hq : targetQty f T pos = q) :
    calculateExitQuantity c.config ph e f T pos = .ok (q, e.actualOrders) := by
  have hcov : qtyToPlace f T pos e = q := by
    simp [qtyToPlace, ExitEntry.actualOrders, ExitEntryStatus.actualOrders, hst, hq,
      calculateActiveCoverage_nil]
  rw [calculateExitQuantity_eq, hcov, if_neg (not_lt.mpr hmin)]

/-- A leg that waits is placed once, over the quantity that the fill wants covered. -/
theorem processEntryFill_covers (ha : c.adapter.AcceptsSubmits) (ho : Owns R G mine L)
    (hph : ph ∈ L) (htodo : todo ⊆ L) (hd : ph ∉ done) (ht : ph ∉ todo) (pid : Option String)
    (hmin : c.config.minExitOrderQty ≤ q) (hq : targetQty f T pos = q) :
    Spec Ok R G (fun x => mine x ∧ Placing w₀ q done (ph :: todo) x.1)
      (processEntryFill c ph f T pos pid)
      fun _ x => mine x ∧ Placing w₀ q (ph :: done) todo x.1 := by
  have hsub : ph :: todo ⊆ L := List.cons_subset.mpr ⟨hph, htodo⟩
  have hwait : Stable R fun x => mine x ∧ Placing w₀ q done (ph :: todo) x.1 :=
    ho.stable_placing hsub
  have htry : Stable R fun x => mine x ∧ Trying w₀ q done ph todo x.1 := ho.stable_trying htodo
  have hsurvives : Survives mine ph fun x => mine x ∧ Trying w₀ q done ph todo x.1 :=
    survives_trying ht
  have hplaced : Stable R fun x => mine x ∧ Placing w₀ q (ph :: done) todo x.1 :=
    ho.stable_placing htodo
  -- the entry as it is read: it waits, and nothing was tried for it
  refine Spec.bind_read (V := fun found : Option ExitEntry => ∃ e, found = some e ∧
      e.status = .pending ∧ e.lastAttemptedFillQty = none) hwait (fun x hx => ho.refl hx.1)
    (fun x hx => (hx.2.waits ph List.mem_cons_self).2) ?_
  rintro _ ⟨e, rfl, hst, hlast⟩
  simp only [validateEntryForFill_untried hst hlast]
  refine Spec.bind (Q := fun _ x => mine x ∧ Trying w₀ q done ph todo x.1)
    (Spec.step hwait (fun _ => htry) fun w g hw _ => ?_) fun _ => ?_
  · have hquiet := quiet_updateEntry ph (updateLastAttemptedFillQty f) w
    obtain ⟨hmine, hG⟩ := ho.guarantee (w, g) _ hw.1 hquiet.toWorks
    exact ⟨g, hG, hmine, hw.2.trying hquiet ht⟩
  simp only [calculateExitQuantity_pending hst hmin hq]
  refine Spec.bind_read (V := (· = false)) htry (fun x hx => ho.refl hx.1)
    (fun x hx => hx.2.1.breaker) ?_
  rintro _ rfl
  have hpos : Spec Ok R G (fun x => mine x ∧ Trying w₀ q done ph todo x.1)
      (recordPositionId (β := β) ph pid) fun _ x => mine x ∧ Trying w₀ q done ph todo x.1 := by
    cases pid with
    | none => exact Spec.ret htry fun _ h => h
    | some id => exact ho.quiet_step htry hsurvives fun w => quiet_updateEntry ph _ w
  refine Spec.bind hpos fun _ => Spec.bind (ho.quiet_step htry hsurvives fun w =>
    ⟨⟨fun _ => rfl, rfl, rfl⟩, rfl, fun _ _ => rfl⟩) fun _ => ?_
  refine Spec.bind (placeExitOrder_covers ha ho htodo hd ht e (by rfl) _) fun _ => ?_
  exact Spec.bind (ho.quiet_step hplaced (survives_placing ht) fun w =>
    ⟨⟨fun _ => rfl, rfl, rfl⟩, rfl, fun _ _ => rfl⟩) fun _ => Spec.ret hplaced fun _ h => h

theorem processEntries_covers (ha : c.adapter.AcceptsSubmits) (ho : Owns R G mine L)
    (pid : Option String) (hmin : c.config.minExitOrderQty ≤ q) (hq : targetQty f T pos = q)
    (htodo : todo ⊆ L) (hnd : (done ++ todo).Nodup) :
    Spec Ok R G (fun x => mine x ∧ Placing w₀ q done todo x.1)
      (processEntries c f T pos pid todo)
      fun _ x => mine x ∧ ∀ k ∈ done ++ todo, LegCovered w₀ q x.1 k := by
  have hstable : ∀ ks : List String, Stable R fun x =>
      mine x ∧ ∀ k ∈ ks, LegCovered w₀ q x.1 k := by
    intro ks x y h hx
    obtain ⟨hmine, hl⟩ := ho.rely x y h hx.1
    exact ⟨hmine, fun k hk => (hx.2 k hk).of_accepted hl.accepted⟩
  induction todo generalizing done with
  | nil =>
    refine Spec.ret (hstable _) fun x hx => ⟨hx.1, fun k hk => hx.2.covered k ?_⟩
    simpa using hk
  | cons ph todo ih =>
    obtain ⟨hph, hsub⟩ := List.cons_subset.mp htodo
    have hperm : (done ++ ph :: todo).Perm (ph :: done ++ todo) := List.perm_middle
    have hnd' := hperm.nodup_iff.mp hnd
    have hnotMem : ph ∉ done ++ todo := (List.nodup_cons.mp hnd').1
    rw [List.mem_append, not_or] at hnotMem
    refine Spec.bind (processEntryFill_covers ha ho hph hsub hnotMem.1 hnotMem.2 pid hmin hq)
      fun _ => Spec.bind (ih hsub hnd') fun _ => ?_
    refine Spec.ret (hstable _) fun x hx => ⟨hx.1, fun k hk => hx.2 k (hperm.mem_iff.mp hk)⟩

end owner

/-! ## The protocol -/

/-- Who has the fill. -/
inductive Owner where
  | event
  | buffer
  | submit
  deriving DecidableEq, Repr

/-- The ghost values: who has the fill, and whether the submit task has looked into the buffer. -/
structure RegGhost where
  owner : Owner
  looked : Bool

/-- An order with exits and its one fill. -/
structure Scene (β : Type) where
  ctx : Ctx β
  primary : String
  order : OrderRequest
  filledQty : Decimal
  totalQty : Decimal
  positionQty : Option Decimal
  positionId : Option String
  start : World β

namespace Scene

variable (s : Scene β)

/-- The legs that `register` makes, in its order. -/
def legIds : List String :=
  (s.order.stopLoss.map fun _ => generatePlaceholderId .stopLoss s.primary).toList ++
    (s.order.takeProfit.map fun _ => generatePlaceholderId .takeProfit s.primary).toList

/-- The quantity to cover. -/
def target : Decimal := s.positionQty.getD s.totalQty

def index (w : World β) : List String := w.handler.getPlaceholdersForPrimary s.primary

def buffered (w : World β) : Option BufferedFill := w.handler.unmatchedFills.get s.primary

/-- Nothing is placed for the fill, and the indexed legs wait. -/
structure Untouched (w : World β) : Prop where
  accepted : w.accepted = s.start.accepted
  waits : ∀ k ∈ s.index w, LegWaits s.start w k
  unlisted : ∀ k e, w.handler.getEntry k = some e → ∀ o ∈ e.actualOrders, o.orderId ≠ s.primary

structure Inv (x : World β × RegGhost) : Prop where
  index : s.index x.1 <+: s.legIds
  /-- The submit task looks into the buffer after it has indexed the legs. -/
  looked : x.2.looked = true → s.index x.1 = s.legIds
  buffer : x.2.owner = .buffer → s.Untouched x.1 ∧ ∃ t, s.buffered x.1 =
    some ⟨s.filledQty, s.totalQty, s.positionQty, s.positionId, t⟩
  empty : x.2.owner ≠ .buffer → s.buffered x.1 = none
  submit : x.2.owner = .submit → x.2.looked = true
  breaker : x.1.handler.circuitBreaker.isOpen = false

/-- What the submit task does. While the event task has the fill, it adds and links legs only. -/
structure SubmitStep (x y : World β × RegGhost) : Prop where
  inv : s.Inv x → s.Inv y
  grows : s.index x.1 <+: s.index y.1
  event : x.2.owner = .event →
    y.2.owner = .event ∧ Links (s.index x.1) x.1 y.1 ∧ (s.Untouched x.1 → s.Untouched y.1)
  buffer : x.2.owner = .buffer → y.2 = x.2 ∨ y.2.owner = .submit
  submit : x.2.owner = .submit → y.2.owner = .submit

/-- What the event task does. It touches no entry before all legs are indexed, and none while the
submit task has the fill. -/
structure EventStep (x y : World β × RegGhost) : Prop where
  inv : s.Inv x → s.Inv y
  index : s.index y.1 = s.index x.1
  looked : y.2.looked = x.2.looked
  submit : x.2.owner = .submit → y.2.owner = .submit ∧ Links s.legIds x.1 y.1
  other : x.2.owner ≠ .submit → y.2.owner ≠ .submit
  partly : s.index x.1 ≠ s.legIds →
    y.1.handler.pendingByPlaceholder = x.1.handler.pendingByPlaceholder

/-- What the submission of the order and its fill start from, and the provider. -/
structure Fresh : Prop where
  accepts : s.ctx.adapter.AcceptsSubmits
  positive : 0 < s.totalQty
  full : s.totalQty ≤ s.filledQty
  enough : s.ctx.config.minExitOrderQty ≤ s.target
  legs : s.legIds ≠ []
  prices : validateExitPrices s.order = .ok ()
  room : s.start.handler.pendingByPlaceholder.len < s.ctx.config.maxPendingEntries
  unindexed : s.index s.start = []
  unbuffered : s.buffered s.start = none
  unlisted : s.start.handler.findEntryByActualOrder s.primary = none
  breaker : s.start.handler.circuitBreaker.isOpen = false

theorem legIds_nodup : s.legIds.Nodup := by
  have hne := stopLossId_ne_takeProfitId s.primary
  unfold legIds
  cases s.order.stopLoss <;> cases s.order.takeProfit <;> simp [hne]

variable {s} {x y : World β × RegGhost}

theorem Fresh.valid (hs : s.Fresh) :
    ¬ (decide (s.filledQty ≤ 0) || decide (s.totalQty ≤ 0)) = true := by
  have hf : 0 < s.filledQty := lt_of_lt_of_le hs.positive hs.full
  simp [not_le.mpr hf, not_le.mpr hs.positive]

theorem Fresh.hasLeg (hs : s.Fresh) :
    ¬ (s.order.stopLoss.isNone && s.order.takeProfit.isNone) = true := by
  intro h
  rw [Bool.and_eq_true, Option.isNone_iff_eq_none, Option.isNone_iff_eq_none] at h
  exact hs.legs (by simp [legIds, h.1, h.2])

theorem EventStep.refl (x : World β × RegGhost) : s.EventStep x x :=
  ⟨id, rfl, rfl, fun h => ⟨h, Links.refl _ _⟩, id, fun _ => rfl⟩

theorem SubmitStep.refl (x : World β × RegGhost) : s.SubmitStep x x :=
  ⟨id, List.prefix_refl _, fun h => ⟨h, Links.refl _ _, id⟩, fun _ => .inl rfl, id⟩

theorem Untouched.placing (h : s.Untouched x.1) (hidx : s.index x.1 = s.legIds)
    (hb : x.1.handler.circuitBreaker.isOpen = false) :
    Placing s.start s.target [] s.legIds x.1 :=
  ⟨fun _ hk => (List.not_mem_nil hk).elim, fun k hk => h.waits k (by rw [hidx]; exact hk), hb⟩

variable (leg : ExitLegType) (phs : List String) {w' : World β} {idx : List String}

theorem Inv.works (h : s.Inv x) (how : x.2.owner ≠ .buffer) (hs : Works x.1 w') :
    s.Inv (w', x.2) := by
  have hidx : s.index w' = s.index x.1 := hs.index s.primary
  refine ⟨?_, fun hlooked => hidx.trans (h.looked hlooked), fun hb => absurd hb how, fun hne => ?_,
    h.submit, ?_⟩
  · rw [hidx]
    exact h.index
  · have hempty := h.empty hne
    unfold buffered at hempty ⊢
    rw [hs.fills]
    exact hempty
  · rw [hs.breaker]
    exact h.breaker

/-! ## The event task -/

/-- The event task has the fill and has placed nothing. -/
def EventHas (s : Scene β) (x : World β × RegGhost) : Prop :=
  s.Inv x ∧ x.2.owner = .event ∧ s.Untouched x.1

/-- The event task has the fill and all legs are indexed. -/
def EventPlaces (s : Scene β) (x : World β × RegGhost) : Prop :=
  s.Inv x ∧ x.2.owner = .event ∧ s.index x.1 = s.legIds

/-- The event task has put the fill into the buffer. -/
def EventGave (s : Scene β) (x : World β × RegGhost) : Prop := s.Inv x ∧ x.2.owner ≠ .event

/-- When the event task has ended: it placed all legs if it has the fill, and left the fill in the
buffer only for a submit task that has yet to look. -/
def EventDone (s : Scene β) (x : World β × RegGhost) : Prop :=
  (x.2.owner = .event → ∀ k ∈ s.legIds, LegCovered s.start s.target x.1 k) ∧
    (x.2.owner = .buffer → x.2.looked = false)

theorem stable_eventHas : Stable s.SubmitStep s.EventHas := by
  rintro x y h ⟨hinv, how, hun⟩
  obtain ⟨how', -, hun'⟩ := h.event how
  exact ⟨h.inv hinv, how', hun' hun⟩

theorem stable_eventGave : Stable s.SubmitStep s.EventGave := by
  rintro x y h ⟨hinv, how⟩
  refine ⟨h.inv hinv, ?_⟩
  cases hx : x.2.owner with
  | event => exact absurd hx how
  | buffer =>
    rcases h.buffer hx with heq | hsub
    · rw [heq]
      exact how
    · rw [hsub]
      decide
  | submit =>
    rw [h.submit hx]
    decide

theorem stable_eventDone : Stable s.SubmitStep s.EventDone := by
  rintro x y h ⟨hcov, hbuf⟩
  cases hx : x.2.owner with
  | event =>
    obtain ⟨how, hl, -⟩ := h.event hx
    refine ⟨fun _ k hk => (hcov hx k hk).of_accepted hl.accepted, fun hb => ?_⟩
    rw [how] at hb
    cases hb
  | buffer =>
    rcases h.buffer hx with heq | hsub
    · rw [EventDone, heq, hx]
      exact ⟨nofun, fun _ => hbuf hx⟩
    · rw [EventDone, hsub]
      exact ⟨nofun, nofun⟩
  | submit =>
    rw [EventDone, h.submit hx]
    exact ⟨nofun, nofun⟩

theorem stable_indexed : Stable s.SubmitStep fun x => s.index x.1 ≠ [] := by
  intro x y h hx hy
  have hp := h.grows
  rw [hy, List.prefix_nil] at hp
  exact hx hp

theorem eventPlaces_owns : Owns s.SubmitStep s.EventStep s.EventPlaces s.legIds where
  rely x y h hx := by
    obtain ⟨hinv, how, hidx⟩ := hx
    obtain ⟨how', hl, -⟩ := h.event how
    have hgrows := h.grows
    rw [hidx] at hgrows hl
    exact ⟨⟨h.inv hinv, how', ((h.inv hinv).index.eq_of_length_le hgrows.length_le)⟩, hl⟩
  guarantee x w' hx hs := by
    obtain ⟨hinv, how, hidx⟩ := hx
    have hidx' : s.index w' = s.index x.1 := hs.index s.primary
    have hinv' := hinv.works (by rw [how]; decide) hs
    refine ⟨⟨hinv', how, hidx'.trans hidx⟩, fun _ => hinv', hidx', rfl, fun hsub => ?_, fun h => h,
      fun hne => absurd hidx hne⟩
    rw [how] at hsub
    cases hsub

/-- The operation that looks the legs up. -/
def lookup (p : String) : Op (World β) := ⟨fun w => (w.handler.getPlaceholdersForPrimary p, w)⟩

/-- A lookup sees no leg or all legs. -/
def SeesAllLegs (s : Scene β) (o : Op (World β)) (w : World β) : Prop :=
  o = lookup s.primary → s.index w = [] ∨ s.index w = s.legIds

/-- A specification of a part of the event task. -/
def EventSpec (s : Scene β) (P : World β × RegGhost → Prop) (t : ExitM β α)
    (Q : α → World β × RegGhost → Prop) : Prop :=
  Spec s.SeesAllLegs s.SubmitStep s.EventStep P t Q

/-- What is left to do when the legs have been looked up. -/
def EventFound (s : Scene β) (phs : List String) (x : World β × RegGhost) : Prop :=
  phs = [] ∧ s.EventHas x ∨
    phs = s.legIds ∧ s.EventPlaces x ∧ Placing s.start s.target [] s.legIds x.1

theorem stable_eventFound : Stable s.SubmitStep (s.EventFound phs) := by
  rintro x y h (⟨hphs, hx⟩ | ⟨hphs, hx⟩)
  · exact .inl ⟨hphs, stable_eventHas h hx⟩
  · exact .inr ⟨hphs, eventPlaces_owns.stable_placing (List.Subset.refl _) h hx⟩

theorem lookup_spec : s.EventSpec s.EventHas
    (readHandler fun h => h.getPlaceholdersForPrimary s.primary) s.EventFound := by
  refine Spec.step stable_eventHas stable_eventFound fun w g hw hok =>
    ⟨g, EventStep.refl _, ?_⟩
  obtain ⟨hinv, how, hun⟩ := hw
  rcases hok rfl with hidx | hidx
  · exact .inl ⟨hidx, hinv, how, hun⟩
  · exact .inr ⟨hidx, ⟨hinv, how, hidx⟩, hun.placing (x := (w, g)) hidx hinv.breaker⟩

/-- The primary order is no exit order, so nothing is resolved. -/
theorem exitLegFill_spec (isFullFill : Bool) : s.EventSpec s.EventHas
    (handleExitLegFill s.ctx s.primary isFullFill) fun r x => r = false ∧ s.EventHas x := by
  refine Spec.bind_read (V := (· = none)) stable_eventHas (fun x _ => .refl x)
    (fun x hx => x.1.handler.findEntryByActualOrder_none.mpr hx.2.2.unlisted) ?_
  rintro _ rfl
  exact Spec.ret stable_eventHas.guard fun x hx => ⟨rfl, hx⟩

theorem bufferFill_spec : s.EventSpec s.EventHas
    (Routine.modify fun w : World β =>
      { w with
        handler := bufferUnmatchedFill (s.ctx.adapter.now w.broker) s.primary s.filledQty s.totalQty
          s.positionQty s.positionId w.handler })
    fun _ => s.EventGave := by
  refine Spec.step stable_eventHas (fun _ => stable_eventGave) fun w g hw _ =>
    ⟨{ g with owner := .buffer }, ?_⟩
  obtain ⟨hinv, how, hun⟩ := hw
  set w' : World β := { w with
    handler := bufferUnmatchedFill (s.ctx.adapter.now w.broker) s.primary s.filledQty s.totalQty
      s.positionQty s.positionId w.handler } with hw'
  have hbuf : s.buffered w' = some ⟨s.filledQty, s.totalQty, s.positionQty, s.positionId,
      s.ctx.adapter.now w.broker⟩ := Table.get_insert_self _ _ _
  have hinv' : s.Inv (w', { g with owner := .buffer }) :=
    ⟨hinv.index, hinv.looked, fun _ => ⟨⟨hun.accepted, hun.waits, hun.unlisted⟩, _, hbuf⟩,
      fun hne => absurd rfl hne, nofun, hinv.breaker⟩
  refine ⟨⟨fun _ => hinv', rfl, rfl, fun hsub => ?_, fun _ => by simp, fun _ => rfl⟩, hinv',
    by simp⟩
  rw [how] at hsub
  cases hsub

/-- If the event task sees no leg after it has buffered the fill, the submit task has yet to look
into the buffer. -/
theorem hasPending_spec (hs : s.Fresh) : s.EventSpec s.EventGave
    (readHandler fun h => h.hasPendingForPrimary s.primary)
    fun r x => s.EventGave x ∧ (r = false → s.EventDone x) ∧ (r = true → s.index x.1 ≠ []) := by
  refine Spec.step stable_eventGave (fun r x y h hx => ?_) fun w g hw _ =>
    ⟨g, EventStep.refl _, hw, fun hr => ⟨fun he => absurd he hw.2, fun hb => ?_⟩, fun hr hidx => ?_⟩
  · exact ⟨stable_eventGave h hx.1, fun hr => stable_eventDone h (hx.2.1 hr),
      fun hr => stable_indexed h (hx.2.2 hr)⟩
  · by_contra hlooked
    have hidx := hw.1.looked (by simpa using hlooked)
    obtain ⟨k, ks, hlegs⟩ := List.exists_cons_of_ne_nil hs.legs
    obtain ⟨hun, -⟩ := hw.1.buffer hb
    have hk : k ∈ s.index w := by
      rw [hidx, hlegs]
      exact List.mem_cons_self
    obtain ⟨-, e, he, -⟩ := hun.waits k hk
    have hany : w.handler.hasPendingForPrimary s.primary = true :=
      List.any_eq_true.mpr ⟨k, hk, by rw [he]; rfl⟩
    exact Bool.noConfusion (hany.symm.trans hr)
  · have hany := List.any_eq_true.mp hr
    obtain ⟨k, hk, -⟩ := hany
    have hidx' : w.handler.getPlaceholdersForPrimary s.primary = [] := hidx
    rw [hidx'] at hk
    cases hk

/-- The event task takes the fill back, unless the submit task was faster. -/
theorem takeBack_spec : s.EventSpec (fun x => s.EventGave x ∧ s.index x.1 ≠ [])
    (takeUnmatchedFill s.primary)
    fun res x => res = none ∧ s.EventDone x ∨
      (∃ fill, res = some fill) ∧ s.EventHas x ∧ s.index x.1 ≠ [] := by
  refine Spec.step (stable_eventGave.and stable_indexed) (fun res x y h hx => ?_)
    fun w g hw _ => ?_
  · rcases hx with ⟨hres, hx⟩ | ⟨hres, hx, hidx⟩
    · exact .inl ⟨hres, stable_eventDone h hx⟩
    · exact .inr ⟨hres, stable_eventHas h hx, stable_indexed h hidx⟩
  obtain ⟨⟨hinv, how⟩, hidx⟩ := hw
  set w' : World β := { w with
    handler := { w.handler with unmatchedFills := w.handler.unmatchedFills.remove s.primary } }
    with hw'
  have hempty : s.buffered w' = none := Table.get_remove_self _ _
  cases hg : g.owner with
  | event => exact absurd hg how
  | buffer =>
    obtain ⟨hun, t, hbuf⟩ := hinv.buffer hg
    have hinv' : s.Inv (w', { g with owner := .event }) :=
      ⟨hinv.index, hinv.looked, nofun, fun _ => hempty, nofun, hinv.breaker⟩
    refine ⟨{ g with owner := .event },
      ⟨fun _ => hinv', rfl, rfl, fun hsub => ?_, fun _ => by simp, fun _ => rfl⟩,
      .inr ⟨⟨_, hbuf⟩, ⟨hinv', rfl, hun.accepted, hun.waits, hun.unlisted⟩, hidx⟩⟩
    rw [hg] at hsub
    cases hsub
  | submit =>
    have hnone : s.buffered w = none := hinv.empty (by rw [hg]; decide)
    have hinv' : s.Inv (w', g) :=
      ⟨hinv.index, hinv.looked, fun hb => (by rw [hg] at hb; cases hb), fun _ => hempty,
        hinv.submit, hinv.breaker⟩
    refine ⟨g, ⟨fun _ => hinv', rfl, rfl, fun h => ⟨h, rfl, rfl, fun _ _ e he => ⟨e, he, rfl, rfl⟩⟩,
      fun h => h, fun _ => rfl⟩, .inl ⟨hnone, ?_⟩⟩
    rw [EventDone, hg]
    exact ⟨nofun, nofun⟩

/-- What is left to do after the fill came back. -/
def EventRest (s : Scene β) (phs : List String) (x : World β × RegGhost) : Prop :=
  phs = [] ∧ s.EventDone x ∨
    phs = s.legIds ∧ s.EventPlaces x ∧ Placing s.start s.target [] s.legIds x.1

theorem stable_eventRest : Stable s.SubmitStep (s.EventRest phs) := by
  rintro x y h (⟨hphs, hx⟩ | ⟨hphs, hx⟩)
  · exact .inl ⟨hphs, stable_eventDone h hx⟩
  · exact .inr ⟨hphs, eventPlaces_owns.stable_placing (List.Subset.refl _) h hx⟩

theorem unmatchedFill_spec (hs : s.Fresh) : s.EventSpec s.EventHas
    (handleUnmatchedFill s.ctx s.primary s.filledQty s.totalQty s.positionQty s.positionId)
    s.EventRest := by
  refine Spec.bind_of (exitLegFill_spec _) ?_
  rintro _ rfl
  refine Spec.bind bufferFill_spec fun _ => Spec.bind (hasPending_spec hs) fun pending => ?_
  cases pending with
  | false => exact Spec.ret (stable_eventRest _) fun x hx => .inl ⟨rfl, hx.2.1 rfl⟩
  | true =>
    refine Spec.bind (takeBack_spec.pre fun x hx => ⟨hx.1, hx.2.2 rfl⟩) fun taken => ?_
    cases taken with
    | none =>
      refine Spec.ret (stable_eventRest _) fun x hx => .inl ⟨rfl, ?_⟩
      rcases hx with ⟨-, hx⟩ | ⟨⟨_, h⟩, -⟩
      · exact hx
      · cases h
    | some fill =>
      -- the legs were indexed before the fill was taken back
      refine Spec.pre (P := fun x => s.EventHas x ∧ s.index x.1 ≠ []) ?_ fun x hx => ?_
      · refine Spec.step (stable_eventHas.and stable_indexed) stable_eventRest fun w g hw hok =>
          ⟨g, EventStep.refl _, ?_⟩
        obtain ⟨⟨hinv, how, hun⟩, hne⟩ := hw
        have hidx := (hok rfl).resolve_left hne
        exact .inr ⟨hidx, ⟨hinv, how, hidx⟩, hun.placing (x := (w, g)) hidx hinv.breaker⟩
      · rcases hx with ⟨h, -⟩ | ⟨-, hx⟩
        · cases h
        · exact hx

theorem targetQty_eq (hs : s.Fresh) :
    targetQty s.filledQty s.totalQty s.positionQty = s.target :=
  if_neg (not_lt.mpr hs.full)

theorem event_processEntries_spec (hs : s.Fresh) : s.EventSpec
    (fun x => s.EventPlaces x ∧ Placing s.start s.target [] s.legIds x.1)
    (processEntries s.ctx s.filledQty s.totalQty s.positionQty s.positionId s.legIds)
    fun _ => s.EventDone := by
  refine Spec.mono (processEntries_covers hs.accepts eventPlaces_owns s.positionId hs.enough
    (targetQty_eq hs) (List.Subset.refl _) s.legIds_nodup) (fun _ h => h) fun _ x hx => ?_
  obtain ⟨⟨-, how, -⟩, hcov⟩ := hx
  rw [EventDone, how]
  exact ⟨fun _ => hcov, nofun⟩

theorem handleFill_event_spec (hs : s.Fresh) : s.EventSpec s.EventHas
    (handleFill s.ctx s.primary s.filledQty s.totalQty s.positionQty s.positionId)
    fun _ => s.EventDone := by
  refine Spec.locked ?_
  rw [if_neg hs.valid]
  refine Spec.bind lookup_spec fun phs => ?_
  by_cases hphs : phs.isEmpty = true
  · rw [if_pos hphs]
    have hhas : ∀ x, s.EventFound phs x → s.EventHas x := by
      rintro x (⟨-, hx⟩ | ⟨rfl, -⟩)
      · exact hx
      · exact absurd (List.isEmpty_iff.mp hphs) hs.legs
    refine Spec.bind (Spec.pre (unmatchedFill_spec hs) hhas) fun reclaimed => ?_
    rintro x (⟨rfl, hx⟩ | ⟨rfl, hx⟩)
    · have hnil : s.EventSpec s.EventDone
          (processEntries s.ctx s.filledQty s.totalQty s.positionQty s.positionId [])
          fun _ => s.EventDone := Spec.ret stable_eventDone fun _ h => h
      exact hnil x hx
    · exact event_processEntries_spec hs x hx
  · rw [if_neg hphs]
    rintro x (⟨rfl, -⟩ | ⟨rfl, hx⟩)
    · exact absurd rfl hphs
    · exact event_processEntries_spec hs x hx

/-! ## The submit task -/

/-- A specification of a part of the submit task. -/
def SubmitSpec (s : Scene β) (P : World β × RegGhost → Prop) (t : ExitM β α)
    (Q : α → World β × RegGhost → Prop) : Prop :=
  Spec (fun _ _ => True) s.EventStep s.SubmitStep P t Q

/-- The submit task has indexed the legs `idx` and not looked into the buffer. -/
def Registering (s : Scene β) (idx : List String) (x : World β × RegGhost) : Prop :=
  s.Inv x ∧ x.2.looked = false ∧ s.index x.1 = idx

/-- The submit task has the fill and all legs are indexed. -/
def SubmitPlaces (s : Scene β) (x : World β × RegGhost) : Prop :=
  s.Inv x ∧ x.2.owner = .submit ∧ s.index x.1 = s.legIds

/-- When the submit task has ended: it looked into the buffer, and placed all legs if it took the
fill. -/
def SubmitDone (s : Scene β) (x : World β × RegGhost) : Prop :=
  x.2.looked = true ∧
    (x.2.owner = .submit → ∀ k ∈ s.legIds, LegCovered s.start s.target x.1 k)

theorem stable_registering (idx : List String) : Stable s.EventStep (s.Registering idx) :=
  fun _ _ h hx => ⟨h.inv hx.1, h.looked.trans hx.2.1, h.index.trans hx.2.2⟩

theorem stable_submitDone : Stable s.EventStep s.SubmitDone := by
  rintro x y h ⟨hlooked, hcov⟩
  refine ⟨h.looked.trans hlooked, fun how => ?_⟩
  by_cases hx : x.2.owner = .submit
  · obtain ⟨-, hl⟩ := h.submit hx
    exact fun k hk => (hcov hx k hk).of_accepted hl.accepted
  · exact absurd how (h.other hx)

theorem submitPlaces_owns : Owns s.EventStep s.SubmitStep s.SubmitPlaces s.legIds where
  rely x y h hx := by
    obtain ⟨hinv, how, hidx⟩ := hx
    obtain ⟨how', hl⟩ := h.submit how
    exact ⟨⟨h.inv hinv, how', h.index.trans hidx⟩, hl⟩
  guarantee x w' hx hs := by
    obtain ⟨hinv, how, hidx⟩ := hx
    have hidx' : s.index w' = s.index x.1 := hs.index s.primary
    have hinv' := hinv.works (by rw [how]; decide) hs
    refine ⟨⟨hinv', how, hidx'.trans hidx⟩, fun _ => hinv', by rw [hidx'], fun he => ?_,
      fun hb => ?_, fun h => h⟩
    · rw [how] at he
      cases he
    · rw [how] at hb
      cases hb

/-- A step of the registration: the legs indexed so far are only linked, the fill stays where it
is, and what is new in the index waits. -/
theorem Registering.step {w : World β} {g : RegGhost} (hx : s.Registering idx (w, g))
    (hl : Links idx w w') (hfills : w'.handler.unmatchedFills = w.handler.unmatchedFills)
    (hgrows : idx <+: s.index w') (hlegs : s.index w' <+: s.legIds)
    (hnew : s.Untouched w → s.Untouched w') :
    s.Registering (s.index w') (w', g) ∧ s.SubmitStep (w, g) (w', g) := by
  obtain ⟨hinv, hlooked, rfl⟩ := hx
  have hbuf : s.buffered w' = s.buffered w := by
    unfold buffered
    rw [hfills]
  have hinv' : s.Inv (w', g) := by
    refine ⟨hlegs, fun h => ?_, fun hb => ?_, fun hne => hbuf.trans (hinv.empty hne),
      hinv.submit, ?_⟩
    · rw [show g.looked = false from hlooked] at h
      cases h
    · obtain ⟨hun, t, ht⟩ := hinv.buffer hb
      exact ⟨hnew hun, t, hbuf.trans ht⟩
    · rw [hl.breaker]
      exact hinv.breaker
  exact ⟨⟨hinv', hlooked, rfl⟩, fun _ => hinv', hgrows, fun he => ⟨he, hl, hnew⟩, fun _ => .inl rfl,
    fun h => h⟩

/-- The entry at `k` is new. -/
def Ready (k : String) (w : World β) : Prop :=
  ∃ e, w.handler.getEntry k = some e ∧ e.status = .pending ∧ e.lastAttemptedFillQty = none

/-- The event task does not touch a leg before all legs are indexed. -/
theorem stable_ready (hidx : idx ≠ s.legIds) (k : String) :
    Stable s.EventStep fun x => s.Registering idx x ∧ Ready k x.1 := by
  rintro x y h ⟨hx, e, he, hst⟩
  have htable := h.partly (by rw [hx.2.2]; exact hidx)
  refine ⟨stable_registering idx h hx, e, ?_, hst⟩
  unfold ExitHandler.getEntry at he ⊢
  rw [htable]
  exact he

theorem insertLeg_spec (price : Decimal) (hidx : idx ≠ s.legIds)
    (hk : generatePlaceholderId leg s.primary ∉ idx) :
    s.SubmitSpec (s.Registering idx)
      (Routine.modify fun w : World β =>
        { w with
          handler := w.handler.insertEntry
            (legEntry s.ctx s.primary s.order leg price (s.ctx.adapter.now w.broker)) })
      fun _ x => s.Registering idx x ∧ Ready (generatePlaceholderId leg s.primary) x.1 := by
  refine Spec.step (stable_registering idx) (fun _ => stable_ready hidx _) fun w g hw _ => ⟨g, ?_⟩
  set entry := legEntry s.ctx s.primary s.order leg price (s.ctx.adapter.now w.broker) with hentry
  set w' : World β := { w with handler := w.handler.insertEntry entry } with hw'
  have hget : ∀ k, w'.handler.getEntry k =
      if k = generatePlaceholderId leg s.primary then some entry else w.handler.getEntry k :=
    fun k => w.handler.getEntry_insertEntry entry k
  have hidx' : s.index w' = idx := hw.2.2
  have hother : ∀ k ∈ idx, w'.handler.getEntry k = w.handler.getEntry k := fun k hmem => by
    have hne : k ≠ generatePlaceholderId leg s.primary := fun h => hk (h ▸ hmem)
    rw [hget, if_neg hne]
  have hl : Links idx w w' := ⟨rfl, rfl, fun k hmem e he => ⟨e, (hother k hmem).trans he, rfl, rfl⟩⟩
  have hnew : s.Untouched w → s.Untouched w' := by
    intro hun
    refine ⟨hun.accepted, fun k hmem => ?_, fun k e he o ho => ?_⟩
    · rw [hidx'] at hmem
      exact (hun.waits k (by rw [show s.index w = idx from hw.2.2]; exact hmem)).link hl hmem
    · rw [hget] at he
      split at he
      · cases he
        cases ho
      · exact hun.unlisted k e he o ho
  obtain ⟨hreg, hstep⟩ := hw.step hl rfl (by rw [hidx'])
    (by rw [hidx', ← hw.2.2]; exact hw.1.index) hnew
  rw [hidx'] at hreg
  exact ⟨hstep, hreg, entry, by rw [hget, if_pos rfl], rfl, rfl⟩

theorem indexLeg_spec {k : String} (hidx : idx ++ [k] <+: s.legIds) :
    s.SubmitSpec (fun x => s.Registering idx x ∧ Ready k x.1)
      (modifyHandler (β := β) fun h => h.addToSecondaryIndex s.primary k)
      fun _ => s.Registering (idx ++ [k]) := by
  have hne : idx ≠ s.legIds := by
    rintro rfl
    have hlen := hidx.length_le
    simp at hlen
  refine Spec.step (stable_ready hne k) (fun _ => stable_registering _) fun w g hw _ => ⟨g, ?_⟩
  obtain ⟨hreg, hready⟩ := hw
  set w' : World β := { w with handler := w.handler.addToSecondaryIndex s.primary k } with hw'
  have hidx' : s.index w' = idx ++ [k] := by
    rw [← hreg.2.2]
    exact (w.handler.getPlaceholdersForPrimary_addToSecondaryIndex s.primary s.primary k).trans
      (if_pos rfl)
  have hl : Links idx w w' := ⟨rfl, rfl, fun _ _ e he => ⟨e, he, rfl, rfl⟩⟩
  have hnew : s.Untouched w → s.Untouched w' := by
    refine fun hun => ⟨hun.accepted, fun k' hmem => ?_, hun.unlisted⟩
    rw [hidx', List.mem_append, List.mem_singleton] at hmem
    rcases hmem with hmem | rfl
    · exact hun.waits k' (by rw [show s.index w = idx from hreg.2.2]; exact hmem)
    · exact ⟨acceptedFor_congr hun.accepted k', hready⟩
  obtain ⟨hreg', hstep⟩ := hreg.step hl rfl (by rw [hidx']; exact List.prefix_append _ _)
    (by rw [hidx']; exact hidx) hnew
  rw [hidx'] at hreg'
  exact ⟨hstep, hreg'⟩

theorem registerLeg_spec {price : Option Decimal} (hk : generatePlaceholderId leg s.primary ∉ idx)
    (hidx : idx ++ (price.map fun _ => generatePlaceholderId leg s.primary).toList <+: s.legIds) :
    s.SubmitSpec (s.Registering idx) (registerLeg s.ctx s.primary s.order leg price)
      fun _ => s.Registering
        (idx ++ (price.map fun _ => generatePlaceholderId leg s.primary).toList) := by
  cases price with
  | none =>
    rw [Option.map_none, Option.toList_none, List.append_nil]
    exact Spec.ret (stable_registering _) fun x hx => hx
  | some price =>
    have hne : idx ≠ s.legIds := by
      intro h
      have hlen := hidx.length_le
      rw [← h] at hlen
      simp at hlen
    exact Spec.bind (insertLeg_spec leg price hne hk) fun _ =>
      Spec.bind (indexLeg_spec hidx) fun _ => Spec.ret (stable_registering _) fun x hx => hx

/-- Linking changes neither the status of an entry nor what was tried for it. -/
theorem linkLeg_spec (k sibling : String) :
    s.SubmitSpec (s.Registering idx)
      (modifyHandler (β := β) fun h => h.modifyEntry k (.setSibling sibling))
      fun _ => s.Registering idx := by
  refine Spec.step (stable_registering idx) (fun _ => stable_registering idx) fun w g hw _ =>
    ⟨g, ?_⟩
  set w' : World β := w.updateEntry k (.setSibling sibling) with hw'
  have hget : ∀ k' e', w'.handler.getEntry k' = some e' → ∃ e, w.handler.getEntry k' = some e ∧
      e'.status = e.status ∧ e'.lastAttemptedFillQty = e.lastAttemptedFillQty := by
    intro k' e' he'
    by_cases hk : k' = k
    · subst hk
      rw [hw', World.updateEntry, ExitHandler.getEntry_modifyEntry_self,
        Option.map_eq_some_iff] at he'
      obtain ⟨e, he, rfl⟩ := he'
      exact ⟨e, he, rfl, rfl⟩
    · rw [hw', World.updateEntry, ExitHandler.getEntry_modifyEntry_ne _ _ hk] at he'
      exact ⟨e', he', rfl, rfl⟩
  have hl : ∀ keys, Links keys w w' := by
    refine fun keys => ⟨rfl, rfl, fun k' _ e he => ?_⟩
    by_cases hk : k' = k
    · subst hk
      exact ⟨e.setSibling sibling, by simp [hw', World.updateEntry, he], rfl, rfl⟩
    · refine ⟨e, ?_, rfl, rfl⟩
      rw [hw', World.updateEntry, ExitHandler.getEntry_modifyEntry_ne _ _ hk]
      exact he
  have hidx' : s.index w' = idx := hw.2.2
  have hnew : s.Untouched w → s.Untouched w' := by
    refine fun hun => ⟨hun.accepted, fun k' hmem => ?_, fun k' e' he' o ho => ?_⟩
    · exact (hun.waits k' hmem).link (hl (s.index w)) hmem
    · obtain ⟨e, he, hst, -⟩ := hget k' e' he'
      rw [ExitEntry.actualOrders, hst] at ho
      exact hun.unlisted k' e he o ho
  obtain ⟨hreg, hstep⟩ := hw.step (hl idx) rfl (by rw [hidx'])
    (by rw [hidx', ← hw.2.2]; exact hw.1.index) hnew
  rw [hidx'] at hreg
  exact ⟨hstep, hreg⟩

theorem linkSiblings_spec (slId tpId : Option String) :
    s.SubmitSpec (s.Registering idx) (linkSiblings (β := β) slId tpId)
      fun _ => s.Registering idx := by
  unfold linkSiblings
  split
  · exact Spec.bind (linkLeg_spec _ _) fun _ => linkLeg_spec _ _
  · exact Spec.ret (stable_registering _) fun x hx => hx

/-- There is room for the legs before the first is indexed. -/
theorem stable_room (hs : s.Fresh) : Stable s.EventStep fun x => s.Registering [] x ∧
    x.1.handler.pendingByPlaceholder.len < s.ctx.config.maxPendingEntries := by
  rintro x y h ⟨hx, hroom⟩
  refine ⟨stable_registering [] h hx, ?_⟩
  rw [h.partly (by rw [hx.2.2]; exact hs.legs.symm)]
  exact hroom

theorem register_spec (hs : s.Fresh) : s.SubmitSpec
    (fun x => s.Registering [] x ∧
      x.1.handler.pendingByPlaceholder.len < s.ctx.config.maxPendingEntries)
    (register s.ctx s.primary s.order)
    fun res x => (∃ legs, res = .ok legs) ∧ s.Registering s.legIds x := by
  refine Spec.bind_read (V := (· < s.ctx.config.maxPendingEntries)) (stable_room hs)
    (fun x _ => .refl x) (fun x hx => hx.2) fun count hcount => ?_
  rw [if_neg (not_le.mpr hcount), if_neg hs.hasLeg]
  simp only [hs.prices]
  have hsl : s.SubmitSpec (s.Registering []) _ _ :=
    registerLeg_spec .stopLoss List.not_mem_nil
      (List.prefix_append _ (s.order.takeProfit.map fun _ => _).toList)
  refine Spec.bind (hsl.pre fun x hx => hx.1) fun slId =>
    Spec.bind (registerLeg_spec .takeProfit ?_ (List.prefix_refl _)) fun tpId =>
      Spec.bind (linkSiblings_spec slId tpId) fun _ => ?_
  · cases s.order.stopLoss <;> simp [(stopLossId_ne_takeProfitId s.primary).symm]
  · exact Spec.ret (stable_registering _).guard fun x hx => ⟨⟨_, rfl⟩, hx⟩

/-- The submit task takes the fill out of the buffer, or leaves it to the event task. -/
theorem takeFill_spec : s.SubmitSpec (s.Registering s.legIds) (takeUnmatchedFill s.primary)
    fun res x => res = none ∧ s.SubmitDone x ∨
      (∃ t, res = some ⟨s.filledQty, s.totalQty, s.positionQty, s.positionId, t⟩) ∧
        s.SubmitPlaces x ∧ Placing s.start s.target [] s.legIds x.1 := by
  refine Spec.step (stable_registering _) (fun res x y h hx => ?_) fun w g hw _ => ?_
  · rcases hx with ⟨hres, hx⟩ | ⟨hres, hx⟩
    · exact .inl ⟨hres, stable_submitDone h hx⟩
    · exact .inr ⟨hres, submitPlaces_owns.stable_placing (List.Subset.refl _) h hx⟩
  obtain ⟨hinv, hlooked, hidx⟩ := hw
  set w' : World β := { w with
    handler := { w.handler with unmatchedFills := w.handler.unmatchedFills.remove s.primary } }
    with hw'
  have hempty : s.buffered w' = none := Table.get_remove_self _ _
  cases hg : g.owner with
  | submit =>
    have hl := hinv.submit hg
    rw [hlooked] at hl
    cases hl
  | event =>
    have hnone : s.buffered w = none := hinv.empty (by rw [hg]; decide)
    have hinv' : s.Inv (w', { g with looked := true }) :=
      ⟨hinv.index, fun _ => hidx, fun hb => (by rw [hg] at hb; cases hb), fun _ => hempty,
        fun _ => rfl, hinv.breaker⟩
    refine ⟨{ g with looked := true }, ⟨fun _ => hinv', List.prefix_refl _, fun he => ⟨he, ?_, ?_⟩,
      fun hb => ?_, fun h => h⟩, .inl ⟨hnone, rfl, fun hsub => ?_⟩⟩
    · exact ⟨rfl, rfl, fun _ _ e he => ⟨e, he, rfl, rfl⟩⟩
    · exact fun hun => ⟨hun.accepted, hun.waits, hun.unlisted⟩
    · rw [hg] at hb
      cases hb
    · rw [hg] at hsub
      cases hsub
  | buffer =>
    obtain ⟨hun, t, hbuf⟩ := hinv.buffer hg
    have hinv' : s.Inv (w', ⟨.submit, true⟩) :=
      ⟨hinv.index, fun _ => hidx, nofun, fun _ => hempty, fun _ => rfl, hinv.breaker⟩
    have hun' : s.Untouched w' := ⟨hun.accepted, hun.waits, hun.unlisted⟩
    refine ⟨⟨.submit, true⟩, ⟨fun _ => hinv', List.prefix_refl _, fun he => ?_, fun _ => .inr rfl,
      fun _ => rfl⟩, .inr ⟨⟨t, hbuf⟩, ⟨hinv', rfl, hidx⟩, ?_⟩⟩
    · rw [hg] at he
      cases he
    · exact hun'.placing (x := (w', ⟨.submit, true⟩)) hidx hinv.breaker

theorem submit_processEntries_spec (hs : s.Fresh) : s.SubmitSpec
    (fun x => s.SubmitPlaces x ∧ Placing s.start s.target [] s.legIds x.1)
    (processEntries s.ctx s.filledQty s.totalQty s.positionQty s.positionId s.legIds)
    fun _ => s.SubmitDone :=
  Spec.mono (processEntries_covers hs.accepts submitPlaces_owns s.positionId hs.enough
    (targetQty_eq hs) (List.Subset.refl _) s.legIds_nodup) (fun _ h => h)
    fun _ _ hx => ⟨hx.1.1.submit hx.1.2.1, fun _ => hx.2⟩

/-- The replay of the fill that the submit task took. -/
theorem handleFill_submit_spec (hs : s.Fresh) : s.SubmitSpec
    (fun x => s.SubmitPlaces x ∧ Placing s.start s.target [] s.legIds x.1)
    (handleFillInternal s.ctx s.primary s.filledQty s.totalQty s.positionQty s.positionId)
    fun _ => s.SubmitDone := by
  have hstable : Stable s.EventStep fun x =>
      s.SubmitPlaces x ∧ Placing s.start s.target [] s.legIds x.1 :=
    submitPlaces_owns.stable_placing (List.Subset.refl _)
  refine Spec.locked ?_
  rw [if_neg hs.valid]
  refine Spec.bind_read (V := (· = s.legIds)) hstable (fun x _ => .refl x) (fun x hx => hx.1.2.2) ?_
  rintro _ rfl
  rw [if_neg (by simpa using hs.legs)]
  exact submit_processEntries_spec hs

theorem registerPendingExits_spec (hs : s.Fresh) : s.SubmitSpec
    (fun x => s.Registering [] x ∧
      x.1.handler.pendingByPlaceholder.len < s.ctx.config.maxPendingEntries)
    (Api.registerPendingExits s.ctx .pendingSlTp s.order s.primary) fun _ => s.SubmitDone := by
  have hroom := stable_room hs
  unfold Api.registerPendingExits
  rw [if_neg hs.hasLeg, if_neg (by simp)]
  refine Spec.bind_read (V := (· = false)) hroom (fun x _ => .refl x) (fun x hx => ?_) ?_
  · have hidx : x.1.handler.getPlaceholdersForPrimary s.primary = [] := hx.1.2.2
    simp [ExitHandler.hasPendingForPrimary, hidx]
  rintro _ rfl
  refine Spec.bind_of (register_spec hs) ?_
  rintro _ ⟨legs, rfl⟩
  refine Spec.bind (Q := fun _ => s.SubmitDone) ?_ fun _ =>
    Spec.ret stable_submitDone fun x hx => hx
  refine Spec.bind takeFill_spec fun taken => ?_
  rintro x (⟨rfl, hx⟩ | ⟨⟨t, rfl⟩, hx⟩)
  · exact fun y hy => stable_submitDone.star hy hx
  · exact handleFill_submit_spec hs x hx

/-! ## The race -/

inductive RegTask where
  | submit
  | event
  deriving DecidableEq, Repr

instance : Fintype RegTask := ⟨{.submit, .event}, fun t => by cases t <;> decide⟩

/-- The submit task and the event task, from the start. -/
def race (s : Scene β) : Conf RegTask (World β) where
  task
    | .submit => Api.registerPendingExits s.ctx .pendingSlTp s.order s.primary
    | .event =>
      handleFill s.ctx s.primary s.filledQty s.totalQty s.positionQty s.positionId >>= fun _ =>
        pure ()
  holder := none
  state := s.start

/-- No lookup of the event task falls between the indexing of the legs. -/
def RaceOk (s : Scene β) : RegTask → Op (World β) → World β → Prop
  | .submit, _, _ => True
  | .event, o, w => s.SeesAllLegs o w

def raceRely (s : Scene β) : RegTask → World β × RegGhost → World β × RegGhost → Prop
  | .submit => s.EventStep
  | .event => s.SubmitStep

def raceGuarantee (s : Scene β) : RegTask → World β × RegGhost → World β × RegGhost → Prop
  | .submit => s.SubmitStep
  | .event => s.EventStep

def racePost (s : Scene β) : RegTask → World β × RegGhost → Prop
  | .submit => s.SubmitDone
  | .event => s.EventDone

theorem raceGuarantee_rely (i j : RegTask) (hne : i ≠ j) (x y : World β × RegGhost)
    (h : s.raceGuarantee i x y) : s.raceRely j x y := by
  cases i <;> cases j
  · exact absurd rfl hne
  · exact h
  · exact h
  · exact absurd rfl hne

theorem race_safe (hs : s.Fresh) :
    s.race.Safe s.RaceOk s.raceRely s.raceGuarantee s.racePost ⟨.event, false⟩ := by
  have hinv : s.Inv (s.start, ⟨.event, false⟩) :=
    ⟨by rw [hs.unindexed]; exact List.nil_prefix, nofun, nofun, fun _ => hs.unbuffered, nofun,
      hs.breaker⟩
  have hun : s.Untouched s.start := by
    refine ⟨rfl, fun k hk => ?_, s.start.handler.findEntryByActualOrder_none.mp hs.unlisted⟩
    rw [hs.unindexed] at hk
    cases hk
  intro task
  cases task with
  | submit =>
    exact registerPendingExits_spec hs _ ⟨⟨hinv, rfl, hs.unindexed⟩, hs.room⟩
  | event =>
    have hcode : s.EventSpec s.EventHas
        (handleFill s.ctx s.primary s.filledQty s.totalQty s.positionQty s.positionId >>= fun _ =>
          pure ()) fun _ => s.EventDone :=
      Spec.bind (handleFill_event_spec hs) fun _ => Spec.ret stable_eventDone fun _ h => h
    exact hcode _ ⟨hinv, rfl, hun⟩

/-- When both tasks have ended, each leg has exactly one exit order for the fill, over the quantity
to cover. -/
theorem each_leg_covered_once (hs : s.Fresh) (sched : List RegTask)
    (hg : Run.Guarded Conf.step (Conf.Permits s.RaceOk) s.race sched)
    (hend : (Run.exec Conf.step s.race sched).Ended) :
    ∀ k ∈ s.legIds, ∃ a,
      (Run.exec Conf.step s.race sched).state.acceptedFor k = s.start.acceptedFor k ++ [a] ∧
      a.quantity = s.target := by
  obtain ⟨g, hposts⟩ := Conf.ended_spec raceGuarantee_rely (race_safe hs) hg hend
  obtain ⟨hlooked, hsubmit⟩ : s.SubmitDone _ := hposts .submit
  obtain ⟨hevent, hbuffer⟩ : s.EventDone _ := hposts .event
  -- somebody has the fill, and it is not in the buffer
  cases hg : g.owner with
  | event => exact hevent hg
  | submit => exact hsubmit hg
  | buffer =>
    have hnot := hbuffer hg
    rw [hlooked] at hnot
    cases hnot

/-- A bracket order of 10 that fills at once, at the simulated provider. -/
def sample : Scene (List (String × OrderRequest)) where
  ctx := .simulated
  primary := "p"
  order := sampleBracket
  filledQty := 10
  totalQty := 10
  positionQty := none
  positionId := none
  start := World.initial {} []

theorem sample_fresh : sample.Fresh where
  accepts := TradingAdapter.simulated_acceptsSubmits
  positive := by decide +kernel
  full := by decide +kernel
  enough := by decide +kernel
  legs := by decide +kernel
  prices := by decide +kernel
  room := by decide +kernel
  unindexed := by decide +kernel
  unbuffered := by decide +kernel
  unlisted := by decide +kernel
  breaker := by decide +kernel

/-- The event task buffers the fill, then both legs are registered, then it takes the fill back. -/
def reclaimSchedule : List RegTask :=
  List.replicate 4 .event ++ List.replicate 6 .submit ++ List.replicate 20 .event ++
    List.replicate 3 .submit

theorem each_leg_covered_once_reclaimed :
    ∃ a, (Run.exec Conf.step sample.race reclaimSchedule).state.acceptedFor
        (generatePlaceholderId .takeProfit "p") =
      sample.start.acceptedFor (generatePlaceholderId .takeProfit "p") ++ [a] ∧
      a.quantity = sample.target := by
  -- the event task takes no step at all while only one leg is indexed
  have hseen : Run.Guarded Conf.step (fun (conf : Conf RegTask _) i => i = .event →
      sample.index conf.state = [] ∨ sample.index conf.state = sample.legIds) sample.race
      reclaimSchedule := by decide +kernel
  refine each_leg_covered_once sample_fresh reclaimSchedule (hseen.mono fun conf i h o _ => ?_)
    (by decide +kernel) _ (by decide +kernel)
  cases i with
  | submit => trivial
  | event => exact fun _ => h rfl

/-- The event task looks the legs up when only the stop-loss is indexed: it places that one, and the
take-profit is never placed. -/
theorem lookup_between_legs :
    let conf := Run.exec Conf.step sample.race
      (List.replicate 4 .submit ++ List.replicate 11 .event ++ List.replicate 5 .submit)
    conf.Ended ∧ generatePlaceholderId .takeProfit "p" ∈ sample.legIds ∧
      (conf.state.acceptedFor (generatePlaceholderId .stopLoss "p")).length = 1 ∧
      conf.state.acceptedFor (generatePlaceholderId .takeProfit "p") = [] := by
  decide +kernel

end Scene

end Gateway.Exit
