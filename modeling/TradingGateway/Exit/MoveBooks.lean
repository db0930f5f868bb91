import TradingGateway.Exit.Maintenance

/-!
# The books after a move

The active orders that an entry records should be the orders live at the provider, before and after
the leg is moved. A move, a restoration and a refusal keep it so (`Booked.step`). An order that is
cancelled and can be neither placed again nor restored does not: `updateEntryToFailed` keeps it
listed as open, or, in an entry that had failed before, drops every order.

* `move_keeps_books_iff`: the calls after which both agree, and a failed entry reports live orders
  only.
-/

namespace Gateway

open Routine

/-- An order that the provider puts in the place of another one has an id not in use. -/
def TradingAdapter.SwapsFresh {β : Type} (ad : TradingAdapter β) (issued : β → String → Prop) :
    Prop :=
  ∀ {id r b result b'}, ad.modifyOrder id r b = (.ok result, b') → result.order.id ≠ id →
    ¬ issued b result.order.id ∧ issued b' result.order.id

namespace Exit

variable {β : Type} {c : Ctx β}

/-! ## The slot of a moved order -/

section slot

variable {os : List ActualOrder} {r replacement : ActualOrder}

/-- With distinct ids, the moved order's slot is the only one that changes. -/
theorem replaceSlot_eq_map (hnd : (os.map ActualOrder.orderId).Nodup) (hr : r ∈ os) :
    replaceSlot r.orderId replacement os =
      os.map fun o => if o.orderId = r.orderId then replacement else o := by
  induction os with
  | nil => cases hr
  | cons o os ih =>
    rw [List.map_cons, List.nodup_cons] at hnd
    unfold replaceSlot
    by_cases hid : o.orderId = r.orderId
    · -- the rest has other ids
      have hrest : os.map (fun o => if o.orderId = r.orderId then replacement else o) = os.map id :=
        List.map_congr_left fun o' ho' => if_neg fun h =>
          hnd.1 (List.mem_map.mpr ⟨o', ho', h.trans hid.symm⟩)
      simp [hid, hrest]
    · have hr' : r ∈ os := by
        rcases List.mem_cons.mp hr with rfl | h
        · exact absurd rfl hid
        · exact h
      simp [hid, ih hnd.2 hr']

theorem eq_of_orderId_eq (hnd : (os.map ActualOrder.orderId).Nodup) (hr : r ∈ os) {o : ActualOrder}
    (ho : o ∈ os) (hid : o.orderId = r.orderId) : o = r :=
  List.inj_on_of_nodup_map hnd ho hr hid

theorem mem_activeIds {id : String} :
    id ∈ activeIds os ↔ ∃ o ∈ os, o.isActive = true ∧ o.orderId = id := by
  simp [activeIds, and_assoc]

end slot

/-- The entries differ in the orders' ids and quantities only. -/
structure ExitEntry.Alike (e e' : ExitEntry) : Prop where
  failed : e'.isFailed = e.isFailed
  count : (activeIds e'.actualOrders).length = (activeIds e.actualOrders).length
  active : (∀ o ∈ e'.actualOrders, o.isActive = true) ↔ ∀ o ∈ e.actualOrders, o.isActive = true

theorem ExitEntry.Alike.refl (e : ExitEntry) : e.Alike e := ⟨rfl, rfl, Iff.rfl⟩

theorem ExitEntry.Alike.trans {e e' e'' : ExitEntry} (h : e.Alike e') (h' : e'.Alike e'') :
    e.Alike e'' :=
  ⟨h'.failed.trans h.failed, h'.count.trans h.count, h'.active.trans h.active⟩

section moved

variable {e : ExitEntry} {r : ActualOrder} (hnd : (e.actualOrders.map ActualOrder.orderId).Nodup)
  (hr : r ∈ e.actualOrders) (ha : r.isActive = true) (id : String) (price : Decimal)

include hnd hr

theorem actualOrders_recordMovedLeg : (recordMovedLeg r id price e).actualOrders =
    e.actualOrders.map fun o =>
      if o.orderId = r.orderId then ⟨id, r.remainingQty, .open, r.legType⟩ else o := by
  rw [recordMovedLeg_actualOrders, replaceSlot_eq_map hnd hr]

theorem nodup_recordMovedLeg (hnew : id = r.orderId ∨ ∀ o ∈ e.actualOrders, o.orderId ≠ id) :
    ((recordMovedLeg r id price e).actualOrders.map ActualOrder.orderId).Nodup := by
  rw [actualOrders_recordMovedLeg hnd hr, List.map_map]
  refine List.Nodup.map_on ?_ (List.Nodup.of_map _ hnd)
  -- only the slot of `r` has the id `id`
  have hslot : ∀ o ∈ e.actualOrders, o.orderId ≠ r.orderId → id ≠ o.orderId := by
    intro o ho hne heq
    rcases hnew with rfl | hnew
    · exact hne heq.symm
    · exact hnew o ho heq.symm
  intro o ho o' ho' heq
  simp only [Function.comp_apply] at heq
  split at heq <;> split at heq
  · rename_i hid hid'
    exact eq_of_orderId_eq hnd ho' ho (hid.trans hid'.symm)
  · rename_i _ hid'
    exact absurd heq (hslot o' ho' hid')
  · rename_i hid _
    exact absurd heq.symm (hslot o ho hid)
  · exact eq_of_orderId_eq hnd ho' ho heq

theorem mem_activeIds_recordMovedLeg (id' : String) :
    id' ∈ activeIds (recordMovedLeg r id price e).actualOrders ↔
      id' = id ∨ id' ∈ activeIds e.actualOrders ∧ id' ≠ r.orderId := by
  rw [actualOrders_recordMovedLeg hnd hr]
  simp only [mem_activeIds, List.mem_map]
  constructor
  · rintro ⟨_, ⟨o, ho, rfl⟩, hact, rfl⟩
    by_cases hid : o.orderId = r.orderId
    · exact .inl (by simp [hid])
    · simp only [hid, if_false] at hact ⊢
      exact .inr ⟨⟨o, ho, hact, rfl⟩, hid⟩
  · rintro (rfl | ⟨⟨o, ho, hact, rfl⟩, hid⟩)
    · exact ⟨_, ⟨r, hr, rfl⟩, by simp [ActualOrder.isActive], by simp⟩
    · exact ⟨o, ⟨o, ho, if_neg hid⟩, hact, rfl⟩

include ha

theorem alike_recordMovedLeg : e.Alike (recordMovedLeg r id price e) := by
  -- the slot holds an active order before and after
  have hact : ∀ o ∈ e.actualOrders, (if o.orderId = r.orderId then
      (⟨id, r.remainingQty, .open, r.legType⟩ : ActualOrder) else o).isActive = o.isActive := by
    intro o ho
    split
    · rename_i hid
      rw [eq_of_orderId_eq hnd hr ho hid, ha]
      rfl
    · rfl
  refine ⟨?_, ?_, ?_⟩
  · unfold ExitEntry.isFailed recordMovedLeg
    cases e.status <;> rfl
  · rw [actualOrders_recordMovedLeg hnd hr]
    simp only [activeIds, List.length_map, List.filter_map]
    exact congrArg List.length (List.filter_congr fun o ho => hact o ho)
  · rw [actualOrders_recordMovedLeg hnd hr, List.forall_mem_map]
    exact forall₂_congr fun o ho => by rw [hact o ho]

end moved

/-! ## The agreement of the entry with the provider -/

/-- The order is one of the entry's and live. -/
def World.LiveFor (w : World β) (ph id : String) : Prop :=
  (∃ a ∈ w.acceptedFor ph, a.orderId = id) ∧ w.Live id

/-- The order `gone` is cancelled and `a`, with an id not in use, is placed. -/
theorem liveFor_replace {w w' : World β} {a : AcceptedOrder} {ph gone : String}
    (hacc : w'.accepted = w.accepted ++ [a]) (hcan : w'.cancelled = w.cancelled ++ [gone])
    (hfil : w'.filled = w.filled) (hph : a.placeholderId = ph) (hnew : a.orderId ∉ w.usedIds)
    (hne : a.orderId ≠ gone) (id : String) :
    w'.LiveFor ph id ↔ id = a.orderId ∨ w.LiveFor ph id ∧ id ≠ gone := by
  subst hph
  unfold World.LiveFor
  rw [acceptedFor_append hacc, live_cancelled hcan hfil]
  simp only [List.mem_append, List.mem_singleton]
  constructor
  · rintro ⟨⟨x, hx | rfl, rfl⟩, hlive, hid⟩
    · exact .inr ⟨⟨⟨x, hx, rfl⟩, hlive⟩, hid⟩
    · exact .inl rfl
  · rintro (rfl | ⟨⟨⟨x, hx, rfl⟩, hlive⟩, hid⟩)
    · exact ⟨⟨a, .inr rfl, rfl⟩, live_of_notMem_usedIds hnew, hne⟩
    · exact ⟨⟨x, .inl hx, rfl⟩, hlive, hid⟩

/-- The entry `e` at `ph` lists orders with distinct ids, and its active ones are those live at the
provider, where `issued` says which ids are in use. -/
structure Booked (issued : β → String → Prop) (ph : String) (e : ExitEntry) (w : World β) :
    Prop where
  entry : w.handler.getEntry ph = some e
  distinct : (e.actualOrders.map ActualOrder.orderId).Nodup
  listed : ∀ o ∈ e.actualOrders, issued w.broker o.orderId
  used : ∀ id ∈ w.usedIds, issued w.broker id
  matched : ∀ id, id ∈ activeIds e.actualOrders ↔ w.LiveFor ph id

section step

variable {issued : β → String → Prop} {ph : String} {e : ExitEntry} {r : ActualOrder}
  {price : Decimal} {w w' : World β}

/-- The slot of `r` gets the id `id`, and at the provider `id` is live in the place of `r`. -/
theorem Booked.record (hb : Booked issued ph e w) (hr : r ∈ e.actualOrders) {id : String}
    (hh : w'.handler = w.handler.modifyEntry ph (recordMovedLeg r id price))
    (hmono : ∀ id, issued w.broker id → issued w'.broker id) (hissued : issued w'.broker id)
    (hused : ∀ id ∈ w'.usedIds, issued w'.broker id)
    (hnew : id = r.orderId ∨ ∀ o ∈ e.actualOrders, o.orderId ≠ id)
    (hlive : ∀ id', w'.LiveFor ph id' ↔ id' = id ∨ w.LiveFor ph id' ∧ id' ≠ r.orderId) :
    Booked issued ph (recordMovedLeg r id price e) w' where
  entry := by
    rw [hh, ExitHandler.getEntry_modifyEntry_self, hb.entry]
    rfl
  distinct := nodup_recordMovedLeg hb.distinct hr _ _ hnew
  listed := by
    rw [actualOrders_recordMovedLeg hb.distinct hr]
    intro o ho
    obtain ⟨o₀, ho₀, rfl⟩ := List.mem_map.mp ho
    split
    · exact hissued
    · exact hmono _ (hb.listed o₀ ho₀)
  used := hused
  matched id' := by rw [mem_activeIds_recordMovedLeg hb.distinct hr, hb.matched, hlive]

/-- The order `r` is cancelled and the order `a` is in its place. -/
theorem Booked.replace (hb : Booked issued ph e w) (hr : r ∈ e.actualOrders) {a : AcceptedOrder}
    (hacc : w'.accepted = w.accepted ++ [a]) (hcan : w'.cancelled = w.cancelled ++ [r.orderId])
    (hfil : w'.filled = w.filled) (hph : a.placeholderId = ph)
    (hh : w'.handler = w.handler.modifyEntry ph (recordMovedLeg r a.orderId price))
    (hmono : ∀ id, issued w.broker id → issued w'.broker id)
    (hnew : ¬ issued w.broker a.orderId ∧ issued w'.broker a.orderId) :
    Booked issued ph (recordMovedLeg r a.orderId price e) w' := by
  have hfresh : ∀ o ∈ e.actualOrders, o.orderId ≠ a.orderId :=
    fun o ho heq => hnew.1 (heq ▸ hb.listed o ho)
  refine hb.record hr hh hmono hnew.2 (fun id hid => ?_) (.inr hfresh)
    (liveFor_replace hacc hcan hfil hph (fun h => hnew.1 (hb.used _ h)) (hfresh r hr).symm)
  rcases mem_usedIds_replaced hacc hcan hfil hid with hid | rfl | rfl
  · exact hmono _ (hb.used _ hid)
  · exact hnew.2
  · exact hmono _ (hb.listed r hr)

/-- The provider changes orders in place: the ids stay. -/
theorem Booked.change (hb : Booked issued ph e w) (hr : r ∈ e.actualOrders)
    (ha : r.isActive = true) (o : Order)
    (hacc : w'.accepted = w.accepted.map fun a => if a.orderId = r.orderId then a.changed o else a)
    (hcan : w'.cancelled = w.cancelled) (hfil : w'.filled = w.filled)
    (hh : w'.handler = w.handler.modifyEntry ph (recordMovedLeg r r.orderId price))
    (hmono : ∀ id, issued w.broker id → issued w'.broker id) :
    Booked issued ph (recordMovedLeg r r.orderId price e) w' := by
  have hsame (a : AcceptedOrder) :
      (if a.orderId = r.orderId then a.changed o else a).orderId = a.orderId ∧
      (if a.orderId = r.orderId then a.changed o else a).placeholderId = a.placeholderId := by
    split <;> exact ⟨rfl, rfl⟩
  have hlive (id : String) : w'.LiveFor ph id ↔ w.LiveFor ph id := by
    unfold World.LiveFor World.Live World.acceptedFor
    rw [hacc, hcan, hfil]
    simp only [List.mem_filter, List.mem_map, decide_eq_true_eq]
    refine and_congr_left fun _ => ⟨?_, ?_⟩
    · rintro ⟨_, ⟨⟨x, hx, rfl⟩, hxph⟩, hid⟩
      exact ⟨x, ⟨hx, (hsame x).2.symm.trans hxph⟩, (hsame x).1.symm.trans hid⟩
    · rintro ⟨x, ⟨hx, hxph⟩, hid⟩
      exact ⟨_, ⟨⟨x, hx, rfl⟩, (hsame x).2.trans hxph⟩, (hsame x).1.trans hid⟩
  have hrlive : w.LiveFor ph r.orderId := (hb.matched _).mp (mem_activeIds.mpr ⟨r, hr, ha, rfl⟩)
  refine hb.record hr hh hmono (hmono _ (hb.listed r hr)) (fun id hid => ?_) (.inl rfl) fun id => ?_
  · refine hmono _ (hb.used id ?_)
    rw [mem_usedIds] at hid ⊢
    rw [hacc, hcan, hfil] at hid
    refine hid.imp_left ?_
    rintro ⟨x, hx, rfl⟩
    obtain ⟨x₀, hx₀, rfl⟩ := List.mem_map.mp hx
    exact ⟨x₀, hx₀, (hsame x₀).1.symm⟩
  · rw [hlive]
    constructor
    · intro h
      by_cases hid : id = r.orderId
      · exact .inl hid
      · exact .inr ⟨h, hid⟩
    · rintro (rfl | ⟨h, -⟩)
      · exact hrlive
      · exact h

def ReplaceExitLegError.isUnprotected : ReplaceExitLegError → Bool
  | .unprotected .. => true
  | .stillProtected _ => false

/-- The call left the position without cover. -/
def leftUnprotected {α : Type} : Except ReplaceExitLegError α → Bool
  | .error err => err.isUnprotected
  | .ok _ => false

/-- A move that does not lose the order keeps the agreement. -/
theorem Booked.step (hi : c.adapter.IssuesIds issued) (hsw : c.adapter.SwapsFresh issued)
    (hb : Booked issued ph e w) (hr : r ∈ e.actualOrders) (ha : r.isActive = true)
    {entry : ExitEntry} {res : Except ReplaceExitLegError String}
    (h : MoveOutcome c ph entry r price w res w') (hres : leftUnprotected res = false) :
    ∃ e', Booked issued ph e' w' ∧ e.Alike e' ∧
      ∀ o ∈ e.actualOrders, o.orderId ≠ r.orderId → o ∈ e'.actualOrders := by
  have hmoved (id : String) (p : Decimal) : e.Alike (recordMovedLeg r id p e) ∧
      ∀ o ∈ e.actualOrders, o.orderId ≠ r.orderId →
        o ∈ (recordMovedLeg r id p e).actualOrders := by
    refine ⟨alike_recordMovedLeg hb.distinct hr ha id p, fun o ho hne => ?_⟩
    rw [recordMovedLeg_actualOrders]
    exact mem_replaceSlot_of_ne ho hne
  have hplaced {b b' : β} {req : OrderRequest} {handle : OrderHandle}
      {ids : List String} (hreach : c.adapter.Reaches w.broker ids b)
      (hs : c.adapter.submitOrder req b = (.ok handle, b')) :
      (∀ id, issued w.broker id → issued b' id) ∧
        ¬ issued w.broker handle.id ∧ issued b' handle.id := by
    have hreach' := hreach.submit req
    rw [hs] at hreach'
    exact ⟨fun _ => hi.mono hreach', fun h => (hi.fresh hs).1 (hi.mono hreach h), (hi.fresh hs).2⟩
  have hmodify {b : β} {req : ModifyOrderRequest} {result : ModifyOrderResult}
      (hm : c.adapter.modifyOrder r.orderId req w.broker = (.ok result, b)) :
      ∀ id, issued w.broker id → issued b id := by
    have hreach := TradingAdapter.Reaches.modify (.refl : c.adapter.Reaches w.broker [] w.broker)
      r.orderId req
    rw [hm] at hreach
    exact fun _ => hi.mono hreach
  cases h with
  | @kept b _ _ hreach =>
    exact ⟨e, ⟨hb.entry, hb.distinct, fun o ho => hi.mono hreach (hb.listed o ho),
      fun id hid => hi.mono hreach (hb.used id hid), hb.matched⟩, .refl e, fun _ ho _ => ho⟩
  | @changed b result hm hid =>
    rw [hid]
    exact ⟨_, hb.change hr ha result.order rfl rfl rfl rfl (hmodify hm), hmoved _ _⟩
  | @swapped b result hm hid =>
    exact ⟨_, hb.replace hr (a := .ofOrder ph result.order) rfl rfl rfl rfl rfl (hmodify hm)
      (hsw hm hid), hmoved _ _⟩
  | @replaced b b' _ handle hreach hs =>
    obtain ⟨hmono, hnew⟩ := hplaced hreach hs
    exact ⟨_, hb.replace hr (a := .ofRequest handle.id ph _) rfl rfl rfl rfl rfl hmono hnew,
      hmoved _ _⟩
  | @restored b b' _ handle _ hreach hs =>
    obtain ⟨hmono, hnew⟩ := hplaced hreach hs
    exact ⟨_, hb.replace hr (a := .ofRequest handle.id ph _) rfl rfl rfl rfl rfl hmono hnew,
      hmoved _ _⟩
  | lost => cases hres

end step

/-! ## The move of a leg -/

/-- An order that the entry `e` listed as active was cancelled and not placed again. -/
def LostOrder (issued : β → String → Prop) (ph : String) (e : ExitEntry) (w' : World β) : Prop :=
  ∃ w r b message, Booked issued ph e w ∧ r ∈ e.actualOrders ∧ r.isActive = true ∧
    w' = World.updateEntry { w with broker := b, cancelled := w.cancelled ++ [r.orderId] } ph
      (updateEntryToFailed message 0)

section leg

variable {issued : β → String → Prop} {ph : String} {e entry : ExitEntry} {price : Decimal}
  {w w' : World β} {rs : List ActualOrder}

theorem leftUnprotected_map {α α' : Type} (f : α → α') (res : Except ReplaceExitLegError α) :
    leftUnprotected (res.map f) = leftUnprotected res := by
  cases res <;> rfl

/-- The provider cannot modify an order of `rs`, cancels it, and refuses to place it again, at the
new price and at the old one. `entry` is the entry before the call. -/
def losesOrder (c : Ctx β) (entry : ExitEntry) (price : Decimal) : List ActualOrder → β → Bool
  | [], _ => false
  | r :: rs, b =>
    match c.adapter.modifyOrder r.orderId (modifyRequest entry.orderType price) b with
    | (.ok _, b) => losesOrder c entry price rs b
    | (.error (.unsupportedOperation _ _), b) =>
      match c.adapter.cancelOrder r.orderId b with
      | (.error _, _) => false
      | (.ok _, b) =>
        let replacement := buildReplacement { entry with triggerPrice := price } r
          entry.actualOrders.length
        match c.adapter.submitOrder replacement b with
        | (.ok _, b) => losesOrder c entry price rs b
        | (.error _, b) =>
          !(c.adapter.submitOrder (buildReplacement entry r entry.actualOrders.length) b).1.isOk
    | (.error _, _) => false

/-- The entry still lists the orders `rs`, and as many orders as `entry`. -/
def StillLists (ph : String) (entry : ExitEntry) (rs : List ActualOrder) (w : World β) : Prop :=
  ∃ e, w.handler.getEntry ph = some e ∧ e.actualOrders.length = entry.actualOrders.length ∧
    ∀ r ∈ rs, r ∈ e.actualOrders

/-- The slot of the first order is taken by another one. -/
theorem StillLists.moved {r : ActualOrder} (h : StillLists ph entry (r :: rs) w)
    (hnd : ((r :: rs).map ActualOrder.orderId).Nodup) (w₁ : World β) (hh : w₁.handler = w.handler)
    (id : String) (p : Decimal) :
    StillLists ph entry rs (w₁.updateEntry ph (recordMovedLeg r id p)) := by
  obtain ⟨e, he, hlen, hrs⟩ := h
  refine ⟨recordMovedLeg r id p e, ?_, ?_, fun r' hr' => ?_⟩
  · rw [World.updateEntry, ExitHandler.getEntry_modifyEntry_self, hh, he]
    rfl
  · rw [recordMovedLeg_actualOrders, replaceSlot_length _ ⟨r, hrs r List.mem_cons_self, rfl⟩, hlen]
  · rw [recordMovedLeg_actualOrders]
    refine mem_replaceSlot_of_ne (hrs r' (List.mem_cons_of_mem _ hr')) fun heq => ?_
    exact (List.nodup_cons.mp hnd).1 (List.mem_map.mpr ⟨r', hr', heq⟩)

/-- The call leaves the position without cover exactly if the provider loses an order. -/
theorem leftUnprotected_moveRestingOrders (price : Decimal) (h : StillLists ph entry rs w)
    (hnd : (rs.map ActualOrder.orderId).Nodup) :
    leftUnprotected ((moveRestingOrders c ph entry price rs).run w).1 =
      losesOrder c entry price rs w.broker := by
  induction rs generalizing w with
  | nil => rfl
  | cons r rs ih =>
    have hnext (w₁ : World β) (hh : w₁.handler = w.handler) (id : String) (p : Decimal) :=
      ih (h.moved hnd w₁ hh id p) (List.nodup_cons.mp hnd).2
    have hcount : w.handler.placedCount ph = entry.actualOrders.length := by
      obtain ⟨e, he, hlen, -⟩ := h
      simp [ExitHandler.placedCount, he, hlen]
    rw [run_moveRestingOrders_cons, losesOrder]
    simp only [moveRestingOrder, run_bind, modifyOrder, run_call]
    cases c.adapter.modifyOrder r.orderId (modifyRequest entry.orderType price) w.broker with
    | mk res b =>
      cases res with
      | ok result =>
        by_cases hid : result.order.id = r.orderId <;>
          simp only [hid, if_true, if_false] <;>
          exact (leftUnprotected_map _ _).trans (hnext _ (by rfl) _ _)
      | error err =>
        cases err with
        | unsupportedOperation operation provider =>
          simp only [cancelAndReplace, run_bind, cancelOrder, run_call]
          cases c.adapter.cancelOrder r.orderId b with
          | mk res b =>
            cases res with
            | error err => rfl
            | ok result =>
              simp only [resubmit, run_bind, run_readHandler, hcount, submitOrder,
                run_call]
              cases c.adapter.submitOrder (buildReplacement { entry with triggerPrice := price } r
                  entry.actualOrders.length) b with
              | mk res b =>
                cases res with
                | ok handle => exact (leftUnprotected_map _ _).trans (hnext _ (by rfl) _ _)
                | error err =>
                  cases hs : c.adapter.submitOrder (buildReplacement entry r
                      entry.actualOrders.length) b with
                  | mk res b => cases res <;> simp [hcount, hs] <;> rfl
        | _ => rfl

/-- The agreement is kept, up to the order that is lost. -/
theorem MoveOutcomes.books (hi : c.adapter.IssuesIds issued) (hsw : c.adapter.SwapsFresh issued)
    {res : Except ReplaceExitLegError (List String)}
    (h : MoveOutcomes c ph entry price rs w res w') (hb : Booked issued ph e w)
    (hrs : ∀ r ∈ rs, r ∈ e.actualOrders ∧ r.isActive = true)
    (hnd : (rs.map ActualOrder.orderId).Nodup) :
    ∃ e', e.Alike e' ∧ (leftUnprotected res = false → Booked issued ph e' w') ∧
      (leftUnprotected res = true → LostOrder issued ph e' w') := by
  induction h generalizing e with
  | done w => exact ⟨e, .refl e, fun _ => hb, fun h => by cases h⟩
  | @stopped r w w' err rs first =>
    obtain ⟨hr, ha⟩ := hrs r List.mem_cons_self
    cases hlost : err.isUnprotected with
    | false =>
      obtain ⟨e', hb', hal, -⟩ := hb.step hi hsw hr ha first hlost
      exact ⟨e', hal, fun _ => hb', fun h => by cases hlost.symm.trans h⟩
    | true =>
      refine ⟨e, .refl e, fun h => (by cases hlost.symm.trans h), fun _ => ?_⟩
      cases first with
      | kept => cases hlost
      | restored => cases hlost
      | lost => exact ⟨w, r, _, _, hb, hr, ha, rfl⟩
  | @moved r rs w w₁ w' id res first others ih =>
    obtain ⟨hr, ha⟩ := hrs r List.mem_cons_self
    obtain ⟨e₁, hb₁, hal₁, hothers⟩ := hb.step hi hsw hr ha first rfl
    rw [List.map_cons, List.nodup_cons] at hnd
    -- the orders still to be moved are listed as before
    have hrs₁ : ∀ r' ∈ rs, r' ∈ e₁.actualOrders ∧ r'.isActive = true := by
      intro r' hr'
      obtain ⟨hlist, ha'⟩ := hrs r' (List.mem_cons_of_mem _ hr')
      refine ⟨hothers r' hlist fun heq => ?_, ha'⟩
      exact hnd.1 (List.mem_map.mpr ⟨r', hr', heq⟩)
    obtain ⟨e', hal, hok, hlost⟩ := ih hb₁ hrs₁ hnd.2
    rw [leftUnprotected_map]
    exact ⟨e', hal₁.trans hal, hok, hlost⟩

theorem run_replaceExitLeg_books (hi : c.adapter.IssuesIds issued)
    (hsw : c.adapter.SwapsFresh issued) (hb : Booked issued ph e w) (price : Decimal) :
    let loses := losesOrder c e price (e.actualOrders.filter ActualOrder.isActive) w.broker
    let w' := ((replaceExitLeg c ph price).run w).2
    ∃ e', e.Alike e' ∧ (loses = false → Booked issued ph e' w') ∧
      (loses = true → LostOrder issued ph e' w') := by
  intro loses w'
  have hrs : ∀ r ∈ e.actualOrders.filter ActualOrder.isActive,
      r ∈ e.actualOrders ∧ r.isActive = true := fun r hr => List.mem_filter.mp hr
  have hnd : ((e.actualOrders.filter ActualOrder.isActive).map ActualOrder.orderId).Nodup :=
    hb.distinct.sublist (List.filter_sublist.map _)
  have hloses := leftUnprotected_moveRestingOrders (c := c) price
    ⟨e, hb.entry, rfl, fun r hr => (hrs r hr).1⟩ hnd
  have hw' : w' = ((moveRestingOrders c ph e price
      (e.actualOrders.filter ActualOrder.isActive)).run w).2 := by
    cases hactive : e.actualOrders.filter ActualOrder.isActive with
    | nil =>
      show ((replaceExitLeg c ph price).run w).2 = _
      simp only [replaceExitLeg, run_locked, run_bind, run_readHandler, hb.entry,
        hactive]
      rfl
    | cons r rs => exact congrArg Prod.snd (run_replaceExitLeg_cons hb.entry hactive price)
  rw [hw', show loses = _ from hloses.symm]
  exact (run_moveRestingOrders ph e price _ w).books hi hsw hb hrs hnd

end leg

/-! ## The result -/

/-- What `getFailedEntries` reports of the entry. -/
def ExitEntry.failedInfo (e : ExitEntry) : Option FailedExitInfo :=
  match e.status with
  | .failed error _ orders =>
    some ⟨e.primaryOrderId, e.symbol, e.orderType, error, orders.map ActualOrder.orderId⟩
  | _ => none

theorem mem_getFailedEntries {h : ExitHandler} {info : FailedExitInfo} :
    info ∈ h.getFailedEntries ↔ ∃ k e, h.getEntry k = some e ∧ e.failedInfo = some info := by
  unfold ExitHandler.getFailedEntries
  rw [List.mem_filterMap]
  constructor
  · rintro ⟨⟨k, e⟩, hke, heq⟩
    exact ⟨k, e, Table.mem_toList.mp hke, heq⟩
  · rintro ⟨k, e, hke, heq⟩
    exact ⟨(k, e), Table.mem_toList.mpr hke, heq⟩

/-- The orders recorded active in the entry are exactly those live at the provider. -/
def World.Matched (w : World β) (ph : String) : Prop :=
  ∃ e, w.handler.getEntry ph = some e ∧ ∀ id, id ∈ activeIds e.actualOrders ↔ w.LiveFor ph id

/-- If the entry has failed, the orders reported for it are live at the provider. -/
def World.ReportsLive (w : World β) (ph : String) : Prop :=
  ∀ info ∈ w.handler.getFailedEntries, ∀ e, w.handler.getEntry ph = some e →
    e.failedInfo = some info → ∀ id ∈ info.actualOrderIds, w.LiveFor ph id

theorem reportsLive_iff {w : World β} {ph : String} {e : ExitEntry}
    (he : w.handler.getEntry ph = some e) : w.ReportsLive ph ↔
      (e.isFailed = true → ∀ o ∈ e.actualOrders, w.LiveFor ph o.orderId) := by
  constructor
  · intro hrep hfailed o ho
    cases hst : e.status with
    | failed error n orders =>
      have hinfo : e.failedInfo = some ⟨e.primaryOrderId, e.symbol, e.orderType, error,
          orders.map ActualOrder.orderId⟩ := by
        unfold ExitEntry.failedInfo
        rw [hst]
      rw [ExitEntry.actualOrders, hst] at ho
      exact hrep _ (mem_getFailedEntries.mpr ⟨ph, e, he, hinfo⟩) e he hinfo _
        (List.mem_map.mpr ⟨o, ho, rfl⟩)
    | pending | partiallyTriggered | placed | cancelled | expired =>
      simp [ExitEntry.isFailed, hst] at hfailed
  · intro hlive info _ e' he' hinfo id hid
    cases he.symm.trans he'
    unfold ExitEntry.failedInfo at hinfo
    split at hinfo
    · rename_i error n orders hst
      cases hinfo
      obtain ⟨o, ho, rfl⟩ := List.mem_map.mp hid
      exact hlive (by simp [ExitEntry.isFailed, hst]) o (by rwa [ExitEntry.actualOrders, hst])
    · cases hinfo

section result

variable {issued : β → String → Prop} {ph : String} {e : ExitEntry} {w : World β}

theorem Booked.matched_and_reports_iff (hb : Booked issued ph e w) :
    w.Matched ph ∧ w.ReportsLive ph ↔
      (e.isFailed = true → ∀ o ∈ e.actualOrders, o.isActive = true) := by
  have hmatched : w.Matched ph := ⟨e, hb.entry, hb.matched⟩
  rw [reportsLive_iff hb.entry, and_iff_right hmatched]
  refine imp_congr_right fun _ => forall₂_congr fun o ho => ?_
  rw [← hb.matched, mem_activeIds]
  constructor
  · rintro ⟨o', ho', ha, hid⟩
    rwa [← eq_of_orderId_eq hb.distinct ho ho' hid]
  · exact fun ha => ⟨o, ho, ha, rfl⟩

theorem length_eq_one_iff_of_nodup {α : Type} {l : List α} {x : α} (hnd : l.Nodup) (hx : x ∈ l) :
    l.length = 1 ↔ ∀ y ∈ l, y = x := by
  constructor
  · intro hlen y hy
    obtain ⟨z, rfl⟩ := List.length_eq_one_iff.mp hlen
    exact (List.mem_singleton.mp hy).trans (List.mem_singleton.mp hx).symm
  · intro hall
    match l, hnd, hx with
    | [_], _, _ => rfl
    | y :: z :: l, hnd, _ =>
      have hyz : y = z := (hall y (by simp)).trans (hall z (by simp)).symm
      simp [hyz] at hnd

theorem LostOrder.nodup (hl : LostOrder issued ph e w) : (activeIds e.actualOrders).Nodup := by
  obtain ⟨w₀, r, b, message, hb, -⟩ := hl
  exact hb.distinct.sublist (List.filter_sublist.map _)

/-- After the loss the entry has failed, and the other active orders are live. -/
theorem LostOrder.after (hl : LostOrder issued ph e w) : ∃ gone message,
    gone ∈ activeIds e.actualOrders ∧
      w.handler.getEntry ph = some (updateEntryToFailed message 0 e) ∧
      ∀ id, w.LiveFor ph id ↔ id ∈ activeIds e.actualOrders ∧ id ≠ gone := by
  obtain ⟨w₀, r, b, message, hb, hr, ha, hw⟩ := hl
  refine ⟨r.orderId, message, mem_activeIds.mpr ⟨r, hr, ha, rfl⟩, ?_, fun id => ?_⟩
  · rw [hw, World.updateEntry, ExitHandler.getEntry_modifyEntry_self, hb.entry]
    rfl
  · have hdead : w.Live id ↔ w₀.Live id ∧ ¬ id = r.orderId :=
      live_cancelled (by rw [hw]; rfl) (by rw [hw]; rfl) id
    have hacc : w.acceptedFor ph = w₀.acceptedFor ph := by rw [hw]; rfl
    rw [hb.matched, World.LiveFor, World.LiveFor, hdead, hacc, and_assoc]

/-- A failure keeps the orders, but for an entry that had failed before it drops them. -/
theorem actualOrders_updateEntryToFailed (message : String) (n : ℕ) (e : ExitEntry) :
    (updateEntryToFailed message n e).actualOrders =
      if e.isFailed then [] else e.actualOrders := by
  unfold updateEntryToFailed ExitEntry.isFailed ExitEntry.actualOrders
  cases e.status <;> rfl

theorem LostOrder.matched_and_reports_iff (hl : LostOrder issued ph e w) :
    w.Matched ph ∧ w.ReportsLive ph ↔
      e.isFailed = true ∧ (activeIds e.actualOrders).length = 1 := by
  obtain ⟨gone, message, hactive, hentry, hlive⟩ := hl.after
  have horders := actualOrders_updateEntryToFailed message 0 e
  cases hfailed : e.isFailed with
  | false =>
    -- the cancelled order stays listed as active
    rw [hfailed, if_neg Bool.false_ne_true] at horders
    refine iff_of_false ?_ (by simp)
    rintro ⟨⟨e', he', hmatch⟩, -⟩
    cases hentry.symm.trans he'
    rw [horders] at hmatch
    exact ((hlive _).mp ((hmatch _).mp hactive)).2 rfl
  | true =>
    -- every order is dropped
    rw [hfailed, if_pos rfl] at horders
    have hreports : w.ReportsLive ph := by
      rw [reportsLive_iff hentry, horders]
      intro _ o ho
      cases ho
    rw [length_eq_one_iff_of_nodup hl.nodup hactive, and_iff_left hreports, and_iff_right rfl]
    constructor
    · rintro ⟨e', he', hmatch⟩ id hid
      cases hentry.symm.trans he'
      by_contra hne
      have hmem := (hmatch id).mpr ((hlive id).mpr ⟨hid, hne⟩)
      rw [horders] at hmem
      cases hmem
    · intro hall
      refine ⟨_, hentry, fun id => ?_⟩
      rw [horders, hlive]
      exact iff_of_false (by simp [activeIds]) fun h => h.2 (hall id h.1)

/-- Whatever the call answers, the entry and the provider agree after it, and a failed entry reports
live orders only, if and only if: where the provider cancels an active order and refuses both to
replace and to restore it, the entry had failed before and had one active order; otherwise, a failed
entry lists active orders only. -/
theorem move_keeps_books_iff (hi : c.adapter.IssuesIds issued) (hsw : c.adapter.SwapsFresh issued)
    (hb : Booked issued ph e w) (price : Decimal) :
    let run := (replaceExitLeg c ph price).run w
    run.2.Matched ph ∧ run.2.ReportsLive ph ↔
      if losesOrder c e price (e.actualOrders.filter ActualOrder.isActive) w.broker then
        e.isFailed = true ∧ (activeIds e.actualOrders).length = 1
      else e.isFailed = true → ∀ o ∈ e.actualOrders, o.isActive = true := by
  intro run
  obtain ⟨e', hal, hok, hlost⟩ := run_replaceExitLeg_books hi hsw hb price
  cases hres : losesOrder c e price (e.actualOrders.filter ActualOrder.isActive) w.broker with
  | false =>
    rw [(hok hres).matched_and_reports_iff, hal.failed, hal.active]
    simp
  | true =>
    rw [(hlost hres).matched_and_reports_iff, hal.failed, hal.count]
    simp

/-- The simulated provider, but it accepts no order any more. -/
def Ctx.refusing : Ctx (List (String × OrderRequest)) :=
  { Ctx.simulated with
    adapter := { TradingAdapter.simulated with
      submitOrder := fun _ b => (.error .shuttingDown, b) } }

theorem issuesIds_refusing : Ctx.refusing.adapter.IssuesIds fun _ _ => True where
  fresh hs := by cases hs
  mono _ h := h

theorem swapsFresh_refusing : Ctx.refusing.adapter.SwapsFresh fun _ _ => True := by
  intro id r b result b' hm
  cases hm

theorem booked_protectedBracket (issued : List (String × OrderRequest) → String → Prop)
    (hissued : ∀ id ∈ ["o0", "o1"], issued protectedBracket.broker id) :
    ∃ e, e.status = .placed [⟨"o0", 10, .open, .stopLoss⟩] ∧
      Booked issued "exit:sl:p" e protectedBracket := by
  obtain ⟨e, he, hst, -⟩ := protectedBracket_stopLoss
  have horders : e.actualOrders = [⟨"o0", 10, .open, .stopLoss⟩] := by
    rw [ExitEntry.actualOrders, hst]
    rfl
  have hused : protectedBracket.usedIds = ["o0", "o1"] := by decide +kernel
  have hacc : (protectedBracket.acceptedFor "exit:sl:p").map AcceptedOrder.orderId = ["o0"] := by
    decide +kernel
  have hlive : protectedBracket.Live "o0" := by decide +kernel
  refine ⟨e, hst, he, by simp [horders], ?_, by rwa [hused], fun id => ?_⟩
  · rw [horders]
    simpa using hissued "o0" (by simp)
  · have hmem : (∃ a ∈ protectedBracket.acceptedFor "exit:sl:p", a.orderId = id) ↔ id = "o0" := by
      rw [← List.mem_map, hacc, List.mem_singleton]
    rw [horders, World.LiveFor, hmem]
    constructor
    · intro h
      have hid : id = "o0" := List.mem_singleton.mp h
      exact ⟨hid, hid ▸ hlive⟩
    · rintro ⟨rfl, -⟩
      exact List.mem_singleton.mpr rfl

/-- At the simulated provider the move of the stop-loss keeps the books; at one that cancels it and
accepts no order any more, it does not. -/
theorem move_keeps_books_bracket :
    let moved := (replaceExitLeg .simulated "exit:sl:p" 95).run protectedBracket
    let lost := (replaceExitLeg .refusing "exit:sl:p" 95).run protectedBracket
    (moved.2.Matched "exit:sl:p" ∧ moved.2.ReportsLive "exit:sl:p") ∧
      ¬ (lost.2.Matched "exit:sl:p" ∧ lost.2.ReportsLive "exit:sl:p") := by
  intro moved lost
  have hactive {e : ExitEntry} (hst : e.status = .placed [⟨"o0", 10, .open, .stopLoss⟩]) :
      e.actualOrders.filter ActualOrder.isActive = [⟨"o0", 10, .open, .stopLoss⟩] := by
    rw [ExitEntry.actualOrders, hst]
    rfl
  constructor
  · have hlen : protectedBracket.broker.length = 2 := by decide +kernel
    have hissued : ∀ id ∈ ["o0", "o1"],
        TradingAdapter.simulatedIssued protectedBracket.broker id := by
      intro id hid
      rcases List.mem_pair.mp hid with rfl | rfl
      · exact .inr ⟨0, by omega, by decide +kernel⟩
      · exact .inr ⟨1, by omega, by decide +kernel⟩
    obtain ⟨e, hst, hb⟩ := booked_protectedBracket TradingAdapter.simulatedIssued hissued
    refine (move_keeps_books_iff TradingAdapter.simulated_issuesIds (fun hm => by cases hm) hb
      95).mpr ?_
    rw [hactive hst, show losesOrder .simulated e 95 _ _ = false from rfl]
    simp [ExitEntry.isFailed, hst]
  · obtain ⟨e, hst, hb⟩ := booked_protectedBracket (fun _ _ => True) fun _ _ => trivial
    intro hbooks
    have hcond := (move_keeps_books_iff issuesIds_refusing swapsFresh_refusing hb 95).mp hbooks
    rw [hactive hst, show losesOrder .refusing e 95 _ _ = true from rfl] at hcond
    simp [ExitEntry.isFailed, hst] at hcond

/-- The stop-loss `o0` is cancelled and the provider accepts neither the replacement nor the
original: the position is reported without cover, and yet the entry lists `o0` as active, and
`getFailedEntries` reports it. -/
theorem lost_order_listed :
    let run := (replaceExitLeg .refusing "exit:sl:p" 95).run protectedBracket
    protectedBracket.Matched "exit:sl:p" ∧
      run.1 = .error (.unprotected "o0" .shuttingDown .shuttingDown) ∧ ¬ run.2.Live "o0" ∧
      run.2.handler.getFailedEntries.map FailedExitInfo.actualOrderIds = [["o0"]] ∧
      ¬ run.2.Matched "exit:sl:p" ∧ ¬ run.2.ReportsLive "exit:sl:p" := by
  intro run
  have hdead : ¬ run.2.Live "o0" := by decide +kernel
  have hentry : (run.2.handler.getEntry "exit:sl:p").map (fun e => (e.isFailed, e.actualOrders)) =
      some (true, [⟨"o0", 10, .open, .stopLoss⟩]) := by decide +kernel
  obtain ⟨e, he, heq⟩ := Option.map_eq_some_iff.mp hentry
  obtain ⟨hfailed, horders⟩ := Prod.mk.inj heq
  obtain ⟨e₀, -, hb⟩ := booked_protectedBracket (fun _ _ => True) fun _ _ => trivial
  refine ⟨⟨e₀, hb.entry, hb.matched⟩, by decide +kernel, hdead, by decide +kernel, ?_, ?_⟩
  · rintro ⟨e', he', hmatch⟩
    cases he.symm.trans he'
    rw [horders] at hmatch
    exact hdead ((hmatch "o0").mp (List.mem_singleton.mpr rfl)).2
  · rw [reportsLive_iff he]
    intro hlive
    rw [horders] at hlive
    exact hdead (hlive hfailed _ List.mem_cons_self).2

end result

end Exit

end Gateway
