import TradingGateway.Lib.Run
import TradingGateway.Exit.Cancellation
import TradingGateway.Exit.History
import TradingGateway.Exit.Moves
import TradingGateway.Exit.Registration

/-!
# Does the cancellation of the primary order lose a live exit?

Registrations, activated backups, fills, moves of legs and cancellations of primary orders come in
any order, with a provider that accepts every submission. `Accounted`: every live exit order is
listed in a tracked entry, and that entry is indexed under its primary order.

`handleCancellationInternal` takes the whole index of the primary order away, and an entry that
has orders for a partial fill counts as pending: it becomes `cancelled` and its orders are gone.

* `accounted_of_guarded`: the live exits stay accounted for in every run in which a primary order is
  cancelled only while its legs list no order. The other steps that can drop an order are excluded
  as well (`KeepsExits`): a registration over an entry with orders, a placement onto an entry that
  is placed already, the fill of one of several live orders of a leg.
* `cancelled_primary_loses_exit`: a partial fill, then the cancellation.
-/

namespace Gateway.Exit

variable {β : Type} {c : Ctx β}

/-! ## The cancellation -/

/-- The entry, cancelled if it waits for fills. -/
def ExitEntry.primaryCancelled (e : ExitEntry) : ExitEntry :=
  if e.isPending then e.setStatus (.cancelled .primaryCancelled) else e

theorem ExitEntry.primaryCancelled_idem (e : ExitEntry) :
    e.primaryCancelled.primaryCancelled = e.primaryCancelled := by
  by_cases h : e.isPending = true
  · have hc : e.primaryCancelled = e.setStatus (.cancelled .primaryCancelled) := if_pos h
    rw [hc]
    exact if_neg (by simp [isPending, setStatus])
  · have hc : e.primaryCancelled = e := if_neg h
    rw [hc, hc]

theorem run_cancelPendingEntries (ids : List String) (w : World β) :
    ∃ h, ((cancelPendingEntries ids).run w).2 = { w with handler := h } ∧
      h.pendingByPrimary = w.handler.pendingByPrimary ∧
      ∀ k, h.getEntry k =
        if k ∈ ids then (w.handler.getEntry k).map ExitEntry.primaryCancelled
        else w.handler.getEntry k := by
  induction ids generalizing w with
  | nil => exact ⟨w.handler, rfl, rfl, fun _ => by simp⟩
  | cons id ids ih =>
    have hfirst : ∃ h, ((cancelPendingEntry id).run w).2 = { w with handler := h } ∧
        h.pendingByPrimary = w.handler.pendingByPrimary ∧
        ∀ k, h.getEntry k = if k = id then (w.handler.getEntry k).map ExitEntry.primaryCancelled
          else w.handler.getEntry k := by
      simp only [cancelPendingEntry, Routine.run_step]
      cases he : w.handler.getEntry id with
      | none =>
        refine ⟨w.handler, rfl, rfl, fun k => ?_⟩
        split
        · rename_i hk; rw [hk, he]; rfl
        · rfl
      | some e =>
        by_cases hp : e.isPending = true
        · simp only [hp, if_true]
          refine ⟨_, rfl, rfl, fun k => ?_⟩
          rw [ExitHandler.getEntry_modifyEntry]
          split
          · rename_i hk
            simp [hk, he, ExitEntry.primaryCancelled, hp]
          · rfl
        · simp only [hp, Bool.false_eq_true, if_false]
          refine ⟨w.handler, rfl, rfl, fun k => ?_⟩
          split
          · rename_i hk
            simp [hk, he, ExitEntry.primaryCancelled, hp]
          · rfl
    obtain ⟨h₁, hrun, hidx, hget⟩ := hfirst
    obtain ⟨h₂, hrun₂, hidx₂, hget₂⟩ := ih { w with handler := h₁ }
    simp only [cancelPendingEntries, Routine.run_bind, hrun, hrun₂, Routine.pure_eq,
      Routine.run_ret]
    refine ⟨h₂, rfl, hidx₂.trans hidx, fun k => ?_⟩
    rw [hget₂ k]
    simp only [hget k, List.mem_cons]
    by_cases hk : k = id
    · cases w.handler.getEntry k <;> simp [hk, ExitEntry.primaryCancelled_idem]
    · simp [hk]

theorem run_handleCancellationInternal (p : String) (w : World β) :
    ∃ h, ((handleCancellationInternal p).run w).2 = { w with handler := h } ∧
      h.pendingByPrimary = (w.handler.dropPrimary p).pendingByPrimary ∧
      ∀ k, h.getEntry k =
        if k ∈ w.handler.getPlaceholdersForPrimary p then
          (w.handler.getEntry k).map ExitEntry.primaryCancelled
        else w.handler.getEntry k := by
  simp only [handleCancellationInternal, takePlaceholders, Routine.run_bind, Routine.run_step]
  obtain ⟨h, hrun, hidx, hget⟩ := run_cancelPendingEntries
    (w.handler.getPlaceholdersForPrimary p) { w with handler := w.handler.dropPrimary p }
  refine ⟨h, hrun, hidx, fun k => ?_⟩
  rw [hget, ExitHandler.getEntry_dropPrimary]

/-! ## Live exits are accounted for -/

/-- The order is listed in a tracked entry that its primary order leads to. -/
def World.Found (w : World β) (orderId : String) : Prop :=
  ∃ ph e, w.handler.getEntry ph = some e ∧ (∃ o ∈ e.actualOrders, o.orderId = orderId) ∧
    ph ∈ w.handler.getPlaceholdersForPrimary e.primaryOrderId

instance (w : World β) (orderId : String) : Decidable (w.Found orderId) :=
  decidable_of_iff (∃ b ∈ w.handler.pendingByPlaceholder.toList,
      (∃ o ∈ b.2.actualOrders, o.orderId = orderId) ∧
      b.1 ∈ w.handler.getPlaceholdersForPrimary b.2.primaryOrderId) <| by
    simp only [Prod.exists, Table.mem_toList]
    rfl

/-- Every live exit order is listed in a tracked entry that its primary order leads to. -/
structure Accounted (w : World β) : Prop where
  /-- An entry stands at its own placeholder id. -/
  keyed : ∀ {k e}, w.handler.getEntry k = some e → e.placeholderId = k
  /-- The handler never learns that a listed order has ended. -/
  active : ∀ {k e}, w.handler.getEntry k = some e → ∀ o ∈ e.actualOrders, o.isActive = true
  placed : ∀ {k e os}, w.handler.getEntry k = some e → e.status = .placed os → os ≠ []
  /-- An entry that is indexed at all is indexed under its primary order, while it takes fills. -/
  home : ∀ {q k e}, k ∈ w.handler.getPlaceholdersForPrimary q → w.handler.getEntry k = some e →
    e.status.isTerminal = false → k ∈ w.handler.getPlaceholdersForPrimary e.primaryOrderId
  /-- An entry with orders is indexed under its primary order. -/
  reach : ∀ {k e}, w.handler.getEntry k = some e → e.actualOrders ≠ [] →
    k ∈ w.handler.getPlaceholdersForPrimary e.primaryOrderId
  listed : ∀ a ∈ w.accepted, w.Live a.orderId → w.Tracked a.orderId

variable {e : ExitEntry} {w w' w₁ : World β} {ph id k : String} {f T : Decimal}
  {pos : Option Decimal} {pid : Option String} {r : ActualOrder}

theorem Accounted.found (h : Accounted w) {a : AcceptedOrder} (ha : a ∈ w.accepted)
    (hl : w.Live a.orderId) : w.Found a.orderId := by
  obtain ⟨ph, e, he, o, ho, hid⟩ := h.listed a ha hl
  exact ⟨ph, e, he, ⟨o, ho, hid⟩, h.reach he (List.ne_nil_of_mem ho)⟩

theorem accounted_initial (config : ExitHandlerConfig) (b : β) :
    Accounted (World.initial config b) where
  keyed h := by cases h
  active h := by cases h
  placed h := by cases h
  home h := by cases h
  reach h := by cases h
  listed a ha := by cases ha

/-- What `Accounted` says about one entry. -/
structure WellKept (w : World β) (k : String) (e : ExitEntry) : Prop where
  keyed : e.placeholderId = k
  active : ∀ o ∈ e.actualOrders, o.isActive = true
  placed : ∀ os, e.status = .placed os → os ≠ []
  home : ∀ q, k ∈ w.handler.getPlaceholdersForPrimary q → e.status.isTerminal = false →
    k ∈ w.handler.getPlaceholdersForPrimary e.primaryOrderId
  reach : e.actualOrders ≠ [] → k ∈ w.handler.getPlaceholdersForPrimary e.primaryOrderId

section wellKept

variable {k : String} {e : ExitEntry} {w w' : World β}

theorem Accounted.wellKept (hw : Accounted w) (he : w.handler.getEntry k = some e) :
    WellKept w k e :=
  ⟨hw.keyed he, hw.active he, fun _ => hw.placed he, fun _ hq => hw.home hq he, hw.reach he⟩

theorem Accounted.of_wellKept (h : ∀ k e, w.handler.getEntry k = some e → WellKept w k e)
    (hlisted : ∀ a ∈ w.accepted, w.Live a.orderId → w.Tracked a.orderId) : Accounted w where
  keyed he := (h _ _ he).keyed
  active he := (h _ _ he).active
  placed he := (h _ _ he).placed _
  home hq he := (h _ _ he).home _ hq
  reach he := (h _ _ he).reach
  listed := hlisted

theorem WellKept.of_index (h : WellKept w k e)
    (hidx : ∀ q, k ∈ w'.handler.getPlaceholdersForPrimary q ↔
      k ∈ w.handler.getPlaceholdersForPrimary q) : WellKept w' k e :=
  ⟨h.keyed, h.active, h.placed, fun q hq ht => (hidx _).mpr (h.home q ((hidx q).mp hq) ht),
    fun hne => (hidx _).mpr (h.reach hne)⟩

theorem WellKept.of_pending (hkey : e.placeholderId = k) (hst : e.status = .pending)
    (hidx : k ∈ w.handler.getPlaceholdersForPrimary e.primaryOrderId) : WellKept w k e where
  keyed := hkey
  active := by simp [ExitEntry.actualOrders, hst, ExitEntryStatus.actualOrders]
  placed os h := by rw [hst] at h; cases h
  home _ _ _ := hidx
  reach _ := hidx

theorem WellKept.of_terminal (hkey : e.placeholderId = k) (hno : e.actualOrders = [])
    (hterm : e.status.isTerminal = true) : WellKept w k e where
  keyed := hkey
  active := by simp [hno]
  placed os h := by rw [h] at hterm; cases hterm
  home _ _ ht := by rw [hterm] at ht; cases ht
  reach hne := absurd hno hne

end wellKept

/-- One entry changed: `e` at `ph` became `e'`. -/
structure EntryChange (ph : String) (e e' : ExitEntry) (w w' : World β) : Prop where
  before : w.handler.getEntry ph = some e
  after : w'.handler.getEntry ph = some e'
  other : ∀ k, k ≠ ph → w'.handler.getEntry k = w.handler.getEntry k
  index : ∀ q, w'.handler.getPlaceholdersForPrimary q = w.handler.getPlaceholdersForPrimary q

section change

variable {ph : String} {e e' : ExitEntry} {w w' : World β}

theorem EntryChange.of_updateEntry (w₁ : World β) (hw : w₁.handler = w.handler)
    (he : w.handler.getEntry ph = some e) (g : ExitEntry → ExitEntry) :
    EntryChange ph e (g e) w (w₁.updateEntry ph g) := by
  refine ⟨he, ?_, fun k hk => ?_, fun q => ?_⟩
  · simp [World.updateEntry, hw, he]
  · rw [World.updateEntry, hw]
    exact w.handler.getEntry_modifyEntry_ne g hk
  · rw [World.updateEntry, hw]
    rfl

theorem EntryChange.tracked (h : EntryChange ph e e' w w') {id : String} (ht : w.Tracked id)
    (hkeep : ∀ o ∈ e.actualOrders, o.orderId = id → ∃ o' ∈ e'.actualOrders, o'.orderId = id) :
    w'.Tracked id := by
  obtain ⟨k, e₁, he₁, o, ho, hid⟩ := ht
  by_cases hk : k = ph
  · subst hk
    cases he₁.symm.trans h.before
    exact ⟨k, e', h.after, hkeep o ho hid⟩
  · exact ⟨k, e₁, (h.other k hk).trans he₁, o, ho, hid⟩

/-- A change of one entry keeps the account, if the entry stays well formed and reachable. -/
theorem Accounted.change (hw : Accounted w) (h : EntryChange ph e e' w w')
    (hid : e'.placeholderId = e.placeholderId) (hprim : e'.primaryOrderId = e.primaryOrderId)
    (hactive : ∀ o ∈ e'.actualOrders, o.isActive = true)
    (hplaced : ∀ os, e'.status = .placed os → os ≠ [])
    (hterm : e'.status.isTerminal = false → e.status.isTerminal = false)
    (hreach : e'.actualOrders ≠ [] → ph ∈ w.handler.getPlaceholdersForPrimary e.primaryOrderId)
    (hlisted : ∀ a ∈ w'.accepted, w'.Live a.orderId → w'.Tracked a.orderId) : Accounted w' := by
  refine .of_wellKept (fun k e₁ he₁ => ?_) hlisted
  by_cases hk : k = ph
  · subst hk
    obtain rfl : e' = e₁ := Option.some.inj (h.after.symm.trans he₁)
    have hold := hw.wellKept h.before
    refine ⟨hid.trans hold.keyed, hactive, hplaced, fun q hq ht => ?_, fun hne => ?_⟩
    · rw [h.index] at hq ⊢
      rw [hprim]
      exact hold.home q hq (hterm ht)
    · rw [h.index, hprim]
      exact hreach hne
  · exact (hw.wellKept ((h.other k hk).symm.trans he₁)).of_index fun q => by rw [h.index]

end change

theorem Accounted.of_ended (hw : Accounted w) (w' : World β) (hh : w'.handler = w.handler)
    (ha : w'.accepted = w.accepted) (hl : ∀ id, w'.Live id → w.Live id) : Accounted w' where
  keyed := by rw [hh]; exact hw.keyed
  active := by rw [hh]; exact hw.active
  placed := by rw [hh]; exact hw.placed
  home := by rw [hh]; exact hw.home
  reach := by rw [hh]; exact hw.reach
  listed a hacc hlive := by
    rw [ha] at hacc
    have ht := hw.listed a hacc (hl _ hlive)
    unfold World.Tracked at ht ⊢
    rw [hh]
    exact ht

/-! ## Fills of the primary order -/

/-- The fill places nothing onto an entry that is placed already. -/
def PlacesOnPending (c : Ctx β) (f T : Decimal) (pos : Option Decimal) (w : World β) (ph : String) :
    Prop :=
  ∀ e, w.handler.getEntry ph = some e → Places c f T pos w e → e.isPending = true

theorem placed_ne_nil (h : e.actualOrders ≠ []) : ∀ os, e.status = .placed os → os ≠ [] := by
  intro os hst
  simpa [ExitEntry.actualOrders, ExitEntryStatus.actualOrders, hst] using h

theorem Accounted.fillStep (ha : c.adapter.AcceptsSubmits) (hw : Accounted w)
    (hidx : ph ∈ w.handler.getPlaceholdersForPrimary id) (hp : PlacesOnPending c f T pos w ph)
    (hs : FillStep c ph f T pos pid w w') : Accounted w' := by
  obtain ⟨_, hs⟩ := hs
  cases hs with
  | skipped => exact hw
  | @belowMinimum e he hel | @breakerOpen e he hel =>
    have hch := EntryChange.of_updateEntry (w := w) w rfl he (ExitEntry.attempted f none)
    have hactive : ∀ o ∈ e.actualOrders, o.isActive = true := hw.active he
    have hplaced : ∀ os, e.status = .placed os → os ≠ [] := fun os => hw.placed he
    have hreach : e.actualOrders ≠ [] →
      ph ∈ w.handler.getPlaceholdersForPrimary e.primaryOrderId := hw.reach he
    refine hw.change hch rfl rfl hactive hplaced (fun ht => ht) hreach fun a hacc hl => ?_
    exact hch.tracked (hw.listed a hacc hl) fun o ho hid => ⟨o, ho, hid⟩
  | refused _ _ _ _ _ _ hr | failed _ _ _ _ _ _ _ _ hr =>
    exact absurd hr (acceptsPlacement_ne_false ha _ _)
  | @placed e handle o b he hel hq hb hc =>
    have hpend : e.isPending = true := hp e he ⟨hel, hq, hb⟩
    have hpend' : (e.attempted f pid).isPending = true := hpend
    obtain ⟨hid, -⟩ := hc.id_quantity ha
    have hch := EntryChange.of_updateEntry (w := w)
      (World.accept { w with broker := b, placing := none } ph handle.id
        (fillRequest f T pos pid e)) rfl he
      fun e' => recordPlacement ⟨o.id, o.quantity, .open, e.orderType⟩ (partialFill f T)
        (e'.attempted f pid)
    have horders := recordPlacement_actualOrders ⟨o.id, o.quantity, .open, e.orderType⟩
      (partialFill f T) (e.attempted f pid) hpend'
    have heq := recordPlacement_eq ⟨o.id, o.quantity, .open, e.orderType⟩ (partialFill f T)
      (e.attempted f pid)
    have hne : (recordPlacement ⟨o.id, o.quantity, .open, e.orderType⟩ (partialFill f T)
        (e.attempted f pid)).actualOrders ≠ [] := by
      rw [horders]
      simp
    have hterm := ExitEntry.isTerminal_of_isPending hpend
    refine hw.change hch (by rw [heq]; rfl) (by rw [heq]; rfl) (fun o' ho' => ?_)
      (placed_ne_nil hne) (fun _ => hterm) (fun _ => hw.home hidx he hterm) fun a hacc hl => ?_
    · rw [horders, List.mem_append, List.mem_singleton] at ho'
      rcases ho' with ho' | rfl
      · exact hw.active he o' ho'
      · rfl
    · -- the new order is listed at the end, the others stay
      rcases List.mem_append.mp hacc with hacc | hacc
      · refine hch.tracked (hw.listed a hacc hl) fun o' ho' hid' => ⟨o', ?_, hid'⟩
        rw [horders]
        exact List.mem_append_left _ ho'
      · rw [List.mem_singleton] at hacc
        subst hacc
        refine ⟨ph, _, hch.after, ⟨o.id, o.quantity, .open, e.orderType⟩, ?_, hid⟩
        rw [horders]
        exact List.mem_append_right _ List.mem_cons_self

/-- After its step an entry takes no further placement for the same fill. -/
theorem FillStep.placesOnPending (ha : c.adapter.AcceptsSubmits)
    (hs : FillStep c ph f T pos pid w w') (hk : PlacesOnPending c f T pos w k) :
    PlacesOnPending c f T pos w' k := by
  intro e' he' ⟨hel, hq, hb⟩
  rw [hs.breaker ha] at hb
  by_cases hkph : k = ph
  · subst hkph
    obtain ⟨_, hs⟩ := hs
    cases hs with
    | skipped => exact hk e' he' ⟨hel, hq, hb⟩
    | refused _ _ _ _ _ _ hr | failed _ _ _ _ _ _ _ _ hr =>
      exact absurd hr (acceptsPlacement_ne_false ha _ _)
    | belowMinimum he | breakerOpen he =>
      simp only [World.updateEntry, ExitHandler.getEntry_modifyEntry_self, he, Option.map_some,
        Option.some.injEq] at he'
      subst he'
      exact absurd (hel.2 f rfl) (lt_irrefl f)
    | placed he =>
      simp only [World.updateEntry, ExitHandler.getEntry_modifyEntry_self, World.accept, he,
        Option.map_some, Option.some.injEq] at he'
      subst he'
      rw [recordPlacement_eq] at hel
      exact absurd (hel.2 f rfl) (lt_irrefl f)
  · rw [hs.getEntry_ne hkph] at he'
    exact hk e' he' ⟨hel, hq, hb⟩

theorem Accounted.fillSteps (ha : c.adapter.AcceptsSubmits) (hw : Accounted w)
    (hp : ∀ ph ∈ w.handler.getPlaceholdersForPrimary id, PlacesOnPending c f T pos w ph)
    (hs : FillSteps c f T pos pid (w.handler.getPlaceholdersForPrimary id) w w') :
    Accounted w' := by
  let phs := w.handler.getPlaceholdersForPrimary id
  have hinv := hs.inv (I := fun v => Accounted v ∧ v.handler.getPlaceholdersForPrimary id = phs ∧
      ∀ ph ∈ phs, PlacesOnPending c f T pos v ph) ?_ ⟨hw, rfl, hp⟩
  · exact hinv.1
  · rintro ph hph v v' hstep ⟨hv, hidx, hpv⟩
    have hph' : ph ∈ v.handler.getPlaceholdersForPrimary id := by
      rw [hidx]
      exact hph
    refine ⟨hv.fillStep ha hph' (hpv ph hph) hstep, (hstep.placeholders id).trans hidx, ?_⟩
    exact fun k hk => hstep.placesOnPending ha (hpv k hk)

/-! ## Moves -/

theorem recordMovedLeg_isTerminal {price : Decimal} (hne : e.actualOrders ≠ [])
    (h : (recordMovedLeg r id price e).status.isTerminal = false) :
    e.status.isTerminal = false := by
  unfold recordMovedLeg at h
  cases hst : e.status <;> rw [hst] at h <;>
    simp_all [ExitEntry.actualOrders, ExitEntryStatus.actualOrders, ExitEntryStatus.isTerminal]

/-- A recorded move: the order `id` took the slot of `r`, which has ended or is `id` itself. -/
theorem Accounted.moved {w w₁ : World β} (hw : Accounted w) {ph : String} {e : ExitEntry}
    (he : w.handler.getEntry ph = some e) (hne : e.actualOrders ≠ []) (hh : w₁.handler = w.handler)
    (r : ActualOrder) (id : String) (price : Decimal)
    (hl : ∀ a ∈ w₁.accepted, w₁.Live a.orderId →
      a.orderId = id ∨ a.orderId ≠ r.orderId ∧ w.Tracked a.orderId) :
    Accounted (w₁.updateEntry ph (recordMovedLeg r id price)) := by
  have hch := EntryChange.of_updateEntry _ hh he (recordMovedLeg r id price)
  have horders := recordMovedLeg_actualOrders r id price e
  have hnew : (⟨id, r.remainingQty, .open, r.legType⟩ : ActualOrder) ∈
      (recordMovedLeg r id price e).actualOrders := by
    rw [horders]
    exact replacement_mem_replaceSlot _ _ _
  refine hw.change hch rfl rfl (fun o ho => ?_) (placed_ne_nil (List.ne_nil_of_mem hnew))
    (recordMovedLeg_isTerminal hne) (fun _ => hw.reach he hne) fun a hacc hlive => ?_
  · rw [horders] at ho
    rcases mem_replaceSlot ho with rfl | ho
    · rfl
    · exact hw.active he o ho
  · rcases hl a hacc hlive with hid | ⟨hne', ht⟩
    · exact ⟨ph, _, hch.after, _, hnew, hid.symm⟩
    · refine hch.tracked ht fun o ho hid => ⟨o, ?_, hid⟩
      rw [horders]
      exact mem_replaceSlot_of_ne ho (by rw [hid]; exact hne')

/-- The entry is there and lists an order. -/
def HasOrders (ph : String) (w : World β) : Prop :=
  ∃ e, w.handler.getEntry ph = some e ∧ e.actualOrders ≠ []

theorem hasOrders_moved (h : HasOrders ph w) (hh : w₁.handler = w.handler) (r : ActualOrder)
    (id : String) (price : Decimal) :
    HasOrders ph (w₁.updateEntry ph (recordMovedLeg r id price)) := by
  obtain ⟨e, he, -⟩ := h
  refine ⟨_, (EntryChange.of_updateEntry _ hh he _).after, ?_⟩
  rw [recordMovedLeg_actualOrders]
  exact List.ne_nil_of_mem (replacement_mem_replaceSlot _ _ _)

theorem Accounted.moveStep (ha : c.adapter.AcceptsSubmits) {entry : ExitEntry}
    (hs : MoveStep c ph entry r w w') (hw : Accounted w ∧ HasOrders ph w) :
    Accounted w' ∧ HasOrders ph w' := by
  obtain ⟨hw, hho⟩ := hw
  obtain ⟨e, he, hne⟩ := id hho
  -- an order that ended by this move is not live, the others were listed before
  have hlive : ∀ id, id ∉ w.cancelled ++ [r.orderId] ∧ id ∉ w.filled →
      id ≠ r.orderId ∧ w.Live id := by
    rintro id ⟨hc, hf⟩
    rw [List.mem_append, List.mem_singleton, not_or] at hc
    exact ⟨hc.2, hc.1, hf⟩
  have hnew : ∀ (x a : AcceptedOrder), a ∈ w.accepted ++ [x] →
      (a.orderId ∉ w.cancelled ++ [r.orderId] ∧ a.orderId ∉ w.filled) →
      a.orderId = x.orderId ∨ a.orderId ≠ r.orderId ∧ w.Tracked a.orderId := by
    intro x a hacc hl
    rcases List.mem_append.mp hacc with hacc | hacc
    · obtain ⟨hid, hl⟩ := hlive _ hl
      exact .inr ⟨hid, hw.listed a hacc hl⟩
    · rw [List.mem_singleton] at hacc
      subst hacc
      exact .inl rfl
  obtain ⟨price, res, hs⟩ := hs
  cases hs with
  | kept => exact ⟨hw.of_ended _ rfl rfl fun _ h => h, hho⟩
  | changed _ ho =>
    refine ⟨hw.moved he hne (by rfl) r _ price fun a hacc hl => ?_,
      hasOrders_moved hho (by rfl) r _ _⟩
    obtain ⟨a₀, ha₀, rfl⟩ := List.mem_map.mp hacc
    by_cases hid : a₀.orderId = r.orderId
    · simp only [hid, if_true] at hl ⊢
      exact .inl (hid.trans ho.symm)
    · simp only [hid, if_false] at hl ⊢
      exact .inr ⟨hid, hw.listed a₀ ha₀ hl⟩
  | swapped | replaced =>
    exact ⟨hw.moved he hne (by rfl) r _ price (hnew _), hasOrders_moved hho (by rfl) r _ _⟩
  | restored _ _ _ hr | lost _ _ _ hr => exact absurd ha hr

theorem Accounted.moveLeg (ha : c.adapter.AcceptsSubmits) (hw : Accounted w) (ph : String)
    (price : Decimal) : Accounted ((replaceExitLeg c ph price).run w).2 := by
  rcases run_replaceExitLeg (c := c) ph price w with h | ⟨entry, he, hs⟩
  · rw [h]
    exact hw
  · by_cases hne : entry.actualOrders = []
    · rw [hne] at hs
      generalize ((replaceExitLeg c ph price).run w).2 = w' at hs ⊢
      cases hs
      exact hw
    · have hinv := hs.inv (I := fun v => Accounted v ∧ HasOrders ph v)
        (fun r _ v v' hstep hv => Accounted.moveStep ha hstep hv) ⟨hw, entry, he, hne⟩
      exact hinv.1

/-! ## Fills of exit orders -/

theorem Accounted.drop (hw : Accounted w) (ph primary : String)
    (hdead : ∀ e, w.handler.getEntry ph = some e → ∀ o ∈ e.actualOrders, ¬ w.Live o.orderId) :
    Accounted (w.dropEntry ph primary) := by
  refine .of_wellKept (fun k e he => ?_) fun a hacc hl => ?_
  · rw [World.dropEntry, ExitHandler.getEntry_removePendingEntry] at he
    split at he
    · cases he
    · rename_i hk
      refine (hw.wellKept he).of_index fun q => ?_
      rw [World.dropEntry, ExitHandler.getPlaceholdersForPrimary_removePendingEntry]
      split
      · rename_i hq
        simp [hq, hk]
      · rfl
  · obtain ⟨k, e, he, o, ho, hid⟩ := hw.listed a hacc hl
    have hk : k ≠ ph := by
      rintro rfl
      exact hdead e he o ho (by rw [hid]; exact hl)
    refine ⟨k, e, ?_, o, ho, hid⟩
    rw [World.dropEntry, ExitHandler.getEntry_removePendingEntry, if_neg hk]
    exact he

/-- The full fill of an order of `e`, none of whose orders is live any more. -/
theorem Accounted.ocoStep (hw : Accounted w) (he : w.handler.getEntry k = some e)
    (hdead : ∀ o ∈ e.actualOrders, ¬ w.Live o.orderId) (hs : OcoStep c e w w') : Accounted w' := by
  have hkey := hw.keyed he
  subst hkey
  -- a world in which some more orders are cancelled, without `e`
  have hdrop : ∀ (b : β) ids,
      Accounted (World.dropEntry { w with broker := b, cancelled := w.cancelled ++ ids }
        e.placeholderId e.primaryOrderId) := by
    intro b ids
    have hmono : ∀ id, World.Live { w with broker := b, cancelled := w.cancelled ++ ids } id →
        w.Live id := fun id h => ⟨fun hm => h.1 (List.mem_append_left _ hm), h.2⟩
    refine (hw.of_ended { w with broker := b, cancelled := w.cancelled ++ ids } rfl rfl
      hmono).drop _ _ fun e₁ he₁ o ho hl => ?_
    cases he₁.symm.trans he
    exact hdead o ho (hmono _ hl)
  cases hs with
  | alone h =>
    refine hw.drop _ _ fun e₁ he₁ => ?_
    cases he₁.symm.trans he
    exact hdead
  | @resolved s e' b hreach hsib he' =>
    refine (hdrop b (activeIds e'.actualOrders)).drop _ _ fun e₁ he₁ o ho hl => ?_
    -- the sibling's orders are all active, so all of them were cancelled
    obtain rfl : e' = e₁ := Option.some.inj (he'.symm.trans he₁)
    have hact := (hdrop b (activeIds e'.actualOrders)).active he' o ho
    refine hl.1 (List.mem_append_right _ ?_)
    exact List.mem_map_of_mem (List.mem_filter.mpr ⟨ho, hact⟩)
  | retained ids hreach hsib he' hids hr => exact hdrop _ ids

/-! ## Registrations, backups, cancellations -/

/-- None of the entries lists an order. -/
def NoOrders (phs : List String) (w : World β) : Prop :=
  ∀ ph ∈ phs, ∀ e, w.handler.getEntry ph = some e → e.actualOrders = []

/-- New entries for `p` at the placeholders `news`, where no entry with orders stood. -/
theorem Accounted.insertNew (hw : Accounted w) {p : String} {news : List String} {h' : ExitHandler}
    (hins : ExitHandler.Inserts p news w.handler h') (hfree : NoOrders news w) :
    Accounted { w with handler := h' } := by
  refine .of_wellKept (fun k e he => ?_) fun a ha hlive => ?_
  · by_cases hk : k ∈ news
    · obtain ⟨e', he', hkey, hprim, hst, -⟩ := hins.new k hk
      obtain rfl : e' = e := Option.some.inj (he'.symm.trans he)
      refine .of_pending hkey hst ?_
      rw [hprim, hins.placeholders, if_pos rfl]
      exact List.mem_append_right _ hk
    · refine (hw.wellKept ((hins.old k hk).symm.trans he)).of_index fun q => ?_
      rw [hins.placeholders]
      by_cases hq : q = p <;> simp [hq, hk]
  · obtain ⟨k, e, he, o, ho, hid⟩ := hw.listed a ha hlive
    refine ⟨k, e, (hins.old k fun hk => ?_).trans he, o, ho, hid⟩
    rw [hfree k hk e he] at ho
    cases ho

theorem Accounted.register (hw : Accounted w) (p : String) (order : OrderRequest)
    (hfree : NoOrders [generatePlaceholderId .stopLoss p, generatePlaceholderId .takeProfit p] w) :
    Accounted ((register c p order).run w).2 := by
  obtain hsame | ⟨news, h', hins, hw'⟩ := (run_register (c := c) p order w).inserts
  · rw [hsame]
    exact hw
  · rw [hw']
    refine hw.insertNew hins fun k hk => hfree k ?_
    obtain ⟨leg, rfl⟩ := hins.id k hk
    cases leg <;> simp

theorem Accounted.activateBackup (hw : Accounted w) (backupId actual : String) :
    Accounted { w with handler := (w.handler.activateBackup backupId actual).2 } := by
  set phs := w.handler.getPlaceholdersForPrimary backupId with hphs
  have hget := w.handler.getEntry_activateBackup backupId actual
  have hidx := w.handler.getPlaceholdersForPrimary_activateBackup backupId actual
  rw [← hphs] at hget hidx
  refine .of_wellKept (fun k e he => ?_) fun a ha hl => ?_
  · rw [hget] at he
    split at he
    · rename_i hk
      obtain ⟨e₀, he₀, rfl⟩ := Option.map_eq_some_iff.mp he
      have hold := hw.wellKept he₀
      have hmoved : k ∈ (w.handler.activateBackup backupId actual).2.getPlaceholdersForPrimary
          actual := by
        rw [hidx, if_pos rfl]
        exact List.mem_append_right _ hk
      exact ⟨hold.keyed, hold.active, hold.placed, fun _ _ _ => hmoved, fun _ => hmoved⟩
    · -- an entry that is not one of the backup stays where it is indexed
      rename_i hk
      refine (hw.wellKept he).of_index fun q => ?_
      have hq : q = backupId → k ∉ w.handler.getPlaceholdersForPrimary q := by
        rintro rfl
        exact hk
      rw [hidx]
      by_cases h₁ : q = backupId <;> by_cases h₂ : q = actual <;> simp_all
  · obtain ⟨k, e, he, o, ho, hid⟩ := hw.listed a ha hl
    by_cases hk : k ∈ phs
    · exact ⟨k, e.setPrimary actual, by rw [hget, if_pos hk, he]; rfl, o, ho, hid⟩
    · exact ⟨k, e, by rw [hget, if_neg hk]; exact he, o, ho, hid⟩

/-- An entry without orders ends up in a terminal status when its primary order is cancelled. -/
theorem WellKept.primaryCancelled (h : WellKept w k e) (hno : e.actualOrders = []) :
    WellKept w' k e.primaryCancelled := by
  by_cases hp : e.isPending = true
  · have hc : e.primaryCancelled = e.setStatus (.cancelled .primaryCancelled) := if_pos hp
    rw [hc]
    exact .of_terminal h.keyed rfl rfl
  · have hc : e.primaryCancelled = e := if_neg hp
    rw [hc]
    refine .of_terminal h.keyed hno ?_
    cases hst : e.status with
    | placed os =>
      refine absurd ?_ (h.placed os hst)
      simpa [ExitEntry.actualOrders, ExitEntryStatus.actualOrders, hst] using hno
    | pending | partiallyTriggered => simp [ExitEntry.isPending, hst] at hp
    | failed | cancelled | expired => rfl

theorem Accounted.cancelPrimary (hw : Accounted w) (p : String)
    (hn : NoOrders (w.handler.getPlaceholdersForPrimary p) w) :
    Accounted ((handleCancellationInternal p).run w).2 := by
  obtain ⟨h, hrun, hidx, hget⟩ := run_handleCancellationInternal p w
  rw [hrun]
  refine .of_wellKept (fun k e he => ?_) fun a ha hl => ?_
  · rw [hget] at he
    split at he
    · rename_i hk
      obtain ⟨e₀, he₀, rfl⟩ := Option.map_eq_some_iff.mp he
      exact (hw.wellKept he₀).primaryCancelled (hn k hk e₀ he₀)
    · rename_i hk
      refine (hw.wellKept he).of_index fun q => ?_
      rw [ExitHandler.getPlaceholdersForPrimary, hidx]
      refine (iff_of_eq (congrArg (k ∈ ·)
        (w.handler.getPlaceholdersForPrimary_dropPrimary p q))).trans ?_
      by_cases hq : q = p
      · subst hq
        simp [hk]
      · rw [if_neg hq]
  · obtain ⟨k, e, he, o, ho, hid⟩ := hw.listed a ha hl
    refine ⟨k, e, ?_, o, ho, hid⟩
    rw [hget, if_neg]
    · exact he
    · intro hk
      rw [hn k hk e he] at ho
      cases ho

/-! ## Runs -/

inductive ExitEvent where
  | register (primaryOrderId : String) (order : OrderRequest)
  | activateBackup (backupId actualPrimaryId : String)
  | fill (orderId : String) (filledQty totalQty : Decimal) (positionQty : Option Decimal)
      (positionId : Option String)
  | replaceLeg (placeholderId : String) (newTriggerPrice : Decimal)
  | cancelPrimary (primaryOrderId : String)

/-- The provider reported that the order filled in full. -/
def World.reportFill (w : World β) (orderId : String) (filledQty totalQty : Decimal) : World β :=
  if 0 < totalQty ∧ totalQty ≤ filledQty then w.fill orderId else w

def exitStep (c : Ctx β) (w : World β) : ExitEvent → World β
  | .register p order => ((register c p order).run w).2
  | .activateBackup backupId actual =>
    { w with handler := (w.handler.activateBackup backupId actual).2 }
  | .fill id f T pos pid => ((handleFill c id f T pos pid).run (w.reportFill id f T)).2
  | .replaceLeg ph price => ((replaceExitLeg c ph price).run w).2
  | .cancelPrimary p => ((handleCancellationInternal p).run w).2

/-- The order `id` is the only live order of the leg that lists it. -/
def OnlyLive (id : String) (w : World β) : Prop :=
  ∀ e, w.handler.findEntryByActualOrder id = some e →
    ∀ o ∈ e.actualOrders, o.orderId ≠ id → ¬ w.Live o.orderId

/-- The event drops no live exit order: it cancels a primary order only while its legs list no
order, registers nothing over an entry with orders, places nothing onto a placed entry, and fills
only the one live order of a leg. -/
def KeepsExits (c : Ctx β) (w : World β) : ExitEvent → Prop
  | .register p _ =>
    NoOrders [generatePlaceholderId .stopLoss p, generatePlaceholderId .takeProfit p] w
  | .fill id f T pos _ =>
    (∀ ph ∈ w.handler.getPlaceholdersForPrimary id, PlacesOnPending c f T pos w ph) ∧
      (w.handler.getPlaceholdersForPrimary id = [] → T ≤ f → OnlyLive id w)
  | .cancelPrimary p => NoOrders (w.handler.getPlaceholdersForPrimary p) w
  | .activateBackup .. | .replaceLeg .. => True

theorem Accounted.reportFill (hw : Accounted w) (id : String) (f T : Decimal) :
    Accounted (w.reportFill id f T) := by
  unfold World.reportFill
  split
  · refine hw.of_ended _ rfl rfl fun id' hl => ⟨hl.1, fun hm => hl.2 ?_⟩
    exact List.mem_append_left _ hm
  · exact hw

@[simp] theorem reportFill_handler (w : World β) (id : String) (f T : Decimal) :
    (w.reportFill id f T).handler = w.handler := by
  unfold World.reportFill
  split <;> rfl

theorem Accounted.handleFill (ha : c.adapter.AcceptsSubmits) (hw : Accounted w)
    (hk : KeepsExits c w (.fill id f T pos pid)) :
    Accounted ((handleFill c id f T pos pid).run (w.reportFill id f T)).2 := by
  obtain ⟨hplaces, honly⟩ := hk
  have hw' := hw.reportFill id f T
  have hev := run_handleFill (c := c) id f T pos pid (w.reportFill id f T)
  generalize ((Exit.handleFill c id f T pos pid).run (w.reportFill id f T)).2 = w' at hev ⊢
  cases hev with
  | ignored h => exact hw'
  | primary hf hT hp hs =>
    refine hw'.fillSteps ha (fun ph hph e he hpl => ?_) hs
    rw [reportFill_handler] at hph he
    refine hplaces ph hph e he ⟨hpl.1, hpl.2.1, ?_⟩
    have hb := hpl.2.2
    rwa [reportFill_handler] at hb
  | exitPartial => exact hw'
  | exitFull hf hT hp he hfull ho =>
    obtain ⟨⟨k, hk⟩, -⟩ := ExitHandler.findEntryByActualOrder_some _ he
    refine hw'.ocoStep hk (fun o ho' hl => ?_) ho
    rw [reportFill_handler] at hp he
    have hlive : World.Live (w.fill id) o.orderId := by
      unfold World.reportFill at hl
      rwa [if_pos ⟨hT, hfull⟩] at hl
    have hne : o.orderId ≠ id := by
      rintro rfl
      exact hlive.2 (List.mem_append_right _ List.mem_cons_self)
    exact honly hp hfull _ he o ho' hne ⟨hlive.1, fun hm => hlive.2 (List.mem_append_left _ hm)⟩
  | unmatched hf hT hp he =>
    exact ⟨hw'.keyed, hw'.active, hw'.placed, hw'.home, hw'.reach, hw'.listed⟩

theorem Accounted.step (ha : c.adapter.AcceptsSubmits) {ev : ExitEvent} (hw : Accounted w)
    (hk : KeepsExits c w ev) : Accounted (exitStep c w ev) := by
  cases ev with
  | register p order => exact hw.register p order hk
  | activateBackup backupId actual => exact hw.activateBackup backupId actual
  | fill id f T pos pid => exact hw.handleFill ha hk
  | replaceLeg ph price => exact hw.moveLeg ha ph price
  | cancelPrimary p => exact hw.cancelPrimary p hk

section decidable

variable (w : World β)

instance (f : Decimal) (e : ExitEntry) : Decidable (Eligible f e) :=
  inferInstanceAs (Decidable (_ ∧ ∀ last ∈ e.lastAttemptedFillQty, last < f))

instance (f T : Decimal) (pos : Option Decimal) (e : ExitEntry) :
    Decidable (Places c f T pos w e) :=
  inferInstanceAs (Decidable (_ ∧ _ ∧ _))

instance (f T : Decimal) (pos : Option Decimal) (ph : String) :
    Decidable (PlacesOnPending c f T pos w ph) :=
  inferInstanceAs
    (Decidable (∀ e ∈ w.handler.getEntry ph, Places c f T pos w e → e.isPending = true))

instance (phs : List String) : Decidable (NoOrders phs w) :=
  inferInstanceAs (Decidable (∀ ph ∈ phs, ∀ e ∈ w.handler.getEntry ph, e.actualOrders = []))

instance (id : String) : Decidable (OnlyLive id w) :=
  inferInstanceAs (Decidable (∀ e ∈ w.handler.findEntryByActualOrder id,
    ∀ o ∈ e.actualOrders, o.orderId ≠ id → ¬ w.Live o.orderId))

instance : (ev : ExitEvent) → Decidable (KeepsExits c w ev)
  | .register .. | .cancelPrimary _ => inferInstanceAs (Decidable (NoOrders _ w))
  | .fill .. => inferInstanceAs (Decidable (_ ∧ (_ → _ → OnlyLive _ w)))
  | .activateBackup .. | .replaceLeg .. => inferInstanceAs (Decidable True)

end decidable

/-- In every run whose events keep the exits, each live exit order is found in every state. -/
theorem accounted_of_guarded (c : Ctx β) (ha : c.adapter.AcceptsSubmits) (b : β)
    (es : List ExitEvent)
    (hg : Run.Guarded (exitStep c) (KeepsExits c) (World.initial c.config b) es) :
    ∀ es', es' <+: es → ∀ w, w = Run.exec (exitStep c) (World.initial c.config b) es' →
      ∀ a ∈ w.accepted, w.Live a.orderId → w.Found a.orderId := by
  rintro es' hp w rfl a hacc hl
  have hw := Run.exec_inv (fun _ _ h hk => Accounted.step ha h hk)
    (accounted_initial c.config b) (hg.initial hp)
  exact hw.found hacc hl

/-- One primary order is cancelled before it fills; another fills in two parts, with a move of its
stop-loss in between. -/
def keptRun : List ExitEvent :=
  [.register "p" sampleBracket, .cancelPrimary "p", .register "q" sampleBracket,
    .fill "q" 4 10 none none, .replaceLeg (generatePlaceholderId .stopLoss "q") 95,
    .fill "q" 10 10 none none]

/-- The moved stop-loss order is found. -/
theorem accounted_of_guarded_moved :
    Run.Guarded (exitStep .simulated) (KeepsExits .simulated) (World.initial {} []) keptRun ∧
      (Run.exec (exitStep .simulated) (World.initial {} []) keptRun).Found "o2" := by
  have hg : Run.Guarded (exitStep .simulated) (KeepsExits .simulated) (World.initial {} [])
    keptRun := by decide +kernel
  have hacc : ∃ a ∈ (Run.exec (exitStep .simulated) (World.initial {} []) keptRun).accepted,
    a.orderId = "o2" := by decide +kernel
  obtain ⟨a, ha, hid⟩ := hacc
  refine ⟨hg, ?_⟩
  rw [← hid]
  refine accounted_of_guarded .simulated TradingAdapter.simulated_acceptsSubmits [] keptRun hg
    keptRun (List.prefix_refl _) _ rfl a ha ?_
  rw [hid]
  decide +kernel

/-- A fill of 4 out of 10, then the primary order is cancelled: both exit orders are live, and the
handler finds neither. -/
theorem cancelled_primary_loses_exit :
    let w := Run.exec (exitStep .simulated) (World.initial {} [])
      [.register "p" sampleBracket, .fill "p" 4 10 none none, .cancelPrimary "p"]
    w.accepted.map AcceptedOrder.orderId = ["o0", "o1"] ∧
      w.Live "o0" ∧ w.Live "o1" ∧ ¬ w.Found "o0" ∧ ¬ w.Found "o1" := by
  decide +kernel

end Gateway.Exit
