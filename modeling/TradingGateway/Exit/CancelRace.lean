import TradingGateway.Lib.Interleave
import TradingGateway.Exit.Cancellation
import TradingGateway.Exit.History
import TradingGateway.Exit.Steps

/-!
# A fill and a cancellation at the same time

One task handles a fill of a primary order, another one a cancellation: of that primary order, or of
the exits of a symbol whose position closes. The cancellation does not take the fill-processing
lock, so its steps come anywhere between those of the fill. Does an accepted exit order escape: is
it neither cancelled at the provider nor listed in a tracked entry?

* `no_exit_escapes`: none does, in every interleaving in which an exit order is placed only for an
  entry that waits for fills, and an entry is marked cancelled only when all the orders that it
  lists are cancelled at the provider and no order of a partial fill is being placed for it
  (`KeepsListed`).
* `cancelled_in_flight`: a partial fill's order is accepted, the entry is marked cancelled before
  the order is recorded, and the recording ignores it.

The proof is by rely and guarantee. `Interferes` says what a cancellation may do to the world, and
the assertions of the fill task are stable under it.
-/

namespace Gateway

/-- The provider reports the order that it was asked for. -/
def TradingAdapter.GetsById {β : Type} (ad : TradingAdapter β) : Prop :=
  ∀ id b o b', ad.getOrder id b = (.ok o, b') → o.id = id

namespace Exit

open Routine

variable {β α α' : Type} {c : Ctx β}

def ExitEntryStatus.isCancelled : ExitEntryStatus → Bool
  | .cancelled _ => true
  | _ => false

theorem ExitEntry.actualOrders_of_isCancelled {e : ExitEntry} (h : e.status.isCancelled = true) :
    e.actualOrders = [] := by
  unfold ExitEntryStatus.isCancelled at h
  split at h
  · rename_i hst
    simp [ExitEntry.actualOrders, ExitEntryStatus.actualOrders, hst]
  · cases h

/-! ## What a cancellation may do -/

/-- A step of the race that drops no live order: it begins to place an order only for an entry that
waits for fills, and marks an entry cancelled only when the orders it lists are cancelled at the
provider and no order of a partial fill is being placed for it. -/
def KeepsListed (full : Bool) (w w' : World β) : Prop :=
  ∀ k e, w.handler.getEntry k = some e →
    (w'.placing = some k → w.placing ≠ some k → e.isPending = true) ∧
    ∀ e', w'.handler.getEntry k = some e' → e.status.isCancelled = false →
      e'.status.isCancelled = true →
      (∀ o ∈ e.actualOrders, o.orderId ∈ w.cancelled) ∧ (w.placing = some k → full = true)

/-- What the cancellation does to the world, seen from the fill. -/
structure Interferes (full : Bool) (w w' : World β) : Prop where
  accepted : w'.accepted = w.accepted
  cancelled : w.cancelled ⊆ w'.cancelled
  placing : w'.placing = w.placing
  entries : ∀ k, w'.handler.getEntry k = w.handler.getEntry k ∨
    ∃ e e', w.handler.getEntry k = some e ∧ w'.handler.getEntry k = some e' ∧
      e'.status.isCancelled = true ∧
      (e.status.isCancelled = true ∨
        (∀ o ∈ e.actualOrders, o.orderId ∈ w.cancelled) ∧ (w.placing = some k → full = true))

/-- The order is cancelled at the provider, or listed in a tracked entry. -/
def World.Accounts (w : World β) (orderId : String) : Prop :=
  orderId ∈ w.cancelled ∨ w.Tracked orderId

section interferes

variable {full : Bool} {w w' : World β} {id : String}

theorem Interferes.accounts (h : Interferes full w w') (ha : w.Accounts id) : w'.Accounts id := by
  rcases ha with hc | ⟨k, e, he, o, ho, hid⟩
  · exact .inl (h.cancelled hc)
  · rcases h.entries k with hk | ⟨e₁, e', he₁, -, -, hcan | ⟨hall, -⟩⟩
    · exact .inr ⟨k, e, hk.trans he, o, ho, hid⟩
    · cases he.symm.trans he₁
      rw [ExitEntry.actualOrders_of_isCancelled hcan] at ho
      cases ho
    · cases he.symm.trans he₁
      rw [← hid]
      exact .inl (h.cancelled (hall o ho))

/-- Every accepted order is accounted for, but those with an id in `ids`. -/
def AllBut (ids : List String) (w : World β) : Prop :=
  ∀ a ∈ w.accepted, a.orderId ∈ ids ∨ w.Accounts a.orderId

theorem Interferes.allBut (h : Interferes full w w') {ids : List String} (ha : AllBut ids w) :
    AllBut ids w' := by
  intro a hacc
  rw [h.accepted] at hacc
  exact (ha a hacc).imp id h.accounts

/-- The order id is no exit order's. -/
def Unlisted (id : String) (w : World β) : Prop :=
  ∀ k e, w.handler.getEntry k = some e → ∀ o ∈ e.actualOrders, o.orderId ≠ id

theorem Interferes.unlisted (h : Interferes full w w') (hu : Unlisted id w) : Unlisted id w' := by
  intro k e he
  rcases h.entries k with hk | ⟨e₁, e', -, he', hcan, -⟩
  · exact hu k e (hk.symm.trans he)
  · cases he.symm.trans he'
    rw [ExitEntry.actualOrders_of_isCancelled hcan]
    exact fun o ho => by cases ho

theorem Interferes.exists_entry (h : Interferes full w w') {k : String}
    (he : ∃ e, w.handler.getEntry k = some e) : ∃ e, w'.handler.getEntry k = some e := by
  obtain ⟨e, he⟩ := he
  rcases h.entries k with hk | ⟨_, e', _, he', -⟩
  · exact ⟨e, hk.trans he⟩
  · exact ⟨e', he'⟩

/-- An order is being placed for the entry `ph`, which will list it. -/
def InFlight (full : Bool) (ph : String) (w : World β) : Prop :=
  w.placing = some ph ∧ ∃ e, w.handler.getEntry ph = some e ∧
    (e.isPending = true ∨ full = true ∧ e.status.isCancelled = true)

theorem Interferes.inFlight (h : Interferes full w w') {ph : String} (hf : InFlight full ph w) :
    InFlight full ph w' := by
  obtain ⟨hpl, e, he, hst⟩ := hf
  refine ⟨h.placing.trans hpl, ?_⟩
  rcases h.entries ph with hk | ⟨e₁, e', he₁, he', hcan, hwhy⟩
  · exact ⟨e, hk.trans he, hst⟩
  · cases he.symm.trans he₁
    refine ⟨e', he', .inr ⟨?_, hcan⟩⟩
    rcases hwhy with hcan₁ | ⟨-, hfull⟩
    · -- the entry was cancelled already: then the fill is a full one
      rcases hst with hpend | ⟨hfull, -⟩
      · exfalso
        unfold ExitEntryStatus.isCancelled at hcan₁
        unfold ExitEntry.isPending at hpend
        split at hcan₁
        · rename_i hst
          simp [hst] at hpend
        · cases hcan₁
      · exact hfull
    · exact hfull hpl

end interferes

/-! ## The fill -/

/-- The assertion stays true under a cancellation. -/
def Steady (full : Bool) (P : World β → Prop) : Prop := ∀ w w', Interferes full w w' → P w → P w'

theorem Steady.stable {full : Bool} {P : World β → Prop} (h : Steady full P) :
    Stable (fun x y : World β × Unit => Interferes full x.1 y.1) fun x => P x.1 :=
  fun x y => h x.1 y.1

theorem Steady.and {full : Bool} {P P' : World β → Prop} (h : Steady full P)
    (h' : Steady full P') : Steady full fun w => P w ∧ P' w :=
  fun w w' hi hw => ⟨h w w' hi hw.1, h' w w' hi hw.2⟩

/-- A specification of a part of the fill task. -/
def FillSpec (full : Bool) (P : World β → Prop) (t : ExitM β α) (Q : α → World β → Prop) : Prop :=
  Routine.Spec (fun o w => KeepsListed full w (o.run w).2)
    (fun x y : World β × Unit => Interferes full x.1 y.1) (fun _ _ => True) (fun x => P x.1) t
    fun a x => Q a x.1

section rules

variable {full : Bool} {P : World β → Prop} {Q : α → World β → Prop}

variable {f : World β → α × World β} {t : ExitM β α}

theorem FillSpec.bind {g : α → ExitM β α'} {Q' : α' → World β → Prop} (h : FillSpec full P t Q)
    (hg : ∀ a, FillSpec full (Q a) (g a) Q') : FillSpec full P (t >>= g) Q' :=
  Spec.bind h hg

theorem FillSpec.pure {a : α} (hQ : Steady full (Q a)) (h : ∀ w, P w → Q a w) :
    FillSpec full P (pure a) Q :=
  Spec.ret hQ.stable fun x => h x.1

theorem FillSpec.step (hP : Steady full P) (hQ : ∀ a, Steady full (Q a))
    (h : ∀ w, P w → KeepsListed full w (f w).2 → Q (f w).1 (f w).2) :
    FillSpec full P (Routine.step f) Q :=
  Spec.step hP.stable (fun a => (hQ a).stable) fun w _ hw hok => ⟨(), trivial, h w hw hok⟩

theorem FillSpec.call (hP : Steady full P) (hQ : ∀ a, Steady full (Q a))
    (h : ∀ w, P w → Q (f w).1 (f w).2) :
    FillSpec full P (Routine.call f) Q :=
  Spec.call hP.stable (fun a => (hQ a).stable) fun w _ hw _ => ⟨(), trivial, h w hw⟩

theorem FillSpec.read {f : ExitHandler → α} (hP : Steady full P) (hQ : ∀ a, Steady full (Q a))
    (h : ∀ w, P w → Q (f w.handler) w) : FillSpec full P (readHandler f) Q :=
  FillSpec.step hP hQ fun w hw _ => h w hw

theorem FillSpec.mono {P' : World β → Prop} (h : FillSpec full P t Q) (hP : ∀ w, P' w → P w) :
    FillSpec full P' t Q :=
  Spec.pre h fun x => hP x.1

theorem FillSpec.locked (h : FillSpec full P t Q) : FillSpec full P (Routine.locked t) Q :=
  Spec.locked h

end rules

section fill

variable {full : Bool} {ph : String} {w w' : World β}

theorem steady_allBut (ids : List String) : Steady (β := β) full (AllBut ids) :=
  fun _ _ h => h.allBut

theorem steady_placing (q : Option String) : Steady (β := β) full fun w => w.placing = q :=
  fun _ _ h hw => h.placing.trans hw

theorem steady_inFlight : Steady (β := β) full (InFlight full ph) := fun _ _ h => h.inFlight

theorem steady_unlisted (id : String) : Steady (β := β) full (Unlisted id) :=
  fun _ _ h => h.unlisted

/-- All accepted orders are accounted for, and none is being placed. -/
def Calm (w : World β) : Prop := AllBut [] w ∧ w.placing = none

theorem steady_calm : Steady (β := β) full Calm := (steady_allBut []).and (steady_placing none)

theorem steady_exists_entry : Steady (β := β) full fun w => ∃ e, w.handler.getEntry ph = some e :=
  fun _ _ h => h.exists_entry

variable {g : ExitEntry → ExitEntry} {pf : Option (Decimal × Decimal)}

theorem AllBut.updateEntry {ids : List String} (hw : AllBut ids w)
    (hg : ∀ e, w.handler.getEntry ph = some e → ∀ o ∈ e.actualOrders, o ∈ (g e).actualOrders) :
    AllBut ids (w.updateEntry ph g) := by
  intro a ha
  refine (hw a ha).imp id fun hacc => ?_
  rcases hacc with hc | ⟨k, e, he, o, ho, hid⟩
  · exact .inl hc
  · by_cases hk : k = ph
    · subst hk
      refine .inr ⟨k, g e, ?_, o, hg e he o ho, hid⟩
      simp [World.updateEntry, he]
    · refine .inr ⟨k, e, ?_, o, ho, hid⟩
      rw [World.updateEntry, ExitHandler.getEntry_modifyEntry_ne _ _ hk]
      exact he

theorem exists_entry_updateEntry (he : ∃ e, w.handler.getEntry ph = some e)
    (g : ExitEntry → ExitEntry) : ∃ e, (w.updateEntry ph g).handler.getEntry ph = some e := by
  obtain ⟨e, he⟩ := he
  exact ⟨g e, by simp [World.updateEntry, he]⟩

theorem submitOrder_spec (ha : c.adapter.AcceptsSubmits) (r : OrderRequest) :
    FillSpec full (fun w => AllBut [] w ∧ InFlight full ph w) (submitOrder c ph r) fun res w =>
      ∃ handle, res = .ok handle ∧ AllBut [handle.id] w ∧ InFlight full ph w := by
  refine FillSpec.call ((steady_allBut _).and steady_inFlight) (fun res w w' hi => ?_)
    fun w hw => ?_
  · rintro ⟨handle, rfl, hall, hfl⟩
    exact ⟨handle, rfl, hi.allBut hall, hi.inFlight hfl⟩
  · obtain ⟨handle, b, hs⟩ := ha.accepts r w.broker
    simp only [hs]
    refine ⟨handle, rfl, fun a hacc => ?_, hw.2⟩
    rcases List.mem_append.mp hacc with hacc | hacc
    · exact .inr ((hw.1 a hacc).resolve_left (by simp))
    · rw [List.mem_singleton] at hacc
      subst hacc
      exact .inl List.mem_cons_self

theorem getOrder_spec (hget : c.adapter.GetsById) (ph id : String) :
    FillSpec full (fun w => AllBut [id] w ∧ InFlight full ph w) (getOrder c id) fun res w =>
      (∀ o, res = .ok o → o.id = id) ∧ AllBut [id] w ∧ InFlight full ph w := by
  refine FillSpec.call ((steady_allBut _).and steady_inFlight) (fun res w w' hi h => ?_)
    fun w hw => ?_
  · exact ⟨h.1, hi.allBut h.2.1, hi.inFlight h.2.2⟩
  · refine ⟨fun o ho => ?_, hw⟩
    exact hget id w.broker o (c.adapter.getOrder id w.broker).2 (Prod.ext ho rfl)

/-- The first submission is accepted, whatever the cancellation does meanwhile. -/
theorem placeOrderWithRetry_spec (ha : c.adapter.AcceptsSubmits) (hget : c.adapter.GetsById)
    (r : OrderRequest) :
    FillSpec full (fun w => AllBut [] w ∧ InFlight full ph w) (placeOrderWithRetry c ph r)
      fun res w => ∃ o n, res = .ok (o, n) ∧ AllBut [o.id] w ∧ InFlight full ph w := by
  have hsteady : ∀ res : Except (PlaceOrderError × ℕ) (Order × ℕ), Steady (β := β) full fun w =>
      ∃ o n, res = .ok (o, n) ∧ AllBut [o.id] w ∧ InFlight full ph w := by
    rintro res w w' hi ⟨o, n, rfl, hall, hfl⟩
    exact ⟨o, n, rfl, hi.allBut hall, hi.inFlight hfl⟩
  unfold placeOrderWithRetry placeAttempts
  refine FillSpec.bind (submitOrder_spec ha r) fun res => ?_
  cases res with
  | error e =>
    rintro x ⟨_, h, _⟩
    cases h
  | ok handle =>
    refine FillSpec.bind ((getOrder_spec hget ph handle.id).mono ?_) fun res => ?_
    · rintro x ⟨_, h, hw⟩
      cases h
      exact hw
    · cases res with
      | ok o =>
        refine FillSpec.pure (hsteady _) fun w hw => ⟨o, 0, rfl, ?_, hw.2.2⟩
        rw [hw.1 o rfl]
        exact hw.2.1
      | error e => exact FillSpec.pure (hsteady _) fun w hw => ⟨_, 0, rfl, hw.2⟩

/-- A full fill's order is listed even if the entry was cancelled. -/
theorem recordPlacement_lists (hpf : full = true → pf = none) (o : ActualOrder) {e : ExitEntry}
    (he : e.isPending = true ∨ full = true ∧ e.status.isCancelled = true) :
    (recordPlacement o pf e).actualOrders = e.actualOrders ++ [o] := by
  rcases he with hpend | ⟨hfull, hcan⟩
  · exact recordPlacement_actualOrders o pf e hpend
  · rw [ExitEntry.actualOrders_of_isCancelled hcan, hpf hfull]
    unfold ExitEntryStatus.isCancelled at hcan
    split at hcan
    · rename_i hst
      simp [recordPlacement, updateEntryToPlaced, hst, ExitEntry.actualOrders,
        ExitEntryStatus.actualOrders]
    · cases hcan

theorem handleSuccessfulPlacement_spec (e : ExitEntry) (o : Order) (hpf : full = true → pf = none) :
    FillSpec full (fun w => AllBut [o.id] w ∧ InFlight full ph w)
      (handleSuccessfulPlacement (β := β) ph e o pf)
      fun _ w => AllBut [] w ∧ w.placing = some ph := by
  have hsteady : Steady (β := β) full fun w => AllBut [] w ∧ w.placing = some ph :=
    (steady_allBut []).and (steady_placing (some ph))
  refine FillSpec.bind (Q := fun _ w => AllBut [] w ∧ w.placing = some ph)
    (FillSpec.step ((steady_allBut _).and steady_inFlight) (fun _ => hsteady)
      fun w hw _ => ?_) fun _ => FillSpec.pure hsteady fun w hw => hw
  obtain ⟨hall, hpl, e', he', hst⟩ := hw
  have hlists := recordPlacement_lists (o := ⟨o.id, o.quantity, .open, e.orderType⟩) hpf hst
  have hupd : AllBut [o.id] (w.updateEntry ph
      (recordPlacement ⟨o.id, o.quantity, .open, e.orderType⟩ pf)) := by
    refine hall.updateEntry fun e₁ he₁ o' ho' => ?_
    cases he'.symm.trans he₁
    rw [hlists]
    exact List.mem_append_left _ ho'
  refine ⟨fun a ha => .inr ?_, hpl⟩
  rcases hupd a ha with hid | hacc
  · -- the new order is listed at the end
    refine .inr ⟨ph, _, by simp [he']; rfl, ⟨o.id, o.quantity, .open, e.orderType⟩, ?_, ?_⟩
    · rw [hlists]
      exact List.mem_append_right _ List.mem_cons_self
    · exact (List.mem_singleton.mp hid).symm
  · exact hacc

theorem placeExitOrder_spec (ha : c.adapter.AcceptsSubmits) (hget : c.adapter.GetsById)
    (e : ExitEntry) (r : OrderRequest) (hpf : full = true → pf = none) :
    FillSpec full (fun w => AllBut [] w ∧ InFlight full ph w) (placeExitOrder c ph e r pf)
      fun _ w => AllBut [] w ∧ w.placing = some ph := by
  refine FillSpec.bind (placeOrderWithRetry_spec ha hget r) fun res => ?_
  cases res with
  | error err => exact fun x ⟨_, _, h, _⟩ => by cases h
  | ok placed =>
    refine (handleSuccessfulPlacement_spec e placed.1 hpf).mono ?_
    rintro x ⟨o, n, h, hw⟩
    cases h
    exact hw

/-- The handler keeps its orders when a field beside the status changes. -/
theorem calm_updateEntry (hg : ∀ e, (g e).status = e.status)
    (hw : Calm w ∧ ∃ e, w.handler.getEntry ph = some e) :
    Calm (w.updateEntry ph g) ∧ ∃ e, (w.updateEntry ph g).handler.getEntry ph = some e := by
  refine ⟨⟨hw.1.1.updateEntry fun e _ o ho => ?_, hw.1.2⟩, exists_entry_updateEntry hw.2 g⟩
  rw [ExitEntry.actualOrders, hg]
  exact ho

theorem setPlacing_spec :
    FillSpec full (fun w => Calm w ∧ ∃ e, w.handler.getEntry ph = some e)
      (setPlacing (β := β) (some ph)) fun _ w => AllBut [] w ∧ InFlight full ph w := by
  refine FillSpec.step (steady_calm.and steady_exists_entry)
    (fun _ => (steady_allBut _).and steady_inFlight) fun w hw hok => ?_
  obtain ⟨⟨hall, hpl⟩, e, he⟩ := hw
  exact ⟨hall, rfl, e, he, .inl ((hok ph e he).1 rfl (by rw [hpl]; simp))⟩

theorem processEntryFill_spec (ha : c.adapter.AcceptsSubmits) (hget : c.adapter.GetsById)
    (ph : String) (f T : Decimal) (pos : Option Decimal) (pid : Option String) :
    FillSpec (decide (T ≤ f)) Calm (processEntryFill c ph f T pos pid) fun _ => Calm := by
  have hcalm : Steady (β := β) (decide (T ≤ f)) fun w =>
      Calm w ∧ ∃ e, w.handler.getEntry ph = some e := steady_calm.and steady_exists_entry
  have hmodify : ∀ g : ExitEntry → ExitEntry, (∀ e, (g e).status = e.status) →
      FillSpec (decide (T ≤ f)) (fun w => Calm w ∧ ∃ e, w.handler.getEntry ph = some e)
        (modifyHandler (β := β) fun h => h.modifyEntry ph g)
        fun _ w => Calm w ∧ ∃ e, w.handler.getEntry ph = some e :=
    fun g hg => FillSpec.step hcalm (fun _ => hcalm) fun w hw _ => calm_updateEntry hg hw
  have hend : ∀ r : PlacementResult,
      FillSpec (decide (T ≤ f)) (fun w => Calm w ∧ ∃ e, w.handler.getEntry ph = some e)
        (pure r : ExitM β PlacementResult) fun _ => Calm :=
    fun r => FillSpec.pure steady_calm fun w hw => hw.1
  refine FillSpec.bind (Q := fun found w => Calm w ∧
      ∀ e, found = some e → ∃ e, w.handler.getEntry ph = some e)
    (FillSpec.read steady_calm (fun found w w' hi hw => ?_) fun w hw => ⟨hw, fun e he => ⟨e, he⟩⟩)
    fun found => ?_
  · exact ⟨steady_calm w w' hi hw.1, fun e he => hi.exists_entry (hw.2 e he)⟩
  cases hv : validateEntryForFill ph f found with
  | error r => exact FillSpec.pure steady_calm fun w hw => hw.1
  | ok e =>
    obtain ⟨hfound, -⟩ := validateEntryForFill_eq_ok.mp hv
    refine FillSpec.bind ((hmodify (updateLastAttemptedFillQty f) fun _ => rfl).mono
      fun w hw => ⟨hw.1, hw.2 e hfound⟩) fun _ => ?_
    cases hq : calculateExitQuantity c.config ph e f T pos with
    | error r => exact hend r
    | ok q =>
      refine FillSpec.bind (FillSpec.read hcalm (fun _ => hcalm) fun w hw => hw) fun isOpen => ?_
      cases isOpen with
      | true => exact hend _
      | false =>
        have hpos : FillSpec (decide (T ≤ f))
            (fun w => Calm w ∧ ∃ e, w.handler.getEntry ph = some e)
            (recordPositionId (β := β) ph pid)
            fun _ w => Calm w ∧ ∃ e, w.handler.getEntry ph = some e := by
          cases pid with
          | none => exact FillSpec.pure hcalm fun w hw => hw
          | some id => exact hmodify _ fun _ => rfl
        refine FillSpec.bind hpos fun _ => FillSpec.bind setPlacing_spec fun _ => ?_
        refine FillSpec.bind (placeExitOrder_spec ha hget e _ fun hfull => ?_) fun r => ?_
        · exact if_neg (not_lt.mpr (of_decide_eq_true hfull))
        · refine FillSpec.bind (Q := fun _ => Calm)
            (FillSpec.step ((steady_allBut []).and (steady_placing (some ph)))
              (fun _ => steady_calm) fun w hw _ => ⟨hw.1, rfl⟩)
            fun _ => FillSpec.pure steady_calm fun w hw => hw

theorem processEntries_spec (ha : c.adapter.AcceptsSubmits) (hget : c.adapter.GetsById)
    (f T : Decimal) (pos : Option Decimal) (pid : Option String) (phs : List String) :
    FillSpec (decide (T ≤ f)) Calm (processEntries c f T pos pid phs) fun _ => Calm := by
  induction phs with
  | nil => exact FillSpec.pure steady_calm fun w hw => hw
  | cons ph phs ih =>
    exact FillSpec.bind (processEntryFill_spec ha hget ph f T pos pid) fun _ =>
      FillSpec.bind ih fun _ => FillSpec.pure steady_calm fun w hw => hw

/-- The primary order is none of the exit orders, so the fill resolves no pair of legs. -/
theorem handleExitLegFill_spec (id : String) (isFullFill : Bool) :
    FillSpec full (fun w => Calm w ∧ Unlisted id w) (handleExitLegFill c id isFullFill)
      fun r w => r = false ∧ Calm w := by
  refine Spec.bind_read (V := (· = none)) (steady_calm.and (steady_unlisted id)).stable
    (fun _ _ => trivial) (fun x hx => x.1.handler.findEntryByActualOrder_none.mpr hx.2) ?_
  rintro _ rfl
  exact Spec.ret steady_calm.stable.guard fun x hx => ⟨rfl, hx.1⟩

theorem handleUnmatchedFill_spec (id : String) (f T : Decimal) (pos : Option Decimal)
    (pid : Option String) :
    FillSpec full (fun w => Calm w ∧ Unlisted id w) (handleUnmatchedFill c id f T pos pid)
      fun _ => Calm := by
  have hcalm : Steady (β := β) full Calm := steady_calm
  refine Spec.bind_of (handleExitLegFill_spec id _) ?_
  rintro _ rfl
  refine FillSpec.bind (Q := fun _ => Calm) (FillSpec.step hcalm (fun _ => hcalm) fun w hw _ => hw)
    fun _ => FillSpec.bind (FillSpec.read hcalm (fun _ => hcalm) fun w hw => hw) fun pending => ?_
  cases pending with
  | false => exact FillSpec.pure hcalm fun w hw => hw
  | true =>
    refine FillSpec.bind (FillSpec.step hcalm (fun _ => hcalm) fun w hw _ => hw) fun taken => ?_
    cases taken with
    | none => exact FillSpec.pure hcalm fun w hw => hw
    | some fill => exact FillSpec.read hcalm (fun _ => hcalm) fun w hw => hw

theorem handleFill_spec (ha : c.adapter.AcceptsSubmits) (hget : c.adapter.GetsById) (id : String)
    (f T : Decimal) (pos : Option Decimal) (pid : Option String) :
    FillSpec (decide (T ≤ f)) (fun w => Calm w ∧ Unlisted id w) (handleFill c id f T pos pid)
      fun _ => Calm := by
  have hpre : Steady (β := β) (decide (T ≤ f)) fun w => Calm w ∧ Unlisted id w :=
    steady_calm.and (steady_unlisted id)
  refine FillSpec.locked ?_
  by_cases hq : (decide (f ≤ 0) || decide (T ≤ 0)) = true
  · rw [if_pos hq]
    exact FillSpec.pure steady_calm fun w hw => hw.1
  · rw [if_neg hq]
    refine FillSpec.bind (FillSpec.read hpre (fun _ => hpre) fun w hw => hw) fun phs => ?_
    by_cases hphs : phs.isEmpty = true
    · rw [if_pos hphs]
      exact FillSpec.bind (handleUnmatchedFill_spec id f T pos pid) fun reclaimed =>
        processEntries_spec ha hget f T pos pid reclaimed
    · rw [if_neg hphs]
      exact (processEntries_spec ha hget f T pos pid phs).mono fun w hw => hw.1

end fill

/-! ## The cancellation -/

/-- Every step of the task is one that the fill expects. -/
def CancelSpec (full : Bool) (t : ExitM β α) : Prop :=
  Routine.Spec (fun o w => KeepsListed full w (o.run w).2) (fun _ _ => True)
    (fun x y : World β × Unit => Interferes full x.1 y.1) (fun _ => True) t fun _ _ => True

section cancel

variable {full : Bool}

theorem Interferes.refl (w : World β) : Interferes full w w :=
  ⟨rfl, fun _ h => h, rfl, fun _ => .inl rfl⟩

theorem CancelSpec.pure (a : α) : CancelSpec (β := β) full (pure a) :=
  Spec.ret (fun _ _ _ h => h) fun _ h => h

theorem CancelSpec.step {f : World β → α × World β}
    (h : ∀ w, KeepsListed full w (f w).2 → Interferes full w (f w).2) :
    CancelSpec full (Routine.step f) :=
  Spec.step (fun _ _ _ h => h) (fun _ _ _ _ h => h) fun w _ _ hok => ⟨(), h w hok, trivial⟩

theorem CancelSpec.cancelOrder (id : String) : CancelSpec full (cancelOrder c id) := by
  refine Spec.call (fun _ _ _ h => h) (fun _ _ _ _ h => h)
    fun w _ _ _ => ⟨(), ?_, trivial⟩
  cases hc : c.adapter.cancelOrder id w.broker with
  | mk res b =>
    cases res with
    | ok r => exact ⟨rfl, List.subset_append_left _ _, rfl, fun _ => .inl rfl⟩
    | error e => exact ⟨rfl, fun _ h => h, rfl, fun _ => .inl rfl⟩

theorem Interferes.mark {w : World β} {ph : String} {reason : CancellationReason}
    (hok : KeepsListed full w (w.updateEntry ph fun e => e.setStatus (.cancelled reason))) :
    Interferes full w (w.updateEntry ph fun e => e.setStatus (.cancelled reason)) := by
  refine ⟨rfl, fun _ h => h, rfl, fun k => ?_⟩
  by_cases hk : k = ph
  · subst hk
    cases he : w.handler.getEntry k with
    | none =>
      refine .inl ?_
      simp [World.updateEntry, he]
    | some e =>
      have he' : (w.updateEntry k fun e => e.setStatus (.cancelled reason)).handler.getEntry k =
          some (e.setStatus (.cancelled reason)) := by
        simp [World.updateEntry, he]
      refine .inr ⟨e, _, rfl, he', rfl, ?_⟩
      cases hcan : e.status.isCancelled with
      | true => exact .inl rfl
      | false => exact .inr ((hok k e he).2 _ he' hcan rfl)
  · exact .inl (w.handler.getEntry_modifyEntry_ne _ hk)

theorem CancelSpec.cancelPendingEntries (phs : List String) :
    CancelSpec (β := β) full (cancelPendingEntries phs) := by
  induction phs with
  | nil => exact CancelSpec.pure _
  | cons ph phs ih =>
    refine Spec.bind (CancelSpec.step fun w hok => ?_) fun _ =>
      Spec.bind ih fun _ => CancelSpec.pure _
    cases he : w.handler.getEntry ph with
    | none => exact .refl w
    | some e =>
      simp only [he] at hok ⊢
      by_cases hp : e.isPending = true
      · simp only [hp, if_true] at hok ⊢
        exact Interferes.mark hok
      · simp only [hp] at hok ⊢
        exact .refl w

theorem CancelSpec.closeEntries (entries : List (String × List ActualOrder)) :
    CancelSpec full (closeEntries c entries) := by
  induction entries with
  | nil => exact CancelSpec.pure _
  | cons entry entries ih =>
    have horders : ∀ os : List ActualOrder, CancelSpec full (cancelOrders c os) := by
      intro os
      induction os with
      | nil => exact CancelSpec.pure _
      | cons o os ih => exact Spec.bind (CancelSpec.cancelOrder o.orderId) fun _ => ih
    refine Spec.bind (horders entry.2) fun _ => Spec.bind
      (CancelSpec.step fun w hok => ?_) fun _ => Spec.bind ih fun _ => CancelSpec.pure _
    cases he : w.handler.getEntry entry.1 with
    | none => exact .refl w
    | some e =>
      simp only [he] at hok ⊢
      exact Interferes.mark hok

theorem CancelSpec.handleCancellation (p : String) :
    CancelSpec (β := β) full (handleCancellationInternal p) := by
  refine Spec.bind (CancelSpec.step fun w _ => ⟨rfl, fun _ h => h, rfl, fun k => ?_⟩)
    fun phs => CancelSpec.cancelPendingEntries phs
  exact .inl (w.handler.getEntry_dropPrimary p k)

theorem CancelSpec.cancelForPositionClose (symbol : String) :
    CancelSpec full (cancelForPositionCloseInternal c symbol) :=
  Spec.bind (CancelSpec.step fun w _ => .refl w) fun entries =>
    CancelSpec.closeEntries entries

end cancel

/-! ## The race -/

inductive RaceTask where
  | fill
  | cancel
  deriving DecidableEq, Repr

instance : Fintype RaceTask := ⟨{.fill, .cancel}, fun t => by cases t <;> decide⟩

inductive CancelCall where
  | positionClose (symbol : String)
  | primary (primaryOrderId : String)

/-- `cancel_for_position_close` or `handle_cancellation`. -/
def CancelCall.code (c : Ctx β) : CancelCall → ExitM β (List CancelledExitInfo)
  | positionClose symbol => cancelForPositionCloseInternal c symbol
  | primary primaryOrderId => handleCancellationInternal primaryOrderId

/-- A fill of `id` and a cancellation, from the world `w`. -/
def cancelRace (c : Ctx β) (id : String) (f T : Decimal) (pos : Option Decimal)
    (pid : Option String) (call : CancelCall) (w : World β) : Conf RaceTask (World β) where
  task
    | .fill => handleFill c id f T pos pid >>= fun _ => pure ()
    | .cancel => call.code c >>= fun _ => pure ()
  holder := none
  state := w

/-- Each step of the race keeps the orders listed. -/
def RaceOk (f T : Decimal) (_ : RaceTask) (o : Routine.Op (World β)) (w : World β) : Prop :=
  KeepsListed (decide (T ≤ f)) w (o.run w).2

/-- The order is listed in a tracked entry that is neither cancelled nor expired. -/
def World.Held (w : World β) (orderId : String) : Prop :=
  ∃ ph e, w.handler.getEntry ph = some e ∧ e.status.isCancelled = false ∧ e.status ≠ .expired ∧
    ∃ o ∈ e.actualOrders, o.orderId = orderId

theorem World.Tracked.held {w : World β} {orderId : String} (h : w.Tracked orderId) :
    w.Held orderId := by
  obtain ⟨ph, e, he, o, ho, hid⟩ := h
  refine ⟨ph, e, he, ?_, fun hst => ?_, o, ho, hid⟩
  · by_contra hcan
    rw [ExitEntry.actualOrders_of_isCancelled (by simpa using hcan)] at ho
    cases ho
  · simp [ExitEntry.actualOrders, ExitEntryStatus.actualOrders, hst] at ho

/-- The fill relies on what the cancellation does; the cancellation relies on nothing. -/
def raceRely (full : Bool) : RaceTask → World β × Unit → World β × Unit → Prop
  | .fill, x, y => Interferes full x.1 y.1
  | .cancel, _, _ => True

def raceGuarantee (full : Bool) : RaceTask → World β × Unit → World β × Unit → Prop
  | .fill, _, _ => True
  | .cancel, x, y => Interferes full x.1 y.1

def racePost : RaceTask → World β × Unit → Prop
  | .fill, x => Calm x.1
  | .cancel, _ => True

theorem raceGuarantee_rely (full : Bool) (i j : RaceTask) (hne : i ≠ j) (x y : World β × Unit)
    (h : raceGuarantee full i x y) : raceRely full j x y := by
  cases i <;> cases j
  · exact absurd rfl hne
  · trivial
  · exact h
  · exact absurd rfl hne

theorem cancelRace_safe (ha : c.adapter.AcceptsSubmits) (hget : c.adapter.GetsById) {w : World β}
    {id : String} (hw : Calm w ∧ Unlisted id w) (f T : Decimal) (pos : Option Decimal)
    (pid : Option String) (call : CancelCall) :
    (cancelRace c id f T pos pid call w).Safe (RaceOk f T) (raceRely (decide (T ≤ f)))
      (raceGuarantee (decide (T ≤ f))) racePost () := by
  intro task
  cases task with
  | fill =>
    have hcode : FillSpec (decide (T ≤ f)) (fun w => Calm w ∧ Unlisted id w)
        (handleFill c id f T pos pid >>= fun _ => pure ()) fun _ => Calm :=
      FillSpec.bind (handleFill_spec ha hget id f T pos pid) fun _ =>
        FillSpec.pure steady_calm fun w hw => hw
    exact hcode (w, ()) hw
  | cancel =>
    have hcode : CancelSpec (decide (T ≤ f)) (call.code c) := by
      cases call with
      | positionClose symbol => exact CancelSpec.cancelForPositionClose symbol
      | primary p => exact CancelSpec.handleCancellation p
    exact Spec.bind hcode (fun _ => CancelSpec.pure ()) (w, ()) trivial

/-- No accepted exit order escapes: when both tasks have ended, each is cancelled at the provider or
held by an entry. -/
theorem no_exit_escapes (ha : c.adapter.AcceptsSubmits) (hget : c.adapter.GetsById) {w : World β}
    (hw : ∀ a ∈ w.accepted, w.Accounts a.orderId) (hidle : w.placing = none) {id : String}
    (hid : Unlisted id w) (f T : Decimal) (pos : Option Decimal) (pid : Option String)
    (call : CancelCall) (sched : List RaceTask)
    (hg : Run.Guarded Conf.step (Conf.Permits (RaceOk f T)) (cancelRace c id f T pos pid call w)
      sched)
    (hend : (Run.exec Conf.step (cancelRace c id f T pos pid call w) sched).Ended) :
    ∀ w', w' = (Run.exec Conf.step (cancelRace c id f T pos pid call w) sched).state →
      ∀ a ∈ w'.accepted, a.orderId ∈ w'.cancelled ∨ w'.Held a.orderId := by
  rintro w' rfl a hacc
  have hsafe := cancelRace_safe ha hget ⟨⟨fun a ha => .inr (hw a ha), hidle⟩, hid⟩ f T pos pid call
  obtain ⟨_, hposts⟩ := Conf.ended_spec (raceGuarantee_rely _) hsafe hg hend
  have hcalm : Calm _ := hposts .fill
  rcases hcalm.1 a hacc with h | h | h
  · cases h
  · exact .inl h
  · exact .inr h.held

instance (full : Bool) (w w' : World β) : Decidable (KeepsListed full w w') :=
  decidable_of_iff (∀ b ∈ w.handler.pendingByPlaceholder.toList,
      (w'.placing = some b.1 → w.placing ≠ some b.1 → b.2.isPending = true) ∧
      ∀ e' ∈ w'.handler.getEntry b.1, b.2.status.isCancelled = false →
        e'.status.isCancelled = true →
        (∀ o ∈ b.2.actualOrders, o.orderId ∈ w.cancelled) ∧
          (w.placing = some b.1 → full = true)) <| by
    simp only [Prod.forall, Table.mem_toList]
    rfl

instance (f T : Decimal) (i : RaceTask) (o : Routine.Op (World β)) (w : World β) :
    Decidable (RaceOk f T i o w) :=
  inferInstanceAs (Decidable (KeepsListed _ _ _))

instance (w : World β) (orderId : String) : Decidable (w.Held orderId) :=
  decidable_of_iff (∃ b ∈ w.handler.pendingByPlaceholder.toList,
      b.2.status.isCancelled = false ∧ b.2.status ≠ .expired ∧
      ∃ o ∈ b.2.actualOrders, o.orderId = orderId) <| by
    simp only [Prod.exists, Table.mem_toList]
    rfl

/-- A world with the two legs of one registered order. -/
def raceStart : World (List (String × OrderRequest)) :=
  ((register .simulated "p" sampleBracket).run (World.initial {} [])).2

/-- The fill has submitted the stop-loss order and waits for its details, then the primary order is
cancelled, then the fill goes on. -/
def raceSchedule : List RaceTask :=
  List.replicate 7 .fill ++ List.replicate 3 .cancel ++ List.replicate 6 .fill

theorem simulated_getsById : TradingAdapter.simulated.GetsById := by
  intro id b o b' h
  cases hl : b.lookup id with
  | none => simp [TradingAdapter.simulated, hl] at h
  | some r =>
    simp only [TradingAdapter.simulated, hl, Prod.mk.injEq, Except.ok.injEq] at h
    rw [← h.1]
    rfl

/-- A full fill: its order is held although the entry was marked cancelled meanwhile. -/
theorem no_exit_escapes_full_fill :
    (Run.exec Conf.step (cancelRace .simulated "p" 10 10 none none (.primary "p") raceStart)
      raceSchedule).state.Held "o0" := by
  have hacc : ∃ a ∈ (Run.exec Conf.step (cancelRace .simulated "p" 10 10 none none (.primary "p")
      raceStart) raceSchedule).state.accepted, a.orderId = "o0" := by decide +kernel
  obtain ⟨a, ha, hid⟩ := hacc
  have hstart : raceStart.accepted = [] := by decide +kernel
  have hout := no_exit_escapes TradingAdapter.simulated_acceptsSubmits simulated_getsById
    (w := raceStart) (by simp [hstart]) rfl
    (raceStart.handler.findEntryByActualOrder_none.mp (by decide +kernel)) 10 10 none none
    (.primary "p") raceSchedule (by decide +kernel) (by decide +kernel) _ rfl a ha
  rw [hid] at hout
  exact hout.resolve_left (by decide +kernel)

/-- A partial fill: the entry is marked cancelled between the submission and the recording of the
order, at a call that the fill awaits, and nothing lists the live order any more. -/
theorem cancelled_in_flight :
    let race := cancelRace .simulated "p" 4 10 none none (.primary "p") raceStart
    let w := (Run.exec Conf.step race raceSchedule).state
    ((Run.exec Conf.step race (List.replicate 7 .fill)).task .fill).awaits = true ∧
      (Run.exec Conf.step race raceSchedule).Ended ∧
      w.accepted.map AcceptedOrder.orderId = ["o0"] ∧ "o0" ∉ w.cancelled ∧ ¬ w.Held "o0" := by
  decide +kernel

end Exit

end Gateway
