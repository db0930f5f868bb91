import TradingGateway.Lib.Run
import TradingGateway.Exit.Registration

/-!
# The limit on tracked entries

`register` compares the number of tracked entries with `max_pending_entries` once, before it inserts
up to two of them.

* `Adds`: what a registration that succeeds adds to the two maps. A registration that fails leaves
  the world as it was.
* `Overfills`: one place is left and the call inserts two entries. A run of registrations stays
  within the limit exactly if no call overfills.
-/

namespace Gateway.Exit

variable {β : Type} {c : Ctx β}

/-- The price of a leg, if the order asks for the leg. -/
def legPrice (order : OrderRequest) : ExitLegType → Option Decimal
  | .stopLoss => order.stopLoss
  | .takeProfit => order.takeProfit

/-- The legs that the order asks for. -/
def requestedLegs (order : OrderRequest) : List ExitLegType :=
  [.stopLoss, .takeProfit].filter fun leg => (legPrice order leg).isSome

/-- Neither map has anything for the primary order or at the placeholders of its legs. -/
structure ExitHandler.Unregistered (h : ExitHandler) (p : String) : Prop where
  entry : ∀ leg, h.getEntry (generatePlaceholderId leg p) = none
  index : h.pendingByPrimary.get p = none

/-- `h'` is `h` with one pending entry for each leg that the order asks for, and nothing else. -/
structure Adds (p : String) (order : OrderRequest) (h h' : ExitHandler) : Prop where
  leg : ∀ leg price, legPrice order leg = some price →
    ∃ e, h'.getEntry (generatePlaceholderId leg p) = some e ∧
      e.placeholderId = generatePlaceholderId leg p ∧ e.primaryOrderId = p ∧
      e.orderType = leg ∧ e.triggerPrice = price ∧ e.quantity = order.quantity ∧
      e.status = .pending ∧
      -- the two legs of a pair point at each other
      e.siblingId = (legPrice order leg.other).map fun _ => generatePlaceholderId leg.other p
  rest : ∀ k, (∀ leg ∈ requestedLegs order, k ≠ generatePlaceholderId leg p) →
    h'.getEntry k = h.getEntry k
  index : h'.getPlaceholdersForPrimary p =
    (requestedLegs order).map fun leg => generatePlaceholderId leg p
  indexRest : ∀ q, q ≠ p → h'.pendingByPrimary.get q = h.pendingByPrimary.get q
  len : h'.pendingByPlaceholder.len =
    h.pendingByPlaceholder.len + (requestedLegs order).length

/-- `register` fails and leaves the world as it was, or adds all legs that the order asks for and
answers with their ids. -/
def RegistersAll (c : Ctx β) (p : String) (order : OrderRequest) (w : World β) : Prop :=
  match (register c p order).run w with
  | (.error _, w') => w' = w
  | (.ok legs, w') =>
    legs.stopLossId = order.stopLoss.map (fun _ => generatePlaceholderId .stopLoss p) ∧
      legs.takeProfitId = order.takeProfit.map (fun _ => generatePlaceholderId .takeProfit p) ∧
      Adds p order w.handler w'.handler

/-! ## The number of entries after an insertion -/

theorem ExitHandler.len_insertEntryInner (h : ExitHandler) (e : ExitEntry) :
    (h.insertEntryInner e).pendingByPlaceholder.len +
        (h.getEntry e.placeholderId).isSome.toNat =
      h.pendingByPlaceholder.len + 1 := h.pendingByPlaceholder.len_insert ..

@[simp] theorem ExitHandler.len_linkLegs (h : ExitHandler) (slId tpId : String) :
    (h.linkLegs slId tpId).pendingByPlaceholder.len = h.pendingByPlaceholder.len := by
  simp [linkLegs, modifyEntry]

theorem ExitHandler.len_registerPair (h : ExitHandler) (p : String) (order : OrderRequest)
    (sl tp : Decimal) (now : Instant) :
    (h.registerPair c p order sl tp now).pendingByPlaceholder.len +
        (h.getEntry (generatePlaceholderId .stopLoss p)).isSome.toNat +
        (h.getEntry (generatePlaceholderId .takeProfit p)).isSome.toNat =
      h.pendingByPlaceholder.len + 2 := by
  have h₁ := h.len_insertEntryInner (legEntry c p order .stopLoss sl now)
  have h₂ := (h.insertEntryInner (legEntry c p order .stopLoss sl now)).len_insertEntryInner
    (legEntry c p order .takeProfit tp now)
  rw [getEntry_insertEntryInner, legEntry_placeholderId, legEntry_placeholderId,
    if_neg (stopLossId_ne_takeProfitId p).symm] at h₂
  rw [legEntry_placeholderId] at h₁
  rw [registerPair, len_linkLegs]
  omega

/-! ## All or nothing -/

variable {p : String} {sl tp : Decimal} {w : World β} {h : ExitHandler}

theorem adds_nothing {order : OrderRequest} (hnew : h.Unregistered p)
    (hsl : order.stopLoss = none) (htp : order.takeProfit = none) : Adds p order h h where
  leg leg price hprice := by
    cases leg
    · exact absurd (hsl.symm.trans hprice) (by simp)
    · exact absurd (htp.symm.trans hprice) (by simp)
  rest _ _ := rfl
  index := by
    simp [requestedLegs, legPrice, hsl, htp, ExitHandler.getPlaceholdersForPrimary, hnew.index]
  indexRest _ _ := rfl
  len := by simp [requestedLegs, legPrice, hsl, htp]

theorem adds_leg {order : OrderRequest} (hnew : h.Unregistered p) {leg : ExitLegType}
    {price : Decimal} (hleg : legPrice order leg = some price)
    (hother : legPrice order leg.other = none) (now : Instant) :
    Adds p order h (h.insertEntryInner (legEntry c p order leg price now)) := by
  have hreq : requestedLegs order = [leg] := by
    cases leg <;> simp_all [requestedLegs, legPrice, ExitLegType.other]
  constructor
  · intro leg' price' hprice'
    obtain rfl : leg' = leg := by
      have hmem : leg' ∈ requestedLegs order := by
        cases leg' <;> simp [requestedLegs, hprice']
      rwa [hreq, List.mem_singleton] at hmem
    obtain rfl : price = price' := Option.some.inj (hleg.symm.trans hprice')
    refine ⟨_, by rw [ExitHandler.getEntry_insertEntryInner]; exact if_pos rfl, rfl, rfl, rfl, rfl,
      rfl, rfl, ?_⟩
    rw [hother]
    rfl
  · intro k hk
    rw [ExitHandler.getEntry_insertEntryInner]
    exact if_neg (hk leg (by simp [hreq]))
  · rw [ExitHandler.getPlaceholdersForPrimary_insertEntryInner, hreq]
    simp [ExitHandler.getPlaceholdersForPrimary, hnew.index]
  · intro q hq
    rw [ExitHandler.get_pendingByPrimary_insertEntryInner]
    exact if_neg hq
  · have hlen := h.len_insertEntryInner (legEntry c p order leg price now)
    rw [legEntry_placeholderId, hnew.entry leg] at hlen
    simpa [hreq] using hlen

theorem adds_pair {order : OrderRequest} (hnew : h.Unregistered p)
    (hsl : order.stopLoss = some sl) (htp : order.takeProfit = some tp) (now : Instant) :
    Adds p order h (h.registerPair c p order sl tp now) := by
  have hne := stopLossId_ne_takeProfitId p
  have hreq : requestedLegs order = [.stopLoss, .takeProfit] := by
    simp [requestedLegs, legPrice, hsl, htp]
  have hins := h.inserts_pair (c := c) p order sl tp now
  constructor
  · intro leg price hprice
    cases leg with
    | stopLoss =>
      obtain rfl : sl = price := Option.some.inj (hsl.symm.trans hprice)
      have hget := (h.getEntry_registerPair (c := c) p order sl tp now _).trans (if_pos rfl)
      refine ⟨_, hget, rfl, rfl, rfl, rfl, rfl, rfl, ?_⟩
      simp [legPrice, ExitLegType.other, htp, ExitEntry.setSibling]
    | takeProfit =>
      obtain rfl : tp = price := Option.some.inj (htp.symm.trans hprice)
      have hget := (h.getEntry_registerPair (c := c) p order sl tp now _).trans
        ((if_neg hne.symm).trans (if_pos rfl))
      refine ⟨_, hget, rfl, rfl, rfl, rfl, rfl, rfl, ?_⟩
      simp [legPrice, ExitLegType.other, hsl, ExitEntry.setSibling]
  · intro k hk
    refine hins.old k ?_
    rw [List.mem_pair, not_or]
    exact ⟨hk .stopLoss (by simp [hreq]), hk .takeProfit (by simp [hreq])⟩
  · rw [hins.placeholders, if_pos rfl, hreq]
    simp [ExitHandler.getPlaceholdersForPrimary, hnew.index]
  · intro q hq
    rw [hins.index, if_neg hq]
  · have hlen := h.len_registerPair (c := c) p order sl tp now
    rw [hnew.entry, hnew.entry] at hlen
    simpa [hreq] using hlen

theorem registersAll (hnew : w.handler.Unregistered p) (order : OrderRequest) :
    RegistersAll c p order w := by
  have hstep := run_register (c := c) p order w
  unfold RegistersAll
  generalize (register c p order).run w = r at hstep
  obtain ⟨r, w'⟩ := r
  cases hstep with
  | refused e => rfl
  | empty hsl htp => exact ⟨by rw [hsl]; rfl, by rw [htp]; rfl, adds_nothing hnew hsl htp⟩
  | one leg legs hlegs hleg =>
    subst hlegs
    cases leg with
    | stopLoss =>
      refine ⟨by rw [hleg.1]; rfl, by rw [hleg.2]; rfl, ?_⟩
      have hprice : legPrice order .stopLoss = some _ := hleg.1
      exact adds_leg hnew hprice hleg.2 _
    | takeProfit =>
      refine ⟨by rw [hleg.2]; rfl, by rw [hleg.1]; rfl, ?_⟩
      have hprice : legPrice order .takeProfit = some _ := hleg.1
      exact adds_leg hnew hprice hleg.2 _
  | both hsl htp => exact ⟨by rw [hsl]; rfl, by rw [htp]; rfl, adds_pair hnew hsl htp _⟩

/-! ## The limit along a run -/

/-- A registration, with the provider's state when it is made. `uuid` is the identifier that
`register_preemptive` draws. -/
inductive RegisterCall (β : Type) where
  | register (p : String) (order : OrderRequest) (b : β)
  | preemptive (uuid : String) (order : OrderRequest) (b : β)

namespace RegisterCall

/-- The primary order id that the entries are registered under. -/
def primary : RegisterCall β → String
  | register p _ _ => p
  | preemptive uuid _ _ => "backup:" ++ uuid

def order : RegisterCall β → OrderRequest
  | register _ order _ | preemptive _ order _ => order

def broker : RegisterCall β → β
  | register _ _ b | preemptive _ _ b => b

/-- The world after the call. -/
def step (c : Ctx β) (w : World β) : RegisterCall β → World β
  | register p order b => ((Exit.register c p order).run { w with broker := b }).2
  | preemptive uuid order b => ((registerPreemptive c uuid order).run { w with broker := b }).2

theorem step_eq (w : World β) (call : RegisterCall β) :
    call.step c w =
      ((Exit.register c call.primary call.order).run { w with broker := call.broker }).2 := by
  cases call with
  | register p order b => rfl
  | preemptive uuid order b =>
    simp only [step, registerPreemptive, Routine.run_bind, primary, RegisterCall.order, broker]
    cases ((Exit.register c ("backup:" ++ uuid) order).run { w with broker := b }).1 <;> rfl

end RegisterCall

/-- One place is left, and two legs are registered whose prices pass the check, both of them new. -/
def Overfills (c : Ctx β) (w : World β) (p : String) (order : OrderRequest) : Prop :=
  w.handler.pendingByPlaceholder.len + 1 = c.config.maxPendingEntries ∧
    validateExitPrices order = .ok () ∧
    ∀ leg, (legPrice order leg).isSome ∧
      w.handler.getEntry (generatePlaceholderId leg p) = none

/-- The tracked entries are within the limit. -/
def WithinLimit (c : Ctx β) (w : World β) : Prop :=
  w.handler.pendingByPlaceholder.len ≤ c.config.maxPendingEntries

instance (w : World β) : Decidable (WithinLimit c w) := inferInstanceAs (Decidable (_ ≤ _))

theorem register_of_full {order : OrderRequest}
    (h : w.handler.pendingByPlaceholder.len ≥ c.config.maxPendingEntries) :
    ((register c p order).run w).2 = w := by
  simp only [register, Routine.run_bind, run_readHandler, h, if_true]
  rfl

/-- Two legs are registered if a place is left and their prices pass the check, else none. -/
theorem register_both {order : OrderRequest}
    (h : w.handler.pendingByPlaceholder.len < c.config.maxPendingEntries)
    (hsl : order.stopLoss = some sl) (htp : order.takeProfit = some tp) :
    ((register c p order).run w).2 =
      match validateExitPrices order with
      | .ok () =>
        { w with handler := w.handler.registerPair c p order sl tp (c.adapter.now w.broker) }
      | .error _ => w := by
  have hroom : ¬ w.handler.pendingByPlaceholder.len ≥ c.config.maxPendingEntries := not_le.mpr h
  simp only [register, Routine.run_bind, run_readHandler, hroom, if_false, hsl, htp]
  cases validateExitPrices order with
  | error e => rfl
  | ok _ =>
    simp [run_registerLeg, linkSiblings, ExitHandler.registerPair, ExitHandler.linkLegs,
      stopLossId_lt_takeProfitId]

section

variable {p : String} {order : OrderRequest} {w : World β}

/-- A registration that overfills passes the limit by one. -/
theorem Overfills.register (h : Overfills c w p order) :
    ¬ WithinLimit c ((register c p order).run w).2 := by
  obtain ⟨hlen, hvalid, hlegs⟩ := h
  obtain ⟨sl, hsl⟩ := Option.isSome_iff_exists.mp (hlegs .stopLoss).1
  obtain ⟨tp, htp⟩ := Option.isSome_iff_exists.mp (hlegs .takeProfit).1
  have hroom : w.handler.pendingByPlaceholder.len < c.config.maxPendingEntries := by omega
  have hpair := w.handler.len_registerPair (c := c) p order sl tp (c.adapter.now w.broker)
  rw [(hlegs .stopLoss).2, (hlegs .takeProfit).2] at hpair
  rw [WithinLimit, register_both hroom hsl htp, hvalid]
  simp only [Option.isSome_none, Bool.toNat_false] at hpair
  show ¬ _ ≤ c.config.maxPendingEntries
  dsimp only
  omega

theorem withinLimit_pair (hroom : w.handler.pendingByPlaceholder.len < c.config.maxPendingEntries)
    {sl tp : Decimal} (hsl : order.stopLoss = some sl) (htp : order.takeProfit = some tp)
    (h : ¬ Overfills c w p order) : WithinLimit c ((register c p order).run w).2 := by
  rw [register_both hroom hsl htp]
  cases hvalid : validateExitPrices order with
  | error e => exact hroom.le
  | ok _ =>
    have hlen := w.handler.len_registerPair (c := c) p order sl tp (c.adapter.now w.broker)
    by_contra hover
    have hover' := not_le.mp hover
    dsimp only at hover'
    refine h ⟨by omega, hvalid, fun leg => ?_⟩
    have hnone (o : Option ExitEntry) (ho : o.isSome.toNat = 0) : o = none := by
      simpa using ho
    cases leg with
    | stopLoss => exact ⟨by rw [legPrice, hsl]; rfl, hnone _ (by omega)⟩
    | takeProfit => exact ⟨by rw [legPrice, htp]; rfl, hnone _ (by omega)⟩

theorem withinLimit_register (hw : WithinLimit c w) (h : ¬ Overfills c w p order) :
    WithinLimit c ((register c p order).run w).2 := by
  rcases Nat.lt_or_eq_of_le hw with hroom | hfull
  · have hstep := run_register (c := c) p order w
    generalize hrun : (register c p order).run w = r at hstep
    obtain ⟨r, w'⟩ := r
    cases hstep with
    | refused e => exact hw
    | empty => exact hw
    | @one leg price =>
      have hlen := w.handler.len_insertEntryInner
        (legEntry c p order leg price (c.adapter.now w.broker))
      show _ ≤ c.config.maxPendingEntries
      dsimp only
      omega
    | both hsl htp =>
      have hpair := withinLimit_pair hroom hsl htp h
      rwa [hrun] at hpair
  · rw [register_of_full hfull.ge]
    exact hw

end

/-- Registration is all or nothing, but the limit on entries holds only along the runs in which
no order with two legs is registered when a single place is left. -/
theorem registration_atomic_bounded {w : World β} (hw : WithinLimit c w) :
    (∀ p order, w.handler.Unregistered p → RegistersAll c p order w) ∧
      ∀ calls : List (RegisterCall β),
        (∀ calls', calls' <+: calls → WithinLimit c (Run.exec (RegisterCall.step c) w calls')) ↔
          Run.Guarded (RegisterCall.step c) (fun w call => ¬ Overfills c w call.primary call.order)
            w calls := by
  refine ⟨fun p order hnew => registersAll hnew order, fun calls => ?_⟩
  refine Run.forall_prefix_iff_guarded_all (I := WithinLimit c) (fun _ h => h) ?_ ?_ hw calls
  · intro w call hw hok
    rw [call.step_eq]
    exact withinLimit_register hw hok
  · intro w call _ hbad
    rw [call.step_eq]
    exact Overfills.register (not_not.mp hbad)

/-- A handler that may track three entries. -/
def threePlaces : Ctx (List (String × OrderRequest)) :=
  ⟨{ maxPendingEntries := 3 }, .mock, .simulated⟩

/-- Two legs and one more fit in three places. -/
theorem registration_atomic_bounded_threePlaces :
    RegistersAll threePlaces "p" sampleBracket (World.initial {} []) ∧
      WithinLimit threePlaces (Run.exec (RegisterCall.step threePlaces) (World.initial {} [])
        [.register "p" sampleBracket [],
          .preemptive "u" { sampleBracket with takeProfit := none } []]) := by
  have hw : WithinLimit threePlaces (World.initial {} []) := by decide
  refine ⟨(registration_atomic_bounded hw).1 _ _ ⟨fun _ => rfl, rfl⟩, ?_⟩
  refine ((registration_atomic_bounded hw).2 [_, _]).mpr ⟨?_, ?_, trivial⟩ _ List.prefix_rfl
  · rintro ⟨hlen, -⟩
    revert hlen
    decide
  · rintro ⟨-, -, hlegs⟩
    have htp := (hlegs .takeProfit).1
    cases htp

/-- The second bracket takes the last place and one more. -/
theorem registration_passes_limit :
    WithinLimit threePlaces (World.initial {} []) ∧
      ¬ WithinLimit threePlaces (Run.exec (RegisterCall.step threePlaces) (World.initial {} [])
        [.register "p" sampleBracket [], .register "q" sampleBracket []]) := by
  decide +kernel

end Gateway.Exit
