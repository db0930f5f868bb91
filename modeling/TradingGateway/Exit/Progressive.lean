import TradingGateway.Exit.Registration
import TradingGateway.Exit.Steps
import TradingGateway.Lib.Run

/-!
# Progressive placement

A leg that is registered for a primary order follows its fills: after every fill event, its active
orders cover the largest fill seen so far, up to the total and up to the minimum order quantity. The
events may come in any order and any number of times.

* `fills_cover_leg`: the result, for every run of fill events.
-/

namespace Gateway.Exit

variable {β : Type} {c : Ctx β}

/-! ## The invariant of an entry -/

/-- The quantity that the entry's active orders cover. -/
def ExitEntry.coverage (e : ExitEntry) : Decimal :=
  calculateActiveCoverage e.actualOrders e.orderType

/-- The entry has seen fills up to `m` out of `T` (`m = 0`: none yet). -/
structure Tracks (d T m : Decimal) (e : ExitEntry) : Prop where
  live : e.status.isTerminal = false
  last : e.lastAttemptedFillQty = if m = 0 then none else some m
  le : e.coverage ≤ min T m
  gap : min T m - e.coverage < d
  /-- A leg is `Placed` only by a full fill. -/
  full : ∀ os, e.status = .placed os → T ≤ m

section entry

variable {d T m f : Decimal} {e : ExitEntry}

theorem Tracks.eligible_iff (h : Tracks d T m e) (hf : 0 < f) :
    Eligible f e ↔ m < f := by
  unfold Eligible
  rw [h.last]
  constructor
  · rintro ⟨-, hlast⟩
    by_cases hm0 : m = 0
    · rwa [hm0]
    · exact hlast m (by simp [hm0])
  · intro hmf
    refine ⟨h.live, fun last hlast => ?_⟩
    by_cases hm0 : m = 0
    · simp [hm0] at hlast
    · simp only [hm0, if_false, Option.some.injEq] at hlast
      rwa [← hlast]

/-- Without a position quantity, a fill that goes on is covered up to the total. -/
theorem targetQty_eq_min (f T : Decimal) : targetQty f T none = min T f := by
  unfold targetQty
  split
  · rename_i h; exact (min_eq_right h.le).symm
  · rename_i h; exact (min_eq_left (not_lt.mp h)).symm

theorem Tracks.start (hd : 0 < d) (hT : 0 < T) (hst : e.status = .pending)
    (hlast : e.lastAttemptedFillQty = none) : Tracks d T 0 e := by
  have hcov : e.coverage = 0 := by
    simp [ExitEntry.coverage, ExitEntry.actualOrders, hst, ExitEntryStatus.actualOrders]
  refine ⟨by rw [hst]; rfl, by simpa using hlast, ?_, ?_, fun os hos => ?_⟩
  · rw [hcov, min_eq_right hT.le]
  · rwa [hcov, min_eq_right hT.le, sub_zero]
  · rw [hst] at hos
    cases hos

/-- What is still to be placed is below the minimum: the fill counts as seen. -/
theorem Tracks.deferred (h : Tracks d T m e) (hm : 0 ≤ m) (hmf : m < f)
    (hq : qtyToPlace f T none e < d) : Tracks d T f (e.attempted f none) where
  live := h.live
  last := by simp [ExitEntry.attempted, (lt_of_le_of_lt hm hmf).ne']
  le := le_trans h.le (min_le_min_left T hmf.le)
  gap := by rwa [qtyToPlace, targetQty_eq_min] at hq
  full := fun os hos => le_trans (h.full os hos) hmf.le

/-- A placed leg has seen the total, so nothing as large as the minimum is left to place: an entry
for which an order is placed waits for fills. -/
theorem Tracks.isPending_of_place (h : Tracks d T m e) (hmf : m < f)
    (hq : d ≤ qtyToPlace f T none e) : e.isPending = true := by
  have hlive := h.live
  cases hst : e.status with
  | pending | partiallyTriggered => simp [ExitEntry.isPending, hst]
  | failed | cancelled | expired => simp [hst, ExitEntryStatus.isTerminal] at hlive
  | placed os =>
    have hTm := h.full os hst
    have hgap := h.gap
    rw [min_eq_left hTm] at hgap
    rw [qtyToPlace, targetQty_eq_min, min_eq_left (le_trans hTm hmf.le)] at hq
    exact absurd hgap (not_lt.mpr hq)

/-- The order over the uncovered quantity closes the gap. -/
theorem Tracks.placed (h : Tracks d T m e) (hd : 0 < d) (hm : 0 ≤ m) (hmf : m < f)
    (hq : d ≤ qtyToPlace f T none e) (id : String) (pid : Option String) :
    Tracks d T f (recordPlacement ⟨id, qtyToPlace f T none e, .open, e.orderType⟩
      (partialFill f T) (e.attempted f pid)) := by
  have hf0 : f ≠ 0 := (lt_of_le_of_lt hm hmf).ne'
  have hpend : (e.attempted f pid).isPending = true := h.isPending_of_place hmf hq
  have hcov : (recordPlacement ⟨id, qtyToPlace f T none e, .open, e.orderType⟩
      (partialFill f T) (e.attempted f pid)).coverage = min T f := by
    rw [ExitEntry.coverage, recordPlacement_actualOrders _ _ _ hpend, recordPlacement_eq,
      calculateActiveCoverage_append]
    simp only [ExitEntry.setStatus, ExitEntry.attempted, calculateActiveCoverage_open]
    rw [qtyToPlace, targetQty_eq_min]
    exact add_sub_cancel _ _
  have hstatus := recordPlacement_status ⟨id, qtyToPlace f T none e, .open, e.orderType⟩
    (partialFill f T) _ hpend
  refine ⟨?_, ?_, hcov.le, ?_, fun os hos => ?_⟩
  · rcases hstatus with ⟨-, hp⟩ | ⟨-, os, hos⟩
    · exact ExitEntry.isTerminal_of_isPending hp
    · rw [hos]; rfl
  · rw [recordPlacement_eq]
    simp [ExitEntry.setStatus, ExitEntry.attempted, hf0]
  · rw [hcov, sub_self]
    exact hd
  · rcases hstatus with ⟨-, hp⟩ | ⟨hpf, -⟩
    · simp [ExitEntry.isPending, hos] at hp
    · exact not_lt.mp (by simpa [partialFill] using hpf)

end entry

/-! ## The invariant of the world -/

/-- The leg at `ph` has seen fills up to `m`, and placements are not blocked. -/
structure FollowsFills (c : Ctx β) (primary ph : String) (T m : Decimal) (w : World β) : Prop where
  breaker : w.handler.circuitBreaker.isOpen = false
  indexed : ph ∈ w.handler.getPlaceholdersForPrimary primary
  entry : ∃ e, w.handler.getEntry ph = some e ∧ Tracks c.config.minExitOrderQty T m e

section world

variable {primary ph : String} {T m f : Decimal} {pid : Option String} {w w' : World β}

theorem FollowsFills.step_self (ha : c.adapter.AcceptsSubmits) (hd : 0 < c.config.minExitOrderQty)
    (hm : 0 ≤ m) (hf : 0 < f) (h : FollowsFills c primary ph T m w)
    (hs : FillStep c ph f T none pid w w') : FollowsFills c primary ph T (max m f) w' := by
  obtain ⟨e, he, ht⟩ := h.entry
  refine ⟨by rw [hs.breaker ha]; exact h.breaker, by rw [hs.placeholders]; exact h.indexed, ?_⟩
  obtain ⟨e', he', hcases⟩ := hs.entry_accepts ha he h.breaker
  refine ⟨e', he', ?_⟩
  rw [ht.eligible_iff hf] at hcases
  rcases hcases with ⟨hle, rfl⟩ | ⟨hmf, hq, rfl⟩ | ⟨hmf, hq, id, rfl⟩
  · rwa [max_eq_left (not_lt.mp hle)]
  · rw [max_eq_right hmf.le]
    exact ht.deferred hm hmf hq
  · rw [max_eq_right hmf.le]
    exact ht.placed hd hm hmf hq id pid

theorem FollowsFills.step_other (ha : c.adapter.AcceptsSubmits) {ph' : String} (hne : ph ≠ ph')
    (h : FollowsFills c primary ph T m w) (hs : FillStep c ph' f T none pid w w') :
    FollowsFills c primary ph T m w' :=
  ⟨by rw [hs.breaker ha]; exact h.breaker, by rw [hs.placeholders]; exact h.indexed,
    by rw [hs.getEntry_ne hne]; exact h.entry⟩

/-- All entries of the primary order: the leg's own step is among them, maybe several times. -/
theorem FollowsFills.steps (ha : c.adapter.AcceptsSubmits) (hd : 0 < c.config.minExitOrderQty)
    (hm : 0 ≤ m) (hf : 0 < f) {phs : List String} (h : FollowsFills c primary ph T m w)
    (hs : FillSteps c f T none pid phs w w') :
    FollowsFills c primary ph T (if ph ∈ phs then max m f else m) w' := by
  induction hs generalizing m with
  | nil w => simpa using h
  | @cons ph' rest _ _ _ first others ih =>
    by_cases hph : ph = ph'
    · subst hph
      have h' := ih (le_max_of_le_left hm) (h.step_self ha hd hm hf first)
      have hmax : max (max m f) f = max m f := max_eq_left (le_max_right m f)
      simpa [hmax] using h'
    · simpa [hph] using ih hm (h.step_other ha hph first)

theorem FollowsFills.handleFill (ha : c.adapter.AcceptsSubmits)
    (hd : 0 < c.config.minExitOrderQty) (hm : 0 ≤ m) (hf : 0 < f) (hT : 0 < T)
    (h : FollowsFills c primary ph T m w) :
    FollowsFills c primary ph T (max m f) ((handleFill c primary f T none pid).run w).2 := by
  have hne : w.handler.getPlaceholdersForPrimary primary ≠ [] := List.ne_nil_of_mem h.indexed
  have hev := run_handleFill (c := c) primary f T none pid w
  generalize ((Exit.handleFill c primary f T none pid).run w).2 = w' at hev ⊢
  cases hev with
  | ignored hq => exact absurd hq (not_or.mpr ⟨not_le.mpr hf, not_le.mpr hT⟩)
  | primary _ _ _ hs => simpa [h.indexed] using h.steps ha hd hm hf hs
  | exitPartial _ _ hp | exitFull _ _ hp | unmatched _ _ hp => exact absurd hp hne

end world

/-! ## Every run of fill events -/

/-- The fill events of one primary order of total quantity `T`: each with its cumulative quantity
and the position it names. -/
def runFills (c : Ctx β) (primary : String) (T : Decimal) :
    World β → List (Decimal × Option String) → World β :=
  Run.exec fun w fill => ((handleFill c primary fill.1 T none fill.2).run w).2

/-- The largest fill. -/
def maxFill (fills : List (Decimal × Option String)) : Decimal := (fills.map Prod.fst).foldl max 0

theorem FollowsFills.runFills (ha : c.adapter.AcceptsSubmits)
    (hd : 0 < c.config.minExitOrderQty) {T : Decimal} (hT : 0 < T) {primary ph : String}
    {fills : List (Decimal × Option String)} (hpos : ∀ fill ∈ fills, 0 < fill.1) {m : Decimal}
    (hm : 0 ≤ m) {w : World β} (h : FollowsFills c primary ph T m w) :
    FollowsFills c primary ph T ((fills.map Prod.fst).foldl max m)
      (Exit.runFills c primary T w fills) := by
  induction fills generalizing m w with
  | nil => exact h
  | cons fill fills ih =>
    refine ih (fun x hx => hpos x (List.mem_cons_of_mem _ hx)) (le_max_of_le_left hm) ?_
    exact h.handleFill ha hd hm (hpos fill List.mem_cons_self) hT

/-- `ph` is a leg that was registered for the primary order, directly or as a backup that was
activated. -/
inductive RegisteredLeg (c : Ctx β) (ph : String) : String → World β → Prop where
  | register {primary : String} {order : OrderRequest} {w : World β} {legs : RegisteredExitLegs}
      (hr : ((register c primary order).run w).1 = .ok legs)
      (hleg : legs.stopLossId = some ph ∨ legs.takeProfitId = some ph) :
      RegisteredLeg c ph primary ((register c primary order).run w).2
  | activated {backupId primary : String} {w : World β} (h : RegisteredLeg c ph backupId w) :
      RegisteredLeg c ph primary
        { w with handler := (w.handler.activateBackup backupId primary).2 }

theorem RegisteredLeg.waits {ph primary : String} {w : World β} (h : RegisteredLeg c ph primary w) :
    ph ∈ w.handler.getPlaceholdersForPrimary primary ∧
      ∃ e, w.handler.getEntry ph = some e ∧ e.status = .pending ∧
        e.lastAttemptedFillQty = none := by
  induction h with
  | @register primary order w legs hr hleg =>
    have hstep := run_register (c := c) primary order w
    rw [hr] at hstep
    exact hstep.leg hleg
  | @activated backupId primary w h ih =>
    obtain ⟨hin, e, he, hst, hlast⟩ := ih
    refine ⟨?_, e.setPrimary primary, ?_, hst, hlast⟩
    · rw [ExitHandler.getPlaceholdersForPrimary_activateBackup]
      simp [hin]
    · rw [ExitHandler.getEntry_activateBackup]
      simp [hin, he]

/-- After every fill event, the active orders of a registered leg cover the largest fill so far, up
to the total and up to the minimum order quantity. -/
theorem fills_cover_leg (ha : c.adapter.AcceptsSubmits) (hd : 0 < c.config.minExitOrderQty)
    {T : Decimal} (hT : 0 < T) {ph primary : String} {w : World β}
    (hreg : RegisteredLeg c ph primary w) (hb : w.handler.circuitBreaker.isOpen = false)
    (fills : List (Decimal × Option String)) (hpos : ∀ fill ∈ fills, 0 < fill.1) :
    ∃ e, (runFills c primary T w fills).handler.getEntry ph = some e ∧
      min T (maxFill fills) - c.config.minExitOrderQty <
        calculateActiveCoverage e.actualOrders e.orderType ∧
      calculateActiveCoverage e.actualOrders e.orderType ≤ min T (maxFill fills) := by
  obtain ⟨hin, e, he, hst, hlast⟩ := hreg.waits
  have hstart : FollowsFills c primary ph T 0 w := ⟨hb, hin, e, he, .start hd hT hst hlast⟩
  obtain ⟨e', he', ht⟩ := (hstart.runFills ha hd hT hpos le_rfl).entry
  exact ⟨e', he', by have := ht.gap; unfold maxFill; rw [ExitEntry.coverage] at this; linarith,
    ht.le⟩

/-- Fills of 4, 10 and again 4 out of 10, at the simulated provider. -/
theorem fills_cover_leg_simulated :
    ∃ e, (runFills .simulated "p" 10
        ((register .simulated "p" sampleBracket).run (World.initial {} [])).2
        [(4, none), (10, some "pos"), (4, none)]).handler.getEntry "exit:sl:p" = some e ∧
      min 10 (maxFill [(4, none), (10, some "pos"), (4, none)]) - 1 / 1000 <
        calculateActiveCoverage e.actualOrders e.orderType ∧
      calculateActiveCoverage e.actualOrders e.orderType ≤
        min 10 (maxFill [(4, none), (10, some "pos"), (4, none)]) :=
  fills_cover_leg TradingAdapter.simulated_acceptsSubmits (by decide +kernel) (by norm_num)
    (.register rfl (.inl rfl)) rfl _ (by decide +kernel)

end Gateway.Exit
