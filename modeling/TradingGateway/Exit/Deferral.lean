import TradingGateway.Exit.Steps

/-!
# A fill that was deferred

`process_entry_fill` writes down the fill quantity as attempted before it looks at the breaker and
asks the provider. A deferred fill is therefore taken for a duplicate when it is delivered again,
whatever the cause of the deferral was and whether it has gone.

* `redelivery_places_iff`: after the cause has gone, a fill places the uncovered quantity exactly if
  its cumulative quantity is larger than the deferred one.
-/

namespace Gateway.Exit

variable {β : Type} {c : Ctx β} {ph : String} {f T : Decimal} {pos : Option Decimal}
  {pid : Option String} {w w₁ : World β} {r : PlacementResult} {reason : DeferReason}

/-- A cause of deferral that may go: the open breaker, or the provider's account. -/
def DeferReason.Transient (reason : DeferReason) : Prop :=
  reason = .circuitBreakerOpen ∨ reason.Account

/-- The first check of a fill names no transient cause. -/
theorem not_transient_of_validate {found : Option ExitEntry}
    (hv : validateEntryForFill ph f found = .error r) (hdefer : r.outcome = .deferred reason) :
    ¬ reason.Transient := by
  cases found with
  | none =>
    cases hv
    cases hdefer
  | some e =>
    simp only [validateEntryForFill] at hv
    split at hv
    · cases hv
      cases hdefer
      rintro (h | h)
      · cases h
      · exact h
    · split at hv <;> cases hv
      cases hdefer

/-- The entry was eligible for the deferred fill; all that changed is the mark of the attempt (and
the position, if the provider was asked). -/
theorem run_processEntryFill_deferred (hrun : (processEntryFill c ph f T pos pid).run w = (r, w₁))
    (hdefer : r.outcome = .deferred reason) (hcause : reason.Transient) :
    ∃ e pid', w.handler.getEntry ph = some e ∧ Eligible f e ∧
      c.config.minExitOrderQty ≤ qtyToPlace f T pos e ∧
      w₁.handler.getEntry ph = some (e.attempted f pid') := by
  have hout := run_processEntryFill_outcome (c := c) ph f T pos pid w
  rw [hrun] at hout
  cases hout with
  | skipped hv => exact absurd hcause (not_transient_of_validate hv hdefer)
  | belowMinimum =>
    cases hdefer
    obtain h | h := hcause
    · cases h
    · exact h.elim
  | breakerOpen he hel hq =>
    refine ⟨_, none, he, hel, hq, (w.handler.getEntry_modifyEntry_self ph _).trans ?_⟩
    rw [he, Option.map_some]
  | refused _ _ he hel hq =>
    refine ⟨_, pid, he, hel, hq, (w.handler.getEntry_modifyEntry_self ph _).trans ?_⟩
    rw [he, Option.map_some]
  | failed => cases hdefer
  | placed => cases hdefer

/-- The cause has gone: the breaker is now `cb`, and the provider in the state `b`. -/
def World.recovered (w : World β) (cb : ExitOrderCircuitBreaker) (b : β) : World β :=
  { w with handler := { w.handler with circuitBreaker := cb }, broker := b }

/-- A fill of the primary order submits exactly one exit order for the entry, over the quantity
that its orders do not cover. -/
def PlacesUncovered (c : Ctx β) (ph : String) (f T : Decimal) (pos : Option Decimal)
    (pid : Option String) (w : World β) : Prop :=
  ∃ e a, w.handler.getEntry ph = some e ∧
    ((processEntryFill c ph f T pos pid).run w).2.accepted = w.accepted ++ [a] ∧
    a.placeholderId = ph ∧ a.quantity = qtyToPlace f T pos e

theorem placesUncovered_iff {e : ExitEntry} (he : w.handler.getEntry ph = some e)
    (hclosed : w.handler.circuitBreaker.isOpen = false)
    (haccepts : ∀ r, ∃ handle b, c.adapter.submitOrder r w.broker = (.ok handle, b)) :
    PlacesUncovered c ph f T pos pid w ↔
      Eligible f e ∧ c.config.minExitOrderQty ≤ qtyToPlace f T pos e := by
  have hout := run_processEntryFill_outcome (c := c) ph f T pos pid w
  unfold PlacesUncovered
  generalize (processEntryFill c ph f T pos pid).run w = run at hout
  obtain ⟨r, w'⟩ := run
  have hnone (h : w'.accepted = w.accepted) :
      ¬ ∃ e a, w.handler.getEntry ph = some e ∧ w'.accepted = w.accepted ++ [a] ∧
        a.placeholderId = ph ∧ a.quantity = qtyToPlace f T pos e := by
    rintro ⟨e, a, -, hacc, -⟩
    rw [h] at hacc
    simp at hacc
  cases hout with
  | skipped _ hnot => exact iff_of_false (hnone rfl) fun h => hnot e he h.1
  | belowMinimum he' _ hq =>
    cases he.symm.trans he'
    exact iff_of_false (hnone rfl) fun ⟨_, hq'⟩ => absurd hq (not_lt.mpr hq')
  | breakerOpen _ _ _ hb => cases hclosed.symm.trans hb
  | refused _ _ _ _ _ _ hr | failed _ _ _ _ _ _ _ _ hr =>
    obtain ⟨handle, b, hs⟩ := haccepts _
    cases hr.symm.trans (acceptsPlacement_of_submit hs)
  | placed he' hel hq =>
    cases he.symm.trans he'
    exact iff_of_true ⟨e, _, he, rfl, rfl, rfl⟩ ⟨hel, hq⟩

/-- After a deferral whose cause has gone, a fill places the uncovered quantity exactly if it is
larger than the deferred one and the quantity is not below the minimum. The same fill never does.
-/
theorem redelivery_places_iff {r : PlacementResult} {reason : DeferReason}
    (hrun : (processEntryFill c ph f T pos pid).run w = (r, w₁))
    (hdefer : r.outcome = .deferred reason) (hcause : reason.Transient)
    {cb : ExitOrderCircuitBreaker} (hclosed : cb.isOpen = false) {b : β}
    (haccepts : ∀ r, ∃ handle b', c.adapter.submitOrder r b = (.ok handle, b'))
    (f' T' : Decimal) (pos' : Option Decimal) (pid' : Option String) :
    PlacesUncovered c ph f' T' pos' pid' (w₁.recovered cb b) ↔
      f < f' ∧ ∃ e, w.handler.getEntry ph = some e ∧
        c.config.minExitOrderQty ≤ qtyToPlace f' T' pos' e := by
  obtain ⟨e, pid₁, he, ⟨hterm, -⟩, -, he₁⟩ := run_processEntryFill_deferred hrun hdefer hcause
  have heligible : Eligible f' (e.attempted f pid₁) ↔ f < f' := by
    constructor
    · rintro ⟨-, hlast⟩
      exact hlast f rfl
    · intro hlt
      refine ⟨hterm, fun last hlast => ?_⟩
      cases hlast
      exact hlt
  rw [placesUncovered_iff (w := w₁.recovered cb b) he₁ hclosed haccepts, heligible]
  refine and_congr_right fun _ => ?_
  constructor
  · intro hq
    exact ⟨e, he, hq⟩
  · rintro ⟨e', he', hq⟩
    cases he.symm.trans he'
    exact hq

/-- The registered bracket, after three failures tripped the breaker. -/
def breakerTripped : World (List (String × OrderRequest)) :=
  let w := ((register .simulated "p" sampleBracket).run (World.initial {} [])).2
  { w with
    handler := { w.handler with
      circuitBreaker := [1, 2, 3].foldl .recordFailure w.handler.circuitBreaker } }

/-- The same after a fill of 4 out of 10 was deferred, and the breaker was reset. -/
def breakerReset : World (List (String × OrderRequest)) :=
  let w := ((processEntryFill .simulated "exit:sl:p" 4 10 none none).run breakerTripped).2
  w.recovered (w.handler.circuitBreaker.reset 100).2 w.broker

/-- A larger fill after the deferral is covered. -/
theorem redelivery_places_larger :
    PlacesUncovered .simulated "exit:sl:p" 10 10 none none breakerReset := by
  have hrun : ((processEntryFill .simulated "exit:sl:p" 4 10 none none).run
      breakerTripped).1.outcome = .deferred .circuitBreakerOpen := by decide +kernel
  have hentry : (breakerTripped.handler.getEntry "exit:sl:p").any (fun e =>
      Ctx.simulated.config.minExitOrderQty ≤ qtyToPlace 10 10 none e) = true := by
    decide +kernel
  obtain ⟨e, he, hq⟩ := (Option.any_eq_true ..).mp hentry
  refine (redelivery_places_iff rfl hrun (.inl rfl) ?_ (fun _ => ⟨_, _, rfl⟩) 10 10 none none).mpr
    ⟨by norm_num, e, he, of_decide_eq_true hq⟩
  decide +kernel

/-- The breaker was open at a fill of 4 out of 10. After its reset the same fill is delivered again:
it is taken for a duplicate, and no exit order is submitted. -/
theorem redelivery_ignored :
    ((processEntryFill .simulated "exit:sl:p" 4 10 none none).run breakerTripped).1.outcome =
        .deferred .circuitBreakerOpen ∧
      breakerReset.handler.circuitBreaker.isOpen = false ∧
      ((processEntryFill .simulated "exit:sl:p" 4 10 none none).run breakerReset).1.outcome =
        .alreadyProcessed ∧
      ((processEntryFill .simulated "exit:sl:p" 4 10 none none).run breakerReset).2.accepted =
        [] ∧
      ¬ PlacesUncovered .simulated "exit:sl:p" 4 10 none none breakerReset := by
  refine ⟨by decide +kernel, by decide +kernel, by decide +kernel, by decide +kernel, ?_⟩
  rintro ⟨e, a, -, hacc, -⟩
  have hlen := congrArg List.length hacc
  rw [List.length_append, List.length_singleton] at hlen
  revert hlen
  decide +kernel

end Gateway.Exit
