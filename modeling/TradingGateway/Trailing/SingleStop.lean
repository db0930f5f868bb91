import TradingGateway.Trailing.Steps

/-!
# One live stop for each entry?

After the registration of an entry, fills, prices, feed losses, recovery scans and cancellations
come in any order; the executor succeeds on every call.

The id of the stop is kept only in the status `active`. The loss of the feed replaces that status
by `priceSourceUnavailable` and so forgets a stop that is still live: the recovered entry places a
second one, and a cancellation no longer reaches the first.

* `single_live_stop`: if the feed is never lost while the entry is active, then the entry never has
  two live stops, and none after a cancellation that answers `true`.
-/

namespace Gateway.Trailing

variable {β : Type} {c : Ctx β}

inductive Event where
  | primaryFilled (primaryOrderId : String) (fillPrice : Decimal)
  | priceUpdate (symbol : String) (price : Decimal)
  | priceSourceDisconnected (symbol : String)
  | retryUnavailable
  | cancelAsync (placeholderId : String) (reason : CancellationReason)
  deriving DecidableEq

def eventStep (c : Ctx β) (w : World β) : Event → World β
  | .primaryFilled p fillPrice => ((onPrimaryFilled c p fillPrice).run w).2
  | .priceUpdate symbol price => ((onPriceUpdate c symbol price).run w).2
  | .priceSourceDisconnected symbol => ((onPriceSourceDisconnected symbol).run w).2
  | .retryUnavailable => ((retryUnavailableEntries c).run w).2
  | .cancelAsync ph reason => ((cancelAsync c ph reason).run w).2

/-- The feed of the entry's symbol is not lost while the entry is active. -/
def feedKept (ph : String) (w : World β) : Event → Bool
  | .priceSourceDisconnected symbol =>
    (w.handler.getEntry ph).all fun e => e.symbol ≠ symbol || e.status.stopOrderId = none
  | _ => true

/-! ## The live stops are named -/

/-- The live stops `L` are among the one that the entry names. -/
def Named (e : TrailingEntry) (L : List StopOrder) : Prop :=
  (L.map StopOrder.orderId).Sublist e.status.stopOrderId.toList

theorem Named.nil (e : TrailingEntry) : Named e [] := List.nil_sublist _

variable {e e' : TrailingEntry} {L : List StopOrder} {ph : String}

theorem Named.eq_nil (h : Named e L) (hid : e.status.stopOrderId = none) : L = [] := by
  unfold Named at h
  rw [hid] at h
  exact List.map_eq_nil_iff.mp (List.sublist_nil.mp h)

theorem Named.length_le_one (h : Named e L) : L.length ≤ 1 := by
  have hlen := List.Sublist.length_le h
  rw [List.length_map] at hlen
  cases hid : e.status.stopOrderId with
  | none => rw [hid] at hlen; exact hlen.trans (by simp)
  | some id => rw [hid] at hlen; exact hlen

/-- Without the stop that the entry names, no stop is left. -/
theorem Named.filter_eq_nil (h : Named e L) {id : String} (hid : e.status.stopOrderId = some id) :
    L.filter (fun o => o.orderId ≠ id) = [] := by
  rw [List.filter_eq_nil_iff]
  intro o ho
  have hm := List.Sublist.subset h (List.mem_map_of_mem (f := StopOrder.orderId) ho)
  rw [hid] at hm
  simpa using hm

theorem Named.price {x : Decimal} {opened : Bool} {L' : List StopOrder} (h : Named e L)
    (hs : PriceStep ph x opened e L e' L') :
    Named e' L' := by
  cases hs with
  | idle => exact h
  | held hs ho =>
    have hnil := h.eq_nil (by rw [hs]; rfl)
    subst hnil
    exact Named.nil _
  | placed hs ho id =>
    have hnil := h.eq_nil (by rw [hs]; rfl)
    subst hnil
    exact List.Sublist.refl _
  | noted hs hx ha =>
    unfold Named at h ⊢
    rw [hs] at h
    exact h
  | adjusted hs hx ha ho id' =>
    rw [h.filter_eq_nil (by rw [hs]; rfl)]
    exact List.Sublist.refl _

theorem stopOrderId_of_isPending {s : TrailingEntryStatus} (h : s.isPending = true) :
    s.stopOrderId = none := by
  cases s <;> first | rfl | cases h

theorem Named.activate (h : Named e L) (hs : ActivateStep e e') : Named e' L := by
  cases hs with
  | same => exact h
  | started hp a =>
    rw [h.eq_nil (stopOrderId_of_isPending hp)]
    exact Named.nil _
  | waiting hp reason =>
    rw [h.eq_nil (stopOrderId_of_isPending hp)]
    exact Named.nil _

theorem Named.unnamedStops (h : Named e L) : unnamedStops e L = [] := by
  unfold Trailing.unnamedStops
  cases hid : e.status.stopOrderId with
  | some id => exact h.filter_eq_nil hid
  | none => exact h.eq_nil hid

/-! ## Runs -/

/-- The entry at `ph` is there and its live stops are named. -/
def NamedAt (ph : String) (w : World β) : Prop := ∃ e L, w.At ph e L ∧ Named e L

theorem NamedAt.step (hex : c.executor.Succeeds) {w : World β} {ev : Event} (h : NamedAt ph w)
    (hk : feedKept ph w ev = true) : NamedAt ph (eventStep c w ev) := by
  obtain ⟨e, L, ha, hn⟩ := h
  cases ev with
  | primaryFilled p fillPrice =>
    obtain ⟨e', ha', hs⟩ := (run_onPrimaryFilled (c := c) p fillPrice w).seen ha
    exact ⟨e', L, ha', hn.activate hs⟩
  | priceUpdate symbol price =>
    obtain ⟨-, e', L', ha', hs⟩ := run_onPriceUpdate hex symbol price ha
    refine ⟨e', L', ha', ?_⟩
    split at hs
    · exact hn.price hs
    · obtain ⟨rfl, rfl⟩ := hs
      exact hn
  | priceSourceDisconnected symbol =>
    refine ⟨_, L, run_onPriceSourceDisconnected symbol ha, ?_⟩
    split
    · rename_i hsel
      have hnone : e.status.stopOrderId = none := by
        simpa [feedKept, ha.entry, hsel.1] using hk
      rw [hn.eq_nil hnone]
      exact Named.nil _
    · exact hn
  | retryUnavailable =>
    obtain ⟨e', ha', hs⟩ := run_retryUnavailableEntries (c := c) ha
    refine ⟨e', L, ha', ?_⟩
    split at hs
    · rename_i hu
      have hnone : e.status.stopOrderId = none := by
        cases hst : e.status <;> rw [hst] at hu <;> first | rfl | cases hu
      rw [hn.eq_nil hnone]
      exact Named.nil _
    · subst hs
      exact hn
  | cancelAsync k reason =>
    by_cases hkph : k = ph
    · subst hkph
      obtain ⟨-, hs⟩ := run_cancelAsync hex reason ha
      split at hs
      · exact ⟨e, L, by rw [eventStep, hs.2]; exact ha, hn⟩
      · refine ⟨_, _, hs.2, ?_⟩
        rw [hn.unnamedStops]
        exact Named.nil _
    · have honly := onlyAt_cancelAsync hex reason w k
      exact ⟨e, L, honly.at_ne (fun h => hkph h.symm) ha, hn⟩

/-- In every run after a registration in which the feed is not lost while the entry is active, the
entry never has two live stops, and a cancellation that answers `true` leaves none. -/
theorem single_live_stop (c : Ctx β) (hex : c.executor.Succeeds) (p : String)
    (order : OrderRequest) (w : World β) (ph : String)
    (hreg : ((register c p order).run w).1 = .ok ph) (hlive : w.liveFor ph = []) (es : List Event)
    (hg : Run.Guarded (eventStep c) (fun w ev => feedKept ph w ev = true)
      ((register c p order).run w).2 es) :
    ∀ es', es' <+: es →
      ((Run.exec (eventStep c) ((register c p order).run w).2 es').liveFor ph).length ≤ 1 ∧
      ∀ reason,
        ((cancelAsync c ph reason).run
          (Run.exec (eventStep c) ((register c p order).run w).2 es')).1 = .ok true →
        ((cancelAsync c ph reason).run
          (Run.exec (eventStep c) ((register c p order).run w).2 es')).2.liveFor ph = [] := by
  obtain ⟨-, -, e₀, ha₀, -⟩ := run_register hreg
  rw [hlive] at ha₀
  have hstart : NamedAt ph ((register c p order).run w).2 := ⟨e₀, [], ha₀, .nil _⟩
  intro es' hp
  obtain ⟨e, L, ha, hn⟩ := Run.exec_inv (fun _ _ h hk => h.step hex hk) hstart (hg.initial hp)
  refine ⟨by rw [ha.live]; exact hn.length_le_one, fun reason hok => ?_⟩
  obtain ⟨-, hs⟩ := run_cancelAsync hex reason ha
  split at hs
  · rw [hs.1] at hok
    cases hok
  · rw [hs.2.live]
    exact hn.unnamedStops

/-- A run that places a stop and moves it. -/
def movedRun : List Event :=
  [.primaryFilled "p" 100, .priceUpdate "BTCUSD" 100, .priceUpdate "BTCUSD" 110]

theorem single_live_stop_moved :
    ((Run.exec (eventStep Ctx.simulated)
      ((register Ctx.simulated "p" sampleTrailing).run (World.initial 0)).2 movedRun).liveFor
        "trailing:p").length ≤ 1 ∧
    ((cancelAsync Ctx.simulated "trailing:p" .userRequested).run
      (Run.exec (eventStep Ctx.simulated)
        ((register Ctx.simulated "p" sampleTrailing).run (World.initial 0)).2 movedRun)).2.liveFor
          "trailing:p" = [] :=
  have h := single_live_stop Ctx.simulated StopOrderExecutor.simulated_succeeds "p" sampleTrailing
    (World.initial 0) "trailing:p" (by decide +kernel) rfl movedRun (by decide +kernel) movedRun
    List.prefix_rfl
  ⟨h.1, h.2 .userRequested (by decide +kernel)⟩

/-- The feed is lost after the stop was placed. Once it is back the next price places a second stop;
and a cancellation before that answers `true` and leaves the first stop live. -/
theorem lost_feed_two_stops :
    ((Run.exec (eventStep Ctx.simulated)
        ((register Ctx.simulated "p" sampleTrailing).run (World.initial 0)).2
        [.primaryFilled "p" 100, .priceUpdate "BTCUSD" 100, .priceSourceDisconnected "BTCUSD",
          .retryUnavailable, .priceUpdate "BTCUSD" 100]).liveFor "trailing:p").length = 2 ∧
    ((cancelAsync Ctx.simulated "trailing:p" .userRequested).run
      (Run.exec (eventStep Ctx.simulated)
        ((register Ctx.simulated "p" sampleTrailing).run (World.initial 0)).2
        [.primaryFilled "p" 100, .priceUpdate "BTCUSD" 100,
          .priceSourceDisconnected "BTCUSD"])).1 = .ok true ∧
    ((cancelAsync Ctx.simulated "trailing:p" .userRequested).run
      (Run.exec (eventStep Ctx.simulated)
        ((register Ctx.simulated "p" sampleTrailing).run (World.initial 0)).2
        [.primaryFilled "p" 100, .priceUpdate "BTCUSD" 100,
          .priceSourceDisconnected "BTCUSD"])).2.liveFor "trailing:p" =
      [⟨"trailing:p", "s0", 95⟩] :=
  ⟨by decide +kernel, by decide +kernel, by decide +kernel⟩

end Gateway.Trailing
