import TradingGateway.Exit.Fill
import TradingGateway.Lib.Checked

/-!
# Is the placement loop safe?

`placeOrderWithRetry` submits an exit order, again after each delay of the configuration. Here its
loop is modelled with what `placeAttempts` leaves out: the index into the delays can be out of
range, and the loop can run out of attempts. Each submission is recorded with its outcome.

Both are prevented by `classifyAndHandlePlacementError`, which returns an error for the last
attempt.

* `placement_retry_safe`: the loop returns for every provider, with what `placeOrderWithRetry`
  returns.
-/

namespace Gateway.Exit

variable {β : Type}

/-- A request as it was sent, and the provider's answer. -/
structure Submission where
  request : OrderRequest
  outcome : Except GatewayError OrderHandle

def Submission.accepted (s : Submission) : Bool := s.outcome.isOk

abbrev PlaceResult := Except (PlaceOrderError × ℕ) (Order × ℕ)

structure PlaceState (β : Type) where
  attempt : ℕ
  retryCount : ℕ
  broker : β
  submissions : List Submission

/-- What the loop leaves. -/
structure Placement (β : Type) where
  result : PlaceResult
  broker : β
  submissions : List Submission

/-- One round of the loop: go on, or return. -/
def placeRound (c : Ctx β) (order : OrderRequest) (s : PlaceState β) :
    Checked Empty (PlaceState β ⊕ Placement β) :=
  match c.adapter.submitOrder order s.broker with
  | (.ok handle, b) =>
    let submissions := s.submissions ++ [⟨order, .ok handle⟩]
    match c.adapter.getOrder handle.id b with
    | (.ok fullOrder, b) => .ok (.inr ⟨.ok (fullOrder, s.retryCount), b, submissions⟩)
    | (.error _, b) => .ok (.inr ⟨.ok (fallbackOrder order handle, s.retryCount), b, submissions⟩)
  | (.error e, b) =>
    let submissions := s.submissions ++ [⟨order, .error e⟩]
    match classifyAndHandlePlacementError c.config e s.attempt s.retryCount with
    | some err => .ok (.inr ⟨.error err, b, submissions⟩)
    | none => do
      let delay ← Checked.index c.config.retryDelays s.attempt
      .ok (.inl ⟨s.attempt + 1, toU32 (s.attempt + 1), c.adapter.sleep delay b, submissions⟩)

/-- The loop; `none` if it ends without a return. -/
def placeLoop (c : Ctx β) (order : OrderRequest) (b : β) : Option (Checked Empty (Placement β)) :=
  let maxAttempts := c.config.retryDelays.length + 1
  Checked.loop (placeRound c order) maxAttempts ⟨0, 0, b, []⟩

variable {c : Ctx β} {order : OrderRequest}

/-! ## The rounds -/

variable {attempt retryCount : ℕ} {s : PlaceState β}

/-- An error that is retried is not that of the last attempt. -/
theorem lt_of_classify_none {e : GatewayError}
    (h : classifyAndHandlePlacementError c.config e attempt retryCount = none) :
    attempt < c.config.retryDelays.length := by
  unfold classifyAndHandlePlacementError at h
  dsimp only at h
  split at h
  · cases h
  · split at h
    · cases h
    · split at h
      · cases h
      · omega

theorem index_retryDelays (h : attempt < c.config.retryDelays.length) :
    (Checked.index c.config.retryDelays attempt : Checked Empty Duration) =
      .ok (c.config.retryDelays.getD attempt 0) := by
  simp [Checked.index, List.getD, h]

/-- Between two rounds: every submission failed. -/
def Retried (c : Ctx β) (order : OrderRequest) (s : PlaceState β) : Prop :=
  s.attempt ≤ c.config.retryDelays.length ∧ s.submissions.length = s.attempt ∧
    ∀ x ∈ s.submissions, x.request = order ∧ x.accepted = false

/-- The request was accepted as `handle`, and `o` is what the provider then reported for that id,
or, if it reported an error, the order as far as the handle tells. -/
def Reported (c : Ctx β) (order : OrderRequest) (handle : OrderHandle) (o : Order) (b' : β) :
    Prop :=
  ∃ b₀ b, c.adapter.submitOrder order b₀ = (.ok handle, b) ∧
    (c.adapter.getOrder handle.id b = (.ok o, b') ∨
      ∃ e, c.adapter.getOrder handle.id b = (.error e, b') ∧ o = fallbackOrder order handle)

/-- What is known of the submissions: one more than there are delays at most, all the same, and the
last one accepted if the result is an order, of which the others are never. -/
structure Submitted (c : Ctx β) (order : OrderRequest) (p : Placement β) : Prop where
  atMost : p.submissions.length ≤ c.config.retryDelays.length + 1
  same : ∀ x ∈ p.submissions, x.request = order
  noneAfter : ∀ x ∈ p.submissions.dropLast, x.accepted = false
  ok_iff : p.result.isOk ↔ ∃ x ∈ p.submissions, x.accepted = true
  order_of_ok : ∀ o n, p.result = .ok (o, n) →
    ∃ handle, p.submissions.getLast? = some ⟨order, .ok handle⟩ ∧
      Reported c order handle o p.broker

theorem Retried.accepted (h : Retried c order s) {handle : OrderHandle} {o : Order} {b : β}
    (hreport : Reported c order handle o b) (n : ℕ) :
    Submitted c order ⟨.ok (o, n), b, s.submissions ++ [⟨order, .ok handle⟩]⟩ := by
  obtain ⟨hle, hlen, hbefore⟩ := h
  have hlast : (⟨order, .ok handle⟩ : Submission).accepted = true := rfl
  refine ⟨?_, fun x hx => ?_, fun x hx => ?_, ?_, ?_⟩
  · rw [List.length_append, List.length_singleton]
    omega
  · rcases List.mem_append.mp hx with hx | hx
    · exact (hbefore x hx).1
    · rw [List.mem_singleton.mp hx]
  · rw [List.dropLast_concat] at hx
    exact (hbefore x hx).2
  · exact iff_of_true rfl ⟨_, List.mem_concat_self, hlast⟩
  · rintro o' n' ⟨⟩
    exact ⟨handle, List.getLast?_concat, hreport⟩

theorem Retried.refused (h : Retried c order s) (e : GatewayError) (err : PlaceOrderError × ℕ)
    (b : β) :
    Submitted c order ⟨.error err, b, s.submissions ++ [⟨order, .error e⟩]⟩ := by
  obtain ⟨hle, hlen, hbefore⟩ := h
  have hrefused : ∀ x ∈ s.submissions ++ [⟨order, .error e⟩],
      x.request = order ∧ x.accepted = false := by
    intro x hx
    rcases List.mem_append.mp hx with hx | hx
    · exact hbefore x hx
    · rw [List.mem_singleton.mp hx]
      exact ⟨rfl, rfl⟩
  refine ⟨?_, fun x hx => (hrefused x hx).1, fun x hx => ?_, ?_, ?_⟩
  · rw [List.length_append, List.length_singleton]
    omega
  · exact (hrefused x (List.dropLast_subset _ hx)).2
  · refine iff_of_false (by simp [Except.isOk, Except.toBool]) ?_
    rintro ⟨x, hx, hacc⟩
    rw [(hrefused x hx).2] at hacc
    cases hacc
  · rintro o n ⟨⟩

theorem placeRound_meets (h : Retried c order s) :
    (placeRound c order s).Meets
      (Sum.elim (fun s' => Retried c order s' ∧
        c.config.retryDelays.length - s'.attempt < c.config.retryDelays.length - s.attempt)
        (Submitted c order)) := by
  unfold placeRound
  rcases hs : c.adapter.submitOrder order s.broker with ⟨e | handle, b⟩
  · dsimp only
    cases hcl : classifyAndHandlePlacementError c.config e s.attempt s.retryCount with
    | some err => exact h.refused e err b
    | none =>
      have hlt := lt_of_classify_none hcl
      obtain ⟨hle, hlen, hbefore⟩ := h
      rw [index_retryDelays hlt]
      refine ⟨⟨hlt, ?_, fun x hx => ?_⟩, ?_⟩
      · rw [List.length_append, List.length_singleton, hlen]
      · rcases List.mem_append.mp hx with hx | hx
        · exact hbefore x hx
        · rw [List.mem_singleton.mp hx]
          exact ⟨rfl, rfl⟩
      · change c.config.retryDelays.length - (s.attempt + 1) <
          c.config.retryDelays.length - s.attempt
        omega
  · dsimp only
    cases hg : c.adapter.getOrder handle.id b with
    | mk res b' =>
      cases res with
      | ok fullOrder => exact h.accepted ⟨s.broker, b, hs, .inl hg⟩ _
      | error e => exact h.accepted ⟨s.broker, b, hs, .inr ⟨e, hg, rfl⟩⟩ _

theorem placeLoop_meets (c : Ctx β) (order : OrderRequest) (b : β) :
    ∃ p, placeLoop c order b = some (.ok p) ∧ Submitted c order p := by
  have hstart : Retried c order ⟨0, 0, b, []⟩ :=
    ⟨Nat.zero_le _, rfl, fun x hx => absurd hx List.not_mem_nil⟩
  obtain ⟨x, hloop, hx⟩ := Checked.loop_meets
    (fun s : PlaceState β => c.config.retryDelays.length - s.attempt)
    (fun s hs => placeRound_meets hs) hstart (Nat.lt_succ_self _)
  obtain ⟨p, rfl, hp⟩ := hx.exists_ok
  exact ⟨p, hloop, hp⟩

/-! ## The loop of `placeOrderWithRetry` -/

/-- A loop that returns does what `placeAttempts` does. -/
theorem run_placeAttempts_of_loop {n : ℕ} {xs : List Submission} {p : Placement β} {w : World β}
    (h : Checked.loop (placeRound c order) n ⟨attempt, retryCount, w.broker, xs⟩ = some (.ok p))
    (ph : String) :
    ((placeAttempts c ph order n attempt retryCount).run w).1 = p.result ∧
      ((placeAttempts c ph order n attempt retryCount).run w).2.broker = p.broker := by
  induction n generalizing attempt retryCount xs w with
  | zero => cases h
  | succ n ih =>
    rw [placeAttempts, Routine.run_bind]
    simp only [submitOrder, Routine.run_call]
    rw [Checked.loop, placeRound] at h
    dsimp only at h
    rcases hs : c.adapter.submitOrder order w.broker with ⟨e | handle, b⟩
    · rw [hs] at h
      dsimp only at h ⊢
      cases hcl : classifyAndHandlePlacementError c.config e attempt retryCount with
      | some err =>
        rw [hcl] at h
        cases h
        exact ⟨rfl, rfl⟩
      | none =>
        rw [hcl, index_retryDelays (lt_of_classify_none hcl)] at h
        simp only [sleep, Routine.run_bind, Routine.run_call]
        exact ih h
    · rw [hs] at h
      dsimp only at h ⊢
      simp only [getOrder, Routine.run_bind, Routine.run_call]
      rcases hg : c.adapter.getOrder handle.id b with ⟨e | fullOrder, b'⟩
      · rw [hg] at h
        cases h
        simp [World.accept, hg]
      · rw [hg] at h
        cases h
        simp [World.accept, hg]

/-- For every provider and every list of delays the loop returns, without an index out of range and
without running out of attempts. It submits the same request at most once more than there are
delays, and not again once it was accepted. It returns an order exactly if a submission was
accepted: the order that the provider reports for that id, or one that it builds with that id. -/
theorem placement_retry_safe (c : Ctx β) (order : OrderRequest) (ph : String) (w : World β) :
    ∃ p, placeLoop c order w.broker = some (.ok p) ∧
      ((placeOrderWithRetry c ph order).run w).1 = p.result ∧
      p.submissions.length ≤ c.config.retryDelays.length + 1 ∧
      (∀ x ∈ p.submissions, x.request = order) ∧
      (∀ x ∈ p.submissions.dropLast, x.accepted = false) ∧
      (p.result.isOk ↔ ∃ x ∈ p.submissions, x.accepted = true) ∧
      ∀ o n, p.result = .ok (o, n) →
        ∃ handle, p.submissions.getLast? = some ⟨order, .ok handle⟩ ∧
          Reported c order handle o p.broker ∧ (c.adapter.ReportsAsked → o.id = handle.id) := by
  obtain ⟨p, hloop, hp⟩ := placeLoop_meets c order w.broker
  refine ⟨p, hloop, (run_placeAttempts_of_loop hloop ph).1, hp.atMost, hp.same, hp.noneAfter,
    hp.ok_iff, fun o n ho => ?_⟩
  obtain ⟨handle, hlast, hreport⟩ := hp.order_of_ok o n ho
  refine ⟨handle, hlast, hreport, fun hasked => ?_⟩
  obtain ⟨b₀, b, -, hg | ⟨e, -, rfl⟩⟩ := hreport
  · exact hasked hg
  · rfl

/-- A provider that accepts the order `"a"` and reports the order `"b"` for it. -/
def misreporting : Ctx (List (String × OrderRequest)) :=
  { Ctx.simulated with
    adapter :=
      { TradingAdapter.simulated with
        submitOrder := fun _ b => (.ok { id := "a", status := .open }, b)
        getOrder := fun _ b => (.ok (sampleBracket.toOrder "b"), b) } }

/-- The order that is returned has the reported id. -/
theorem placement_returns_reported_id :
    (((placeOrderWithRetry misreporting "sl" sampleBracket).run (.initial {} [])).1.toOption.map
        fun r => r.1.id) = some "b" ∧
      (((placeOrderWithRetry misreporting "sl" sampleBracket).run (.initial {} [])).2.accepted.map
        AcceptedOrder.orderId) = ["a"] := by
  decide

end Gateway.Exit
