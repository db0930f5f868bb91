import TradingGateway.Lib.Run
import TradingGateway.Lib.Window
import TradingGateway.Oanda.Dedupe

/-!
# Claims and their history

Each call claims all of its transaction ids or none. The queue of the ids that are remembered is the
end of the history of claims: its last `capacity` different ids.

* `claim_once_window`: a call is granted exactly if none of its ids is among the last `capacity`
  different ids claimed, and no id is granted twice in so many claims.
-/

namespace Gateway.Oanda

namespace PublishedTransactions

theorem order_claim (p : PublishedTransactions) (id : String) :
    (p.claim id).inner.order = Window.push p.capacity p.inner.order id := by
  show (p.inner.claim p.capacity id).order = _
  have hseen := p.wf.seen_iff id
  unfold Inner.claim Window.push
  by_cases hmem : id ∈ p.inner.order
  · rw [if_pos (hseen.mpr hmem), if_pos hmem]
  · rw [if_neg (fun h => hmem (hseen.mp h)), if_neg hmem]
    by_cases hfull : (p.inner.order ++ [id]).length > p.capacity
    · -- the queue was full, so one id has to go
      have hlen : (p.inner.order ++ [id]).length = p.capacity + 1 := by
        have hbound := p.wf.bounded
        rw [List.length_append, List.length_singleton] at hfull ⊢
        omega
      rw [if_pos hfull, List.rtake, hlen, Nat.add_sub_cancel_left]
      cases p.inner.order ++ [id] with
      | nil => rfl
      | cons evicted rest => rfl
    · rw [if_neg hfull]
      exact (Window.rtake_of_length_le (not_lt.mp hfull)).symm

theorem order_claims (p : PublishedTransactions) (ids : List String) :
    (ids.foldl claim p).inner.order = ids.foldl (Window.push p.capacity) p.inner.order := by
  induction ids generalizing p with
  | nil => rfl
  | cons id ids ih =>
    rw [List.foldl_cons, List.foldl_cons, ih, order_claim]
    rfl

end PublishedTransactions

/-! ## Calls -/

inductive ClaimCall where
  | tryClaim (id : String)
  | tryClaimAll (ids : List String)

namespace ClaimCall

def ids : ClaimCall → List String
  | .tryClaim id => [id]
  | .tryClaimAll ids => ids

def run (p : PublishedTransactions) : ClaimCall → Bool × PublishedTransactions
  | .tryClaim id => p.tryClaim id
  | .tryClaimAll ids => p.tryClaimAll ids

/-- A call, with the history of the ids that were claimed. A duplicate within the call is claimed
once. -/
def step (s : PublishedTransactions × List String) (call : ClaimCall) :
    PublishedTransactions × List String :=
  ((call.run s.1).2, if (call.run s.1).1 then s.2 ++ Window.firsts call.ids else s.2)

theorem run_eq (p : PublishedTransactions) (call : ClaimCall) :
    call.run p = p.tryClaimAll call.ids := by
  cases call <;> rfl

end ClaimCall

/-- The queue holds the last `capacity` different ids of the history, and no id stands in the
history twice within so many claims. -/
structure Remembers (capacity : ℕ) (s : PublishedTransactions × List String) : Prop where
  capacity_eq : s.1.capacity = capacity
  order_eq : s.1.inner.order = Window.recent capacity s.2
  spaced : Window.Spaced capacity s.2

namespace Remembers

variable {capacity : ℕ} {s : PublishedTransactions × List String}

theorem withCapacity (capacity : ℕ) : Remembers capacity (.withCapacity capacity, []) where
  capacity_eq := rfl
  order_eq := by
    show [] = ([] : List String).rtake capacity
    rw [List.rtake_nil]
  spaced w hw _ := by
    rw [List.infix_nil.mp hw]
    exact List.nodup_nil

theorem has_iff (h : Remembers capacity s) (id : String) :
    s.1.has id = true ↔ id ∈ Window.recent capacity s.2 := by
  rw [← h.order_eq]
  exact s.1.wf.seen_iff id

theorem granted_iff (h : Remembers capacity s) (call : ClaimCall) :
    (call.run s.1).1 = true ↔ ∀ id ∈ call.ids, id ∉ Window.recent capacity s.2 := by
  rw [call.run_eq]
  rcases s.1.tryClaimAll_cases call.ids with ⟨⟨id, hid, hhas⟩, hrun⟩ | ⟨hnew, hrun⟩
  · rw [hrun]
    refine iff_of_false (by simp) fun hall => ?_
    exact hall id hid ((h.has_iff id).mp hhas)
  · rw [hrun]
    refine iff_of_true rfl fun id hid hrecent => ?_
    have hhas := (h.has_iff id).mpr hrecent
    rw [hnew id hid] at hhas
    cases hhas

theorem refused_same (s : PublishedTransactions × List String) (call : ClaimCall)
    (hrefused : (call.run s.1).1 = false) : (call.run s.1).2 = s.1 := by
  rw [call.run_eq] at hrefused ⊢
  rcases s.1.tryClaimAll_cases call.ids with ⟨-, hrun⟩ | ⟨-, hrun⟩
  · rw [hrun]
  · rw [hrun] at hrefused
    cases hrefused

theorem step (h : Remembers capacity s) {call : ClaimCall}
    (hfew : call.ids.dedup.length ≤ capacity) : Remembers capacity (call.step s) := by
  unfold ClaimCall.step
  cases hgranted : (call.run s.1).1 with
  | false =>
    rw [refused_same s call hgranted]
    exact h
  | true =>
    have hnew := (h.granted_iff call).mp hgranted
    have hfirsts : ∀ y ∈ Window.firsts call.ids, y ∉ Window.recent capacity s.2 := by
      intro y hy
      rcases Window.mem_firstsFrom.mp hy with hnil | hids
      · cases hnil
      · exact hnew y hids
    have hnodup : (Window.firsts call.ids).Nodup := Window.nodup_firstsFrom List.nodup_nil _
    have hrun : (call.run s.1).2 = call.ids.foldl PublishedTransactions.claim s.1 := by
      rw [call.run_eq] at hgranted ⊢
      rcases s.1.tryClaimAll_cases call.ids with ⟨-, hrun⟩ | ⟨-, hrun⟩
      · rw [hrun] at hgranted
        cases hgranted
      · rw [hrun]
    rw [hrun]
    refine ⟨?_, ?_, h.spaced.append hnodup hfirsts⟩
    · rw [PublishedTransactions.capacity_claims, h.capacity_eq]
    · show (call.ids.foldl PublishedTransactions.claim s.1).inner.order = _
      rw [PublishedTransactions.order_claims, h.capacity_eq, h.order_eq,
        Window.foldl_push (Window.length_recent_le _ _) hnew hfew]
      exact (Window.recent_append hnodup hfirsts).symm

end Remembers

/-- **Claims are granted once.** In every run of calls with at most `capacity` different ids each,
the set and the queue hold the same ids, not more than `capacity`; a call is granted exactly if none
of its ids is among the last `capacity` different ids claimed; a call that is refused changes
nothing; and no id is claimed twice within `capacity` claims. -/
theorem claim_once_window {capacity : ℕ} {calls : List ClaimCall}
    (hfew : ∀ call ∈ calls, call.ids.dedup.length ≤ capacity) :
    let run before := Run.exec ClaimCall.step (.withCapacity capacity, []) before
    (∀ before, before <+: calls →
      (∀ id, (run before).1.inner.seen.has id = true ↔ id ∈ (run before).1.inner.order) ∧
        (run before).1.inner.order.Nodup ∧ (run before).1.inner.order.length ≤ capacity) ∧
    (∀ before call, before ++ [call] <+: calls →
      ((call.run (run before).1).1 = true ↔
        ∀ id ∈ call.ids, id ∉ Window.recent capacity (run before).2) ∧
      ((call.run (run before).1).1 = false → (call.run (run before).1).2 = (run before).1)) ∧
    ∀ claims, claims <:+: (run calls).2 → claims.length ≤ capacity → claims.Nodup := by
  have hremembers (before : List ClaimCall) (hp : before <+: calls) :
      Remembers capacity (Run.exec ClaimCall.step (.withCapacity capacity, []) before) := by
    have hlegal : Run.Guarded ClaimCall.step (fun _ call => call.ids.dedup.length ≤ capacity)
        (PublishedTransactions.withCapacity capacity, []) before := by
      refine Run.guarded_iff.mpr fun _ call hcall => hfew call ?_
      exact hp.mem (hcall.mem (List.mem_append_right _ List.mem_cons_self))
    exact Run.exec_inv (fun _ _ h hcall => h.step hcall) (.withCapacity capacity) hlegal
  refine ⟨fun before hp => ?_, fun before call hp => ?_, ?_⟩
  · have h := hremembers before hp
    have hwf := (Run.exec ClaimCall.step (.withCapacity capacity, []) before).1.wf
    exact ⟨hwf.seen_iff, hwf.nodup, hwf.bounded.trans_eq h.capacity_eq⟩
  · have h := hremembers before ((List.prefix_append _ _).trans hp)
    exact ⟨h.granted_iff call, Remembers.refused_same _ call⟩
  · exact (hremembers calls List.prefix_rfl).spaced

/-- With room for two ids, the claim of `a` is refused once and granted again after two others. -/
theorem claim_once_window_two :
    let run calls := Run.exec ClaimCall.step (.withCapacity 2, []) calls
    (ClaimCall.run (run [.tryClaim "a"]).1 (.tryClaimAll ["b", "a"])).1 = false ∧
      (ClaimCall.run (run [.tryClaim "a", .tryClaimAll ["b", "c", "b"]]).1 (.tryClaim "a")).1 =
        true := by
  constructor
  · have hfew : ∀ call ∈ [ClaimCall.tryClaim "a", .tryClaimAll ["b", "a"]],
        call.ids.dedup.length ≤ 2 := by decide
    have hall := (claim_once_window hfew).2.1 [.tryClaim "a"] (.tryClaimAll ["b", "a"])
      List.prefix_rfl
    rw [← Bool.not_eq_true]
    intro hgranted
    have hrecent := hall.1.mp hgranted "a" (by decide)
    revert hrecent
    decide +kernel
  · have hfew : ∀ call ∈ [ClaimCall.tryClaim "a", .tryClaimAll ["b", "c", "b"], .tryClaim "a"],
        call.ids.dedup.length ≤ 2 := by decide
    have hall := (claim_once_window hfew).2.1 [.tryClaim "a", .tryClaimAll ["b", "c", "b"]]
      (.tryClaim "a") List.prefix_rfl
    exact hall.1.mpr (by decide +kernel)

end Gateway.Oanda
