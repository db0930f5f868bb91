import TradingGateway.Lib.Table

/-!
# Published transactions (`crates/oanda/src/dedupe.rs`)

A fill or a cancel reaches the gateway twice, in the response to the order and on the transaction
stream. The path that claims its transaction id first publishes it. The ids are kept in a set and in
a queue; the oldest one is forgotten when there are too many. Each operation is atomic under the
lock.
-/

namespace Gateway.Oanda

/-- The ids that are remembered, as a set and in the order of their claims. -/
structure Inner where
  seen : KeySet String
  order : List String

namespace Inner

/-- Remember an id; the oldest one makes room. -/
def claim (capacity : ℕ) (inner : Inner) (id : String) : Inner :=
  if inner.seen.has id then inner
  else if (inner.order ++ [id]).length > capacity then
    match inner.order ++ [id] with
    | [] => ⟨inner.seen.add id, []⟩
    | evicted :: rest => ⟨(inner.seen.add id).drop evicted, rest⟩
  else ⟨inner.seen.add id, inner.order ++ [id]⟩

/-- The set and the queue hold the same ids, not more than `capacity`. -/
structure WF (capacity : ℕ) (inner : Inner) : Prop where
  seen_iff : ∀ id, inner.seen.has id = true ↔ id ∈ inner.order
  nodup : inner.order.Nodup
  bounded : inner.order.length ≤ capacity

variable {capacity : ℕ} {inner : Inner}

theorem WF.empty (capacity : ℕ) : WF capacity ⟨∅, []⟩ :=
  ⟨fun id => by simp, by simp, by simp⟩

theorem WF.claim (h : WF capacity inner) (id : String) : WF capacity (inner.claim capacity id) := by
  unfold Inner.claim
  split
  · exact h
  · rename_i hnew
    have hnot : id ∉ inner.order := fun hmem => hnew ((h.seen_iff id).mpr hmem)
    have hnodup : (inner.order ++ [id]).Nodup :=
      List.nodup_append.mpr ⟨h.nodup, by simp, by
        rintro x hx y hy rfl
        exact hnot (List.mem_singleton.mp hy ▸ hx)⟩
    have hseen : ∀ x, (inner.seen.add id).has x = true ↔ x ∈ inner.order ++ [id] := by
      intro x
      rw [KeySet.has_add, List.mem_append, List.mem_singleton, ← h.seen_iff x]
      simp [or_comm]
    have hlen : (inner.order ++ [id]).length ≤ capacity + 1 := by
      have := h.bounded
      simp only [List.length_append, List.length_singleton]
      omega
    split
    · -- The oldest id goes from both.
      cases horder : inner.order ++ [id] with
      | nil => simp at horder
      | cons evicted rest =>
        rw [horder] at hnodup hseen hlen
        obtain ⟨hfresh, hrest⟩ := List.nodup_cons.mp hnodup
        refine ⟨fun x => ?_, hrest, ?_⟩
        · rw [KeySet.has_drop, Bool.and_eq_true, hseen x, List.mem_cons, decide_eq_true_iff]
          constructor
          · rintro ⟨hne, hx | hx⟩
            · exact absurd hx hne
            · exact hx
          · intro hx
            exact ⟨fun heq => hfresh (heq ▸ hx), .inr hx⟩
        · show rest.length ≤ capacity
          simp only [List.length_cons] at hlen
          omega
    · rename_i hroom
      refine ⟨hseen, hnodup, ?_⟩
      show (inner.order ++ [id]).length ≤ capacity
      omega

variable {id : String} {k : ℕ}

theorem has_of_claim {x : String} (h : (inner.claim capacity id).seen.has x = true) :
    x = id ∨ inner.seen.has x = true := by
  unfold Inner.claim at h
  split at h
  · exact .inr h
  · split at h
    · split at h
      · simpa using h
      · simp only [KeySet.has_drop, KeySet.has_add, Bool.and_eq_true, Bool.or_eq_true,
          decide_eq_true_eq] at h
        exact h.2
    · simpa using h

/-- At most `k` ids were claimed after `id`. -/
def Recent (inner : Inner) (id : String) (k : ℕ) : Prop :=
  ∃ older newer, inner.order = older ++ id :: newer ∧ newer.length ≤ k

theorem Recent.mono {k' : ℕ} (h : inner.Recent id k) (hk : k ≤ k') : inner.Recent id k' := by
  obtain ⟨older, newer, horder, hlen⟩ := h
  exact ⟨older, newer, horder, by omega⟩

theorem Recent.has (h : inner.Recent id k) (hwf : WF capacity inner) :
    inner.seen.has id = true := by
  obtain ⟨older, newer, horder, -⟩ := h
  rw [hwf.seen_iff, horder]
  simp

theorem recent_claim (hwf : WF capacity inner) (hcap : 0 < capacity)
    (hnew : inner.seen.has id = false) : (inner.claim capacity id).Recent id 0 := by
  unfold Inner.claim
  simp only [hnew, Bool.false_eq_true, if_false]
  split
  · have hlen : 0 < inner.order.length := by
      have := hwf.bounded
      rename_i hfull
      simp only [List.length_append, List.length_singleton] at hfull
      omega
    cases horder : inner.order with
    | nil => simp [horder] at hlen
    | cons evicted rest => exact ⟨rest, [], rfl, by simp⟩
  · exact ⟨inner.order, [], rfl, by simp⟩

/-- The claim of another id pushes an id out only after `capacity` of them. -/
theorem Recent.claim (h : inner.Recent id k) (other : String) (hk : k + 1 < capacity) :
    (inner.claim capacity other).Recent id (k + 1) := by
  obtain ⟨older, newer, horder, hlen⟩ := h
  have hnewer : (newer ++ [other]).length ≤ k + 1 := by
    simp only [List.length_append, List.length_singleton]
    omega
  unfold Inner.claim
  split
  · exact ⟨older, newer, horder, by omega⟩
  · split
    · rename_i hfull
      cases older with
      | nil =>
        -- There is no older id to go: the queue cannot be full.
        rw [horder] at hfull
        simp only [List.nil_append, List.cons_append, List.length_cons, List.length_append,
          List.length_nil] at hfull
        omega
      | cons evicted older =>
        rw [horder]
        exact ⟨older, newer ++ [other], by simp, hnewer⟩
    · exact ⟨older, newer ++ [other], by simp [horder], hnewer⟩

end Inner

/-- The claims, with the invariant of their bookkeeping. -/
structure PublishedTransactions where
  capacity : ℕ
  inner : Inner
  wf : inner.WF capacity

namespace PublishedTransactions

def withCapacity (capacity : ℕ) : PublishedTransactions := ⟨capacity, ⟨∅, []⟩, .empty capacity⟩

def has (p : PublishedTransactions) (id : String) : Bool := p.inner.seen.has id

/-- Remember an id. -/
def claim (p : PublishedTransactions) (id : String) : PublishedTransactions :=
  ⟨p.capacity, p.inner.claim p.capacity id, p.wf.claim id⟩

/-- Claim several ids: all of them, or none. -/
def tryClaimAll (p : PublishedTransactions) (ids : List String) : Bool × PublishedTransactions :=
  if ids.any p.has then (false, p) else (true, ids.foldl claim p)

def tryClaim (p : PublishedTransactions) (id : String) : Bool × PublishedTransactions :=
  p.tryClaimAll [id]

variable {p : PublishedTransactions}

variable {ids : List String} {id : String} {k : ℕ}

theorem has_of_claims {x : String} (h : (ids.foldl claim p).has x = true) :
    x ∈ ids ∨ p.has x = true := by
  induction ids generalizing p with
  | nil => exact .inr h
  | cons id ids ih =>
    rcases ih h with hmem | hclaim
    · exact .inl (List.mem_cons_of_mem _ hmem)
    · rcases Inner.has_of_claim hclaim with rfl | hp
      · exact .inl List.mem_cons_self
      · exact .inr hp

/-- A claim fails and changes nothing, or none of the ids was remembered and all of them are
claimed. -/
theorem tryClaimAll_cases (p : PublishedTransactions) (ids : List String) :
    (∃ id ∈ ids, p.has id = true) ∧ p.tryClaimAll ids = (false, p) ∨
      (∀ id ∈ ids, p.has id = false) ∧ p.tryClaimAll ids = (true, ids.foldl claim p) := by
  unfold tryClaimAll
  by_cases hany : ids.any p.has = true
  · left
    exact ⟨List.any_eq_true.mp hany, by rw [if_pos hany]⟩
  · right
    rw [if_neg hany]
    refine ⟨fun id hid => ?_, rfl⟩
    by_contra hhas
    exact hany (List.any_eq_true.mpr ⟨id, hid, by simpa using hhas⟩)

theorem capacity_claims (p : PublishedTransactions) (ids : List String) :
    (ids.foldl claim p).capacity = p.capacity := by
  induction ids generalizing p with
  | nil => rfl
  | cons id ids ih => exact ih (p.claim id)

/-- At most `k` ids were claimed after `id`. -/
def Recent (p : PublishedTransactions) (id : String) (k : ℕ) : Prop := p.inner.Recent id k

theorem recent_claims (h : p.Recent id k) (ids : List String) (hk : k + ids.length < p.capacity) :
    (ids.foldl claim p).Recent id (k + ids.length) := by
  induction ids generalizing p k with
  | nil => exact h
  | cons other ids ih =>
    simp only [List.length_cons] at hk ⊢
    have hnext : (p.claim other).Recent id (k + 1) := h.claim other (by omega)
    have hall := ih hnext (by show k + 1 + ids.length < p.capacity; omega)
    rw [show k + (ids.length + 1) = k + 1 + ids.length by omega]
    exact hall

theorem Recent.mono {k' : ℕ} (h : p.Recent id k) (hk : k ≤ k') :
    p.Recent id k' := Inner.Recent.mono h hk

theorem Recent.has (h : p.Recent id k) : p.has id = true :=
  Inner.Recent.has h p.wf

/-- An id is pushed out only by `capacity` later claims. -/
theorem recent_of_new (hnew : p.has id = false) (hfew : ids.length < p.capacity) :
    ((id :: ids).foldl claim p).Recent id ids.length := by
  have hclaimed : (p.claim id).Recent id 0 := Inner.recent_claim p.wf (by omega) hnew
  have hall := recent_claims hclaimed ids (by show 0 + ids.length < p.capacity; omega)
  rw [Nat.zero_add] at hall
  exact hall

theorem recent_of_mem (hnew : ∀ x ∈ ids, p.has x = false) (hnodup : ids.Nodup)
    (hlen : ids.length ≤ p.capacity) (hid : id ∈ ids) :
    (ids.foldl claim p).Recent id (ids.length - 1) := by
  induction ids generalizing p with
  | nil => simp at hid
  | cons x ids ih =>
    obtain ⟨hfresh, hrest⟩ := List.nodup_cons.mp hnodup
    simp only [List.length_cons] at hlen
    rcases List.mem_cons.mp hid with rfl | hlater
    · exact recent_of_new (hnew id List.mem_cons_self) (by omega)
    · have hnew' : ∀ y ∈ ids, (p.claim x).has y = false := by
        intro y hy
        by_contra hseen
        rcases Inner.has_of_claim (Bool.not_eq_false _ ▸ hseen) with rfl | hold
        · exact hfresh hy
        · have hnot := hnew y (List.mem_cons_of_mem x hy)
          exact absurd (hnot.symm.trans hold) (by simp)
      have hrecent := ih hnew' hrest (by show ids.length ≤ p.capacity; omega) hlater
      exact hrecent.mono (by simp only [List.length_cons]; omega)

end PublishedTransactions

end Gateway.Oanda
