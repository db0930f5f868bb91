import Mathlib.Data.List.Basic

/-!
# Selections made at a source

A source gives the items that satisfy `p`, in any order. What it gives is translated by `t`, and an
item without a translation is dropped. `Selection.perm_wanted_iff`: this yields exactly the
translations that satisfy `q` if `p` says of every item what `q` says of its translation, and only
then. Different items may have one translation.
-/

namespace Selection

variable {α β : Type}

/-- The translations that satisfy `q`. -/
def wanted (t : α → Option β) (q : β → Bool) (items : List α) : List β :=
  (items.filterMap t).filter q

/-- `p` says of the items with a translation what `q` says of the translation. -/
def Agree (t : α → Option β) (p : α → Bool) (q : β → Bool) (items : List α) : Prop :=
  ∀ a ∈ items, ∀ b, t a = some b → (p a = true ↔ q b = true)

/-- A part that is as large as the whole is the whole. -/
theorem of_countP_eq {p q : α → Bool} {l : List α} (hpart : ∀ a ∈ l, p a = true → q a = true)
    (hcount : l.countP p = l.countP q) {a : α} (ha : a ∈ l) (hq : q a = true) : p a = true := by
  have hfilter : (l.filter q).filter p = l.filter p := by
    rw [List.filter_filter]
    refine List.filter_congr fun a ha => ?_
    cases hp : p a with
    | false => rfl
    | true => exact hpart a ha hp
  have hlength : (l.filter q).length ≤ ((l.filter q).filter p).length := by
    rw [hfilter, ← List.countP_eq_length_filter, ← List.countP_eq_length_filter]
    exact Nat.le_of_eq hcount.symm
  have heq : (l.filter q).filter p = l.filter q :=
    List.filter_sublist.eq_of_length_le hlength
  have hmem : a ∈ (l.filter q).filter p := by
    rw [heq]
    exact List.mem_filter.mpr ⟨ha, hq⟩
  exact (List.mem_filter.mp hmem).2

variable {t : α → Option β} {p : α → Bool} {q : β → Bool} {items : List α}

theorem filterMap_filter_eq (h : Agree t p q items) :
    (items.filter p).filterMap t = wanted t q items := by
  rw [wanted, List.filterMap_filter, List.filter_filterMap]
  refine List.filterMap_congr fun a ha => ?_
  cases ht : t a with
  | none => exact ite_self none
  | some b =>
    have hiff := h a ha b ht
    by_cases hp : p a = true
    · rw [if_pos hp, Option.filter_some_pos (hiff.mp hp)]
    · rw [if_neg hp, Option.filter_some_neg (Bool.eq_false_iff.mpr (mt hiff.mpr hp))]

theorem agree_of_perm (h : ((items.filter p).filterMap t).Perm (wanted t q items)) :
    Agree t p q items := by
  have hpart : ∀ a ∈ items, ∀ b, t a = some b → p a = true → q b = true := by
    intro a ha b ht hp
    have hmem : b ∈ (items.filter p).filterMap t :=
      List.mem_filterMap.mpr ⟨a, List.mem_filter.mpr ⟨ha, hp⟩, ht⟩
    exact (List.mem_filter.mp (h.mem_iff.mp hmem)).2
  have hlength := h.length_eq
  rw [wanted, List.filterMap_filter, List.filter_filterMap, List.length_filterMap_eq_countP,
    List.length_filterMap_eq_countP] at hlength
  intro a ha b ht
  refine ⟨hpart a ha b ht, fun hq => ?_⟩
  -- Both sides of `hlength` count items, so that two items with one translation are kept apart.
  have hgiven := of_countP_eq (fun c hc hsome => ?_) hlength ha (by simp [ht, hq])
  · by_contra hp
    rw [if_neg hp] at hgiven
    cases hgiven
  · by_cases hp : p c = true
    · rw [if_pos hp] at hsome
      obtain ⟨d, hd⟩ := Option.isSome_iff_exists.mp hsome
      rw [hd, Option.filter_some_pos (hpart c hc d hd hp)]
      rfl
    · rw [if_neg hp] at hsome
      cases hsome

/-- The translations of what the source gives are those that are wanted exactly if the two
selections agree. -/
theorem perm_wanted_iff {given : List α} (hgiven : given.Perm (items.filter p)) :
    (given.filterMap t).Perm (wanted t q items) ↔ Agree t p q items := by
  rw [(hgiven.filterMap t).congr_left]
  refine ⟨agree_of_perm, fun h => ?_⟩
  rw [filterMap_filter_eq h]

end Selection
