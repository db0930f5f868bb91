import Mathlib.Algebra.Order.Field.Basic
import Mathlib.Data.List.Induction
import Mathlib.Tactic.Linarith

/-!
# Netting

Lots, each a signed quantity at a price, are netted into one position. A lot on the side of the
position is averaged in. A lot on the other side reduces the position at its old average price, or
closes it, or turns it around at the price of the lot.

* `step`, `position`: the position and its average price.
* `episode`: the lots since the position was last flat or changed sides.
* `entries`: those of them on the side of the position. Their prices bound the average
  (`average_between`).
* `remainder`: the episode with what was left of the lot that turned the position around. Its mean
  is the average price, if no lot came from the other side (`average_eq_mean`).
-/

namespace Netting

/-- A signed quantity at a price. -/
structure Lot (K : Type*) where
  qty : K
  price : K
  deriving DecidableEq, Repr

variable {K : Type*} [Field K]

/-- The sum of the quantities. -/
def net (lots : List (Lot K)) : K := (lots.map Lot.qty).sum

/-- The lots with the first one cut down, so that their sum is `n`. -/
def remainder (n : K) : List (Lot K) → List (Lot K)
  | [] => []
  | l :: rest => ⟨n - net rest, l.price⟩ :: rest

@[simp] theorem net_nil : net ([] : List (Lot K)) = 0 := rfl

@[simp] theorem net_concat (lots : List (Lot K)) (l : Lot K) :
    net (lots ++ [l]) = net lots + l.qty := by
  simp [net]

theorem remainder_concat {n : K} {lots : List (Lot K)} (h : lots ≠ []) (l : Lot K) :
    remainder (n + l.qty) (lots ++ [l]) = remainder n lots ++ [l] := by
  cases lots with
  | nil => exact absurd rfl h
  | cons l₀ rest => simp [remainder]

variable [LinearOrder K]

/-- The position and its average price after one more lot. -/
def step (s : K × K) (l : Lot K) : K × K :=
  (s.1 + l.qty,
    if 0 < s.1 * l.qty then (s.2 * |s.1| + l.price * |l.qty|) / |s.1 + l.qty|
    else if 0 < s.1 * (s.1 + l.qty) then s.2
    else l.price)

/-- The position and its average price after all lots. -/
def position (lots : List (Lot K)) : K × K := lots.foldl step (0, 0)

/-- The lots since the position was last flat or changed sides, with the one that changed it. -/
def episode (lots : List (Lot K)) : List (Lot K) :=
  (lots.foldl (fun (s : K × List (Lot K)) l =>
    (s.1 + l.qty,
      if s.1 + l.qty = 0 then [] else if 0 < s.1 * (s.1 + l.qty) then s.2 ++ [l] else [l]))
    (0, [])).2

/-- The lots of the episode on the side of the position. -/
def entries (lots : List (Lot K)) : List (Lot K) :=
  (episode lots).filter fun l => 0 < net lots * l.qty

/-- The price of the lots on average, by quantity. -/
def mean (lots : List (Lot K)) : K :=
  (lots.map fun l => |l.qty| * l.price).sum / (lots.map fun l => |l.qty|).sum

theorem position_concat (lots : List (Lot K)) (l : Lot K) :
    position (lots ++ [l]) = step (position lots) l := by
  rw [position, List.foldl_append]
  rfl

theorem position_fst (lots : List (Lot K)) : (position lots).1 = net lots := by
  induction lots using List.reverseRecOn with
  | nil => rfl
  | append_singleton lots l ih => rw [position_concat, net_concat, ← ih, step]

theorem episode_concat (lots : List (Lot K)) (l : Lot K) :
    episode (lots ++ [l]) =
      if net (lots ++ [l]) = 0 then []
      else if 0 < net lots * net (lots ++ [l]) then episode lots ++ [l] else [l] := by
  have hfst : ∀ lots : List (Lot K), (lots.foldl (fun (s : K × List (Lot K)) l =>
      (s.1 + l.qty,
        if s.1 + l.qty = 0 then [] else if 0 < s.1 * (s.1 + l.qty) then s.2 ++ [l] else [l]))
      (0, [])).1 = net lots := by
    intro lots
    induction lots using List.reverseRecOn with
    | nil => rfl
    | append_singleton lots l ih =>
      rw [List.foldl_append, List.foldl_cons, List.foldl_nil, ih, net_concat]
  unfold episode
  rw [List.foldl_append, List.foldl_cons, List.foldl_nil, net_concat, hfst]

variable [IsStrictOrderedRing K] {lots : List (Lot K)} {l : Lot K}

/-! ## Sides -/

/-- Two positions on one side have the same lots on their side. -/
theorem sameSide_iff {n n' : K} (h : 0 < n * n') (q : K) : 0 < n' * q ↔ 0 < n * q := by
  have hneg {m : K} (hm : m < 0) : 0 < m * q ↔ q < 0 := by
    rw [← neg_mul_neg, mul_pos_iff_of_pos_left (neg_pos.mpr hm), neg_pos]
  rcases mul_pos_iff.mp h with ⟨hn, hn'⟩ | ⟨hn, hn'⟩
  · rw [mul_pos_iff_of_pos_left hn', mul_pos_iff_of_pos_left hn]
  · rw [hneg hn', hneg hn]

/-- What a lot does to a position that is not closed by it. -/
inductive Concat (lots : List (Lot K)) (l : Lot K) : Prop
  /-- It is averaged in. -/
  | added (hside : 0 < net lots * l.qty)
      (hentries : entries (lots ++ [l]) = entries lots ++ [l])
      (hepisode : episode (lots ++ [l]) = episode lots ++ [l])
      (haverage : (position (lots ++ [l])).2 =
        ((position lots).2 * |net lots| + l.price * |l.qty|) / (|net lots| + |l.qty|))
  /-- The position is reduced. -/
  | reduced (hside : ¬ 0 < net (lots ++ [l]) * l.qty) (hnet : net lots ≠ 0)
      (hentries : entries (lots ++ [l]) = entries lots)
      (hepisode : episode (lots ++ [l]) = episode lots ++ [l])
      (haverage : (position (lots ++ [l])).2 = (position lots).2)
  /-- The position is opened, or turned around. -/
  | opened (hentries : entries (lots ++ [l]) = [l]) (hepisode : episode (lots ++ [l]) = [l])
      (haverage : (position (lots ++ [l])).2 = l.price)

theorem abs_add_of_sameSide {n q : K} (h : 0 < n * q) : |n + q| = |n| + |q| := by
  rcases mul_pos_iff.mp h with ⟨hn, hq⟩ | ⟨hn, hq⟩
  · rw [abs_of_pos hn, abs_of_pos hq, abs_of_pos (add_pos hn hq)]
  · rw [abs_of_neg hn, abs_of_neg hq, abs_of_neg (add_neg hn hq), neg_add]

theorem concat_cases (hnet : net (lots ++ [l]) ≠ 0) : Concat lots l := by
  have hepisode := episode_concat lots l
  have haverage : (position (lots ++ [l])).2 = (step (position lots) l).2 := by
    rw [position_concat]
  rw [if_neg hnet] at hepisode
  simp only [step, position_fst, ← net_concat] at haverage
  by_cases hsame : 0 < net lots * net (lots ++ [l])
  · -- the position stays on its side, and so do its lots
    rw [if_pos hsame] at hepisode
    have hentries : entries (lots ++ [l]) =
        entries lots ++ [l].filter fun l => 0 < net lots * l.qty := by
      rw [entries, hepisode, List.filter_append]
      simp only [sameSide_iff hsame, entries]
    by_cases hside : 0 < net lots * l.qty
    · rw [if_pos hside, net_concat, abs_add_of_sameSide hside] at haverage
      refine .added hside ?_ hepisode haverage
      rw [hentries, List.filter_cons_of_pos (by simpa using hside), List.filter_nil]
    · rw [if_neg hside, if_pos hsame] at haverage
      refine .reduced ?_ (left_ne_zero_of_mul hsame.ne') ?_ hepisode haverage
      · rwa [sameSide_iff hsame]
      · rw [hentries, List.filter_cons_of_neg (by simpa using hside), List.filter_nil,
          List.append_nil]
  · rw [if_neg hsame] at hepisode
    have hside : 0 < net (lots ++ [l]) * l.qty := by
      have hsquare : 0 < net (lots ++ [l]) * net (lots ++ [l]) := mul_self_pos.mpr hnet
      rw [net_concat] at hsame hsquare ⊢
      nlinarith
    have hother : ¬ 0 < net lots * l.qty := by
      intro hadd
      refine hsame ?_
      rw [net_concat, mul_add]
      exact add_pos_of_nonneg_of_pos (mul_self_nonneg _) hadd
    rw [if_neg hother, if_neg hsame] at haverage
    refine .opened ?_ hepisode haverage
    rw [entries, hepisode, List.filter_cons_of_pos (by simpa using hside), List.filter_nil]

/-! ## The average price -/

theorem le_weighted {x a b v w : K} (ha : x ≤ a) (hb : x ≤ b) (hv : 0 < v) (hw : 0 < w) :
    x ≤ (a * v + b * w) / (v + w) := by
  rw [le_div_iff₀ (add_pos hv hw), mul_add]
  exact add_le_add (mul_le_mul_of_nonneg_right ha hv.le) (mul_le_mul_of_nonneg_right hb hw.le)

theorem weighted_le {x a b v w : K} (ha : a ≤ x) (hb : b ≤ x) (hv : 0 < v) (hw : 0 < w) :
    (a * v + b * w) / (v + w) ≤ x := by
  rw [div_le_iff₀ (add_pos hv hw), mul_add]
  exact add_le_add (mul_le_mul_of_nonneg_right ha hv.le) (mul_le_mul_of_nonneg_right hb hw.le)

/-- The average price lies between two prices at which the position was entered. -/
theorem average_between (lots : List (Lot K)) (hnet : net lots ≠ 0) :
    (∃ l ∈ entries lots, l.price ≤ (position lots).2) ∧
      ∃ l ∈ entries lots, (position lots).2 ≤ l.price := by
  induction lots using List.reverseRecOn with
  | nil => exact absurd rfl hnet
  | append_singleton lots l ih =>
    cases concat_cases hnet with
    | added hside hentries _ haverage =>
      have hv : 0 < |net lots| := abs_pos.mpr (left_ne_zero_of_mul hside.ne')
      have hw : 0 < |l.qty| := abs_pos.mpr (right_ne_zero_of_mul hside.ne')
      obtain ⟨⟨low, hlow, hle⟩, high, hhigh, hge⟩ := ih (left_ne_zero_of_mul hside.ne')
      rw [hentries, haverage]
      have hl : l ∈ entries lots ++ [l] := List.mem_append_right _ (List.mem_singleton_self l)
      -- the old average and the new price: the nearer bound is the old one or the new lot
      rcases le_total l.price (position lots).2 with hprice | hprice
      · exact ⟨⟨l, hl, le_weighted hprice le_rfl hv hw⟩, high, List.mem_append_left _ hhigh,
          weighted_le hge (hprice.trans hge) hv hw⟩
      · exact ⟨⟨low, List.mem_append_left _ hlow, le_weighted hle (hle.trans hprice) hv hw⟩, l, hl,
          weighted_le hprice le_rfl hv hw⟩
    | reduced _ hold hentries _ haverage =>
      rw [hentries, haverage]
      exact ih hold
    | opened hentries _ haverage =>
      rw [hentries, haverage]
      exact ⟨⟨l, List.mem_singleton_self l, le_rfl⟩, l, List.mem_singleton_self l, le_rfl⟩

theorem episode_ne_nil (hnet : net lots ≠ 0) : episode lots ≠ [] := by
  obtain ⟨⟨l, hl, -⟩, -⟩ := average_between lots hnet
  exact List.ne_nil_of_mem (List.mem_filter.mp hl).1

/-- The lots on the side of the position that no lot of the other side came after. -/
theorem volume_remainder (lots : List (Lot K)) (hnet : net lots ≠ 0)
    (hside : ∀ l ∈ episode lots, 0 < net lots * l.qty) :
    ((remainder (net lots) (episode lots)).map fun l => |l.qty|).sum = |net lots| ∧
      ((remainder (net lots) (episode lots)).map fun l => |l.qty| * l.price).sum =
        (position lots).2 * |net lots| := by
  induction lots using List.reverseRecOn with
  | nil => exact absurd rfl hnet
  | append_singleton lots l ih =>
    cases concat_cases hnet with
    | added hadd _ hepisode haverage =>
      have hold : net lots ≠ 0 := left_ne_zero_of_mul hadd.ne'
      have hsame : 0 < net lots * net (lots ++ [l]) := by
        rw [net_concat, mul_add]
        exact add_pos_of_nonneg_of_pos (mul_self_nonneg _) hadd
      have hsum : 0 < |net lots| + |l.qty| :=
        add_pos_of_pos_of_nonneg (abs_pos.mpr hold) (abs_nonneg _)
      rw [hepisode] at hside ⊢
      obtain ⟨hvolume, hcost⟩ := ih hold fun l' hl' =>
        (sameSide_iff hsame _).mp (hside l' (List.mem_append_left _ hl'))
      rw [net_concat, remainder_concat (episode_ne_nil hold), haverage, abs_add_of_sameSide hadd,
        div_mul_cancel₀ _ hsum.ne']
      simp only [List.map_append, List.map_cons, List.map_nil, List.sum_append, List.sum_cons,
        List.sum_nil, add_zero, hvolume, hcost, mul_comm l.price, and_self]
    | reduced hother _ _ hepisode _ =>
      rw [hepisode] at hside
      exact absurd (hside l (List.mem_append_right _ (List.mem_singleton_self l))) hother
    | opened _ hepisode haverage =>
      rw [hepisode, haverage]
      simp [remainder, mul_comm]

/-- The average price is the mean of the prices at which the position was entered, as long as it was
not reduced. -/
theorem average_eq_mean (lots : List (Lot K)) (hnet : net lots ≠ 0)
    (hside : ∀ l ∈ episode lots, 0 < net lots * l.qty) :
    (position lots).2 = mean (remainder (net lots) (episode lots)) := by
  obtain ⟨hvolume, hcost⟩ := volume_remainder lots hnet hside
  rw [mean, hvolume, hcost, mul_div_cancel_right₀ _ (abs_pos.mpr hnet).ne']

end Netting
