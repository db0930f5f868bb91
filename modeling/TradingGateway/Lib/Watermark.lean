import Mathlib.Data.List.Induction
import Mathlib.Order.Lattice

/-!
# Overlapping batches and a high-water mark

A source is asked again and again, and each time answers with a batch of items in the order of their
keys. The batches overlap. A reader keeps the key of the last item it passed on, and passes on the
items of a batch that are newer; of the first batch only the newest.

* `passed_spec`: what is passed on is strictly in order, so nothing is passed on twice.
* `mem_passed_iff`: an item is passed on exactly if some batch has it before any batch had an item
  as new. An item that comes up behind the mark is lost.
-/

namespace Watermark

variable {α τ : Type*} [LinearOrder τ] (key : α → τ)

/-- The items of a batch that are passed on. -/
def fresh (mark : Option τ) (batch : List α) : List α :=
  match mark with
  | none => batch.getLast?.toList
  | some w => batch.filter fun x => key x > w

/-- The mark after a batch. -/
def advance (mark : Option τ) (batch : List α) : Option τ :=
  ((fresh key mark batch).getLast?.map key).or mark

/-- The mark and what was passed on, after the batches. -/
def read (batches : List (List α)) : Option τ × List α :=
  batches.foldl (fun (mark, passed) batch =>
    (advance key mark batch, passed ++ fresh key mark batch)) (none, [])

def mark (batches : List (List α)) : Option τ := (read key batches).1

def passed (batches : List (List α)) : List α := (read key batches).2

variable (batches : List (List α)) (batch : List α)

theorem mark_concat : mark key (batches ++ [batch]) = advance key (mark key batches) batch := by
  unfold mark read
  rw [List.foldl_append]
  rfl

theorem passed_concat :
    passed key (batches ++ [batch]) =
      passed key batches ++ fresh key (mark key batches) batch := by
  unfold passed mark read
  rw [List.foldl_append]
  rfl

/-- The keys of a batch increase. -/
def InOrder (batch : List α) : Prop := batch.Pairwise fun x y => key x < key y

variable {key batches batch}

theorem InOrder.le_getLast (h : InOrder key batch) {x y : α} (hx : x ∈ batch)
    (hy : batch.getLast? = some y) : key x ≤ key y := by
  obtain ⟨ys, rfl⟩ := List.getLast?_eq_some_iff.mp hy
  rcases List.mem_append.mp hx with hx | hx
  · exact ((List.pairwise_append.mp h).2.2 x hx y (List.mem_singleton_self y)).le
  · rw [List.mem_singleton.mp hx]

/-! ## One batch -/

theorem fresh_sublist (mark : Option τ) : (fresh key mark batch).Sublist batch := by
  cases mark with
  | some w => exact List.filter_sublist
  | none =>
    cases hlast : batch.getLast? with
    | none => simp only [fresh, hlast, Option.toList_none, List.nil_sublist]
    | some y =>
      simp only [fresh, hlast, Option.toList_some, List.singleton_sublist]
      exact List.mem_of_getLast? hlast

/-- The mark moves to the newest item of the batch, unless it is past it already. -/
theorem advance_of_getLast (h : InOrder key batch) {y : α} (hy : batch.getLast? = some y)
    (mark : Option τ) : advance key mark batch = some (mark.elim (key y) (max (key y))) := by
  cases mark with
  | none => simp [advance, fresh, hy]
  | some w =>
    rcases lt_or_ge w (key y) with hlt | hge
    · -- the last item of the batch is the last one that is passed on
      obtain ⟨ys, rfl⟩ := List.getLast?_eq_some_iff.mp hy
      simp [advance, fresh, List.filter_append, hlt, max_eq_left hlt.le]
    · have hnone : fresh key (some w) batch = [] := by
        refine List.filter_eq_nil_iff.mpr fun x hx => ?_
        rw [decide_eq_true_eq, gt_iff_lt, not_lt]
        exact (h.le_getLast hx hy).trans hge
      simp [advance, hnone, max_eq_right hge]

theorem advance_nil (mark : Option τ) : advance key mark [] = mark := by
  cases mark <;> rfl

/-! ## All batches -/

/-- The first batches, and one more. -/
theorem InOrder.of_concat (h : ∀ b ∈ batches ++ [batch], InOrder key b) :
    (∀ b ∈ batches, InOrder key b) ∧ InOrder key batch :=
  ⟨fun b hb => h b (List.mem_append_left _ hb),
    h batch (List.mem_append_right _ (List.mem_singleton_self batch))⟩

theorem le_mark (hsorted : ∀ b ∈ batches, InOrder key b) {b : List α} (hb : b ∈ batches) {x : α}
    (hx : x ∈ b) : ∃ w, mark key batches = some w ∧ key x ≤ w := by
  induction batches using List.reverseRecOn with
  | nil => cases hb
  | append_singleton batches batch ih =>
    obtain ⟨hold, hnew⟩ := InOrder.of_concat hsorted
    rw [mark_concat]
    rcases List.mem_append.mp hb with hb | hb
    · obtain ⟨w, hw, hle⟩ := ih hold hb
      rw [hw]
      cases hlast : batch.getLast? with
      | none =>
        rw [List.getLast?_eq_none_iff.mp hlast, advance_nil]
        exact ⟨w, rfl, hle⟩
      | some y =>
        rw [advance_of_getLast hnew hlast]
        exact ⟨_, rfl, hle.trans (le_max_right _ _)⟩
    · rw [List.mem_singleton.mp hb] at hx
      cases hlast : batch.getLast? with
      | none =>
        rw [List.getLast?_eq_none_iff.mp hlast] at hx
        cases hx
      | some y =>
        rw [advance_of_getLast hnew hlast]
        refine ⟨_, rfl, (hnew.le_getLast hx hlast).trans ?_⟩
        cases mark key batches with
        | none => exact le_rfl
        | some w => exact le_max_left _ _

theorem exists_of_mark (hsorted : ∀ b ∈ batches, InOrder key b) {w : τ}
    (hw : mark key batches = some w) : ∃ b ∈ batches, ∃ x ∈ b, key x = w := by
  induction batches using List.reverseRecOn generalizing w with
  | nil => cases hw
  | append_singleton batches batch ih =>
    obtain ⟨hold, hnew⟩ := InOrder.of_concat hsorted
    have hlater {w : τ} (h : ∃ b ∈ batches, ∃ x ∈ b, key x = w) :
        ∃ b ∈ batches ++ [batch], ∃ x ∈ b, key x = w := by
      obtain ⟨b, hb, hx⟩ := h
      exact ⟨b, List.mem_append_left _ hb, hx⟩
    rw [mark_concat] at hw
    cases hlast : batch.getLast? with
    | none =>
      rw [List.getLast?_eq_none_iff.mp hlast, advance_nil] at hw
      exact hlater (ih hold hw)
    | some y =>
      have hy : ∃ b ∈ batches ++ [batch], ∃ x ∈ b, key x = key y :=
        ⟨batch, List.mem_append_right _ (List.mem_singleton_self batch), y,
          List.mem_of_getLast? hlast, rfl⟩
      rw [advance_of_getLast hnew hlast, Option.some.injEq] at hw
      rw [← hw]
      cases hmark : mark key batches with
      | none => exact hy
      | some w' =>
        rcases le_total (key y) w' with hle | hle
        · rw [Option.elim_some, max_eq_right hle]
          exact hlater (ih hold hmark)
        · rw [Option.elim_some, max_eq_left hle]
          exact hy

/-- The mark is set by the first batch with an item. -/
theorem mark_eq_none_iff (hsorted : ∀ b ∈ batches, InOrder key b) :
    mark key batches = none ↔ ∀ b ∈ batches, b = [] := by
  constructor
  · intro hnone b hb
    refine List.eq_nil_iff_forall_not_mem.mpr fun x hx => ?_
    obtain ⟨w, hw, -⟩ := le_mark hsorted hb hx
    cases hnone.symm.trans hw
  · intro hempty
    cases hmark : mark key batches with
    | none => rfl
    | some w =>
      obtain ⟨b, hb, x, hx, -⟩ := exists_of_mark hsorted hmark
      rw [hempty b hb] at hx
      cases hx

/-- What is passed on is strictly in order, and not newer than the mark. -/
theorem passed_spec (hsorted : ∀ b ∈ batches, InOrder key b) :
    InOrder key (passed key batches) ∧
      ∀ x ∈ passed key batches, ∃ w, mark key batches = some w ∧ key x ≤ w := by
  induction batches using List.reverseRecOn with
  | nil => exact ⟨List.Pairwise.nil, nofun⟩
  | append_singleton batches batch ih =>
    obtain ⟨hold, hnew⟩ := InOrder.of_concat hsorted
    obtain ⟨hpairwise, hbound⟩ := ih hold
    rw [passed_concat]
    refine ⟨List.pairwise_append.mpr ⟨hpairwise, hnew.sublist (fresh_sublist _), ?_⟩, ?_⟩
    · intro x hx y hy
      obtain ⟨w, hw, hle⟩ := hbound x hx
      rw [hw] at hy
      exact hle.trans_lt (of_decide_eq_true (List.mem_filter.mp hy).2)
    · intro x hx
      rcases List.mem_append.mp hx with hx | hx
      · obtain ⟨w, hw, hle⟩ := hbound x hx
        obtain ⟨b, hb, x', hx', hkey⟩ := exists_of_mark hold hw
        obtain ⟨w', hw', hle'⟩ := le_mark hsorted (List.mem_append_left _ hb) hx'
        exact ⟨w', hw', hle.trans (hkey ▸ hle')⟩
      · exact le_mark hsorted (List.mem_append_right _ (List.mem_singleton_self batch))
          ((fresh_sublist _).subset hx)

theorem mem_passed {x : α} :
    x ∈ passed key batches ↔
      ∃ before b after, batches = before ++ b :: after ∧ x ∈ fresh key (mark key before) b := by
  induction batches using List.reverseRecOn with
  | nil =>
    refine iff_of_false List.not_mem_nil ?_
    rintro ⟨before, b, after, h, -⟩
    exact List.append_ne_nil_of_right_ne_nil before (List.cons_ne_nil b after) h.symm
  | append_singleton batches batch ih =>
    rw [passed_concat, List.mem_append, ih]
    constructor
    · rintro (⟨before, b, after, rfl, hx⟩ | hx)
      · exact ⟨before, b, after ++ [batch], by simp, hx⟩
      · exact ⟨batches, batch, [], rfl, hx⟩
    · rintro ⟨before, b, after, h, hx⟩
      rcases List.eq_nil_or_concat after with rfl | ⟨after, last, rfl⟩
      · obtain ⟨rfl, hb⟩ := List.append_inj' h rfl
        cases hb
        exact .inr hx
      · rw [List.concat_eq_append, ← List.cons_append, ← List.append_assoc] at h
        exact .inl ⟨before, b, after, (List.append_inj' h rfl).1, hx⟩

/-- What is passed on of a batch: what is newer than all before it; if nothing came before, only
the newest. -/
theorem mem_fresh_mark (hsorted : ∀ b ∈ batches, InOrder key b) {x : α} :
    x ∈ fresh key (mark key batches) batch ↔
      x ∈ batch ∧ (∀ b ∈ batches, ∀ y ∈ b, key y < key x) ∧
        ((∀ b ∈ batches, b = []) → batch.getLast? = some x) := by
  cases hmark : mark key batches with
  | none =>
    have hempty := (mark_eq_none_iff hsorted).mp hmark
    simp only [fresh, Option.mem_toList]
    constructor
    · intro hx
      refine ⟨List.mem_of_getLast? hx, fun b hb y hy => ?_, fun _ => hx⟩
      rw [hempty b hb] at hy
      cases hy
    · exact fun h => h.2.2 hempty
  | some w =>
    obtain ⟨b₀, hb₀, x₀, hx₀, hkey⟩ := exists_of_mark hsorted hmark
    simp only [fresh, List.mem_filter, decide_eq_true_eq]
    refine and_congr_right fun _ =>
      ⟨fun hlt => ⟨fun b hb y hy => ?_, fun hempty => ?_⟩, fun h => ?_⟩
    · obtain ⟨w', hw', hle⟩ := le_mark hsorted hb hy
      cases hmark.symm.trans hw'
      exact hle.trans_lt hlt
    · rw [hempty b₀ hb₀] at hx₀
      cases hx₀
    · rw [← hkey]
      exact h.1 b₀ hb₀ x₀ hx₀

theorem passed_append (batches later : List (List α)) :
    passed key batches <+: passed key (batches ++ later) := by
  induction later using List.reverseRecOn with
  | nil =>
    rewrite [List.append_nil]
    exact List.prefix_rfl
  | append_singleton later batch ih =>
    rw [← List.append_assoc, passed_concat]
    exact ih.trans (List.prefix_append _ _)

/-- If nothing came before a batch, its newest item is the first one passed on. -/
theorem head_passed (hempty : ∀ b ∈ batches, b = []) {y : α} (hy : batch.getLast? = some y)
    (later : List (List α)) : (passed key (batches ++ batch :: later)).head? = some y := by
  have hsorted : ∀ b ∈ batches, InOrder key b := fun b hb => hempty b hb ▸ List.Pairwise.nil
  have hmark : mark key batches = none := (mark_eq_none_iff hsorted).mpr hempty
  have hnone : passed key batches = [] := by
    refine List.eq_nil_iff_forall_not_mem.mpr fun x hx => ?_
    obtain ⟨w, hw, -⟩ := (passed_spec hsorted).2 x hx
    cases hmark.symm.trans hw
  have hone : passed key (batches ++ [batch]) = [y] := by
    rw [passed_concat, hnone, hmark, fresh, hy]
    rfl
  have hstarts : [y] <+: passed key (batches ++ [batch] ++ later) :=
    hone ▸ passed_append (batches ++ [batch]) later
  rw [List.append_assoc, List.singleton_append] at hstarts
  obtain ⟨rest, hrest⟩ := hstarts
  rw [← hrest]
  rfl

/-- An item that is newer than the first one passed on is passed on exactly if some batch has it
before any batch had an item as new. -/
theorem mem_passed_iff (hsorted : ∀ b ∈ batches, InOrder key b) {first x : α}
    (hfirst : (passed key batches).head? = some first) (hnewer : key first < key x) :
    x ∈ passed key batches ↔
      ∃ before b after, batches = before ++ b :: after ∧ x ∈ b ∧
        ∀ b' ∈ before, ∀ y ∈ b', key y < key x := by
  rw [mem_passed]
  refine exists_congr fun before => exists_congr fun b => exists_congr fun after =>
    and_congr_right ?_
  rintro rfl
  have hbefore : ∀ b' ∈ before, InOrder key b' := fun b' hb' =>
    hsorted b' (List.mem_append_left _ hb')
  rw [mem_fresh_mark hbefore]
  refine and_congr_right fun hx => and_iff_left fun hempty => ?_
  -- else the newest item of this batch is the first one, and not older than the item
  obtain ⟨y, hy⟩ := Option.isSome_iff_exists.mp
    (List.getLast?_isSome.mpr (List.ne_nil_of_mem hx))
  have hb : InOrder key b := hsorted b (by simp)
  rw [head_passed hempty hy, Option.some.injEq] at hfirst
  exact absurd (hb.le_getLast hx hy) (hfirst ▸ not_le.mpr hnewer)

end Watermark
