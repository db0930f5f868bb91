import Mathlib.Data.List.Dedup
import Mathlib.Data.List.DropRight
import Mathlib.Data.List.Infix

/-!
# The most recent elements of a history

A history is a list with the newest element last. A bounded memory of it keeps the `n` elements that
were added last, each once.

* `recent n l`: these elements, the newest last. `recent_concat` adds one that is not among them.
* `push`: the queue that forgets its oldest element; `foldl_push` pushes a batch with duplicates.
* `Spaced n l`: no element occurs twice in `n` consecutive places. `Spaced.append`: a history whose
  new elements are never among the recent ones stays so.
-/

namespace Window

/-! ## The last elements of a list -/

section last

variable {α : Type*} {n : ℕ} {l : List α} {x : α}

theorem rtake_of_length_le (h : l.length ≤ n) : l.rtake n = l := by
  rw [List.rtake, Nat.sub_eq_zero_of_le h, List.drop_zero]

theorem length_rtake_le (l : List α) (n : ℕ) : (l.rtake n).length ≤ n := by
  rw [List.rtake, List.length_drop]
  omega

/-- Only the last elements of the front count. -/
theorem rtake_append (a b : List α) (n : ℕ) :
    (a ++ b).rtake n = a.rtake (n - b.length) ++ b.rtake n := by
  unfold List.rtake
  rw [List.drop_append, List.length_append]
  rcases Nat.le_total b.length n with hle | hle
  · congr 2 <;> omega
  · rw [Nat.sub_eq_zero_of_le hle, Nat.sub_zero, List.drop_length,
      List.drop_eq_nil_of_le (by omega)]
    congr 2
    omega

theorem rtake_rtake (a : List α) {m n : ℕ} (h : m ≤ n) : (a.rtake n).rtake m = a.rtake m := by
  unfold List.rtake
  rw [List.drop_drop, List.length_drop]
  congr 1
  omega

theorem rtake_rtake_append (a b : List α) (n : ℕ) :
    (a.rtake n ++ b).rtake n = (a ++ b).rtake n := by
  rw [rtake_append, rtake_append, rtake_rtake a (Nat.sub_le n b.length)]

theorem mem_of_mem_rtake (h : x ∈ l.rtake n) : x ∈ l := List.mem_of_mem_drop h

end last

/-! ## The most recent elements -/

variable {α : Type*} [DecidableEq α] {n : ℕ} {l : List α} {x : α} {ys : List α}

/-- The `n` elements that were added last, each at its last place. -/
def recent (n : ℕ) (l : List α) : List α := l.dedup.rtake n

theorem length_recent_le (n : ℕ) (l : List α) : (recent n l).length ≤ n := length_rtake_le _ _

theorem dedup_concat (l : List α) (x : α) :
    (l ++ [x]).dedup = (l.dedup.filter fun y => y ≠ x) ++ [x] := by
  induction l with
  | nil => rfl
  | cons a l ih =>
    rw [List.cons_append]
    by_cases hal : a ∈ l
    · rw [List.dedup_cons_of_mem hal, List.dedup_cons_of_mem (List.mem_append_left _ hal), ih]
    · rw [List.dedup_cons_of_notMem hal]
      by_cases hax : a = x
      · rw [List.dedup_cons_of_mem (by simp [hax]), ih, List.filter_cons_of_neg (by simp [hax])]
      · rw [List.dedup_cons_of_notMem (by simp [hal, hax]), ih,
          List.filter_cons_of_pos (by simp [hax]), List.cons_append]

/-- The element pushes out the oldest one, if there are too many. -/
theorem recent_concat (hx : x ∉ recent n l) :
    recent n (l ++ [x]) = (recent n l ++ [x]).rtake n := by
  -- `x` can only be left out among the elements before the recent ones
  have hsplit : l.dedup = l.dedup.rdrop n ++ recent n l := (List.take_append_drop _ _).symm
  have hkept : (recent n l).filter (fun y => y ≠ x) = recent n l := by
    refine List.filter_eq_self.mpr fun y hy => decide_eq_true ?_
    rintro rfl
    exact hx hy
  have hlast : (l.dedup.filter fun y => y ≠ x).rtake (n - 1) = l.dedup.rtake (n - 1) := by
    by_cases hfull : n ≤ l.dedup.length
    · have hlen : (recent n l).length = n := by
        rw [recent, List.rtake, List.length_drop]
        omega
      have hnone : n - 1 - (recent n l).length = 0 := by omega
      rw [hsplit, List.filter_append, hkept, rtake_append, rtake_append, hnone, List.rtake_zero,
        List.rtake_zero]
    · have hall : recent n l = l.dedup := rtake_of_length_le (by omega)
      rw [← hall, hkept]
  show (l ++ [x]).dedup.rtake n = (l.dedup.rtake n ++ [x]).rtake n
  rw [rtake_rtake_append, dedup_concat, rtake_append, rtake_append, List.length_singleton, hlast]

/-- Other elements that were not recent are not recent after it. -/
theorem notMem_recent_concat (hx : x ∉ recent n l) (hfresh : x ∉ ys)
    (hys : ∀ y ∈ ys, y ∉ recent n l) : ∀ y ∈ ys, y ∉ recent n (l ++ [x]) := by
  intro y hy hrecent
  rw [recent_concat hx] at hrecent
  rcases List.mem_append.mp (mem_of_mem_rtake hrecent) with hold | hlast
  · exact hys y hy hold
  · exact hfresh (List.mem_singleton.mp hlast ▸ hy)

/-- The same for different elements, one after the other. -/
theorem recent_append (hnodup : ys.Nodup) (hys : ∀ y ∈ ys, y ∉ recent n l) :
    recent n (l ++ ys) = (recent n l ++ ys).rtake n := by
  induction ys generalizing l with
  | nil =>
    rw [List.append_nil, List.append_nil]
    exact (rtake_of_length_le (length_recent_le n l)).symm
  | cons y ys ih =>
    obtain ⟨hfresh, hnodup⟩ := List.nodup_cons.mp hnodup
    have hy := hys y List.mem_cons_self
    have hrest := notMem_recent_concat hy hfresh fun z hz => hys z (List.mem_cons_of_mem y hz)
    rw [List.append_cons, ih hnodup hrest, recent_concat hy, rtake_rtake_append,
      List.append_assoc, List.singleton_append]

/-! ## A queue that forgets -/

/-- Add an element to a queue of at most `n` elements that does not have it. -/
def push (n : ℕ) (queue : List α) (y : α) : List α :=
  if y ∈ queue then queue else (queue ++ [y]).rtake n

/-- The elements of a batch, each at its first place, after those of `done`. -/
def firstsFrom (done batch : List α) : List α :=
  batch.foldl (fun acc y => if y ∈ acc then acc else acc ++ [y]) done

/-- The different elements of a batch, in the order in which they first occur. -/
def firsts (batch : List α) : List α := firstsFrom [] batch

theorem firstsFrom_cons (done batch : List α) (y : α) :
    firstsFrom done (y :: batch) =
      firstsFrom (if y ∈ done then done else done ++ [y]) batch := rfl

theorem nodup_firstsFrom {done : List α} (h : done.Nodup) (batch : List α) :
    (firstsFrom done batch).Nodup := by
  induction batch generalizing done with
  | nil => exact h
  | cons y batch ih =>
    rw [firstsFrom_cons]
    split
    · exact ih h
    · rename_i hy
      exact ih (List.concat_eq_append ▸ h.concat hy)

theorem mem_firstsFrom {done batch : List α} :
    x ∈ firstsFrom done batch ↔ x ∈ done ∨ x ∈ batch := by
  induction batch generalizing done with
  | nil => simp [firstsFrom]
  | cons y batch ih =>
    rw [firstsFrom_cons, ih, List.mem_cons]
    split
    · rename_i hy
      constructor
      · rintro (h | h)
        · exact .inl h
        · exact .inr (.inr h)
      · rintro (h | rfl | h)
        · exact .inl h
        · exact .inl hy
        · exact .inr h
    · rw [List.mem_append, List.mem_singleton, or_assoc]

theorem length_le_firstsFrom (done batch : List α) :
    done.length ≤ (firstsFrom done batch).length := by
  induction batch generalizing done with
  | nil => exact le_rfl
  | cons y batch ih =>
    rw [firstsFrom_cons]
    refine le_trans ?_ (ih _)
    split
    · exact le_rfl
    · simp

theorem length_firsts (batch : List α) : (firsts batch).length = batch.dedup.length := by
  have hnodup : (firsts batch).Nodup := nodup_firstsFrom List.nodup_nil batch
  refine List.Perm.length_eq ?_
  rw [List.perm_ext_iff_of_nodup hnodup (List.nodup_dedup _)]
  intro y
  rw [firsts, mem_firstsFrom, List.mem_dedup]
  simp

/-- A batch of few different elements, none of them in the queue: none of them is forgotten before
the end of the batch, so duplicates are seen. -/
theorem foldl_push_from (older : List α) {done batch : List α} (hnew : ∀ y ∈ batch, y ∉ older)
    (hfew : (firstsFrom done batch).length ≤ n) :
    batch.foldl (push n) ((older ++ done).rtake n) = (older ++ firstsFrom done batch).rtake n := by
  induction batch generalizing done with
  | nil => rfl
  | cons y batch ih =>
    have hrest : ∀ z ∈ batch, z ∉ older := fun z hz => hnew z (List.mem_cons_of_mem y hz)
    rw [firstsFrom_cons] at hfew ⊢
    rw [List.foldl_cons]
    by_cases hy : y ∈ done
    · rw [if_pos hy] at hfew ⊢
      have hlen : done.length ≤ n := le_trans (length_le_firstsFrom done batch) hfew
      have hkept : y ∈ (older ++ done).rtake n := by
        rw [rtake_append, rtake_of_length_le hlen]
        exact List.mem_append_right _ hy
      rw [push, if_pos hkept]
      exact ih hrest hfew
    · rw [if_neg hy] at hfew ⊢
      have hfresh : y ∉ (older ++ done).rtake n := by
        intro hmem
        rcases List.mem_append.mp (mem_of_mem_rtake hmem) with hold | hdone
        · exact hnew y List.mem_cons_self hold
        · exact hy hdone
      rw [push, if_neg hfresh, rtake_rtake_append, List.append_assoc]
      exact ih hrest hfew

theorem foldl_push {queue batch : List α} (hlen : queue.length ≤ n)
    (hnew : ∀ y ∈ batch, y ∉ queue) (hfew : batch.dedup.length ≤ n) :
    batch.foldl (push n) queue = (queue ++ firsts batch).rtake n := by
  rw [← length_firsts] at hfew
  have h : batch.foldl (push n) ((queue ++ []).rtake n) = (queue ++ firsts batch).rtake n :=
    foldl_push_from queue hnew hfew
  rwa [List.append_nil, rtake_of_length_le hlen] at h

/-! ## Histories without near repetitions -/

/-- No element occurs twice in `n` consecutive places. -/
def Spaced (n : ℕ) (l : List α) : Prop := ∀ w, w <:+: l → w.length ≤ n → w.Nodup

/-- The last places of a history without repetition are recent. -/
theorem suffix_recent {w : List α} (hw : w <:+ l) (hnodup : w.Nodup) (hlen : w.length ≤ n) :
    w <:+ recent n l := by
  obtain ⟨a, rfl⟩ := hw
  obtain ⟨b, -, hb⟩ := List.sublist_suffix_of_union a w
  rw [recent, List.dedup_append, hnodup.dedup, ← hb, rtake_append, rtake_of_length_le hlen]
  exact List.suffix_append _ _

theorem Spaced.concat (h : Spaced n l) (hx : x ∉ recent n l) : Spaced n (l ++ [x]) := by
  intro w hw hlen
  rcases List.infix_concat_iff.mp hw with hend | hin
  · rcases List.suffix_concat_iff.mp hend with rfl | ⟨t, rfl, ht⟩
    · exact List.nodup_nil
    · -- the places before the last one are recent
      rw [List.length_append, List.length_singleton] at hlen
      have hnodup : t.Nodup := h t ht.isInfix (by omega)
      have hrecent := suffix_recent ht hnodup (n := n) (by omega)
      rw [← List.concat_eq_append]
      exact hnodup.concat fun hmem => hx (hrecent.mem hmem)
  · exact h w hin hlen

/-- A history stays spaced when different elements are added that are not recent. -/
theorem Spaced.append (h : Spaced n l) (hnodup : ys.Nodup) (hys : ∀ y ∈ ys, y ∉ recent n l) :
    Spaced n (l ++ ys) := by
  induction ys generalizing l with
  | nil => rwa [List.append_nil]
  | cons y ys ih =>
    obtain ⟨hfresh, hnodup⟩ := List.nodup_cons.mp hnodup
    have hy := hys y List.mem_cons_self
    have hrest := notMem_recent_concat hy hfresh fun z hz => hys z (List.mem_cons_of_mem y hz)
    rw [List.append_cons]
    exact ih (h.concat hy) hnodup hrest

end Window
