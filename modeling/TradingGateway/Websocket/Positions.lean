import Mathlib.Algebra.Order.BigOperators.Group.List
import Mathlib.Tactic.Linarith
import TradingGateway.Websocket.Synthesis

/-!
# The position synthesized from the fills of an order

The synthesis task adds the quantity of each fill event to the cached position. The events of the
provider event task carry the cumulative quantity of the order, and a change of the position is
found by comparing absolute quantities. So the cached position is the right one only in special
cases.

* `follow`: one fill, in numbers. `u` is the cached position counted against the order (what the
  order would close), `foreign` says that it is cached under another id than the synthesized one.
* `followAll_eq_iff`: when the fills of an order leave `u - q`, where `q` is what it filled.
* `slotAfter`: one fill, for the cached position of a symbol; `measure_slotAfter` ties it to
  `follow`, `slot_handleInternalEvent` to the code.
* `FillRun`: the provider event task and the synthesis task process the fills of one order, in any
  interleaving. `FillRun.slot_eq` is what the run does to the cached position.
-/

namespace Gateway.Registry

/-! ## Numbers -/

/-- A fill of `q` is not seen if it mirrors the position, or if it closes a position that is cached
under another id. -/
def follow (foreign : Bool) (u q : Decimal) : Bool × Decimal :=
  if q = 2 * u ∨ (foreign = true ∧ q = u) then (foreign, u) else (false, u - q)

def followAll (s : Bool × Decimal) (qs : List Decimal) : Bool × Decimal :=
  qs.foldl (fun s q => follow s.1 s.2 q) s

/-- The quantity of the fill that mirrors the position, if there is one. -/
def mirrored (u : Decimal) : List Decimal → Decimal
  | [] => 0
  | q :: rest => if q = 2 * u then q else mirrored (u - q) rest

variable (foreign : Bool) (s : Bool × Decimal) (symbol : String) (side : Side)
  {qs before : List Decimal} {u : Decimal} {slot : Option (CachedPosition × Bool)}

@[simp] theorem followAll_nil : followAll s [] = s := rfl

theorem followAll_cons (q : Decimal) (qs : List Decimal) :
    followAll s (q :: qs) = followAll (follow s.1 s.2 q) qs := rfl

theorem followAll_of_nonpos {foreign : Bool} (hu : u ≤ 0) (hqs : ∀ q ∈ qs, 0 < q) :
    (followAll (foreign, u) qs).2 = u - qs.sum := by
  induction qs generalizing foreign u with
  | nil => simp
  | cons q qs ih =>
    have hq : 0 < q := hqs q (by simp)
    have hstep : follow foreign u q = (false, u - q) := by
      unfold follow
      rw [if_neg]
      rintro (h | ⟨-, h⟩) <;> linarith
    rw [followAll_cons, hstep, ih (by linarith) fun q' hq' => hqs q' (by simp [hq']),
      List.sum_cons]
    ring

/-- Only the mirroring fill is not followed. -/
theorem followAll_eq_mirrored (hqs : (0 :: qs).Pairwise (· < ·)) :
    (followAll (false, u) qs).2 = u - qs.sum + mirrored u qs := by
  induction qs generalizing u with
  | nil => simp [mirrored]
  | cons q qs ih =>
    obtain ⟨hpos, hinc⟩ := List.pairwise_cons.mp hqs
    obtain ⟨hlt, hinc'⟩ := List.pairwise_cons.mp hinc
    have hq : 0 < q := hpos q (by simp)
    have hpos' : ∀ q' ∈ qs, 0 < q' := fun q' hq' => hpos q' (by simp [hq'])
    by_cases hm : q = 2 * u
    · -- Every later fill is larger, so it turns the position over.
      have hstep : follow false u q = (false, u) := by simp [follow, hm]
      have hrest : (followAll (false, u) qs).2 = u - qs.sum := by
        cases qs with
        | nil => simp
        | cons r rs =>
          have hr : q < r := hlt r (by simp)
          have hstep' : follow false u r = (false, u - r) := by
            unfold follow
            rw [if_neg]
            rintro (h | ⟨h, -⟩)
            · linarith
            · cases h
          rw [followAll_cons, hstep', followAll_of_nonpos (by linarith)
            fun r' hr' => hpos' r' (by simp [hr']), List.sum_cons]
          ring
      rw [followAll_cons, hstep, hrest]
      simp only [mirrored, if_pos hm, List.sum_cons]
      ring
    · have hstep : follow false u q = (false, u - q) := by simp [follow, hm]
      rw [followAll_cons, hstep, ih (List.pairwise_cons.mpr ⟨hpos', hinc'⟩)]
      simp only [mirrored, if_neg hm, List.sum_cons]
      ring

theorem mirrored_append (u q : Decimal) (hqs : ∀ q ∈ qs, 0 < q) :
    mirrored u (qs ++ [q]) =
      if mirrored u qs = 0 then (if q = 2 * (u - qs.sum) then q else 0) else mirrored u qs := by
  induction qs generalizing u with
  | nil => simp [mirrored]
  | cons r rs ih =>
    by_cases hm : r = 2 * u
    · have hr : r ≠ 0 := (hqs r (by simp)).ne'
      simp [mirrored, hm]
      intro h
      exact absurd (hm.trans (by rw [h]; ring)) hr
    · have hih := ih (u - r) fun q' hq' => hqs q' (by simp [hq'])
      have hsum : u - r - rs.sum = u - (r :: rs).sum := by rw [List.sum_cons]; ring
      rw [hsum] at hih
      simpa [mirrored, hm] using hih

/-- The mirroring fill is one of the fills, at its place. -/
theorem mirrored_split (u : Decimal) (qs : List Decimal) :
    mirrored u qs = 0 ∨
      ∃ before after, qs = before ++ mirrored u qs :: after ∧
        mirrored u qs = 2 * (u - before.sum) := by
  induction qs generalizing u with
  | nil => exact .inl rfl
  | cons q qs ih =>
    by_cases hm : q = 2 * u
    · refine .inr ⟨[], qs, ?_, ?_⟩ <;> simp [mirrored, hm]
    · have heq : mirrored u (q :: qs) = mirrored (u - q) qs := by simp [mirrored, hm]
      rw [heq]
      rcases ih (u - q) with h | ⟨before, after, hsplit, hval⟩
      · exact .inl h
      · refine .inr ⟨q :: before, after, ?_, ?_⟩
        · rw [List.cons_append, ← hsplit]
        · rw [hval, List.sum_cons]
          ring

/-- The mirroring fill and the sums before and after it. -/
theorem mirrored_parts (hqs : ∀ q ∈ qs, 0 < q) (h : mirrored u qs ≠ 0) :
    ∃ before after, qs = before ++ mirrored u qs :: after ∧
      mirrored u qs = 2 * (u - before.sum) ∧
      qs.sum = before.sum + (mirrored u qs + after.sum) ∧
      (∀ r ∈ before, 0 < r) ∧ (∀ r ∈ after, 0 < r) ∧ 0 < mirrored u qs := by
  obtain h0 | ⟨before, after, hsplit, hval⟩ := mirrored_split u qs
  · exact absurd h0 h
  · have hmem : ∀ r ∈ before ++ mirrored u qs :: after, 0 < r := by rwa [← hsplit]
    refine ⟨before, after, hsplit, hval, ?_, fun r hr => hmem r (by simp [hr]),
      fun r hr => hmem r (by simp [hr]), hmem _ (by simp)⟩
    conv_lhs => rw [hsplit]
    simp

theorem eq_singleton_of_mirrored (hqs : ∀ q ∈ qs, 0 < q) (h : mirrored u qs ≠ 0)
    (hsum : mirrored u qs = qs.sum) :
    qs = [mirrored u qs] ∧ mirrored u qs = 2 * u := by
  obtain ⟨before, after, hsplit, hval, hparts, hbefore, hafter, -⟩ := mirrored_parts hqs h
  have hb : 0 ≤ before.sum := List.sum_nonneg fun r hr => (hbefore r hr).le
  have ha : 0 ≤ after.sum := List.sum_nonneg fun r hr => (hafter r hr).le
  have h1 : before = [] := by
    by_contra hne
    have := List.sum_pos before hbefore hne
    linarith
  have h2 : after = [] := by
    by_contra hne
    have := List.sum_pos after hafter hne
    linarith
  subst h1 h2
  exact ⟨by simpa using hsplit, by simpa using hval⟩

/-- No fill mirrors a position of one and a half times their sum: it would be larger than the
sum. -/
theorem mirrored_eq_zero (hqs : ∀ q ∈ qs, 0 < q) (hu : 2 * u = 3 * qs.sum) : mirrored u qs = 0 := by
  by_contra h
  obtain ⟨before, after, -, hval, hparts, hbefore, hafter, hm⟩ := mirrored_parts hqs h
  have hb : 0 ≤ before.sum := List.sum_nonneg fun r hr => (hbefore r hr).le
  have ha : 0 ≤ after.sum := List.sum_nonneg fun r hr => (hafter r hr).le
  linarith

/-- The cached position is right after the fills `qs`: one fill, which does not mirror it; two
fills, the first of which mirrors it; or it is one and a half times what the order filled, and the
earlier quantities add up to that. -/
def Exact (u : Decimal) (qs : List Decimal) : Prop :=
  (∃ q, qs = [q] ∧ q ≠ 2 * u) ∨ (∃ q q', qs = [q, q'] ∧ q = 2 * u) ∨
    ∃ before q, qs = before ++ [q] ∧ before.sum = q ∧ 2 * u = 3 * q

/-- The mirrored quantity is the sum of the earlier ones, in the cases of `Exact`. -/
theorem mirrored_eq_sum_iff {q : Decimal} (hqs : (0 :: (before ++ [q])).Pairwise (· < ·)) :
    mirrored u (before ++ [q]) = before.sum ↔ Exact u (before ++ [q]) := by
  obtain ⟨hpos, hinc⟩ := List.pairwise_cons.mp hqs
  have hbefore : ∀ r ∈ before, 0 < r := fun r hr => hpos r (by simp [hr])
  rw [mirrored_append u q hbefore]
  constructor
  · intro h
    split at h
    · split at h
      · -- The last fill mirrors.
        rename_i hlast
        refine .inr (.inr ⟨before, q, rfl, h.symm, ?_⟩)
        linarith
      · -- No fill mirrors: there was only one.
        rename_i hnone hlast
        have hnil : before = [] := by
          by_contra hne
          exact absurd h (List.sum_pos before hbefore hne).ne
        subst hnil
        exact .inl ⟨q, rfl, by simpa using hlast⟩
    · -- An earlier fill mirrors: it is the only earlier one.
      rename_i hsome
      obtain ⟨hone, hval⟩ := eq_singleton_of_mirrored hbefore hsome h
      refine .inr (.inl ⟨mirrored u before, q, ?_, hval⟩)
      conv_lhs => rw [hone]
      rfl
  · rintro (⟨q', hq', hne⟩ | ⟨r, q', hrq, hr⟩ | ⟨before', q', heq, hsum, hu⟩)
    · obtain ⟨rfl, hqq⟩ : before = [] ∧ q = q' := by
        simpa [List.append_eq_cons_iff] using hq'
      subst hqq
      simp [mirrored, hne]
    · have hcat : before ++ [q] = [r] ++ [q'] := hrq
      obtain ⟨rfl, -⟩ := List.append_inj' hcat rfl
      have hr0 : r ≠ 0 := (hbefore r (by simp)).ne'
      simp [mirrored, hr.symm, hr0]
    · obtain ⟨rfl, hqq⟩ := List.append_inj' heq rfl
      cases hqq
      have hnone := mirrored_eq_zero hbefore (hsum.symm ▸ hu)
      have hlast : q = 2 * (u - before.sum) := by linarith
      rw [if_pos hnone, if_pos hlast, hsum]

/-- The fills that the cache can see: not a first one that closes a position cached under another
id. -/
def seenFills (foreign : Bool) (u : Decimal) : List Decimal → List Decimal
  | [] => []
  | q :: rest => if foreign = true ∧ q = u then rest else q :: rest

/-- A position under another id matters only for a fill that closes it. -/
theorem followAll_foreign (h : ∀ q ∈ qs, q ≠ u) :
    (followAll (true, u) qs).2 = (followAll (false, u) qs).2 := by
  induction qs with
  | nil => rfl
  | cons q qs ih =>
    have hq : q ≠ u := h q (by simp)
    rw [followAll_cons, followAll_cons]
    by_cases hm : q = 2 * u
    · have h1 : follow true u q = (true, u) := by simp [follow, hm]
      have h2 : follow false u q = (false, u) := by simp [follow, hm]
      rw [h1, h2]
      exact ih fun q' hq' => h q' (by simp [hq'])
    · have h1 : follow true u q = (false, u - q) := by simp [follow, hm, hq]
      have h2 : follow false u q = (false, u - q) := by simp [follow, hm]
      rw [h1, h2]

theorem followAll_seenFills (hqs : (0 :: qs).Pairwise (· < ·)) :
    (followAll (foreign, u) qs).2 = (followAll (false, u) (seenFills foreign u qs)).2 := by
  cases foreign with
  | false => cases qs <;> simp [seenFills]
  | true =>
    cases qs with
    | nil => rfl
    | cons q qs =>
      obtain ⟨hpos, hinc⟩ := List.pairwise_cons.mp hqs
      have hlt := (List.pairwise_cons.mp hinc).1
      have hq : 0 < q := hpos q (by simp)
      by_cases hclose : q = u
      · have hstep : follow true u q = (true, u) := by simp [follow, hclose]
        have hseen : seenFills true u (q :: qs) = qs := by simp [seenFills, hclose]
        rw [followAll_cons, hstep, hseen]
        exact followAll_foreign fun q' hq' => by rw [← hclose]; exact (hlt q' hq').ne'
      · have hseen : seenFills true u (q :: qs) = q :: qs := by simp [seenFills, hclose]
        rw [hseen]
        by_cases hm : q = 2 * u
        · refine followAll_foreign fun q' hq' => ?_
          rcases List.mem_cons.mp hq' with rfl | hq'
          · exact hclose
          · have := hlt q' hq'
            intro heq
            linarith
        · have h1 : follow true u q = (false, u - q) := by simp [follow, hm, hclose]
          have h2 : follow false u q = (false, u - q) := by simp [follow, hm]
          rw [followAll_cons, followAll_cons, h1, h2]

/-- The fills of an order leave the right position exactly in the cases of `Exact`. -/
theorem followAll_eq_iff {q : Decimal} (hqs : (0 :: (before ++ [q])).Pairwise (· < ·)) :
    (followAll (foreign, u) (before ++ [q])).2 = u - q ↔
      Exact u (seenFills foreign u (before ++ [q])) := by
  have hq : 0 < q := (List.pairwise_cons.mp hqs).1 q (by simp)
  rw [followAll_seenFills foreign hqs]
  have hlast : ∀ before', (0 :: (before' ++ [q])).Pairwise (· < ·) →
      ((followAll (false, u) (before' ++ [q])).2 = u - q ↔ Exact u (before' ++ [q])) := by
    intro before' h
    rw [followAll_eq_mirrored h, ← mirrored_eq_sum_iff h, List.sum_append, List.sum_singleton]
    constructor <;> intro heq <;> linarith
  cases before with
  | nil =>
    by_cases hclose : foreign = true ∧ q = u
    · have hseen : seenFills foreign u ([] ++ [q]) = [] := by simp [seenFills, hclose]
      rw [hseen]
      constructor
      · intro h
        simp at h
        linarith
      · rintro (⟨_, h, _⟩ | ⟨_, _, h, _⟩ | ⟨_, _, h, _⟩) <;> simp at h
    · have hseen : seenFills foreign u ([] ++ [q]) = [] ++ [q] := by
        simp only [List.nil_append, seenFills, if_neg hclose]
      rw [hseen]
      exact hlast [] hqs
  | cons r rs =>
    by_cases hclose : foreign = true ∧ r = u
    · have hseen : seenFills foreign u (r :: rs ++ [q]) = rs ++ [q] := by
        simp only [List.cons_append, seenFills, if_pos hclose]
      rw [hseen]
      refine hlast rs ?_
      obtain ⟨hpos, hinc⟩ := List.pairwise_cons.mp hqs
      exact List.pairwise_cons.mpr ⟨fun r' hr' => hpos r' (by
        rw [List.cons_append]; exact List.mem_cons_of_mem r hr'), (List.pairwise_cons.mp hinc).2⟩
    · have hseen : seenFills foreign u (r :: rs ++ [q]) = r :: rs ++ [q] := by
        simp only [List.cons_append, seenFills, if_neg hclose]
      rw [hseen]
      exact hlast (r :: rs) hqs

/-! ## The cached position of a symbol -/

/-- The position counted against an order of this side. -/
def against (side : Side) (v : Decimal) : Decimal :=
  match side with
  | .buy => -v
  | .sell => v

/-- The slot holds a position under another id than the synthesized one. -/
def isForeign (slot : Option (CachedPosition × Bool)) : Bool :=
  match slot with
  | some (_, own) => !own
  | none => false

/-- The net position that the synthesis finds for a fill of `q`. -/
def qtyAfter (side : Side) (q : Decimal) (slot : Option (CachedPosition × Bool)) : Decimal :=
  match side with
  | .buy => slotValue slot + q
  | .sell => slotValue slot - q

/-- The slot of a symbol after a fill event of an order with cumulative quantity `q`. -/
def slotAfter (symbol : String) (side : Side) (slot : Option (CachedPosition × Bool))
    (q : Decimal) : Option (CachedPosition × Bool) :=
  let qty := qtyAfter side q slot
  match Events.positionEventType ((slot.map fun x => x.1.quantity).getD 0) |qty| with
  | none => slot
  | some .positionClosed =>
    match slot with
    | some (p, false) => some (p, false)
    | _ => none
  | some _ =>
    some (⟨StateManager.ownId symbol, symbol, if 0 < qty then .long else .short, |qty|⟩, true)

/-- Cached quantities are absolute. -/
def SlotOk (slot : Option (CachedPosition × Bool)) : Prop := ∀ x ∈ slot, 0 ≤ x.1.quantity

/-- A cached position is not empty. -/
def SlotFull (slot : Option (CachedPosition × Bool)) : Prop := ∀ x ∈ slot, x.1.quantity ≠ 0

theorem abs_slotValue (h : SlotOk slot) :
    |slotValue slot| = (slot.map fun x => x.1.quantity).getD 0 := by
  cases slot with
  | none => simp [slotValue]
  | some x =>
    have hx : 0 ≤ x.1.quantity := h x rfl
    cases hs : x.1.side <;> simp [slotValue, signedQuantity, hs, abs_of_nonneg hx]

theorem slotValue_synthesized {qty : Decimal} (hqty : qty ≠ 0) :
    slotValue (some (⟨StateManager.ownId symbol, symbol, if 0 < qty then .long else .short,
      |qty|⟩, true)) = qty := by
  by_cases hpos : 0 < qty
  · simp [slotValue, signedQuantity, hpos, abs_of_pos hpos]
  · have hneg : qty < 0 := lt_of_le_of_ne (not_lt.mp hpos) hqty
    simp [slotValue, signedQuantity, hpos, abs_of_neg hneg]

theorem against_qtyAfter (q : Decimal) (slot : Option (CachedPosition × Bool)) :
    against side (qtyAfter side q slot) = against side (slotValue slot) - q := by
  cases side
  · simp only [against, qtyAfter]
    ring
  · rfl

@[simp] theorem abs_against (v : Decimal) : |against side v| = |v| := by
  cases side <;> simp [against]

@[simp] theorem against_eq_zero (v : Decimal) : against side v = 0 ↔ v = 0 := by
  cases side <;> simp [against]

/-- What the synthesis makes of a fill, in terms of the position against the order. -/
theorem positionEventType_eq {q : Decimal} (hq : 0 < q) :
    Events.positionEventType |u| |u - q| =
      if q = 2 * u then none
      else if q = u then some .positionClosed
      else if u = 0 then some .positionOpened
      else some .positionModified := by
  have hmirror : |u| = |u - q| ↔ q = 2 * u := by
    rw [abs_eq_abs]
    constructor
    · rintro (h | h) <;> linarith
    · intro h
      right
      linarith
  have hclose : |u - q| = 0 ↔ q = u := by
    rw [abs_eq_zero, sub_eq_zero]
    exact eq_comm
  have hempty : |u| = 0 ↔ u = 0 := abs_eq_zero
  unfold Events.positionEventType
  simp only [hempty, hclose, ne_eq, hmirror]
  by_cases hu : u = 0
  · have h1 : q ≠ 2 * u := by rw [hu]; linarith
    have h2 : q ≠ u := by rw [hu]; exact hq.ne'
    rw [if_pos hu, if_neg h2, if_neg h1, if_neg h2, if_pos hu]
  · by_cases hm : q = 2 * u
    · have h2 : q ≠ u := fun h => hu (by linarith)
      rw [if_neg hu, if_neg h2, if_neg (not_not.mpr hm), if_pos hm]
    · by_cases hc : q = u
      · rw [if_neg hu, if_pos hc, if_neg hm, if_pos hc]
      · rw [if_neg hu, if_neg hc, if_pos hm, if_neg hm, if_neg hc, if_neg hu]

/-- The slot after a fill: the same, emptied, or the synthesized position. -/
theorem slotAfter_eq {q : Decimal} (hq : 0 < q) (hok : SlotOk slot) :
    slotAfter symbol side slot q =
      if q = 2 * against side (slotValue slot) ∨
          (isForeign slot = true ∧ q = against side (slotValue slot)) then slot
      else if q = against side (slotValue slot) then none
      else some (⟨StateManager.ownId symbol, symbol,
        if 0 < qtyAfter side q slot then .long else .short, |qtyAfter side q slot|⟩, true) := by
  have hprev : (slot.map fun x => x.1.quantity).getD 0 = |against side (slotValue slot)| := by
    rw [abs_against, abs_slotValue hok]
  have habs : |qtyAfter side q slot| = |against side (slotValue slot) - q| := by
    rw [← against_qtyAfter, abs_against]
  unfold slotAfter
  dsimp only
  rw [hprev]
  conv_lhs => rw [habs, positionEventType_eq hq]
  by_cases hm : q = 2 * against side (slotValue slot)
  · have hsame : q = 2 * against side (slotValue slot) ∨
      (isForeign slot = true ∧ q = against side (slotValue slot)) := .inl hm
    simp only [if_pos hm, if_pos hsame]
  · by_cases hc : q = against side (slotValue slot)
    · simp only [if_neg hm, if_pos hc]
      cases slot with
      | none => simp [isForeign, hm]
      | some x =>
        obtain ⟨p, own⟩ := x
        cases own with
        | false => simp [isForeign, ← hc]
        | true =>
          have h2q : q ≠ 2 * q := by
            intro h
            linarith
          simp [isForeign, ← hc, h2q]
    · have hmove : ¬ (q = 2 * against side (slotValue slot) ∨
          (isForeign slot = true ∧ q = against side (slotValue slot))) := by
        rintro (h | ⟨-, h⟩) <;> contradiction
      simp only [if_neg hm, if_neg hc, if_neg hmove, habs]
      by_cases hu : against side (slotValue slot) = 0
      · simp only [if_pos hu]
      · simp only [if_neg hu]

section fill

variable (symbol : String) (side : Side) {q : Decimal} (hq : 0 < q)
  {slot : Option (CachedPosition × Bool)} (hok : SlotOk slot)

include hq hok

theorem slotOk_slotAfter : SlotOk (slotAfter symbol side slot q) := by
  rw [slotAfter_eq symbol side hq hok]
  split
  · exact hok
  · split
    · nofun
    · intro x hx
      obtain rfl := Option.some.inj hx
      exact abs_nonneg _

theorem slotFull_slotAfter : SlotFull (slotAfter symbol side slot q) := by
  rw [slotAfter_eq symbol side hq hok]
  split
  · rename_i hsame
    intro x hx hx0
    have hu : against side (slotValue slot) = 0 := by
      have := abs_slotValue hok
      rw [Option.mem_def.mp hx] at this ⊢
      rw [against_eq_zero]
      exact abs_eq_zero.mp (this.trans hx0)
    rw [hu] at hsame
    rcases hsame with h | ⟨-, h⟩ <;> linarith
  · split
    · nofun
    · rename_i hne
      intro x hx
      obtain rfl := Option.some.inj hx
      have hqty : against side (qtyAfter side q slot) ≠ 0 := by
        rw [against_qtyAfter]
        exact fun h => hne (by linarith)
      exact abs_ne_zero.mpr ((against_eq_zero side _).not.mp hqty)

/-- One fill event of the code is one step of `follow`. -/
theorem measure_slotAfter :
    (isForeign (slotAfter symbol side slot q),
        against side (slotValue (slotAfter symbol side slot q))) =
      follow (isForeign slot) (against side (slotValue slot)) q := by
  rw [slotAfter_eq symbol side hq hok, follow]
  split
  · rfl
  · split
    · rename_i hc
      rw [show against side (slotValue slot) - q = 0 by rw [hc]; ring]
      cases side <;> simp [isForeign, slotValue, against]
    · rename_i hne
      have hqty : against side (qtyAfter side q slot) ≠ 0 := by
        rw [against_qtyAfter]
        exact fun h => hne (by linarith)
      rw [slotValue_synthesized symbol ((against_eq_zero side _).not.mp hqty), against_qtyAfter]
      rfl

end fill

/-- The slot after the fills with these cumulative quantities. -/
def slotAfterAll (symbol : String) (side : Side) (slot : Option (CachedPosition × Bool))
    (qs : List Decimal) : Option (CachedPosition × Bool) :=
  qs.foldl (slotAfter symbol side) slot

theorem measure_slotAfterAll (hok : SlotOk slot) (hqs : ∀ q ∈ qs, 0 < q) :
    (isForeign (slotAfterAll symbol side slot qs),
        against side (slotValue (slotAfterAll symbol side slot qs))) =
      followAll (isForeign slot, against side (slotValue slot)) qs := by
  induction qs generalizing slot with
  | nil => rfl
  | cons q qs ih =>
    have hq := hqs q (by simp)
    have hstep := measure_slotAfter symbol side hq hok
    rw [followAll_cons, ← hstep]
    exact ih (slotOk_slotAfter symbol side hq hok) fun q' hq' => hqs q' (by simp [hq'])

theorem slotFull_slotAfterAll (hok : SlotOk slot) (hqs : ∀ q ∈ qs, 0 < q) (hne : qs ≠ []) :
    SlotFull (slotAfterAll symbol side slot qs) := by
  induction qs generalizing slot with
  | nil => exact absurd rfl hne
  | cons q qs ih =>
    have hq := hqs q (by simp)
    cases qs with
    | nil => exact slotFull_slotAfter symbol side hq hok
    | cons r rs =>
      exact ih (slotOk_slotAfter symbol side hq hok) (fun q' hq' => hqs q' (by simp [hq']))
        (by simp)

/-! ## The synthesis task -/

section synthesis

variable {β γ : Type} (c : Ctx β γ) (w : Events.World β γ)

theorem calculatePositionQtyFromFill_eq (s : StateManager) (order : Order) :
    calculatePositionQtyFromFill s order none =
      qtyAfter order.side order.filledQuantity (s.slot order.symbol) := by
  have hvalue : ((s.getPositionBySymbol order.symbol).map signedQuantity).getD 0 =
      slotValue (s.slot order.symbol) := by
    rw [s.getPositionBySymbol_eq]
    cases s.slot order.symbol <;> rfl
  unfold calculatePositionQtyFromFill qtyAfter
  cases order.side <;> simp only [hvalue, Option.getD_none]

/-- A fill event without a context changes the slot of its symbol as `slotAfter` says. -/
theorem slot_handleInternalEvent {eventType : OrderEventType}
    (hfill : Events.isFillEvent eventType = true) (order : Order) (parentOrderId : Option String)
    (platform : TradingPlatform) :
    (handleInternalEvent c ⟨.order eventType order parentOrderId, none, platform⟩ w).state.slot
        order.symbol =
      slotAfter order.symbol order.side (w.state.slot order.symbol) order.filledQuantity := by
  have hevent : handleInternalEvent c ⟨.order eventType order parentOrderId, none, platform⟩ w =
      Events.synthesizePositionFromFill c.router order
        (qtyAfter order.side order.filledQuantity (w.state.slot order.symbol)) w := by
    rw [← calculatePositionQtyFromFill_eq]
    simp [handleInternalEvent, hfill]
  rw [hevent, slot_synthesizePositionFromFill]
  rfl

end synthesis

/-! ## Runs -/

/-- A fill event on the provider's stream. -/
structure FillEvent where
  order : Order
  parentOrderId : Option String
  engineEventId : Option String
  fresh : Option WsMessage

def FillEvent.quantity (f : FillEvent) : Decimal := f.order.filledQuantity

def FillEvent.action (eventType : OrderEventType) (f : FillEvent) : Action :=
  .streamEvent (.order eventType f.order f.parentOrderId) f.engineEventId f.fresh

def Action.isStreamEvent : Action → Bool
  | .streamEvent .. => true
  | _ => false

/-- The stream stays up. -/
def Action.keepsStream : Action → Bool
  | .streamClosed _ | .reconnected | .connectionFailed => false
  | _ => true

/-- The fills of one order come in on the stream, first the partial ones, and both tasks process
them to the end. The synthesis task takes its rounds at any moments. -/
structure FillRun {β γ : Type} (c : Ctx β γ) (w : World β γ) (orderId symbol : String)
    (side : Side) (partials : List FillEvent) (last : FillEvent) (actions : List Action) :
    Prop where
  idle : w.internal = []
  ofOrder : ∀ f ∈ partials ++ [last],
    f.order.id = orderId ∧ f.order.symbol = symbol ∧ f.order.side = side
  increasing : (0 :: (partials.map FillEvent.quantity ++ [last.quantity])).Pairwise (· < ·)
  stream : actions.filter Action.isStreamEvent =
    partials.map (FillEvent.action .orderPartiallyFilled) ++ [last.action .orderFilled]
  connected : ∀ a ∈ actions, a.keepsStream = true
  drained : (Run.exec (step c) w actions).internal = []

section run

variable {β γ : Type} (c : Ctx β γ)

/-- An internal event that the synthesis task takes for a fill of the symbol. -/
inductive IsFill (symbol : String) (side : Side) : InternalTradingEvent → Decimal → Prop where
  | mk {eventType : OrderEventType} (hfill : Events.isFillEvent eventType = true) (order : Order)
      (parentOrderId : Option String) (platform : TradingPlatform) (hsymbol : order.symbol = symbol)
      (hside : order.side = side) :
      IsFill symbol side ⟨.order eventType order parentOrderId, none, platform⟩
        order.filledQuantity

variable {symbol : String} {side : Side} {w : World β γ} {e : InternalTradingEvent} {q : Decimal}
  {qs : List Decimal}

/-- A fill event on the stream changes no position, and the synthesis task gets to see it. -/
theorem streamEvent_fill {eventType : OrderEventType} (hfill : Events.isFillEvent eventType = true)
    {f : FillEvent} (hsymbol : f.order.symbol = symbol) (hside : f.order.side = side)
    (w : World β γ) :
    (step c w (f.action eventType)).router.state.slot symbol = w.router.state.slot symbol ∧
      ∃ e, (step c w (f.action eventType)).internal = w.internal ++ [e] ∧
        IsFill symbol side e f.quantity := by
  constructor
  · refine StateManager.slot_congr ?_ symbol
    exact Events.positionMaps_handleOrderEvent ..
  · have hinternal : ∀ o p, isInternal (.order eventType o p) = true := by
      intro o p
      cases eventType <;> first | rfl | cases hfill
    simp only [step, FillEvent.action, handleStreamEvent, enrich, hinternal, ↓reduceIte]
    exact ⟨_, rfl, .mk hfill _ _ c.platform hsymbol hside⟩

theorem synthesis_fill {rest : List InternalTradingEvent} (hq : w.internal = e :: rest)
    (he : IsFill symbol side e q) :
    (step c w .synthesis).internal = rest ∧
      (step c w .synthesis).router.state.slot symbol =
        slotAfter symbol side (w.router.state.slot symbol) q := by
  simp only [step, synthesisRound, hq, true_and]
  cases he with
  | mk hfill order parentOrderId platform hsymbol hside =>
    subst hsymbol hside
    exact slot_handleInternalEvent c w.router hfill order parentOrderId platform

/-- The fills that wait in the internal channel. -/
inductive Waiting (symbol : String) (side : Side) : List InternalTradingEvent → List Decimal → Prop
  | nil : Waiting symbol side [] []
  | cons {e q es qs} (he : IsFill symbol side e q) (h : Waiting symbol side es qs) :
      Waiting symbol side (e :: es) (q :: qs)

theorem Waiting.snoc {es : List InternalTradingEvent} (h : Waiting symbol side es qs)
    (he : IsFill symbol side e q) : Waiting symbol side (es ++ [e]) (qs ++ [q]) := by
  induction h with
  | nil => exact .cons he .nil
  | cons he' _ ih => exact .cons he' ih

/-- What the waiting fills and those still to come make of the cached position is the same at every
moment of the run. -/
theorem exec_slot {symbol : String} {side : Side} {fills : List (OrderEventType × FillEvent)}
    (hfills : ∀ x ∈ fills, Events.isFillEvent x.1 = true ∧ x.2.order.symbol = symbol ∧
      x.2.order.side = side)
    {actions : List Action} {w : World β γ} {qs : List Decimal}
    (hwait : Waiting symbol side w.internal qs)
    (hstream : actions.filter Action.isStreamEvent = fills.map fun x => x.2.action x.1)
    (hkeeps : ∀ a ∈ actions, a.keepsStream = true) :
    ∃ qs', Waiting symbol side (Run.exec (step c) w actions).internal qs' ∧
      slotAfterAll symbol side ((Run.exec (step c) w actions).router.state.slot symbol) qs' =
        slotAfterAll symbol side (w.router.state.slot symbol)
          (qs ++ fills.map fun x => x.2.quantity) := by
  induction actions generalizing w qs fills with
  | nil =>
    have hnil : fills = [] := by simpa using hstream.symm
    subst hnil
    exact ⟨qs, hwait, by simp⟩
  | cons a actions ih =>
    have hkeeps' : ∀ a ∈ actions, a.keepsStream = true := fun a ha => hkeeps a (by simp [ha])
    rw [Run.exec_cons]
    cases a with
    | streamEvent event engineEventId fresh =>
      cases fills with
      | nil => simp [Action.isStreamEvent] at hstream
      | cons x rest =>
        obtain ⟨eventType, f⟩ := x
        rw [List.filter_cons_of_pos rfl, List.map_cons, List.cons.injEq] at hstream
        obtain ⟨hfill, hsymbol, hside⟩ := hfills (eventType, f) (by simp)
        obtain ⟨hslot, e, hinternal, he⟩ := streamEvent_fill c hfill hsymbol hside w
        rw [hstream.1]
        obtain ⟨qs', hwait', hsame⟩ := ih (fun x hx => hfills x (by simp [hx]))
          (by rw [hinternal]; exact hwait.snoc he) hstream.2 hkeeps'
        refine ⟨qs', hwait', ?_⟩
        rw [hsame, hslot]
        simp
    | synthesis =>
      have hstream' : actions.filter Action.isStreamEvent = fills.map fun x => x.2.action x.1 := by
        simpa [Action.isStreamEvent] using hstream
      cases hint : w.internal with
      | nil =>
        have hsame : step c w .synthesis = w := by simp [step, synthesisRound, hint]
        rw [hsame]
        exact ih hfills hwait hstream' hkeeps'
      | cons e es =>
        rw [hint] at hwait
        cases hwait with
        | cons he hrest =>
          obtain ⟨hint', hslot⟩ := synthesis_fill c hint he
          obtain ⟨qs', hwait', hsame⟩ := ih hfills (by rw [hint']; exact hrest) hstream' hkeeps'
          exact ⟨qs', hwait', by rw [hsame, hslot]; rfl⟩
    | connect | disconnect | write =>
      exact ih hfills hwait (by simpa [Action.isStreamEvent] using hstream) hkeeps'
    | streamClosed | reconnected | connectionFailed =>
      have hlost := hkeeps _ List.mem_cons_self
      cases hlost

end run

/-- The cached position of a symbol has this signed quantity; none is cached for zero. -/
def CachedNet (s : StateManager) (symbol : String) (v : Decimal) : Prop :=
  netQuantity s symbol = v ∧ (v = 0 → s.getPositionBySymbol symbol = none)

instance (s : StateManager) (symbol : String) (v : Decimal) : Decidable (CachedNet s symbol v) :=
  inferInstanceAs (Decidable (_ ∧ _))

/-- The net position after an order filled `q`. -/
def netAfter (side : Side) (p q : Decimal) : Decimal :=
  match side with
  | .buy => p + q
  | .sell => p - q

theorem against_netAfter (p q : Decimal) :
    against side (netAfter side p q) = against side p - q := by
  cases side
  · simp only [against, netAfter]
    ring
  · rfl

theorem against_injective {v v' : Decimal} : against side v = against side v' ↔ v = v' := by
  cases side <;> simp [against]

/-- What the run makes of the cached position. -/
theorem FillRun.slot_eq {β γ : Type} {c : Ctx β γ} {w : World β γ} {orderId symbol : String}
    {side : Side} {partials : List FillEvent} {last : FillEvent} {actions : List Action}
    (hrun : FillRun c w orderId symbol side partials last actions) :
    (Run.exec (step c) w actions).router.state.slot symbol =
      slotAfterAll symbol side (w.router.state.slot symbol)
        (partials.map FillEvent.quantity ++ [last.quantity]) := by
  have hstream : actions.filter Action.isStreamEvent =
      (partials.map (fun f => (OrderEventType.orderPartiallyFilled, f)) ++
        [(OrderEventType.orderFilled, last)]).map fun x => x.2.action x.1 := by
    rw [hrun.stream, List.map_append, List.map_map]
    rfl
  have hfills : ∀ x ∈ partials.map (fun f => (OrderEventType.orderPartiallyFilled, f)) ++
      [(OrderEventType.orderFilled, last)],
      Events.isFillEvent x.1 = true ∧ x.2.order.symbol = symbol ∧ x.2.order.side = side := by
    intro x hx
    rcases List.mem_append.mp hx with h | h
    · obtain ⟨f, hf, rfl⟩ := List.mem_map.mp h
      exact ⟨rfl, (hrun.ofOrder f (by simp [hf])).2⟩
    · obtain rfl := List.mem_singleton.mp h
      exact ⟨rfl, (hrun.ofOrder last (by simp)).2⟩
  have hwait : Waiting symbol side w.internal [] := by
    rw [hrun.idle]
    exact .nil
  obtain ⟨qs', hwait', hslot⟩ := exec_slot c hfills hwait hstream hrun.connected
  rw [hrun.drained] at hwait'
  cases hwait'
  have hqs : (partials.map (fun f => (OrderEventType.orderPartiallyFilled, f)) ++
      [(OrderEventType.orderFilled, last)]).map (fun x => x.2.quantity) =
      partials.map FillEvent.quantity ++ [last.quantity] := by
    rw [List.map_append, List.map_map]
    rfl
  rw [← hqs]
  exact hslot

/-- The cached position after a slot of this value, if no empty position is cached. -/
theorem cachedNet_iff {s : StateManager} {symbol : String} (hfull : SlotFull (s.slot symbol))
    (v : Decimal) : CachedNet s symbol v ↔ slotValue (s.slot symbol) = v := by
  unfold CachedNet netQuantity
  rw [s.getPositionBySymbol_eq]
  cases hs : s.slot symbol with
  | none => simp [slotValue]
  | some x =>
    have hx : x.1.quantity ≠ 0 := hfull x hs
    simp only [Option.map_some, Option.getD_some, slotValue, reduceCtorEq, imp_false]
    constructor
    · exact fun h => h.1
    · rintro rfl
      refine ⟨rfl, ?_⟩
      unfold signedQuantity
      split
      · exact neg_ne_zero.mpr hx
      · exact hx

theorem slotOk_iff {s : StateManager} {symbol : String} :
    SlotOk (s.slot symbol) ↔ ∀ x ∈ s.getPositionBySymbol symbol, 0 ≤ x.quantity := by
  rw [s.getPositionBySymbol_eq]
  unfold SlotOk
  cases s.slot symbol <;> simp

/-- The position that the fills of an order leave in the cache is the right one exactly in the
cases of `Exact`, for the fills that the cache can see. -/
theorem synthesized_position_right_iff {β γ : Type} (c : Ctx β γ) {w : World β γ}
    {orderId symbol : String} {side : Side} {partials : List FillEvent} {last : FillEvent}
    {actions : List Action} (hrun : FillRun c w orderId symbol side partials last actions)
    (hok : ∀ x ∈ w.router.state.getPositionBySymbol symbol, 0 ≤ x.quantity) {p : Decimal}
    (hp : netQuantity w.router.state symbol = p) :
    CachedNet (Run.exec (step c) w actions).router.state symbol (netAfter side p last.quantity) ↔
      Exact (against side p) (seenFills (isForeign (w.router.state.slot symbol)) (against side p)
        (partials.map FillEvent.quantity ++ [last.quantity])) := by
  have hslot := slotOk_iff.mpr hok
  rw [netQuantity_eq] at hp
  have hpos : ∀ q ∈ partials.map FillEvent.quantity ++ [last.quantity], 0 < q :=
    (List.pairwise_cons.mp hrun.increasing).1
  have hmeasure : against side
      (slotValue ((Run.exec (step c) w actions).router.state.slot symbol)) =
      (followAll (isForeign (w.router.state.slot symbol), against side p)
        (partials.map FillEvent.quantity ++ [last.quantity])).2 := by
    rw [hrun.slot_eq, ← hp]
    exact congrArg Prod.snd (measure_slotAfterAll symbol side hslot hpos)
  have hfull : SlotFull ((Run.exec (step c) w actions).router.state.slot symbol) := by
    rw [hrun.slot_eq]
    exact slotFull_slotAfterAll symbol side hslot hpos (by simp)
  rw [cachedNet_iff hfull, ← against_injective side, hmeasure, against_netAfter]
  exact followAll_eq_iff _ hrun.increasing

/-! ## Examples -/

/-- A fill event of a buy order over 10 units, filled up to `q`. -/
def sampleFill (q : Decimal) : FillEvent where
  order := { sampleBracket.toOrder "o1" with filledQuantity := q, remainingQuantity := 10 - q }
  parentOrderId := none
  engineEventId := none
  fresh := none

/-- The order fills at once: the cached position is what it filled. -/
theorem synthesized_position_right_single :
    CachedNet (Run.exec (step .simulated) .simulated
      [(sampleFill 10).action .orderFilled, .synthesis]).router.state "BTCUSD" (0 + 10) := by
  have hrun : FillRun .simulated .simulated "o1" "BTCUSD" .buy [] (sampleFill 10)
      [(sampleFill 10).action .orderFilled, .synthesis] :=
    ⟨rfl, by simp [sampleFill, sampleBracket, OrderRequest.toOrder], by decide +kernel, rfl,
      by decide, by decide +kernel⟩
  refine (synthesized_position_right_iff .simulated hrun nofun rfl).mpr (.inl ⟨10, ?_, ?_⟩)
  · decide +kernel
  · decide +kernel

/-- The order fills in two parts. -/
def partsRun : List Action :=
  [(sampleFill 4).action .orderPartiallyFilled, .synthesis, (sampleFill 10).action .orderFilled,
    .synthesis]

/-- Both cumulative quantities are added: 14 units are cached where 10 were bought. -/
theorem partsRun_counts_twice :
    FillRun .simulated .simulated "o1" "BTCUSD" .buy [sampleFill 4] (sampleFill 10) partsRun ∧
      netQuantity World.simulated.router.state "BTCUSD" = 0 ∧
      netQuantity (Run.exec (step .simulated) .simulated partsRun).router.state "BTCUSD" = 14 ∧
      ¬ CachedNet (Run.exec (step .simulated) .simulated partsRun).router.state "BTCUSD"
        (0 + 10) := by
  refine ⟨⟨rfl, ?_, by decide +kernel, rfl, by decide, by decide +kernel⟩, by decide +kernel,
    by decide +kernel, by decide +kernel⟩
  intro f hf
  rcases List.mem_cons.mp hf with rfl | hf
  · exact ⟨rfl, rfl, rfl⟩
  · obtain rfl := List.mem_singleton.mp hf
    exact ⟨rfl, rfl, rfl⟩

end Gateway.Registry
