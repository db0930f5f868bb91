import Mathlib.Algebra.Order.Sub.Basic
import TradingGateway.Lib.Run

/-!
# Circuit breakers

A breaker opens when `threshold` failures lie within a `window` of time. It stays open until a
reset, and resets closer together than `cooldown` are refused.

The breaker (`State`) keeps only the failures that may still count, and whether it has opened. What
it should do is said by the whole past (`History`): every failure since the last reset, and every
reset.

* `History.Trips`: at some failure, enough failures lay within the window.
* `dropWhile_eq_filter`: on sorted instants, dropping old ones from the front drops all old ones.
* `Tracks`: the breaker agrees with the past; `Tracks.failure`, `Tracks.reset` keep it.
* `exec_tracks`: so it does after any calls at non-decreasing instants.
-/

namespace Breaker

variable {τ : Type} [LinearOrder τ] [Sub τ]

structure Limits (τ : Type) where
  threshold : ℕ
  window : τ
  cooldown : τ

inductive Call (τ : Type) where
  | failure (now : τ)
  | reset (now : τ)
  deriving DecidableEq, Repr

def Call.instant : Call τ → τ
  | failure now | reset now => now

/-! ## The breaker -/

@[ext] structure State (τ : Type) where
  /-- The failures that may still count, oldest first. -/
  recent : List τ
  isOpen : Bool
  lastReset : Option τ
  deriving DecidableEq, Repr

namespace State

def start : State τ := ⟨[], false, none⟩

/-- Drop the failures older than the window, add this one, and open at the threshold. -/
def failure (l : Limits τ) (s : State τ) (now : τ) : State τ :=
  let recent := s.recent.dropWhile (fun t => now - t > l.window) ++ [now]
  { s with recent, isOpen := decide (recent.length ≥ l.threshold) || s.isOpen }

/-- Close the breaker, unless the last reset is closer than the cooldown. -/
def reset (l : Limits τ) (s : State τ) (now : τ) : Bool × State τ :=
  if s.lastReset.any fun last => now - last < l.cooldown then (false, s)
  else (true, ⟨[], false, some now⟩)

theorem reset_snd (l : Limits τ) (s : State τ) (now : τ) :
    (s.reset l now).2 = if (s.reset l now).1 then ⟨[], false, some now⟩ else s := by
  unfold reset
  split <;> rfl

def step (l : Limits τ) (s : State τ) : Call τ → State τ
  | .failure now => s.failure l now
  | .reset now => (s.reset l now).2

end State

/-! ## The past -/

structure History (τ : Type) where
  /-- The failures since the last reset. -/
  failures : List τ
  /-- The resets that were not refused. -/
  resets : List τ
  deriving DecidableEq, Repr

namespace History

def start : History τ := ⟨[], []⟩

/-- No reset is closer than the cooldown. -/
def MayReset (l : Limits τ) (h : History τ) (now : τ) : Prop :=
  ∀ r ∈ h.resets, l.cooldown ≤ now - r

instance (l : Limits τ) (h : History τ) (now : τ) : Decidable (h.MayReset l now) :=
  inferInstanceAs (Decidable (∀ _ ∈ _, _))

def step (l : Limits τ) (h : History τ) : Call τ → History τ
  | .failure now => { h with failures := h.failures ++ [now] }
  | .reset now => if h.MayReset l now then ⟨[], h.resets ++ [now]⟩ else h

/-- At the last failure of some initial part, the threshold is met within the window. -/
def Trips (l : Limits τ) (h : History τ) : Prop :=
  ∃ before now, before ++ [now] <+: h.failures ∧
    l.threshold ≤ ((before ++ [now]).filter fun t => now - t ≤ l.window).length

/-- Nothing in the past is later than `now`. -/
def UpTo (h : History τ) (now : τ) : Prop := (∀ t ∈ h.failures, t ≤ now) ∧ ∀ r ∈ h.resets, r ≤ now

end History

/-! ## The breaker agrees with the past -/

variable {l : Limits τ} {h : History τ} {s : State τ} {calls : List (Call τ)}

/-- The breaker keeps what matters of the past. -/
structure Tracks (l : Limits τ) (h : History τ) (s : State τ) : Prop where
  sorted : h.failures.Pairwise (· ≤ ·)
  resetsSorted : h.resets.Pairwise (· ≤ ·)
  sublist : s.recent.Sublist h.failures
  /-- The failures that were dropped are old, now and later. -/
  recent : ∀ now, (∀ t ∈ h.failures, t ≤ now) →
    s.recent.filter (fun t => now - t ≤ l.window) =
      h.failures.filter fun t => now - t ≤ l.window
  isOpen : s.isOpen = true ↔ h.Trips l
  lastReset : s.lastReset = h.resets.getLast?

theorem not_trips_nil (rs : List τ) : ¬ History.Trips l ⟨[], rs⟩ := by
  rintro ⟨before, now, hp, -⟩
  simp at hp

/-- One failure more: the past trips if it did before, or at this failure. -/
theorem trips_concat (ts rs : List τ) (now : τ) :
    History.Trips l ⟨ts ++ [now], rs⟩ ↔
      l.threshold ≤ ((ts ++ [now]).filter fun t => now - t ≤ l.window).length ∨
        History.Trips l ⟨ts, rs⟩ := by
  constructor
  · rintro ⟨before, now', hp, hcount⟩
    rcases List.prefix_concat_iff.mp hp with heq | hp
    · rw [heq] at hcount
      obtain ⟨-, rfl⟩ := List.append_inj' heq rfl |>.imp id List.singleton_inj.mp
      exact .inl hcount
    · exact .inr ⟨before, now', hp, hcount⟩
  · rintro (hcount | ⟨before, now', hp, hcount⟩)
    · exact ⟨ts, now, List.prefix_rfl, hcount⟩
    · exact ⟨before, now', hp.trans (List.prefix_append _ _), hcount⟩

theorem Tracks.start : Tracks l .start (.start : State τ) where
  sorted := .nil
  resetsSorted := .nil
  sublist := .slnil
  recent _ _ := rfl
  isOpen := iff_of_false Bool.false_ne_true (not_trips_nil [])
  lastReset := rfl

/-- Calls at non-decreasing instants, none earlier than the past, are never earlier than it. -/
theorem guarded_upTo (hsorted : (calls.map Call.instant).Pairwise (· ≤ ·))
    (hup : ∀ call ∈ calls, h.UpTo call.instant) :
    Run.Guarded (History.step l) (fun h call => h.UpTo call.instant) h calls := by
  induction calls generalizing h with
  | nil => trivial
  | cons call calls ih =>
    rw [List.map_cons, List.pairwise_cons] at hsorted
    refine ⟨hup call List.mem_cons_self, ih hsorted.2 fun later hlater => ?_⟩
    have hle : call.instant ≤ later.instant := hsorted.1 _ (List.mem_map_of_mem hlater)
    have hold := hup later (List.mem_cons_of_mem _ hlater)
    cases call with
    | failure now =>
      refine ⟨fun t ht => ?_, hold.2⟩
      rcases List.mem_append.mp ht with ht | ht
      · exact hold.1 t ht
      · rw [List.mem_singleton.mp ht]
        exact hle
    | reset now =>
      simp only [History.step]
      split
      · refine ⟨List.forall_mem_nil _, fun r hr => ?_⟩
        rcases List.mem_append.mp hr with hr | hr
        · exact hold.2 r hr
        · rw [List.mem_singleton.mp hr]
          exact hle
      · exact hold

variable [AddCommMonoid τ] [OrderedSub τ]

theorem filter_filter_of_le {now later : τ} (hle : now ≤ later) (ts : List τ) (window : τ) :
    (ts.filter fun t => now - t ≤ window).filter (fun t => later - t ≤ window) =
      ts.filter fun t => later - t ≤ window := by
  rw [List.filter_filter]
  refine List.filter_congr fun t _ => ?_
  have hyoung : later - t ≤ window → now - t ≤ window := (tsub_le_tsub_right hle t).trans
  simpa using hyoung

variable [IsOrderedAddMonoid τ] {now : τ}

/-- On sorted instants the old ones come first. -/
theorem dropWhile_eq_filter {ts : List τ} (hsorted : ts.Pairwise (· ≤ ·)) (now window : τ) :
    ts.dropWhile (fun t => now - t > window) = ts.filter fun t => now - t ≤ window := by
  induction ts with
  | nil => rfl
  | cons t ts ih =>
    rw [List.pairwise_cons] at hsorted
    by_cases hold : now - t > window
    · rw [List.dropWhile_cons_of_pos (by simpa only [decide_eq_true_eq] using hold), ih hsorted.2,
        List.filter_cons_of_neg (by simpa only [decide_eq_true_eq, not_le] using hold)]
    · rw [List.dropWhile_cons_of_neg (by simpa only [decide_eq_true_eq] using hold)]
      refine (List.filter_eq_self.mpr fun t' ht' => ?_).symm
      have hlater : t ≤ t' := by
        rcases List.mem_cons.mp ht' with rfl | hmem
        · exact le_rfl
        · exact hsorted.1 t' hmem
      exact decide_eq_true ((tsub_le_tsub_left hlater now).trans (not_lt.mp hold))

/-- A reset succeeds exactly if no reset before it is too close: the last one is the closest. -/
theorem Tracks.reset_fst (ht : Tracks l h s) (now : τ) :
    (s.reset l now).1 = true ↔ h.MayReset l now := by
  have hfst : (s.reset l now).1 = !(s.lastReset.any fun last => now - last < l.cooldown) := by
    unfold State.reset
    split <;> simp_all
  rw [hfst, ht.lastReset]
  cases hlast : h.resets.getLast? with
  | none =>
    rw [List.getLast?_eq_none_iff] at hlast
    simp [History.MayReset, hlast]
  | some last =>
    obtain ⟨earlier, hresets⟩ := List.getLast?_eq_some_iff.mp hlast
    have hsorted := ht.resetsSorted
    rw [hresets] at hsorted
    have hclosest : ∀ r ∈ h.resets, r ≤ last := by
      intro r hr
      rw [hresets, List.mem_append, List.mem_singleton] at hr
      rcases hr with hr | rfl
      · exact (List.pairwise_append.mp hsorted).2.2 r hr last (List.mem_singleton_self _)
      · exact le_rfl
    simp only [Option.any_some, Bool.not_eq_true', decide_eq_false_iff_not, not_lt]
    constructor
    · intro hfar r hr
      exact hfar.trans (tsub_le_tsub_left (hclosest r hr) now)
    · intro hmay
      exact hmay last (by rw [hresets]; simp)

theorem Tracks.reset (ht : Tracks l h s) (hup : h.UpTo now) :
    Tracks l (h.step l (.reset now)) (s.reset l now).2 := by
  rw [State.reset_snd, History.step]
  by_cases hmay : h.MayReset l now
  · rw [if_pos hmay, if_pos ((ht.reset_fst now).mpr hmay)]
    refine ⟨.nil, ?_, .slnil, fun _ _ => rfl, iff_of_false Bool.false_ne_true (not_trips_nil _), ?_⟩
    · refine List.pairwise_append.mpr
        ⟨ht.resetsSorted, List.pairwise_singleton _ _, fun r hr r' hr' => ?_⟩
      rw [List.mem_singleton.mp hr']
      exact hup.2 r hr
    · simp
  · rw [if_neg hmay, if_neg fun hok => hmay ((ht.reset_fst now).mp hok)]
    exact ht

variable [CanonicallyOrderedAdd τ]

theorem Tracks.failure (ht : Tracks l h s) (hup : h.UpTo now) :
    Tracks l (h.step l (.failure now)) (s.failure l now) := by
  -- what the breaker keeps at this failure is all that counts at it
  have hrecent : (s.failure l now).recent =
      (h.failures ++ [now]).filter fun t => now - t ≤ l.window := by
    have hcounts : now - now ≤ l.window := by rw [tsub_self]; exact zero_le
    rw [State.failure, dropWhile_eq_filter (ht.sorted.sublist ht.sublist), ht.recent now hup.1,
      List.filter_append, List.filter_cons_of_pos (by simpa only [decide_eq_true_eq] using hcounts)]
    rfl
  refine ⟨?_, ht.resetsSorted, ?_, ?_, ?_, ht.lastReset⟩
  · refine List.pairwise_append.mpr ⟨ht.sorted, List.pairwise_singleton _ _, fun t htm t' ht' => ?_⟩
    rw [List.mem_singleton.mp ht']
    exact hup.1 t htm
  · rw [hrecent]
    exact List.filter_sublist
  · intro later hlater
    have hle : now ≤ later := hlater now (by simp [History.step])
    rw [hrecent, filter_filter_of_le hle]
    rfl
  · have hopen : (s.failure l now).isOpen =
        (decide ((s.failure l now).recent.length ≥ l.threshold) || s.isOpen) := rfl
    rw [hopen, hrecent, Bool.or_eq_true, decide_eq_true_eq, ht.isOpen]
    exact (trips_concat h.failures h.resets now).symm

theorem exec_tracks (l : Limits τ) (hsorted : (calls.map Call.instant).Pairwise (· ≤ ·)) :
    Tracks l (Run.exec (History.step l) .start calls) (Run.exec (State.step l) .start calls) := by
  have hg : Run.Guarded (History.step l) (fun h call => h.UpTo call.instant) .start calls :=
    guarded_upTo hsorted fun _ _ => ⟨List.forall_mem_nil _, List.forall_mem_nil _⟩
  refine Run.exec_simulates ?_ .start hg
  intro h s call ht hup
  cases call with
  | failure now => exact ht.failure hup
  | reset now => exact ht.reset hup

end Breaker
