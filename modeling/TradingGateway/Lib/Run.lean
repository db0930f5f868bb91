import Mathlib.Order.Basic

/-!
# Runs of a step function

A system takes the events of a list one by one (`Run.exec`). A property may hold only of runs whose
steps all meet a condition on the state before the step and the event (`Run.Guarded`).

* `Run.exec_inv`: what every guarded step keeps holds at the end of every guarded run.
* `Run.forall_prefix_iff_guarded`: if a step keeps the invariant when it is guarded and breaks the
  property when it is not, then the property holds all along a run exactly if the run is guarded.
* `Run.exec_simulates`: two systems that stay related step by step stay related along a run.
* `Run.measure_exec_eq_iff`: a measure that no step raises stays the same exactly along the runs
  whose steps all keep it.
-/

namespace Run

variable {σ ε : Type*} (step : σ → ε → σ)

/-- The state after the events. -/
def exec (s : σ) (es : List ε) : σ := es.foldl step s

@[simp] theorem exec_nil (s : σ) : exec step s [] = s := rfl

@[simp] theorem exec_cons (s : σ) (e : ε) (es : List ε) :
    exec step s (e :: es) = exec step (step s e) es := rfl

theorem exec_append (s : σ) (es es' : List ε) :
    exec step s (es ++ es') = exec step (exec step s es) es' := List.foldl_append

/-- Each step of the run meets `Ok` at the state it is taken in. -/
def Guarded (Ok : σ → ε → Prop) : σ → List ε → Prop
  | _, [] => True
  | s, e :: es => Ok s e ∧ Guarded Ok (step s e) es

instance Guarded.decidable {Ok : σ → ε → Prop} [∀ s e, Decidable (Ok s e)] :
    (s : σ) → (es : List ε) → Decidable (Guarded step Ok s es)
  | _, [] => .isTrue trivial
  | s, e :: es => @instDecidableAnd _ _ _ (Guarded.decidable (step s e) es)

variable {step} {I P : σ → Prop} {Legal Ok : σ → ε → Prop}

variable {s : σ} {es : List ε} {Ok' : σ → ε → Prop} {τ : Type*} {step' : τ → ε → τ}
  {R : σ → τ → Prop} {t : τ}

theorem Guarded.mono (h : ∀ s e, Ok s e → Ok' s e) (hg : Guarded step Ok s es) :
    Guarded step Ok' s es := by
  induction es generalizing s with
  | nil => trivial
  | cons e es ih => exact ⟨h s e hg.1, ih hg.2⟩

/-- A guarded run keeps what each guarded step keeps. -/
theorem exec_inv (hstep : ∀ s e, I s → Ok s e → I (step s e)) {s : σ} (hs : I s) {es : List ε}
    (hg : Guarded step Ok s es) : I (exec step s es) := by
  induction es generalizing s with
  | nil => exact hs
  | cons e es ih => exact ih (hstep s e hs hg.1) hg.2

/-- Runs without a condition. -/
theorem exec_inv_all (hstep : ∀ s e, I s → I (step s e)) (hs : I s) (es : List ε) :
    I (exec step s es) := by
  induction es generalizing s with
  | nil => exact hs
  | cons e es ih => exact ih (hstep s e hs)

theorem Guarded.initial {es' : List ε} (hp : es' <+: es) (hg : Guarded step Ok s es) :
    Guarded step Ok s es' := by
  obtain ⟨rest, rfl⟩ := hp
  induction es' generalizing s with
  | nil => trivial
  | cons e es' ih => exact ⟨hg.1, ih hg.2⟩

/-- `P` holds in every state of a legal run exactly if every step is `Ok`. The invariant and the
legal events may depend on a record of what came before. -/
theorem forall_prefix_iff_guarded_of_history {γ : Type*} {record : γ → ε → γ} {J : γ → σ → Prop}
    {L : γ → ε → Prop} (hJP : ∀ a s, J a s → P s)
    (hkeep : ∀ a s e, J a s → L a e → Ok s e → J (record a e) (step s e))
    (hbreak : ∀ a s e, J a s → L a e → ¬ Ok s e → ¬ P (step s e)) {a : γ} (hs : J a s)
    (hl : Guarded record L a es) :
    (∀ es', es' <+: es → P (exec step s es')) ↔ Guarded step Ok s es := by
  constructor
  · intro h
    induction es generalizing a s with
    | nil => trivial
    | cons e es ih =>
      have hok : Ok s e := by
        by_contra hn
        exact hbreak a s e hs hl.1 hn (h [e] (by simp))
      refine ⟨hok, ih (hkeep a s e hs hl.1 hok) hl.2 fun es' hp => ?_⟩
      exact h (e :: es') (List.cons_prefix_cons.mpr ⟨rfl, hp⟩)
  · intro hg es' hp
    have hl' := Guarded.initial hp hl
    have hg' := Guarded.initial hp hg
    clear hp hl hg
    induction es' generalizing a s with
    | nil => exact hJP a s hs
    | cons e es' ih => exact ih (hkeep a s e hs hl'.1 hg'.1) hl'.2 hg'.2

/-- The same where the legal events depend on the state: the record is the state itself. -/
theorem forall_prefix_iff_guarded (hIP : ∀ s, I s → P s)
    (hkeep : ∀ s e, I s → Legal s e → Ok s e → I (step s e))
    (hbreak : ∀ s e, I s → Legal s e → ¬ Ok s e → ¬ P (step s e)) (hs : I s)
    (hl : Guarded step Legal s es) :
    (∀ es', es' <+: es → P (exec step s es')) ↔ Guarded step Ok s es := by
  refine forall_prefix_iff_guarded_of_history (J := fun a s => a = s ∧ I s) ?_ ?_ ?_ ⟨rfl, hs⟩ hl
  · rintro a s ⟨-, hI⟩
    exact hIP s hI
  · rintro a s e ⟨rfl, hI⟩ hlegal hok
    exact ⟨rfl, hkeep a e hI hlegal hok⟩
  · rintro a s e ⟨rfl, hI⟩ hlegal hbad
    exact hbreak a e hI hlegal hbad

theorem guarded_iff :
    Guarded step Ok s es ↔ ∀ es' e, es' ++ [e] <+: es → Ok (exec step s es') e := by
  induction es generalizing s with
  | nil => simp [Guarded]
  | cons e es ih =>
    rw [Guarded, ih]
    constructor
    · rintro ⟨he, hes⟩ es' e' hp
      cases es' with
      | nil =>
        obtain ⟨rfl, -⟩ := List.cons_prefix_cons.mp hp
        exact he
      | cons e₀ es' =>
        obtain ⟨rfl, hp'⟩ := List.cons_prefix_cons.mp hp
        exact hes es' e' hp'
    · intro h
      refine ⟨h [] e (by simp), fun es' e' hp => ?_⟩
      exact h (e :: es') e' (List.cons_prefix_cons.mpr ⟨rfl, hp⟩)

/-- Two conditions that agree where an invariant holds. -/
theorem guarded_congr (hI : ∀ s e, I s → I (step s e)) (h : ∀ s e, I s → (Ok s e ↔ Ok' s e))
    (hs : I s) (es : List ε) :
    Guarded step Ok s es ↔ Guarded step Ok' s es := by
  induction es generalizing s with
  | nil => exact Iff.rfl
  | cons e es ih => exact and_congr (h s e hs) (ih (hI s e hs))

/-- Two conditions that say the same where the invariant holds, on the runs that keep it. -/
theorem guarded_congr_of_inv (hkeep : ∀ s e, I s → Legal s e → Ok s e → I (step s e))
    (h : ∀ s e, I s → Legal s e → (Ok' s e ↔ Ok s e)) (hs : I s) (hl : Guarded step Legal s es) :
    Guarded step Ok' s es ↔ Guarded step Ok s es := by
  induction es generalizing s with
  | nil => exact Iff.rfl
  | cons e es ih =>
    have he := h s e hs hl.1
    constructor
    · rintro ⟨hok', hes⟩
      have hok := he.mp hok'
      exact ⟨hok, (ih (hkeep s e hs hl.1 hok) hl.2).mp hes⟩
    · rintro ⟨hok, hes⟩
      exact ⟨he.mpr hok, (ih (hkeep s e hs hl.1 hok) hl.2).mpr hes⟩

/-- What each step of a run does to the state, the whole run does. -/
theorem exec_rel {ρ : σ → σ → Prop} (hrefl : ∀ s, ρ s s)
    (htrans : ∀ s s' s'', ρ s s' → ρ s' s'' → ρ s s'') {s : σ} {es : List ε}
    (hg : Guarded step (fun s e => ρ s (step s e)) s es) {es₁ es₂ : List ε}
    (hp : es₁ ++ es₂ <+: es) : ρ (exec step s es₁) (exec step s (es₁ ++ es₂)) := by
  have hg' := hg.initial hp
  clear hp hg
  induction es₁ generalizing s with
  | nil =>
    induction es₂ generalizing s with
    | nil => exact hrefl s
    | cons e es₂ ih => exact htrans _ _ _ hg'.1 (ih hg'.2)
  | cons e es₁ ih => exact ih hg'.2

/-- A guarded run is followed by the run of a system that follows each guarded step. -/
theorem exec_simulates (h : ∀ s t e, R s t → Ok s e → R (step s e) (step' t e)) (hst : R s t)
    (hg : Guarded step Ok s es) : R (exec step s es) (exec step' t es) := by
  induction es generalizing s t with
  | nil => exact hst
  | cons e es ih => exact ih (h s t e hst hg.1) hg.2

/-- Two systems that stay related on good steps, and agree on which steps are good. -/
theorem guarded_iff_of_simulates {Ok' : τ → ε → Prop}
    (h : ∀ s t e, R s t → Ok' t e → R (step s e) (step' t e))
    (hOk : ∀ s t e, R s t → (Ok s e ↔ Ok' t e)) (hst : R s t) (es : List ε) :
    Guarded step Ok s es ↔ Guarded step' Ok' t es := by
  induction es generalizing s t with
  | nil => exact Iff.rfl
  | cons e es ih =>
    rw [Guarded, Guarded, hOk s t e hst]
    exact and_congr_right fun hok => ih (h s t e hst hok)

/-- A measure that no step raises is the same at the end of a run exactly if no step changes it. -/
theorem measure_exec_eq_iff {α : Type*} [PartialOrder α] {m : σ → α}
    (hI : ∀ s e, I s → I (step s e)) (hle : ∀ s e, I s → m (step s e) ≤ m s)
    (hOk : ∀ s e, I s → (m (step s e) = m s ↔ Ok s e)) (hs : I s) :
    m (exec step s es) = m s ↔ Guarded step Ok s es := by
  have hend : ∀ s, I s → ∀ es, m (exec step s es) ≤ m s := by
    intro s hs es
    induction es generalizing s with
    | nil => exact le_rfl
    | cons e es ih => exact (ih (step s e) (hI s e hs)).trans (hle s e hs)
  induction es generalizing s with
  | nil => exact iff_of_true rfl trivial
  | cons e es ih =>
    have hih : m (exec step (step s e) es) = m (step s e) ↔ Guarded step Ok (step s e) es :=
      ih (hI s e hs)
    rw [Guarded, ← hOk s e hs, ← hih, exec_cons]
    have hfirst := hle s e hs
    have hrest := hend (step s e) (hI s e hs) es
    constructor
    · intro heq
      have hsame : m (step s e) = m s := le_antisymm hfirst (heq ▸ hrest)
      exact ⟨hsame, heq.trans hsame.symm⟩
    · rintro ⟨h₁, h₂⟩
      exact h₂.trans h₁

theorem guarded_of_forall (h : ∀ s e, Ok s e) (s : σ) (es : List ε) : Guarded step Ok s es := by
  induction es generalizing s with
  | nil => trivial
  | cons e es ih => exact ⟨h s e, ih (step s e)⟩

/-- The same where every event is legal. -/
theorem forall_prefix_iff_guarded_all (hIP : ∀ s, I s → P s)
    (hkeep : ∀ s e, I s → Ok s e → I (step s e))
    (hbreak : ∀ s e, I s → ¬ Ok s e → ¬ P (step s e)) (hs : I s) (es : List ε) :
    (∀ es', es' <+: es → P (exec step s es')) ↔ Guarded step Ok s es :=
  forall_prefix_iff_guarded hIP (fun s e hI _ => hkeep s e hI) (fun s e hI _ => hbreak s e hI) hs
    (guarded_of_forall (fun _ _ => trivial) s es)

/-- A step that also keeps a log of the events. -/
def logged (step : σ → ε → σ) (s : σ × List ε) (e : ε) : σ × List ε := (step s.1 e, s.2 ++ [e])

theorem exec_logged (s : σ) (log es : List ε) :
    exec (logged step) (s, log) es = (exec step s es, log ++ es) := by
  induction es generalizing s log with
  | nil => simp
  | cons e es ih => rw [exec_cons, logged, ih, exec_cons, List.append_assoc, List.singleton_append]

/-- A value that some events write or clear is there if an event wrote it, or it was there before,
and no later event touched it. -/
theorem get_exec_eq_some_iff {ν : Type*} (get : σ → Option ν) {writes : ε → Option (Option ν)}
    (h : ∀ s e, get (step s e) = (writes e).getD (get s)) (s : σ) (es : List ε) (v : ν) :
    get (exec step s es) = some v ↔
      (∃ es₁ e es₂, es = es₁ ++ e :: es₂ ∧ writes e = some (some v) ∧ ∀ e ∈ es₂, writes e = none) ∨
        get s = some v ∧ ∀ e ∈ es, writes e = none := by
  induction es generalizing s with
  | nil => simp
  | cons e es ih =>
    rw [exec_cons, ih, h]
    constructor
    · rintro (⟨es₁, e₀, es₂, rfl, hv, hrest⟩ | ⟨hget, hrest⟩)
      · exact .inl ⟨e :: es₁, e₀, es₂, rfl, hv, hrest⟩
      · cases he : writes e with
        | none =>
          rw [he, Option.getD_none] at hget
          exact .inr ⟨hget, List.forall_mem_cons.mpr ⟨he, hrest⟩⟩
        | some x => exact .inl ⟨[], e, es, rfl, by simpa [he] using hget, hrest⟩
    · rintro (⟨es₁, e₀, es₂, heq, hv, hrest⟩ | ⟨hget, hrest⟩)
      · cases es₁ with
        | nil =>
          obtain ⟨rfl, rfl⟩ := List.cons.inj heq
          exact .inr ⟨by rw [hv, Option.getD_some], hrest⟩
        | cons e' es₁ =>
          obtain ⟨rfl, rfl⟩ := List.cons.inj heq
          exact .inl ⟨es₁, e₀, es₂, rfl, hv, hrest⟩
      · obtain ⟨he, hrest⟩ := List.forall_mem_cons.mp hrest
        exact .inr ⟨by rw [he, Option.getD_none, hget], hrest⟩

section Keys

variable {k : ε} {keys : List ε}

/-- A loop that skips a key keeps what the steps of the other keys keep. -/
theorem exec_of_notMem (hP : ∀ s k', k' ≠ k → P s → P (step s k')) (hk : k ∉ keys) {s : σ}
    (hs : P s) : P (exec step s keys) := by
  induction keys generalizing s with
  | nil => exact hs
  | cons k' keys ih =>
    rw [List.mem_cons, not_or] at hk
    exact ih hk.2 (hP s k' (fun h => hk.1 h.symm) hs)

/-- A loop over different keys takes the step of each of them once. -/
theorem exec_of_mem (hself : ∀ s, I s → P (step s k)) (hI : ∀ s k', k' ≠ k → I s → I (step s k'))
    (hP : ∀ s k', k' ≠ k → P s → P (step s k')) (hnd : keys.Nodup) (hk : k ∈ keys) {s : σ}
    (hs : I s) : P (exec step s keys) := by
  induction keys generalizing s with
  | nil => cases hk
  | cons k' keys ih =>
    rw [List.nodup_cons] at hnd
    by_cases h : k' = k
    · subst h
      exact exec_of_notMem hP hnd.1 (hself s hs)
    · rw [List.mem_cons] at hk
      exact ih hnd.2 (hk.resolve_left fun h' => h h'.symm) (hI s k' h hs)

end Keys

end Run
