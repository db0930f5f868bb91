import TradingGateway.Lib.Routine
import TradingGateway.Lib.Run
import Mathlib.Data.Fintype.Basic
import Mathlib.Logic.Relation

/-!
# Interleaved routines

Several tasks run on one state and share one lock (`Conf`). `Conf.step i` is one atomic step of
task `i`; a schedule is the list of the tasks that step (`Run.exec Conf.step`). A task that waits
for the lock, or has ended, stays where it is.

The rules are those of rely and guarantee, with a ghost value `γ` beside the state.

* `Routine.Spec P t Q`: from `P`, whatever the other tasks do between the steps of `t` within the
  rely `R`, each step of `t` is within the guarantee `G`, and `Q` holds when `t` has ended. The
  proof chooses the ghost value after each step of `t`.
* `Spec.bind`, `Spec.bind_of`, `Spec.bind_read`, `Spec.step`, `Spec.ret`, `Spec.locked`,
  `Spec.mono`: the rules for code. Assertions are stable under the rely (`Stable`).
* `Conf.Safe.exec`, `Conf.Safe.guarded_rel`: what every guarantee keeps, every schedule keeps.
* `Conf.ended_spec`: if each task has a `Spec` and its guarantee is in the rely of every other one,
  the posts of all tasks hold together when all tasks have ended, along every schedule whose steps
  meet the condition `Ok` on the task, the operation and the state before it.
-/

namespace Routine

/-- An atomic operation on the state, with its result. -/
structure Op (σ : Type) where
  {Out : Type}
  run : σ → Out × σ

variable {σ α α' : Type}

/-- The operation that the task does next; `lock` and `unlock` do not touch the state. -/
def next : Routine σ α → Option (Op σ)
  | act f _ | await f _ => some ⟨f⟩
  | ret _ | lock _ | unlock _ => none

def ended : Routine σ α → Bool
  | ret _ => true
  | _ => false

/-- The task waits for a call. -/
def awaits : Routine σ α → Bool
  | await _ _ => true
  | _ => false

end Routine

/-- Tasks on a shared state. -/
structure Conf (ι σ : Type) where
  task : ι → Routine σ Unit
  /-- The task that holds the lock. -/
  holder : Option ι
  state : σ

namespace Conf

variable {ι σ : Type} [DecidableEq ι]

/-- One atomic step of task `i`. -/
def step (c : Conf ι σ) (i : ι) : Conf ι σ :=
  match c.task i with
  | .ret _ => c
  | .act f k | .await f k =>
    { c with task := Function.update c.task i (k (f c.state).1), state := (f c.state).2 }
  | .lock k =>
    match c.holder with
    | none => { c with task := Function.update c.task i k, holder := some i }
    | some _ => c
  | .unlock k => { c with task := Function.update c.task i k, holder := none }

theorem state_step {c : Conf ι σ} {i : ι} {o : Routine.Op σ} (h : (c.task i).next = some o) :
    (c.step i).state = (o.run c.state).2 := by
  unfold step
  cases ht : c.task i with
  | act f k | await f k =>
    rw [ht] at h
    cases h
    rfl
  | ret | lock | unlock =>
    rw [ht] at h
    cases h

/-- All tasks have ended. -/
def Ended (c : Conf ι σ) : Prop := ∀ i, (c.task i).ended = true

instance [Fintype ι] (c : Conf ι σ) : Decidable c.Ended :=
  inferInstanceAs (Decidable (∀ i, (c.task i).ended = true))

/-- The next operation of task `i` meets `Ok i`. -/
def Permits (Ok : ι → Routine.Op σ → σ → Prop) (c : Conf ι σ) (i : ι) : Prop :=
  ∀ o, (c.task i).next = some o → Ok i o c.state

instance (Ok : ι → Routine.Op σ → σ → Prop) [∀ i o s, Decidable (Ok i o s)] (c : Conf ι σ) (i : ι) :
    Decidable (c.Permits Ok i) :=
  inferInstanceAs (Decidable (∀ o ∈ (c.task i).next, Ok i o c.state))

end Conf

/-! ## Rely and guarantee -/

namespace Routine

variable {σ γ α α' : Type}

/-- What holds now holds after a step of the others. -/
def Stable (R : σ × γ → σ × γ → Prop) (P : σ × γ → Prop) : Prop := ∀ ⦃x y⦄, R x y → P x → P y

variable {Ok : Op σ → σ → Prop} {R G : σ × γ → σ × γ → Prop} {P P' : σ × γ → Prop}
  {Q Q' : α → σ × γ → Prop}

variable {x y : σ × γ} {t : Routine σ α} {g : α → Routine σ α'} {f : σ → α × σ}

theorem Stable.star (hP : Stable R P) (h : Relation.ReflTransGen R x y) (hx : P x) : P y := by
  induction h with
  | refl => exact hx
  | tail _ hstep ih => exact hP hstep ih

theorem Stable.and (hP : Stable R P) (hP' : Stable R P') : Stable R fun x => P x ∧ P' x :=
  fun _ _ h hx => ⟨hP h hx.1, hP' h hx.2⟩

theorem Stable.guard (hP : Stable R P) {p : Prop} : Stable R fun x => p ∧ P x :=
  fun _ _ h hx => ⟨hx.1, hP h hx.2⟩

/-- The rest `t` of a task is safe at `x`: the others step first, any number of times. -/
def wp (Ok : Op σ → σ → Prop) (R G : σ × γ → σ × γ → Prop) :
    Routine σ α → (α → σ × γ → Prop) → σ × γ → Prop
  | ret a, Q, x => ∀ y, Relation.ReflTransGen R x y → Q a y
  | act f k, Q, x | await f k, Q, x =>
    ∀ y, Relation.ReflTransGen R x y → Ok ⟨f⟩ y.1 →
      ∃ g, G y ((f y.1).2, g) ∧ (k (f y.1).1).wp Ok R G Q ((f y.1).2, g)
  | lock k, Q, x | unlock k, Q, x => k.wp Ok R G Q x

theorem wp_mono (h : t.wp Ok R G Q x) (hQ : ∀ a y, Q a y → Q' a y) : t.wp Ok R G Q' x := by
  induction t generalizing x with
  | ret a => exact fun y hy => hQ a y (h y hy)
  | act f k ih | await f k ih =>
    intro y hy hok
    obtain ⟨g, hg, hk⟩ := h y hy hok
    exact ⟨g, hg, ih _ hk⟩
  | lock k ih | unlock k ih => exact ih h

theorem wp_star (h : t.wp Ok R G Q x) (hxy : Relation.ReflTransGen R x y) : t.wp Ok R G Q y := by
  induction t with
  | ret a => exact fun z hz => h z (hxy.trans hz)
  | act f k | await f k => exact fun z hz => h z (hxy.trans hz)
  | lock k ih | unlock k ih => exact ih h

/-- The post of an ended task stays true. -/
theorem wp_stays (h : t.wp Ok R G Q x) :
    t.wp Ok R G (fun a y => ∀ z, Relation.ReflTransGen R y z → Q a z) x := by
  induction t generalizing x with
  | ret a => exact fun y hy z hz => h z (hy.trans hz)
  | act f k ih | await f k ih =>
    intro y hy hok
    obtain ⟨g, hg, hk⟩ := h y hy hok
    exact ⟨g, hg, ih _ hk⟩
  | lock k ih | unlock k ih => exact ih h

theorem wp_bind {Q : α' → σ × γ → Prop} (h : t.wp Ok R G (fun a => (g a).wp Ok R G Q) x) :
    (t >>= g).wp Ok R G Q x := by
  induction t generalizing x with
  | ret a => exact h x .refl
  | act f k ih | await f k ih =>
    intro y hy hok
    obtain ⟨v, hv, hk⟩ := h y hy hok
    exact ⟨v, hv, ih _ hk⟩
  | lock k ih | unlock k ih => exact ih h

/-- From `P`, the task keeps to its guarantee and ends with `Q`. -/
def Spec (Ok : Op σ → σ → Prop) (R G : σ × γ → σ × γ → Prop) (P : σ × γ → Prop)
    (t : Routine σ α) (Q : α → σ × γ → Prop) : Prop :=
  ∀ x, P x → t.wp Ok R G Q x

theorem Spec.bind {Q' : α' → σ × γ → Prop} (h : Spec Ok R G P t Q)
    (hg : ∀ a, Spec Ok R G (Q a) (g a) Q') :
    Spec Ok R G P (t >>= g) Q' :=
  fun x hx => wp_bind (wp_mono (h x hx) hg)

/-- What is known of the result is there for the rest. -/
theorem Spec.bind_of {V : α → Prop} {Q' : α' → σ × γ → Prop}
    (h : Spec Ok R G P t fun a x => V a ∧ Q a x) (hg : ∀ a, V a → Spec Ok R G (Q a) (g a) Q') :
    Spec Ok R G P (t >>= g) Q' :=
  Spec.bind h fun a x hx => hg a hx.1 x hx.2

theorem Spec.pre (h : Spec Ok R G P t Q) (hP : ∀ x, P' x → P x) : Spec Ok R G P' t Q :=
  fun x hx => h x (hP x hx)

theorem Spec.mono (h : Spec Ok R G P t Q) (hP : ∀ x, P' x → P x) (hQ : ∀ a x, Q a x → Q' a x) :
    Spec Ok R G P' t Q' :=
  fun x hx => wp_mono (h x (hP x hx)) hQ

theorem Spec.ret {a : α} (hQ : Stable R (Q a)) (h : ∀ x, P x → Q a x) :
    Spec Ok R G P (.ret a) Q :=
  fun x hx _ hy => hQ.star hy (h x hx)

/-- One operation, as an own step or as a call. -/
theorem Spec.step (hP : Stable R P) (hQ : ∀ a, Stable R (Q a))
    (h : ∀ s g, P (s, g) → Ok ⟨f⟩ s → ∃ g', G (s, g) ((f s).2, g') ∧ Q (f s).1 ((f s).2, g')) :
    Spec Ok R G P (Routine.step f) Q := by
  intro x hx y hy hok
  obtain ⟨g', hg, hq⟩ := h y.1 y.2 (hP.star hy hx) hok
  exact ⟨g', hg, fun z hz => (hQ _).star hz hq⟩

theorem Spec.call (hP : Stable R P) (hQ : ∀ a, Stable R (Q a))
    (h : ∀ s g, P (s, g) → Ok ⟨f⟩ s → ∃ g', G (s, g) ((f s).2, g') ∧ Q (f s).1 ((f s).2, g')) :
    Spec Ok R G P (Routine.call f) Q :=
  Spec.step hP hQ h

/-- A look at the state, of which the assertion tells the result. -/
theorem Spec.bind_read {f : σ → α} {V : α → Prop} {Q' : α' → σ × γ → Prop} (hP : Stable R P)
    (hG : ∀ x, P x → G x x) (hV : ∀ x, P x → V (f x.1))
    (hg : ∀ a, V a → Spec Ok R G P (g a) Q') : Spec Ok R G P (Routine.read f >>= g) Q' :=
  Spec.bind_of (Spec.step hP (fun _ => hP.guard) fun s v hs _ =>
    ⟨v, hG (s, v) hs, hV (s, v) hs, hs⟩) hg

theorem Spec.locked (h : Spec Ok R G P t Q) : Spec Ok R G P (locked t) Q := by
  intro x hx
  have hbody : (t >>= fun a => unlock (Routine.ret a)).wp Ok R G Q x :=
    wp_bind (wp_mono (wp_stays (h x hx)) fun _ _ hy => hy)
  exact hbody

end Routine

/-! ## Schedules -/

namespace Conf

variable {ι σ γ : Type} [DecidableEq ι] {Ok : ι → Routine.Op σ → σ → Prop}
  {R G : ι → σ × γ → σ × γ → Prop} {Q : ι → σ × γ → Prop}

/-- Every task is safe at the state and the ghost value `g`. -/
def Safe (Ok : ι → Routine.Op σ → σ → Prop) (R G : ι → σ × γ → σ × γ → Prop) (Q : ι → σ × γ → Prop)
    (c : Conf ι σ) (g : γ) : Prop :=
  ∀ i, (c.task i).wp (Ok i) (R i) (G i) (fun _ => Q i) (c.state, g)

variable {c : Conf ι σ} {g : γ} {i : ι} {t : Routine σ Unit} {sched : List ι}

/-- A task took a step: it is safe there, and for the others it was a step of their rely. -/
theorem Safe.update (hRG : ∀ i j, i ≠ j → ∀ x y, G i x y → R j x y) {g' : γ} (h : c.Safe Ok R G Q g)
    {s : σ} (holder : Option ι) (hG : G i (c.state, g) (s, g'))
    (ht : t.wp (Ok i) (R i) (G i) (fun _ => Q i) (s, g')) :
    Safe Ok R G Q ⟨Function.update c.task i t, holder, s⟩ g' := by
  intro j
  by_cases hj : j = i
  · subst hj
    simpa using ht
  · have hstay := Routine.wp_star (h j) (.single (hRG i j (fun h => hj h.symm) _ _ hG))
    simpa [Function.update_of_ne hj] using hstay

/-- A task took or gave back the lock. -/
theorem Safe.update_lock (h : c.Safe Ok R G Q g) (holder : Option ι)
    (ht : t.wp (Ok i) (R i) (G i) (fun _ => Q i) (c.state, g)) :
    Safe Ok R G Q ⟨Function.update c.task i t, holder, c.state⟩ g := by
  intro j
  by_cases hj : j = i
  · subst hj
    simpa using ht
  · simpa [Function.update_of_ne hj] using h j

/-- A step of a safe task is within its guarantee, or it does not touch the state. -/
theorem Safe.step_guarantee (hRG : ∀ i j, i ≠ j → ∀ x y, G i x y → R j x y) (h : c.Safe Ok R G Q g)
    (hok : c.Permits Ok i) :
    ∃ g', (c.step i).Safe Ok R G Q g' ∧
      (((c.step i).state, g') = (c.state, g) ∨ G i (c.state, g) ((c.step i).state, g')) := by
  have hi := h i
  unfold Conf.step
  unfold Permits at hok
  cases ht : c.task i with
  | ret u => exact ⟨g, h, .inl rfl⟩
  | act f k | await f k =>
    rw [ht] at hi hok
    obtain ⟨g', hG, hk⟩ := hi _ .refl (hok _ rfl)
    exact ⟨g', h.update hRG c.holder hG hk, .inr hG⟩
  | lock k =>
    rw [ht] at hi
    cases c.holder with
    | some _ => exact ⟨g, h, .inl rfl⟩
    | none => exact ⟨g, h.update_lock (some i) hi, .inl rfl⟩
  | unlock k =>
    rw [ht] at hi
    exact ⟨g, h.update_lock none hi, .inl rfl⟩

theorem Safe.step (hRG : ∀ i j, i ≠ j → ∀ x y, G i x y → R j x y) (h : c.Safe Ok R G Q g)
    (hok : c.Permits Ok i) : ∃ g', (c.step i).Safe Ok R G Q g' := by
  obtain ⟨g', hsafe, -⟩ := h.step_guarantee hRG hok
  exact ⟨g', hsafe⟩

omit [DecidableEq ι] in
theorem Safe.post (h : c.Safe Ok R G Q g) (hend : c.Ended) (i : ι) : Q i (c.state, g) := by
  have hi := h i
  have hended := hend i
  cases ht : c.task i with
  | ret u =>
    rw [ht] at hi
    exact hi _ .refl
  | act | await | lock | unlock =>
    rw [ht] at hended
    cases hended

/-- What every guarantee keeps holds along the whole schedule. -/
theorem Safe.exec (hRG : ∀ i j, i ≠ j → ∀ x y, G i x y → R j x y) {J : σ × γ → Prop}
    (hJ : ∀ i x y, G i x y → J x → J y) (h : c.Safe Ok R G Q g) (hj : J (c.state, g))
    (hg : Run.Guarded Conf.step (Permits Ok) c sched) :
    ∃ g', (Run.exec Conf.step c sched).Safe Ok R G Q g' ∧
      J ((Run.exec Conf.step c sched).state, g') := by
  refine Run.exec_inv (I := fun c : Conf ι σ => ∃ g, c.Safe Ok R G Q g ∧ J (c.state, g)) ?_
    ⟨g, h, hj⟩ hg
  rintro c i ⟨g, hsafe, hj⟩ hok
  obtain ⟨g', hsafe', hsame | hG⟩ := hsafe.step_guarantee hRG hok
  · exact ⟨g', hsafe', by rw [hsame]; exact hj⟩
  · exact ⟨g', hsafe', hJ i _ _ hG hj⟩

/-- A relation between states that every guarantee is in holds between the states of each step. -/
theorem Safe.guarded_rel (hRG : ∀ i j, i ≠ j → ∀ x y, G i x y → R j x y) {ρ : σ → σ → Prop}
    (hrefl : ∀ s, ρ s s) (hρ : ∀ i x y, G i x y → ρ x.1 y.1) (h : c.Safe Ok R G Q g)
    (hg : Run.Guarded Conf.step (Permits Ok) c sched) :
    Run.Guarded Conf.step (fun c i => ρ c.state (c.step i).state) c sched := by
  induction sched generalizing c g with
  | nil => trivial
  | cons i sched ih =>
    obtain ⟨g', hsafe', hsame | hG⟩ := h.step_guarantee hRG hg.1
    · have hstate : (c.step i).state = c.state := (Prod.mk.inj hsame).1
      exact ⟨show ρ c.state (c.step i).state by rw [hstate]; exact hrefl _, ih hsafe' hg.2⟩
    · exact ⟨hρ i _ _ hG, ih hsafe' hg.2⟩

/-- The posts of all tasks hold when all have ended. -/
theorem ended_spec (hRG : ∀ i j, i ≠ j → ∀ x y, G i x y → R j x y) (h : c.Safe Ok R G Q g)
    (hg : Run.Guarded step (Permits Ok) c sched) (hend : (Run.exec step c sched).Ended) :
    ∃ g', ∀ i, Q i ((Run.exec step c sched).state, g') := by
  obtain ⟨g', hsafe⟩ := Run.exec_inv (I := fun c : Conf ι σ => ∃ g, c.Safe Ok R G Q g)
    (fun c i ⟨g, h⟩ hok => h.step hRG hok) ⟨g, h⟩ hg
  exact ⟨g', hsafe.post hend⟩

end Conf
