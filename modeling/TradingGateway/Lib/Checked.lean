import Mathlib.Data.List.Basic
import Mathlib.Tactic.NormNum

/-!
# Computations that can panic

`Checked ε α`: a computation returns a value, fails with an error that it chose, or panics (an index
or a slice out of range, a sum that does not fit a machine word).

`Checked.Meets x Q` is partial correctness without a panic: `x` does not panic, and if it returns
`a`, then `Q a`. `Checked.loop_meets` is the rule for loops: an invariant, and a measure that each
round lowers, so that the loop also ends.
-/

inductive Checked (ε α : Type) where
  | panic
  | fail (e : ε)
  | ok (a : α)
  deriving DecidableEq, Repr

namespace Checked

variable {ε α β σ : Type}

protected def bind (x : Checked ε α) (f : α → Checked ε β) : Checked ε β :=
  match x with
  | panic => panic
  | fail e => fail e
  | ok a => f a

instance : Monad (Checked ε) where
  pure := ok
  bind := Checked.bind

variable (a : α) {f : α → Checked ε β} {x : Checked ε α} {b : β} {Q : α → Prop}

@[simp] theorem pure_eq : (pure a : Checked ε α) = ok a := rfl

@[simp] theorem ok_bind (f : α → Checked ε β) : (ok a >>= f) = f a := rfl

theorem bind_eq_ok (h : (x >>= f) = ok b) : ∃ a, x = ok a ∧ f a = ok b := by
  cases x with
  | panic => cases h
  | fail e => cases h
  | ok a => exact ⟨a, rfl, h⟩

theorem exceptBind_eq_ok {x : Except ε α} {f : α → Except ε β} (h : (x >>= f) = .ok b) :
    ∃ a, x = .ok a ∧ f a = .ok b := by
  cases x with
  | error e => cases h
  | ok a => exact ⟨a, rfl, h⟩

theorem exceptMap_eq_ok {x : Except ε α} {f : α → β} (h : x.map f = .ok b) :
    ∃ a, x = .ok a ∧ f a = b := by
  cases x with
  | error e => cases h
  | ok a => exact ⟨a, rfl, Except.ok.inj h⟩

theorem mapM_eq_ok {f : α → Except ε β} {l : List α} {bs : List β} (h : l.mapM f = .ok bs) :
    bs = l.filterMap fun a => (f a).toOption := by
  induction l generalizing bs with
  | nil => exact (Except.ok.inj h).symm
  | cons a l ih =>
    rw [List.mapM_cons] at h
    obtain ⟨b, hb, h⟩ := exceptBind_eq_ok h
    obtain ⟨rest, hrest, h⟩ := exceptBind_eq_ok h
    rw [List.filterMap_cons, hb, ← ih hrest]
    exact (Except.ok.inj h).symm

/-- A result that cannot panic. -/
def ofExcept : Except ε α → Checked ε α
  | .ok a => ok a
  | .error e => fail e

/-- An early return with an error. -/
def failIf (p : Prop) [Decidable p] (e : ε) : Checked ε Unit := if p then fail e else ok ()

theorem failIf_eq {p : Prop} [Decidable p] (h : ¬ p) (e : ε) : failIf p e = ok () := if_neg h

/-! ## Machine words, indices and slices -/

/-- A sum of machine words of 64 bits. -/
def add (a b : ℕ) : Checked ε ℕ := if a + b < 2 ^ 64 then ok (a + b) else panic

/-- `xs[i]`. -/
def index (xs : List α) (i : ℕ) : Checked ε α :=
  match xs[i]? with
  | some x => ok x
  | none => panic

/-- `xs[a..b]`. -/
def slice (xs : List α) (a b : ℕ) : Checked ε (List α) :=
  if a ≤ b ∧ b ≤ xs.length then ok ((xs.drop a).take (b - a)) else panic

theorem add_eq {a b : ℕ} (h : a + b < 2 ^ 64) : (add a b : Checked ε ℕ) = ok (a + b) := if_pos h

/-! ## What a computation meets -/

/-- `x` does not panic, and what it returns satisfies `Q`. -/
def Meets (x : Checked ε α) (Q : α → Prop) : Prop :=
  match x with
  | panic => False
  | fail _ => True
  | ok a => Q a

theorem Meets.ok {a : α} (h : Q a) : Meets (.ok a : Checked ε α) Q := h

theorem Meets.fail (e : ε) : Meets (.fail e : Checked ε α) Q := trivial

theorem Meets.bind {P : α → Prop} {Q : β → Prop} (hx : Meets x P) (hf : ∀ a, P a → Meets (f a) Q) :
    Meets (x >>= f) Q := by
  cases x with
  | panic => exact hx
  | fail e => trivial
  | ok a => exact hf a hx

theorem Meets.ne_panic (h : Meets x Q) : x ≠ .panic := by
  rintro rfl
  exact h

/-- A computation without errors of its own returns. -/
theorem Meets.exists_ok {x : Checked Empty α} (h : Meets x Q) : ∃ a, x = .ok a ∧ Q a := by
  cases x with
  | panic => exact h.elim
  | fail e => exact e.elim
  | ok a => exact ⟨a, rfl, h⟩

theorem meets_failIf (p : Prop) [Decidable p] (e : ε) : Meets (failIf p e) fun _ => ¬ p := by
  unfold failIf
  split
  · trivial
  · assumption

theorem meets_add {a b : ℕ} (h : a + b < 2 ^ 64) :
    Meets (add a b : Checked ε ℕ) fun n => n = a + b := by
  rw [add_eq h]
  exact .ok rfl

/-! ## Loops -/

/-- At most `n` rounds of a loop, which goes on with a new state or returns. `none` if it still
runs. -/
def loop (body : σ → Checked ε (σ ⊕ α)) : ℕ → σ → Option (Checked ε α)
  | 0, _ => none
  | n + 1, s =>
    match body s with
    | panic => some panic
    | fail e => some (fail e)
    | ok (.inl s') => loop body n s'
    | ok (.inr a) => some (ok a)

section loop

variable {body : σ → Checked ε (σ ⊕ α)} {n : ℕ} {s : σ}

theorem loop_succ_of_inl {s s' : σ} (h : body s = ok (.inl s')) :
    loop body (n + 1) s = loop body n s' := by
  rw [loop, h]

theorem loop_succ_of_inr {a : α} (h : body s = ok (.inr a)) :
    loop body (n + 1) s = some (ok a) := by
  rw [loop, h]

/-- A loop that keeps an invariant and lowers a measure ends without a panic. -/
theorem loop_meets {I : σ → Prop} {Q : α → Prop} (μ : σ → ℕ)
    (hbody : ∀ s, I s → Meets (body s) (Sum.elim (fun s' => I s' ∧ μ s' < μ s) Q)) (hs : I s)
    (hn : μ s < n) : ∃ r, loop body n s = some r ∧ Meets r Q := by
  induction n generalizing s with
  | zero => omega
  | succ n ih =>
    have hround := hbody s hs
    cases hb : body s with
    | panic =>
      rw [hb] at hround
      exact hround.elim
    | fail e => exact ⟨fail e, by rw [loop, hb], trivial⟩
    | ok next =>
      rw [hb] at hround
      cases next with
      | inl s' =>
        obtain ⟨hs', hlt⟩ := hround
        rw [loop_succ_of_inl hb]
        exact ih hs' (by omega)
      | inr a => exact ⟨ok a, loop_succ_of_inr hb, hround⟩

end loop

end Checked
