import Mathlib.Logic.Function.Basic

/-!
# Asynchronous routines over a shared state

A `Routine σ α` is the code of an asynchronous function: atomic steps on a state `σ` that it shares
with other tasks, calls that it awaits, and one lock. Nothing here depends on what the state is.

`Routine.run` is the task alone: nobody else holds the lock, so `lock` and `unlock` do nothing.
-/

/-- The code of an asynchronous function with result `α`. -/
inductive Routine (σ α : Type) : Type 1 where
  /-- The task has ended. -/
  | ret (a : α)
  /-- An atomic step on the shared state. -/
  | act {τ : Type} (f : σ → τ × σ) (k : τ → Routine σ α)
  /-- A call that the task awaits; `f` is what the call does when it is served. -/
  | await {τ : Type} (f : σ → τ × σ) (k : τ → Routine σ α)
  /-- Wait for the lock and take it. -/
  | lock (k : Routine σ α)
  /-- Give the lock back. -/
  | unlock (k : Routine σ α)

namespace Routine

variable {σ α α' : Type}

protected def bind : Routine σ α → (α → Routine σ α') → Routine σ α'
  | ret a, g => g a
  | act f k, g => act f fun x => (k x).bind g
  | await f k, g => await f fun x => (k x).bind g
  | lock k, g => lock (k.bind g)
  | unlock k, g => unlock (k.bind g)

instance : Monad (Routine σ) where
  pure := ret
  bind := Routine.bind

variable (a : α) (k t : Routine σ α)

@[simp] theorem pure_eq : (pure a : Routine σ α) = ret a := rfl

variable (s : σ) (g : α → Routine σ α')

@[simp] theorem ret_bind : (ret a >>= g) = g a := rfl

@[simp] theorem act_bind {τ : Type} (f : σ → τ × σ) (k : τ → Routine σ α) (g : α → Routine σ α') :
    (act f k >>= g) = act f fun x => k x >>= g := rfl

@[simp] theorem await_bind {τ : Type} (f : σ → τ × σ) (k : τ → Routine σ α) (g : α → Routine σ α') :
    (await f k >>= g) = await f fun x => k x >>= g := rfl

@[simp] theorem lock_bind : (lock k >>= g) = lock (k >>= g) := rfl

@[simp] theorem unlock_bind : (unlock k >>= g) = unlock (k >>= g) := rfl

/-! ## The steps of a task -/

/-- Read the shared state. -/
def read {τ : Type} (f : σ → τ) : Routine σ τ := act (fun s => (f s, s)) ret

/-- Change the shared state. -/
def modify (f : σ → σ) : Routine σ Unit := act (fun s => ((), f s)) ret

/-- Change the shared state and get a result. -/
def step {τ : Type} (f : σ → τ × σ) : Routine σ τ := act f ret

/-- Await a call. -/
def call {τ : Type} (f : σ → τ × σ) : Routine σ τ := await f ret

/-- `t` while holding the lock. -/
def locked (t : Routine σ α) : Routine σ α := lock (t >>= fun a => unlock (ret a))

/-! ## A task alone -/

/-- The result and the state after `t` ran alone. -/
def run : Routine σ α → σ → α × σ
  | ret a, s => (a, s)
  | act f k, s => (k (f s).1).run (f s).2
  | await f k, s => (k (f s).1).run (f s).2
  | lock k, s => k.run s
  | unlock k, s => k.run s

@[simp] theorem run_ret : (ret a).run s = (a, s) := rfl

@[simp] theorem run_lock : (lock k).run s = k.run s := rfl

@[simp] theorem run_unlock : (unlock k).run s = k.run s := rfl

@[simp] theorem run_read {τ : Type} (f : σ → τ) (s : σ) : (read f).run s = (f s, s) := rfl

@[simp] theorem run_modify (f : σ → σ) (s : σ) : (modify f).run s = ((), f s) := rfl

@[simp] theorem run_step {τ : Type} (f : σ → τ × σ) (s : σ) : (step f).run s = f s := rfl

@[simp] theorem run_call {τ : Type} (f : σ → τ × σ) (s : σ) : (call f).run s = f s := rfl

@[simp] theorem run_bind (s : σ) : (t >>= g).run s = (g (t.run s).1).run (t.run s).2 := by
  induction t generalizing s with
  | ret a => rfl
  | act f k ih => exact ih (f s).1 (f s).2
  | await f k ih => exact ih (f s).1 (f s).2
  | lock k ih => exact ih s
  | unlock k ih => exact ih s

@[simp] theorem run_locked : (locked t).run s = t.run s := by
  simp [locked]

end Routine
