import Mathlib.Data.List.Count
import Mathlib.Logic.Function.Iterate

/-!
# Channels with counted senders

An unbounded channel with any number of sender handles and one receiver. Tasks hold the handles; a
task that ends drops its own. The receiver learns that the channel is closed when the queue is empty
and no handle is left.

* `Channel.drain_eq`: what the receiver has after taking every queued item.
* `Channel.recv_drain`: a consumed channel is closed exactly if no task holds a handle.
-/

/-- A channel whose sender handles are held by tasks `ο`. -/
structure Channel (ο α : Type) where
  queue : List α
  /-- The holder of each handle. -/
  senders : List ο
  /-- The receiver has not been dropped. -/
  receiving : Bool

namespace Channel

/-- What the receiver gets. -/
inductive Received (α : Type) where
  | item (x : α)
  | closed
  /-- Nothing yet. -/
  | waits
  deriving DecidableEq, Repr

variable {ο α : Type}

/-- Send one item; `false` if the receiver is gone. -/
def send (c : Channel ο α) (x : α) : Bool × Channel ο α :=
  if c.receiving then (true, { c with queue := c.queue ++ [x] }) else (false, c)

/-- Send items until one fails. -/
def sendAll (c : Channel ο α) : List α → Bool × Channel ο α
  | [] => (true, c)
  | x :: xs =>
    match c.send x with
    | (true, c) => c.sendAll xs
    | (false, c) => (false, c)

/-- A new handle for `o`. -/
def clone (c : Channel ο α) (o : ο) : Channel ο α := { c with senders := o :: c.senders }

/-- `o` drops a handle. -/
def drop [DecidableEq ο] (c : Channel ο α) (o : ο) : Channel ο α :=
  { c with senders := c.senders.erase o }

def recv (c : Channel ο α) : Received α × Channel ο α :=
  match c.queue with
  | x :: rest => (.item x, { c with queue := rest })
  | [] => (if c.senders.isEmpty then .closed else .waits, c)

/-- The receiver takes all that is queued. -/
def drain (c : Channel ο α) : Channel ο α := (fun c => c.recv.2)^[c.queue.length] c

variable (c : Channel ο α) (o o' : ο)

theorem drain_eq : c.drain = { c with queue := [] } := by
  obtain ⟨queue, senders, receiving⟩ := c
  induction queue with
  | nil => rfl
  | cons x rest ih => exact ih

theorem recv_drain : c.drain.recv.1 = .closed ↔ c.senders = [] := by
  rw [drain_eq]
  cases hs : c.senders <;> simp [recv]

@[simp] theorem senders_send (x : α) : (c.send x).2.senders = c.senders := by
  unfold send
  split <;> rfl

@[simp] theorem senders_sendAll (xs : List α) : (c.sendAll xs).2.senders = c.senders := by
  induction xs generalizing c with
  | nil => rfl
  | cons x xs ih =>
    have hsend := c.senders_send x
    unfold sendAll
    split
    · rename_i c' h
      rw [ih, ← hsend, h]
    · rename_i c' h
      rw [← hsend, h]

@[simp] theorem senders_recv : c.recv.2.senders = c.senders := by
  unfold recv
  split <;> rfl

variable [DecidableEq ο]

theorem count_clone :
    (c.clone o).senders.count o' = c.senders.count o' + if o = o' then 1 else 0 := by
  simp [clone, List.count_cons]

theorem count_drop :
    (c.drop o).senders.count o' = c.senders.count o' - if o = o' then 1 else 0 := by
  simp [drop, List.count_erase]

theorem senders_eq_nil_iff : c.senders = [] ↔ ∀ o, c.senders.count o = 0 := by
  rw [List.eq_nil_iff_forall_not_mem]
  simp [List.count_eq_zero]

end Channel
