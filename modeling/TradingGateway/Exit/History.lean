import TradingGateway.Exit.Handler
import Mathlib.Algebra.BigOperators.Group.List.Basic

/-!
# Live exit orders

What the history says of the exit orders: which are live at the provider, what they cover, what has
been exited, and which of them the handler still tracks.
-/

namespace Gateway.Exit

variable {β : Type}

namespace World

/-- The order is neither cancelled nor filled. -/
def Live (w : World β) (orderId : String) : Prop := orderId ∉ w.cancelled ∧ orderId ∉ w.filled

instance (w : World β) (orderId : String) : Decidable (w.Live orderId) :=
  inferInstanceAs (Decidable (_ ∧ _))

/-- The order is listed in a tracked entry. -/
def Tracked (w : World β) (orderId : String) : Prop :=
  ∃ ph e, w.handler.getEntry ph = some e ∧ ∃ o ∈ e.actualOrders, o.orderId = orderId

/-- The accepted orders of an entry. -/
def acceptedFor (w : World β) (ph : String) : List AcceptedOrder :=
  w.accepted.filter fun a => a.placeholderId = ph

/-- The quantity of the live orders of an entry. -/
def liveQty (w : World β) (ph : String) : Decimal :=
  (((w.acceptedFor ph).filter fun a => w.Live a.orderId).map AcceptedOrder.quantity).sum

/-- The quantity of the exit orders that filled. -/
def exitedQty (w : World β) : Decimal :=
  ((w.accepted.filter fun a => a.orderId ∈ w.filled).map AcceptedOrder.quantity).sum

/-- The ids that the history names. -/
def usedIds (w : World β) : List String :=
  w.accepted.map AcceptedOrder.orderId ++ w.cancelled ++ w.filled

/-- The provider fills an order. -/
def fill (w : World β) (orderId : String) : World β := { w with filled := w.filled ++ [orderId] }

end World

theorem mem_usedIds {w : World β} {id : String} : id ∈ w.usedIds ↔
    (∃ a ∈ w.accepted, a.orderId = id) ∨ id ∈ w.cancelled ∨ id ∈ w.filled := by
  simp [World.usedIds]

theorem live_of_notMem_usedIds {w : World β} {id : String} (h : id ∉ w.usedIds) : w.Live id := by
  rw [mem_usedIds, not_or, not_or] at h
  exact h.2

/-! ## An order in the place of another one -/

section replace

variable {w w' : World β} {a : AcceptedOrder} {gone : String}

theorem acceptedFor_append (hacc : w'.accepted = w.accepted ++ [a]) :
    w'.acceptedFor a.placeholderId = w.acceptedFor a.placeholderId ++ [a] := by
  unfold World.acceptedFor
  rw [hacc, List.filter_append]
  simp

theorem live_cancelled (hcan : w'.cancelled = w.cancelled ++ [gone]) (hfil : w'.filled = w.filled)
    (id : String) : w'.Live id ↔ w.Live id ∧ ¬ id = gone := by
  unfold World.Live
  rw [hcan, hfil, List.mem_append, List.mem_singleton]
  tauto

theorem mem_usedIds_replaced (hacc : w'.accepted = w.accepted ++ [a])
    (hcan : w'.cancelled = w.cancelled ++ [gone]) (hfil : w'.filled = w.filled) {id : String}
    (hid : id ∈ w'.usedIds) : id ∈ w.usedIds ∨ id = a.orderId ∨ id = gone := by
  rw [mem_usedIds, hacc, hcan, hfil] at hid
  rw [mem_usedIds]
  rcases hid with ⟨x, hx, rfl⟩ | hid | hid
  · rcases List.mem_append.mp hx with hx | hx
    · exact .inl (.inl ⟨x, hx, rfl⟩)
    · exact .inr (.inl (congrArg AcceptedOrder.orderId (List.mem_singleton.mp hx)))
  · rcases List.mem_append.mp hid with hid | hid
    · exact .inl (.inr (.inl hid))
    · exact .inr (.inr (List.mem_singleton.mp hid))
  · exact .inl (.inr (.inr hid))

end replace

theorem acceptedFor_accept (w : World β) (ph ph' id : String) (r : OrderRequest) :
    (w.accept ph id r).acceptedFor ph' =
      w.acceptedFor ph' ++
        if ph = ph' then [.ofRequest id ph r] else [] := by
  unfold World.acceptedFor World.accept
  by_cases h : ph = ph'
  · simp [h, AcceptedOrder.ofRequest]
  · simp [h, AcceptedOrder.ofRequest]

end Gateway.Exit
