import TradingGateway.Events.Steps
import TradingGateway.Exit.CancelLog
import TradingGateway.State.Membership

/-!
# OCO siblings

An order event updates the cache before it looks up the order's OCO group, and a filled or rejected
order leaves the group that its cached copy names. So the group is found if the event names it, or
if the index has it and the cached copy does not.

* `siblings_cancelled_iff`: when an order event cancels the other members of the group.
-/

namespace Gateway

/-! ## The groups of an order -/

namespace StateManager

variable (s : StateManager) (id : String)

/-- The groups of the index that have the order. -/
def groupsOf : List String :=
  (s.ocoGroups.toList.filter fun e => e.2.has id).map Prod.fst

/-- The groups of the index that have the order, other than the one that its cached copy names. -/
def groupsLeft : List String := (s.groupsOf id).filter fun g => some g ≠ s.cachedGroup id

theorem indexedGroup_eq : s.indexedGroup id = (s.groupsOf id).head? := by
  unfold indexedGroup groupsOf
  rw [List.head?_map, List.head?_filter]

theorem groupsOf_leaveGroup (g : String) :
    (s.leaveGroup id g).groupsOf id = (s.groupsOf id).filter (· ≠ g) := by
  -- the bindings of other groups, in the order of the table
  have hothers : ((s.ocoGroups.toList.filter fun e => e.1 ≠ g).filter fun e => e.2.has id).map
      Prod.fst = (s.groupsOf id).filter (· ≠ g) := by
    unfold groupsOf
    rw [List.filter_map, List.filter_filter, List.filter_filter]
    simp only [Function.comp_def, Bool.and_comm]
  unfold leaveGroup
  cases hg : s.ocoGroups.get g with
  | none =>
    refine (List.filter_eq_self.mpr fun g' hg' => ?_).symm
    obtain ⟨⟨k, members⟩, hmem, rfl⟩ := List.mem_map.mp hg'
    have hget := Table.mem_toList.mp (List.mem_of_mem_filter hmem)
    simp only [ne_eq, decide_not, Bool.not_eq_eq_eq_not, Bool.not_true, decide_eq_false_iff_not]
    rintro rfl
    rw [hg] at hget
    cases hget
  | some members =>
    rw [← hothers]
    dsimp only
    split
    · rw [groupsOf, Table.toList_remove]
    · rw [groupsOf, Table.toList_insert, List.filter_cons_of_neg (by simp)]

theorem ocoFills_leaveGroup (g : String) : (s.leaveGroup id g).ocoFills = s.ocoFills := by
  unfold leaveGroup
  split <;> rfl

/-! ## The removal of an order -/

/-- A removed order leaves the group that its cached copy names. -/
theorem removeOrder_eq {o : CachedOrder} (ho : s.getOrder id = some o) :
    s.removeOrder id = o.ocoGroupId.elim { s with orders := s.orders.remove id }
      ({ s with orders := s.orders.remove id }.leaveGroup id) := by
  have hget : s.orders.get id = some o := ho
  unfold removeOrder
  rw [hget]
  cases hg : o.ocoGroupId <;> simp only [hg, Option.elim]

theorem ocoFills_removeOrder : (s.removeOrder id).ocoFills = s.ocoFills := by
  cases ho : s.getOrder id with
  | none =>
    have hget : s.orders.get id = none := ho
    simp [removeOrder, hget]
  | some o =>
    rw [removeOrder_eq s id ho]
    cases o.ocoGroupId with
    | none => rfl
    | some g => exact ocoFills_leaveGroup ..

/-- After the removal, the group of the order is the first one left in the index. -/
theorem getOcoGroupId_removeOrder :
    (s.removeOrder id).getOcoGroupId id = (s.groupsLeft id).head? := by
  unfold groupsLeft cachedGroup
  cases ho : s.getOrder id with
  | none =>
    have hget : s.orders.get id = none := ho
    simp [removeOrder, hget, getOcoGroupId, indexedGroup_eq]
  | some o =>
    rw [removeOrder_eq s id ho]
    have hgroups : groupsOf { s with orders := s.orders.remove id } id = s.groupsOf id := rfl
    cases hg : o.ocoGroupId with
    | none => simp [getOcoGroupId, indexedGroup_eq, hgroups, hg]
    | some g =>
      simp [getOcoGroupId, indexedGroup_eq, orders_leaveGroup, groupsOf_leaveGroup, hgroups, hg]

theorem getOcoSiblings_removeOrder (g : String) :
    ((s.removeOrder id).getOcoSiblings g id).Perm (s.getOcoSiblings g id) := by
  have hnodup (s : StateManager) : (s.getOcoSiblings g id).Nodup := (KeySet.nodup_elems _).filter _
  rw [List.perm_ext_iff_of_nodup (hnodup _) (hnodup _)]
  unfold getOcoSiblings
  intro x
  by_cases hx : x = id
  · simp [hx]
  · simp [has_removeOrder, hx]

end StateManager

namespace Events

/-! ## The siblings to cancel -/

variable {β γ : Type}

/-- The group of a filled or rejected order is found: the event names it, or it is the first one
of the index that the cached order does not name. -/
def FindsGroup (order : Order) (g : String) (s : StateManager) : Prop :=
  order.ocoGroupId.or (s.groupsLeft order.id).head? = some g

instance (order : Order) (g : String) (s : StateManager) : Decidable (FindsGroup order g s) :=
  inferInstanceAs (Decidable (_ = _))

/-- The orders of the group that is found, if it has no fill yet. -/
def foundSiblings (order : Order) (s : StateManager) : List String :=
  match order.ocoGroupId.or (s.groupsLeft order.id).head? with
  | none => []
  | some g => if (s.ocoFills.get g).isSome then [] else s.getOcoSiblings g order.id

/-- The siblings to cancel, from the cache before the order was removed. -/
theorem siblingsToCancel_removeOrder (order : Order) (s : StateManager) :
    (siblingsToCancel order (s.removeOrder order.id)).Perm (foundSiblings order s) := by
  unfold siblingsToCancel foundSiblings ocoGroupOf
  rw [s.getOcoGroupId_removeOrder order.id]
  cases order.ocoGroupId.or (s.groupsLeft order.id).head? with
  | none => exact .nil
  | some g =>
    dsimp only
    rw [s.ocoFills_removeOrder order.id]
    split
    · exact .nil
    · exact s.getOcoSiblings_removeOrder order.id g

/-! ## All cancellations of an order event -/

section log

variable {ad : TradingAdapter β} {c : Ctx (β × List String) γ}

/-- The orders that the exit handler cancels at an order event. -/
def exitCancels {β : Type} (c : Ctx β γ) (event : OrderEventType) (order : Order)
    (h : Exit.ExitHandler) : List String :=
  if isFillEvent event && c.adapterSet then
    h.fillCancels order.id order.filledQuantity order.quantity
  else []

variable (hc : c.exit.adapter = ad.logCancels) (event : OrderEventType) (order : Order)
  (w : World (β × List String) γ)

include hc

theorem log_routeFill :
    (routeFill c event order w).exit.broker.2 =
      w.exit.broker.2 ++ exitCancels c event order w.exit.handler := by
  unfold routeFill exitCancels
  split
  · rw [exit_routeFillToExitHandler]
    have hreach := (Exit.run_handleFill (c := c.exit) order.id order.filledQuantity order.quantity
      none order.positionId w.exit).reaches
    rw [hc] at hreach
    exact Exit.log_of_reaches hreach
  · simp

theorem log_cancelSiblings (ids : List String) :
    (ids.foldl (cancelSibling c) w).exit.broker.2 = w.exit.broker.2 ++ ids := by
  induction ids generalizing w with
  | nil => simp
  | cons id ids ih =>
    have hfirst : (cancelSibling c w id).exit.broker.2 = w.exit.broker.2 ++ [id] :=
      Exit.log_cancelOrder hc id w.exit
    rw [List.foldl_cons, ih, hfirst]
    simp

theorem log_cancelOcoSiblings :
    (cancelOcoSiblings c order w).exit.broker.2 =
      w.exit.broker.2 ++ siblingsToCancel order w.state := by
  unfold cancelOcoSiblings siblingsToCancel StateManager.recordOcoFill
  cases ocoGroupOf order w.state with
  | none => simp
  | some groupId =>
    dsimp only
    cases w.state.ocoFills.get groupId with
    | some previous => simp
    | none => exact log_cancelSiblings hc ..

/-- An order event asks the provider to cancel what the exit handler cancels, and the siblings. -/
theorem log_handleOrderEvent (parentOrderId : Option String) :
    (handleOrderEvent c event order parentOrderId w).exit.broker.2 =
      w.exit.broker.2 ++ (exitCancels c event order w.exit.handler ++
        if cancelsSiblings event && c.adapterSet then
          siblingsToCancel order (updateStateForOrderEvent event order w.state)
        else []) := by
  unfold handleOrderEvent
  rw [exit_broadcast]
  split
  · rw [log_cancelOcoSiblings hc]
    simp [log_routeFill hc]
  · simp [log_routeFill hc]

end log

/-! ## The other members of a group -/

section siblings

variable {ad : TradingAdapter β} {c : Ctx (β × List String) γ}

/-- From `w` to `w'` the provider was asked once to cancel each of the orders `P`, and no other. -/
def CancelsOnce (w w' : World (β × List String) γ) (P : String → Prop) [DecidablePred P] : Prop :=
  ∃ cancels, w'.exit.broker.2 = w.exit.broker.2 ++ cancels ∧
    ∀ id, cancels.count id = if P id then 1 else 0

/-- The other members of a group. -/
abbrev OtherMember (s : StateManager) (g orderId id : String) : Prop :=
  id ≠ orderId ∧ (s.groupMembers g).has id = true

theorem cancelsOnce_iff {w w' : World (β × List String) γ} {cancels : List String}
    (h : w'.exit.broker.2 = w.exit.broker.2 ++ cancels) (s : StateManager) (g orderId : String) :
    CancelsOnce w w' (OtherMember s g orderId) ↔ cancels.Perm (s.getOcoSiblings g orderId) := by
  have hnodup : (s.getOcoSiblings g orderId).Nodup := (KeySet.nodup_elems _).filter _
  have hcount : ∀ id, (s.getOcoSiblings g orderId).count id =
      if OtherMember s g orderId id then 1 else 0 := by
    intro id
    rw [hnodup.count]
    simp [StateManager.getOcoSiblings, and_comm]
  constructor
  · rintro ⟨cancels', h', hc⟩
    obtain rfl : cancels = cancels' := List.append_cancel_left (h.symm.trans h')
    exact List.perm_iff_count.mpr fun id => (hc id).trans (hcount id).symm
  · intro hperm
    exact ⟨cancels, h, fun id => (List.perm_iff_count.mp hperm id).trans (hcount id)⟩

/-- The first fill or rejection in a group cancels the other members exactly if the group is found
and the exit handler cancels nothing, or if what is cancelled instead happens to be these orders.
The order need not be a member of the group, and its event may name any group. -/
theorem siblings_cancelled_iff (hc : c.exit.adapter = ad.logCancels) {event : OrderEventType}
    (hevent : event = .orderFilled ∨ event = .orderRejected) (order : Order)
    (parentOrderId : Option String) {w : World (β × List String) γ} {g : String}
    (hfirst : w.state.ocoFills.get g = none) :
    CancelsOnce w (handleOrderEvent c event order parentOrderId w)
        (OtherMember w.state g order.id) ↔
      if c.adapterSet = true ∧ FindsGroup order g w.state then
        exitCancels c event order w.exit.handler = []
      else
        (exitCancels c event order w.exit.handler ++
          if c.adapterSet then foundSiblings order w.state else []).Perm
            (w.state.getOcoSiblings g order.id) := by
  have hsiblings : cancelsSiblings event = true := by rcases hevent with rfl | rfl <;> rfl
  have hstate : updateStateForOrderEvent event order w.state = w.state.removeOrder order.id := by
    rcases hevent with rfl | rfl <;> rfl
  rw [cancelsOnce_iff (log_handleOrderEvent hc event order w parentOrderId), hsiblings, hstate,
    Bool.true_and]
  cases hset : c.adapterSet with
  | false => simp
  | true =>
    have hfound := siblingsToCancel_removeOrder order w.state
    simp only [true_and, if_true]
    rw [(hfound.append_left (exitCancels c event order w.exit.handler)).congr_left]
    split
    · rename_i hg
      have hall : foundSiblings order w.state = w.state.getOcoSiblings g order.id := by
        unfold foundSiblings
        rw [hg]
        simp [hfirst]
      rw [hall]
      constructor
      · intro hperm
        have hlen := hperm.length_eq
        rw [List.length_append] at hlen
        exact List.eq_nil_of_length_eq_zero (by omega)
      · intro hnil
        rw [hnil, List.nil_append]
    · rfl

end siblings

/-- The simulated provider with a log of the cancellations. -/
def Ctx.simulatedLog : Ctx (List (String × OrderRequest) × List String) ℕ where
  exit := { Exit.Ctx.simulated with adapter := TradingAdapter.simulated.logCancels }
  adapterSet := true
  trailing := some .simulated
  getOrders b := (.ok [], b)
  getPositions b := (.ok [], b)
  timesOut _ _ := false
  broadcastEnabled := true

/-- A filled order, as its event shows it. -/
def pairedOrder (id : String) (ocoGroupId : Option String) : Order :=
  { sampleBracket.toOrder id with filledQuantity := 10, status := .filled, ocoGroupId }

/-- The orders `a` and `b` are created in one group. -/
def pairWorld : World (List (String × OrderRequest) × List String) ℕ :=
  ["a", "b"].foldl
    (fun w id => handleOrderEvent .simulatedLog .orderCreated (pairedOrder id (some "g")) none w)
    (.initial {} ([], []) 0 ⟨[]⟩)

/-- A fill whose event names the group cancels the other order. -/
theorem siblings_cancelled_named :
    pairWorld.state.ocoFills.get "g" = none ∧
      CancelsOnce pairWorld
        (handleOrderEvent .simulatedLog .orderFilled (pairedOrder "a" (some "g")) none pairWorld)
        (OtherMember pairWorld.state "g" "a") := by
  have hfirst : pairWorld.state.ocoFills.get "g" = none := by decide +kernel
  refine ⟨hfirst, (siblings_cancelled_iff rfl (.inl rfl) _ _ hfirst).mpr ?_⟩
  rw [if_pos (by decide +kernel)]
  decide +kernel

/-- A fill whose event names no group cancels nothing: the order has left the group before. -/
theorem pair_not_cancelled :
    (pairWorld.state.groupMembers "g").has "a" = true ∧
      (pairWorld.state.groupMembers "g").has "b" = true ∧
      pairWorld.state.ocoFills.get "g" = none ∧
      (handleOrderEvent .simulatedLog .orderFilled (pairedOrder "a" none) none
        pairWorld).exit.broker.2 = [] ∧
      ¬ CancelsOnce pairWorld
        (handleOrderEvent .simulatedLog .orderFilled (pairedOrder "a" none) none pairWorld)
        (OtherMember pairWorld.state "g" "a") := by
  have hmember : (pairWorld.state.groupMembers "g").has "b" = true := by decide +kernel
  have hnone : (handleOrderEvent .simulatedLog .orderFilled (pairedOrder "a" none) none
      pairWorld).exit.broker.2 = [] := by decide +kernel
  refine ⟨by decide +kernel, hmember, by decide +kernel, hnone, ?_⟩
  rintro ⟨cancels, hlog, hcount⟩
  have hnil : cancels = [] := by
    rw [hnone] at hlog
    exact (List.append_eq_nil_iff.mp hlog.symm).2
  have hb := hcount "b"
  rw [hnil, if_pos ⟨by decide, hmember⟩] at hb
  cases hb

end Events

end Gateway
