import TradingGateway.Adapter
import TradingGateway.Lib.Run
import TradingGateway.State.Manager

/-!
# The membership of OCO groups

The cache says twice which OCO group an order is in: on the cached order, and in the index from
groups to orders. A call changes both, but trusts the cached order for the group to leave: an order
that the index got first, or that joins a second group, stays in a group that its copy does not
name.

* `one_truth_iff`: the two agree after each call exactly if each call meets `OcoCall.Ok`.
-/

namespace Gateway

namespace StateManager

variable (s : StateManager)

/-- The group that the cached order names. -/
def cachedGroup (id : String) : Option String := (s.getOrder id).bind CachedOrder.ocoGroupId

/-- What the cache knows about orders and their groups. -/
def orderMaps : Table String CachedOrder × Table String (KeySet String) := (s.orders, s.ocoGroups)

variable (order : Order) (id : String) (old : Option String) (x : String) (new : Option String)
  (g : String)

@[simp] theorem orders_leaveGroup : (s.leaveGroup id g).orders = s.orders := by
  unfold leaveGroup
  split <;> rfl

@[simp] theorem orderMaps_dropSymbol (symbol id : String) :
    (s.dropSymbol symbol id).orderMaps = s.orderMaps := by
  unfold dropSymbol
  split <;> rfl

@[simp] theorem orderMaps_upsertPosition (position : Position) :
    (s.upsertPosition position).orderMaps = s.orderMaps := by
  have hstored : orderMaps { s with positions := s.positions.insert position.id position.cached } =
    s.orderMaps := rfl
  unfold upsertPosition orderMaps
  dsimp only
  split
  · split
    · exact (orderMaps_dropSymbol ..).trans hstored
    · rfl
  · rfl

/-! ## Members -/

theorem has_leaveGroup (x g' : String) :
    ((s.leaveGroup id g).groupMembers g').has x = true ↔
      (s.groupMembers g').has x = true ∧ ¬ (g' = g ∧ x = id) := by
  unfold leaveGroup groupMembers
  cases hg : s.ocoGroups.get g with
  | none =>
    refine ⟨fun h => ⟨h, ?_⟩, fun h => h.1⟩
    rintro ⟨rfl, -⟩
    simp [hg] at h
  | some members =>
    dsimp only
    by_cases hsame : g' = g
    · subst hsame
      have hdrop : (members.drop id).has x = true ↔ members.has x = true ∧ x ≠ id := by
        simp [and_comm]
      rw [hg]
      simp only [true_and]
      split
      · -- The group goes: nobody else was in it.
        rename_i hempty
        have hnone : ¬ (members.drop id).has x = true := by
          rw [← KeySet.mem_elems, List.isEmpty_iff.mp hempty]
          exact List.not_mem_nil
        rw [Table.get_remove_self]
        exact iff_of_false (by simp) fun h => hnone (hdrop.mpr h)
      · rw [Table.get_insert_self]
        exact hdrop
    · simp only [hsame, false_and, not_false_eq_true, and_true]
      split
      · rw [Table.get_remove, if_neg hsame]
      · rw [Table.get_insert_ne _ _ hsame]

theorem has_joinGroup (x g' : String) :
    ((s.joinGroup id g).groupMembers g').has x = true ↔
      (s.groupMembers g').has x = true ∨ g' = g ∧ x = id := by
  unfold joinGroup groupMembers
  dsimp only
  by_cases hsame : g' = g
  · subst hsame
    rw [Table.get_insert_self]
    simp [or_comm]
  · rw [Table.get_insert_ne _ _ hsame]
    simp [hsame]

/-- No group of the index is empty. -/
def NoEmptyGroup : Prop := ∀ g members, s.ocoGroups.get g = some members → members.elems ≠ []

variable {s}

theorem NoEmptyGroup.leaveGroup (h : s.NoEmptyGroup) (id g : String) :
    (s.leaveGroup id g).NoEmptyGroup := by
  unfold StateManager.leaveGroup
  cases hg : s.ocoGroups.get g with
  | none => exact h
  | some members =>
    intro g' members' hget
    dsimp only at hget
    split at hget
    · rw [Table.get_remove] at hget
      split at hget
      · cases hget
      · exact h g' members' hget
    · rename_i hrest
      rw [Table.get_insert] at hget
      split at hget
      · cases hget
        exact fun hempty => hrest (List.isEmpty_iff.mpr hempty)
      · exact h g' members' hget

theorem NoEmptyGroup.joinGroup (h : s.NoEmptyGroup) (id g : String) :
    (s.joinGroup id g).NoEmptyGroup := by
  intro g' members' hget
  unfold StateManager.joinGroup at hget
  dsimp only at hget
  rw [Table.get_insert] at hget
  split at hget
  · cases hget
    refine List.ne_nil_of_mem (a := id) ?_
    rw [KeySet.mem_elems, KeySet.has_add]
    simp
  · exact h g' members' hget

/-! ## Orders that come and go -/

variable (s)

/-- Leave the old group of an order, if it is not the new one. -/
def leaveOld (id : String) (old new : Option String) : StateManager :=
  match old with
  | some g => if some g ≠ new then s.leaveGroup id g else s
  | none => s

/-- Join the new group of an order. -/
def joinNew (id : String) (new : Option String) : StateManager :=
  match new with
  | some g => s.joinGroup id g
  | none => s

theorem upsertOrder_eq :
    s.upsertOrder order =
      ({ s with orders := s.orders.insert order.id order.cached }.leaveOld order.id
        (s.cachedGroup order.id) order.ocoGroupId).joinNew order.id order.ocoGroupId := rfl

theorem removeOrder_eq_leaveOld {id : String} {o : CachedOrder} (ho : s.getOrder id = some o) :
    s.removeOrder id =
      { s with orders := s.orders.remove id }.leaveOld id (s.cachedGroup id) none := by
  have hget : s.orders.get id = some o := ho
  unfold removeOrder leaveOld cachedGroup
  rw [ho, hget]
  cases o.ocoGroupId <;> rfl

@[simp] theorem orders_leaveOld : (s.leaveOld id old new).orders = s.orders := by
  unfold leaveOld
  split
  · split
    · exact orders_leaveGroup ..
    · rfl
  · rfl

@[simp] theorem orders_joinNew : (s.joinNew id new).orders = s.orders := by
  cases new <;> rfl

theorem has_leaveOld (x g : String) :
    ((s.leaveOld id old new).groupMembers g).has x = true ↔
      (s.groupMembers g).has x = true ∧ ¬ (x = id ∧ old = some g ∧ new ≠ some g) := by
  unfold leaveOld
  cases old with
  | none => simp
  | some g₀ =>
    dsimp only
    by_cases hnew : some g₀ ≠ new
    · rw [if_pos hnew, has_leaveGroup]
      refine and_congr_right fun _ => not_congr ⟨?_, ?_⟩
      · rintro ⟨rfl, rfl⟩
        exact ⟨rfl, rfl, hnew.symm⟩
      · rintro ⟨rfl, hg, -⟩
        cases hg
        exact ⟨rfl, rfl⟩
    · rw [if_neg hnew]
      refine ⟨fun h => ⟨h, ?_⟩, fun h => h.1⟩
      rintro ⟨-, hg, hne⟩
      rw [hg] at hnew
      exact hnew hne.symm

theorem has_joinNew (x g : String) :
    ((s.joinNew id new).groupMembers g).has x = true ↔
      (s.groupMembers g).has x = true ∨ x = id ∧ new = some g := by
  unfold joinNew
  cases new with
  | none => simp
  | some g₀ =>
    rw [has_joinGroup]
    simp only [Option.some.injEq, and_comm, eq_comm]

theorem getOrder_upsertOrder :
    (s.upsertOrder order).getOrder x =
      if x = order.id then some order.cached else s.getOrder x := by
  unfold getOrder
  rw [upsertOrder_eq, orders_joinNew, orders_leaveOld, Table.get_insert]

/-- A cached order leaves the group that its old copy names; any order joins that of the new
one. -/
theorem has_upsertOrder :
    ((s.upsertOrder order).groupMembers g).has x = true ↔
      (s.groupMembers g).has x = true ∧ ¬ (x = order.id ∧ s.cachedGroup order.id = some g) ∨
        x = order.id ∧ order.ocoGroupId = some g := by
  rw [upsertOrder_eq, has_joinNew, has_leaveOld]
  show (s.groupMembers g).has x = true ∧ _ ∨ _ ↔ _
  by_cases hx : x = order.id
  · by_cases hg : order.ocoGroupId = some g <;> simp [hx, hg]
  · simp [hx]

theorem getOrder_removeOrder :
    (s.removeOrder id).getOrder x = if x = id then none else s.getOrder x := by
  cases ho : s.getOrder id with
  | none =>
    have hget : s.orders.get id = none := ho
    by_cases hx : x = id
    · simp [removeOrder, hget, hx, ho]
    · simp [removeOrder, hget, hx]
  | some o =>
    unfold getOrder
    rw [removeOrder_eq_leaveOld s ho, orders_leaveOld, Table.get_remove]

theorem has_removeOrder :
    ((s.removeOrder id).groupMembers g).has x = true ↔
      (s.groupMembers g).has x = true ∧ ¬ (x = id ∧ s.cachedGroup id = some g) := by
  cases ho : s.getOrder id with
  | none =>
    have hget : s.orders.get id = none := ho
    simp [removeOrder, hget, cachedGroup, ho]
  | some o =>
    rw [removeOrder_eq_leaveOld s ho, has_leaveOld]
    show (s.groupMembers g).has x = true ∧ _ ↔ _
    simp

theorem getOrder_addToOcoGroup (x : String) :
    (s.addToOcoGroup id g).getOrder x =
      if x = id then (s.getOrder id).map fun o => { o with ocoGroupId := some g }
      else s.getOrder x := by
  show (s.orders.modify id _).get x = _
  rw [Table.get_modify]
  rfl

theorem has_addToOcoGroup (x g' : String) :
    ((s.addToOcoGroup id g).groupMembers g').has x = true ↔
      (s.groupMembers g').has x = true ∨ x = id ∧ g = g' := by
  show ((s.joinGroup id g).groupMembers g').has x = true ↔ _
  rw [has_joinGroup, and_comm, eq_comm (a := g)]

variable {s}

theorem NoEmptyGroup.leaveOld (h : s.NoEmptyGroup) (id : String) (old new : Option String) :
    (s.leaveOld id old new).NoEmptyGroup := by
  unfold StateManager.leaveOld
  split
  · split
    · exact h.leaveGroup id _
    · exact h
  · exact h

theorem NoEmptyGroup.upsertOrder (h : s.NoEmptyGroup) (order : Order) :
    (s.upsertOrder order).NoEmptyGroup := by
  rw [upsertOrder_eq]
  have hstored : NoEmptyGroup { s with orders := s.orders.insert order.id order.cached } := h
  have hleft := hstored.leaveOld order.id (s.cachedGroup order.id) order.ocoGroupId
  unfold joinNew
  split
  · exact hleft.joinGroup order.id _
  · exact hleft

theorem NoEmptyGroup.removeOrder (h : s.NoEmptyGroup) (id : String) :
    (s.removeOrder id).NoEmptyGroup := by
  cases ho : s.getOrder id with
  | none =>
    have hget : s.orders.get id = none := ho
    simpa [StateManager.removeOrder, hget] using h
  | some o =>
    rw [removeOrder_eq_leaveOld s ho]
    exact NoEmptyGroup.leaveOld (s := { s with orders := s.orders.remove id }) h id _ _

end StateManager

/-! ## One truth -/

/-- A call that changes orders or their groups. -/
inductive OcoCall where
  | upsertOrder (order : Order)
  | removeOrder (id : String)
  | addToOcoGroup (id groupId : String)
  | updateOrderFill (id : String) (filledQty : Decimal) (status : OrderStatus)
  | syncFromProvider (orders : List Order) (positions : List Position)

def OcoCall.apply (s : StateManager) : OcoCall → StateManager
  | .upsertOrder order => s.upsertOrder order
  | .removeOrder id => s.removeOrder id
  | .addToOcoGroup id groupId => s.addToOcoGroup id groupId
  | .updateOrderFill id filledQty status => s.updateOrderFill id filledQty status
  | .syncFromProvider orders positions => .syncFromProvider orders positions

/-- A cached order names a group exactly if it is a member of it, so it is a member of one at
most; and no group is empty. -/
structure OneTruth (s : StateManager) : Prop where
  agree : ∀ id o, s.getOrder id = some o →
    ∀ g, o.ocoGroupId = some g ↔ (s.groupMembers g).has id = true
  unique : ∀ id, (s.getOrder id).isSome → ∀ g g', (s.groupMembers g).has id = true →
    (s.groupMembers g').has id = true → g = g'
  nonempty : s.NoEmptyGroup

/-- The call leaves no order in a group that its cached copy does not name: an order that is not
cached yet comes with the group that the index has it in, and a cached order in a group is added to
no other one. -/
def OcoCall.Ok (s : StateManager) : OcoCall → Prop
  | .upsertOrder order => s.getOrder order.id = none →
    ∀ g, (s.groupMembers g).has order.id = true → order.ocoGroupId = some g
  | .addToOcoGroup id groupId => ∀ g, s.cachedGroup id = some g → g = groupId
  | _ => True

namespace OneTruth

variable {s : StateManager} {call : OcoCall}

theorem of_agree (hagree : ∀ id o, s.getOrder id = some o →
    ∀ g, o.ocoGroupId = some g ↔ (s.groupMembers g).has id = true)
    (hnonempty : s.NoEmptyGroup) : OneTruth s := by
  refine ⟨hagree, fun id hid g g' hg hg' => ?_, hnonempty⟩
  obtain ⟨o, ho⟩ := Option.isSome_iff_exists.mp hid
  have hnamed := (hagree id o ho g).mpr hg
  rw [(hagree id o ho g').mpr hg'] at hnamed
  exact (Option.some.inj hnamed).symm

theorem new : OneTruth .new :=
  of_agree (fun _ _ ho => nomatch ho) (fun _ _ hg => nomatch hg)

theorem congr {s' : StateManager} (h : OneTruth s) (hmaps : s'.orderMaps = s.orderMaps) :
    OneTruth s' := by
  have ho : s'.orders = s.orders := congrArg Prod.fst hmaps
  have hg : s'.ocoGroups = s.ocoGroups := congrArg Prod.snd hmaps
  refine of_agree ?_ ?_
  · unfold StateManager.getOrder StateManager.groupMembers
    rw [ho, hg]
    exact h.agree
  · unfold StateManager.NoEmptyGroup
    rw [hg]
    exact h.nonempty

/-- The group of a cached order is the one that has it. -/
theorem cachedGroup_iff (h : OneTruth s) {id : String} {o : CachedOrder}
    (ho : s.getOrder id = some o) (g : String) :
    s.cachedGroup id = some g ↔ (s.groupMembers g).has id = true := by
  rw [← h.agree id o ho g, StateManager.cachedGroup, ho, Option.bind_some]

theorem upsertOrder (h : OneTruth s) {order : Order} (hok : OcoCall.Ok s (.upsertOrder order)) :
    OneTruth (s.upsertOrder order) := by
  refine of_agree (fun id o ho g => ?_) (h.nonempty.upsertOrder order)
  rw [StateManager.getOrder_upsertOrder] at ho
  rw [StateManager.has_upsertOrder]
  by_cases hid : id = order.id
  · rw [if_pos hid] at ho
    cases ho
    subst hid
    -- the groups it was in are left, or are the one it comes with
    have hold : (s.groupMembers g).has order.id = true → s.cachedGroup order.id ≠ some g →
        order.ocoGroupId = some g := by
      intro hmem hnot
      cases hcached : s.getOrder order.id with
      | none => exact hok hcached g hmem
      | some o => exact absurd ((h.cachedGroup_iff hcached g).mpr hmem) hnot
    show order.ocoGroupId = some g ↔ _
    constructor
    · intro hnew
      exact .inr ⟨rfl, hnew⟩
    · rintro (⟨hmem, hnot⟩ | ⟨-, hnew⟩)
      · exact hold hmem fun hc => hnot ⟨rfl, hc⟩
      · exact hnew
  · rw [if_neg hid] at ho
    simp only [hid, false_and, not_false_eq_true, and_true, or_false]
    exact h.agree id o ho g

theorem removeOrder (h : OneTruth s) (id : String) : OneTruth (s.removeOrder id) := by
  refine of_agree (fun x o ho g => ?_) (h.nonempty.removeOrder id)
  rw [StateManager.getOrder_removeOrder] at ho
  rw [StateManager.has_removeOrder]
  by_cases hx : x = id
  · rw [if_pos hx] at ho
    cases ho
  · rw [if_neg hx] at ho
    simp only [hx, false_and, not_false_eq_true, and_true]
    exact h.agree x o ho g

theorem addToOcoGroup (h : OneTruth s) {id groupId : String}
    (hok : OcoCall.Ok s (.addToOcoGroup id groupId)) : OneTruth (s.addToOcoGroup id groupId) := by
  refine of_agree (fun x o ho g => ?_) (h.nonempty.joinGroup id groupId)
  rw [StateManager.getOrder_addToOcoGroup] at ho
  rw [StateManager.has_addToOcoGroup]
  by_cases hx : x = id
  · subst hx
    rw [if_pos rfl] at ho
    obtain ⟨o₀, ho₀, rfl⟩ := Option.map_eq_some_iff.mp ho
    simp only [Option.some.injEq, true_and]
    constructor
    · exact .inr
    · rintro (hmem | hnew)
      · exact (hok g ((h.cachedGroup_iff ho₀ g).mpr hmem)).symm
      · exact hnew
  · rw [if_neg hx] at ho
    simp only [hx, false_and, or_false]
    exact h.agree x o ho g

theorem updateOrderFill (h : OneTruth s) (id : String) (filledQty : Decimal)
    (status : OrderStatus) : OneTruth (s.updateOrderFill id filledQty status) := by
  refine of_agree (fun x o ho g => ?_) h.nonempty
  have hget : (s.orders.modify id fun o => { o with filledQuantity := filledQty, status }).get x =
    some o := ho
  rw [Table.get_modify] at hget
  split at hget
  · rename_i hx
    obtain ⟨o₀, ho₀, rfl⟩ := Option.map_eq_some_iff.mp hget
    rw [hx]
    exact h.agree id o₀ ho₀ g
  · exact h.agree x o hget g

/-! ## A sync -/

/-- Only cached orders are in a group. -/
def OnlyCached (s : StateManager) : Prop :=
  ∀ g id, (s.groupMembers g).has id = true → (s.getOrder id).isSome

/-- From an empty cache each order finds the index without it, or is cached. -/
theorem upsertOrders (h : OneTruth s) (honly : OnlyCached s) (orders : List Order) :
    OneTruth (orders.foldl .upsertOrder s) := by
  induction orders generalizing s with
  | nil => exact h
  | cons order orders ih =>
    have hok : OcoCall.Ok s (.upsertOrder order) := by
      intro hnew g hmem
      have hcached := honly g order.id hmem
      rw [hnew] at hcached
      cases hcached
    refine ih (h.upsertOrder hok) fun g id hmem => ?_
    rw [StateManager.getOrder_upsertOrder]
    by_cases hid : id = order.id
    · rw [if_pos hid]
      rfl
    · rw [if_neg hid]
      rw [StateManager.has_upsertOrder] at hmem
      simp only [hid, false_and, not_false_eq_true, and_true, or_false] at hmem
      exact honly g id hmem

theorem syncFromProvider (orders : List Order) (positions : List Position) :
    OneTruth (.syncFromProvider orders positions) := by
  have hpositions (s : StateManager) :
      (positions.foldl .upsertPosition s).orderMaps = s.orderMaps := by
    induction positions generalizing s with
    | nil => rfl
    | cons position positions ih =>
      rw [List.foldl_cons, ih, StateManager.orderMaps_upsertPosition]
  have horders := OneTruth.new.upsertOrders (fun _ _ hmem => nomatch hmem) orders
  exact horders.congr (hpositions _)

/-! ## Runs of calls -/

theorem apply (h : OneTruth s) (hok : call.Ok s) : OneTruth (call.apply s) := by
  cases call with
  | upsertOrder order => exact h.upsertOrder hok
  | removeOrder id => exact h.removeOrder id
  | addToOcoGroup id groupId => exact h.addToOcoGroup hok
  | updateOrderFill id filledQty status => exact h.updateOrderFill id filledQty status
  | syncFromProvider orders positions => exact syncFromProvider orders positions

/-- A call that does not meet the condition leaves the order in a group that its copy does not
name. -/
theorem ok_of_apply (h : OneTruth s) (hafter : OneTruth (call.apply s)) : call.Ok s := by
  cases call with
  | upsertOrder order =>
    intro hnew g hmem
    have hcached : (s.upsertOrder order).getOrder order.id = some order.cached := by
      rw [StateManager.getOrder_upsertOrder, if_pos rfl]
    refine (hafter.agree order.id order.cached hcached g).mpr ?_
    show ((s.upsertOrder order).groupMembers g).has order.id = true
    rw [StateManager.has_upsertOrder]
    refine .inl ⟨hmem, ?_⟩
    rintro ⟨-, hgroup⟩
    rw [StateManager.cachedGroup, hnew] at hgroup
    cases hgroup
  | addToOcoGroup id groupId =>
    intro g hgroup
    obtain ⟨o, ho, hog⟩ := Option.bind_eq_some_iff.mp hgroup
    have hmem := (h.agree id o ho g).mp hog
    have hcached : (s.addToOcoGroup id groupId).getOrder id =
        some { o with ocoGroupId := some groupId } := by
      rw [StateManager.getOrder_addToOcoGroup, if_pos rfl, ho]
      rfl
    have hstays : ((s.addToOcoGroup id groupId).groupMembers g).has id = true :=
      (StateManager.has_addToOcoGroup s id groupId id g).mpr (.inl hmem)
    exact (Option.some.inj ((hafter.agree id _ hcached g).mpr hstays)).symm
  | removeOrder id => trivial
  | updateOrderFill id filledQty status => trivial
  | syncFromProvider orders positions => trivial

end OneTruth

/-- The cached orders and the index agree after each call exactly if no order is cached outside a
group that the index already has it in, and no cached order is added to a second group. -/
theorem one_truth_iff (calls : List OcoCall) :
    (∀ calls', calls' <+: calls → OneTruth (Run.exec OcoCall.apply .new calls')) ↔
      Run.Guarded OcoCall.apply OcoCall.Ok .new calls :=
  Run.forall_prefix_iff_guarded_all (I := OneTruth) (fun _ h => h)
    (fun _ _ h hok => h.apply hok) (fun _ _ h hbad hafter => hbad (h.ok_of_apply hafter))
    OneTruth.new calls

/-- A resting order of a group. -/
def groupedOrder (id : String) (ocoGroupId : Option String) : Order :=
  { sampleBracket.toOrder id with ocoGroupId }

/-- A cached order that is added to a second group stays in the first one; an order that is added
to a group and then cached without one stays in the group. -/
theorem membership_diverges :
    ¬ OneTruth (Run.exec OcoCall.apply .new
        [.upsertOrder (groupedOrder "a" (some "g")), .addToOcoGroup "a" "h"]) ∧
      ¬ OneTruth (Run.exec OcoCall.apply .new
        [.addToOcoGroup "a" "g", .upsertOrder (groupedOrder "a" none)]) := by
  constructor
  · intro h
    have hsame : "g" = "h" := h.unique "a" (by decide +kernel) "g" "h" (by decide +kernel)
      (by decide +kernel)
    exact absurd hsame (by decide)
  · intro h
    have hnamed := (h.agree "a" (groupedOrder "a" none).cached (by decide +kernel) "g").mpr
      (by decide +kernel)
    exact absurd hnamed (by decide)

end Gateway
