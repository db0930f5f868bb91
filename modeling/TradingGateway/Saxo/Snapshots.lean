import TradingGateway.Saxo.Deltas

/-!
# The snapshot store

Every subscription has its snapshot, under its reference id. What a delta does to a snapshot is said
path by path; what the store does with operations for several subscriptions, subscription by
subscription.

* `delta_last_writer`: a delta wins where it has a value, and leaves the rest.
-/

namespace Gateway.Saxo

/-- Remove the snapshot of a subscription; whether there was one. -/
def SnapshotStore.remove (store : SnapshotStore) (referenceId : String) : Bool × SnapshotStore :=
  ((store.get referenceId).isSome, Table.remove store referenceId)

/-- A call of the store. -/
inductive SnapshotOp where
  | setSnapshot (referenceId : String) (snapshot : Json)
  | applyDelta (referenceId : String) (delta : Json)
  | remove (referenceId : String)

namespace SnapshotOp

def referenceId : SnapshotOp → String
  | .setSnapshot r _ | .applyDelta r _ | .remove r => r

/-- The store after the call; a delta without a snapshot is an error and changes nothing. -/
def apply (store : SnapshotStore) : SnapshotOp → SnapshotStore
  | .setSnapshot r snapshot => store.setSnapshot r snapshot
  | .applyDelta r delta =>
    match store.applyDelta r delta with
    | .ok (_, store) => store
    | .error _ => store
  | .remove r => (store.remove r).2

/-- What the call does to the snapshot of its reference id. -/
def onOwn (snapshot : Option Json) : SnapshotOp → Option Json
  | .setSnapshot _ new => some new
  | .applyDelta _ delta => snapshot.map fun base => base.deepMerge delta
  | .remove _ => none

theorem get_apply (store : SnapshotStore) (op : SnapshotOp) (r : String) :
    (op.apply store).get r =
      if op.referenceId = r then op.onOwn (store.get r) else store.get r := by
  cases op with
  | setSnapshot r' snapshot =>
    show (store.insert r' snapshot).get r = if r' = r then some snapshot else store.get r
    rw [Table.get_insert]
    simp only [eq_comm]
  | applyDelta r' delta =>
    unfold apply SnapshotStore.applyDelta referenceId onOwn
    cases hget : store.get r' with
    | none =>
      simp only [hget]
      by_cases hr : r' = r
      · subst hr
        simp [hget]
      · rw [if_neg hr]
    | some snapshot =>
      simp only [hget]
      rw [Table.get_insert]
      by_cases hr : r' = r
      · subst hr
        simp [hget]
      · rw [if_neg (Ne.symm hr), if_neg hr]
  | remove r' =>
    show (Table.remove store r').get r = if r' = r then none else store.get r
    rw [Table.get_remove]
    simp only [eq_comm]

/-- Over any operations, a snapshot is the result of those of its own reference id. -/
theorem get_exec (store : SnapshotStore) (ops : List SnapshotOp) (r : String) :
    (Run.exec apply store ops).get r =
      (ops.filter fun op => op.referenceId = r).foldl onOwn (store.get r) := by
  induction ops generalizing store with
  | nil => rfl
  | cons op ops ih =>
    rw [Run.exec_cons, ih, get_apply]
    by_cases hr : op.referenceId = r
    · rw [if_pos hr, List.filter_cons_of_pos (by simpa using hr), List.foldl_cons]
    · rw [if_neg hr, List.filter_cons_of_neg (by simpa using hr)]

end SnapshotOp

/-- **A delta wins where it has a value.** Its values that are no objects are those of the merged
snapshot; where it leaves the objects that both have, the snapshot is as before; a second merge
changes nothing; and the snapshot of a subscription is made by its own operations alone. -/
theorem delta_last_writer {b d : Json} (hb : b.WF) (hd : d.WF) :
    (∀ path v, d.atPath path = some v → v.isObject = false →
      (b.deepMerge d).atPath path = some v) ∧
    (∀ path k rest,
      (∀ q, q <+: path →
        (d.atPath q).any Json.isObject = true ∧ (b.atPath q).any Json.isObject = true) →
      d.atPath (path ++ [k]) = none →
      (b.deepMerge d).atPath (path ++ k :: rest) = b.atPath (path ++ k :: rest)) ∧
    (b.deepMerge d).deepMerge d = b.deepMerge d ∧
    ∀ (store : SnapshotStore) (ops : List SnapshotOp) (r : String),
      (Run.exec SnapshotOp.apply store ops).get r =
        (ops.filter fun op => op.referenceId = r).foldl SnapshotOp.onOwn (store.get r) := by
  refine ⟨fun path v hv hleaf => ?_, fun path k rest hobjects hlacks => ?_, ?_, ?_⟩
  · exact Json.atPath_deepMerge_of_leaf hd b hv hleaf
  · exact Json.atPath_deepMerge_of_lacks hd hobjects hlacks rest
  · exact Json.deepMerge_deepMerge hb hd
  · exact SnapshotOp.get_exec

/-- The snapshot of an order, as a parser builds it. -/
def orderSnapshot : Json :=
  .obj [("Amount", .int 10), ("Duration", .obj [("Date", .str "d"), ("Type", .str "GTD")])]

/-- A new amount and another type of duration. -/
def orderDelta : Json := .obj [("Amount", .int 4), ("Duration", .obj [("Type", .str "Day")])]

/-- The delta's values are taken, and the date of the duration stays. -/
theorem delta_last_writer_order :
    (orderSnapshot.deepMerge orderDelta).atPath ["Duration", "Type"] = some (.str "Day") ∧
      (orderSnapshot.deepMerge orderDelta).atPath ["Duration", "Date"] = some (.str "d") := by
  have hduration : Json.WF (.obj [("Date", .str "d"), ("Type", .str "GTD")]) := by
    refine .obj (by decide) fun x hx => ?_
    rcases List.mem_pair.mp hx with rfl | rfl <;> exact .scalar _
  have hb : orderSnapshot.WF := by
    refine .obj (by decide) fun x hx => ?_
    rcases List.mem_pair.mp hx with rfl | rfl
    · exact .scalar _
    · exact hduration
  have htype : Json.WF (.obj [("Type", .str "Day")]) := by
    refine .obj (by decide) fun x hx => ?_
    obtain rfl := List.mem_singleton.mp hx
    exact .scalar _
  have hd : orderDelta.WF := by
    refine .obj (by decide) fun x hx => ?_
    rcases List.mem_pair.mp hx with rfl | rfl
    · exact .scalar _
    · exact htype
  obtain ⟨hleaf, hlacks, -⟩ := delta_last_writer hb hd
  constructor
  · exact hleaf ["Duration", "Type"] (.str "Day") (by decide +kernel) rfl
  · refine (hlacks ["Duration"] "Date" [] (fun q hq => ?_) (by decide +kernel)).trans
      (by decide +kernel)
    rcases List.prefix_cons_iff.mp hq with rfl | ⟨t, rfl, ht⟩
    · exact ⟨rfl, rfl⟩
    · obtain rfl := List.prefix_nil.mp ht
      exact ⟨by decide +kernel, by decide +kernel⟩

end Gateway.Saxo
