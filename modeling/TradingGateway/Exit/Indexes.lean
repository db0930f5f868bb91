import Mathlib.Data.List.Dedup
import TradingGateway.Exit.PositionClose
import TradingGateway.Exit.PrimaryCancel

/-!
# Do the two maps of the exit handler agree?

An entry stands in `pendingByPlaceholder`, and `pendingByPrimary` lists it under its primary order.
Nine operations change the maps, one after the other, with a provider that answers anything.

`handleCancellationInternal` takes the whole list of the primary order away but cancels only the
entries that wait for fills, so an entry that is `placed` or `failed` is tracked and listed nowhere:
no fill, backup or expiry of its primary order finds it again.

* `ExitHandler.Kept`: the invariant: no list names an entry twice, an entry stands at its own
  placeholder id, and the two legs of a pair are always listed together.
* `indexes_agree_iff`: the maps agree after each call of a run exactly if no primary order is
  cancelled that lists a `placed` or `failed` entry.
-/

namespace Gateway.Exit

variable {β : Type} {c : Ctx β} {seen : List String}

namespace ExitHandler

/-- The two maps agree. -/
structure Agrees (h : ExitHandler) : Prop where
  /-- A listed placeholder is the key of an entry of that primary order. -/
  listed : ∀ {p id}, id ∈ h.getPlaceholdersForPrimary p →
    ∃ e, h.getEntry id = some e ∧ e.primaryOrderId = p
  /-- An entry that is neither `cancelled` nor `expired` is listed once. -/
  indexed : ∀ {k e}, h.getEntry k = some e → e.status.isTracking = true →
    (h.getPlaceholdersForPrimary e.primaryOrderId).count k = 1
  /-- No list is empty. -/
  nonempty : ∀ {p ids}, h.pendingByPrimary.get p = some ids → ids ≠ []

/-- The maps agree, and the operations keep it so. `seen` are the primary orders that were
registered. -/
structure Kept (seen : List String) (h : ExitHandler) : Prop extends h.Agrees where
  nodup : ∀ p, (h.getPlaceholdersForPrimary p).Nodup
  keyed : ∀ {k e}, h.getEntry k = some e → e.placeholderId = k
  /-- An entry stands at the placeholder of a leg that was registered. -/
  registered : ∀ {k e}, h.getEntry k = some e → ∃ leg, ∃ p ∈ seen, k = generatePlaceholderId leg p
  /-- A leg points at the other leg of its pair. -/
  legs : ∀ {k e s}, h.getEntry k = some e → e.siblingId = some s →
    ∃ leg p, k = generatePlaceholderId leg p ∧ s = generatePlaceholderId leg.other p
  /-- The two legs of a pair are of one primary order, and listed together. -/
  paired : ∀ {k e s e'}, h.getEntry k = some e → e.siblingId = some s →
    h.getEntry s = some e' → e'.primaryOrderId = e.primaryOrderId ∧
      (s ∈ h.getPlaceholdersForPrimary e.primaryOrderId ↔
        k ∈ h.getPlaceholdersForPrimary e.primaryOrderId)

variable {h h' h'' : ExitHandler} {k p : String} {e : ExitEntry} {keys : List String}

theorem Kept.mem (hk : h.Kept seen) (he : h.getEntry k = some e)
    (ht : e.status.isTracking = true) :
    k ∈ h.getPlaceholdersForPrimary e.primaryOrderId :=
  List.count_pos_iff.mp (by rw [hk.indexed he ht]; exact Nat.one_pos)

theorem count_eq_one (hnd : ∀ p, (h.getPlaceholdersForPrimary p).Nodup)
    (hm : k ∈ h.getPlaceholdersForPrimary p) :
    (h.getPlaceholdersForPrimary p).count k = 1 := List.count_eq_one_of_mem (hnd p) hm

theorem Kept.new (config : ExitHandlerConfig) : (ExitHandler.new config).Kept [] where
  listed h := by simp at h
  indexed h := by simp at h
  nonempty h := by cases h
  nodup _ := List.nodup_nil
  keyed h := by simp at h
  registered h := by simp at h
  legs h := by simp at h
  paired h := by simp at h

/-! ## Entries change in place -/

/-- `e'` is the leg `e` in another state, and did not come back to life. -/
structure SameLeg (e e' : ExitEntry) : Prop where
  placeholderId : e'.placeholderId = e.placeholderId
  primaryOrderId : e'.primaryOrderId = e.primaryOrderId
  siblingId : e'.siblingId = e.siblingId
  tracking : e'.status.isTracking = true → e.status.isTracking = true

theorem SameLeg.refl (e : ExitEntry) : SameLeg e e := ⟨rfl, rfl, rfl, id⟩

theorem SameLeg.trans {e' e'' : ExitEntry} (h : SameLeg e e') (h' : SameLeg e' e'') :
    SameLeg e e'' :=
  ⟨h'.placeholderId.trans h.placeholderId, h'.primaryOrderId.trans h.primaryOrderId,
    h'.siblingId.trans h.siblingId, fun ht => h.tracking (h'.tracking ht)⟩

/-- The entries of `h'` are those of `h`, some in other states. -/
structure Reshaped (h h' : ExitHandler) : Prop where
  index : h'.pendingByPrimary = h.pendingByPrimary
  entry : ∀ k, Option.Rel SameLeg (h.getEntry k) (h'.getEntry k)

namespace Reshaped

theorem of_getEntry (hindex : h'.pendingByPrimary = h.pendingByPrimary)
    (hentry : ∀ k, h'.getEntry k = h.getEntry k) : Reshaped h h' := by
  refine ⟨hindex, fun k => ?_⟩
  rw [hentry]
  cases h.getEntry k with
  | none => exact .none
  | some e => exact .some (.refl e)

theorem refl : Reshaped h h := of_getEntry rfl fun _ => rfl

theorem trans (hr : Reshaped h h') (hr' : Reshaped h' h'') : Reshaped h h'' := by
  refine ⟨hr'.index.trans hr.index, fun k => ?_⟩
  have h₁ := hr.entry k
  have h₂ := hr'.entry k
  revert h₁ h₂
  cases h.getEntry k <;> cases h'.getEntry k <;> cases h''.getEntry k <;>
    rintro (hfirst | _) (hsecond | _)
  · exact .none
  · exact .some (hfirst.trans hsecond)

theorem modifyEntry {k : String} {f : ExitEntry → ExitEntry}
    (hf : ∀ e, h.getEntry k = some e → SameLeg e (f e)) : Reshaped h (h.modifyEntry k f) := by
  refine ⟨rfl, fun k' => ?_⟩
  rw [getEntry_modifyEntry]
  by_cases hk : k' = k
  · subst hk
    rw [if_pos rfl]
    cases he : h.getEntry k' with
    | none => exact .none
    | some e => exact .some (hf e he)
  · rw [if_neg hk]
    cases h.getEntry k' with
    | none => exact .none
    | some e => exact .some (.refl e)

/-- The state of an entry before the change. -/
theorem before (hr : Reshaped h h') {e' : ExitEntry} (he' : h'.getEntry k = some e') :
    ∃ e, h.getEntry k = some e ∧ SameLeg e e' := by
  have hrel := hr.entry k
  rw [he'] at hrel
  generalize h.getEntry k = entry at hrel ⊢
  cases hrel with
  | some hsame => exact ⟨_, rfl, hsame⟩

/-- The state of an entry after the change. -/
theorem after (hr : Reshaped h h') (he : h.getEntry k = some e) :
    ∃ e', h'.getEntry k = some e' ∧ SameLeg e e' := by
  have hrel := hr.entry k
  rw [he] at hrel
  generalize h'.getEntry k = entry at hrel ⊢
  cases hrel with
  | some hsame => exact ⟨_, rfl, hsame⟩

theorem placeholders (hr : Reshaped h h') (p : String) :
    h'.getPlaceholdersForPrimary p = h.getPlaceholdersForPrimary p := by
  rw [getPlaceholdersForPrimary, hr.index, getPlaceholdersForPrimary]

end Reshaped

theorem Kept.reshape (hk : h.Kept seen) (hr : Reshaped h h') :
    h'.Kept seen where
  listed hm := by
    rw [hr.placeholders] at hm
    obtain ⟨e, he, hp⟩ := hk.listed hm
    obtain ⟨e', he', hsame⟩ := hr.after he
    exact ⟨e', he', hsame.primaryOrderId.trans hp⟩
  indexed he' ht := by
    obtain ⟨e, he, hsame⟩ := hr.before he'
    rw [hr.placeholders, hsame.primaryOrderId]
    exact hk.indexed he (hsame.tracking ht)
  nonempty := by rw [hr.index]; exact hk.nonempty
  nodup p := by rw [hr.placeholders]; exact hk.nodup p
  keyed he' := by
    obtain ⟨e, he, hsame⟩ := hr.before he'
    exact hsame.placeholderId.trans (hk.keyed he)
  registered he' := by
    obtain ⟨e, he, -⟩ := hr.before he'
    exact hk.registered he
  legs he' hs := by
    obtain ⟨e, he, hsame⟩ := hr.before he'
    exact hk.legs he (hsame.siblingId.symm.trans hs)
  paired he' hs hs' := by
    obtain ⟨e, he, hsame⟩ := hr.before he'
    obtain ⟨e₂, he₂, hsame₂⟩ := hr.before hs'
    have hpair := hk.paired he (hsame.siblingId.symm.trans hs) he₂
    rw [hr.placeholders, hsame.primaryOrderId, hsame₂.primaryOrderId]
    exact hpair

/-! ## Entries go -/

/-- No list is empty. -/
def NoneEmpty (h : ExitHandler) : Prop := ∀ {p ids}, h.pendingByPrimary.get p = some ids → ids ≠ []

/-- The entries that `gone` selects are removed, and their placeholders from every list. -/
theorem Kept.removeAll (hk : h.Kept seen) (gone : String → Bool)
    (hget : ∀ k, h'.getEntry k = if gone k then none else h.getEntry k)
    (hlist : ∀ p, h'.getPlaceholdersForPrimary p =
      (h.getPlaceholdersForPrimary p).filter fun id => !gone id)
    (hne : h'.NoneEmpty) : h'.Kept seen := by
  have hstays {k : String} {e : ExitEntry} (he : h'.getEntry k = some e) :
      gone k = false ∧ h.getEntry k = some e := by
    rw [hget] at he
    split at he
    · cases he
    · rename_i hg
      exact ⟨Bool.eq_false_iff.mpr hg, he⟩
  have hmem {p k : String} : k ∈ h'.getPlaceholdersForPrimary p ↔
      k ∈ h.getPlaceholdersForPrimary p ∧ gone k = false := by
    rw [hlist, List.mem_filter, Bool.not_eq_true']
  have hnodup : ∀ p, (h'.getPlaceholdersForPrimary p).Nodup := by
    intro p
    rw [hlist]
    exact (hk.nodup p).filter _
  constructor
  · refine ⟨fun hm => ?_, fun he ht => ?_, hne⟩
    · obtain ⟨hm, hg⟩ := hmem.mp hm
      obtain ⟨e, he, hp⟩ := hk.listed hm
      exact ⟨e, by rw [hget, hg]; exact he, hp⟩
    · obtain ⟨hg, he⟩ := hstays he
      exact count_eq_one hnodup (hmem.mpr ⟨hk.mem he ht, hg⟩)
  · exact hnodup
  · intro k e he
    exact hk.keyed (hstays he).2
  · intro k e he
    exact hk.registered (hstays he).2
  · intro k e s he hs
    exact hk.legs (hstays he).2 hs
  · intro k e s e' he hs he'
    obtain ⟨hg, he⟩ := hstays he
    obtain ⟨hg', he'⟩ := hstays he'
    obtain ⟨hp, hiff⟩ := hk.paired he hs he'
    refine ⟨hp, ?_⟩
    rw [hmem, hmem, hiff, hg, hg']

theorem NoneEmpty.removeBatch (hne : h.NoneEmpty) (p : String)
    (ids : List String) : (h.removeBatchFromSecondaryIndex p ids).NoneEmpty := by
  intro q all hget
  unfold removeBatchFromSecondaryIndex at hget
  cases hp : h.pendingByPrimary.get p with
  | none =>
    rw [hp] at hget
    exact hne hget
  | some old =>
    simp only [hp] at hget
    split at hget
    · rw [Table.get_remove] at hget
      split at hget
      · cases hget
      · exact hne hget
    · rename_i hrest
      rw [Table.get_insert] at hget
      split at hget
      · cases hget
        simpa using hrest
      · exact hne hget

theorem NoneEmpty.dropPrimary (hne : h.NoneEmpty) (p : String) :
    (h.dropPrimary p).NoneEmpty := by
  intro q ids hget
  rw [ExitHandler.dropPrimary, Table.get_remove] at hget
  split at hget
  · cases hget
  · exact hne hget

theorem Kept.home (hk : h.Kept seen) (hm : k ∈ h.getPlaceholdersForPrimary p)
    (he : h.getEntry k = some e) :
    p = e.primaryOrderId := by
  obtain ⟨e', he', hp⟩ := hk.listed hm
  cases he.symm.trans he'
  exact hp.symm

theorem Kept.removePendingEntry (hk : h.Kept seen) (he : h.getEntry k = some e) :
    (h.removePendingEntry k e.primaryOrderId).Kept seen := by
  refine hk.removeAll (fun k' => decide (k' = k)) (fun k' => ?_) (fun p => ?_) ?_
  · rw [getEntry_removePendingEntry]
    simp
  · rw [getPlaceholdersForPrimary_removePendingEntry]
    split
    · rename_i hp
      rw [hp]
      refine List.filter_congr fun id _ => ?_
      simp
    · rename_i hp
      refine (List.filter_eq_self.mpr fun id hid => ?_).symm
      rw [Bool.not_eq_true', decide_eq_false_iff_not]
      rintro rfl
      exact hp (hk.home hid he)
  · exact NoneEmpty.removeBatch (h := { h with
      pendingByPlaceholder := h.pendingByPlaceholder.remove k }) hk.nonempty _ _

/-! ## Several entries go -/

/-- A batch of placeholders is taken from the list of each primary order. -/
abbrev removeBatches (h : ExitHandler) (batches : List (String × List String)) : ExitHandler :=
  batches.foldl (fun h (primary, ids) => h.removeBatchFromSecondaryIndex primary ids) h

theorem removeBatches_cons (batch : String × List String) (batches : List (String × List String)) :
    h.removeBatches (batch :: batches) =
      (h.removeBatchFromSecondaryIndex batch.1 batch.2).removeBatches batches := rfl

theorem getPlaceholdersForPrimary_foldl_removeBatch (batches : List (String × List String))
    (h : ExitHandler) (p : String) :
    (h.removeBatches batches).getPlaceholdersForPrimary p =
      (h.getPlaceholdersForPrimary p).filter fun id =>
        decide (∀ batch ∈ batches, batch.1 = p → id ∉ batch.2) := by
  induction batches generalizing h with
  | nil => simp
  | cons batch batches ih =>
    rw [removeBatches_cons, ih, getPlaceholdersForPrimary_removeBatch]
    by_cases hp : p = batch.1
    · rw [if_pos hp, ← hp, List.filter_filter]
      refine List.filter_congr fun id _ => ?_
      simp only [List.forall_mem_cons, ← hp, true_implies, Bool.decide_and, Bool.and_comm]
    · rw [if_neg hp]
      refine List.filter_congr fun id _ => ?_
      simp only [List.forall_mem_cons, Ne.symm hp, false_implies, true_and]

theorem getEntry_foldl_removeBatch (batches : List (String × List String)) (h : ExitHandler)
    (k : String) : (h.removeBatches batches).getEntry k = h.getEntry k := by
  induction batches generalizing h with
  | nil => rfl
  | cons batch batches ih => rw [removeBatches_cons, ih, getEntry_removeBatch]

theorem NoneEmpty.foldl_removeBatch (hne : h.NoneEmpty)
    (batches : List (String × List String)) : (h.removeBatches batches).NoneEmpty := by
  induction batches generalizing h with
  | nil => exact hne
  | cons batch batches ih => exact ih (hne.removeBatch batch.1 batch.2)

theorem mem_groupByKey {xs : List (String × String)} {id : String} :
    (∃ group ∈ groupByKey xs, group.1 = p ∧ id ∈ group.2) ↔ (p, id) ∈ xs := by
  constructor
  · rintro ⟨group, hgroup, rfl, hid⟩
    obtain ⟨key, -, rfl⟩ := List.mem_map.mp hgroup
    obtain ⟨⟨p, id⟩, hin, rfl⟩ := List.mem_map.mp hid
    obtain ⟨hx, hkey⟩ := List.mem_filter.mp hin
    rw [← of_decide_eq_true hkey]
    exact hx
  · intro hx
    have hkey : p ∈ (xs.map Prod.fst).reverse.dedup.reverse := by
      rw [List.mem_reverse, List.mem_dedup, List.mem_reverse]
      exact List.mem_map_of_mem hx
    refine ⟨_, List.mem_map_of_mem hkey, rfl, ?_⟩
    exact List.mem_map.mpr ⟨(p, id), List.mem_filter.mpr ⟨hx, decide_eq_true rfl⟩, rfl⟩

/-- The pairs of a primary order and a placeholder are taken from the lists. -/
theorem getPlaceholdersForPrimary_removeGroups (taken : List (String × String)) (h : ExitHandler)
    (p : String) :
    (h.removeBatches (groupByKey taken)).getPlaceholdersForPrimary p =
      (h.getPlaceholdersForPrimary p).filter fun id => decide ((p, id) ∉ taken) := by
  rw [getPlaceholdersForPrimary_foldl_removeBatch]
  refine List.filter_congr fun id _ => decide_eq_decide.mpr ?_
  rw [← mem_groupByKey]
  push Not
  rfl

/-- `h'` is `h` without the entries of `keys`: each is gone from the table and from the list of its
primary order. -/
structure Takes (keys : List String) (h h' : ExitHandler) : Prop where
  entry : ∀ k, h'.getEntry k = if k ∈ keys then none else h.getEntry k
  list : ∀ p, h'.getPlaceholdersForPrimary p =
    (h.getPlaceholdersForPrimary p).filter fun id =>
      !(decide (id ∈ keys) && (h.getEntry id).any fun e => e.primaryOrderId == p)
  nonempty : h.NoneEmpty → h'.NoneEmpty

theorem Kept.takes (hk : h.Kept seen) (ht : Takes keys h h') :
    h'.Kept seen := by
  refine hk.removeAll (fun k => decide (k ∈ keys)) (fun k => ?_) (fun p => ?_)
    (ht.nonempty hk.nonempty)
  · rw [ht.entry]
    simp only [decide_eq_true_eq]
  · rw [ht.list]
    refine List.filter_congr fun id hid => ?_
    obtain ⟨e, he, hp⟩ := hk.listed hid
    simp [he, hp]

/-- The entries of `keys` are taken out of the table, and then from the lists of their primary
orders. -/
theorem takes_removeGroups {keys : List String} {taken : List (String × String)}
    {entries : Table String ExitEntry}
    (hentries : ∀ k, entries.get k = if k ∈ keys then none else h.getEntry k)
    (htaken : ∀ p k, (p, k) ∈ taken ↔
      k ∈ keys ∧ ∃ e, h.getEntry k = some e ∧ e.primaryOrderId = p) :
    Takes keys h
      ({ h with pendingByPlaceholder := entries }.removeBatches (groupByKey taken)) where
  entry k := by
    rw [getEntry_foldl_removeBatch]
    exact hentries k
  list p := by
    rw [getPlaceholdersForPrimary_removeGroups]
    refine List.filter_congr fun id _ => ?_
    have hin := htaken p id
    rw [Bool.eq_iff_iff]
    cases hget : h.getEntry id <;> simp [hin, hget]
  nonempty hne :=
    NoneEmpty.foldl_removeBatch (h := { h with pendingByPlaceholder := entries }) hne _

theorem takes_found {found : List (String × ExitEntry)}
    (hfound : ∀ {k e}, (k, e) ∈ found → h.getEntry k = some e) :
    Takes (found.map Prod.fst) h
      (removeBatches { h with
        pendingByPlaceholder :=
          found.foldl (fun t (key, _) => t.remove key) h.pendingByPlaceholder }
        (groupByKey (found.map fun (key, e) => (e.primaryOrderId, key)))) := by
  refine takes_removeGroups (fun k => ?_) (fun p k => ?_)
  · have hfold := h.pendingByPlaceholder.get_foldl_remove (found.map Prod.fst) k
    rw [List.foldl_map] at hfold
    exact hfold
  · simp only [List.mem_map, Prod.exists, Prod.mk.injEq, exists_and_right, exists_eq_right]
    constructor
    · rintro ⟨k', e, hm, rfl, rfl⟩
      exact ⟨⟨e, hm⟩, e, hfound hm, rfl⟩
    · rintro ⟨⟨e, hm⟩, e', he', rfl⟩
      cases he'.symm.trans (hfound hm)
      exact ⟨k, e, hm, rfl, rfl⟩

theorem takes_clearFailedEntries (h : ExitHandler) :
    Takes ((h.pendingByPlaceholder.toList.filter fun (_, e) =>
      match e.status with
      | .failed .. => true
      | _ => false).map Prod.fst) h h.clearFailedEntries :=
  takes_found fun hm => Table.mem_toList.mp (List.mem_filter.mp hm).1

theorem Kept.clearFailedEntries (hk : h.Kept seen) :
    h.clearFailedEntries.Kept seen := hk.takes h.takes_clearFailedEntries

theorem takeEntries_spec (hnd : keys.Nodup) (t : Table String ExitEntry) :
    (∀ k, (takeEntries keys t).2.get k = if k ∈ keys then none else t.get k) ∧
      ∀ p k, (p, k) ∈ (takeEntries keys t).1 ↔
        k ∈ keys ∧ ∃ e, t.get k = some e ∧ e.primaryOrderId = p := by
  induction keys generalizing t with
  | nil => simp [takeEntries]
  | cons key keys ih =>
    rw [List.nodup_cons] at hnd
    unfold takeEntries
    cases hkey : t.get key with
    | none =>
      obtain ⟨hget, hmem⟩ := ih hnd.2 t
      refine ⟨fun k => ?_, fun p k => ?_⟩
      · rw [hget]
        by_cases hk : k = key <;> simp [hk, hkey]
      · rw [hmem]
        by_cases hk : k = key <;> simp [hk, hkey]
    | some e =>
      obtain ⟨hget, hmem⟩ := ih hnd.2 (t.remove key)
      refine ⟨fun k => ?_, fun p k => ?_⟩
      · simp only [hget, Table.get_remove]
        by_cases hk : k = key <;> simp [hk]
      · simp only [List.mem_cons, Prod.mk.injEq, hmem, Table.get_remove]
        by_cases hk : k = key
        · subst hk
          simp [hnd.1, hkey, eq_comm]
        · simp [hk]

/-- An entry that stands at its own placeholder id is taken once. -/
theorem takes_cleanupExpiredEntries
    (hkeyed : ∀ {k e}, h.getEntry k = some e → e.placeholderId = k) (config : ExitHandlerConfig)
    (now : Instant) :
    Takes ((h.pendingByPlaceholder.toList.filter fun (_, e) =>
      now - e.createdAt > config.entryTtl).map Prod.fst) h
      (h.cleanupExpiredEntries config now).2 := by
  unfold ExitHandler.cleanupExpiredEntries
  set expired := h.pendingByPlaceholder.toList.filter fun (_, e) =>
    now - e.createdAt > config.entryTtl with hexpired
  have hkeys : expired.map (fun (_, e) => e.placeholderId) = expired.map Prod.fst := by
    refine List.map_congr_left fun ke hm => ?_
    exact hkeyed (Table.mem_toList.mp (List.mem_filter.mp hm).1)
  have hnd : (expired.map Prod.fst).Nodup :=
    (Table.nodup_keys _).sublist (List.filter_sublist.map _)
  rw [hkeys]
  obtain ⟨hget, hmem⟩ := takeEntries_spec hnd h.pendingByPlaceholder
  exact takes_removeGroups hget hmem

theorem Kept.cleanupExpiredEntries (hk : h.Kept seen) (config : ExitHandlerConfig)
    (now : Instant) : (h.cleanupExpiredEntries config now).2.Kept seen :=
  hk.takes (takes_cleanupExpiredEntries hk.keyed config now)

theorem Kept.cancelBackup (hk : h.Kept seen) (backupId : String) :
    (h.cancelBackup backupId).2.Kept seen := by
  unfold ExitHandler.cancelBackup
  by_cases hids : (h.getPlaceholdersForPrimary backupId).isEmpty = true
  · simp only [hids, if_true]
    exact hk
  · simp only [hids, Bool.false_eq_true, if_false]
    have hfold (ids : List String) (h : ExitHandler) :
        ids.foldl (fun h id => { h with
          pendingByPlaceholder := h.pendingByPlaceholder.remove id }) h =
        { h with
          pendingByPlaceholder := ids.foldl (fun t id => t.remove id) h.pendingByPlaceholder } := by
      induction ids generalizing h with
      | nil => rfl
      | cons id ids ih => rw [List.foldl_cons, ih, List.foldl_cons]
    rw [hfold]
    refine hk.removeAll (fun k => decide (k ∈ h.getPlaceholdersForPrimary backupId)) (fun k => ?_)
      (fun p => ?_)
      (NoneEmpty.dropPrimary (h := { h with pendingByPlaceholder := _ }) hk.nonempty _)
    · rw [getEntry_dropPrimary]
      simp only [decide_eq_true_eq]
      exact h.pendingByPlaceholder.get_foldl_remove _ k
    · rw [getPlaceholdersForPrimary_dropPrimary]
      split
      · rename_i hp
        rw [hp]
        symm
        rw [List.filter_eq_nil_iff]
        intro id hid
        simpa using hid
      · rename_i hp
        symm
        refine List.filter_eq_self.mpr fun id hid => ?_
        obtain ⟨e, he, heq⟩ := hk.listed hid
        rw [Bool.not_eq_true', decide_eq_false_iff_not]
        intro hin
        exact hp (heq.symm.trans (hk.home hin he).symm)

/-! ## Entries come, and move -/

/-- No entry stands at the placeholders of an order that was not registered. -/
theorem Kept.getEntry_fresh (hk : h.Kept seen) {p : String} (hp : p ∉ seen)
    (leg : ExitLegType) : h.getEntry (generatePlaceholderId leg p) = none := by
  cases he : h.getEntry (generatePlaceholderId leg p) with
  | none => rfl
  | some e =>
    obtain ⟨leg', p', hp', heq⟩ := hk.registered he
    obtain ⟨-, rfl⟩ := generatePlaceholderId_inj heq
    exact absurd hp' hp

section insertNew

variable {p : String} {news : List String} (hk : h.Kept seen)
  (hins : Inserts p news h h') (hp : p ∉ seen)

variable {q s : String}

include hins in
theorem Inserts.mem_placeholders : k ∈ h'.getPlaceholdersForPrimary q ↔
    k ∈ h.getPlaceholdersForPrimary q ∨ q = p ∧ k ∈ news := by
  rw [hins.placeholders, List.mem_append]
  split <;> simp_all

include hk hins hp

theorem Inserts.notMem_of_listed (hm : k ∈ h.getPlaceholdersForPrimary q) : k ∉ news := by
  intro hnew
  obtain ⟨e, he, -⟩ := hk.listed hm
  obtain ⟨leg, rfl⟩ := hins.id k hnew
  rw [hk.getEntry_fresh hp leg] at he
  cases he

theorem Inserts.notMem_of_sibling (he : h.getEntry k = some e) (hs : e.siblingId = some s) :
    s ∉ news := by
  intro hm
  obtain ⟨leg, q, rfl, rfl⟩ := hk.legs he hs
  obtain ⟨leg', heq⟩ := hins.id _ hm
  obtain ⟨-, rfl⟩ := generatePlaceholderId_inj heq
  rw [hk.getEntry_fresh hp leg] at he
  cases he

theorem Inserts.nodup_placeholders (q : String) : (h'.getPlaceholdersForPrimary q).Nodup := by
  rw [hins.placeholders]
  split
  · exact (hk.nodup q).append hins.nodup fun k hm hnew => hins.notMem_of_listed hk hp hm hnew
  · rw [List.append_nil]
    exact hk.nodup q

theorem Inserts.agrees : h'.Agrees := by
  refine ⟨fun {q k} hm => ?_, fun {k e} he ht => ?_, fun {q ids} hids => ?_⟩
  · rcases hins.mem_placeholders.mp hm with hm | ⟨rfl, hm⟩
    · rw [hins.old k (hins.notMem_of_listed hk hp hm)]
      exact hk.listed hm
    · obtain ⟨e, he, -, hprim, -⟩ := hins.new k hm
      exact ⟨e, he, hprim⟩
  · refine count_eq_one (hins.nodup_placeholders hk hp) (hins.mem_placeholders.mpr ?_)
    by_cases hnew : k ∈ news
    · obtain ⟨e', he', -, hprim, -⟩ := hins.new k hnew
      cases he.symm.trans he'
      exact .inr ⟨hprim, hnew⟩
    · rw [hins.old k hnew] at he
      exact .inl (hk.mem he ht)
  · rw [hins.index] at hids
    split at hids
    · cases hids
      exact List.append_ne_nil_of_right_ne_nil _ hins.nonempty
    · exact hk.nonempty hids

/-- The two legs of a pair are both new, or both old. -/
theorem Inserts.paired {e' : ExitEntry} (he : h'.getEntry k = some e) (hs : e.siblingId = some s)
    (he' : h'.getEntry s = some e') :
    e'.primaryOrderId = e.primaryOrderId ∧
      (s ∈ h'.getPlaceholdersForPrimary e.primaryOrderId ↔
        k ∈ h'.getPlaceholdersForPrimary e.primaryOrderId) := by
  rw [hins.mem_placeholders, hins.mem_placeholders]
  by_cases hnew : k ∈ news
  · obtain ⟨e₂, he₂, -, hprim, -, hsib⟩ := hins.new k hnew
    cases he.symm.trans he₂
    obtain ⟨hsnew, -⟩ := hsib s hs
    obtain ⟨e₃, he₃, -, hprim', -⟩ := hins.new s hsnew
    cases he'.symm.trans he₃
    exact ⟨hprim'.trans hprim.symm, iff_of_true (.inr ⟨hprim, hsnew⟩) (.inr ⟨hprim, hnew⟩)⟩
  · rw [hins.old k hnew] at he
    have hsold := hins.notMem_of_sibling hk hp he hs
    rw [hins.old _ hsold] at he'
    obtain ⟨hprim, hiff⟩ := hk.paired he hs he'
    rw [hiff]
    exact ⟨hprim, by simp [hnew, hsold]⟩

theorem Kept.insertNew : h'.Kept (p :: seen) where
  toAgrees := hins.agrees hk hp
  nodup := hins.nodup_placeholders hk hp
  keyed {k e} he := by
    by_cases hnew : k ∈ news
    · obtain ⟨e', he', hkey, -⟩ := hins.new k hnew
      cases he.symm.trans he'
      exact hkey
    · exact hk.keyed ((hins.old k hnew).symm.trans he)
  registered {k e} he := by
    by_cases hnew : k ∈ news
    · obtain ⟨leg, hleg⟩ := hins.id k hnew
      exact ⟨leg, p, List.mem_cons_self, hleg⟩
    · obtain ⟨leg, q, hq, hleg⟩ := hk.registered ((hins.old k hnew).symm.trans he)
      exact ⟨leg, q, List.mem_cons_of_mem _ hq, hleg⟩
  legs {k e s} he hs := by
    by_cases hnew : k ∈ news
    · obtain ⟨e', he', -, -, -, hsib⟩ := hins.new k hnew
      cases he.symm.trans he'
      obtain ⟨-, leg, hkey, hother⟩ := hsib s hs
      exact ⟨leg, p, hkey, hother⟩
    · exact hk.legs ((hins.old k hnew).symm.trans he) hs
  paired he hs he' := hins.paired hk hp he hs he'

end insertNew

theorem NoneEmpty.extend (hne : h.NoneEmpty) (p : String) {ids : List String}
    (hids : ids ≠ []) : (h.extendSecondaryIndex p ids).NoneEmpty := by
  intro q all hget
  rw [ExitHandler.extendSecondaryIndex, Table.get_insert] at hget
  split at hget
  · cases hget
    exact List.append_ne_nil_of_right_ne_nil _ hids
  · exact hne hget

theorem NoneEmpty.activateBackup (hne : h.NoneEmpty) (backupId actual : String) :
    (h.activateBackup backupId actual).2.NoneEmpty := by
  unfold ExitHandler.activateBackup
  by_cases hids : (h.getPlaceholdersForPrimary backupId).isEmpty = true
  · simp only [hids, if_true]
    exact hne
  · simp only [hids, Bool.false_eq_true, if_false]
    refine NoneEmpty.extend (NoneEmpty.dropPrimary ?_ _) _ (by simpa using hids)
    intro q all hget
    rw [pendingByPrimary_foldl_modifyEntry] at hget
    exact hne hget

section activateBackup

variable (hk : h.Kept seen) (backupId actual : String)

variable {q : String}

theorem mem_placeholders_activateBackup :
    k ∈ (h.activateBackup backupId actual).2.getPlaceholdersForPrimary q ↔
      q ≠ backupId ∧ k ∈ h.getPlaceholdersForPrimary q ∨
        q = actual ∧ k ∈ h.getPlaceholdersForPrimary backupId := by
  rw [getPlaceholdersForPrimary_activateBackup, List.mem_append]
  by_cases hq : q = backupId <;> by_cases hq' : q = actual <;> simp [hq, hq']

/-- The entry before the move: only the primary order of a moved one was another. -/
theorem before_activateBackup (he : (h.activateBackup backupId actual).2.getEntry k = some e) :
    ∃ e₀, h.getEntry k = some e₀ ∧ e.placeholderId = e₀.placeholderId ∧
      e.siblingId = e₀.siblingId ∧ e.status = e₀.status ∧
      e.primaryOrderId =
        if k ∈ h.getPlaceholdersForPrimary backupId then actual else e₀.primaryOrderId := by
  rw [getEntry_activateBackup] at he
  split at he
  · rename_i hm
    obtain ⟨e₀, he₀, rfl⟩ := Option.map_eq_some_iff.mp he
    exact ⟨e₀, he₀, rfl, rfl, rfl, (if_pos hm).symm⟩
  · rename_i hm
    exact ⟨e, he, rfl, rfl, rfl, (if_neg hm).symm⟩

include hk

theorem Kept.notMem_of_ne (hm : k ∈ h.getPlaceholdersForPrimary q) (hq : q ≠ p) :
    k ∉ h.getPlaceholdersForPrimary p := by
  intro hm'
  obtain ⟨e, he, rfl⟩ := hk.listed hm
  exact hq (hk.home hm' he).symm

theorem Kept.mem_sibling_iff {s : String} {e' : ExitEntry} (he : h.getEntry k = some e)
    (hs : e.siblingId = some s) (he' : h.getEntry s = some e') (p : String) :
    s ∈ h.getPlaceholdersForPrimary p ↔ k ∈ h.getPlaceholdersForPrimary p := by
  obtain ⟨hprim, hiff⟩ := hk.paired he hs he'
  constructor
  · intro hm
    have hhome := hk.home hm he'
    rw [hhome, hprim] at hm ⊢
    exact hiff.mp hm
  · intro hm
    have hhome := hk.home hm he
    rw [hhome] at hm ⊢
    exact hiff.mpr hm

theorem Kept.nodup_activateBackup (q : String) :
    ((h.activateBackup backupId actual).2.getPlaceholdersForPrimary q).Nodup := by
  rw [getPlaceholdersForPrimary_activateBackup]
  by_cases hq : q = backupId
  · rw [if_pos hq, List.nil_append]
    split
    · exact hk.nodup backupId
    · exact List.nodup_nil
  · rw [if_neg hq]
    split
    · exact (hk.nodup q).append (hk.nodup backupId) fun k hm hm' => hk.notMem_of_ne hm hq hm'
    · rw [List.append_nil]
      exact hk.nodup q

theorem Kept.agrees_activateBackup : (h.activateBackup backupId actual).2.Agrees := by
  refine ⟨fun {q k} hm => ?_, fun {k e} he ht => ?_, NoneEmpty.activateBackup hk.nonempty _ _⟩
  · rcases (mem_placeholders_activateBackup ..).mp hm with ⟨hq, hin⟩ | ⟨hq, hin⟩
    · rw [getEntry_activateBackup, if_neg (hk.notMem_of_ne hin hq)]
      exact hk.listed hin
    · obtain ⟨e, he, -⟩ := hk.listed hin
      exact ⟨e.setPrimary actual, by rw [getEntry_activateBackup, if_pos hin, he]; rfl, hq.symm⟩
  · refine count_eq_one (hk.nodup_activateBackup _ _)
      ((mem_placeholders_activateBackup ..).mpr ?_)
    obtain ⟨e₀, he₀, -, -, hst, hprim⟩ := before_activateBackup _ _ he
    rw [hprim]
    by_cases hm : k ∈ h.getPlaceholdersForPrimary backupId
    · rw [if_pos hm]
      exact .inr ⟨rfl, hm⟩
    · rw [if_neg hm]
      have hin := hk.mem he₀ (hst ▸ ht)
      refine .inl ⟨fun hq => hm ?_, hin⟩
      rw [hq] at hin
      exact hin

/-- The entries of a backup move to the primary order that took it over. -/
theorem Kept.activateBackup : (h.activateBackup backupId actual).2.Kept seen where
  toAgrees := hk.agrees_activateBackup backupId actual
  nodup := hk.nodup_activateBackup backupId actual
  keyed he := by
    obtain ⟨e₀, he₀, hkey, -⟩ := before_activateBackup _ _ he
    exact hkey.trans (hk.keyed he₀)
  registered he := by
    obtain ⟨e₀, he₀, -⟩ := before_activateBackup _ _ he
    exact hk.registered he₀
  legs he hs := by
    obtain ⟨e₀, he₀, -, hsib, -⟩ := before_activateBackup _ _ he
    exact hk.legs he₀ (hsib.symm.trans hs)
  paired {k e s e'} he hs he' := by
    obtain ⟨e₀, he₀, -, hsib, -, hprim⟩ := before_activateBackup _ _ he
    obtain ⟨e₁, he₁, -, -, -, hprim'⟩ := before_activateBackup _ _ he'
    -- the legs move together
    have hs₀ := hsib.symm.trans hs
    have hboth := hk.mem_sibling_iff he₀ hs₀ he₁
    constructor
    · rw [hprim, hprim', (hk.paired he₀ hs₀ he₁).1]
      exact if_congr (hboth backupId) rfl rfl
    · rw [mem_placeholders_activateBackup, mem_placeholders_activateBackup, hboth, hboth]

end activateBackup

/-- A list goes whose entries have all ended. -/
theorem Kept.dropPrimary (hk : h.Kept seen) {p : String}
    (hended : ∀ k ∈ h.getPlaceholdersForPrimary p, ∀ e, h.getEntry k = some e →
      e.status.isTracking = false) : (h.dropPrimary p).Kept seen := by
  have hlist := h.getPlaceholdersForPrimary_dropPrimary p
  constructor
  · refine ⟨fun {q k} hm => ?_, fun {k e} he ht => ?_, NoneEmpty.dropPrimary hk.nonempty p⟩
    · rw [hlist] at hm
      split at hm
      · cases hm
      · exact hk.listed hm
    · have hin := hk.mem he ht
      rw [hlist, if_neg]
      · exact hk.indexed he ht
      · intro hp
        rw [hp] at hin
        rw [hended k hin e he] at ht
        cases ht
  · intro q
    rw [hlist]
    split
    · exact List.nodup_nil
    · exact hk.nodup q
  · exact hk.keyed
  · exact hk.registered
  · exact hk.legs
  · intro k e s e' he hs he'
    obtain ⟨hprim, hiff⟩ := hk.paired he hs he'
    refine ⟨hprim, ?_⟩
    rw [hlist]
    split
    · exact iff_of_false List.not_mem_nil List.not_mem_nil
    · exact hiff

end ExitHandler

open ExitHandler

/-! ## The operations -/

theorem ExitHandler.Kept.register {w : World β} (hk : w.handler.Kept seen) {p : String}
    (order : OrderRequest) (hp : p ∉ seen) :
    ((register c p order).run w).2.handler.Kept (p :: seen) := by
  obtain hsame | ⟨news, h', hins, hw'⟩ := (run_register (c := c) p order w).inserts
  · rw [hsame]
    refine ⟨hk.toAgrees, hk.nodup, hk.keyed, fun he => ?_, hk.legs, hk.paired⟩
    obtain ⟨leg, q, hq, hleg⟩ := hk.registered he
    exact ⟨leg, q, List.mem_cons_of_mem _ hq, hleg⟩
  · rw [hw']
    exact hk.insertNew hins hp

variable {w w' : World β} {p : String} {f : Decimal} {e : ExitEntry}

/-- A position close ends entries and touches no list. -/
theorem ExitHandler.Kept.cancelForPositionClose (hk : w.handler.Kept seen) (symbol : String) :
    ((cancelForPositionCloseInternal c symbol).run w).2.handler.Kept seen := by
  refine hk.reshape ⟨?_, fun k => ?_⟩
  · rw [run_cancelForPositionClose]
    exact pendingByPrimary_foldl_modifyEntry ..
  · rw [getEntry_cancelForPositionClose]
    cases w.handler.getEntry k with
    | none =>
      split
      · exact .none
      · exact .none
    | some e =>
      split
      · exact .some ⟨rfl, rfl, rfl, fun ht => by cases ht⟩
      · exact .some (.refl e)

/-- An entry that a fill is processed for is tracked, so a change of its status brings nothing back
to life. -/
theorem Eligible.sameLeg (hel : Eligible f e) {e' : ExitEntry}
    (hid : e'.placeholderId = e.placeholderId) (hprim : e'.primaryOrderId = e.primaryOrderId)
    (hsib : e'.siblingId = e.siblingId) : SameLeg e e' := by
  refine ⟨hid, hprim, hsib, fun _ => ?_⟩
  have hnot := hel.1
  cases hst : e.status <;> simp_all [ExitEntryStatus.isTerminal, ExitEntryStatus.isTracking]

theorem FillStep.reshaped {ph : String} {T : Decimal} {pos : Option Decimal} {pid : Option String}
    (hs : FillStep c ph f T pos pid w w') :
    Reshaped w.handler w'.handler := by
  have hone {e : ExitEntry} (he : w.handler.getEntry ph = some e) (hel : Eligible f e)
      {g : ExitEntry → ExitEntry} (hg : ∀ e, (g e).placeholderId = e.placeholderId ∧
        (g e).primaryOrderId = e.primaryOrderId ∧ (g e).siblingId = e.siblingId) :
      Reshaped w.handler (w.handler.modifyEntry ph g) := by
    refine .modifyEntry fun e' he' => ?_
    cases he.symm.trans he'
    exact hel.sameLeg (hg e).1 (hg e).2.1 (hg e).2.2
  obtain ⟨_, hs⟩ := hs
  cases hs with
  | skipped => exact .refl
  | belowMinimum he hel | breakerOpen he hel | refused _ _ he hel =>
    exact hone he hel fun _ => ⟨rfl, rfl, rfl⟩
  | failed breaker message retryCount _ he hel =>
    refine (hone he hel fun e => ?_).trans (.of_getEntry rfl fun _ => rfl)
    unfold updateEntryToFailed
    split <;> exact ⟨rfl, rfl, rfl⟩
  | placed he hel =>
    refine hone he hel fun e => ?_
    rw [recordPlacement_eq]
    exact ⟨rfl, rfl, rfl⟩

theorem ExitHandler.Kept.ocoStep (hk : w.handler.Kept seen)
    (he : w.handler.getEntry e.placeholderId = some e) (hs : OcoStep c e w w') :
    w'.handler.Kept seen := by
  have hdrop := hk.removePendingEntry he
  cases hs with
  | alone => exact hdrop
  | retained => exact hdrop
  | @resolved s e' b _ hsib he' =>
    -- the sibling is of the same primary order, so its own list loses it
    have hold : w.handler.getEntry s = some e' := by
      refine Eq.trans ?_ he'
      symm
      refine (getEntry_removePendingEntry ..).trans (if_neg ?_)
      rintro rfl
      have hnone := (getEntry_removePendingEntry w.handler e.placeholderId e.primaryOrderId
        e.placeholderId).trans (if_pos rfl)
      cases he'.symm.trans hnone
    have hprim := (hk.paired he hsib hold).1
    have hsecond := hdrop.removePendingEntry he'
    rw [hprim] at hsecond
    exact hsecond

theorem ExitHandler.Kept.handleFill (hk : w.handler.Kept seen) (id : String) (f T : Decimal)
    (pos : Option Decimal) (pid : Option String) :
    ((handleFill c id f T pos pid).run w).2.handler.Kept seen := by
  have hev := run_handleFill (c := c) id f T pos pid w
  generalize ((Exit.handleFill c id f T pos pid).run w).2 = w' at hev ⊢
  cases hev with
  | ignored => exact hk
  | exitPartial => exact hk
  | primary _ _ _ hs =>
    exact hs.inv (I := fun w => w.handler.Kept seen)
      (fun ph _ w w' hstep hk => hk.reshape hstep.reshaped) hk
  | @exitFull e w' _ _ _ he _ ho =>
    obtain ⟨⟨k, hget⟩, -⟩ := w.handler.findEntryByActualOrder_some he
    refine hk.ocoStep ?_ ho
    rw [hk.keyed hget]
    exact hget
  | unmatched => exact hk.reshape (.of_getEntry rfl fun _ => rfl)

/-- The primary order lists no entry that is placed or failed. -/
def LosesNone (p : String) (h : ExitHandler) : Prop :=
  ∀ k ∈ h.getPlaceholdersForPrimary p,
    (h.getEntry k).all (fun e => !e.status.isTracking || e.isPending) = true

/-- A cancellation ends the entries that wait, and drops the list of its primary order. -/
theorem ExitHandler.Kept.handleCancellation (hk : w.handler.Kept seen)
    (hnone : LosesNone p w.handler) :
    ((handleCancellationInternal p).run w).2.handler.Kept seen := by
  obtain ⟨h, hrun, hindex, hget⟩ := run_handleCancellationInternal p w
  rw [hrun]
  have hsame (e : ExitEntry) : SameLeg e e.primaryCancelled := by
    unfold ExitEntry.primaryCancelled
    split
    · exact ⟨rfl, rfl, rfl, fun ht => by cases ht⟩
    · exact .refl e
  have hr : Reshaped w.handler { h with pendingByPrimary := w.handler.pendingByPrimary } := by
    refine ⟨rfl, fun k => ?_⟩
    have hk' := hget k
    revert hk'
    cases w.handler.getEntry k with
    | none =>
      intro hk'
      rw [Option.map_none, ite_self] at hk'
      exact hk'.symm ▸ .none
    | some e =>
      intro hk'
      split at hk'
      · exact hk'.symm ▸ .some (hsame e)
      · exact hk'.symm ▸ .some (.refl e)
  have hdropped : h = ({ h with pendingByPrimary := w.handler.pendingByPrimary } :
      ExitHandler).dropPrimary p := by
    cases h
    cases hindex
    rfl
  change h.Kept seen
  rw [hdropped]
  refine (hk.reshape hr).dropPrimary fun k hm e he => ?_
  have he' := ((hget k).trans (if_pos hm)).symm.trans he
  obtain ⟨e₀, he₀, rfl⟩ := Option.map_eq_some_iff.mp he'
  by_cases hp : e₀.isPending = true
  · rw [ExitEntry.primaryCancelled, if_pos hp]
    rfl
  · rw [ExitEntry.primaryCancelled, if_neg hp]
    have hlost := hnone k hm
    rw [he₀, Option.all_some, Bool.or_eq_true, or_iff_left hp] at hlost
    exact (Bool.not_eq_true' _).mp hlost

/-- A tracked entry that does not wait is listed nowhere after the cancellation. -/
theorem losesNone_of_agrees (hk : w.handler.Kept seen)
    (hag : ((handleCancellationInternal p).run w).2.handler.Agrees) : LosesNone p w.handler := by
  intro k hm
  obtain ⟨h, hrun, hindex, hget⟩ := run_handleCancellationInternal p w
  rw [hrun] at hag
  obtain ⟨e, he, hp⟩ := hk.listed hm
  rw [he, Option.all_some, Bool.or_eq_true, Bool.not_eq_true']
  by_contra hlost
  rw [not_or, Bool.not_eq_false] at hlost
  have hstill : h.getEntry k = some e := by
    rw [hget, if_pos hm, he, Option.map_some, ExitEntry.primaryCancelled, if_neg hlost.2]
  have hcount := hag.indexed hstill hlost.1
  have hempty : h.getPlaceholdersForPrimary p = [] := by
    rw [getPlaceholdersForPrimary, hindex]
    exact (w.handler.getPlaceholdersForPrimary_dropPrimary p p).trans (if_pos rfl)
  change (h.getPlaceholdersForPrimary e.primaryOrderId).count k = 1 at hcount
  rw [hp, hempty] at hcount
  cases hcount

/-! ## Runs -/

inductive IndexCall where
  | register (primaryOrderId : String) (order : OrderRequest)
  /-- `uuid` is the identifier that the call draws. -/
  | registerPreemptive (uuid : String) (order : OrderRequest)
  | activateBackup (backupId actualPrimaryId : String)
  | cancelBackup (backupId : String)
  | handleFill (orderId : String) (filledQty totalQty : Decimal) (positionQty : Option Decimal)
      (positionId : Option String)
  | handleCancellation (primaryOrderId : String)
  | cancelForPositionClose (symbol : String)
  | clearFailedEntries
  | cleanupExpiredEntries (now : Instant)

namespace IndexCall

/-- The world after a call that nothing else runs beside. -/
def step (c : Ctx β) (w : World β) : IndexCall → World β
  | register p order => ((Exit.register c p order).run w).2
  | registerPreemptive uuid order => ((Exit.registerPreemptive c uuid order).run w).2
  | activateBackup backupId actual =>
    { w with handler := (w.handler.activateBackup backupId actual).2 }
  | cancelBackup backupId => { w with handler := (w.handler.cancelBackup backupId).2 }
  | handleFill id f T pos pid => ((Exit.handleFill c id f T pos pid).run w).2
  | handleCancellation p => ((handleCancellationInternal p).run w).2
  | cancelForPositionClose symbol => ((cancelForPositionCloseInternal c symbol).run w).2
  | clearFailedEntries => { w with handler := w.handler.clearFailedEntries }
  | cleanupExpiredEntries now =>
    { w with handler := (w.handler.cleanupExpiredEntries c.config now).2 }

/-- The primary id that the call registers. -/
def registers : IndexCall → Option String
  | register p _ => some p
  | registerPreemptive uuid _ => some ("backup:" ++ uuid)
  | _ => none

/-- The condition on a call, at the state before it. -/
def KeepsIndex (w : World β) : IndexCall → Prop
  | handleCancellation p => LosesNone p w.handler
  | _ => True

instance (w : World β) : (call : IndexCall) → Decidable (KeepsIndex w call)
  | handleCancellation _ => inferInstanceAs (Decidable (∀ k ∈ _, _))
  | register .. | registerPreemptive .. | activateBackup .. | cancelBackup _ | handleFill ..
  | cancelForPositionClose _ | clearFailedEntries | cleanupExpiredEntries _ =>
    inferInstanceAs (Decidable True)

/-- What one call does to maps that are kept. -/
theorem step_kept {w : World β} (hk : w.handler.Kept seen) {call : IndexCall}
    (honce : ∀ p ∈ call.registers, p ∉ seen) (hok : KeepsIndex w call) :
    (call.step c w).handler.Kept (call.registers.toList ++ seen) := by
  cases call with
  | register p order => exact hk.register order (honce p rfl)
  | registerPreemptive uuid order =>
    have hreg := hk.register (c := c) order (honce ("backup:" ++ uuid) rfl)
    rw [step, Exit.registerPreemptive, Routine.run_bind]
    split <;> exact hreg
  | activateBackup backupId actual => exact hk.activateBackup backupId actual
  | cancelBackup backupId => exact hk.cancelBackup backupId
  | handleFill id f T pos pid => exact hk.handleFill id f T pos pid
  | handleCancellation p => exact hk.handleCancellation hok
  | cancelForPositionClose symbol => exact hk.cancelForPositionClose symbol
  | clearFailedEntries => exact hk.clearFailedEntries
  | cleanupExpiredEntries now => exact hk.cleanupExpiredEntries c.config now

/-- Each primary id is registered once. -/
theorem guarded_once (seen : List String) {calls : List IndexCall}
    (hnd : (calls.filterMap registers).Nodup)
    (hnew : ∀ p ∈ calls.filterMap registers, p ∉ seen) :
    Run.Guarded (fun seen call => call.registers.toList ++ seen)
      (fun seen call => ∀ p ∈ call.registers, p ∉ seen) seen calls := by
  induction calls generalizing seen with
  | nil => trivial
  | cons call calls ih =>
    cases hp : call.registers with
    | none =>
      rw [List.filterMap_cons_none hp] at hnd hnew
      refine ⟨by simp [hp], ?_⟩
      simp only [hp, Option.toList_none, List.nil_append]
      exact ih seen hnd hnew
    | some p =>
      rw [List.filterMap_cons_some hp] at hnd hnew
      rw [List.nodup_cons] at hnd
      refine ⟨?_, ?_⟩
      · rintro q hq
        cases hp.symm.trans hq
        exact hnew p List.mem_cons_self
      · simp only [hp, Option.toList_some, List.singleton_append]
        refine ih _ hnd.2 fun q hq hmem => ?_
        rcases List.mem_cons.mp hmem with rfl | hmem
        · exact hnd.1 hq
        · exact hnew q (List.mem_cons_of_mem _ hq) hmem

end IndexCall

/-- The two maps agree after each call of a run, in which no primary id is registered twice, exactly
if no call of the run cancels a primary order that lists a `placed` or `failed` entry. -/
theorem indexes_agree_iff (c : Ctx β) (b : β) (calls : List IndexCall)
    (honce : (calls.filterMap IndexCall.registers).Nodup) :
    (∀ done, done <+: calls →
      (Run.exec (IndexCall.step c) (World.initial c.config b) done).handler.Agrees) ↔
      Run.Guarded (IndexCall.step c) IndexCall.KeepsIndex (World.initial c.config b) calls := by
  have hstart : (World.initial c.config b).handler.Kept [] := .new c.config
  have hlegal := IndexCall.guarded_once [] honce fun _ _ => List.not_mem_nil
  refine Run.forall_prefix_iff_guarded_of_history (P := fun w : World β => w.handler.Agrees)
    (J := fun seen (w : World β) => w.handler.Kept seen) ?_ ?_ ?_ hstart hlegal
  · intro seen w hk
    exact hk.toAgrees
  · intro seen w call hk hnew hok
    exact IndexCall.step_kept hk hnew hok
  · intro seen w call hk hnew hbad hag
    cases call with
    | handleCancellation p => exact hbad (losesNone_of_agrees hk hag)
    | _ => exact hbad trivial

/-- A backup is taken over and fills, its position closes, and its order is reported cancelled. -/
def backupRun : List IndexCall :=
  [.registerPreemptive "u" sampleBracket, .activateBackup "backup:u" "p",
    .handleFill "p" 10 10 none none, .cancelForPositionClose "BTCUSD", .handleCancellation "p"]

theorem indexes_agree_backup :
    (backupRun.filterMap IndexCall.registers).Nodup ∧
      (∀ done, done <+: backupRun → (Run.exec (IndexCall.step Ctx.simulated)
        (World.initial Ctx.simulated.config []) done).handler.Agrees) ∧
      (Run.exec (IndexCall.step Ctx.simulated) (World.initial Ctx.simulated.config [])
        (backupRun.take 3)).handler.getPlaceholdersForPrimary "p" =
          ["exit:sl:backup:u", "exit:tp:backup:u"] :=
  ⟨by decide +kernel, (indexes_agree_iff Ctx.simulated [] backupRun (by decide +kernel)).mpr
    (by decide +kernel), by decide +kernel⟩

/-- A registered order fills, its exits rest at the provider, and then it is reported cancelled. -/
def cancelledAfterFill : World (List (String × OrderRequest)) :=
  Run.exec (IndexCall.step Ctx.simulated) (World.initial Ctx.simulated.config [])
    [.register "p" sampleBracket, .handleFill "p" 10 10 none none, .handleCancellation "p"]

/-- The stop-loss entry is still `placed`, and no list names it. -/
theorem cancellation_unlists_placed :
    cancelledAfterFill.handler.getPlaceholdersForPrimary "p" = [] ∧
      (cancelledAfterFill.handler.getEntry "exit:sl:p").any
        (fun e => e.primaryOrderId = "p" && e.status.isTracking) = true ∧
      ¬ cancelledAfterFill.handler.Agrees := by
  have hlist : cancelledAfterFill.handler.getPlaceholdersForPrimary "p" = [] := by decide +kernel
  have hentry : (cancelledAfterFill.handler.getEntry "exit:sl:p").any
      (fun e => e.primaryOrderId = "p" && e.status.isTracking) = true := by decide +kernel
  refine ⟨hlist, hentry, fun hag => ?_⟩
  obtain ⟨e, he, hfacts⟩ := (Option.any_eq_true ..).mp hentry
  obtain ⟨hp, ht⟩ := (Bool.and_eq_true ..).mp hfacts
  have hcount := hag.indexed he ht
  rw [of_decide_eq_true hp, hlist] at hcount
  cases hcount

end Gateway.Exit
