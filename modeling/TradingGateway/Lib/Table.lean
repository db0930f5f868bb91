import Mathlib.Data.List.AList

/-!
# Concurrent tables

The hash tables of the code, as finite maps with one binding for each key (`AList`). The order in
which a table lists its bindings is not specified; a table here has some order, and no statement
may depend on which.

* `Table.get_insert`, `get_remove`, `get_modify`: a table after a change, key by key.
* `Table.count`: how many values have a property, and how a change of one key counts.
* `Table.len_insert`, `len_remove`, `len_modify`: the number of bindings after a change.
-/

/-- A table from `κ` to `ν`. -/
abbrev Table (κ ν : Type) := AList fun _ : κ => ν

namespace Table

variable {κ ν : Type} [DecidableEq κ]

/-- The value at `k`. -/
def get (t : Table κ ν) (k : κ) : Option ν := t.lookup k

/-- `t` with `v` at `k`. -/
def insert (t : Table κ ν) (k : κ) (v : ν) : Table κ ν := AList.insert k v t

/-- `t` without `k`. -/
def remove (t : Table κ ν) (k : κ) : Table κ ν := AList.erase k t

/-- `t` with the value at `k` changed by `f`, if there is one. -/
def modify (t : Table κ ν) (k : κ) (f : ν → ν) : Table κ ν :=
  match t.get k with
  | some v => t.insert k (f v)
  | none => t

/-- The bindings of `t`. -/
def toList (t : Table κ ν) : List (κ × ν) := t.entries.map fun e => (e.1, e.2)

/-- The number of bindings. -/
def len (t : Table κ ν) : ℕ := t.entries.length

variable (keys : List κ) (p : ν → Bool) (t : Table κ ν) (k : κ) (f : ν → ν) (k' : κ) (v : ν)

@[simp] theorem get_empty : get (∅ : Table κ ν) k = none := rfl

theorem get_insert : (t.insert k v).get k' = if k' = k then some v else t.get k' := by
  unfold get insert
  split
  · rename_i h; subst h; exact AList.lookup_insert t
  · rename_i h; exact AList.lookup_insert_ne h

@[simp] theorem get_insert_self : (t.insert k v).get k = some v := by
  simp [get_insert]

theorem get_insert_ne {k k' : κ} (h : k' ≠ k) : (t.insert k v).get k' = t.get k' := by
  simp [get_insert, h]

theorem get_remove : (t.remove k).get k' = if k' = k then none else t.get k' := by
  unfold get remove
  split
  · rename_i h; subst h; exact AList.lookup_erase _ t
  · rename_i h; exact AList.lookup_erase_ne h

@[simp] theorem get_remove_self : (t.remove k).get k = none := by
  simp [get_remove]

theorem get_modify (f : ν → ν) :
    (t.modify k f).get k' = if k' = k then (t.get k).map f else t.get k' := by
  unfold modify
  split
  · rename_i v hv; rw [get_insert, hv]; rfl
  · rename_i hv
    split
    · rename_i h; rw [h, hv]; rfl
    · rfl

@[simp] theorem get_modify_self : (t.modify k f).get k = (t.get k).map f := by
  simp [get_modify]

theorem get_modify_ne {k k' : κ} (h : k' ≠ k) : (t.modify k f).get k' = t.get k' := by
  simp [get_modify, h]

theorem get_foldl_remove : (keys.foldl remove t).get k = if k ∈ keys then none else t.get k := by
  induction keys generalizing t with
  | nil => simp
  | cons key keys ih =>
    rw [List.foldl_cons, ih, get_remove]
    by_cases hk : k = key
    · simp [hk]
    · simp [hk]

theorem modify_modify (g : ν → ν) : (t.modify k f).modify k g = t.modify k fun v => g (f v) := by
  unfold modify
  cases hv : t.get k with
  | none => simp only [hv]
  | some v => simp [insert, get]

theorem mem_toList {t : Table κ ν} {k : κ} {v : ν} : (k, v) ∈ t.toList ↔ t.get k = some v := by
  unfold toList get
  rw [← Option.mem_def, AList.mem_lookup_iff]
  simp only [List.mem_map, Prod.mk.injEq]
  constructor
  · rintro ⟨⟨k', v'⟩, he, rfl, rfl⟩; exact he
  · intro he; exact ⟨⟨k, v⟩, he, rfl, rfl⟩

omit [DecidableEq κ] in
theorem nodup_keys : (t.toList.map Prod.fst).Nodup := by
  have h := t.nodupKeys
  simpa [toList, List.NodupKeys, List.keys, Function.comp_def] using h

private theorem kerase_eq_filter {l : List (Sigma fun _ : κ => ν)} (h : l.NodupKeys) (k : κ) :
    l.kerase k = l.filter fun e => e.1 ≠ k := by
  induction l with
  | nil => rfl
  | cons e l ih =>
    obtain ⟨hnot, hrest⟩ := List.nodupKeys_cons.mp h
    by_cases hk : k = e.1
    · subst hk
      rw [List.kerase_cons_eq rfl, List.filter_cons_of_neg (by simp)]
      refine (List.filter_eq_self.mpr fun e' he' => ?_).symm
      simp only [ne_eq, decide_not, Bool.not_eq_eq_eq_not, Bool.not_true, decide_eq_false_iff_not]
      intro heq
      exact hnot (heq ▸ List.mem_keys_of_mem he')
    · rw [List.kerase_cons_ne hk, ih hrest, List.filter_cons_of_pos (by simpa using Ne.symm hk)]

theorem toList_remove : (t.remove k).toList = t.toList.filter fun e => e.1 ≠ k := by
  have h : (t.remove k).entries = t.entries.filter fun e => e.1 ≠ k :=
    kerase_eq_filter t.nodupKeys k
  unfold toList
  rw [h, List.filter_map]
  rfl

theorem toList_insert : (t.insert k v).toList = (k, v) :: t.toList.filter fun e => e.1 ≠ k := by
  have h : (t.insert k v).entries = ⟨k, v⟩ :: t.entries.filter fun e => e.1 ≠ k := by
    rw [← kerase_eq_filter t.nodupKeys k]
    exact AList.entries_insert
  unfold toList
  rw [h, List.map_cons, List.filter_map]
  rfl

/-- `t` with every value changed by `f`. -/
def mapValues (f : ν → ν) (t : Table κ ν) : Table κ ν :=
  ⟨t.entries.map fun e => ⟨e.1, f e.2⟩, by
    have h := t.nodupKeys
    simpa [List.NodupKeys, List.keys, Function.comp_def] using h⟩

theorem get_mapValues (t : Table κ ν) (k : κ) : (t.mapValues f).get k = (t.get k).map f := by
  ext v
  rw [← mem_toList, Option.map_eq_some_iff]
  simp only [toList, mapValues, List.map_map, List.mem_map, Function.comp_apply, Prod.mk.injEq]
  constructor
  · rintro ⟨⟨k', v'⟩, he, rfl, rfl⟩
    exact ⟨v', mem_toList.mp (List.mem_map.mpr ⟨_, he, rfl⟩), rfl⟩
  · rintro ⟨v', hv', rfl⟩
    obtain ⟨e, he, heq⟩ := List.mem_map.mp (mem_toList.mpr hv')
    cases heq
    exact ⟨e, he, rfl, rfl⟩

/-- The number of values with the property. -/
def count (p : ν → Bool) (t : Table κ ν) : ℕ := t.toList.countP fun e => p e.2

omit [DecidableEq κ] in
theorem nodup_toList : t.toList.Nodup := (nodup_keys t).of_map _

theorem toList_perm {t : Table κ ν} {k : κ} {v : ν} (h : t.get k = some v) :
    t.toList.Perm ((k, v) :: (t.remove k).toList) := by
  have hnot : (k, v) ∉ (t.remove k).toList := by simp [mem_toList]
  refine (List.perm_ext_iff_of_nodup t.nodup_toList
    (List.nodup_cons.mpr ⟨hnot, (t.remove k).nodup_toList⟩)).mpr fun e => ?_
  obtain ⟨k', v'⟩ := e
  rw [List.mem_cons, mem_toList, mem_toList, get_remove]
  by_cases hk : k' = k
  · subst hk
    simp [h, eq_comm]
  · simp [hk]

/-- A sum over the bindings to which only one key contributes. -/
theorem flatMap_toList {β : Type} {f : κ × ν → List β} (h : ∀ e ∈ t.toList, e.1 ≠ k → f e = []) :
    t.toList.flatMap f = (t.get k).elim [] fun v => f (k, v) := by
  cases hget : t.get k with
  | none =>
    refine List.flatMap_eq_nil_iff.mpr fun e he => h e he ?_
    rintro rfl
    rw [mem_toList.mp he] at hget
    cases hget
  | some v =>
    obtain ⟨before, after, hsplit⟩ := List.append_of_mem (mem_toList.mpr hget)
    have hnodup := nodup_keys t
    rw [hsplit] at h hnodup ⊢
    have hother {l : List (κ × ν)} (hl : l ⊆ before ++ (k, v) :: after)
        (hk : k ∉ l.map Prod.fst) : l.flatMap f = [] := by
      refine List.flatMap_eq_nil_iff.mpr fun e he => h e (hl he) ?_
      rintro rfl
      exact hk (List.mem_map_of_mem he)
    rw [List.map_append, List.map_cons, List.nodup_middle, List.nodup_cons, List.mem_append,
      not_or] at hnodup
    rw [List.flatMap_append, List.flatMap_cons, hother (by simp) hnodup.1.1,
      hother (by simp) hnodup.1.2, List.nil_append, List.append_nil, Option.elim_some]

theorem count_remove : (t.remove k).count p + ((t.get k).any p).toNat = t.count p := by
  cases hv : t.get k with
  | none =>
    have hsame : t.toList.filter (fun e => e.1 ≠ k) = t.toList := by
      refine List.filter_eq_self.mpr fun e he => ?_
      have hget := mem_toList.mp he
      simp only [ne_eq, decide_not, Bool.not_eq_true', decide_eq_false_iff_not]
      rintro rfl
      cases hv.symm.trans hget
    simp only [count, toList_remove, hsame, Option.any_none, Bool.toNat_false, Nat.add_zero]
  | some v =>
    have hperm := (toList_perm hv).countP_eq fun e => p e.2
    simp only [count, hperm, List.countP_cons, Option.any_some]
    cases p v <;> rfl

theorem count_insert :
    (t.insert k v).count p + ((t.get k).any p).toNat = t.count p + (p v).toNat := by
  have hremove := t.count_remove p k
  have hinsert : (t.insert k v).count p = (t.remove k).count p + (p v).toNat := by
    simp only [count, toList_insert, toList_remove, List.countP_cons]
    cases p v <;> rfl
  omega

theorem count_modify :
    (t.modify k f).count p + ((t.get k).any p).toNat =
      t.count p + ((t.get k).any fun v => p (f v)).toNat := by
  unfold modify
  cases hv : t.get k with
  | none => simp
  | some v =>
    have hinsert := t.count_insert p k (f v)
    rw [hv] at hinsert
    exact hinsert

/-- The values with the property stand at the same keys. -/
theorem count_congr {p : ν → Bool} {t t' : Table κ ν}
    (h : ∀ k, (t'.get k).any p = (t.get k).any p) : t'.count p = t.count p := by
  have hkeys (t : Table κ ν) :
      t.count p = ((t.toList.filter fun e => p e.2).map Prod.fst).length := by
    rw [count, List.countP_eq_length_filter, List.length_map]
  have hnodup (t : Table κ ν) : ((t.toList.filter fun e => p e.2).map Prod.fst).Nodup :=
    t.nodup_keys.sublist (List.filter_sublist.map _)
  have hmem (t : Table κ ν) (k : κ) :
      k ∈ (t.toList.filter fun e => p e.2).map Prod.fst ↔ (t.get k).any p = true := by
    simp only [List.mem_map, List.mem_filter, Option.any_eq_true]
    constructor
    · rintro ⟨⟨k, v⟩, ⟨hm, hp⟩, rfl⟩
      exact ⟨v, mem_toList.mp hm, hp⟩
    · rintro ⟨v, hv, hp⟩
      exact ⟨(k, v), ⟨mem_toList.mpr hv, hp⟩, rfl⟩
  rw [hkeys, hkeys]
  refine List.Perm.length_eq ((List.perm_ext_iff_of_nodup (hnodup t') (hnodup t)).mpr fun k => ?_)
  rw [hmem, hmem, h k]

theorem count_eq_zero {p : ν → Bool} {t : Table κ ν} (h : ∀ k, (t.get k).any p = false) :
    t.count p = 0 :=
  count_congr (t := ∅) h

omit [DecidableEq κ] in
theorem len_eq_count : t.len = t.count fun _ => true := by
  simp [len, count, toList]

theorem len_insert : (t.insert k v).len + (t.get k).isSome.toNat = t.len + 1 := by
  have h := t.count_insert (fun _ => true) k v
  rw [← len_eq_count, ← len_eq_count] at h
  cases hv : t.get k <;> simpa [hv] using h

@[simp] theorem len_modify : (t.modify k f).len = t.len := by
  have h := t.count_modify (fun _ => true) k f
  rw [← len_eq_count, ← len_eq_count] at h
  exact Nat.add_right_cancel h

end Table

/-- A set of keys. -/
abbrev KeySet (κ : Type) := Table κ Unit

namespace KeySet

variable {κ : Type} [DecidableEq κ]

def has (s : KeySet κ) (k : κ) : Bool := (Table.get s k).isSome

def add (s : KeySet κ) (k : κ) : KeySet κ := Table.insert s k ()

def drop (s : KeySet κ) (k : κ) : KeySet κ := Table.remove s k

/-- The members, each once. -/
def elems (s : KeySet κ) : List κ := (Table.toList s).map Prod.fst

variable (s : KeySet κ) (k k' : κ)

@[simp] theorem has_empty : has (∅ : KeySet κ) k = false := rfl

@[simp] theorem has_add : (s.add k).has k' = (decide (k' = k) || s.has k') := by
  unfold has add
  rw [Table.get_insert]
  by_cases h : k' = k <;> simp [h]

@[simp] theorem has_drop : (s.drop k).has k' = (decide (k' ≠ k) && s.has k') := by
  unfold has drop
  rw [Table.get_remove]
  by_cases h : k' = k <;> simp [h]

@[simp] theorem mem_elems {s : KeySet κ} {k : κ} : k ∈ s.elems ↔ s.has k = true := by
  unfold elems has
  rw [List.mem_map, Option.isSome_iff_exists]
  constructor
  · rintro ⟨⟨k', u⟩, he, rfl⟩
    exact ⟨u, Table.mem_toList.mp he⟩
  · rintro ⟨u, hu⟩
    exact ⟨(k, u), Table.mem_toList.mpr hu, rfl⟩

omit [DecidableEq κ] in
theorem nodup_elems : s.elems.Nodup := Table.nodup_keys s

end KeySet
