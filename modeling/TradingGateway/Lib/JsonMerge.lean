import Mathlib.Data.List.Nodup
import Mathlib.Data.String.Basic
import TradingGateway.Lib.Json

/-!
# Merging JSON values

What `Json.deepMerge` does at a path of keys. The keys of an object are different, as they are in
every value that a parser builds (`Json.WF`).

* `lookup_mergeFields`: the fields of a merged object.
* `deepMerge_of_covers`: of an update that a later one covers, nothing is left.
-/

/-- The order of texts is that of their characters. -/
theorem Text.lt_iff {s t : String} : Text.lt s t = true ↔ s < t := by
  unfold Text.lt
  rw [String.lt_iff_toList_lt]
  generalize s.toList = cs, t.toList = ds
  induction cs generalizing ds with
  | nil => cases ds <;> simp [Text.lexLt]
  | cons c cs ih =>
    cases ds with
    | nil => simp [Text.lexLt]
    | cons d ds =>
      rw [List.cons_lt_cons_iff, Text.lexLt, Bool.or_eq_true, Bool.and_eq_true, ih,
        decide_eq_true_iff, beq_iff_eq]
      rw [Char.toNat_inj]
      exact Iff.rfl

namespace Json

/-! ## Well-formed values -/

/-- The keys of every object are different. -/
inductive WF : Json → Prop
  | scalar (s : JsonScalar) : WF (scalar s)
  | arr {items : List Json} : (∀ v ∈ items, WF v) → WF (arr items)
  | obj {fields : List (String × Json)} : (fields.map Prod.fst).Nodup →
      (∀ x ∈ fields, WF x.2) → WF (obj fields)

def isObject : Json → Bool
  | obj _ => true
  | _ => false

/-- The value at a path of keys. -/
def atPath (v : Json) : List String → Option Json
  | [] => some v
  | key :: path => (v.get key).bind fun w => w.atPath path

@[simp] theorem atPath_nil (v : Json) : v.atPath [] = some v := rfl

theorem atPath_cons (v : Json) (key : String) (path : List String) :
    v.atPath (key :: path) = (v.get key).bind fun w => w.atPath path := rfl

/-! ## One field -/

section fields

variable {key k : String} {f : Json → Json} {new : Json} {fields : List (String × Json)}

theorem lookup_cons_eq (k' : String) (v : Json) (fields : List (String × Json)) (k : String) :
    ((k', v) :: fields).lookup k = if k = k' then some v else fields.lookup k := by
  rw [List.lookup_cons]
  by_cases hk : k = k'
  · rw [if_pos hk, beq_iff_eq.mpr hk]
  · rw [if_neg hk, beq_eq_false_iff_ne.mpr hk]

theorem lookup_eq_none (hk : k ∉ fields.map Prod.fst) : fields.lookup k = none :=
  List.lookup_eq_none_iff.mpr fun _ hx =>
    bne_iff_ne.mpr fun hkx => hk (hkx ▸ List.mem_map_of_mem hx)

/-- With different keys, a field is what its key finds. -/
theorem lookup_eq_some_iff (hnodup : (fields.map Prod.fst).Nodup) {v : Json} :
    fields.lookup k = some v ↔ (k, v) ∈ fields := by
  induction fields with
  | nil => simp
  | cons x fields ih =>
    obtain ⟨k', v'⟩ := x
    obtain ⟨hfresh, hnodup⟩ := List.nodup_cons.mp hnodup
    rw [lookup_cons_eq, List.mem_cons, ← ih hnodup]
    by_cases hk : k = k'
    · subst hk
      simp [lookup_eq_none hfresh, eq_comm]
    · simp [hk]

theorem upsert_of_mem (h : key ∈ fields.map Prod.fst) :
    upsert key f new fields = fields.map fun x => if x.1 = key then (x.1, f x.2) else x := by
  obtain ⟨x, hx, hxk⟩ := List.mem_map.mp h
  exact if_pos (List.any_eq_true.mpr ⟨x, hx, decide_eq_true hxk⟩)

theorem upsert_of_not_mem (h : key ∉ fields.map Prod.fst) :
    upsert key f new fields = fields.takeWhile (fun x => Text.lt x.1 key) ++
      (key, new) :: fields.dropWhile fun x => Text.lt x.1 key := by
  refine if_neg fun hany => h ?_
  obtain ⟨x, hx, hxk⟩ := List.any_eq_true.mp hany
  exact List.mem_map.mpr ⟨x, hx, of_decide_eq_true hxk⟩

theorem lookup_map_update (fields : List (String × Json)) (k : String) :
    (fields.map fun x => if x.1 = key then (x.1, f x.2) else x).lookup k =
      if k = key then (fields.lookup k).map f else fields.lookup k := by
  induction fields with
  | nil => simp
  | cons x fields ih =>
    obtain ⟨k', v⟩ := x
    rw [List.map_cons, lookup_cons_eq]
    by_cases hk' : k' = key
    · rw [if_pos hk', lookup_cons_eq, ih, hk']
      by_cases hk : k = key <;> simp [hk]
    · rw [if_neg hk', lookup_cons_eq, ih]
      by_cases hk : k = k'
      · simp [hk, hk']
      · simp [hk]

/-- The value at the key is updated, or is the new one; the others are as they were. -/
theorem lookup_upsert :
    (upsert key f new fields).lookup k =
      if k = key then some (((fields.lookup key).map f).getD new) else fields.lookup k := by
  by_cases hin : key ∈ fields.map Prod.fst
  · rw [upsert_of_mem hin, lookup_map_update]
    by_cases hk : k = key
    · subst hk
      obtain ⟨x, hx, rfl⟩ := List.mem_map.mp hin
      cases hfound : fields.lookup x.1 with
      | none => exact absurd rfl (bne_iff_ne.mp (List.lookup_eq_none_iff.mp hfound x hx))
      | some v => simp
    · rw [if_neg hk, if_neg hk]
  · -- the key is new: neither half of the fields has it
    have hnone := lookup_eq_none hin
    have hsplit : fields.lookup k = ((fields.takeWhile fun x => Text.lt x.1 key).lookup k).or
        ((fields.dropWhile fun x => Text.lt x.1 key).lookup k) := by
      rw [← List.lookup_append, List.takeWhile_append_dropWhile]
    rw [upsert_of_not_mem hin, List.lookup_append, lookup_cons_eq]
    by_cases hk : k = key
    · subst hk
      rw [hnone, eq_comm, Option.or_eq_none_iff] at hsplit
      simp [hsplit.1, hnone]
    · rw [if_neg hk, if_neg hk, hsplit]

theorem map_fst_update (fields : List (String × Json)) :
    (fields.map fun x => if x.1 = key then (x.1, f x.2) else x).map Prod.fst =
      fields.map Prod.fst := by
  rw [List.map_map]
  refine List.map_congr_left fun x _ => ?_
  simp only [Function.comp_apply]
  split <;> rfl

theorem nodup_upsert (hnodup : (fields.map Prod.fst).Nodup) :
    ((upsert key f new fields).map Prod.fst).Nodup := by
  by_cases hin : key ∈ fields.map Prod.fst
  · rw [upsert_of_mem hin, map_fst_update]
    exact hnodup
  · rw [upsert_of_not_mem hin]
    refine (List.perm_middle.map Prod.fst).nodup_iff.mpr ?_
    rw [List.takeWhile_append_dropWhile]
    exact List.nodup_cons.mpr ⟨hin, hnodup⟩

/-- The keys stay in order: a new one comes before the first that is greater. -/
theorem increasing_upsert (h : (fields.map Prod.fst).Pairwise (· < ·)) :
    ((upsert key f new fields).map Prod.fst).Pairwise (· < ·) := by
  by_cases hin : key ∈ fields.map Prod.fst
  · rw [upsert_of_mem hin, map_fst_update]
    exact h
  rw [upsert_of_not_mem hin]
  induction fields with
  | nil => exact List.pairwise_singleton _ _
  | cons x fields ih =>
    obtain ⟨hx, hfields⟩ := List.pairwise_cons.mp h
    obtain ⟨hne, hnew⟩ := not_or.mp fun h => hin (List.mem_cons.mpr h)
    by_cases hlt : Text.lt x.1 key = true
    · rw [List.takeWhile_cons, if_pos hlt, List.dropWhile_cons, if_pos hlt]
      refine List.pairwise_cons.mpr ⟨fun k hk => ?_, ih hfields hnew⟩
      have hmem := (List.perm_middle.map Prod.fst).mem_iff.mp hk
      rw [List.takeWhile_append_dropWhile, List.map_cons, List.mem_cons] at hmem
      rcases hmem with rfl | hmem
      · exact Text.lt_iff.mp hlt
      · exact hx k hmem
    · rw [List.takeWhile_cons, if_neg hlt, List.dropWhile_cons, if_neg hlt]
      have hgt : key < x.1 := lt_of_le_of_ne (not_lt.mp fun h => hlt (Text.lt_iff.mpr h)) hne
      refine List.pairwise_cons.mpr ⟨fun k hk => ?_, h⟩
      rcases List.mem_cons.mp hk with rfl | hk
      · exact hgt
      · exact hgt.trans (hx k hk)

/-- Fields in the order of their keys are known from what each key finds. -/
theorem eq_of_lookup {other : List (String × Json)}
    (h : (fields.map Prod.fst).Pairwise (· < ·)) (h' : (other.map Prod.fst).Pairwise (· < ·))
    (heq : ∀ k, fields.lookup k = other.lookup k) : fields = other := by
  have hperm : fields.Perm other := by
    refine (List.perm_ext_iff_of_nodup h.nodup.of_map h'.nodup.of_map).mpr fun x => ?_
    rw [← lookup_eq_some_iff h.nodup, heq, lookup_eq_some_iff h'.nodup]
  refine hperm.eq_of_pairwise (fun x y _ _ hxy hyx => (lt_asymm hxy hyx).elim)
    (List.pairwise_map.mp h) (List.pairwise_map.mp h')

end fields

/-! ## All fields -/

theorem mergeFields_cons (fields delta : List (String × Json)) (k : String) (v : Json) :
    mergeFields fields ((k, v) :: delta) =
      mergeFields (upsert k (fun base => deepMerge base v) v fields) delta := rfl

variable {v b d : Json} {path : List String} {fields : List (String × Json)} {k : String}

theorem nodup_mergeFields (hnodup : (fields.map Prod.fst).Nodup) (delta : List (String × Json)) :
    ((mergeFields fields delta).map Prod.fst).Nodup := by
  induction delta generalizing fields with
  | nil => exact hnodup
  | cons x delta ih =>
    obtain ⟨k, v⟩ := x
    rw [mergeFields_cons]
    exact ih (nodup_upsert hnodup)

theorem increasing_mergeFields (h : (fields.map Prod.fst).Pairwise (· < ·))
    (delta : List (String × Json)) :
    ((mergeFields fields delta).map Prod.fst).Pairwise (· < ·) := by
  induction delta generalizing fields with
  | nil => exact h
  | cons x delta ih =>
    obtain ⟨k, v⟩ := x
    rw [mergeFields_cons]
    exact ih (increasing_upsert h)

/-- What a merge leaves of a field: the update is merged into the old value, or is the new one. -/
def mergedWith (old : Option Json) (v : Json) : Json :=
  (old.map fun base => deepMerge base v).getD v

/-- Each field of the update is merged into the field of the same key. -/
theorem lookup_mergeFields {delta : List (String × Json)} (hnodup : (delta.map Prod.fst).Nodup)
    (fields : List (String × Json)) (k : String) :
    (mergeFields fields delta).lookup k =
      match delta.lookup k with
      | some v => some (mergedWith (fields.lookup k) v)
      | none => fields.lookup k := by
  induction delta generalizing fields with
  | nil => rfl
  | cons x delta ih =>
    obtain ⟨k', v⟩ := x
    obtain ⟨hfresh, hnodup⟩ := List.nodup_cons.mp hnodup
    rw [mergeFields_cons, ih hnodup, lookup_cons_eq, lookup_upsert]
    by_cases hk : k = k'
    · subst hk
      simp only [lookup_eq_none hfresh, if_pos, mergedWith]
    · simp only [if_neg hk]

/-- An update that every field already follows changes nothing. -/
theorem mergeFields_eq_self {fields delta : List (String × Json)}
    (h : ∀ e ∈ delta, e.1 ∈ fields.map Prod.fst ∧
      ∀ x ∈ fields, x.1 = e.1 → deepMerge x.2 e.2 = x.2) :
    mergeFields fields delta = fields := by
  induction delta with
  | nil => rfl
  | cons e delta ih =>
    obtain ⟨k, v⟩ := e
    obtain ⟨hin, hsame⟩ := h (k, v) List.mem_cons_self
    have hkept : upsert k (fun base => deepMerge base v) v fields = fields := by
      rw [upsert_of_mem hin]
      refine (List.map_congr_left fun x hx => ?_).trans (List.map_id fields)
      split
      · rename_i hxk
        have hvalue : deepMerge x.2 v = x.2 := hsame x hx hxk
        show (x.1, deepMerge x.2 v) = x
        rw [hvalue]
      · rfl
    rw [mergeFields_cons, hkept]
    exact ih fun e he => h e (List.mem_cons_of_mem _ he)

/-! ## Values -/

theorem deepMerge_obj (fields delta : List (String × Json)) :
    deepMerge (obj fields) (obj delta) = obj (mergeFields fields delta) := rfl

/-- Anything but two objects is replaced. -/
theorem deepMerge_of_not_object (h : b.isObject = false ∨ d.isObject = false) :
    deepMerge b d = d := by
  cases d with
  | scalar s => rfl
  | arr items => rfl
  | obj delta =>
    cases b with
    | scalar s => rfl
    | arr items => rfl
    | obj fields => rcases h with h | h <;> cases h

theorem exists_obj_of_get {w : Json} (h : v.get k = some w) :
    ∃ fields, v = obj fields ∧ fields.lookup k = some w := by
  cases v with
  | obj fields => exact ⟨fields, rfl, h⟩
  | scalar s => cases h
  | arr items => cases h

theorem WF.field (h : WF (Json.obj fields)) (hk : fields.lookup k = some v) : v.WF := by
  cases h with
  | obj hnodup hfields => exact hfields (k, v) ((lookup_eq_some_iff hnodup).mp hk)

theorem WF.nodup (h : WF (Json.obj fields)) : (fields.map Prod.fst).Nodup := by
  cases h with
  | obj hnodup _ => exact hnodup

/-- A value of the update that is no object is the value of the merged object. -/
theorem atPath_deepMerge_of_leaf (hd : d.WF) (b : Json) (hv : d.atPath path = some v)
    (hleaf : v.isObject = false) :
    (b.deepMerge d).atPath path = some v := by
  induction path generalizing b d with
  | nil =>
    cases hv
    rw [deepMerge_of_not_object (.inr hleaf), atPath_nil]
  | cons k path ih =>
    obtain ⟨d', hd', hv'⟩ := Option.bind_eq_some_iff.mp hv
    obtain ⟨delta, rfl, hk⟩ := exists_obj_of_get hd'
    cases b with
    | scalar s => exact hv
    | arr items => exact hv
    | obj fields =>
      have hmerged := lookup_mergeFields hd.nodup fields k
      rw [hk] at hmerged
      rw [deepMerge_obj, atPath_cons]
      show ((mergeFields fields delta).lookup k).bind _ = _
      rw [hmerged, Option.bind_some]
      cases fields.lookup k with
      | none => exact hv'
      | some b' => exact ih (hd.field hk) b' hv'

theorem exists_obj_of_isObject (h : v.isObject = true) : ∃ fields, v = obj fields := by
  cases v with
  | obj fields => exact ⟨fields, rfl⟩
  | scalar s => cases h
  | arr items => cases h

/-- Where the update leaves the objects that both values have, the value is as before. -/
theorem atPath_deepMerge_of_lacks {b d : Json} (hd : d.WF) {path : List String} {k : String}
    (hobjects : ∀ q, q <+: path →
      (d.atPath q).any isObject = true ∧ (b.atPath q).any isObject = true)
    (hlacks : d.atPath (path ++ [k]) = none) (rest : List String) :
    (b.deepMerge d).atPath (path ++ k :: rest) = b.atPath (path ++ k :: rest) := by
  induction path generalizing b d with
  | nil =>
    obtain ⟨hdobj, hbobj⟩ := hobjects [] List.nil_prefix
    obtain ⟨delta, rfl⟩ := exists_obj_of_isObject hdobj
    obtain ⟨fields, rfl⟩ := exists_obj_of_isObject hbobj
    have hk : delta.lookup k = none := by
      cases hfound : delta.lookup k with
      | none => rfl
      | some v => simp [atPath_cons, get, hfound] at hlacks
    have hmerged := lookup_mergeFields hd.nodup fields k
    rw [hk] at hmerged
    rw [deepMerge_obj]
    show ((mergeFields fields delta).lookup k).bind _ = (fields.lookup k).bind _
    rw [hmerged]
  | cons key path ih =>
    -- both values have an object at the first key
    obtain ⟨hdkey, hbkey⟩ := hobjects [key] (by simp)
    obtain ⟨d', hd', -⟩ := (Option.any_eq_true _ _).mp hdkey
    obtain ⟨b', hb', -⟩ := (Option.any_eq_true _ _).mp hbkey
    rw [atPath_cons, Option.bind_eq_some_iff] at hd' hb'
    obtain ⟨_, hdget, hd'⟩ := hd'
    obtain ⟨_, hbget, hb'⟩ := hb'
    cases hd'
    cases hb'
    obtain ⟨delta, rfl, hkey⟩ := exists_obj_of_get hdget
    obtain ⟨fields, rfl, hbkey'⟩ := exists_obj_of_get hbget
    have hmerged := lookup_mergeFields hd.nodup fields key
    rw [hkey, hbkey'] at hmerged
    have hgetm : ((obj fields).deepMerge (obj delta)).get key = some (b'.deepMerge d') := hmerged
    rw [List.cons_append, atPath_cons] at hlacks
    rw [List.cons_append, atPath_cons, atPath_cons, hgetm, hbget, Option.bind_some,
      Option.bind_some]
    rw [hdget, Option.bind_some] at hlacks
    refine ih (hd.field hkey) (fun q hq => ?_) hlacks
    have hq' := hobjects (key :: q) (List.cons_prefix_cons.mpr ⟨rfl, hq⟩)
    rw [atPath_cons, atPath_cons, hdget, hbget] at hq'
    exact hq'

/-! ## Merging twice -/

theorem deepMerge_self (h : v.WF) : v.deepMerge v = v := by
  induction h with
  | scalar s => rfl
  | arr _ _ => rfl
  | @obj fields hnodup _ ih =>
    refine congrArg obj (mergeFields_eq_self fun e he => ⟨List.mem_map_of_mem he, ?_⟩)
    intro x hx hxe
    obtain rfl := List.inj_on_of_nodup_map hnodup hx he hxe
    exact ih x hx

theorem deepMerge_deepMerge (hb : b.WF) (hd : d.WF) :
    (b.deepMerge d).deepMerge d = b.deepMerge d := by
  induction hd generalizing b with
  | scalar s => rfl
  | arr _ _ => rfl
  | @obj delta hnodup hwf ih =>
    have hd : WF (obj delta) := .obj hnodup hwf
    cases b with
    | scalar s => exact deepMerge_self hd
    | arr items => exact deepMerge_self hd
    | obj fields =>
      have hmnodup := nodup_mergeFields hb.nodup delta
      refine congrArg obj (mergeFields_eq_self fun e he => ?_)
      -- the merged field of the key, and that the update leaves it
      obtain ⟨k, v⟩ := e
      have hmerged := lookup_mergeFields hnodup fields k
      rw [(lookup_eq_some_iff hnodup).mpr he] at hmerged
      have hkept : deepMerge (mergedWith (fields.lookup k) v) v =
          mergedWith (fields.lookup k) v := by
        unfold mergedWith
        cases hold : fields.lookup k with
        | none => exact deepMerge_self (hwf (k, v) he)
        | some b' => exact ih (k, v) he (hb.field hold)
      have hentry := (lookup_eq_some_iff hmnodup).mp hmerged
      refine ⟨List.mem_map.mpr ⟨_, hentry, rfl⟩, fun x hx hxk => ?_⟩
      obtain rfl := List.inj_on_of_nodup_map hmnodup hx hentry hxk
      exact hkept

/-! ## Covered updates

An object is a map from keys in increasing order, as a parser builds it; two objects with the same
fields are then the same value. -/

/-- The keys of every object are in increasing order. -/
inductive Ordered : Json → Prop
  | scalar (s : JsonScalar) : Ordered (scalar s)
  | arr {items : List Json} : (∀ v ∈ items, Ordered v) → Ordered (arr items)
  | obj {fields : List (String × Json)} : (fields.map Prod.fst).Pairwise (· < ·) →
      (∀ x ∈ fields, Ordered x.2) → Ordered (obj fields)

mutual

/-- Every key path that the update `x` writes is one that `d` writes too: `d` has each field of `x`
and covers its value, or replaces the value as a whole. -/
def covers (d x : Json) : Bool :=
  match x with
  | obj fields =>
    match d with
    | obj delta => coversFields delta fields
    | _ => true
  | _ => !d.isObject
  termination_by structural x

def coversField (delta : List (String × Json)) (entry : String × Json) : Bool :=
  match entry with
  | (key, value) => (delta.lookup key).any fun v => covers v value
  termination_by structural entry

def coversFields (delta fields : List (String × Json)) : Bool :=
  match fields with
  | [] => true
  | entry :: fields => coversField delta entry && coversFields delta fields
  termination_by structural fields

end

/-- The fields of an object. -/
def entries : Json → List (String × Json)
  | obj fields => fields
  | _ => []

theorem exists_of_coversFields {delta fields : List (String × Json)}
    (h : coversFields delta fields = true) {x : Json} (hx : (k, x) ∈ fields) :
    ∃ v, delta.lookup k = some v ∧ v.covers x = true := by
  induction fields with
  | nil => cases hx
  | cons entry fields ih =>
    obtain ⟨hentry, hfields⟩ := Bool.and_eq_true_iff.mp h
    rcases List.mem_cons.mp hx with rfl | hx
    · exact (Option.any_eq_true _ _).mp hentry
    · exact ih hfields hx

theorem Ordered.increasing (h : v.Ordered) : (v.entries.map Prod.fst).Pairwise (· < ·) := by
  cases h with
  | obj hkeys _ => exact hkeys
  | scalar s => exact .nil
  | arr _ => exact .nil

theorem Ordered.getD (h : v.Ordered) (k : String) : ((v.entries.lookup k).getD null).Ordered := by
  cases hk : v.entries.lookup k with
  | none => exact .scalar _
  | some w =>
    cases h with
    | obj hkeys hfields => exact hfields (k, w) ((lookup_eq_some_iff hkeys.nodup).mp hk)
    | scalar s => cases hk
    | arr _ => cases hk

theorem mergedWith_eq (old : Option Json) (v : Json) :
    mergedWith old v = (old.getD null).deepMerge v := by
  cases old with
  | none => exact (deepMerge_of_not_object (.inl rfl)).symm
  | some b => rfl

/-- An update with keys in order is merged field by field, also into what is no object. -/
theorem deepMerge_obj_of_increasing {delta : List (String × Json)}
    (h : (delta.map Prod.fst).Pairwise (· < ·)) (b : Json) :
    b.deepMerge (obj delta) = obj (mergeFields b.entries delta) := by
  have hnew : delta = mergeFields [] delta := by
    refine eq_of_lookup h (increasing_mergeFields .nil delta) fun k => ?_
    rw [lookup_mergeFields h.nodup]
    cases delta.lookup k <;> rfl
  cases b with
  | obj fields => rfl
  | scalar s => exact congrArg obj hnew
  | arr items => exact congrArg obj hnew

theorem Ordered.deepMerge (hb : b.Ordered) (hd : d.Ordered) : (b.deepMerge d).Ordered := by
  induction hd generalizing b with
  | scalar s => exact .scalar s
  | arr hitems _ => exact .arr hitems
  | @obj delta hkeys _ ih =>
    have hmerged := increasing_mergeFields hb.increasing delta
    rw [deepMerge_obj_of_increasing hkeys]
    refine .obj hmerged fun x hx => ?_
    have hfound := lookup_mergeFields hkeys.nodup b.entries x.1
    rw [(lookup_eq_some_iff hmerged.nodup).mpr hx] at hfound
    have hold := hb.getD x.1
    cases hk : delta.lookup x.1 with
    | none =>
      have hx : some x.2 = b.entries.lookup x.1 := by rwa [hk] at hfound
      rwa [← hx] at hold
    | some v =>
      have hx : some x.2 = some (mergedWith (b.entries.lookup x.1) v) := by rwa [hk] at hfound
      rw [Option.some.inj hx, mergedWith_eq]
      exact ih (x.1, v) ((lookup_eq_some_iff hkeys.nodup).mp hk) hold

/-- Of an update that a later one covers, nothing is left. -/
theorem deepMerge_of_covers {x : Json} (hb : b.Ordered) (hx : x.Ordered) (hd : d.Ordered)
    (h : d.covers x = true) : (b.deepMerge x).deepMerge d = b.deepMerge d := by
  induction hd generalizing b x with
  | scalar s => rfl
  | arr _ _ => rfl
  | @obj delta hkeys _ ih =>
    cases hx with
    | scalar s => cases h
    | arr _ => cases h
    | @obj xs hxs hvalues =>
      rw [deepMerge_obj_of_increasing hxs, deepMerge_obj_of_increasing hkeys,
        deepMerge_obj_of_increasing hkeys b]
      have hmerged := increasing_mergeFields hb.increasing xs
      refine congrArg obj (eq_of_lookup (increasing_mergeFields hmerged delta)
        (increasing_mergeFields hb.increasing delta) fun k => ?_)
      show (mergeFields (mergeFields b.entries xs) delta).lookup k = _
      rw [lookup_mergeFields hkeys.nodup, lookup_mergeFields hkeys.nodup,
        lookup_mergeFields hxs.nodup]
      cases hk : xs.lookup k with
      | none => rfl
      | some x =>
        have hmem := (lookup_eq_some_iff hxs.nodup).mp hk
        obtain ⟨v, hv, hcovers⟩ := exists_of_coversFields h hmem
        rw [hv]
        have hold := ih (k, v) ((lookup_eq_some_iff hkeys.nodup).mp hv) (hb.getD k)
          (hvalues (k, x) hmem) hcovers
        simp only [mergedWith_eq, Option.getD_some, hold]

end Json
