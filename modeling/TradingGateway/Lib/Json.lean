import TradingGateway.Lib.Text
import Mathlib.Algebra.Group.Nat.Defs
import Mathlib.Data.Rat.Defs

/-!
# JSON values

An object is the list of its fields in the order of their keys. A number is an integer or a
floating-point number; the latter is the exact rational it stands for.

* `Json.deepMerge`: a partial update of a value. Objects are merged field by field, any other value
  is replaced.
* `Json.field` and `Json.required`, `Json.optional`, …: how a record is read from an object, or from
  an array by position. A key that stands for the same field twice is an error.
-/

inductive JsonScalar where
  | null
  | bool (b : Bool)
  | int (n : ℤ)
  | float (x : ℚ)
  | str (s : String)
  deriving DecidableEq, Repr

inductive Json where
  | scalar (s : JsonScalar)
  | arr (items : List Json)
  | obj (fields : List (String × Json))
  deriving Repr

namespace Json

@[match_pattern] abbrev null : Json := scalar .null
@[match_pattern] abbrev int (n : ℤ) : Json := scalar (.int n)
@[match_pattern] abbrev float (x : ℚ) : Json := scalar (.float x)
@[match_pattern] abbrev str (s : String) : Json := scalar (.str s)

/-! ## Equality -/

mutual

def decEq : (a b : Json) → Decidable (a = b)
  | scalar a, scalar b => decidable_of_iff (a = b) (by simp)
  | arr a, arr b => @decidable_of_iff _ (a = b) (by simp) (decEqItems a b)
  | obj a, obj b => @decidable_of_iff _ (a = b) (by simp) (decEqFields a b)
  | scalar _, arr _ | scalar _, obj _ | arr _, scalar _ | arr _, obj _ | obj _, scalar _
  | obj _, arr _ => isFalse (by simp)
  termination_by structural a => a

def decEqItems : (a b : List Json) → Decidable (a = b)
  | [], [] => isTrue rfl
  | [], _ :: _ | _ :: _, [] => isFalse (by simp)
  | a :: as, b :: bs => @decidable_of_iff _ (a = b ∧ as = bs) (by simp)
    (@instDecidableAnd _ _ (decEq a b) (decEqItems as bs))
  termination_by structural a => a

def decEqField : (a b : String × Json) → Decidable (a = b)
  | (k, a), (l, b) => @decidable_of_iff _ (k = l ∧ a = b) (by simp)
    (@instDecidableAnd _ _ inferInstance (decEq a b))
  termination_by structural a => a

def decEqFields : (a b : List (String × Json)) → Decidable (a = b)
  | [], [] => isTrue rfl
  | [], _ :: _ | _ :: _, [] => isFalse (by simp)
  | a :: as, b :: bs => @decidable_of_iff _ (a = b ∧ as = bs) (by simp)
    (@instDecidableAnd _ _ (decEqField a b) (decEqFields as bs))
  termination_by structural a => a

end

instance : DecidableEq Json := decEq

/-! ## Reading a value -/

/-- The value of a field of an object. -/
def get (v : Json) (key : String) : Option Json :=
  match v with
  | obj fields => fields.lookup key
  | _ => none

def isNull : Json → Bool
  | null => true
  | _ => false

def asStr : Json → Option String
  | str s => some s
  | _ => none

def asF64 : Json → Option ℚ
  | int n => some n
  | float x => some x
  | _ => none

def asU64 : Json → Option ℕ
  | int n => if 0 ≤ n then some n.toNat else none
  | _ => none

def asU32 (v : Json) : Option UInt32 :=
  v.asU64.bind fun n => if n < 2 ^ 32 then some (UInt32.ofNat n) else none

/-! ## Partial updates -/

/-- The object's field at `key` is updated with `f`, or `new` is added in its place. -/
def upsert (key : String) (f : Json → Json) (new : Json) (fields : List (String × Json)) :
    List (String × Json) :=
  if fields.any fun x => x.1 = key then
    fields.map fun x => if x.1 = key then (x.1, f x.2) else x
  else
    fields.takeWhile (fun x => Text.lt x.1 key) ++
      (key, new) :: fields.dropWhile fun x => Text.lt x.1 key

mutual

/-- Recursively merge `delta` into `base`. -/
def deepMerge (base delta : Json) : Json :=
  match delta with
  | obj delta =>
    match base with
    | obj fields => obj (mergeFields fields delta)
    | _ => obj delta
  | delta => delta
  termination_by structural delta

def mergeField (fields : List (String × Json)) (entry : String × Json) : List (String × Json) :=
  match entry with
  | (key, value) => upsert key (fun base => deepMerge base value) value fields
  termination_by structural entry

def mergeFields (fields delta : List (String × Json)) : List (String × Json) :=
  match delta with
  | [] => fields
  | entry :: delta => mergeFields (mergeField fields entry) delta
  termination_by structural delta

end

/-! ## Reading a record -/

/-- The value of the `i`-th field of a record, which goes by one of the names: `some none` if it is
missing, `none` if the value is no record or the field stands twice. -/
def field (v : Json) (i : ℕ) (names : List String) : Option (Option Json) :=
  match v with
  | obj fields =>
    match fields.filter fun x => x.1 ∈ names with
    | [] => some none
    | [x] => some (some x.2)
    | _ => none
  | arr items => some items[i]?
  | _ => none

/-- An array has no more items than the record has fields. -/
def fits (v : Json) (count : ℕ) : Bool :=
  match v with
  | arr items => items.length ≤ count
  | _ => true

section record

variable {α : Type} (v : Json) (i : ℕ) (names : List String) (read : Json → Option α)

def required : Option α := do
  let found ← v.field i names
  let value ← found
  read value

def withDefault (default : α) : Option α := do
  let found ← v.field i names
  match found with
  | some value => read value
  | none => some default

/-- A field that may be missing or `null`. -/
def optional : Option (Option α) := do
  let found ← v.field i names
  match found with
  | some null | none => some none
  | some value => (read value).map some

/-- An array of records. -/
def asList : Json → Option (List α)
  | arr items => items.mapM read
  | _ => none

end record

end Json
