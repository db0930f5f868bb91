import Mathlib.Data.List.Basic

/-!
# Texts

The order of texts by their characters; the decimal text of a number, which tells the number; texts
joined by a separator, which tell their last part; and the rest of a text after its start.
-/

namespace Text

/-- Lexicographic order by code points. -/
def lexLt : List Char → List Char → Bool
  | _, [] => false
  | [], _ :: _ => true
  | c :: cs, d :: ds => c.toNat < d.toNat || c.toNat == d.toNat && lexLt cs ds

/-- `s` comes before `t`. -/
def lt (s t : String) : Bool := lexLt s.toList t.toList

/-- Lower case of the letters of ASCII. -/
def asciiLower (s : String) : String := String.ofList (s.toList.map Char.toLower)

theorem toList_toString_nat (n : ℕ) : (toString n).toList = Nat.toDigits 10 n := Nat.toList_repr

theorem toString_nat_inj {m n : ℕ} (h : toString m = toString n) : m = n := by
  have h' := congrArg (fun s : String => Nat.ofDigitChars 10 s.toList 0) h
  simpa only [toList_toString_nat, Nat.ofDigitChars_ten_toDigits] using h'

theorem toString_nat_ne_nil (n : ℕ) : (toString n).toList ≠ [] := by
  rw [toList_toString_nat]
  exact Nat.toDigits_ne_nil

theorem isDigit_of_mem_toString_nat {c : Char} {n : ℕ} (h : c ∈ (toString n).toList) :
    c.isDigit = true := by
  rw [toList_toString_nat] at h
  exact Nat.isDigit_of_mem_toDigits (by decide) (by decide) h

theorem notMem_toString_nat {c : Char} (hc : c.isDigit = false) (n : ℕ) :
    c ∉ (toString n).toList := by
  intro h
  rw [isDigit_of_mem_toString_nat h] at hc
  cases hc

theorem append_cons_inj {α : Type} {c : α} {s t u v : List α} (hu : c ∉ u) (hv : c ∉ v)
    (h : s ++ c :: u = t ++ c :: v) : s = t ∧ u = v := by
  -- the longer of `s` and `t` would put a separator into the last part of the other
  rcases List.append_eq_append_iff.mp h with ⟨m, rfl, hm⟩ | ⟨m, rfl, hm⟩
  · cases m with
    | nil => simpa using hm
    | cons d m =>
      rw [List.cons_append, List.cons.injEq] at hm
      exact absurd (by rw [hm.2]; simp) hu
  · cases m with
    | nil => simpa [eq_comm] using hm
    | cons d m =>
      rw [List.cons_append, List.cons.injEq] at hm
      exact absurd (by rw [hm.2]; simp) hv

/-- Two texts and a separator that the second one does not contain. -/
theorem append_sep_inj {c : Char} {s t u v : String} (hu : c ∉ u.toList) (hv : c ∉ v.toList)
    (h : s ++ String.singleton c ++ u = t ++ String.singleton c ++ v) : s = t ∧ u = v := by
  have h' := congrArg String.toList h
  simp only [String.toList_append, String.toList_singleton, List.append_assoc, List.cons_append,
    List.nil_append] at h'
  obtain ⟨hs, hu⟩ := append_cons_inj hu hv h'
  exact ⟨String.toList_inj.mp hs, String.toList_inj.mp hu⟩

/-- What follows `start` in a text that starts with it. -/
def afterStart (start s : String) : Option String :=
  (start.toList.isPrefixOf? s.toList).map String.ofList

theorem afterStart_eq_some {start s rest : String} :
    afterStart start s = some rest ↔ s = start ++ rest := by
  unfold afterStart
  rw [Option.map_eq_some_iff]
  constructor
  · rintro ⟨tail, htail, rfl⟩
    rw [← String.toList_inj, String.toList_append, String.toList_ofList]
    exact (List.isPrefixOf?_eq_some_iff_append_eq.mp htail).symm
  · rintro rfl
    refine ⟨rest.toList, List.isPrefixOf?_eq_some_iff_append_eq.mpr ?_, String.ofList_toList⟩
    rw [String.toList_append]

end Text
