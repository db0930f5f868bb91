import Mathlib.Data.String.Basic
import TradingGateway.Lib.Checked

/-!
# Slices of texts by bytes

`Utf8.upTo s n` is the slice of the first `n` bytes of a text. It panics unless `n` bytes end
between two characters (`Utf8.upTo_ne_panic_iff`). A text cut down to `n` bytes without a panic is
the longest start of the text that fits (`Utf8.longest_of_upTo`).
-/

namespace Utf8

variable {ε : Type} {s p : String} {n : ℕ}

/-- The first `n` bytes of `s` are a text. -/
def Boundary (s : String) (n : ℕ) : Prop := ∃ p t, s = p ++ t ∧ p.utf8ByteSize = n

/-- `&s[..n]`. -/
def upTo (s : String) (n : ℕ) : Checked ε String :=
  if n ≤ s.utf8ByteSize then
    match String.fromUTF8? (s.toByteArray.extract 0 n) with
    | some p => .ok p
    | none => .panic
  else .panic

/-- `p` is the start of `s`, and no longer start of `s` fits into `n` bytes. -/
structure Longest (p s : String) (n : ℕ) : Prop where
  starts : ∃ t, s = p ++ t
  fits : p.utf8ByteSize ≤ n
  longest : ∀ q t, s = q ++ t → q.utf8ByteSize ≤ n → q.utf8ByteSize ≤ p.utf8ByteSize

theorem extract_append (p t : String) :
    (p ++ t).toByteArray.extract 0 p.utf8ByteSize = p.toByteArray := by
  rw [String.toByteArray_append, ← String.size_toByteArray]
  exact ByteArray.extract_append_eq_left rfl

theorem upTo_append (p t : String) : (upTo (p ++ t) p.utf8ByteSize : Checked ε String) = .ok p := by
  unfold upTo
  rw [if_pos (by rw [String.utf8ByteSize_append]; omega), extract_append, String.fromUTF8?,
    dif_pos p.isValidUTF8]
  rfl

/-- A slice that does not panic is a start of the text. -/
theorem upTo_eq_ok_iff :
    (upTo s n : Checked ε String) = .ok p ↔ (∃ t, s = p ++ t) ∧ p.utf8ByteSize = n := by
  constructor
  · intro h
    unfold upTo at h
    split at h
    · rename_i hle
      split at h
      · rename_i q hq
        cases h
        unfold String.fromUTF8? at hq
        split at hq
        · rename_i hvalid
          cases hq
          -- The slice is valid, so `n` is a position between two characters.
          have hpos : String.Pos.Raw.IsValid s ⟨n⟩ :=
            String.Pos.Raw.isValid_iff_isValidUTF8_extract_zero.mpr ⟨hle, hvalid⟩
          obtain ⟨q, t, rfl, hend⟩ := String.Pos.Raw.isValid_iff_exists_append.mp hpos
          have hsize : q.utf8ByteSize = n := (congrArg String.Pos.Raw.byteIdx hend).symm
          subst hsize
          have heq : String.fromUTF8 _ hvalid = q :=
            String.toByteArray_inj.mp (extract_append q t)
          rw [heq]
          exact ⟨⟨t, rfl⟩, rfl⟩
        · cases hq
      · cases h
    · cases h
  · rintro ⟨⟨t, rfl⟩, rfl⟩
    exact upTo_append p t

theorem upTo_ne_fail (e : ε) : upTo s n ≠ .fail e := by
  unfold upTo
  split
  · split <;> nofun
  · nofun

theorem upTo_ne_panic_iff : (upTo s n : Checked ε String) ≠ .panic ↔ Boundary s n := by
  constructor
  · intro h
    cases hup : (upTo s n : Checked ε String) with
    | panic => exact absurd hup h
    | fail e => exact absurd hup (upTo_ne_fail e)
    | ok p =>
      obtain ⟨⟨t, ht⟩, hsize⟩ := upTo_eq_ok_iff.mp hup
      exact ⟨p, t, ht, hsize⟩
  · rintro ⟨p, t, rfl, rfl⟩
    rw [upTo_append]
    nofun

/-! ## Cutting a text -/

theorem boundary_size (s : String) : Boundary s s.utf8ByteSize := ⟨s, "", by simp, rfl⟩

theorem boundary_min_iff :
    Boundary s (min s.utf8ByteSize n) ↔ s.utf8ByteSize ≤ n ∨ Boundary s n := by
  by_cases hle : s.utf8ByteSize ≤ n
  · rw [Nat.min_eq_left hle]
    exact iff_of_true (boundary_size s) (.inl hle)
  · rw [Nat.min_eq_right (by omega)]
    exact (or_iff_right hle).symm

/-- What is cut off at `n` bytes could not have been kept. -/
theorem longest_of_upTo (h : (upTo s (min s.utf8ByteSize n) : Checked ε String) = .ok p) :
    Longest p s n := by
  obtain ⟨hstarts, hsize⟩ := upTo_eq_ok_iff.mp h
  refine ⟨hstarts, by omega, fun q t hq hfits => ?_⟩
  have hle : q.utf8ByteSize ≤ s.utf8ByteSize := by
    rw [hq, String.utf8ByteSize_append]
    omega
  omega

/-- No boundary lies within a character. -/
theorem not_boundary_within {c : Char} (t : String) (hlt : p.utf8ByteSize < n)
    (hgt : n < p.utf8ByteSize + c.utf8Size) : ¬ Boundary (p ++ String.singleton c ++ t) n := by
  rintro ⟨q, u, heq, rfl⟩
  have hlists := congrArg String.toList heq
  simp only [String.toList_append, String.toList_singleton] at hlists
  rcases List.append_eq_append_iff.mp hlists with ⟨a, hq, -⟩ | ⟨a, hpc, -⟩
  · -- The part reaches past the character.
    have hq' : q = p ++ String.singleton c ++ String.ofList a :=
      String.ext (by simpa using hq)
    rw [hq', String.utf8ByteSize_append, String.utf8ByteSize_append,
      String.utf8ByteSize_singleton] at hgt
    omega
  · rcases List.eq_nil_or_concat' a with rfl | ⟨a', d, rfl⟩
    · have hq' : q = p ++ String.singleton c := String.ext (by simpa using hpc.symm)
      rw [hq', String.utf8ByteSize_append, String.utf8ByteSize_singleton] at hgt
      omega
    · -- The part ends before the character.
      rw [← List.append_assoc] at hpc
      have hp : p = q ++ String.ofList a' :=
        String.ext (by simpa using List.append_inj_left' hpc rfl)
      rw [hp, String.utf8ByteSize_append] at hlt
      omega

end Utf8
