import TradingGateway.Lib.Text
import TradingGateway.Models

/-!
# The text of decimals

Brokers send decimals as text and are sent text. Decimals are exact rationals here, so all that is
assumed of their text is that it can be read back (`DecimalText`). `DecimalText.fractions` is one
such text: `-3/2`, and `12` for a whole number.
-/

namespace Gateway

/-- How a decimal is written (`to_string`) and read (`from_str`). -/
structure DecimalText where
  write : Decimal → String
  read : String → Option Decimal
  read_write (d : Decimal) : read (write d) = some d
  /-- One sign in front is read, two are not. -/
  read_neg_write (d : Decimal) : read ("-" ++ write d) = if 0 ≤ d then some (-d) else none

namespace DecimalText

/-! ## Fractions -/

def readNat (s : List Char) : Option ℕ :=
  if s ≠ [] ∧ s.all Char.isDigit then some (Nat.ofDigitChars 10 s 0) else none

/-- Read `n` or `n/m`. -/
def readAbs (s : List Char) : Option Decimal :=
  match s.span (· ≠ '/') with
  | (n, []) => (readNat n).map fun n : ℕ => (n : Decimal)
  | (n, _ :: m) => (readNat n).bind fun n : ℕ => (readNat m).map fun m : ℕ => (n : Decimal) / m

def readFraction (s : String) : Option Decimal :=
  match s.toList with
  | '-' :: s => (readAbs s).map fun d => -d
  | s => readAbs s

/-- The text of `|d|`. -/
def writeAbs (d : Decimal) : List Char :=
  (toString d.num.natAbs).toList ++ if d.den = 1 then [] else '/' :: (toString d.den).toList

def writeFraction (d : Decimal) : String :=
  String.ofList (if d < 0 then '-' :: writeAbs d else writeAbs d)

theorem readNat_toString (n : ℕ) : readNat (toString n).toList = some n := by
  have hdigits : (toString n).toList.all Char.isDigit = true :=
    List.all_eq_true.mpr fun c hc => Text.isDigit_of_mem_toString_nat hc
  rw [readNat, if_pos ⟨Text.toString_nat_ne_nil n, hdigits⟩, Text.toList_toString_nat,
    Nat.ofDigitChars_ten_toDigits]

theorem span_digits (n : ℕ) {rest : List Char} (hrest : ∀ c ∈ rest.head?, c = '/') :
    ((toString n).toList ++ rest).span (· ≠ '/') = ((toString n).toList, rest) := by
  have hdigits : ∀ c ∈ (toString n).toList, decide (c ≠ '/') = true := by
    rintro c hc
    rw [decide_eq_true_iff]
    rintro rfl
    exact Text.notMem_toString_nat (by decide) n hc
  rw [List.span_eq_takeWhile_dropWhile, List.takeWhile_append_of_pos hdigits,
    List.dropWhile_append_of_pos hdigits]
  cases rest with
  | nil => simp
  | cons c rest =>
    obtain rfl := hrest c rfl
    simp

theorem readAbs_writeAbs (d : Decimal) : readAbs (writeAbs d) = some |d| := by
  have habs : |d| = (d.num.natAbs : Decimal) / d.den := by
    rw [Nat.cast_natAbs, Int.cast_abs]
    nth_rewrite 1 [← Rat.num_div_den d]
    rw [abs_div, Nat.abs_cast]
  rw [readAbs, writeAbs, habs]
  split_ifs with hden
  · rw [span_digits _ (by simp)]
    simp only [readNat_toString, Option.map_some, hden, Nat.cast_one, div_one]
  · rw [span_digits _ (by simp)]
    simp only [readNat_toString, Option.bind_some, Option.map_some]

/-- No text of a number starts with a sign of its own. -/
theorem head_writeAbs (d : Decimal) : ∃ c rest, writeAbs d = c :: rest ∧ c.isDigit = true := by
  obtain ⟨c, rest, hc⟩ := List.exists_cons_of_ne_nil (Text.toString_nat_ne_nil d.num.natAbs)
  refine ⟨c, _, by rw [writeAbs, hc, List.cons_append],
    Text.isDigit_of_mem_toString_nat (n := d.num.natAbs) ?_⟩
  rw [hc]
  exact List.mem_cons_self

theorem readFraction_writeAbs (d : Decimal) :
    readFraction (String.ofList (writeAbs d)) = some |d| := by
  obtain ⟨c, rest, hc, hdigit⟩ := head_writeAbs d
  rw [readFraction, String.toList_ofList, ← readAbs_writeAbs, hc]
  split
  · rename_i heq
    cases heq
    cases hdigit
  · rfl

theorem readFraction_neg_writeAbs (d : Decimal) :
    readFraction (String.ofList ('-' :: writeAbs d)) = some (-|d|) := by
  rw [readFraction, String.toList_ofList]
  simp only [readAbs_writeAbs, Option.map_some]

theorem readFraction_neg_neg (s : List Char) :
    readFraction (String.ofList ('-' :: '-' :: s)) = none := by
  have hsign (s : List Char) : readNat ('-' :: s) = none := if_neg (by simp)
  have habs : readAbs ('-' :: s) = none := by
    rw [readAbs, List.span_eq_takeWhile_dropWhile, List.takeWhile_cons_of_pos (by decide)]
    split
    · rename_i heq
      rw [← (Prod.mk.inj heq).1, hsign, Option.map_none]
    · rename_i heq
      rw [← (Prod.mk.inj heq).1, hsign, Option.bind_none]
  rw [readFraction, String.toList_ofList]
  simp only [habs, Option.map_none]

/-- The text of a fraction: `-3/2`, or `12`. -/
def fractions : DecimalText where
  write := writeFraction
  read := readFraction
  read_write d := by
    rw [writeFraction]
    split_ifs with hneg
    · rw [readFraction_neg_writeAbs, abs_of_neg hneg, neg_neg]
    · rw [readFraction_writeAbs, abs_of_nonneg (not_lt.mp hneg)]
  read_neg_write d := by
    have hsign (s : List Char) : "-" ++ String.ofList s = String.ofList ('-' :: s) := by
      rw [← String.toList_inj]
      simp
    rw [writeFraction, hsign]
    split_ifs with hneg hnonneg hnonneg
    · exact absurd hneg (not_lt.mpr hnonneg)
    · exact readFraction_neg_neg _
    · rw [readFraction_neg_writeAbs, abs_of_nonneg hnonneg]
    · exact absurd (not_lt.mp hneg) hnonneg

end DecimalText

end Gateway
