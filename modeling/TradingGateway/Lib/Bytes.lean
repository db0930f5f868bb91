import TradingGateway.Lib.Checked

/-!
# Segments and numbers in byte strings

`Segment xs a ys b`: the items of `xs` from `a` up to `b` are `ys`. Segments compose and split, and
`Checked.slice` and `Checked.index` read them.

`leBytes w n` are the `w` bytes of `n`, the lowest first, and `leNat` is the number that bytes
stand for.
-/

/-- The bytes of a slice in memory: at most `isize::MAX` of them. -/
structure Slice where
  bytes : List UInt8
  length_lt : bytes.length < 2 ^ 63
  deriving DecidableEq, Repr

/-! ## Segments -/

section Segment

variable {α ε : Type} {xs ys zs : List α} {a b c : ℕ}

/-- The items from `a` up to `b`. -/
structure Segment (xs : List α) (a : ℕ) (ys : List α) (b : ℕ) : Prop where
  le : a ≤ b
  le_length : b ≤ xs.length
  items : (xs.drop a).take (b - a) = ys

namespace Segment

theorem length (h : Segment xs a ys b) : b = a + ys.length := by
  have hle := h.le
  have hend := h.le_length
  rw [← h.items, List.length_take, List.length_drop]
  omega

theorem of_le (xs : List α) {n : ℕ} (h : a + n ≤ xs.length) :
    ∃ ys, ys.length = n ∧ Segment xs a ys (a + n) := by
  refine ⟨(xs.drop a).take n, ?_, Nat.le_add_right a n, h, by rw [Nat.add_sub_cancel_left]⟩
  rw [List.length_take, List.length_drop]
  omega

theorem of_lt (xs : List α) (h : a < xs.length) : ∃ y, Segment xs a [y] (a + 1) := by
  obtain ⟨ys, hlen, hs⟩ := of_le xs (n := 1) h
  obtain ⟨y, rfl⟩ := List.length_eq_one_iff.mp hlen
  exact ⟨y, hs⟩

theorem nil (h : a ≤ xs.length) : Segment xs a [] a :=
  ⟨Nat.le_refl a, h, by rw [Nat.sub_self, List.take_zero]⟩

theorem append (h : Segment xs a ys b) (h' : Segment xs b zs c) : Segment xs a (ys ++ zs) c := by
  have hab := h.le
  have hbc := h'.le
  refine ⟨by omega, h'.le_length, ?_⟩
  have hsum : c - a = (b - a) + (c - b) := by omega
  rw [hsum, List.take_add, h.items, List.drop_drop]
  have hb : a + (b - a) = b := by omega
  rw [hb, h'.items]

theorem split {n : ℕ} (h : Segment xs a (ys ++ zs) c) (hn : ys.length = n) :
    Segment xs a ys (a + n) ∧ Segment xs (a + n) zs c := by
  subst hn
  have hlen := h.length
  have hend := h.le_length
  rw [List.length_append] at hlen
  have hitems := h.items
  have hsum : c - a = ys.length + zs.length := by omega
  rw [hsum, List.take_add, List.drop_drop] at hitems
  have hfirst : ((xs.drop a).take ys.length).length = ys.length := by
    rw [List.length_take, List.length_drop]
    omega
  obtain ⟨hys, hzs⟩ := List.append_inj hitems hfirst
  refine ⟨⟨by omega, by omega, ?_⟩, ⟨by omega, hend, ?_⟩⟩
  · rw [Nat.add_sub_cancel_left]
    exact hys
  · have hrest : c - (a + ys.length) = zs.length := by omega
    rw [hrest]
    exact hzs

theorem whole : Segment xs 0 ys xs.length ↔ xs = ys := by
  constructor
  · intro h
    have hitems := h.items
    rw [List.drop_zero, Nat.sub_zero, List.take_length] at hitems
    exact hitems
  · rintro rfl
    exact ⟨Nat.zero_le _, Nat.le_refl _, by rw [List.drop_zero, Nat.sub_zero, List.take_length]⟩

theorem slice_eq (h : Segment xs a ys b) :
    (Checked.slice xs a b : Checked ε (List α)) = .ok ys := by
  rw [Checked.slice, if_pos ⟨h.le, h.le_length⟩, h.items]

theorem index_eq {y : α} (h : Segment xs a [y] b) : (Checked.index xs a : Checked ε α) = .ok y := by
  have hitem : xs[a]? = some y := by
    have hlen := h.length
    have hitems := h.items
    rw [hlen, List.length_singleton, Nat.add_sub_cancel_left] at hitems
    have hfirst := congrArg (fun l => l[0]?) hitems
    simpa using hfirst
  rw [Checked.index, hitem]

end Segment

end Segment

/-! ## Numbers -/

/-- The `w` bytes of `n`, the lowest first. -/
def leBytes : ℕ → ℕ → List UInt8
  | 0, _ => []
  | w + 1, n => UInt8.ofNat (n % 256) :: leBytes w (n / 256)

/-- The number that the bytes stand for, the lowest first. -/
def leNat : List UInt8 → ℕ
  | [] => 0
  | b :: bs => b.toNat + 256 * leNat bs

@[simp] theorem length_leBytes (w n : ℕ) : (leBytes w n).length = w := by
  induction w generalizing n with
  | zero => rfl
  | succ w ih => rw [leBytes, List.length_cons, ih]

theorem leNat_lt (bs : List UInt8) : leNat bs < 256 ^ bs.length := by
  induction bs with
  | nil => exact Nat.one_pos
  | cons b bs ih =>
    have hb := b.toNat_lt
    rw [leNat, List.length_cons, Nat.pow_succ]
    omega

theorem leNat_leBytes {w n : ℕ} (h : n < 256 ^ w) : leNat (leBytes w n) = n := by
  induction w generalizing n with
  | zero =>
    rw [Nat.pow_zero] at h
    rw [leBytes, leNat]
    omega
  | succ w ih =>
    have hdiv : n / 256 < 256 ^ w := by
      rw [Nat.pow_succ] at h
      omega
    have hbyte : (UInt8.ofNat (n % 256)).toNat = n % 256 := by
      rw [UInt8.toNat_ofNat']
      omega
    rw [leBytes, leNat, hbyte, ih hdiv]
    omega

theorem leBytes_leNat (bs : List UInt8) : leBytes bs.length (leNat bs) = bs := by
  induction bs with
  | nil => rfl
  | cons b bs ih =>
    have hb : b.toNat < 256 := b.toNat_lt
    have hmod : (b.toNat + 256 * leNat bs) % 256 = b.toNat := by omega
    have hdiv : (b.toNat + 256 * leNat bs) / 256 = leNat bs := by omega
    rw [List.length_cons, leNat, leBytes, hmod, hdiv, ih, UInt8.ofNat_toNat]
