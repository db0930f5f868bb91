import TradingGateway.Lib.Netting
import TradingGateway.Mock.Conservation

/-!
# Netting at the mock provider

Every fill is netted into the position of its symbol (`upsert_position`). The position is the sum of
the signed fills, and its average entry price is a mean of the prices at which it was entered. Of a
fill that turns the position around only the part counts that is left when the old position is
closed.

* `Nets`: a position that stands for an abstract one. `nets_step`: a fill keeps that.
* `nets_exec`: the positions of a run of the provider are its netted trades.
* `netting_ledger`: the positions after any fills.
-/

namespace Gateway

/-- The sign of a quantity on this side. -/
def PositionSide.sign : PositionSide → Decimal
  | .long => 1
  | .short => -1

namespace Mock

open Netting (Lot)

/-- The side of the position that a fill opens. -/
def fillSide : Side → PositionSide
  | .buy => .long
  | .sell => .short

/-- The quantity of a position, negative if it is short; zero without a position. -/
def signed : Option Position → Decimal
  | none => 0
  | some p => p.side.sign * p.quantity

namespace Trade

/-- The trade as a signed quantity at a price. -/
def lot (t : Trade) : Lot Decimal := ⟨(fillSide t.side).sign * t.quantity, t.price⟩

/-- The positions after the fill. -/
def settle (positions : Table String Position) (t : Trade) : Table String Position :=
  (upsertPosition positions t.symbol t.side t.quantity t.price).1

end Trade

/-- The fills of a symbol. -/
def lotsOf (symbol : String) (fills : List Trade) : List (Lot Decimal) :=
  (fills.filter fun t => t.symbol = symbol).map Trade.lot

/-! ## One fill -/

/-- The position has the quantity and the average price `s`. -/
def Nets (s : Decimal × Decimal) : Option Position → Prop
  | none => s.1 = 0
  | some p => 0 < p.quantity ∧ signed (some p) = s.1 ∧ p.averageEntryPrice = s.2

variable (side : PositionSide) {q held : Decimal} {positions : Table String Position} {t : Trade}
  {s : MockState}

theorem sign_mul_self : side.sign * side.sign = 1 := by
  cases side
  · exact one_mul 1
  · exact neg_mul_neg 1 1 |>.trans (one_mul 1)

theorem abs_sign_mul (hq : 0 < q) : |side.sign * q| = q := by
  cases side
  · rw [PositionSide.sign, one_mul, abs_of_pos hq]
  · rw [PositionSide.sign, neg_one_mul, abs_neg, abs_of_pos hq]

theorem sign_other {side side' : PositionSide} (h : side ≠ side') :
    side'.sign = -side.sign := by
  cases side <;> cases side' <;> first | exact absurd rfl h | rfl

theorem step_added (hheld : 0 < held) (hq : 0 < q) (average price : Decimal) :
    Netting.step (side.sign * held, average) ⟨side.sign * q, price⟩ =
      (side.sign * (held + q), (average * held + price * q) / (held + q)) := by
  have hside : side.sign * held * (side.sign * q) = held * q := by
    rw [mul_mul_mul_comm, sign_mul_self, one_mul]
  rw [Netting.step, hside, if_pos (mul_pos hheld hq), ← mul_add, abs_sign_mul side hheld,
    abs_sign_mul side hq, abs_sign_mul side (add_pos hheld hq)]

/-- A fill on the other side: the position is reduced, or what is left is at the fill's price. -/
theorem step_opposed (hheld : 0 < held) (hq : 0 < q) (average price : Decimal) :
    Netting.step (side.sign * held, average) ⟨-side.sign * q, price⟩ =
      (side.sign * (held - q), if q < held then average else price) := by
  have hside : side.sign * held * (-side.sign * q) = -(held * q) := by
    rw [mul_mul_mul_comm, mul_neg, sign_mul_self, neg_one_mul]
  have hleft : side.sign * held + -side.sign * q =
      side.sign * (held - q) := by
    rw [neg_mul, ← sub_eq_add_neg, mul_sub]
  have hstays : side.sign * held * (side.sign * (held - q)) =
      held * (held - q) := by
    rw [mul_mul_mul_comm, sign_mul_self, one_mul]
  rw [Netting.step, hside, if_neg (not_lt.mpr (neg_nonpos.mpr (mul_pos hheld hq).le)), hleft,
    hstays]
  simp only [mul_pos_iff_of_pos_left hheld, sub_pos]

theorem get_settle_of_ne {symbol : String} (h : symbol ≠ t.symbol) :
    (t.settle positions).get symbol = positions.get symbol := by
  have hinsert : ∀ p, (positions.insert t.symbol p).get symbol = positions.get symbol :=
    fun p => Table.get_insert_ne _ p h
  have hremove : (positions.remove t.symbol).get symbol = positions.get symbol := by
    rw [Table.get_remove, if_neg h]
  unfold Trade.settle upsertPosition
  cases positions.get t.symbol with
  | none => exact hinsert _
  | some p =>
    dsimp only
    split_ifs
    · exact hinsert _
    · exact hinsert _
    · exact hremove
    · exact hinsert _
    · exact hinsert _

/-- The position of the symbol after the fill, if there was one before. -/
theorem get_settle_some {p : Position} (hget : positions.get t.symbol = some p) :
    (t.settle positions).get t.symbol =
      if p.side = fillSide t.side then
        if p.quantity + t.quantity = 0 then some { p with quantity := p.quantity + t.quantity }
        else some { p with
          quantity := p.quantity + t.quantity
          averageEntryPrice := (p.averageEntryPrice * p.quantity + t.price * t.quantity) /
            (p.quantity + t.quantity)
          currentPrice := t.price }
      else if t.quantity ≥ p.quantity then
        if t.quantity - p.quantity = 0 then none
        else some { p with
          side := fillSide t.side
          quantity := t.quantity - p.quantity
          averageEntryPrice := t.price
          currentPrice := t.price }
      else some { p with quantity := p.quantity - t.quantity, currentPrice := t.price } := by
  unfold Trade.settle upsertPosition
  rw [hget]
  cases t.side <;> dsimp only [fillSide] <;> split_ifs <;>
    simp only [Table.get_insert_self, Table.get_remove_self]

theorem get_settle_none (hget : positions.get t.symbol = none) :
    ∃ p, (t.settle positions).get t.symbol = some p ∧ p.side = fillSide t.side ∧
      p.quantity = t.quantity ∧ p.averageEntryPrice = t.price := by
  unfold Trade.settle upsertPosition
  rw [hget]
  refine ⟨_, Table.get_insert_self .., ?_, rfl, rfl⟩
  cases t.side <;> rfl

theorem nets_step {s : Decimal × Decimal} (hq : 0 < t.quantity)
    (hnets : Nets s (positions.get t.symbol)) :
    Nets (Netting.step s t.lot) ((t.settle positions).get t.symbol) := by
  obtain ⟨held, average⟩ := s
  cases hget : positions.get t.symbol with
  | none =>
    rw [hget] at hnets
    obtain rfl : held = 0 := hnets
    obtain ⟨p, hp, hside, hquantity, hprice⟩ := get_settle_none hget
    rw [hp]
    refine ⟨hquantity ▸ hq, ?_, ?_⟩
    · rw [signed, hside, hquantity, Netting.step, zero_add, Trade.lot]
    · simp [hprice, Netting.step, Trade.lot]
  | some p =>
    rw [hget] at hnets
    obtain ⟨hheld, rfl, rfl⟩ := hnets
    rw [get_settle_some hget, signed, Trade.lot]
    by_cases hsame : p.side = fillSide t.side
    · have hsum : 0 < p.quantity + t.quantity := add_pos hheld hq
      rw [if_pos hsame, if_neg hsum.ne', ← hsame, step_added p.side hheld hq]
      exact ⟨hsum, rfl, rfl⟩
    · rw [if_neg hsame, sign_other hsame, step_opposed p.side hheld hq]
      by_cases hclose : t.quantity ≥ p.quantity
      · rw [if_pos hclose, if_neg (not_lt.mpr hclose)]
        by_cases hflat : t.quantity - p.quantity = 0
        · rw [if_pos hflat, sub_eq_zero.mp hflat]
          simp [Nets]
        · rw [if_neg hflat]
          have hleft : 0 < t.quantity - p.quantity :=
            lt_of_le_of_ne (sub_nonneg.mpr hclose) (Ne.symm hflat)
          refine ⟨hleft, ?_, rfl⟩
          rw [signed, sign_other hsame, neg_mul, ← mul_neg, neg_sub]
      · rw [if_neg hclose, if_pos (not_le.mp hclose)]
        exact ⟨sub_pos.mpr (not_le.mp hclose), rfl, rfl⟩

/-! ## Every sequence of fills -/

/-- The positions after the fills, from none. -/
def settleAll (fills : List Trade) : Table String Position := fills.foldl Trade.settle ∅

theorem nets_settleAll (fills : List Trade) (hq : ∀ t ∈ fills, 0 < t.quantity) (symbol : String) :
    Nets (Netting.position (lotsOf symbol fills)) ((settleAll fills).get symbol) := by
  induction fills using List.reverseRecOn with
  | nil => rfl
  | append_singleton fills t ih =>
    have hnets := ih fun t' h => hq t' (List.mem_append_left _ h)
    have ht : 0 < t.quantity := hq t (List.mem_append_right _ (List.mem_singleton_self t))
    rw [settleAll, List.foldl_append, List.foldl_cons, List.foldl_nil, ← settleAll, lotsOf,
      List.filter_append, List.map_append, ← lotsOf]
    by_cases hsymbol : t.symbol = symbol
    · subst hsymbol
      rw [List.filter_cons_of_pos (by simp), List.filter_nil, List.map_cons, List.map_nil,
        Netting.position_concat]
      exact nets_step ht hnets
    · rw [List.filter_cons_of_neg (by simpa using hsymbol), List.filter_nil, List.map_nil,
        List.append_nil, get_settle_of_ne (Ne.symm hsymbol)]
      exact hnets

/-! ## Runs of the provider -/

/-- The positions are the netted trades. -/
def Booked (s : MockState) : Prop := s.positions = settleAll s.trades

theorem Booked.applyFill (h : Booked s) (id symbol : String) (side : Side)
    (quantity fillPrice : Decimal) (tradeId : String) :
    Booked (applyFill s id symbol side quantity fillPrice tradeId).2 := by
  unfold Mock.applyFill
  split
  · exact h
  · split_ifs
    · exact h
    · let t := Trade.ofFill tradeId id symbol side quantity fillPrice
      show t.settle s.positions = settleAll (s.trades ++ [t])
      rw [settleAll, List.foldl_concat, h, settleAll]

theorem Booked.wake (h : Booked s) (a : MockProviderAdapter) (id : String) (fillPrice : Decimal)
    (tradeId : String) : Booked (wake a s id fillPrice tradeId) := by
  have hended (symbol : String) (side : Side) (quantity : Decimal) :
      Booked (endTask id (Mock.applyFill s id symbol side quantity fillPrice tradeId)) := by
    obtain ⟨sent, hend⟩ :=
      endTask_eq id (Mock.applyFill s id symbol side quantity fillPrice tradeId)
    rw [hend]
    exact h.applyFill ..
  unfold Mock.wake
  cases s.tasks.get id with
  | none => exact h
  | some task =>
    cases task with
    | second f remainder => exact hended ..
    | first f =>
      dsimp only
      split
      · exact h
      · cases a.firstTranche f.quantity with
        | none => exact hended ..
        | some tranche =>
          have hfill := h.applyFill id f.symbol f.side tranche fillPrice tradeId
          dsimp only
          split <;> rename_i heq <;> rw [heq] at hfill <;> exact hfill

/-- Until a position is closed by a call, every position is the netted trades of its symbol. -/
theorem nets_exec (a : MockProviderAdapter) {calls : List MockCall}
    (hcalls : ∀ id quantity order trade price,
      MockCall.closePosition id quantity order trade price ∉ calls)
    (hq : ∀ t ∈ (Run.exec (MockCall.step a) .new calls).trades, 0 < t.quantity)
    (symbol : String) :
    Nets (Netting.position (lotsOf symbol (Run.exec (MockCall.step a) .new calls).trades))
      ((Run.exec (MockCall.step a) .new calls).positions.get symbol) := by
  have hbooked : Booked (Run.exec (MockCall.step a) .new calls) := by
    have hmem : Run.Guarded (MockCall.step a) (fun _ call => call ∈ calls) .new calls :=
      Run.guarded_iff.mpr fun before call hp => hp.subset (by simp)
    have hnew : Booked .new := rfl
    refine Run.exec_inv (fun s call h hcall => ?_) hnew hmem
    cases call with
    | submitOrder id request =>
      show Booked (submitOrder a s id request).2
      unfold submitOrder
      split <;> exact h
    | modifyOrder id request =>
      show Booked (modifyOrder s id request).2
      unfold modifyOrder
      split
      · exact h
      · split_ifs
        · exact h
        · dsimp only
          split
          · split_ifs <;> exact h
          · exact h
    | cancelOrder id =>
      show Booked (cancelOrder s id).2
      unfold cancelOrder
      split
      · exact h
      · split_ifs <;> exact h
    | closePosition id quantity order trade price => exact absurd hcall (hcalls _ _ _ _ _)
    | wake id fillPrice tradeId => exact h.wake a id fillPrice tradeId
  rw [hbooked]
  exact nets_settleAll _ hq symbol

/-! ## The ledger -/

/-- The positions after any fills are the netted fills. A symbol has a position exactly if its fills
do not cancel out. The average price is between the prices of two fills that entered it, and is
their mean if none came from the other side; a fill that turned the position around counts with what
it left. -/
theorem netting_ledger (fills : List Trade) (hq : ∀ t ∈ fills, 0 < t.quantity)
    (symbol : String) :
    signed ((settleAll fills).get symbol) = Netting.net (lotsOf symbol fills) ∧
      (((settleAll fills).get symbol).isSome ↔ Netting.net (lotsOf symbol fills) ≠ 0) ∧
      ∀ p, (settleAll fills).get symbol = some p →
        0 < p.quantity ∧
        (∃ l ∈ Netting.entries (lotsOf symbol fills), l.price ≤ p.averageEntryPrice) ∧
        (∃ l ∈ Netting.entries (lotsOf symbol fills), p.averageEntryPrice ≤ l.price) ∧
        ((∀ l ∈ Netting.episode (lotsOf symbol fills),
            0 < Netting.net (lotsOf symbol fills) * l.qty) →
          p.averageEntryPrice = Netting.mean (Netting.remainder
            (Netting.net (lotsOf symbol fills)) (Netting.episode (lotsOf symbol fills)))) := by
  have hnets := nets_settleAll fills hq symbol
  rw [← Netting.position_fst]
  cases hget : (settleAll fills).get symbol with
  | none =>
    rw [hget] at hnets
    have hflat : (Netting.position (lotsOf symbol fills)).1 = 0 := hnets
    simp [signed, hflat]
  | some p =>
    rw [hget] at hnets
    obtain ⟨hheld, hsigned, haverage⟩ := hnets
    have hnet : Netting.net (lotsOf symbol fills) ≠ 0 := by
      rw [← Netting.position_fst, ← hsigned, ← abs_pos, signed, abs_sign_mul p.side hheld]
      exact hheld
    refine ⟨hsigned, ⟨fun _ => Netting.position_fst (lotsOf symbol fills) ▸ hnet, fun _ => rfl⟩, ?_⟩
    rintro _ ⟨rfl⟩
    obtain ⟨hlow, hhigh⟩ := Netting.average_between _ hnet
    rw [haverage, Netting.position_fst]
    exact ⟨hheld, hlow, hhigh, Netting.average_eq_mean _ hnet⟩

/-- Long 5, then short by a larger sale, then short some more. -/
def turnaround : List Trade :=
  [.ofFill "t1" "o1" "EURUSD" .buy 5 90, .ofFill "t2" "o2" "EURUSD" .sell 8 100,
    .ofFill "t3" "o3" "EURUSD" .sell 3 110]

theorem netting_ledger_turnaround :
    (∀ t ∈ turnaround, 0 < t.quantity) ∧
      signed ((settleAll turnaround).get "EURUSD") =
        Netting.net (lotsOf "EURUSD" turnaround) := by
  have hq : ∀ t ∈ turnaround, 0 < t.quantity := by decide +kernel
  exact ⟨hq, (netting_ledger turnaround hq "EURUSD").1⟩

/-- The average price is not the mean of the fills with the whole of the one that turned the
position around. -/
theorem turnaround_not_mean :
    (∀ t ∈ turnaround, 0 < t.quantity ∧ 0 < t.price) ∧
      (∀ l ∈ Netting.episode (lotsOf "EURUSD" turnaround),
        0 < Netting.net (lotsOf "EURUSD" turnaround) * l.qty) ∧
      ((settleAll turnaround).get "EURUSD").map Position.averageEntryPrice = some 105 ∧
      Netting.mean (Netting.entries (lotsOf "EURUSD" turnaround)) = 1130 / 11 := by
  decide +kernel

end Mock

end Gateway
