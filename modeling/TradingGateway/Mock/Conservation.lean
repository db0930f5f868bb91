import Mathlib.Algebra.Order.BigOperators.Group.List
import TradingGateway.Lib.Run
import TradingGateway.Mock.Adapter

/-!
# Conservation of quantities at the mock provider

The filled and the remaining part of an order make up its quantity, and its trades make up the
filled part. The first piece of a fill is fixed when the order is submitted. If the order is made
smaller before the piece lands, more is filled than the order has; if it is made exactly as small as
the first piece, the order is filled and the second piece is an empty trade.

* `quantities_conserved_iff`: the steps of a run conserve quantities exactly if every piece fits.
-/

namespace Gateway.Mock

namespace MockState

variable (s : MockState)

/-- The trades of an order. -/
def tradesOf (orderId : String) : List Trade := s.trades.filter fun t => t.orderId = orderId

/-- The amounts of an order are consistent, and its trades account for what is filled. -/
structure Books (orderId : String) (o : Order) : Prop where
  filled_nonneg : 0 ≤ o.filledQuantity
  filled_le : o.filledQuantity ≤ o.quantity
  split : o.filledQuantity + o.remainingQuantity = o.quantity
  positive : ∀ t ∈ s.tradesOf orderId, 0 < t.quantity
  total : ((s.tradesOf orderId).map Trade.quantity).sum = o.filledQuantity

end MockState

/-- An order that takes no more trades. -/
def isClosed (o : Order) : Prop := o.status = .cancelled ∨ o.status = .filled

/-- After the step the amounts of every order are right, an order that was closed got no trade, and
no task divided by zero. -/
structure Conserves (s s' : MockState) : Prop where
  books : ∀ {id o}, s'.orders.get id = some o → s'.Books id o
  quiet : ∀ {id o}, s.orders.get id = some o → isClosed o → s'.tradesOf id = s.tradesOf id
  unpanicked : s'.panicked = false

/-! ## The invariant -/

/-- What a sleeping task knows of its order still holds. -/
def TaskFits (o : Order) : FillTask → Prop
  | .first f => 0 < f.quantity ∧ o.filledQuantity = 0 ∧ (o.status = .open ∨ o.status = .cancelled)
  | .second _ remainder =>
    remainder = o.remainingQuantity ∧
      (o.status = .partiallyFilled ∧ 0 < remainder ∨ isClosed o)

def AllPositive (positions : Table String Position) : Prop :=
  ∀ {symbol p}, positions.get symbol = some p → 0 < p.quantity

structure Inv (s : MockState) : Prop where
  books : ∀ {id o}, s.orders.get id = some o → s.Books id o
  traded : ∀ t ∈ s.trades, (s.orders.get t.orderId).isSome
  tasked : ∀ {id task}, s.tasks.get id = some task →
    ∃ o, s.orders.get id = some o ∧ TaskFits o task
  positions : AllPositive s.positions
  unpanicked : s.panicked = false

variable {s s' : MockState} {id : String} {o o' : Order} {new : List Trade}

theorem inv_new : Inv .new where
  books h := by cases h
  traded _ h := by cases h
  tasked h := by cases h
  positions h := by cases h
  unpanicked := rfl

/-- A step that only ends tasks, or does nothing. -/
theorem Inv.of_tasks (h : Inv s) (horders : s'.orders = s.orders)
    (hpositions : s'.positions = s.positions) (htrades : s'.trades = s.trades)
    (hpanicked : s'.panicked = s.panicked)
    (htasks : ∀ id task, s'.tasks.get id = some task → s.tasks.get id = some task) :
    Inv s' ∧ Conserves s s' := by
  have hof (id : String) : s'.tradesOf id = s.tradesOf id := by
    rw [MockState.tradesOf, htrades, MockState.tradesOf]
  have hbooks {id : String} {o : Order} (ho : s'.orders.get id = some o) : s'.Books id o := by
    have hold := h.books (horders ▸ ho)
    exact ⟨hold.filled_nonneg, hold.filled_le, hold.split, by rw [hof]; exact hold.positive,
      by rw [hof]; exact hold.total⟩
  refine ⟨⟨hbooks, ?_, fun htask => ?_, ?_, hpanicked.trans h.unpanicked⟩, hbooks,
    fun _ _ => hof _, hpanicked.trans h.unpanicked⟩
  · rw [htrades, horders]
    exact h.traded
  · rw [horders]
    exact h.tasked (htasks _ _ htask)
  · rw [hpositions]
    exact h.positions

/-- The step stores the order `o'` under `id`, with new trades of this order. -/
structure Puts (s s' : MockState) (id : String) (o' : Order) (new : List Trade) : Prop where
  orders : s'.orders = s.orders.insert id o'
  trades : s'.trades = s.trades ++ new
  own : ∀ t ∈ new, t.orderId = id ∧ 0 < t.quantity
  filled_nonneg : 0 ≤ o'.filledQuantity
  filled_le : o'.filledQuantity ≤ o'.quantity
  split : o'.filledQuantity + o'.remainingQuantity = o'.quantity
  total : ((s.tradesOf id).map Trade.quantity).sum + (new.map Trade.quantity).sum =
    o'.filledQuantity
  /-- A closed order gets no trade. -/
  quiet : ∀ o, s.orders.get id = some o → isClosed o → new = []
  others : ∀ id', id' ≠ id → s'.tasks.get id' = s.tasks.get id'
  fits : ∀ task, s'.tasks.get id = some task → TaskFits o' task
  positions : AllPositive s'.positions
  unpanicked : s'.panicked = false

variable (tasks : Table String FillTask) {t : Trade} {positions : Table String Position}
  {p : Position} {quantity : Decimal} {next : FillTask → Prop} {call : MockCall}

theorem Inv.trade_pos (h : Inv s) (ht : t ∈ s.trades) : 0 < t.quantity := by
  obtain ⟨o, ho⟩ := Option.isSome_iff_exists.mp (h.traded t ht)
  refine (h.books ho).positive t ?_
  rw [MockState.tradesOf, List.mem_filter]
  exact ⟨ht, decide_eq_true rfl⟩

theorem Inv.tradesOf_none (h : Inv s) (hid : s.orders.get id = none) : s.tradesOf id = [] := by
  rw [MockState.tradesOf, List.filter_eq_nil_iff]
  intro t ht
  rw [decide_eq_true_eq]
  rintro rfl
  have hsome := h.traded t ht
  rw [hid] at hsome
  cases hsome

namespace Puts

variable (h : Puts s s' id o' new)

include h

theorem tradesOf_self : s'.tradesOf id = s.tradesOf id ++ new := by
  rw [MockState.tradesOf, h.trades, List.filter_append, MockState.tradesOf]
  congr 1
  refine List.filter_eq_self.mpr fun t ht => ?_
  rw [decide_eq_true_eq]
  exact (h.own t ht).1

theorem tradesOf_ne {id' : String} (hne : id' ≠ id) : s'.tradesOf id' = s.tradesOf id' := by
  rw [MockState.tradesOf, h.trades, List.filter_append, MockState.tradesOf]
  refine List.append_right_eq_self.mpr (List.filter_eq_nil_iff.mpr fun t ht => ?_)
  rw [decide_eq_true_eq, (h.own t ht).1]
  exact hne.symm

theorem get_orders (id' : String) :
    s'.orders.get id' = if id' = id then some o' else s.orders.get id' := by
  rw [h.orders, Table.get_insert]

end Puts

/-- What a step stores is all that changes, so the invariant is kept and the step conserves. -/
theorem Inv.puts (hinv : Inv s) (h : Puts s s' id o' new) : Inv s' ∧ Conserves s s' := by
  have hbooks {id' : String} {o : Order} (ho : s'.orders.get id' = some o) : s'.Books id' o := by
    rw [h.get_orders] at ho
    split at ho
    · rename_i heq
      cases ho
      refine ⟨h.filled_nonneg, h.filled_le, h.split, fun t ht => ?_, ?_⟩
      · rw [heq, h.tradesOf_self, List.mem_append] at ht
        rcases ht with ht | ht
        · exact hinv.trade_pos (List.mem_filter.mp ht).1
        · exact (h.own t ht).2
      · rw [heq, h.tradesOf_self, List.map_append, List.sum_append, h.total]
    · rename_i hne
      have hold := hinv.books ho
      exact ⟨hold.filled_nonneg, hold.filled_le, hold.split,
        by rw [h.tradesOf_ne hne]; exact hold.positive,
        by rw [h.tradesOf_ne hne]; exact hold.total⟩
  refine ⟨⟨hbooks, fun t ht => ?_, fun {id' task} htask => ?_, h.positions, h.unpanicked⟩, hbooks,
    fun {id' o} ho hclosed => ?_, h.unpanicked⟩
  · rw [h.get_orders]
    rw [h.trades, List.mem_append] at ht
    rcases ht with ht | ht
    · split
      · rfl
      · exact hinv.traded t ht
    · rw [if_pos (h.own t ht).1]
      rfl
  · rw [h.get_orders]
    by_cases hid : id' = id
    · rw [if_pos hid]
      exact ⟨o', rfl, h.fits task (hid ▸ htask)⟩
    · rw [if_neg hid]
      rw [h.others id' hid] at htask
      exact hinv.tasked htask
  · by_cases hid : id' = id
    · rw [hid] at ho ⊢
      rw [h.tradesOf_self, h.quiet o ho hclosed, List.append_nil]
    · exact h.tradesOf_ne hid

/-! ## Positions -/

theorem AllPositive.insert (h : AllPositive positions) (symbol : String) (hp : 0 < p.quantity) :
    AllPositive (positions.insert symbol p) := by
  intro symbol' p' hget
  rw [Table.get_insert] at hget
  split at hget
  · cases hget
    exact hp
  · exact h hget

theorem AllPositive.remove (h : AllPositive positions) (symbol : String) :
    AllPositive (positions.remove symbol) := by
  intro symbol' p' hget
  rw [Table.get_remove] at hget
  split at hget
  · cases hget
  · exact h hget

/-- A positive fill leaves positive positions, and divides by none that is zero. -/
theorem upsertPosition_positive (h : AllPositive positions) (symbol : String) (side : Side)
    (hq : 0 < quantity) (fillPrice : Decimal) :
    (upsertPosition positions symbol side quantity fillPrice).2 = false ∧
      AllPositive (upsertPosition positions symbol side quantity fillPrice).1 := by
  unfold upsertPosition
  dsimp only
  split
  · rename_i pos hget
    have hpos : 0 < pos.quantity := h hget
    have hsum : 0 < pos.quantity + quantity := add_pos hpos hq
    split_ifs with hside hzero hle hrest
    · exact absurd hzero hsum.ne'
    · exact ⟨rfl, h.insert symbol hsum⟩
    · exact ⟨rfl, h.remove symbol⟩
    · have hover : 0 < quantity - pos.quantity :=
        lt_of_le_of_ne (sub_nonneg.mpr hle) (Ne.symm hrest)
      exact ⟨rfl, h.insert symbol hover⟩
    · have hleft : 0 < pos.quantity - quantity := sub_pos.mpr (not_le.mp hle)
      exact ⟨rfl, h.insert symbol hleft⟩
  · exact ⟨rfl, h.insert symbol hq⟩

/-! ## Fills -/

/-- The fill of a task, and how much it fills when it wakes up. -/
def FillTask.fill : FillTask → Fill
  | .first f | .second f _ => f

def MockProviderAdapter.amount (a : MockProviderAdapter) : FillTask → Decimal
  | .first f => (a.firstTranche f.quantity).getD f.quantity
  | .second _ remainder => remainder

/-- The task fills when it wakes up at this price. -/
def FillTask.fillsAt (task : FillTask) (fillPrice : Decimal) : Bool :=
  match task with
  | .first f => f.shouldFill fillPrice
  | .second .. => true

variable {a : MockProviderAdapter} {task : FillTask} {fillPrice : Decimal} {tradeId : String}

theorem firstTranche_eq_some {tranche : Decimal} (h : a.firstTranche quantity = some tranche) :
    0 < tranche ∧ tranche < quantity :=
  of_decide_eq_true (Option.filter_eq_some_iff.mp h).2

theorem amount_first_pos {f : Fill} (hf : 0 < f.quantity) : 0 < a.amount (.first f) := by
  simp only [MockProviderAdapter.amount]
  cases htranche : a.firstTranche f.quantity with
  | none => exact hf
  | some tranche => exact (firstTranche_eq_some htranche).1

theorem applyFill_gone (hgone : ∀ o, s.orders.get id = some o → o.status = .cancelled)
    (symbol : String) (side : Side) (quantity : Decimal) :
    applyFill s id symbol side quantity fillPrice tradeId = (.gone, s) := by
  unfold applyFill
  cases hget : s.orders.get id with
  | none => rfl
  | some o => exact if_pos (hgone o hget)

theorem applyFill_put (hget : s.orders.get id = some o) (hopen : o.status ≠ .cancelled)
    (symbol : String) (side : Side) (quantity : Decimal) :
    let positions := upsertPosition s.positions symbol side quantity fillPrice
    let order := fillOrder o quantity fillPrice
    applyFill s id symbol side quantity fillPrice tradeId =
      (if positions.2 then .panicked else .filled order,
        { s with
          orders := s.orders.insert id order
          trades := s.trades ++ [.ofFill tradeId id symbol side quantity fillPrice]
          positions := positions.1
          panicked := s.panicked || positions.2 }) := by
  unfold applyFill
  rw [hget]
  exact if_neg hopen

theorem tasks_applyFill (symbol : String) (side : Side) (quantity : Decimal) :
    (applyFill s id symbol side quantity fillPrice tradeId).2.tasks = s.tasks := by
  by_cases hgone : ∀ o, s.orders.get id = some o → o.status = .cancelled
  · rw [applyFill_gone hgone]
  · push Not at hgone
    obtain ⟨o, hget, hopen⟩ := hgone
    rw [applyFill_put hget hopen]

theorem endTask_eq (id : String) (applied : FillOutcome × MockState) :
    ∃ sent, endTask id applied = { applied.2 with tasks := applied.2.tasks.remove id, sent } := by
  obtain ⟨outcome, s'⟩ := applied
  cases outcome with
  | filled order => exact ⟨_, rfl⟩
  | gone => exact ⟨s'.sent, rfl⟩
  | panicked => exact ⟨s'.sent, rfl⟩

/-- The other tasks sleep on, and the task of `id`, if it has not ended, is as `next` says. -/
structure Moves (id : String) (next : FillTask → Prop) (tasks tasks' : Table String FillTask) :
    Prop where
  others : ∀ id', id' ≠ id → tasks'.get id' = tasks.get id'
  own : ∀ task, tasks'.get id = some task → next task

theorem Moves.remove :
    Moves id next tasks (tasks.remove id) where
  others id' hne := by rw [Table.get_remove, if_neg hne]
  own task htask := by cases (Table.get_remove_self ..).symm.trans htask

theorem Moves.insert (h : next task) :
    Moves id next tasks (tasks.insert id task) where
  others id' hne := Table.get_insert_ne _ _ hne
  own task' htask' := by
    cases (Table.get_insert_self ..).symm.trans htask'
    exact h

/-- A task that wakes up and fills: it applies the fill, then it ends or sleeps again. -/
theorem wake_fills (a : MockProviderAdapter) (tradeId : String)
    (htask : s.tasks.get id = some task) (hfills : task.fillsAt fillPrice = true) :
    let applied := applyFill s id task.fill.symbol task.fill.side (a.amount task) fillPrice tradeId
    ∃ tasks sent, wake a s id fillPrice tradeId = { applied.2 with tasks, sent } ∧
      Moves id (fun task' => ∃ f order, applied.1 = .filled order ∧
        task' = .second f order.remainingQuantity) s.tasks tasks := by
  have hended (f : Fill) (quantity : Decimal) (next : FillTask → Prop) :
      let applied := applyFill s id f.symbol f.side quantity fillPrice tradeId
      ∃ tasks sent, endTask id applied = { applied.2 with tasks, sent } ∧
        Moves id next s.tasks tasks := by
    obtain ⟨sent, hend⟩ := endTask_eq id
      (applyFill s id f.symbol f.side quantity fillPrice tradeId)
    rw [tasks_applyFill] at hend
    exact ⟨_, sent, hend, .remove _⟩
  unfold wake
  rw [htask]
  cases task with
  | second f remainder => exact hended f remainder _
  | first f =>
    have hshould : f.shouldFill fillPrice = true := hfills
    simp only [hshould, Bool.true_eq_false, if_false, MockProviderAdapter.amount, FillTask.fill]
    cases htranche : a.firstTranche f.quantity with
    | none => exact hended f f.quantity _
    | some tranche =>
      have htasks :
          (applyFill s id f.symbol f.side tranche fillPrice tradeId).2.tasks = s.tasks :=
        tasks_applyFill ..
      simp only [Option.getD_some]
      cases happlied : applyFill s id f.symbol f.side tranche fillPrice tradeId with
      | mk outcome s₁ =>
        rw [happlied] at htasks
        rw [← htasks]
        cases outcome with
        | filled order => exact ⟨_, _, rfl, .insert _ ⟨f, order, rfl, rfl⟩⟩
        | gone => exact ⟨_, s₁.sent, rfl, .remove _⟩
        | panicked => exact ⟨_, s₁.sent, rfl, .remove _⟩

/-! ## A task that wakes up -/

/-- What a task needs of its order when it wakes up: the first piece is not more than the order
has, and the order is not filled before the rest. -/
def PieceFits (a : MockProviderAdapter) (fillPrice : Decimal) (o : Order) : FillTask → Prop
  | .first f => f.shouldFill fillPrice = true → a.amount (.first f) ≤ o.quantity
  | .second .. => o.status ≠ .filled

instance : Decidable (PieceFits a fillPrice o task) := by
  cases task <;> unfold PieceFits <;> infer_instance

/-- The task of an order that is not cancelled fits it. -/
def Fits (a : MockProviderAdapter) (s : MockState) (id : String) (fillPrice : Decimal) : Prop :=
  ∀ task ∈ s.tasks.get id, ∀ o ∈ s.orders.get id,
    o.status ≠ .cancelled → PieceFits a fillPrice o task

instance : Decidable (Fits a s id fillPrice) := by
  unfold Fits
  infer_instance

/-- A task that fits has a positive amount, which the order has room for. -/
theorem Inv.room (hinv : Inv s) (htask : s.tasks.get id = some task)
    (hget : s.orders.get id = some o) (hopen : o.status ≠ .cancelled)
    (hfills : task.fillsAt fillPrice = true) (hfits : Fits a s id fillPrice) :
    0 < a.amount task ∧ o.filledQuantity + a.amount task ≤ o.quantity ∧ o.status ≠ .filled := by
  obtain ⟨o', hget', htaskFits⟩ := hinv.tasked htask
  cases hget.symm.trans hget'
  have hroom := hfits task htask o hget hopen
  cases task with
  | first f =>
    obtain ⟨hf, hzero, hstatus⟩ := htaskFits
    refine ⟨amount_first_pos hf, ?_, ?_⟩
    · rw [hzero, zero_add]
      exact hroom hfills
    · rw [hstatus.resolve_right hopen]
      decide
  | second f remainder =>
    obtain ⟨hremainder, hstatus⟩ := htaskFits
    obtain ⟨-, hpos⟩ := hstatus.resolve_right fun hclosed => hclosed.elim hopen hroom
    refine ⟨hpos, ?_, hroom⟩
    show o.filledQuantity + remainder ≤ o.quantity
    rw [hremainder, (hinv.books hget).split]

theorem Inv.puts_fill (hinv : Inv s) (hget : s.orders.get id = some o)
    (hopen : o.status ≠ .cancelled) (hnotfilled : o.status ≠ .filled) {quantity : Decimal}
    (hpos : 0 < quantity) (hroom : o.filledQuantity + quantity ≤ o.quantity)
    (horders : s'.orders = s.orders.insert id (fillOrder o quantity fillPrice)) {t : Trade}
    (htrades : s'.trades = s.trades ++ [t]) (ht : t.orderId = id ∧ t.quantity = quantity)
    (hothers : ∀ id', id' ≠ id → s'.tasks.get id' = s.tasks.get id')
    (hnext : ∀ task, s'.tasks.get id = some task →
      ∃ f, task = .second f (fillOrder o quantity fillPrice).remainingQuantity)
    (hpositions : AllPositive s'.positions) (hpanicked : s'.panicked = false) :
    Puts s s' id (fillOrder o quantity fillPrice) [t] where
  orders := horders
  trades := htrades
  own t' ht' := by
    rw [List.mem_singleton] at ht'
    rw [ht', ht.2]
    exact ⟨ht.1, hpos⟩
  filled_nonneg := add_nonneg (hinv.books hget).filled_nonneg hpos.le
  filled_le := hroom
  split := add_sub_cancel _ _
  total := by
    rw [(hinv.books hget).total, List.map_singleton, List.sum_singleton, ht.2]
    rfl
  quiet o' hget' hclosed := by
    cases hget.symm.trans hget'
    exact absurd hclosed (not_or.mpr ⟨hopen, hnotfilled⟩)
  others := hothers
  fits task htask := by
    obtain ⟨f, rfl⟩ := hnext task htask
    refine ⟨rfl, ?_⟩
    by_cases hmore : o.quantity - (o.filledQuantity + quantity) > 0
    · exact .inl ⟨if_pos hmore, hmore⟩
    · exact .inr (.inr (if_neg hmore))
  positions := hpositions
  unpanicked := hpanicked

theorem inv_wake (hinv : Inv s) (hfits : Fits a s id fillPrice) (tradeId : String) :
    Inv (wake a s id fillPrice tradeId) ∧ Conserves s (wake a s id fillPrice tradeId) := by
  cases htask : s.tasks.get id with
  | none =>
    have hsame : wake a s id fillPrice tradeId = s := by rw [wake, htask]
    rw [hsame]
    exact hinv.of_tasks rfl rfl rfl rfl fun _ _ h => h
  | some task =>
    by_cases hfills : task.fillsAt fillPrice = true
    swap
    · -- the price condition is not met
      cases task with
      | second f remainder => exact absurd rfl hfills
      | first f =>
        have hwake : wake a s id fillPrice tradeId = { s with tasks := s.tasks.remove id } := by
          rw [wake, htask]
          exact if_pos (Bool.eq_false_of_not_eq_true hfills)
        rw [hwake]
        refine hinv.of_tasks rfl rfl rfl rfl fun id' task' htask' => ?_
        rw [Table.get_remove] at htask'
        split at htask'
        · cases htask'
        · exact htask'
    obtain ⟨tasks, sent, hwake, hothers, hnext⟩ := wake_fills a tradeId htask hfills
    rw [hwake]
    by_cases hgone : ∀ o, s.orders.get id = some o → o.status = .cancelled
    · rw [applyFill_gone hgone] at hnext ⊢
      refine hinv.of_tasks rfl rfl rfl rfl fun id' task' htask' => ?_
      by_cases hid : id' = id
      · rw [hid] at htask'
        obtain ⟨f, order, hfilled, -⟩ := hnext task' htask'
        cases hfilled
      · exact (hothers id' hid).symm.trans htask'
    · push Not at hgone
      obtain ⟨o, hget, hopen⟩ := hgone
      obtain ⟨hpos, hroom, hnotfilled⟩ := hinv.room htask hget hopen hfills hfits
      obtain ⟨hsafe, hpositive⟩ := upsertPosition_positive hinv.positions task.fill.symbol
        task.fill.side hpos fillPrice
      rw [applyFill_put hget hopen] at hnext ⊢
      refine hinv.puts (hinv.puts_fill hget hopen hnotfilled hpos hroom rfl rfl ⟨rfl, rfl⟩ hothers
        (fun task' htask' => ?_) hpositive ?_)
      · obtain ⟨f, order, hfilled, rfl⟩ := hnext task' htask'
        simp only [hsafe, Bool.false_eq_true, if_false, FillOutcome.filled.injEq] at hfilled
        exact ⟨f, by rw [hfilled]⟩
      · show (s.panicked || _) = false
        rw [hinv.unpanicked, hsafe]
        rfl

/-- A piece that does not fit shows: more is filled than the order has, or a filled order gets a
trade. -/
theorem fits_of_conserves (hinv : Inv s) (h : Conserves s (wake a s id fillPrice tradeId)) :
    Fits a s id fillPrice := by
  intro task htask o hget hopen
  obtain ⟨o', hget', htaskFits⟩ := hinv.tasked htask
  cases hget.symm.trans hget'
  have hput (hfills : task.fillsAt fillPrice = true) :
      (wake a s id fillPrice tradeId).orders.get id =
          some (fillOrder o (a.amount task) fillPrice) ∧
        (wake a s id fillPrice tradeId).trades = s.trades ++
          [.ofFill tradeId id task.fill.symbol task.fill.side (a.amount task) fillPrice] := by
    obtain ⟨tasks, sent, hwake, -⟩ := wake_fills a tradeId htask hfills
    rw [hwake, applyFill_put hget hopen]
    exact ⟨Table.get_insert_self .., rfl⟩
  cases task with
  | first f =>
    intro hshould
    have hle : o.filledQuantity + a.amount (.first f) ≤ o.quantity :=
      (h.books (hput hshould).1).filled_le
    rwa [htaskFits.2.1, zero_add] at hle
  | second f remainder =>
    intro hfilled
    have hquiet := h.quiet hget (.inr hfilled)
    rw [MockState.tradesOf, (hput rfl).2, List.filter_append, MockState.tradesOf,
      List.append_right_eq_self, List.filter_eq_nil_iff] at hquiet
    exact hquiet _ List.mem_cons_self (decide_eq_true rfl)

/-! ## Calls -/

/-- The id of a new order is not in use, and quantities are positive. -/
def Legal (s : MockState) : MockCall → Prop
  | .submitOrder orderId request => s.orders.get orderId = none ∧ 0 < request.quantity
  | .modifyOrder _ request => ∀ quantity ∈ request.quantity, 0 < quantity
  | .closePosition _ quantity orderId _ _ =>
    s.orders.get orderId = none ∧ ∀ q ∈ quantity, 0 < q
  | _ => True

instance (call : MockCall) : Decidable (Legal s call) := by
  cases call <;> unfold Legal <;> infer_instance

theorem Inv.same (hinv : Inv s) : Inv s ∧ Conserves s s :=
  hinv.of_tasks rfl rfl rfl rfl fun _ _ h => h

/-- A call that stores a new order, which is filled by the trades that come with it. -/
theorem Inv.puts_new (hinv : Inv s) (hnew : s.orders.get id = none)
    (horders : s'.orders = s.orders.insert id o') (htrades : s'.trades = s.trades ++ new)
    (hown : ∀ t ∈ new, t.orderId = id ∧ 0 < t.quantity)
    (htotal : (new.map Trade.quantity).sum = o'.filledQuantity)
    (hle : o'.filledQuantity ≤ o'.quantity)
    (hsplit : o'.filledQuantity + o'.remainingQuantity = o'.quantity)
    (hothers : ∀ id', id' ≠ id → s'.tasks.get id' = s.tasks.get id')
    (hfits : ∀ task, s'.tasks.get id = some task → TaskFits o' task)
    (hpositions : AllPositive s'.positions) (hpanicked : s'.panicked = false) :
    Puts s s' id o' new where
  orders := horders
  trades := htrades
  own := hown
  filled_nonneg := by
    rw [← htotal]
    refine List.sum_nonneg fun quantity hmem => ?_
    obtain ⟨t, ht, rfl⟩ := List.mem_map.mp hmem
    exact (hown t ht).2.le
  filled_le := hle
  split := hsplit
  total := by rw [hinv.tradesOf_none hnew, List.map_nil, List.sum_nil, zero_add, htotal]
  quiet o hget _ := by cases hnew.symm.trans hget
  others := hothers
  fits := hfits
  positions := hpositions
  unpanicked := hpanicked

theorem inv_submitOrder (hinv : Inv s) {request : OrderRequest} (hnew : s.orders.get id = none)
    (hpos : 0 < request.quantity) :
    Inv (submitOrder a s id request).2 ∧ Conserves s (submitOrder a s id request).2 := by
  unfold submitOrder
  split
  · exact hinv.same
  · refine hinv.puts (hinv.puts_new hnew rfl (List.append_nil _).symm
      nofun rfl hpos.le (zero_add _) (fun id' hne => Table.get_insert_ne _ _ hne)
      (fun task htask => ?_) hinv.positions hinv.unpanicked)
    cases (Table.get_insert_self ..).symm.trans htask
    exact ⟨hpos, rfl, .inl rfl⟩

/-- A call that stores an order of which as much is filled as before. -/
theorem Inv.puts_order (hinv : Inv s) (hget : s.orders.get id = some o)
    (horders : s'.orders = s.orders.insert id o') (htrades : s'.trades = s.trades)
    (htasks : s'.tasks = s.tasks) (hpositions : s'.positions = s.positions)
    (hpanicked : s'.panicked = s.panicked) (hfilled : o'.filledQuantity = o.filledQuantity)
    (hle : o'.filledQuantity ≤ o'.quantity)
    (hsplit : o'.filledQuantity + o'.remainingQuantity = o'.quantity)
    (hfits : ∀ task, TaskFits o task → TaskFits o' task) : Puts s s' id o' [] where
  orders := horders
  trades := by rw [htrades, List.append_nil]
  own := nofun
  filled_nonneg := hfilled ▸ (hinv.books hget).filled_nonneg
  filled_le := hle
  split := hsplit
  total := by
    rw [(hinv.books hget).total, hfilled, List.map_nil, List.sum_nil, add_zero]
  quiet _ _ _ := rfl
  others id' _ := by rw [htasks]
  fits task htask := by
    rw [htasks] at htask
    obtain ⟨o₁, hget₁, htaskFits⟩ := hinv.tasked htask
    cases hget.symm.trans hget₁
    exact hfits task htaskFits
  positions := by
    rw [hpositions]
    exact hinv.positions
  unpanicked := hpanicked.trans hinv.unpanicked

theorem inv_modifyOrder (hinv : Inv s) (request : ModifyOrderRequest) :
    Inv (modifyOrder s id request).2 ∧ Conserves s (modifyOrder s id request).2 := by
  unfold modifyOrder
  cases hget : s.orders.get id with
  | none => exact hinv.same
  | some o =>
    have hold := hinv.books hget
    dsimp only
    split_ifs with hstatus
    · exact hinv.same
    · have hopen : o.status = .open := not_not.mp hstatus
      -- only a task before its first fill can sleep
      have hfits {o' : Order} (hfilled : o'.filledQuantity = o.filledQuantity)
          (hkeeps : o'.status = o.status) (task : FillTask) (h : TaskFits o task) :
          TaskFits o' task := by
        cases task with
        | first f => exact ⟨h.1, hfilled.trans h.2.1, hkeeps ▸ h.2.2⟩
        | second f remainder =>
          rcases h.2 with ⟨hpartly, -⟩ | hcancelled | hclosed
          · cases hopen.symm.trans hpartly
          · cases hopen.symm.trans hcancelled
          · cases hopen.symm.trans hclosed
      cases request.quantity with
      | none =>
        exact hinv.puts (hinv.puts_order hget rfl rfl rfl rfl rfl rfl hold.filled_le hold.split
          (hfits rfl rfl))
      | some qty =>
        dsimp only
        split_ifs with hless
        · exact hinv.puts (hinv.puts_order hget rfl rfl rfl rfl rfl rfl hold.filled_le hold.split
            (hfits rfl rfl))
        · exact hinv.puts (hinv.puts_order hget rfl rfl rfl rfl rfl rfl (not_lt.mp hless)
            (add_sub_cancel _ _) (hfits rfl rfl))

theorem inv_cancelOrder (hinv : Inv s) :
    Inv (cancelOrder s id).2 ∧ Conserves s (cancelOrder s id).2 := by
  unfold cancelOrder
  cases hget : s.orders.get id with
  | none => exact hinv.same
  | some o =>
    have hold := hinv.books hget
    dsimp only
    split_ifs with hfilled
    · exact hinv.same
    · refine hinv.puts (hinv.puts_order hget rfl rfl rfl rfl rfl rfl hold.filled_le hold.split
        fun task h => ?_)
      cases task with
      | first f => exact ⟨h.1, h.2.1, .inr rfl⟩
      | second f remainder => exact ⟨h.1, .inr (.inl rfl)⟩

theorem AllPositive.close (h : AllPositive positions) {key : String} (hle : quantity ≤ p.quantity) :
    AllPositive (if quantity = p.quantity then positions.remove key
      else positions.insert key { p with quantity := p.quantity - quantity }) := by
  split_ifs with hall
  · exact h.remove key
  · exact h.insert key (sub_pos.mpr (lt_of_le_of_ne hle hall))

theorem inv_closePosition (hinv : Inv s) (positionId : String) {quantity : Option Decimal}
    (hnew : s.orders.get id = none) (hpos : ∀ q ∈ quantity, 0 < q) :
    Inv (closePosition s positionId quantity id tradeId fillPrice).2 ∧
      Conserves s (closePosition s positionId quantity id tradeId fillPrice).2 := by
  unfold closePosition
  split
  · exact hinv.same
  · rename_i key position hfind
    have hposition : 0 < position.quantity :=
      hinv.positions (Table.mem_toList.mp (List.mem_of_find?_eq_some hfind))
    have hclose : 0 < min (quantity.getD position.quantity) position.quantity := by
      refine lt_min ?_ hposition
      cases quantity with
      | none => exact hposition
      | some q => exact hpos q rfl
    refine hinv.puts (hinv.puts_new hnew rfl rfl (fun t ht => ?_) (List.sum_singleton ..) le_rfl
      (add_zero _) (fun _ _ => rfl) (fun task htask => ?_)
      (AllPositive.close hinv.positions (min_le_right _ _)) hinv.unpanicked)
    · rw [List.mem_singleton] at ht
      rw [ht]
      exact ⟨rfl, hclose⟩
    · -- no task sleeps for an order that is not there
      obtain ⟨o, hget, -⟩ := hinv.tasked htask
      cases hnew.symm.trans hget

/-! ## Runs -/

/-- The pieces of a fill fit their order when they land. -/
def FitsTranche (a : MockProviderAdapter) (s : MockState) : MockCall → Prop
  | .wake id fillPrice _ => Fits a s id fillPrice
  | _ => True

instance (call : MockCall) : Decidable (FitsTranche a s call) := by
  cases call <;> unfold FitsTranche <;> infer_instance

theorem inv_step (hinv : Inv s) (hlegal : Legal s call) (hfits : FitsTranche a s call) :
    Inv (call.step a s) ∧ Conserves s (call.step a s) := by
  cases call with
  | submitOrder orderId request => exact inv_submitOrder hinv hlegal.1 hlegal.2
  | modifyOrder orderId request => exact inv_modifyOrder hinv request
  | cancelOrder orderId => exact inv_cancelOrder hinv
  | closePosition positionId quantity orderId tradeId fillPrice =>
    exact inv_closePosition hinv positionId hlegal.1 hlegal.2
  | wake orderId fillPrice tradeId => exact inv_wake hinv hfits tradeId

theorem fitsTranche_of_conserves (hinv : Inv s) (h : Conserves s (call.step a s)) :
    FitsTranche a s call := by
  cases call with
  | wake orderId fillPrice tradeId => exact fits_of_conserves hinv h
  | _ => trivial

/-- Every step of a run conserves quantities exactly if, whenever a fill task wakes up, its first
piece is not more than the order has, and the order is not yet filled before the rest. -/
theorem quantities_conserved_iff (a : MockProviderAdapter) {calls : List MockCall}
    (hlegal : Run.Guarded (MockCall.step a) Legal .new calls) :
    (∀ before call, before ++ [call] <+: calls →
      Conserves (Run.exec (MockCall.step a) .new before)
        (call.step a (Run.exec (MockCall.step a) .new before))) ↔
      Run.Guarded (MockCall.step a) (FitsTranche a) .new calls := by
  have hiff : Run.Guarded (MockCall.step a) (fun s call => Conserves s (call.step a s)) .new calls ↔
      Run.Guarded (MockCall.step a) (FitsTranche a) .new calls := by
    refine Run.guarded_congr_of_inv (I := Inv)
      (fun s call hinv hl hfits => (inv_step hinv hl hfits).1) (fun s call hinv hl => ?_) inv_new
      hlegal
    exact ⟨fitsTranche_of_conserves hinv, fun hfits => (inv_step hinv hl hfits).2⟩
  exact Run.guarded_iff.symm.trans hiff

/-! ## Orders that are resized -/

/-- A provider that fills half of an order first. -/
def halves : MockProviderAdapter :=
  (MockProviderAdapter.new fun _ => "").withPartialFillRatio (1 / 2)

def marketOrder (side : Side) (quantity : Decimal) : OrderRequest :=
  { symbol := "AAPL", side, quantity, orderType := .market }

/-- An order over 10 units is made smaller, to 8, before its pieces of 5 and then 3 are filled. -/
def shrunk : List MockCall :=
  [.submitOrder "o" (marketOrder .buy 10), .modifyOrder "o" { quantity := some 8 },
    .wake "o" 100 "t₁"]

theorem quantities_conserved_shrunk :
    Conserves (Run.exec (MockCall.step halves) .new shrunk)
      (Run.exec (MockCall.step halves) .new (shrunk ++ [.wake "o" 101 "t₂"])) :=
  (quantities_conserved_iff halves (by decide +kernel)).mpr (by decide +kernel) shrunk
    (.wake "o" 101 "t₂") List.prefix_rfl

/-- Filled in one piece of 10, after the order was made smaller. -/
def overfilled : List MockCall :=
  [.submitOrder "o" (marketOrder .buy 10), .modifyOrder "o" { quantity := some 4 },
    .wake "o" 100 "t"]

/-- The first half of 5 fills all of an order that was made as small as this half; the rest is
empty. -/
def emptied : List MockCall :=
  [.submitOrder "o" (marketOrder .buy 10), .modifyOrder "o" { quantity := some 5 },
    .wake "o" 100 "t₁", .wake "o" 100 "t₂"]

/-- Short 2 units, then 5 of 10 units are bought by an order that was made smaller, to 2. The rest
is 3 less than nothing, and the position is long 3. -/
def reversed : List MockCall :=
  [.submitOrder "s" (marketOrder .sell 2), .wake "s" 100 "t₁", .wake "s" 100 "t₂",
    .submitOrder "o" (marketOrder .buy 10), .modifyOrder "o" { quantity := some 2 },
    .wake "o" 100 "t₃", .wake "o" 100 "t₄"]

/-- An order that is resized is filled with more than it has, gets an empty trade when it is filled,
or ends its task by a division by zero. -/
theorem resized_orders_not_conserved :
    (Run.Guarded (MockCall.step (.new fun _ => "")) Legal .new overfilled ∧
      ¬ Conserves (Run.exec (MockCall.step (.new fun _ => "")) .new (overfilled.take 2))
        (Run.exec (MockCall.step (.new fun _ => "")) .new overfilled)) ∧
    (Run.Guarded (MockCall.step halves) Legal .new emptied ∧
      ¬ Conserves (Run.exec (MockCall.step halves) .new (emptied.take 3))
        (Run.exec (MockCall.step halves) .new emptied)) ∧
    (Run.Guarded (MockCall.step halves) Legal .new reversed ∧
      (Run.exec (MockCall.step halves) .new reversed).panicked = true) := by
  refine ⟨⟨by decide +kernel, fun h => ?_⟩, ⟨by decide +kernel, fun h => ?_⟩, by decide +kernel,
    by decide +kernel⟩
  · have hamounts :
        ((Run.exec (MockCall.step (.new fun _ => "")) .new overfilled).orders.get "o").map
          (fun o => (o.quantity, o.filledQuantity)) = some (4, 10) := by
      decide +kernel
    obtain ⟨o, hget, hpair⟩ := Option.map_eq_some_iff.mp hamounts
    obtain ⟨hquantity, hfilled⟩ := Prod.mk.inj hpair
    have hle := (h.books hget).filled_le
    rw [hquantity, hfilled] at hle
    exact absurd hle (by decide)
  · have hstatus :
        ((Run.exec (MockCall.step halves) .new (emptied.take 3)).orders.get "o").map Order.status =
          some .filled := by
      decide +kernel
    obtain ⟨o, hget, hfilled⟩ := Option.map_eq_some_iff.mp hstatus
    exact absurd (h.quiet hget (.inr hfilled)) (by decide +kernel)

end Gateway.Mock
