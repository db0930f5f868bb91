import TradingGateway.Trailing.Race

/-!
# Does a symbol's tracking task live as long as it is needed?

The entries of a symbol share one tracking task, which is stored with a refcount. An entry takes its
reference when it starts to follow the price (`spawnTrackingTask`), and a cancellation gives one
back (`decrementSymbolTask`). Nothing records whether an entry has a reference:

* the cancellation of an entry that waits for its order or its feed gives back a reference that the
  entry never took, so the task of the other entries ends too early;
* an entry whose first stop is refused becomes `failed` and keeps its reference, and so does one
  that a second registration of its order replaces, so the task never ends.

`task_counted_iff`: the refcount is the number of users after each call of a run exactly if no call
of the run is of these kinds (`KeepsCount`).
-/

namespace Gateway.Trailing

open Routine Run

variable {β : Type} {c : Ctx β}

/-- The entry follows the price of the symbol. -/
def TrailingEntry.follows (symbol : String) (e : TrailingEntry) : Bool :=
  e.symbol = symbol && e.status.isActive

theorem TrailingEntry.follows_setStatus (symbol : String) (e : TrailingEntry)
    (status : TrailingEntryStatus) :
    (e.setStatus status).follows symbol = (decide (e.symbol = symbol) && status.isActive) := rfl

namespace TrailingStopHandler

/-- The number of entries of a symbol that are `tracking` or `active`. -/
def users (h : TrailingStopHandler) (symbol : String) : ℕ :=
  h.entriesByPlaceholder.count (TrailingEntry.follows symbol)

/-- The refcount that is stored for a symbol. -/
def refcount (h : TrailingStopHandler) (symbol : String) : ℕ :=
  (h.symbolTasks.get symbol).elim 0 SymbolTask.refcount

/-- The symbol has a tracking task that was not cancelled. -/
def HasTask (h : TrailingStopHandler) (symbol : String) : Prop :=
  ∃ task, h.symbolTasks.get symbol = some task ∧ task.token ∉ h.cancelledTokens

/-- The symbol's tracking task is counted right. -/
structure Counted (h : TrailingStopHandler) (symbol : String) : Prop where
  refcount : h.refcount symbol = h.users symbol
  task : h.HasTask symbol ↔ 0 < h.users symbol

/-! ## The stored tasks -/

/-- No stored task is unused or cancelled, and no two of them share a token. -/
structure Tidy (h : TrailingStopHandler) : Prop where
  used : ∀ {s task}, h.symbolTasks.get s = some task → 0 < task.refcount
  made : ∀ {s task}, h.symbolTasks.get s = some task → task.token < h.tokens
  uncancelled : ∀ {s task}, h.symbolTasks.get s = some task → task.token ∉ h.cancelledTokens
  own : ∀ {s s' task task'}, h.symbolTasks.get s = some task →
    h.symbolTasks.get s' = some task' → task.token = task'.token → s = s'
  past : ∀ {n}, n ∈ h.cancelledTokens → n < h.tokens

variable {h h' : TrailingStopHandler} {task : SymbolTask}

/-- In a tidy handler the refcount tells if there is a task. -/
theorem Tidy.counted_iff (ht : h.Tidy) (symbol : String) :
    h.Counted symbol ↔ h.refcount symbol = h.users symbol := by
  refine ⟨Counted.refcount, fun heq => ⟨heq, ?_⟩⟩
  rw [← heq, refcount]
  constructor
  · rintro ⟨task, htask, -⟩
    rw [htask]
    exact ht.used htask
  · intro hpos
    cases htask : h.symbolTasks.get symbol with
    | none => simp [htask] at hpos
    | some task => exact ⟨task, htask, ht.uncancelled htask⟩

/-- The stored tasks of the two handlers are the same. -/
structure SameTasks (h h' : TrailingStopHandler) : Prop where
  tasks : h'.symbolTasks = h.symbolTasks
  tokens : h'.tokens = h.tokens
  cancelled : h'.cancelledTokens = h.cancelledTokens

theorem SameTasks.tidy (hs : SameTasks h h') (ht : h.Tidy) : h'.Tidy := by
  obtain ⟨htasks, htokens, hcancelled⟩ := hs
  constructor
  · rw [htasks]; exact ht.used
  · rw [htasks, htokens]; exact ht.made
  · rw [htasks, hcancelled]; exact ht.uncancelled
  · rw [htasks]; exact ht.own
  · rw [htokens, hcancelled]; exact ht.past

theorem SameTasks.refcount (hs : SameTasks h h') (symbol : String) :
    h'.refcount symbol = h.refcount symbol := by
  rw [TrailingStopHandler.refcount, hs.tasks, TrailingStopHandler.refcount]

theorem Tidy.new : TrailingStopHandler.new.Tidy where
  used h := by cases h
  made h := by cases h
  uncancelled h := by cases h
  own h := by cases h
  past h := by cases h

theorem Tidy.recount (ht : h.Tidy) {symbol : String} (htask : h.symbolTasks.get symbol = some task)
    {n : ℕ} (hn : 0 < n) :
    Tidy { h with symbolTasks := h.symbolTasks.insert symbol { task with refcount := n } } := by
  -- every task has the token of the task that was stored at its symbol
  have hold : ∀ {s task'}, (h.symbolTasks.insert symbol { task with refcount := n }).get s =
      some task' → 0 < task'.refcount ∧ ∃ task₀, h.symbolTasks.get s = some task₀ ∧
        task'.token = task₀.token := by
    intro s task' hget
    rw [Table.get_insert] at hget
    split at hget
    · rename_i hs
      cases hget
      exact ⟨hn, task, by rw [hs]; exact htask, rfl⟩
    · exact ⟨ht.used hget, task', hget, rfl⟩
  constructor
  · intro s task' hget
    exact (hold hget).1
  · intro s task' hget
    obtain ⟨-, task₀, hget₀, heq⟩ := hold hget
    rw [heq]
    exact ht.made hget₀
  · intro s task' hget
    obtain ⟨-, task₀, hget₀, heq⟩ := hold hget
    rw [heq]
    exact ht.uncancelled hget₀
  · intro s s' task₁ task₂ hget₁ hget₂ heq
    obtain ⟨-, task₀, hget₀, heq₀⟩ := hold hget₁
    obtain ⟨-, task₀', hget₀', heq₀'⟩ := hold hget₂
    exact ht.own hget₀ hget₀' (heq₀.symm.trans (heq.trans heq₀'))
  · exact ht.past

theorem Tidy.store (ht : h.Tidy) (symbol : String) :
    Tidy { h with
      symbolTasks := h.symbolTasks.insert symbol ⟨h.tokens, 1⟩
      tokens := h.tokens + 1 } := by
  have hcases : ∀ {s task}, (h.symbolTasks.insert symbol ⟨h.tokens, 1⟩).get s = some task →
      (s = symbol ∧ task = ⟨h.tokens, 1⟩) ∨ h.symbolTasks.get s = some task := by
    intro s task hget
    rw [Table.get_insert] at hget
    split at hget
    · rename_i hs
      cases hget
      exact .inl ⟨hs, rfl⟩
    · exact .inr hget
  constructor
  · intro s task hget
    obtain ⟨-, rfl⟩ | hget := hcases hget
    · exact Nat.one_pos
    · exact ht.used hget
  · intro s task hget
    obtain ⟨-, rfl⟩ | hget := hcases hget
    · exact Nat.lt_succ_self _
    · exact Nat.lt_succ_of_lt (ht.made hget)
  · intro s task hget hmem
    obtain ⟨-, rfl⟩ | hget := hcases hget
    · exact Nat.lt_irrefl _ (ht.past hmem)
    · exact ht.uncancelled hget hmem
  · intro s s' task task' hget hget' heq
    obtain ⟨rfl, rfl⟩ | hold := hcases hget <;> obtain ⟨rfl, rfl⟩ | hold' := hcases hget'
    · rfl
    · exact absurd (ht.made hold') (by rw [← heq]; exact Nat.lt_irrefl _)
    · exact absurd (ht.made hold) (by rw [heq]; exact Nat.lt_irrefl _)
    · exact ht.own hold hold' heq
  · intro n hn
    exact Nat.lt_succ_of_lt (ht.past hn)

theorem Tidy.forget (ht : h.Tidy) (symbol : String) :
    Tidy { h with symbolTasks := h.symbolTasks.remove symbol } := by
  have hold : ∀ {s task}, (h.symbolTasks.remove symbol).get s = some task →
      h.symbolTasks.get s = some task := by
    intro s task hget
    rw [Table.get_remove] at hget
    split at hget
    · cases hget
    · exact hget
  exact ⟨fun hget => ht.used (hold hget), fun hget => ht.made (hold hget),
    fun hget => ht.uncancelled (hold hget), fun hget hget' => ht.own (hold hget) (hold hget'),
    ht.past⟩

theorem Tidy.stop (ht : h.Tidy) {symbol : String} (htask : h.symbolTasks.get symbol = some task) :
    Tidy { h with
      symbolTasks := h.symbolTasks.remove symbol
      cancelledTokens := task.token :: h.cancelledTokens } := by
  have hforget := ht.forget symbol
  refine ⟨hforget.used, hforget.made, ?_, hforget.own, ?_⟩
  · intro s task' hget hmem
    have hne : s ≠ symbol := by
      rintro rfl
      rw [Table.get_remove_self] at hget
      cases hget
    have hget' : h.symbolTasks.get s = some task' := by
      simpa [Table.get_remove, hne] using hget
    obtain heq | hmem := List.mem_cons.mp hmem
    · exact hne (ht.own hget' htask heq)
    · exact ht.uncancelled hget' hmem
  · intro n hn
    obtain rfl | hn := List.mem_cons.mp hn
    · exact ht.made htask
    · exact ht.past hn

/-! ## Users -/

section users

variable (h : TrailingStopHandler) (symbol : String)

theorem users_insertEntry (e : TrailingEntry) :
    (h.insertEntry e).users symbol + ((h.getEntry e.placeholderId).any (·.follows symbol)).toNat =
      h.users symbol + (e.follows symbol).toNat :=
  Table.count_insert ..

variable {h symbol} {k : String} {e : TrailingEntry}
  {f : TrailingEntry → Option TrailingEntryStatus} {status : TrailingEntryStatus}

theorem users_updateStatus (symbol : String) (he : h.getEntry k = some e) (hf : f e = some status) :
    (h.updateStatus k f).users symbol + (e.follows symbol).toNat =
      h.users symbol + ((e.setStatus status).follows symbol).toNat := by
  have hcount : (h.updateStatus k f).users symbol + _ = _ :=
    h.entriesByPlaceholder.count_modify (TrailingEntry.follows symbol) k _
  have he' : h.entriesByPlaceholder.get k = some e := he
  simp only [he', Option.any_some, hf] at hcount
  exact hcount

/-- A change of status between those that follow the price, or between those that do not. -/
theorem users_updateStatus_same
    (hf : ∀ e status, h.getEntry k = some e → f e = some status →
      status.isActive = e.status.isActive) :
    (h.updateStatus k f).users symbol = h.users symbol := by
  cases he : h.getEntry k with
  | none =>
    have hsame : h.entriesByPlaceholder.get k = none := he
    simp only [users, updateStatus, modifyEntry, Table.modify, hsame]
  | some e =>
    cases hfe : f e with
    | none =>
      have hcount : (h.updateStatus k f).users symbol + _ = _ :=
        h.entriesByPlaceholder.count_modify (TrailingEntry.follows symbol) k _
      have he' : h.entriesByPlaceholder.get k = some e := he
      simp only [he', Option.any_some, hfe, Nat.add_right_cancel_iff] at hcount
      exact hcount
    | some status =>
      have hcount := users_updateStatus symbol he hfe
      have hsame : (e.setStatus status).follows symbol = e.follows symbol := by
        rw [TrailingEntry.follows_setStatus, hf e status he hfe, TrailingEntry.follows]
      rw [hsame] at hcount
      exact Nat.add_right_cancel hcount

end users

end TrailingStopHandler

open TrailingStopHandler (SameTasks)

/-! ## Steps that do not count -/

/-- From `w` to `w'` the refcount of the symbol stayed and it lost `n` of its users. -/
structure Loses (symbol : String) (n : ℕ) (w w' : World β) : Prop where
  tidy : w.handler.Tidy → w'.handler.Tidy
  refcount : w'.handler.refcount symbol = w.handler.refcount symbol
  users : w'.handler.users symbol + n = w.handler.users symbol

/-- From `w` to `w'` neither the refcount of the symbol nor the number of its users changed. -/
abbrev Still (symbol : String) (w w' : World β) : Prop := Loses symbol 0 w w'

variable {symbol : String} {w w' w'' : World β} {n : ℕ}

theorem Loses.trans (h : Still symbol w w') (h' : Loses symbol n w' w'') : Loses symbol n w w'' :=
  ⟨fun ht => h'.tidy (h.tidy ht), h'.refcount.trans h.refcount, h'.users.trans h.users⟩

theorem Loses.still (h : Loses symbol n w w') (h' : Still symbol w' w'') : Loses symbol n w w'' :=
  ⟨fun ht => h'.tidy (h.tidy ht), h'.refcount.trans h.refcount,
    (congrArg (· + n) h'.users).trans h.users⟩

namespace Still

theorem of_handler (h : w'.handler = w.handler) : Still symbol w w' := by
  constructor
  · rw [h]; exact id
  · rw [h]
  · rw [h, Nat.add_zero]

theorem of_sameTasks (h : SameTasks w.handler w'.handler)
    (hu : w'.handler.users symbol = w.handler.users symbol) : Still symbol w w' :=
  ⟨h.tidy, h.refcount symbol, hu⟩

theorem refl : Still symbol w w := of_handler rfl

theorem bind {α α' : Type} {t : TrailM β α} {g : α → TrailM β α'}
    (h : ∀ w, Still symbol w (t.run w).2) (h' : ∀ a w, Still symbol w ((g a).run w).2)
    (w : World β) : Still symbol w ((t >>= g).run w).2 := by
  rw [run_bind]
  exact (h w).trans (h' _ _)

theorem updateStatus (w : World β) {k : String} {f : TrailingEntry → Option TrailingEntryStatus}
    (hf : ∀ e status, w.handler.getEntry k = some e → f e = some status →
      status.isActive = e.status.isActive) :
    Still symbol w { w with handler := w.handler.updateStatus k f } :=
  of_sameTasks ⟨rfl, rfl, rfl⟩ (TrailingStopHandler.users_updateStatus_same hf)

end Still

section still

variable (symbol : String)

theorem handler_placeStopOrder (ph : String) (r : StopOrderRequest) (w : World β) :
    ((placeStopOrder c ph r).run w).2.handler = w.handler := by
  rw [placeStopOrder, run_call]
  dsimp only
  split <;> rfl

theorem handler_modifyStopOrder (ph : String) (r : ModifyStopRequest) (w : World β) :
    ((modifyStopOrder c ph r).run w).2.handler = w.handler := by
  rw [modifyStopOrder, run_call]
  dsimp only
  split <;> rfl

theorem handler_cancelStopOrder (ph orderId sym : String) (w : World β) :
    ((cancelStopOrder c ph orderId sym).run w).2.handler = w.handler := by
  rw [cancelStopOrder, run_call]
  dsimp only
  split <;> rfl

theorem still_recordStopOrderFailure (w : World β) :
    Still symbol w ((recordStopOrderFailure c).run w).2 :=
  .of_sameTasks ⟨rfl, rfl, rfl⟩ rfl

theorem still_modifyHandler_updateStatus {k : String}
    {f : TrailingEntry → Option TrailingEntryStatus}
    (hf : ∀ e status, f e = some status → status.isActive = e.status.isActive) (w : World β) :
    Still symbol w ((modifyHandler fun h => h.updateStatus k f).run w).2 :=
  .updateStatus w fun e status _ => hf e status

theorem isActive_movedStatus (orderId : String) (stopPrice : Decimal) {e : TrailingEntry}
    {status : TrailingEntryStatus} (h : movedStatus orderId stopPrice e = some status) :
    status.isActive = e.status.isActive := by
  unfold movedStatus at h
  cases hs : e.status <;> rw [hs] at h <;> cases h
  rfl

/-- Whatever the executor answers, a modification leaves the entry active. -/
theorem still_adjustStopOrder (ph stopOrderId sym : String) (level : Decimal) (side : Side)
    (quantity : Decimal) (w : World β) :
    Still symbol w ((adjustStopOrder c ph stopOrderId sym level side quantity).run w).2 := by
  have hmoved := fun (orderId : String) (stopPrice : Decimal) =>
    still_modifyHandler_updateStatus (β := β) symbol (k := ph)
      (fun e status => isActive_movedStatus orderId stopPrice)
  refine Still.bind (fun _ => .refl) (fun isOpen w => ?_) w
  cases isOpen with
  | true => exact .refl
  | false =>
    refine Still.bind (fun w => .of_handler (handler_modifyStopOrder ..)) (fun result w => ?_) w
    cases result with
    | ok placed => exact Still.bind (hmoved _ _) (fun _ _ => .refl) w
    | error e =>
      refine Still.bind (still_recordStopOrderFailure symbol) (fun _ w => ?_) w
      refine Still.bind (fun w => .of_handler (run_getStopOrderStatus w _ _ _).2.1)
        (fun answer w => ?_) w
      cases answer with
      | error _ => exact .refl
      | ok status =>
        dsimp only
        split
        · exact Still.bind (hmoved _ _) (fun _ _ => .refl) w
        · exact .refl

end still

/-! ## Prices -/

/-- The executor refuses a stop, and the breaker does not hold it back. -/
def refusesStop (c : Ctx β) (w : World β) (r : StopOrderRequest) : Bool :=
  !w.handler.isCircuitBreakerOpen && !(c.executor.placeStopOrder r w.outside).1.isOk

/-- The price `x` makes the entry at `ph` ask for its first stop, which is refused. -/
def losesUser (c : Ctx β) (symbol : String) (x : Decimal) (w : World β) (ph : String) : Bool :=
  (w.handler.getEntry ph).any fun e =>
    match priceUpdateAction e x with
    | some (.placeStop sym side quantity stopLevel _) =>
      e.follows symbol && refusesStop c w ⟨sym, side, quantity, stopLevel, stopLevel⟩
    | _ => false

section prices

variable (symbol : String)

variable (ph sym : String) (x : Decimal)

/-- Only an entry that still tracks gets the new peak, and it keeps tracking. -/
theorem still_newPeak (newPeak : Decimal) (w : World β) :
    Still symbol w ((modifyHandler fun h => h.updateStatus ph fun entry => match entry.status with
      | .tracking _ _ => some (.tracking newPeak (entry.calculateStop newPeak))
      | _ => none).run w).2 := by
  refine still_modifyHandler_updateStatus symbol (fun e status hf => ?_) w
  cases hs : e.status <;> rw [hs] at hf <;> cases hf
  rfl

theorem isOk_placeStopOrder (r : StopOrderRequest) (w : World β) :
    ((placeStopOrder c ph r).run w).1.isOk = (c.executor.placeStopOrder r w.outside).1.isOk := by
  rw [placeStopOrder, run_call]
  cases h : (c.executor.placeStopOrder r w.outside).1 <;> simp only [h]

/-- The tracking entry becomes active, keeps tracking, or becomes failed and is lost as a user. -/
theorem loses_handlePlaceStopAction {w : World β} {ph : String} {e : TrailingEntry}
    (he : w.handler.getEntry ph = some e) (hact : e.status.isActive = true) (sym : String)
    (side : Side) (quantity stopLevel newPeak : Decimal) :
    Loses symbol
      (e.follows symbol && refusesStop c w ⟨sym, side, quantity, stopLevel, stopLevel⟩).toNat w
      ((handlePlaceStopAction c ph sym side quantity stopLevel newPeak).run w).2 := by
  unfold handlePlaceStopAction placeInitialStop refusesStop
  rw [run_bind, run_bind, run_readHandler]
  cases hopen : w.handler.isCircuitBreakerOpen with
  | true =>
    simp only [if_true, Bool.not_true, Bool.false_and, Bool.and_false]
    exact still_newPeak symbol ph newPeak w
  | false =>
    simp only [Bool.false_eq_true, if_false, Bool.not_false, Bool.true_and]
    have hcall := handler_placeStopOrder (c := c) ph ⟨sym, side, quantity, stopLevel, stopLevel⟩ w
    rw [← isOk_placeStopOrder ph, run_bind]
    generalize (placeStopOrder c ph ⟨sym, side, quantity, stopLevel, stopLevel⟩).run w = r at hcall
    obtain ⟨result, v⟩ := r
    have hv : v.handler.getEntry ph = some e := by rw [← he]; exact congrArg (·.getEntry ph) hcall
    have hfirst : Still symbol w v := .of_handler hcall
    cases result with
    | ok placed =>
      simp only [Except.isOk, Except.toBool, Bool.not_true, Bool.and_false]
      refine hfirst.trans (Still.updateStatus v fun e' status he' hs => ?_)
      cases hv.symm.trans he'
      cases hs
      exact hact.symm
    | error err =>
      simp only [Except.isOk, Except.toBool, Bool.not_false, Bool.and_true]
      refine ((hfirst.trans (still_recordStopOrderFailure (c := c) symbol v)).trans
        ⟨?_, ?_, ?_⟩).still (still_newPeak symbol ph newPeak _)
      · exact SameTasks.tidy ⟨rfl, rfl, rfl⟩
      · exact SameTasks.refcount ⟨rfl, rfl, rfl⟩ symbol
      · have hcount := TrailingStopHandler.users_updateStatus symbol
          (h := ((recordStopOrderFailure c).run v).2.handler)
          (f := fun _ => some (.failed err.display 0)) hv rfl
        rw [TrailingEntry.follows_setStatus] at hcount
        simpa [TrailingEntryStatus.isActive] using hcount

theorem loses_updateEntry (ph : String) (w : World β) :
    Loses symbol (losesUser c symbol x w ph).toNat w ((updateEntry c x ph).run w).2 := by
  rw [updateEntry, run_bind, run_readHandler, losesUser]
  cases he : w.handler.getEntry ph with
  | none => exact Still.refl
  | some e =>
    simp only [Option.any_some]
    cases hact : priceUpdateAction e x with
    | none => exact Still.refl
    | some action =>
      cases action with
      | placeStop sym side quantity stopLevel newPeak =>
        have hactive : e.status.isActive = true := by
          cases hs : e.status <;> first | rfl | simp [priceUpdateAction, hs] at hact
        exact loses_handlePlaceStopAction symbol he hactive ..
      | adjustStop stopOrderId sym side quantity level newPeak =>
        refine Still.bind (fun v => still_adjustStopOrder (c := c) symbol ..)
          (fun result v => ?_) w
        split
        · refine still_modifyHandler_updateStatus symbol (fun e status hf => ?_) v
          cases hs : e.status <;> rw [hs] at hf <;> cases hf
          rfl
        · exact .refl
      | updateStateOnly newPeak level =>
        refine still_modifyHandler_updateStatus symbol (fun e status hf => ?_) w
        cases hs : e.status <;> rw [hs] at hf <;> cases hf <;> rfl

/-- The entries that a price is for. -/
def priceKeys (sym : String) (w : World β) : List String :=
  w.handler.selectEntries fun e => e.symbol = sym ∧ e.status.isActive

theorem run_onPriceUpdate_eq (w : World β) :
    ((onPriceUpdate c sym x).run w).2 =
      exec (fun w ph => ((updateEntry c x ph).run w).2) w (priceKeys sym w) := by
  simp only [onPriceUpdate, run_bind, run_readHandler, run_updateEntries, priceKeys,
    pure_eq, run_ret]

/-- No placement of a price is refused to a user of the symbol. -/
def placesAll (c : Ctx β) (symbol sym : String) (x : Decimal) (w : World β) : Prop :=
  Guarded (fun w ph => ((updateEntry c x ph).run w).2)
    (fun w ph => losesUser c symbol x w ph = false) w (priceKeys sym w)

instance (sym : String) (x : Decimal) (w : World β) : Decidable (placesAll c symbol sym x w) :=
  inferInstanceAs (Decidable (Guarded ..))

/-- A price keeps the refcount, and the users exactly if no placement is refused. -/
theorem run_onPriceUpdate_users (w : World β) : let w' := ((onPriceUpdate c sym x).run w).2
    (w.handler.Tidy → w'.handler.Tidy) ∧
      w'.handler.refcount symbol = w.handler.refcount symbol ∧
      (w'.handler.users symbol = w.handler.users symbol ↔ placesAll c symbol sym x w) := by
  rw [run_onPriceUpdate_eq]
  have hstep := fun (v : World β) (ph : String) => loses_updateEntry (c := c) symbol x ph v
  refine ⟨fun ht => ?_, ?_, ?_⟩
  · exact exec_inv_all (I := fun v => v.handler.Tidy) (fun v ph => (hstep v ph).tidy) ht _
  · exact exec_inv_all
      (I := fun v => v.handler.refcount symbol = w.handler.refcount symbol)
      (fun v ph hv => (hstep v ph).refcount.trans hv) rfl _
  · refine measure_exec_eq_iff (I := fun _ => True)
      (m := fun v : World β => v.handler.users symbol) (fun _ _ _ => trivial) ?_ ?_ trivial
    · intro v ph _
      exact Nat.le.intro (hstep v ph).users
    · intro v ph _
      have husers := (hstep v ph).users
      cases hlose : losesUser c symbol x v ph with
      | false =>
        rw [hlose] at husers
        exact iff_of_true husers rfl
      | true =>
        rw [hlose, Bool.toNat_true] at husers
        exact iff_of_false (by omega) Bool.noConfusion

end prices

/-! ## Activation -/

section activation

variable (symbol : String)

theorem run_spawnTrackingTask (hself : c.selfRef = true) (sym : String) (w : World β) :
    let w' := ((spawnTrackingTask c sym).run w).2
    (w.handler.Tidy → w'.handler.Tidy) ∧
      w'.handler.refcount symbol =
        w.handler.refcount symbol + (decide (sym = symbol)).toNat ∧
      w'.handler.entriesByPlaceholder = w.handler.entriesByPlaceholder := by
  simp only [spawnTrackingTask, hself, if_true, run_modifyHandler]
  cases htask : w.handler.symbolTasks.get sym with
  | none =>
    refine ⟨fun ht => ht.store sym, ?_, rfl⟩
    by_cases hs : symbol = sym <;>
      simp [TrailingStopHandler.refcount, Table.get_insert, htask, hs, Ne.symm]
  | some task =>
    refine ⟨fun ht => ht.recount htask (Nat.succ_pos _), ?_, rfl⟩
    by_cases hs : symbol = sym <;>
      simp [TrailingStopHandler.refcount, Table.get_insert, htask, hs, Ne.symm]

theorem handler_activationPrice (sym : String) (w : World β) :
    ((activationPrice c sym).run w).2.handler = w.handler := by
  obtain ⟨b, hb⟩ := run_activationPrice (c := c) sym w
  rw [hb]

/-- A started entry took a reference of its symbol's task; a failed activation took none. -/
theorem run_tryActivateTracking_tasks (hself : c.selfRef = true) (e : TrailingEntry) (w : World β) :
    let r := (tryActivateTracking c e).run w
    (w.handler.Tidy → r.2.handler.Tidy) ∧
      r.2.handler.entriesByPlaceholder = w.handler.entriesByPlaceholder ∧
      r.2.handler.refcount symbol =
        w.handler.refcount symbol + (r.1.isOk && decide (e.symbol = symbol)).toNat := by
  simp only [tryActivateTracking, run_bind]
  have hprice := handler_activationPrice (c := c) e.symbol
    ((outsideCall (c.priceSource.ensureSubscribed e.symbol)).run w).2
  generalize (activationPrice c e.symbol).run
    ((outsideCall (c.priceSource.ensureSubscribed e.symbol)).run w).2 = r at hprice
  obtain ⟨price, v⟩ := r
  have hv : v.handler = w.handler := hprice
  cases price with
  | error err =>
    simp only [pure_eq, run_ret, hv]
    exact ⟨id, trivial, by simp [Except.isOk, Except.toBool]⟩
  | ok a =>
    obtain ⟨htidy, hcount, hentries⟩ := run_spawnTrackingTask symbol hself e.symbol v
    rw [hv] at htidy hcount hentries
    simp only [run_bind, pure_eq, run_ret, Except.isOk, Except.toBool,
      Bool.true_and]
    exact ⟨htidy, hentries, hcount⟩

/-- From `w` to `w'` the refcount of the symbol and the number of its users rose together. -/
structure Rises (symbol : String) (w w' : World β) : Prop where
  tidy : w.handler.Tidy → w'.handler.Tidy
  rise : ∃ n, w'.handler.refcount symbol = w.handler.refcount symbol + n ∧
    w'.handler.users symbol = w.handler.users symbol + n

theorem Still.rises {w w' : World β} (h : Still symbol w w') : Rises symbol w w' :=
  ⟨h.tidy, 0, h.refcount, h.users⟩

theorem Rises.trans {w w' w'' : World β} (h : Rises symbol w w') (h' : Rises symbol w' w'') :
    Rises symbol w w'' := by
  obtain ⟨n, hr, hu⟩ := h.rise
  obtain ⟨n', hr', hu'⟩ := h'.rise
  exact ⟨fun ht => h'.tidy (h.tidy ht), n + n', by omega, by omega⟩

theorem not_follows_of_isPending {e : TrailingEntry} (h : e.status.isPending = true) :
    e.follows symbol = false := by
  cases hs : e.status <;>
    simp_all [TrailingEntry.follows, TrailingEntryStatus.isPending, TrailingEntryStatus.isActive]

theorem users_congr {h h' : TrailingStopHandler}
    (heq : h'.entriesByPlaceholder = h.entriesByPlaceholder) :
    h'.users symbol = h.users symbol := by
  rw [TrailingStopHandler.users, heq, TrailingStopHandler.users]

/-- After an activation the entry gets a status that follows the price exactly if tracking
started. -/
theorem Rises.activated (hself : c.selfRef = true) {w : World β} {e : TrailingEntry}
    (hp : e.follows symbol = false) {h' : TrailingStopHandler} {status : TrailingEntryStatus}
    (hstatus : status.isActive = ((tryActivateTracking c e).run w).1.isOk)
    (htasks : SameTasks ((tryActivateTracking c e).run w).2.handler h')
    (husers : h'.users symbol + (e.follows symbol).toNat =
      ((tryActivateTracking c e).run w).2.handler.users symbol +
        ((e.setStatus status).follows symbol).toNat) :
    Rises symbol w { ((tryActivateTracking c e).run w).2 with handler := h' } := by
  obtain ⟨htidy, hentries, hcount⟩ := run_tryActivateTracking_tasks symbol hself e w
  refine ⟨fun ht => htasks.tidy (htidy ht), _, (htasks.refcount symbol).trans hcount, ?_⟩
  rw [hp, users_congr symbol hentries, TrailingEntry.follows_setStatus, hstatus, Bool.and_comm]
    at husers
  exact husers

/-- A fill starts the tracking of an entry that waited, and takes a reference for it. -/
theorem rises_onPrimaryFilled (hself : c.selfRef = true) (p : String) (fillPrice : Decimal)
    (w : World β) : Rises symbol w ((onPrimaryFilled c p fillPrice).run w).2 := by
  have hrun := filledRun_onPrimaryFilled (c := c) p fillPrice w
  generalize (onPrimaryFilled c p fillPrice).run w = r at hrun
  -- the copy goes back to the place of the entry
  have hinsert {ph : String} {e : TrailingEntry} (he : w.handler.getEntry ph = some e)
      (status : TrailingEntryStatus) :
      (((tryActivateTracking c e).run w).2.handler.insertEntry (e.setStatus status)).users symbol +
          (e.follows symbol).toNat =
        ((tryActivateTracking c e).run w).2.handler.users symbol +
          ((e.setStatus status).follows symbol).toNat := by
    have hcount := ((tryActivateTracking c e).run w).2.handler.users_insertEntry symbol
      (e.setStatus status)
    have hold : ((tryActivateTracking c e).run w).2.handler.getEntry
        (e.setStatus status).placeholderId = some e := by
      rw [(run_tryActivateTracking (c := c) e w).1.entry]
      exact (congrArg w.handler.getEntry (w.handler.keyed he)).trans he
    rwa [hold, Option.any_some] at hcount
  cases hrun with
  | ignored => exact Still.refl.rises
  | failed hph he hp hr err' =>
    obtain ⟨htidy, hentries, hcount⟩ := run_tryActivateTracking_tasks (c := c) symbol hself _ w
    rw [hr] at hcount
    exact ⟨htidy, 0, hcount, users_congr symbol hentries⟩
  | waiting hph he hp hr hwait =>
    obtain ⟨reason, rfl⟩ := handleActivationFailure_ok hwait
    exact Rises.activated symbol hself (not_follows_of_isPending symbol hp) (by rw [hr]; rfl)
      ⟨rfl, rfl, rfl⟩ (hinsert he _)
  | started hph he hp hr =>
    obtain ⟨-, ⟨err, herr⟩ | ⟨a, ha⟩⟩ := run_tryActivateTracking (c := c) _ w
    · cases hr.symm.trans herr
    · cases hr.symm.trans ha
      exact Rises.activated symbol hself (not_follows_of_isPending symbol hp) (by rw [hr]; rfl)
        ⟨rfl, rfl, rfl⟩ (hinsert he _)

theorem rises_recoverRun (hself : c.selfRef = true) {w w' : World β} {ph : String}
    (h : RecoverRun c ph w w')
    (hu : ∀ e, w.handler.getEntry ph = some e → e.status.isUnavailable = true) :
    Rises symbol w w' := by
  have hpending {e : TrailingEntry} (he : w.handler.getEntry ph = some e) :
      e.follows symbol = false := by
    refine not_follows_of_isPending symbol ?_
    have hun := hu e he
    cases hs : e.status <;> rw [hs] at hun <;> first | rfl | cases hun
  cases h with
  | idle => exact Still.refl.rises
  | expired he =>
    refine (Still.updateStatus w fun e' status he' hf => ?_).rises
    cases hf
    have hun := hu e' he'
    cases hs : e'.status <;> rw [hs] at hun <;> first | rfl | cases hun
  | @failedAgain e err he hr now =>
    obtain ⟨htidy, hentries, hcount⟩ := run_tryActivateTracking_tasks (c := c) symbol hself e w
    rw [hr] at hcount
    generalize ((tryActivateTracking c e).run w).2 = v at htidy hentries hcount ⊢
    refine ⟨fun ht => SameTasks.tidy (h := v.handler) ⟨rfl, rfl, rfl⟩ (htidy ht), 0, hcount, ?_⟩
    rw [← users_congr symbol hentries]
    refine Table.count_congr fun k => ?_
    -- a failed recovery changes the count of failures, not the kind of the status
    have hsame (e' : TrailingEntry) :
        (failedRecovery now e').follows symbol = e'.follows symbol := by
      unfold failedRecovery
      split
      · rename_i hs
        simp [TrailingEntry.follows, TrailingEntryStatus.isActive, hs]
      · rfl
    simp only [TrailingStopHandler.modifyEntry, Table.get_modify]
    split
    · rename_i hk
      subst hk
      cases v.handler.entriesByPlaceholder.get k <;> simp [hsame]
    · rfl
  | @recovered e e' he hr =>
    obtain ⟨hq, ⟨err, herr⟩ | ⟨a, ha⟩⟩ := run_tryActivateTracking (c := c) e w
    · cases hr.symm.trans herr
    · cases hr.symm.trans ha
      have hv : ((tryActivateTracking c e).run w).2.handler.getEntry ph = some e :=
        (hq.entry ph).trans he
      simp only [storeRecovered, run_step, hv, hu e he, if_true]
      exact Rises.activated symbol hself (hpending he) (by rw [hr]; rfl) ⟨rfl, rfl, rfl⟩
        (TrailingStopHandler.users_updateStatus symbol hv rfl)

theorem rises_retryUnavailableEntries (hself : c.selfRef = true) (w : World β) :
    Rises symbol w ((retryUnavailableEntries c).run w).2 := by
  simp only [retryUnavailableEntries, run_bind, run_readHandler, run_tryRecoverEntries]
  have hsel : ∀ k ∈ w.handler.selectEntries fun e => e.status.isUnavailable,
      ∀ e, w.handler.getEntry k = some e → e.status.isUnavailable = true := by
    intro k hk e he
    obtain ⟨e', he', hu⟩ := w.handler.mem_selectEntries.mp hk
    cases he.symm.trans he'
    exact hu
  have hnodup := w.handler.nodup_selectEntries fun e => e.status.isUnavailable
  generalize RecoveryStats.mk _ 0 0 0 0 = stats
  generalize w.handler.selectEntries _ = keys at hsel hnodup
  -- each key is served once, so the entries of the later keys are as they were selected
  induction keys generalizing stats w with
  | nil => exact Still.refl.rises
  | cons ph rest ih =>
    rw [List.nodup_cons] at hnodup
    have hfirst := rises_recoverRun symbol hself (recoverRun_tryRecoverEntry stats w ph)
      (hsel ph List.mem_cons_self)
    have honly := onlyAt_tryRecoverEntry (c := c) stats w ph
    refine hfirst.trans symbol (ih _ _ (fun k hk e he => ?_) hnodup.2)
    rw [honly.entry k (fun h => hnodup.1 (h ▸ hk))] at he
    exact hsel k (List.mem_cons_of_mem _ hk) e he

end activation

/-! ## The feed closes -/

section feed

variable (symbol : String)

theorem getEntry_onPriceSourceDisconnected (sym : String) (w : World β) (k : String) :
    ((onPriceSourceDisconnected sym).run w).2.handler.getEntry k =
      (w.handler.getEntry k).map fun e =>
        if e.symbol = sym ∧ e.status.isActive then e.setStatus (disconnectedStatus e) else e := by
  cases he : w.handler.getEntry k with
  | some e => exact (run_onPriceSourceDisconnected sym ⟨he, rfl⟩).entry
  | none =>
    simp only [onPriceSourceDisconnected, run_bind, run_readHandler, run_modifyHandler,
      run_disconnectEntries]
    refine exec_inv_all (I := fun v : World β => v.handler.getEntry k = none)
      (fun v k' hv => ?_) he _
    by_cases hk : k = k'
    · subst hk
      exact v.handler.getEntry_updateStatus_none hv _
    · exact (v.handler.getEntry_updateStatus_ne hk _).trans hv

/-- The task of the symbol is forgotten, and none of its entries follows the price. -/
theorem run_onPriceSourceDisconnected_tasks (sym : String) (w : World β) :
    let w' := ((onPriceSourceDisconnected sym).run w).2
    (w.handler.Tidy → w'.handler.Tidy) ∧
      if sym = symbol then w'.handler.refcount symbol = 0 ∧ w'.handler.users symbol = 0
      else w'.handler.refcount symbol = w.handler.refcount symbol ∧
        w'.handler.users symbol = w.handler.users symbol := by
  intro w'
  have hentry := getEntry_onPriceSourceDisconnected sym w
  have hfollow (e : TrailingEntry) : ¬ (e.setStatus (disconnectedStatus e)).follows symbol := by
    simp [TrailingEntry.follows_setStatus, disconnectedStatus, TrailingEntryStatus.isActive]
  obtain ⟨v, hv, htasks⟩ : ∃ v : TrailingStopHandler, SameTasks w.handler v ∧
      w'.handler = { v with symbolTasks := v.symbolTasks.remove sym } := by
    refine ⟨((disconnectEntries (w.handler.selectEntries fun e =>
      e.symbol = sym ∧ e.status.isActive)).run w).2.handler, ?_, ?_⟩
    rotate_left
    · simp only [w', onPriceSourceDisconnected, run_bind, run_readHandler,
        run_modifyHandler]
    rw [run_disconnectEntries]
    refine exec_inv_all (I := fun v : World β => SameTasks w.handler v.handler)
      (fun v k hv => ?_) ⟨rfl, rfl, rfl⟩ _
    exact ⟨hv.tasks, hv.tokens, hv.cancelled⟩
  refine ⟨fun ht => by rw [htasks]; exact (hv.tidy ht).forget sym, ?_⟩
  split
  · rename_i hs
    subst hs
    refine ⟨by simp [htasks, TrailingStopHandler.refcount], Table.count_eq_zero fun k => ?_⟩
    have hk : w'.handler.entriesByPlaceholder.get k = _ := hentry k
    rw [hk]
    cases w.handler.getEntry k with
    | none => rfl
    | some e =>
      simp only [Option.map_some, Option.any_some]
      split
      · exact Bool.eq_false_iff.mpr (hfollow e)
      · rename_i hn
        simpa [TrailingEntry.follows] using hn
  · rename_i hs
    constructor
    · rw [htasks, ← hv.refcount symbol]
      simp [TrailingStopHandler.refcount, Table.get_remove, Ne.symm hs]
    · refine Table.count_congr fun k => ?_
      have hk : w'.handler.entriesByPlaceholder.get k = _ := hentry k
      rw [hk]
      change _ = (w.handler.getEntry k).any _
      cases w.handler.getEntry k with
      | none => rfl
      | some e =>
        simp only [Option.map_some, Option.any_some]
        split
        · rename_i hsel
          rw [Bool.eq_false_iff.mpr (hfollow e)]
          simp [TrailingEntry.follows, hsel.1, hs]
        · rfl

end feed

/-! ## Cancellation -/

section cancellation

variable (symbol : String)

theorem run_decrementSymbolTask (sym : String) (w : World β) :
    let w' := ((decrementSymbolTask sym).run w).2
    (w.handler.Tidy → w'.handler.Tidy) ∧
      w'.handler.refcount symbol =
        w.handler.refcount symbol - (decide (sym = symbol)).toNat ∧
      w'.handler.entriesByPlaceholder = w.handler.entriesByPlaceholder := by
  simp only [decrementSymbolTask, run_modifyHandler]
  cases htask : w.handler.symbolTasks.get sym with
  | none =>
    refine ⟨id, ?_, rfl⟩
    by_cases hs : symbol = sym <;> simp [TrailingStopHandler.refcount, htask, hs, Ne.symm]
  | some task =>
    by_cases hlast : task.refcount - 1 = 0
    · simp only [hlast, if_true]
      refine ⟨fun ht => ht.stop htask, ?_, trivial⟩
      by_cases hs : symbol = sym <;>
        simp [TrailingStopHandler.refcount, Table.get_remove, htask, hlast, hs, Ne.symm]
    · simp only [hlast, if_false]
      refine ⟨fun ht => ht.recount htask (Nat.pos_of_ne_zero hlast), ?_, trivial⟩
      by_cases hs : symbol = sym <;>
        simp [TrailingStopHandler.refcount, Table.get_insert, htask, hs, Ne.symm]

/-- A cancellation gives a reference back, whether or not the entry has one. -/
theorem run_cancel_tasks (ph : String) (reason : CancellationReason) (w : World β) :
    let w' := ((cancel ph reason).run w).2
    (w.handler.Tidy → w'.handler.Tidy) ∧
      match w.handler.getEntry ph with
      | none => w' = w
      | some e =>
        if e.status.isTerminal then w' = w
        else w'.handler.refcount symbol =
            w.handler.refcount symbol - (decide (e.symbol = symbol)).toNat ∧
          w'.handler.users symbol + (e.follows symbol).toNat = w.handler.users symbol := by
  simp only [cancel, run_bind, markCancelled, run_step]
  cases he : w.handler.getEntry ph with
  | none => exact ⟨id, rfl⟩
  | some e =>
    by_cases ht : e.status.isTerminal = true
    · simp only [ht, if_true]
      exact ⟨id, rfl⟩
    · simp only [ht, Bool.false_eq_true, if_false, run_bind, run_modifyHandler,
        pure_eq, run_ret]
      have hmark := TrailingStopHandler.users_updateStatus symbol
        (f := fun _ => some (.cancelled reason)) he rfl
      rw [TrailingEntry.follows_setStatus] at hmark
      simp only [TrailingEntryStatus.isActive, Bool.and_false, Bool.toNat_false,
        Nat.add_zero] at hmark
      obtain ⟨htidy, hcount, hentries⟩ := run_decrementSymbolTask symbol e.symbol
        { w with
          handler := { w.handler.updateStatus ph (fun _ => some (.cancelled reason)) with
            entriesByPrimary := (w.handler.updateStatus ph fun _ =>
              some (.cancelled reason)).entriesByPrimary.remove e.primaryOrderId } }
      refine ⟨fun ht => htidy (SameTasks.tidy (h := w.handler) ⟨rfl, rfl, rfl⟩ ht), hcount, ?_⟩
      rw [users_congr symbol hentries]
      exact hmark

/-- The stop at the provider is of no account here. -/
theorem handler_cancelAsync (ph : String) (reason : CancellationReason) (w : World β) :
    ((cancelAsync c ph reason).run w).2.handler = ((cancel ph reason).run w).2.handler := by
  have hcongr (v : World β) (hv : v.handler = w.handler) :
      ((cancel ph reason).run v).2.handler = ((cancel ph reason).run w).2.handler := by
    simp only [cancel, run_bind, markCancelled, run_step, hv]
    cases w.handler.getEntry ph with
    | none => exact hv
    | some e =>
      by_cases ht : e.status.isTerminal = true
      · simp only [ht, if_true]
        exact hv
      · simp only [ht, Bool.false_eq_true, if_false, run_bind, run_modifyHandler,
          decrementSymbolTask, pure_eq, run_ret]
  simp only [cancelAsync, run_bind, run_readHandler]
  cases he : w.handler.getEntry ph with
  | none => simp [cancel, markCancelled, he]
  | some e =>
    by_cases ht : e.status.isTerminal = true
    · simp [cancel, markCancelled, he, ht]
    · simp only [ht, Bool.false_eq_true, if_false]
      cases e.status.stopOrderId with
      | none => rfl
      | some id =>
        exact hcongr _ (handler_cancelStopOrder ..)

end cancellation

/-! ## Registration -/

/-- The order asks for a trailing stop, and there is room for its entry. -/
def accepts (c : Ctx β) (w : World β) (order : OrderRequest) : Bool :=
  (trailingTerms order).isOk && w.handler.entriesByPlaceholder.len < c.config.maxPendingEntries

/-- A registration that is accepted replaces the entry that its order had. -/
theorem run_register_tasks (symbol p : String) (order : OrderRequest) (w : World β) :
    let w' := ((register c p order).run w).2
    SameTasks w.handler w'.handler ∧
      w'.handler.users symbol + (accepts c w order &&
          (w.handler.getEntry (generatePlaceholderId p)).any (·.follows symbol)).toNat =
        w.handler.users symbol := by
  simp only [register, accepts]
  cases hterms : trailingTerms order with
  | error err => exact ⟨⟨rfl, rfl, rfl⟩, rfl⟩
  | ok terms =>
    simp only [run_bind, run_readHandler]
    by_cases hfull : w.handler.entriesByPlaceholder.len ≥ c.config.maxPendingEntries
    · simp only [hfull, if_true, not_lt.mpr hfull, decide_false, Bool.and_false, Bool.false_and]
      exact ⟨⟨rfl, rfl, rfl⟩, rfl⟩
    · simp only [hfull, if_false, run_bind, run_read, run_modifyHandler, pure_eq, run_ret,
        not_le.mp hfull, decide_true, Except.isOk, Except.toBool, Bool.true_and]
      refine ⟨⟨rfl, rfl, rfl⟩, ?_⟩
      have hcount := w.handler.users_insertEntry symbol (TrailingEntry.new p order.symbol order.side
        order.quantity terms.1 terms.2 c.platform (c.now w.outside))
      have hnew : (TrailingEntry.new p order.symbol order.side order.quantity terms.1 terms.2
          c.platform (c.now w.outside)).follows symbol = false :=
        not_follows_of_isPending symbol rfl
      rw [hnew] at hcount
      exact hcount

/-! ## Runs -/

inductive Call where
  | register (primaryOrderId : String) (order : OrderRequest)
  | operation (op : Operation)

/-- The world after a call that nothing else runs beside. -/
def Call.step (c : Ctx β) (w : World β) : Call → World β
  | .register p order => ((Trailing.register c p order).run w).2
  | .operation op => ((op.code c).run w).2

/-- A cancellation of the entry keeps the count: the entry follows the price, or it is terminal or
of another symbol, or no entry follows the price. -/
def cancelKeepsCount (symbol : String) (h : TrailingStopHandler) (ph : String) : Bool :=
  (h.getEntry ph).all fun e => e.symbol ≠ symbol || !e.status.isPending || h.users symbol = 0

/-- The condition on a call, at the state before it. -/
def KeepsCount (c : Ctx β) (symbol : String) (w : World β) : Call → Prop
  | .register p order =>
    (accepts c w order &&
      (w.handler.getEntry (generatePlaceholderId p)).any (·.follows symbol)) = false
  | .operation (.cancel ph _) | .operation (.cancelAsync ph _) =>
    cancelKeepsCount symbol w.handler ph = true
  | .operation (.onPrimaryCancelled p) =>
    ((w.handler.getPlaceholderForPrimary p).all (cancelKeepsCount symbol w.handler)) = true
  | .operation (.onPriceUpdate sym x) => placesAll c symbol sym x w
  | .operation (.onPrimaryFilled ..) | .operation .retryUnavailableEntries
  | .operation (.onPriceSourceDisconnected _) => True

instance (symbol : String) (w : World β) : (call : Call) → Decidable (KeepsCount c symbol w call)
  | .register .. => inferInstanceAs (Decidable (_ = false))
  | .operation (.cancel ..) | .operation (.cancelAsync ..) =>
    inferInstanceAs (Decidable (_ = true))
  | .operation (.onPrimaryCancelled _) => inferInstanceAs (Decidable (_ = true))
  | .operation (.onPriceUpdate ..) => inferInstanceAs (Decidable (placesAll ..))
  | .operation (.onPrimaryFilled ..) | .operation .retryUnavailableEntries
  | .operation (.onPriceSourceDisconnected _) => inferInstanceAs (Decidable True)

theorem isPending_eq (s : TrailingEntryStatus) : s.isPending = (!s.isTerminal && !s.isActive) := by
  cases s <;> rfl

/-- A cancellation of an entry in a state that is counted right. -/
theorem cancel_counted_iff (hc : w.handler.refcount symbol = w.handler.users symbol) (ph : String)
    (reason : CancellationReason) :
    (((cancel ph reason).run w).2.handler.refcount symbol =
      ((cancel ph reason).run w).2.handler.users symbol) ↔
        cancelKeepsCount symbol w.handler ph = true := by
  obtain ⟨-, hrun⟩ := run_cancel_tasks symbol ph reason w
  unfold cancelKeepsCount
  cases he : w.handler.getEntry ph with
  | none =>
    rw [he] at hrun
    simp [hrun, hc]
  | some e =>
    simp only [he] at hrun
    simp only [Option.all_some, isPending_eq]
    cases ht : e.status.isTerminal with
    | true =>
      simp only [ht, if_true] at hrun
      simp [hrun, hc]
    | false =>
      simp only [ht, Bool.false_eq_true, if_false] at hrun
      obtain ⟨hcount, husers⟩ := hrun
      rw [hcount, hc, ← husers]
      by_cases hs : e.symbol = symbol
      · cases hact : e.status.isActive with
        | true =>
          -- the entry gives back the reference that it has
          simp [TrailingEntry.follows, hs, hact]
        | false =>
          simp only [TrailingEntry.follows, hs, hact, decide_true, Bool.and_false,
            Bool.toNat_false, Bool.toNat_true, Nat.add_zero, ne_eq, not_true_eq_false,
            decide_false, Bool.not_false, Bool.and_self, Bool.not_true, Bool.false_or,
            decide_eq_true_eq]
          omega
      · simp [TrailingEntry.follows, hs]

theorem Rises.counted (h : Rises symbol w w')
    (hc : w.handler.refcount symbol = w.handler.users symbol) :
    w'.handler.refcount symbol = w'.handler.users symbol := by
  obtain ⟨n, hr, hu⟩ := h.rise
  omega

theorem run_discard {α : Type} (t : TrailM β α) (w : World β) :
    ((do let _ ← t : TrailM β Unit).run w).2 = (t.run w).2 := by
  simp only [run_bind, pure_eq, run_ret]

/-- What one call does to a state that is counted right. -/
theorem step_counted_iff (hself : c.selfRef = true) (ht : w.handler.Tidy)
    (hc : w.handler.refcount symbol = w.handler.users symbol) (call : Call) :
    (call.step c w).handler.Tidy ∧
      ((call.step c w).handler.refcount symbol = (call.step c w).handler.users symbol ↔
        KeepsCount c symbol w call) := by
  cases call with
  | register p order =>
    obtain ⟨htasks, husers⟩ := run_register_tasks (c := c) symbol p order w
    refine ⟨htasks.tidy ht, ?_⟩
    rw [Call.step, htasks.refcount symbol, hc, ← husers, KeepsCount, Nat.add_eq_left]
    exact Bool.toNat_eq_zero
  | operation op =>
    cases op with
    | cancel ph reason =>
      rw [Call.step, Operation.code, run_discard]
      exact ⟨(run_cancel_tasks symbol ph reason w).1 ht, cancel_counted_iff hc ph reason⟩
    | cancelAsync ph reason =>
      rw [Call.step, Operation.code, run_discard, handler_cancelAsync]
      exact ⟨(run_cancel_tasks symbol ph reason w).1 ht, cancel_counted_iff hc ph reason⟩
    | onPrimaryCancelled p =>
      rw [Call.step, Operation.code, run_discard, KeepsCount]
      simp only [onPrimaryCancelled, cancelForPrimary, run_bind, run_readHandler]
      cases hph : w.handler.getPlaceholderForPrimary p with
      | none => exact ⟨ht, iff_of_true hc rfl⟩
      | some ph =>
        exact ⟨(run_cancel_tasks symbol ph _ w).1 ht, cancel_counted_iff hc ph _⟩
    | onPrimaryFilled p fillPrice =>
      rw [Call.step, Operation.code, run_discard]
      have hrise := rises_onPrimaryFilled symbol hself p fillPrice w
      exact ⟨hrise.tidy ht, iff_of_true (hrise.counted hc) trivial⟩
    | onPriceUpdate sym x =>
      rw [Call.step, Operation.code, run_discard]
      obtain ⟨htidy, hcount, husers⟩ := run_onPriceUpdate_users (c := c) symbol sym x w
      refine ⟨htidy ht, Iff.trans ?_ husers⟩
      rw [← hc, ← hcount]
      exact eq_comm
    | retryUnavailableEntries =>
      rw [Call.step, Operation.code, run_discard]
      have hrise := rises_retryUnavailableEntries symbol hself w
      exact ⟨hrise.tidy ht, iff_of_true (hrise.counted hc) trivial⟩
    | onPriceSourceDisconnected sym =>
      obtain ⟨htidy, hcount⟩ := run_onPriceSourceDisconnected_tasks symbol sym w
      refine ⟨htidy ht, iff_of_true ?_ trivial⟩
      split at hcount
      · exact hcount.1.trans hcount.2.symm
      · exact hcount.1.trans (hc.trans hcount.2.symm)

/-- After each call of a run the symbol's refcount is the number of its entries that follow the
price, and it has a task exactly if there are any, exactly if no call of the run cancels an entry of
the symbol that waits while others follow the price, loses a first stop of the symbol, or registers
over an entry of the symbol that follows the price. -/
theorem task_counted_iff (c : Ctx β) (hself : c.selfRef = true) (b : β) (symbol : String)
    (calls : List Call) :
    (∀ done, done <+: calls →
      (exec (Call.step c) (World.initial b) done).handler.Counted symbol) ↔
      Guarded (Call.step c) (KeepsCount c symbol) (World.initial b) calls := by
  have hstart : (World.initial b).handler.Tidy ∧
      (World.initial b).handler.refcount symbol = (World.initial b).handler.users symbol :=
    ⟨.new, rfl⟩
  refine forall_prefix_iff_guarded_all (P := fun w : World β => w.handler.Counted symbol)
    (I := fun w : World β => w.handler.Tidy ∧ w.handler.refcount symbol = w.handler.users symbol)
    ?_ ?_ ?_ hstart calls
  · rintro w ⟨ht, hc⟩
    exact (ht.counted_iff symbol).mpr hc
  · rintro w call ⟨ht, hc⟩ hok
    obtain ⟨htidy, hiff⟩ := step_counted_iff hself ht hc call
    exact ⟨htidy, hiff.mpr hok⟩
  · rintro w call ⟨ht, hc⟩ hbad hcounted
    obtain ⟨-, hiff⟩ := step_counted_iff hself ht hc call
    exact hbad (hiff.mp hcounted.refcount)

/-- Two entries of one symbol follow the price, and one of them is cancelled. -/
def sharedRun : List Call :=
  [.register "p" sampleTrailing, .register "q" sampleTrailing,
    .operation (.onPrimaryFilled "p" 100), .operation (.onPrimaryFilled "q" 100),
    .operation (.onPriceUpdate "BTCUSD" 100),
    .operation (.cancelAsync "trailing:p" .userRequested)]

theorem task_counted_shared :
    (exec (Call.step Ctx.simulated) (World.initial 0) sharedRun).handler.Counted "BTCUSD" ∧
      (exec (Call.step Ctx.simulated) (World.initial 0) sharedRun).handler.users "BTCUSD" = 1 :=
  ⟨(task_counted_iff Ctx.simulated rfl 0 "BTCUSD" sharedRun).mpr (by decide +kernel) sharedRun
    List.prefix_rfl, by decide +kernel⟩

/-- The simulated provider with an executor that refuses every stop. -/
def Ctx.refusing : Ctx ℕ :=
  { Ctx.simulated with
    executor := { StopOrderExecutor.simulated with
      placeStopOrder := fun _ n => (.error (.providerUnavailable "down"), n) } }

/-- The cancellation of an entry whose order never filled ends the task of the other entry. And an
entry whose first stop is refused leaves a task that has no user. -/
theorem pending_cancel_ends_task :
    (((exec (Call.step Ctx.simulated) (World.initial 0)
          [.register "p" sampleTrailing, .register "q" sampleTrailing,
            .operation (.onPrimaryFilled "p" 100),
            .operation (.cancel "trailing:q" .userRequested)]).handler.users "BTCUSD" = 1 ∧
        (exec (Call.step Ctx.simulated) (World.initial 0)
          [.register "p" sampleTrailing, .register "q" sampleTrailing,
            .operation (.onPrimaryFilled "p" 100),
            .operation (.cancel "trailing:q" .userRequested)]).handler.symbolTasks.get "BTCUSD" =
          none) ∧
      ¬ (exec (Call.step Ctx.simulated) (World.initial 0)
          [.register "p" sampleTrailing, .register "q" sampleTrailing,
            .operation (.onPrimaryFilled "p" 100),
            .operation (.cancel "trailing:q" .userRequested)]).handler.Counted "BTCUSD") ∧
    ((exec (Call.step Ctx.refusing) (World.initial 0)
        [.register "p" sampleTrailing, .operation (.onPrimaryFilled "p" 100),
          .operation (.onPriceUpdate "BTCUSD" 100)]).handler.users "BTCUSD" = 0 ∧
      (exec (Call.step Ctx.refusing) (World.initial 0)
        [.register "p" sampleTrailing, .operation (.onPrimaryFilled "p" 100),
          .operation (.onPriceUpdate "BTCUSD" 100)]).handler.symbolTasks.get "BTCUSD" =
        some ⟨0, 1⟩) := by
  refine ⟨⟨⟨by decide +kernel, by decide +kernel⟩, fun hcounted => ?_⟩, by decide +kernel,
    by decide +kernel⟩
  exact absurd hcounted.refcount (by decide +kernel)

end Gateway.Trailing
