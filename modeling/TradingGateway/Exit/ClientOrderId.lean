import TradingGateway.Exit.Listing
import TradingGateway.Exit.Moves
import TradingGateway.Exit.Registration

/-!
# Are client order ids of exit orders ever used twice?

An exit order is submitted under the id `{seed}-{leg}`, or `{seed}-{leg}-{n}` if its entry lists
`n ≥ 1` orders. Fills and moves of legs come in any order, at a provider that cannot modify orders
and may refuse any submission.

* `client_order_ids_iff`: the ids of the orders accepted for an entry differ exactly if each of the
  orders but the last comes from a fill that finds the entry not placed. Two entries with another
  seed or another leg never share an id.
* `moved_leg_reuses_id`: a move overwrites the slot of the moved order, so the number does not grow
  and the next move uses the same id.
-/

namespace Gateway.Exit

variable {β : Type} {c : Ctx β}

/-! ## The format -/

theorem notMem_clientOrderSuffix (leg : ExitLegType) : '-' ∉ leg.clientOrderSuffix.toList := by
  cases leg <;> decide

variable {leg' : ExitLegType} {seed seed' : String} {w w₀ : World β} {leg : ExitLegType}

theorem clientOrderSuffix_inj (h : leg.clientOrderSuffix = leg'.clientOrderSuffix) :
    leg = leg' := by
  cases leg <;> cases leg' <;> first | rfl | exact absurd h (by decide)

theorem clientOrderSuffix_ne_toString (leg : ExitLegType) (n : ℕ) :
    leg.clientOrderSuffix ≠ toString n := by
  intro h
  obtain ⟨ch, hmem, hdigit⟩ : ∃ ch ∈ leg.clientOrderSuffix.toList, ch.isDigit = false := by
    cases leg with
    | stopLoss => exact ⟨'s', by decide, rfl⟩
    | takeProfit => exact ⟨'t', by decide, rfl⟩
  rw [h] at hmem
  exact Text.notMem_toString_nat hdigit n hmem

/-- The id that an entry's first exit order has, and the others begin with. -/
theorem exitClientOrderId_zero_inj
    (h : exitClientOrderId seed leg 0 = exitClientOrderId seed' leg' 0) :
    seed = seed' ∧ leg = leg' := by
  obtain ⟨hs, hl⟩ :=
    Text.append_sep_inj (notMem_clientOrderSuffix leg) (notMem_clientOrderSuffix leg') h
  exact ⟨hs, clientOrderSuffix_inj hl⟩

theorem exitClientOrderId_succ (seed : String) (leg : ExitLegType) (n : ℕ) :
    exitClientOrderId seed leg (n + 1) =
      exitClientOrderId seed leg 0 ++ String.singleton '-' ++ toString (n + 1) := rfl

theorem exitClientOrderId_zero_ne_succ (seed seed' : String) (leg leg' : ExitLegType) (n : ℕ) :
    exitClientOrderId seed leg 0 ≠ exitClientOrderId seed' leg' (n + 1) := by
  intro h
  rw [exitClientOrderId_succ] at h
  exact clientOrderSuffix_ne_toString leg (n + 1)
    (Text.append_sep_inj (notMem_clientOrderSuffix leg) (Text.notMem_toString_nat rfl _) h).2

/-- The last part after a dash is a leg or a number. -/
theorem exitClientOrderId_inj {n n' : ℕ}
    (h : exitClientOrderId seed leg n = exitClientOrderId seed' leg' n') :
    seed = seed' ∧ leg = leg' ∧ n = n' := by
  cases n with
  | zero =>
    cases n' with
    | zero =>
      obtain ⟨hs, hl⟩ := exitClientOrderId_zero_inj h
      exact ⟨hs, hl, rfl⟩
    | succ n' => exact absurd h (exitClientOrderId_zero_ne_succ seed seed' leg leg' n')
  | succ n =>
    cases n' with
    | zero => exact absurd h.symm (exitClientOrderId_zero_ne_succ seed' seed leg' leg n)
    | succ n' =>
      rw [exitClientOrderId_succ, exitClientOrderId_succ] at h
      obtain ⟨hbase, hn⟩ := Text.append_sep_inj (Text.notMem_toString_nat rfl (n + 1))
        (Text.notMem_toString_nat rfl (n' + 1)) h
      obtain ⟨hs, hl⟩ := exitClientOrderId_zero_inj hbase
      exact ⟨hs, hl, Text.toString_nat_inj hn⟩

/-! ## The ids of an entry -/

/-- An entry, with what the ids of its orders are made of. -/
structure Leg where
  ph : String
  seed : String
  orderType : ExitLegType

/-- The id of the order that is placed when the entry lists `n` orders. -/
def Leg.id (l : Leg) (n : ℕ) : Option String := some (exitClientOrderId l.seed l.orderType n)

def Leg.Of (l : Leg) (e : ExitEntry) : Prop := idSeed e = l.seed ∧ e.orderType = l.orderType

theorem Leg.Of.same {l : Leg} {e e' : ExitEntry} (h : l.Of e) (hids : e.SameIds e') : l.Of e' :=
  ⟨hids.1.trans h.1, hids.2.trans h.2⟩

theorem Leg.Of.id_eq {l : Leg} {e : ExitEntry} (h : l.Of e) (n : ℕ) :
    some (exitClientOrderId (idSeed e) e.orderType n) = l.id n := by
  rw [h.1, h.2, Leg.id]

/-- The client order ids of the orders that were accepted for the entry. -/
def clientOrderIds (ph : String) (w : World β) : List (Option String) :=
  (w.acceptedFor ph).map AcceptedOrder.clientOrderId

section leg

variable {l : Leg} {ph k : String} {n : ℕ} {w w' : World β} {e e' entry : ExitEntry}
  {r : ActualOrder} {price : Decimal} {rs : List ActualOrder}

theorem placedCount_of_getEntry (he : w.handler.getEntry ph = some e) :
    w.handler.placedCount ph = e.actualOrders.length := by
  simp [ExitHandler.placedCount, he]

/-- The entry has the seed and the leg, and so has every order that was accepted for it. -/
structure Labelled (l : Leg) (w : World β) : Prop where
  entry : ∀ e, w.handler.getEntry l.ph = some e → l.Of e
  ids : ∀ id ∈ clientOrderIds l.ph w, ∃ n, id = l.id n

/-- The entry is as before, or has ended with the same number of orders or with none. -/
def ExitEntry.Leaves (e e' : ExitEntry) : Prop :=
  e.SameIds e' ∧ (e'.status = e.status ∨ e'.status.isTerminal = true ∧
    (e'.actualOrders.length = e.actualOrders.length ∨ e'.actualOrders = []))

/-- No order is accepted for the entry. -/
structure AcceptsNone (ph : String) (w w' : World β) : Prop where
  ids : clientOrderIds ph w' = clientOrderIds ph w
  entry : ∀ e', w'.handler.getEntry ph = some e' → ∃ e, w.handler.getEntry ph = some e ∧ e.Leaves e'

/-- An order is accepted for the entry under its next id. -/
structure Accepts (l : Leg) (w w' : World β) : Prop where
  ids : clientOrderIds l.ph w' =
    clientOrderIds l.ph w ++ [l.id (w.handler.placedCount l.ph)]
  entry : ∀ e', w'.handler.getEntry l.ph = some e' → l.Of e'

def LegStep (l : Leg) (w w' : World β) : Prop :=
  AcceptsNone l.ph w w' ∨ Accepts l w w'

theorem AcceptsNone.of_eq (hids : clientOrderIds ph w' = clientOrderIds ph w)
    (he : w'.handler.getEntry ph = w.handler.getEntry ph) : AcceptsNone ph w w' :=
  ⟨hids, fun e' he' => ⟨e', he ▸ he', ⟨rfl, rfl⟩, .inl rfl⟩⟩

theorem AcceptsNone.drop (w : World β) (k p : String) : AcceptsNone ph w (w.dropEntry k p) := by
  refine ⟨rfl, fun e' he' => ?_⟩
  rw [World.dropEntry, ExitHandler.getEntry_removePendingEntry] at he'
  split at he'
  · cases he'
  · exact ⟨e', he', ⟨rfl, rfl⟩, .inl rfl⟩

theorem AcceptsNone.placedCount_le (h : AcceptsNone ph w w') :
    w'.handler.placedCount ph ≤ w.handler.placedCount ph := by
  cases he' : w'.handler.getEntry ph with
  | none => simp [ExitHandler.placedCount, he']
  | some e' =>
    obtain ⟨e, he, -, hst | ⟨-, hlen | hnil⟩⟩ := h.entry e' he'
    · rw [placedCount_of_getEntry he, placedCount_of_getEntry he', ExitEntry.actualOrders, hst]
      rfl
    · rw [placedCount_of_getEntry he, placedCount_of_getEntry he', hlen]
    · simp [placedCount_of_getEntry he', hnil]

theorem LegStep.labelled (h : LegStep l w w') (hw : Labelled l w) : Labelled l w' := by
  rcases h with h | h
  · refine ⟨fun e' he' => ?_, by rw [h.ids]; exact hw.ids⟩
    obtain ⟨e, he, hids, -⟩ := h.entry e' he'
    exact (hw.entry e he).same hids
  · refine ⟨h.entry, fun id hid => ?_⟩
    rw [h.ids] at hid
    rcases List.mem_append.mp hid with hid | hid
    · exact hw.ids id hid
    · exact ⟨_, List.mem_singleton.mp hid⟩

/-! ## All orders listed, or the next number in use -/

/-- The orders have the numbers below `n`, and so will the next one; or two have the same. -/
def Spent (l : Leg) (n : ℕ) (w : World β) : Prop :=
  clientOrderIds l.ph w = (List.range n).map l.id ∧
      w.handler.placedCount l.ph < n ∨
    n < (clientOrderIds l.ph w).length ∧ ¬ (clientOrderIds l.ph w).Nodup

theorem nodup_ids (l : Leg) (n : ℕ) : ((List.range n).map l.id).Nodup :=
  List.nodup_range.map fun _ _ h => (exitClientOrderId_inj (Option.some.inj h)).2.2

theorem Spent.step (hw : Spent l n w) (h : LegStep l w w') : Spent l n w' := by
  rcases h with h | h
  · unfold Spent
    rw [h.ids]
    exact hw.imp_left fun hspent => ⟨hspent.1, h.placedCount_le.trans_lt hspent.2⟩
  · refine .inr ⟨?_, fun hnd => ?_⟩ <;> rcases hw with ⟨hids, hlt⟩ | ⟨hlen, hdup⟩
    · simp [h.ids, hids]
    · simp only [h.ids, List.length_append, List.length_singleton]
      omega
    · rw [h.ids, hids, List.nodup_append'] at hnd
      exact hnd.2.2 (List.mem_map_of_mem (List.mem_range.mpr hlt)) (List.mem_singleton_self _)
    · rw [h.ids] at hnd
      exact hdup (List.nodup_append'.mp hnd).1

theorem Spent.nodup_iff (hw : Spent l n w) :
    (clientOrderIds l.ph w).Nodup ↔ (clientOrderIds l.ph w).length = n := by
  rcases hw with ⟨h, -⟩ | ⟨hlen, hdup⟩
  · exact iff_of_true (h ▸ nodup_ids l n) (by simp [h])
  · exact iff_of_false hdup hlen.ne'

/-- The entry lists `n` orders, or can have no order any more. -/
def ExitEntry.Lists (e : ExitEntry) (n : ℕ) : Prop :=
  e.status ≠ .placed [] ∧
    (e.actualOrders.length = n ∨ e.actualOrders = [] ∧ e.status.isTerminal = true)

theorem ExitEntry.Lists.leaves (h : e.Lists n) (hl : e.Leaves e') : e'.Lists n := by
  obtain ⟨-, hst | ⟨hterm, horders⟩⟩ := hl
  · unfold Lists actualOrders
    rw [hst]
    exact h
  · refine ⟨fun hst => by simp [hst, ExitEntryStatus.isTerminal] at hterm, ?_⟩
    rcases horders with hlen | hnil
    · exact h.2.imp (fun h => hlen.trans h) fun h =>
        ⟨List.length_eq_zero_iff.mp (by rw [hlen, h.1]; rfl), hterm⟩
    · exact .inr ⟨hnil, hterm⟩

theorem ExitEntry.Lists.length_eq (h : e.Lists n)
    (hne : e.status.isTerminal = false ∨ e.actualOrders ≠ []) : e.actualOrders.length = n := by
  refine h.2.resolve_right fun ⟨hnil, hterm⟩ => ?_
  rcases hne with h | h
  · cases h.symm.trans hterm
  · exact h hnil

/-- The orders have the numbers below `n`, and the entry lists them all or can have no order. -/
structure InStep (l : Leg) (n : ℕ) (w : World β) : Prop where
  ids : clientOrderIds l.ph w = (List.range n).map l.id
  lists : ∀ e, w.handler.getEntry l.ph = some e → e.Lists n

theorem InStep.quiet (hw : InStep l n w) (h : AcceptsNone l.ph w w') :
    InStep l n w' := by
  refine ⟨h.ids.trans hw.ids, fun e' he' => ?_⟩
  obtain ⟨e, he, hl⟩ := h.entry e' he'
  exact (hw.lists e he).leaves hl

/-- The accepted order has the next number. -/
theorem InStep.accepts (hw : InStep l n w) (he : w.handler.getEntry l.ph = some e)
    (hne : e.status.isTerminal = false ∨ e.actualOrders ≠ []) (h : Accepts l w w') :
    clientOrderIds l.ph w' =
      (List.range (n + 1)).map l.id := by
  rw [h.ids, hw.ids, placedCount_of_getEntry he, (hw.lists e he).length_eq hne, List.range_succ,
    List.map_append]
  rfl

/-- The entry does not list the accepted order besides the others. -/
theorem InStep.overwrite (hw : InStep l n w) (he : w.handler.getEntry l.ph = some e)
    (hne : e.status.isTerminal = false ∨ e.actualOrders ≠ []) (h : Accepts l w w')
    (he' : w'.handler.getEntry l.ph = some e')
    (hle : e'.actualOrders.length ≤ e.actualOrders.length) : Spent l (n + 1) w' := by
  refine .inl ⟨hw.accepts he hne h, ?_⟩
  rw [placedCount_of_getEntry he', ← (hw.lists e he).length_eq hne]
  exact Nat.lt_succ_of_le hle

/-! ## Fills -/

/-- What a fill event does to the entry: nothing, or an order is accepted for it. -/
theorem run_handleFill_entry (ph id : String) (f T : Decimal) (pos : Option Decimal)
    (pid : Option String) (w : World β) :
    let w' := ((handleFill c id f T pos pid).run w).2
    AcceptsNone ph w w' ∨ ∃ e e' x, w.handler.getEntry ph = some e ∧
      EntryFilled c ph f T e e' w w' [x] := by
  by_cases hp : w.handler.getPlaceholdersForPrimary id = []
  · refine .inl ?_
    have hev := run_handleFill (c := c) id f T pos pid w
    generalize ((handleFill c id f T pos pid).run w).2 = w' at hev ⊢
    cases hev with
    | ignored | exitPartial | unmatched => exact .of_eq rfl rfl
    | primary _ _ hne => exact absurd hp hne
    | @exitFull e _ _ _ _ _ _ ho =>
      have hdrop : AcceptsNone ph w _ := .drop w e.placeholderId e.primaryOrderId
      cases ho with
      | alone | retained => exact ⟨rfl, hdrop.entry⟩
      | @resolved s =>
        refine ⟨rfl, fun e' he' => hdrop.entry e' ?_⟩
        rw [World.dropEntry, ExitHandler.getEntry_removePendingEntry] at he'
        split at he'
        · cases he'
        · exact he'
  · rw [run_handleFill_primary hp]
    split
    · exact .inl (.of_eq rfl rfl)
    · cases he : w.handler.getEntry ph with
      | none =>
        have hnone : ∀ e, w.handler.getEntry ph = some e → ¬ Eligible f e := by simp [he]
        obtain ⟨hentry, -, hacc⟩ := processEntries_of_not_eligible (c := c) T pos pid
          (w.handler.getPlaceholdersForPrimary id) hnone
        exact .inl (.of_eq (by rw [clientOrderIds, hacc]; rfl) hentry)
      | some e =>
        obtain ⟨e', h⟩ := entryFilled_processEntries (c := c) (f := f) T pos pid
          (w.handler.getPlaceholdersForPrimary id) he
        generalize reported ph _ = xs at h
        have hl := h.listing
        cases hl with
        | kept hst hlisted =>
          obtain ⟨as, hacc, hlen, -⟩ := h.accepted
          obtain rfl := List.length_eq_zero_iff.mp hlen
          refine .inl ⟨by rw [clientOrderIds, hacc, List.append_nil]; rfl, fun e₁ he₁ => ?_⟩
          cases h.entry.symm.trans he₁
          have hsame := congrArg List.length hlisted
          rw [ExitEntry.listed, ExitEntry.listed, List.length_map, List.length_map] at hsame
          exact ⟨e, he, h.sameIds, hst.imp_right fun hterm => ⟨hterm, .inl hsame⟩⟩
        | appended | replaced | dropped => exact .inr ⟨e, e', _, rfl, h⟩

theorem Labelled.accepts {f T : Decimal} {x : String × Decimal} (hw : Labelled l w)
    (he : w.handler.getEntry l.ph = some e) (h : EntryFilled c l.ph f T e e' w w' [x]) :
    Accepts l w w' := by
  obtain ⟨as, hacc, hlen, hids, -⟩ := h.accepted
  obtain ⟨a, rfl⟩ := List.length_eq_one_iff.mp hlen
  refine ⟨?_, fun e₁ he₁ => ?_⟩
  · rw [clientOrderIds, hacc, List.map_append, placedCount_of_getEntry he,
      ← (hw.entry e he).id_eq, ← hids a List.mem_cons_self]
    rfl
  · cases h.entry.symm.trans he₁
    exact (hw.entry e he).same h.sameIds

def ExitEntry.isPlaced (e : ExitEntry) : Bool :=
  match e.status with
  | .placed _ => true
  | _ => false

/-- What an event makes of an entry in step. `unplaced`: it is a fill that finds it not placed. -/
def Advances (l : Leg) (n : ℕ) (unplaced : Bool) (w' : World β) : Prop :=
  InStep l n w' ∨ unplaced = true ∧ InStep l (n + 1) w' ∨ unplaced = false ∧ Spent l (n + 1) w'

theorem InStep.handleFill (hw : InStep l n w) (hl : Labelled l w) (id : String) (f T : Decimal)
    (pos : Option Decimal) (pid : Option String) :
    Advances l n ((w.handler.getEntry l.ph).all fun e => !e.isPlaced)
      ((handleFill c id f T pos pid).run w).2 := by
  rcases run_handleFill_entry (c := c) l.ph id f T pos pid w with h | ⟨e, e', x, he, h⟩
  · exact .inl (hw.quiet h)
  have hacc := hl.accepts he h
  have hlists := hw.lists e he
  have hlen (e : ExitEntry) : e.listed.length = e.actualOrders.length := List.length_map _
  rw [he, Option.all_some]
  cases h.listing with
  | appended hst hlisted =>
    have hterm := ExitEntry.isTerminal_of_isPending hst
    have hn := congrArg List.length hlisted
    rw [List.length_append, hlen, hlen, hlists.length_eq (.inl hterm)] at hn
    refine .inr (.inl ⟨?_, hw.accepts he (.inl hterm) hacc, fun e₁ he₁ => ?_⟩)
    · unfold ExitEntry.isPlaced ExitEntry.isPending at *
      cases hs : e.status <;> simp_all
    · cases h.entry.symm.trans he₁
      refine ⟨fun hnil => ?_, .inl hn⟩
      simp [ExitEntry.actualOrders, ExitEntryStatus.actualOrders, hnil] at hn
  | @replaced _ os hst _ hlisted =>
    refine .inr (.inr ⟨by simp [ExitEntry.isPlaced, hst], ?_⟩)
    refine hw.overwrite he (.inl (by rw [hst]; rfl)) hacc h.entry ?_
    rw [← hlen, ← hlen, hlisted, ExitEntry.listed_placed hst, List.length_map]
    exact List.length_pos_iff.mpr fun hnil => hlists.1 (hst.trans (hnil ▸ rfl))
  | dropped hst _ hlisted =>
    refine .inr (.inr ⟨by simp [ExitEntry.isPlaced, hst], ?_⟩)
    refine hw.overwrite he (.inl (by rw [hst]; rfl)) hacc h.entry ?_
    rw [← hlen, ← hlen, hlisted]

/-! ## Moves -/

theorem accepts_moved (hw : Labelled l w) (hof : l.Of entry) (b : β) (ids : List String)
    (id : String) (price : Decimal) :
    Accepts l w
      (({ w with broker := b, cancelled := ids }.accept l.ph id
        (buildReplacement entry r (w.handler.placedCount l.ph))).updateEntry l.ph
          (recordMovedLeg r id price)) := by
  refine ⟨?_, fun e' he' => ?_⟩
  · refine (congrArg (List.map _) (acceptedFor_accept
      { w with broker := b, cancelled := ids } l.ph l.ph id _)).trans ?_
    rw [if_pos rfl, List.map_append, ← hof.id_eq]
    rfl
  · rw [World.updateEntry, ExitHandler.getEntry_modifyEntry_self] at he'
    obtain ⟨e, he, rfl⟩ := Option.map_eq_some_iff.mp he'
    exact hw.entry e he

theorem quiet_failed (w : World β) (b : β) (ids : List String) (message : String) :
    AcceptsNone ph w (World.updateEntry { w with broker := b, cancelled := ids } ph
      (updateEntryToFailed message 0)) := by
  refine ⟨rfl, fun e' he' => ?_⟩
  rw [World.updateEntry, ExitHandler.getEntry_modifyEntry_self] at he'
  obtain ⟨e, he, rfl⟩ := Option.map_eq_some_iff.mp he'
  obtain ⟨hterm, horders, -, hids⟩ := updateEntryToFailed_spec (e := e) message 0
  refine ⟨e, he, hids, .inr ⟨hterm, ?_⟩⟩
  rw [horders]
  split
  · exact .inr rfl
  · exact .inl rfl

theorem MoveStep.quiet (hm : c.adapter.CannotModify) (hs : MoveStep c k entry r w w')
    (hk : ph ≠ k) : AcceptsNone ph w w' := by
  obtain ⟨_, _, hs⟩ := hs
  cases hs with
  | kept => exact .of_eq rfl rfl
  | changed h | swapped h => exact absurd h hm.ne_ok
  | replaced | restored =>
    refine .of_eq ((congrArg (List.map _) (acceptedFor_accept
      { w with broker := _, cancelled := _ } k ph _ _)).trans ?_)
      (w.handler.getEntry_modifyEntry_ne _ hk)
    rw [if_neg hk.symm, List.append_nil]
    rfl
  | lost => exact .of_eq rfl (w.handler.getEntry_modifyEntry_ne _ hk)

theorem MoveStep.toLegStep (hm : c.adapter.CannotModify) (hs : MoveStep c k entry r w w')
    (hw : Labelled l w) (hof : k = l.ph → l.Of entry) : LegStep l w w' := by
  by_cases hk : k = l.ph
  · subst hk
    obtain ⟨price, _, hs⟩ := hs
    cases hs with
    | kept => exact .inl (.of_eq rfl rfl)
    | changed h | swapped h => exact absurd h hm.ne_ok
    | replaced =>
      have hmoved : l.Of { entry with triggerPrice := price } := hof rfl
      exact .inr (accepts_moved hw hmoved ..)
    | restored => exact .inr (accepts_moved hw (hof rfl) ..)
    | lost => exact .inl (quiet_failed w ..)
  · exact .inl (hs.quiet hm (Ne.symm hk))

theorem InStep.moveOutcome (hm : c.adapter.CannotModify) (hw : InStep l n w) (hl : Labelled l w)
    (he : w.handler.getEntry l.ph = some entry) (hr : r ∈ entry.actualOrders)
    {res : Except ReplaceExitLegError String} (h : MoveOutcome c l.ph entry r price w res w') :
    InStep l n w' ∧ res.isOk = false ∨ Spent l (n + 1) w' := by
  have hof := hl.entry entry he
  -- the replacement takes the slot of the order, so the list has the same length
  have hmoved (entry' : ExitEntry) (hids : entry.SameIds entry') (b : β) (id : String)
      (price : Decimal) := by
    refine hw.overwrite he (.inr (List.ne_nil_of_mem hr)) (accepts_moved (r := r) hl
      (hof.same hids) b (w.cancelled ++ [r.orderId]) id price)
      (?_ : _ = some (recordMovedLeg r id price entry)) ?_
    · rw [World.updateEntry, ExitHandler.getEntry_modifyEntry_self, getEntry_accept, he]
      rfl
    · rw [recordMovedLeg_actualOrders, replaceSlot_length _ ⟨r, hr, rfl⟩]
  cases h with
  | kept => exact .inl ⟨hw.quiet (.of_eq rfl rfl), rfl⟩
  | changed h | swapped h => exact absurd h hm.ne_ok
  | replaced => exact .inr (hmoved { entry with triggerPrice := price } ⟨rfl, rfl⟩ ..)
  | restored => exact .inr (hmoved entry ⟨rfl, rfl⟩ ..)
  | lost => exact .inl ⟨hw.quiet (quiet_failed w _ _ _), rfl⟩

theorem MoveSteps.legSteps (hm : c.adapter.CannotModify) (hs : MoveSteps c k entry rs w w')
    (hof : k = l.ph → l.Of entry) {I : World β → Prop} (hI : ∀ v v', LegStep l v v' → I v → I v')
    (hl : Labelled l w) (hw : I w) : Labelled l w' ∧ I w' := by
  refine hs.inv (I := fun v => Labelled l v ∧ I v) (fun r _ v v' hstep hv => ?_) ⟨hl, hw⟩
  have h := hstep.toLegStep hm hv.1 hof
  exact ⟨h.labelled hv.1, hI v v' h hv.2⟩

theorem InStep.moveOutcomes (hm : c.adapter.CannotModify) (hw : InStep l n w) (hl : Labelled l w)
    (he : w.handler.getEntry l.ph = some entry) (hrs : ∀ r ∈ rs, r ∈ entry.actualOrders)
    {res : Except ReplaceExitLegError (List String)}
    (h : MoveOutcomes c l.ph entry price rs w res w') : InStep l n w' ∨ Spent l (n + 1) w' := by
  cases h with
  | done => exact .inl hw
  | stopped rs first =>
    exact (hw.moveOutcome hm hl he (hrs _ List.mem_cons_self) first).imp_left And.left
  | moved first others =>
    -- the first order is accepted again, and each further one is one too many
    refine .inr ((hw.moveOutcome hm hl he (hrs _ List.mem_cons_self) first).elim
      (fun h => by cases h.2) fun hspent => ?_)
    have hof (_ : l.ph = l.ph) := hl.entry entry he
    have hfirst := (MoveStep.toLegStep hm ⟨_, _, first⟩ hl hof).labelled hl
    exact (others.steps.legSteps hm hof (fun _ _ h hv => hv.step h) hfirst hspent).2

theorem InStep.replaceExitLeg (hm : c.adapter.CannotModify) (hw : InStep l n w)
    (hl : Labelled l w) (k : String) (price : Decimal) :
    Advances l n false ((replaceExitLeg c k price).run w).2 := by
  rcases run_replaceExitLeg (c := c) k price w with h | ⟨entry, he, hs⟩
  · rw [h]
    exact .inl hw
  by_cases hk : l.ph = k
  · subst hk
    rcases run_replaceExitLeg_outcome (c := c) he price with ⟨-, err, hrun⟩ | ⟨res, hmoves, -⟩
    · rw [hrun]
      exact .inl hw
    · exact (hw.moveOutcomes hm hl he (fun r hr => (List.mem_filter.mp hr).1) hmoves).imp_right
        fun h => .inr ⟨rfl, h⟩
  · exact .inl (hs.inv (fun _ _ _ _ hstep hv => hv.quiet (hstep.quiet hm hk)) hw)

end leg

/-! ## Runs -/

/-- Registrations at a new handler. -/
def registered (c : Ctx β) (b : β) (regs : List (String × OrderRequest)) : World β :=
  Run.exec (fun w reg => ((register c reg.1 reg.2).run w).2) (World.initial c.config b) regs

inductive LegEvent where
  | fill (orderId : String) (filledQty totalQty : Decimal) (positionQty : Option Decimal)
      (positionId : Option String)
  | replaceLeg (placeholderId : String) (newTriggerPrice : Decimal)

def legStep (c : Ctx β) (w : World β) : LegEvent → World β
  | .fill id f T pos pid => ((handleFill c id f T pos pid).run w).2
  | .replaceLeg ph price => ((replaceExitLeg c ph price).run w).2

/-- The event is a fill, and the entry is not placed when it comes. -/
def LegEvent.findsUnplaced (ph : String) (w : World β) : LegEvent → Bool
  | .fill .. => (w.handler.getEntry ph).all fun e => !e.isPlaced
  | .replaceLeg .. => false

/-- For each order that the provider accepts for the entry: whether it comes from a fill that finds
the entry not placed. -/
def sources (c : Ctx β) (ph : String) : World β → List LegEvent → List Bool
  | _, [] => []
  | w, ev :: evs =>
    List.replicate (((legStep c w ev).acceptedFor ph).length - (w.acceptedFor ph).length)
      (ev.findsUnplaced ph w) ++ sources c ph (legStep c w ev) evs

/-- No order is accepted for the entry after one of a move, or of a fill that finds it placed. -/
def OverwritesLast (c : Ctx β) (ph : String) (w : World β) (evs : List LegEvent) : Prop :=
  ∀ unplaced ∈ (sources c ph w evs).dropLast, unplaced = true

instance (ph : String) (w : World β) (evs : List LegEvent) :
    Decidable (OverwritesLast c ph w evs) :=
  inferInstanceAs (Decidable (∀ _ ∈ _, _))

/-- No order has been placed. -/
def Unplaced (w : World β) : Prop :=
  w.accepted = [] ∧ ∀ {ph e}, w.handler.getEntry ph = some e → e.status = .pending

theorem Unplaced.register (hw : Unplaced w) (p : String) (order : OrderRequest) :
    Unplaced ((register c p order).run w).2 := by
  have hreg := run_register (c := c) p order w
  generalize ((Exit.register c p order).run w).1 = res at hreg
  generalize ((Exit.register c p order).run w).2 = w' at hreg ⊢
  cases hreg with
  | refused | empty => exact hw
  | one =>
    refine ⟨hw.1, fun {ph e} he => ?_⟩
    rw [ExitHandler.getEntry_insertEntryInner] at he
    split at he
    · cases he
      rfl
    · exact hw.2 he
  | both =>
    refine ⟨hw.1, fun {ph e} he => ?_⟩
    rw [ExitHandler.getEntry_registerPair] at he
    split at he
    · cases he
      rfl
    · split at he
      · cases he
        rfl
      · exact hw.2 he

theorem registered_unplaced (c : Ctx β) (b : β) (regs : List (String × OrderRequest)) :
    Unplaced (registered c b regs) :=
  Run.exec_inv_all (fun _ reg hw => hw.register reg.1 reg.2) ⟨rfl, fun h => by cases h⟩ regs

theorem Unplaced.inStep (hw : Unplaced w) {l : Leg}
    (he : ∀ e, w.handler.getEntry l.ph = some e → l.Of e) : InStep l 0 w ∧ Labelled l w := by
  have hids : clientOrderIds l.ph w = [] := by simp [clientOrderIds, World.acceptedFor, hw.1]
  refine ⟨⟨hids, fun e h => ?_⟩, he, by simp [hids]⟩
  have hst := hw.2 h
  exact ⟨by simp [hst], .inl (by simp [ExitEntry.actualOrders, hst, ExitEntryStatus.actualOrders])⟩

section events

variable {l : Leg} {n : ℕ}

/-- What each step of the leg keeps, an event keeps. -/
theorem Labelled.event (hm : c.adapter.CannotModify) (hl : Labelled l w) {I : World β → Prop}
    (hI : ∀ v v', LegStep l v v' → I v → I v') (hw : I w) (ev : LegEvent) :
    Labelled l (legStep c w ev) ∧ I (legStep c w ev) := by
  cases ev with
  | fill id f T pos pid =>
    have h : LegStep l w (legStep c w (.fill id f T pos pid)) :=
      (run_handleFill_entry (c := c) l.ph id f T pos pid w).imp_right
        fun ⟨_, _, _, he, h⟩ => hl.accepts he h
    exact ⟨h.labelled hl, hI _ _ h hw⟩
  | replaceLeg k price =>
    rcases run_replaceExitLeg (c := c) k price w with h | ⟨entry, he, hs⟩
    · rw [legStep, h]
      exact ⟨hl, hw⟩
    · exact hs.legSteps hm (fun hk => hl.entry entry (hk ▸ he)) hI hl hw

theorem Labelled.legStep (hm : c.adapter.CannotModify) (hl : Labelled l w) (ev : LegEvent) :
    Labelled l (legStep c w ev) :=
  (hl.event hm (I := fun _ => True) (fun _ _ _ _ => trivial) trivial ev).1

theorem InStep.event (hm : c.adapter.CannotModify) (hw : InStep l n w) (hl : Labelled l w)
    (ev : LegEvent) : Advances l n (ev.findsUnplaced l.ph w) (legStep c w ev) := by
  cases ev with
  | fill id f T pos pid => exact hw.handleFill hl id f T pos pid
  | replaceLeg k price => exact hw.replaceExitLeg hm hl k price

theorem length_sources (hm : c.adapter.CannotModify) (hl : Labelled l w) (evs : List LegEvent) :
    (sources c l.ph w evs).length + (clientOrderIds l.ph w).length =
      (clientOrderIds l.ph (Run.exec (legStep c) w evs)).length := by
  induction evs generalizing w with
  | nil => simp [sources]
  | cons ev evs ih =>
    obtain ⟨hl', hle⟩ := hl.event hm
      (I := fun v => (clientOrderIds l.ph w).length ≤ (clientOrderIds l.ph v).length)
      (fun v v' h hv => hv.trans (by rcases h with h | h <;> simp [h.ids])) le_rfl ev
    rw [Run.exec_cons, ← ih hl', sources, List.length_append, List.length_replicate]
    simp only [clientOrderIds, List.length_map] at hle ⊢
    omega

theorem sources_cons (ph : String) (ev : LegEvent) (evs : List LegEvent) :
    sources c ph w (ev :: evs) = List.replicate ((clientOrderIds ph (legStep c w ev)).length -
      (clientOrderIds ph w).length) (ev.findsUnplaced ph w) ++
        sources c ph (legStep c w ev) evs := by
  simp only [sources, clientOrderIds, List.length_map]

/-- From an entry in step on, the ids differ exactly if no order is accepted after one that the
entry does not list besides the others. -/
theorem InStep.nodup_iff (hm : c.adapter.CannotModify) (hw : InStep l n w) (hl : Labelled l w)
    (evs : List LegEvent) :
    (clientOrderIds l.ph (Run.exec (legStep c) w evs)).Nodup ↔ OverwritesLast c l.ph w evs := by
  induction evs generalizing n w with
  | nil => exact iff_of_true (hw.ids ▸ nodup_ids l n) (by simp [OverwritesLast, sources])
  | cons ev evs ih =>
    have hl' := hl.legStep hm ev
    have hlen : (clientOrderIds l.ph w).length = n := by simp [hw.ids]
    rw [Run.exec_cons, OverwritesLast, sources_cons, hlen]
    rcases hw.event hm hl ev with hw' | ⟨hfinds, hw'⟩ | ⟨hfinds, hspent⟩
    · rw [ih hw' hl', hw'.ids]
      simp [OverwritesLast]
    · rw [ih hw' hl', hfinds, hw'.ids, OverwritesLast]
      cases sources c l.ph (legStep c w ev) evs <;> simp
    · -- a second order after this one is what the condition excludes
      have hle : n + 1 ≤ (clientOrderIds l.ph (legStep c w ev)).length := by
        rcases hspent with ⟨h, -⟩ | ⟨h, -⟩
        · simp [h]
        · exact h.le
      have hend := Run.exec_inv_all (I := fun v => Labelled l v ∧ Spent l (n + 1) v)
        (fun v ev hv => hv.1.event hm (fun _ _ h hs => hs.step h) hv.2 ev) ⟨hl', hspent⟩ evs
      obtain ⟨k, hk⟩ := Nat.exists_eq_add_of_le hle
      rw [hend.2.nodup_iff, ← length_sources hm hl' evs, hk, hfinds,
        show n + 1 + k - n = k + 1 by omega, List.replicate_succ, List.cons_append]
      generalize sources c l.ph (legStep c w ev) evs = rest
      have hcond : (∀ x ∈ (false :: (List.replicate k false ++ rest)).dropLast, x = true) ↔
          (List.replicate k false ++ rest) = [] := by
        cases List.replicate k false ++ rest <;> simp
      rw [hcond, ← List.length_eq_zero_iff, List.length_append, List.length_replicate]
      omega

end events

/-- Registrations, then fills and moves. -/
def legRun (c : Ctx β) (b : β) (regs : List (String × OrderRequest)) (evs : List LegEvent) :
    World β :=
  Run.exec (legStep c) (registered c b regs) evs

/-- Every order of a registered entry has its seed and its leg. -/
theorem legRun_labelled (hm : c.adapter.CannotModify) (b : β) (regs : List (String × OrderRequest))
    (evs : List LegEvent) {ph : String} {e : ExitEntry}
    (he : (registered c b regs).handler.getEntry ph = some e) :
    Labelled ⟨ph, idSeed e, e.orderType⟩ (legRun c b regs evs) := by
  refine Run.exec_inv_all (fun w ev hw => hw.legStep hm ev) ?_ evs
  exact ((registered_unplaced c b regs).inStep fun e' he' => by
    cases he.symm.trans he'
    exact ⟨rfl, rfl⟩).2

/-- The client order ids of the orders accepted for an entry differ exactly if each of the orders
but the last comes from a fill that finds the entry not placed. An entry with another seed or
another leg has none of them. -/
theorem client_order_ids_iff (hm : c.adapter.CannotModify) (b : β)
    (regs : List (String × OrderRequest)) (evs : List LegEvent) (ph : String) :
    ((((legRun c b regs evs).acceptedFor ph).map AcceptedOrder.clientOrderId).Nodup ↔
        OverwritesLast c ph (registered c b regs) evs) ∧
      ∀ ph' e e', (registered c b regs).handler.getEntry ph = some e →
        (registered c b regs).handler.getEntry ph' = some e' →
        (idSeed e ≠ idSeed e' ∨ e.orderType ≠ e'.orderType) →
        ∀ a ∈ (legRun c b regs evs).acceptedFor ph, ∀ a' ∈ (legRun c b regs evs).acceptedFor ph',
          a.clientOrderId ≠ a'.clientOrderId := by
  refine ⟨?_, fun ph' e e' he he' hne a ha a' ha' heq => ?_⟩
  · have hw := registered_unplaced c b regs
    cases he : (registered c b regs).handler.getEntry ph with
    | none =>
      obtain ⟨hin, hl⟩ := hw.inStep (l := ⟨ph, "", .stopLoss⟩) (by simp [he])
      exact hin.nodup_iff hm hl evs
    | some e =>
      obtain ⟨hin, hl⟩ := hw.inStep (l := ⟨ph, idSeed e, e.orderType⟩) (by simp [he, Leg.Of])
      exact hin.nodup_iff hm hl evs
  · obtain ⟨n, hid⟩ := (legRun_labelled hm b regs evs he).ids _ (List.mem_map_of_mem ha)
    obtain ⟨n', hid'⟩ := (legRun_labelled hm b regs evs he').ids _ (List.mem_map_of_mem ha')
    rw [hid, hid'] at heq
    obtain ⟨hseed, hleg, -⟩ := exitClientOrderId_inj (Option.some.inj heq)
    exact hne.elim (fun h => h hseed) fun h => h hleg

theorem simulated_cannotModify : TradingAdapter.simulated.CannotModify := fun _ _ _ => ⟨_, _, rfl⟩

/-- A full fill, then one move of the stop-loss. -/
theorem client_order_ids_iff_one_move :
    (((legRun .simulated [] [("p", sampleBracket)]
        [.fill "p" 10 10 none none,
          .replaceLeg (generatePlaceholderId .stopLoss "p") 95]).acceptedFor
      (generatePlaceholderId .stopLoss "p")).map AcceptedOrder.clientOrderId).Nodup :=
  (client_order_ids_iff simulated_cannotModify [] _ _ _).1.mpr (by decide +kernel)

/-- A full fill, then two moves of the stop-loss: both replacements have the same id. -/
theorem moved_leg_reuses_id :
    ((legRun .simulated [] [("p", sampleBracket)]
        [.fill "p" 10 10 none none, .replaceLeg (generatePlaceholderId .stopLoss "p") 95,
          .replaceLeg (generatePlaceholderId .stopLoss "p") 96]).acceptedFor
      (generatePlaceholderId .stopLoss "p")).map (fun a => (a.orderId, a.clientOrderId)) =
    [("o0", some "p-sl"), ("o2", some "p-sl-1"), ("o3", some "p-sl-1")] := by
  decide +kernel

end Gateway.Exit
