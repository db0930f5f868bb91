import TradingGateway.Lib.Run
import TradingGateway.Trailing.Handler

/-!
# What the trailing-stop handler does to an entry and its stops

The handler functions as relations between an entry with its live stops before and after
(`World.At`), for an executor whose calls all succeed. A call for one entry leaves the others as
they are (`World.OnlyAt`), so each entry can be followed on its own.
-/

namespace Gateway.Trailing

open Routine Run

variable {β : Type} {c : Ctx β} {τ : Type} {order : OrderRequest}

/-! ## Entries and their live stops -/

namespace World

variable (w : World β)

@[simp] theorem liveFor_addStop_self (k id : String) (q : Decimal) :
    (w.addStop k id q).liveFor k = w.liveFor k ++ [⟨k, id, q⟩] := by
  simp [liveFor, addStop]

theorem liveFor_addStop_ne {k k' : String} (hk : k' ≠ k) (id : String) (q : Decimal) :
    (w.addStop k id q).liveFor k' = w.liveFor k' := by
  simp [liveFor, addStop, hk.symm]

@[simp] theorem liveFor_dropStop_self (k id : String) :
    (w.dropStop k id).liveFor k = (w.liveFor k).filter fun o => o.orderId ≠ id := by
  simp only [liveFor, dropStop, List.filter_filter]
  congr 1
  funext o
  by_cases ho : o.placeholderId = k <;> simp [ho]

theorem liveFor_dropStop_ne {k k' : String} (hk : k' ≠ k) (id : String) :
    (w.dropStop k id).liveFor k' = w.liveFor k' := by
  simp only [liveFor, dropStop, List.filter_filter]
  congr 1
  funext o
  by_cases ho : o.placeholderId = k' <;> simp [ho, hk]

/-- The entry at `k` is `e`, and `L` are its live stops. -/
structure At (k : String) (e : TrailingEntry) (L : List StopOrder) : Prop where
  entry : w.handler.getEntry k = some e
  live : w.liveFor k = L

/-- From `w` to `w'` nothing changed for the entries other than `k`, nor for the breaker. -/
structure OnlyAt (k : String) (w w' : World β) : Prop where
  entry : ∀ k', k' ≠ k → w'.handler.getEntry k' = w.handler.getEntry k'
  live : ∀ k', k' ≠ k → w'.liveFor k' = w.liveFor k'
  breaker : w'.handler.circuitBreaker = w.handler.circuitBreaker

variable {w} {w' w'' : World β} {k k' : String} {e : TrailingEntry} {L : List StopOrder}

theorem OnlyAt.refl : OnlyAt k w w := ⟨fun _ _ => rfl, fun _ _ => rfl, rfl⟩

theorem OnlyAt.trans (h : OnlyAt k w w') (h' : OnlyAt k w' w'') : OnlyAt k w w'' :=
  ⟨fun k' hk => (h'.entry k' hk).trans (h.entry k' hk),
    fun k' hk => (h'.live k' hk).trans (h.live k' hk), h'.breaker.trans h.breaker⟩

theorem OnlyAt.at_ne (h : OnlyAt k w w') (hk : k' ≠ k) (ha : w.At k' e L) : w'.At k' e L :=
  ⟨(h.entry k' hk).trans ha.entry, (h.live k' hk).trans ha.live⟩

end World

namespace TrailingStopHandler

variable (h : TrailingStopHandler)

variable {k k' : String} {f : TrailingEntry → TrailingEntry} {e : TrailingEntry}

theorem getEntry_modifyEntry_self (k : String) (hf : ∀ e, (f e).placeholderId = e.placeholderId) :
    (h.modifyEntry k f hf).getEntry k = (h.getEntry k).map f := Table.get_modify_self ..

theorem getEntry_modifyEntry_ne (hk : k' ≠ k) (hf : ∀ e, (f e).placeholderId = e.placeholderId) :
    (h.modifyEntry k f hf).getEntry k' = h.getEntry k' := Table.get_modify_ne _ _ hk

theorem getEntry_updateStatus_self {f : TrailingEntry → Option TrailingEntryStatus}
    {s : TrailingEntryStatus} (he : h.getEntry k = some e) (hf : f e = some s) :
    (h.updateStatus k f).getEntry k = some (e.setStatus s) := by
  rw [updateStatus, getEntry_modifyEntry_self, he]
  simp [hf]

theorem getEntry_updateStatus_ne (hk : k' ≠ k) (f : TrailingEntry → Option TrailingEntryStatus) :
    (h.updateStatus k f).getEntry k' = h.getEntry k' := getEntry_modifyEntry_ne h hk _

theorem getEntry_updateStatus_none (hk : h.getEntry k = none)
    (f : TrailingEntry → Option TrailingEntryStatus) : (h.updateStatus k f).getEntry k = none := by
  simp only [updateStatus, getEntry_modifyEntry_self, hk, Option.map_none]

theorem getEntry_insertEntry_self (e : TrailingEntry) :
    (h.insertEntry e).getEntry e.placeholderId = some e := Table.get_insert_self ..

theorem getEntry_insertEntry_ne (hk : k ≠ e.placeholderId) :
    (h.insertEntry e).getEntry k = h.getEntry k := Table.get_insert_ne _ _ hk

theorem mem_selectEntries {p : TrailingEntry → Bool} :
    k ∈ h.selectEntries p ↔ ∃ e, h.getEntry k = some e ∧ p e = true := by
  simp only [selectEntries, List.mem_map, List.mem_filter]
  constructor
  · rintro ⟨e, ⟨⟨⟨k', e'⟩, hm, rfl⟩, hp⟩, rfl⟩
    have he := Table.mem_toList.mp hm
    exact ⟨e', by rw [h.keyed he]; exact he, hp⟩
  · rintro ⟨e, he, hp⟩
    exact ⟨e, ⟨⟨(k, e), Table.mem_toList.mpr he, rfl⟩, hp⟩, h.keyed he⟩

theorem nodup_selectEntries (p : TrailingEntry → Bool) : (h.selectEntries p).Nodup := by
  have hkeys : (h.entriesByPlaceholder.toList.map Prod.snd).map TrailingEntry.placeholderId =
      h.entriesByPlaceholder.toList.map Prod.fst := by
    rw [List.map_map]
    refine List.map_congr_left fun ke hm => ?_
    exact h.keyed (Table.mem_toList.mp hm)
  refine List.Nodup.sublist (List.filter_sublist.map _) ?_
  rw [hkeys]
  exact Table.nodup_keys _

/-- After a loop over the entries with a property, seen from one entry. -/
theorem exec_selectEntries {σ : Type} {step : σ → String → σ} {s s' : σ} {I P : σ → Prop}
    {p : TrailingEntry → Bool} (he : h.getEntry k = some e)
    (hrun : s' = exec step s (h.selectEntries p))
    (hself : p e = true → ∀ s, I s → P (step s k))
    (hI : ∀ s k', k' ≠ k → I s → I (step s k')) (hP : ∀ s k', k' ≠ k → P s → P (step s k'))
    (hs : I s) : if p e then P s' else I s' := by
  subst hrun
  split
  · rename_i hp
    exact exec_of_mem (hself hp) hI hP (h.nodup_selectEntries p)
      (h.mem_selectEntries.mpr ⟨e, he, hp⟩) hs
  · rename_i hp
    refine exec_of_notMem hI (fun hm => ?_) hs
    obtain ⟨e', he', hp'⟩ := h.mem_selectEntries.mp hm
    cases he'.symm.trans he
    exact hp hp'

end TrailingStopHandler

@[simp] theorem run_readHandler (f : TrailingStopHandler → τ) (w : World β) :
    (readHandler f).run w = (f w.handler, w) := rfl

@[simp] theorem run_modifyHandler (f : TrailingStopHandler → TrailingStopHandler) (w : World β) :
    (modifyHandler f).run w = ((), { w with handler := f w.handler }) := rfl

/-! ## Registration -/

theorem trailingTerms_ok {d : Decimal} {t : TrailingType} (h : trailingTerms order = .ok (d, t)) :
    AcceptedDistance d t := by
  unfold trailingTerms at h
  split at h
  · cases h
  · split at h
    · cases h
    · simp only at h
      split at h
      · cases h
      · split at h
        · cases h
        · rename_i hpos hpct
          cases h
          refine ⟨not_le.mp hpos, fun ht => ?_⟩
          by_contra hge
          exact hpct ⟨ht, not_lt.mp hge⟩

/-- A registered entry waits for its primary order, at an accepted distance. -/
theorem run_register {p ph : String} {w : World β} (h : ((register c p order).run w).1 = .ok ph) :
    let w' := ((register c p order).run w).2
    w'.handler.circuitBreaker = w.handler.circuitBreaker ∧
      w'.handler.getPlaceholderForPrimary p = some ph ∧
      ∃ e, w'.At ph e (w.liveFor ph) ∧ e.status = .pending ∧ e.side = order.side ∧
        e.symbol = order.symbol ∧ AcceptedDistance e.trailingDistance e.trailingType := by
  simp only [register] at h ⊢
  cases hterms : trailingTerms order with
  | error err => simp [hterms] at h
  | ok terms =>
    obtain ⟨d, t⟩ := terms
    simp only [hterms, run_bind, run_readHandler] at h ⊢
    by_cases hfull : w.handler.entriesByPlaceholder.len ≥ c.config.maxPendingEntries
    · simp [hfull] at h
    · simp only [hfull, if_false, run_bind, run_read, run_modifyHandler,
        pure_eq, run_ret, Except.ok.injEq] at h ⊢
      subst h
      have hself := w.handler.getEntry_insertEntry_self (TrailingEntry.new p order.symbol order.side
        order.quantity d t c.platform (c.now w.outside))
      exact ⟨rfl, Table.get_insert_self .., _, ⟨hself, rfl⟩, rfl, rfl, rfl, trailingTerms_ok hterms⟩

/-! ## Prices -/

/-- The stop that a tracking entry places at the price `x`. -/
def firstStop (e : TrailingEntry) (k l x : Decimal) : Decimal :=
  if Better e.side k x then e.calculateStop x else l

/-- A tracking entry asks for a stop at every price. -/
theorem priceUpdateAction_tracking {e : TrailingEntry} {k l : Decimal}
    (hs : e.status = .tracking k l) (x : Decimal) :
    priceUpdateAction e x = some (.placeStop e.symbol e.side e.quantity (firstStop e k l x)
      (best e.side k x)) := by
  have himp : e.isPeakImprovement k x = true ↔ Better e.side k x :=
    TrailingEntry.SameTerms.isPeakImprovement_iff (.refl e)
  by_cases hx : Better e.side k x
  · simp [priceUpdateAction, hs, himp.mpr hx, firstStop, best, hx]
  · simp [priceUpdateAction, hs, Bool.eq_false_iff.mpr (mt himp.mp hx), firstStop, best, hx]

/-- An active entry follows a new peak only. -/
theorem priceUpdateAction_active {e : TrailingEntry} {id : String} {k l : Decimal}
    (hs : e.status = .active id k l) (x : Decimal) :
    priceUpdateAction e x =
      if Better e.side k x then
        if shouldAdjustStop l (e.calculateStop x) = true then
          some (.adjustStop id e.symbol e.side e.quantity (e.calculateStop x) x)
        else some (.updateStateOnly x (e.calculateStop x))
      else none := by
  have himp : e.isPeakImprovement k x = true ↔ Better e.side k x :=
    TrailingEntry.SameTerms.isPeakImprovement_iff (.refl e)
  simp only [priceUpdateAction, hs, himp]

/-- What the price `x` does for the entry at `ph`; `opened`: the circuit breaker is open. -/
inductive PriceStep (ph : String) (x : Decimal) (opened : Bool) :
    TrailingEntry → List StopOrder → TrailingEntry → List StopOrder → Prop where
  /-- The entry does not follow the price, or the price is no new peak for an active entry. -/
  | idle {e L} (h : priceUpdateAction e x = none) : PriceStep ph x opened e L e L
  /-- The breaker is open: the first stop is not placed. -/
  | held {e L k l} (hs : e.status = .tracking k l) (ho : opened = true) :
      PriceStep ph x opened e L
        (e.setStatus (.tracking (best e.side k x) (e.calculateStop (best e.side k x)))) L
  /-- The first stop is placed. The recorded peak stays `k`. -/
  | placed {e L k l} (hs : e.status = .tracking k l) (ho : opened = false) (id : String) :
      PriceStep ph x opened e L (e.setStatus (.active id k (firstStop e k l x)))
        (L ++ [⟨ph, id, firstStop e k l x⟩])
  /-- A new peak whose stop is not sent: its change is too small, or the breaker is open. -/
  | noted {e L id k l} (hs : e.status = .active id k l) (hx : Better e.side k x)
      (ha : shouldAdjustStop l (e.calculateStop x) = true → opened = true) :
      PriceStep ph x opened e L (e.setStatus (.active id x (e.calculateStop x))) L
  /-- The stop is moved. The recorded peak stays `k`. -/
  | adjusted {e L id k l} (hs : e.status = .active id k l) (hx : Better e.side k x)
      (ha : shouldAdjustStop l (e.calculateStop x) = true) (ho : opened = false) (id' : String) :
      PriceStep ph x opened e L (e.setStatus (.active id' k (e.calculateStop x)))
        (L.filter (fun o => o.orderId ≠ id) ++ [⟨ph, id', e.calculateStop x⟩])

section Prices

variable {w : World β} {e : TrailingEntry} {L : List StopOrder} {ph : String} {l : Decimal}
  {x : Decimal}

theorem World.At.updateStatus {k : String} (ha : w.At k e L)
    {f : TrailingEntry → Option TrailingEntryStatus} {s : TrailingEntryStatus} (hf : f e = some s) :
    World.At { w with handler := w.handler.updateStatus k f } k (e.setStatus s) L :=
  ⟨w.handler.getEntry_updateStatus_self ha.entry hf, ha.live⟩

theorem World.At.addStop {k : String} (ha : w.At k e L) (b : β) (id : String) (q : Decimal) :
    World.At ({ w with outside := b }.addStop k id q) k e (L ++ [⟨k, id, q⟩]) :=
  ⟨ha.entry, by rw [World.liveFor_addStop_self, ← ha.live]; rfl⟩

theorem World.At.dropStop {k : String} (ha : w.At k e L) (b : β) (id : String) :
    World.At ({ w with outside := b }.dropStop k id) k e (L.filter fun o => o.orderId ≠ id) :=
  ⟨ha.entry, by rw [World.liveFor_dropStop_self, ← ha.live]; rfl⟩

theorem World.onlyAt_updateStatus (w : World β) (k : String)
    (f : TrailingEntry → Option TrailingEntryStatus) :
    World.OnlyAt k w { w with handler := w.handler.updateStatus k f } :=
  ⟨fun _ hk => w.handler.getEntry_updateStatus_ne hk f, fun _ _ => rfl, rfl⟩

theorem World.onlyAt_addStop (w : World β) (b : β) (k id : String) (q : Decimal) :
    World.OnlyAt k w ({ w with outside := b }.addStop k id q) :=
  ⟨fun _ _ => rfl, fun _ hk => World.liveFor_addStop_ne _ hk id q, rfl⟩

theorem World.onlyAt_dropStop (w : World β) (b : β) (k id : String) :
    World.OnlyAt k w ({ w with outside := b }.dropStop k id) :=
  ⟨fun _ _ => rfl, fun _ hk => World.liveFor_dropStop_ne _ hk id, rfl⟩

theorem run_getStopOrderStatus (w : World β) (ph stopOrderId symbol : String) :
    let after := (getStopOrderStatus c ph stopOrderId symbol).run w
    after.1 = (c.executor.getStopOrderStatus stopOrderId symbol w.outside).1 ∧
      after.2.handler = w.handler ∧
      after.2.outside = (c.executor.getStopOrderStatus stopOrderId symbol w.outside).2 := by
  simp only [getStopOrderStatus, run_call]
  cases (c.executor.getStopOrderStatus stopOrderId symbol w.outside).1 with
  | error e => exact ⟨rfl, rfl, rfl⟩
  | ok status =>
    dsimp only
    split <;> exact ⟨rfl, rfl, rfl⟩

theorem run_handlePlaceStopAction (hex : c.executor.Succeeds) (ha : w.At ph e L) {k : Decimal}
    (hs : e.status = .tracking k l) (symbol : String) (side : Side)
    (quantity stopLevel newPeak : Decimal) :
    let w' := ((handlePlaceStopAction c ph symbol side quantity stopLevel newPeak).run w).2
    World.OnlyAt ph w w' ∧
      if w.handler.isCircuitBreakerOpen then
        w'.At ph (e.setStatus (.tracking newPeak (e.calculateStop newPeak))) L
      else ∃ id, w'.At ph (e.setStatus (.active id k stopLevel)) (L ++ [⟨ph, id, stopLevel⟩]) := by
  unfold handlePlaceStopAction placeInitialStop
  rw [run_bind, run_bind, run_readHandler]
  by_cases hb : w.handler.isCircuitBreakerOpen = true
  · simp only [hb, if_true, pure_eq, run_ret, run_modifyHandler]
    exact ⟨w.onlyAt_updateStatus _ _, ha.updateStatus (by simp [hs])⟩
  · obtain ⟨o, b', ho, hq⟩ := hex.place ⟨symbol, side, quantity, stopLevel, stopLevel⟩ w.outside
    have hq' : o.stopPrice = stopLevel := hq
    rw [Bool.not_eq_true] at hb
    simp only [hb, Bool.false_eq_true, if_false, run_bind, placeStopOrder,
      run_call, ho, run_modifyHandler, pure_eq, run_ret]
    have hw := World.onlyAt_addStop w b' ph o.orderId o.stopPrice
    refine ⟨hw.trans (World.onlyAt_updateStatus _ _ _), o.orderId, ?_⟩
    rw [← hq']
    exact (ha.addStop b' o.orderId _).updateStatus (by simp [TrailingEntry.currentPeak, hs])

theorem run_executeAdjustStop (hex : c.executor.Succeeds) (ha : w.At ph e L) {id : String}
    {k : Decimal} (hs : e.status = .active id k l) (symbol : String) (side : Side)
    (quantity level newPeak : Decimal) :
    let w' := ((executePriceUpdateAction c ph
      (.adjustStop id symbol side quantity level newPeak)).run w).2
    World.OnlyAt ph w w' ∧
      if w.handler.isCircuitBreakerOpen then w'.At ph (e.setStatus (.active id newPeak level)) L
      else ∃ id', w'.At ph (e.setStatus (.active id' k level))
        (L.filter (fun o => o.orderId ≠ id) ++ [⟨ph, id', level⟩]) := by
  unfold executePriceUpdateAction adjustStopOrder
  rw [run_bind, run_bind, run_readHandler]
  by_cases hb : w.handler.isCircuitBreakerOpen = true
  · simp only [hb, if_true, pure_eq, run_ret, run_modifyHandler]
    exact ⟨w.onlyAt_updateStatus _ _, ha.updateStatus (by simp [hs])⟩
  · obtain ⟨o, b', ho, hq⟩ := hex.modify ⟨id, symbol, side, quantity, level, level⟩ w.outside
    have hq' : o.stopPrice = level := hq
    rw [Bool.not_eq_true] at hb
    simp only [hb, Bool.false_eq_true, if_false, run_bind, modifyStopOrder,
      run_call, ho, run_modifyHandler, pure_eq, run_ret]
    have hw := (World.onlyAt_dropStop w b' ph id).trans
      (World.onlyAt_addStop _ b' ph o.orderId o.stopPrice)
    refine ⟨hw.trans (World.onlyAt_updateStatus _ _ _), o.orderId, ?_⟩
    rw [← hq']
    exact ((ha.dropStop b' id).addStop b' o.orderId _).updateStatus (by simp [movedStatus, hs])

theorem run_updateEntry_none (he : w.handler.getEntry ph = some e)
    (hact : priceUpdateAction e x = none) : (updateEntry c x ph).run w = ((), w) := by
  simp only [updateEntry, run_bind, run_readHandler, he, hact, pure_eq,
    run_ret]

theorem run_updateEntry_some {action : PriceUpdateAction} (he : w.handler.getEntry ph = some e)
    (hact : priceUpdateAction e x = some action) :
    (updateEntry c x ph).run w = (executePriceUpdateAction c ph action).run w := by
  simp only [updateEntry, run_bind, run_readHandler, he, hact]

theorem run_updateEntry (hex : c.executor.Succeeds) (x : Decimal) (ha : w.At ph e L) :
    World.OnlyAt ph w ((updateEntry c x ph).run w).2 ∧
      ∃ e' L', ((updateEntry c x ph).run w).2.At ph e' L' ∧
        PriceStep ph x w.handler.isCircuitBreakerOpen e L e' L' := by
  cases hs : e.status with
  | tracking k l =>
    -- both placements differ only in the stop and the peak they are given
    rw [run_updateEntry_some ha.entry (priceUpdateAction_tracking hs x), executePriceUpdateAction]
    obtain ⟨honly, hw⟩ := run_handlePlaceStopAction hex ha hs e.symbol e.side e.quantity
      (firstStop e k l x) (best e.side k x)
    refine ⟨honly, ?_⟩
    cases hb : w.handler.isCircuitBreakerOpen with
    | true => exact ⟨_, _, by simpa [hb] using hw, .held hs rfl⟩
    | false =>
      simp only [hb, Bool.false_eq_true, if_false] at hw
      obtain ⟨id, hw⟩ := hw
      exact ⟨_, _, hw, .placed hs rfl id⟩
  | active id k l =>
    have hact := priceUpdateAction_active hs x
    by_cases hx : Better e.side k x
    · rw [if_pos hx] at hact
      by_cases hadj : shouldAdjustStop l (e.calculateStop x) = true
      · rw [if_pos hadj] at hact
        rw [run_updateEntry_some ha.entry hact]
        obtain ⟨honly, hw⟩ := run_executeAdjustStop hex ha hs e.symbol e.side e.quantity
          (e.calculateStop x) x
        refine ⟨honly, ?_⟩
        cases hb : w.handler.isCircuitBreakerOpen with
        | true => exact ⟨_, _, by simpa [hb] using hw, .noted hs hx fun _ => rfl⟩
        | false =>
          simp only [hb, Bool.false_eq_true, if_false] at hw
          obtain ⟨id', hw⟩ := hw
          exact ⟨_, _, hw, .adjusted hs hx hadj rfl id'⟩
      · rw [if_neg hadj] at hact
        rw [run_updateEntry_some ha.entry hact, executePriceUpdateAction, run_modifyHandler]
        exact ⟨w.onlyAt_updateStatus _ _, _, _, ha.updateStatus (by simp [hs]),
          .noted hs hx fun h => absurd h hadj⟩
    · rw [if_neg hx] at hact
      rw [run_updateEntry_none ha.entry hact]
      exact ⟨.refl, e, L, ha, .idle hact⟩
  | pending | triggered | cancelled | failed | priceSourceUnavailable =>
    have hact : priceUpdateAction e x = none := by simp [priceUpdateAction, hs]
    rw [run_updateEntry_none ha.entry hact]
    exact ⟨.refl, e, L, ha, .idle hact⟩

theorem onlyAt_updateEntry (hex : c.executor.Succeeds) (x : Decimal) (w : World β) (ph : String) :
    World.OnlyAt ph w ((updateEntry c x ph).run w).2 := by
  cases he : w.handler.getEntry ph with
  | some e => exact (run_updateEntry hex x ⟨he, rfl⟩).1
  | none =>
    have hcode : (updateEntry c x ph).run w = ((), w) := by
      simp [updateEntry, he]
    rw [hcode]
    exact .refl

theorem run_updateEntries (x : Decimal) (keys : List String) (w : World β) :
    ((updateEntries c x keys).run w).2 =
      exec (fun w ph => ((updateEntry c x ph).run w).2) w keys := by
  induction keys generalizing w with
  | nil => rfl
  | cons ph rest ih => simp only [updateEntries, run_bind, ih, exec_cons]

/-- A price of a symbol, seen from one entry. -/
theorem run_onPriceUpdate (hex : c.executor.Succeeds) (symbol : String) (x : Decimal)
    (ha : w.At ph e L) :
    let w' := ((onPriceUpdate c symbol x).run w).2
    w'.handler.circuitBreaker = w.handler.circuitBreaker ∧ ∃ e' L', w'.At ph e' L' ∧
      if e.symbol = symbol then PriceStep ph x w.handler.isCircuitBreakerOpen e L e' L'
      else e' = e ∧ L' = L := by
  intro w'
  have hw' : w' = exec (fun w ph => ((updateEntry c x ph).run w).2) w
      (w.handler.selectEntries fun e => e.symbol = symbol ∧ e.status.isActive) := by
    simp only [w', onPriceUpdate, run_bind, run_readHandler, run_updateEntries, pure_eq, run_ret]
  have hother {v : World β} {k : String} {e' : TrailingEntry} {L' : List StopOrder} (hk : k ≠ ph)
      (hat : v.At ph e' L') : ((updateEntry c x k).run v).2.At ph e' L' :=
    (onlyAt_updateEntry hex x v k).at_ne hk.symm hat
  have hscan := w.handler.exec_selectEntries ha.entry hw'
    (I := fun v => v.handler.circuitBreaker = w.handler.circuitBreaker ∧ v.At ph e L)
    (P := fun v => v.handler.circuitBreaker = w.handler.circuitBreaker ∧ ∃ e' L', v.At ph e' L' ∧
      PriceStep ph x w.handler.isCircuitBreakerOpen e L e' L')
    (fun _ v ⟨hb, hv⟩ => by
      obtain ⟨honly, e', L', hat, hstep⟩ := run_updateEntry hex x hv
      rw [TrailingStopHandler.isCircuitBreakerOpen, hb] at hstep
      exact ⟨honly.breaker.trans hb, e', L', hat, hstep⟩)
    (fun v k hk ⟨hb, hv⟩ => ⟨(onlyAt_updateEntry hex x v k).breaker.trans hb, hother hk hv⟩)
    (fun v k hk ⟨hb, e', L', hv, hstep⟩ =>
      ⟨(onlyAt_updateEntry hex x v k).breaker.trans hb, e', L', hother hk hv, hstep⟩) ⟨rfl, ha⟩
  by_cases hsym : e.symbol = symbol
  · simp only [hsym, true_and, decide_eq_true_eq, if_true] at hscan ⊢
    split at hscan
    · exact hscan
    · rename_i hn
      refine ⟨hscan.1, e, L, hscan.2, .idle ?_⟩
      cases hs : e.status <;> simp [hs, TrailingEntryStatus.isActive] at hn <;>
        simp [priceUpdateAction, hs]
  · simp only [hsym, false_and, decide_false, Bool.false_eq_true, if_false] at hscan ⊢
    exact ⟨hscan.1, e, L, hscan.2, rfl, rfl⟩

end Prices

/-! ## Activation -/

/-- From `w` to `w'` no entry, no stop and not the breaker changed. -/
structure World.Quiet (w w' : World β) : Prop where
  entry : ∀ k, w'.handler.getEntry k = w.handler.getEntry k
  live : w'.live = w.live
  breaker : w'.handler.circuitBreaker = w.handler.circuitBreaker

namespace World.Quiet

variable {w w' w'' : World β} {k : String} {e : TrailingEntry} {L : List StopOrder}

theorem refl : Quiet w w := ⟨fun _ => rfl, rfl, rfl⟩

theorem trans (h : Quiet w w') (h' : Quiet w' w'') : Quiet w w'' :=
  ⟨fun k => (h'.entry k).trans (h.entry k), h'.live.trans h.live, h'.breaker.trans h.breaker⟩

theorem liveFor (h : Quiet w w') (k : String) : w'.liveFor k = w.liveFor k := by
  simp only [World.liveFor, h.live]

theorem onlyAt (h : Quiet w w') (k : String) : World.OnlyAt k w w' :=
  ⟨fun k' _ => h.entry k', fun k' _ => h.liveFor k', h.breaker⟩

theorem keeps_at (h : Quiet w w') (ha : w.At k e L) : w'.At k e L :=
  ⟨(h.entry k).trans ha.entry, (h.liveFor k).trans ha.live⟩

end World.Quiet

theorem quiet_bind {α α' : Type} {t : TrailM β α} {g : α → TrailM β α'}
    (h : ∀ w, World.Quiet w (t.run w).2) (h' : ∀ a w, World.Quiet w ((g a).run w).2) (w : World β) :
    World.Quiet w ((t >>= g).run w).2 := by
  rw [run_bind]
  exact (h w).trans (h' _ _)

theorem quiet_outsideCall (f : β → τ × β) (w : World β) :
    World.Quiet w ((outsideCall f).run w).2 := ⟨fun _ => rfl, rfl, rfl⟩

theorem quiet_spawnTrackingTask (symbol : String) (w : World β) :
    World.Quiet w ((spawnTrackingTask c symbol).run w).2 := by
  unfold spawnTrackingTask
  split
  · rw [run_modifyHandler]
    cases ht : w.handler.symbolTasks.get symbol <;> exact ⟨fun _ => rfl, rfl, rfl⟩
  · exact .refl

theorem run_activationPrice (symbol : String) (w : World β) :
    ∃ b, ((activationPrice c symbol).run w).2 = { w with outside := b } := by
  unfold activationPrice
  rw [run_bind]
  cases ((outsideCall (c.priceSource.currentPrice symbol)).run w).1 with
  | ok price =>
    rw [run_bind]
    split <;> exact ⟨_, rfl⟩
  | error _ =>
    rw [run_bind]
    split
    · exact ⟨_, rfl⟩
    · rw [run_bind]
      split
      · exact ⟨_, rfl⟩
      · rw [run_bind]
        exact ⟨_, rfl⟩

theorem quiet_activationPrice (symbol : String) (w : World β) :
    World.Quiet w ((activationPrice c symbol).run w).2 := by
  obtain ⟨b, hb⟩ := run_activationPrice (c := c) symbol w
  rw [hb]
  exact ⟨fun _ => rfl, rfl, rfl⟩

/-- An activation gives an entry that tracks its first price, or an error. -/
theorem run_tryActivateTracking (e : TrailingEntry) (w : World β) :
    World.Quiet w ((tryActivateTracking c e).run w).2 ∧
      ((∃ err, ((tryActivateTracking c e).run w).1 = .error err) ∨
        ∃ a, ((tryActivateTracking c e).run w).1 =
          .ok (e.setStatus (.tracking a (e.calculateStop a)))) := by
  constructor
  · refine quiet_bind (quiet_outsideCall _) (fun _ w => ?_) w
    refine quiet_bind (quiet_activationPrice _) (fun price w => ?_) w
    cases price with
    | error e => exact .refl
    | ok a => exact quiet_bind (quiet_spawnTrackingTask _) (fun _ _ => .refl) w
  · unfold tryActivateTracking
    rw [run_bind, run_bind]
    cases ((activationPrice c e.symbol).run _).1 with
    | error err => exact .inl ⟨err, rfl⟩
    | ok a =>
      refine .inr ⟨a, ?_⟩
      rw [run_bind]
      rfl

theorem handleActivationFailure_ok {e e' : TrailingEntry} {err : GatewayError}
    (h : handleActivationFailure e err = .ok e') :
    ∃ reason, e' = e.setStatus (.priceSourceUnavailable reason 0 none) := by
  cases err <;> simp only [handleActivationFailure, Except.ok.injEq, reduceCtorEq] at h <;>
    exact ⟨_, h.symm⟩

/-- The answer to a fill of the primary order `p` and the world after it. -/
inductive FilledStep (p : String) (w : World β) : Except GatewayError Bool × World β → Prop where
  | ignored : FilledStep p w (.ok false, w)
  | refused {w'} (err : GatewayError) (hq : World.Quiet w w') : FilledStep p w (.error err, w')
  | waiting {w' ph e} (hph : w.handler.getPlaceholderForPrimary p = some ph)
      (he : w.handler.getEntry ph = some e) (hp : e.status.isPending = true)
      (hq : World.Quiet w w') (reason : String) :
      FilledStep p w (.ok false, { w' with
        handler := w'.handler.insertEntry
          (e.setStatus (.priceSourceUnavailable reason 0 none)) })
  | started {w' ph e} (hph : w.handler.getPlaceholderForPrimary p = some ph)
      (he : w.handler.getEntry ph = some e) (hp : e.status.isPending = true)
      (hq : World.Quiet w w') (a : Decimal) :
      FilledStep p w (.ok true, { w' with
        handler := w'.handler.insertEntry (e.setStatus (.tracking a (e.calculateStop a))) })

/-- A fill of the primary order `p` in terms of the activation of its entry. -/
inductive FilledRun (c : Ctx β) (p : String) (w : World β) :
    Except GatewayError Bool × World β → Prop where
  | ignored : FilledRun c p w (.ok false, w)
  | failed {ph e err} (hph : w.handler.getPlaceholderForPrimary p = some ph)
      (he : w.handler.getEntry ph = some e) (hp : e.status.isPending = true)
      (hr : ((tryActivateTracking c e).run w).1 = .error err) (err' : GatewayError) :
      FilledRun c p w (.error err', ((tryActivateTracking c e).run w).2)
  | waiting {ph e e' err} (hph : w.handler.getPlaceholderForPrimary p = some ph)
      (he : w.handler.getEntry ph = some e) (hp : e.status.isPending = true)
      (hr : ((tryActivateTracking c e).run w).1 = .error err)
      (hwait : handleActivationFailure e err = .ok e') :
      FilledRun c p w (.ok false, { ((tryActivateTracking c e).run w).2 with
        handler := ((tryActivateTracking c e).run w).2.handler.insertEntry e' })
  | started {ph e e'} (hph : w.handler.getPlaceholderForPrimary p = some ph)
      (he : w.handler.getEntry ph = some e) (hp : e.status.isPending = true)
      (hr : ((tryActivateTracking c e).run w).1 = .ok e') :
      FilledRun c p w (.ok true, { ((tryActivateTracking c e).run w).2 with
        handler := ((tryActivateTracking c e).run w).2.handler.insertEntry e' })

theorem filledRun_onPrimaryFilled (p : String) (fillPrice : Decimal) (w : World β) :
    FilledRun c p w ((onPrimaryFilled c p fillPrice).run w) := by
  simp only [onPrimaryFilled, run_bind, run_readHandler]
  cases hph : w.handler.getPlaceholderForPrimary p with
  | none => exact .ignored
  | some ph =>
    simp only [run_bind, run_readHandler]
    rcases Option.eq_none_or_eq_some (w.handler.getEntry ph) with he | ⟨e, he⟩
    · simp only [he, Option.any_none, Bool.false_eq_true, if_false]
      exact .ignored
    · by_cases hp : e.status.isPending = true
      · simp only [he, Option.any_some, hp, if_true, run_bind, run_readHandler]
        cases hr : ((tryActivateTracking c e).run w).1 with
        | ok e' => exact .started hph he hp hr
        | error err =>
          cases hfail : handleActivationFailure e err with
          | error err' =>
            simp only [hfail]
            exact .failed hph he hp hr err'
          | ok e' =>
            simp only [hfail]
            exact .waiting hph he hp hr hfail
      · simp only [he, Option.any_some, hp, Bool.false_eq_true, if_false]
        exact .ignored

theorem FilledRun.step {p : String} {w : World β} {r : Except GatewayError Bool × World β}
    (h : FilledRun c p w r) : FilledStep p w r := by
  cases h with
  | ignored => exact .ignored
  | failed hph he hp hr err' => exact .refused err' (run_tryActivateTracking _ w).1
  | waiting hph he hp hr hwait =>
    obtain ⟨reason, rfl⟩ := handleActivationFailure_ok hwait
    exact .waiting hph he hp (run_tryActivateTracking _ w).1 reason
  | started hph he hp hr =>
    obtain ⟨hq, ⟨err, herr⟩ | ⟨a, ha⟩⟩ := run_tryActivateTracking (c := c) _ w
    · cases hr.symm.trans herr
    · cases hr.symm.trans ha
      exact .started hph he hp hq a

theorem run_onPrimaryFilled (p : String) (fillPrice : Decimal) (w : World β) :
    FilledStep p w ((onPrimaryFilled c p fillPrice).run w) :=
  (filledRun_onPrimaryFilled p fillPrice w).step

/-- What a fill of a primary order does to an entry. -/
inductive ActivateStep (e : TrailingEntry) : TrailingEntry → Prop where
  | same : ActivateStep e e
  | started (hp : e.status.isPending = true) (a : Decimal) :
      ActivateStep e (e.setStatus (.tracking a (e.calculateStop a)))
  | waiting (hp : e.status.isPending = true) (reason : String) :
      ActivateStep e (e.setStatus (.priceSourceUnavailable reason 0 none))

section Filled

variable {w w' : World β} {ph p : String} {e : TrailingEntry} {L : List StopOrder}
  {r : Except GatewayError Bool × World β}

/-- A changed copy of an entry is stored, seen from the entry `ph`. -/
theorem World.At.insertEntry (ha : w.At ph e L) (hq : World.Quiet w w') {k : String}
    {e₁ : TrailingEntry} (he₁ : w.handler.getEntry k = some e₁) (s : TrailingEntryStatus) :
    World.At { w' with handler := w'.handler.insertEntry (e₁.setStatus s) } ph
      (if k = ph then e.setStatus s else e) L := by
  have ha' := hq.keeps_at ha
  have hkey : e₁.placeholderId = k := w.handler.keyed he₁
  split
  · rename_i hk
    subst hk
    cases he₁.symm.trans ha.entry
    refine ⟨?_, ha'.live⟩
    rw [← hkey]
    exact w'.handler.getEntry_insertEntry_self (e.setStatus s)
  · rename_i hk
    have hne : ph ≠ (e₁.setStatus s).placeholderId := fun h => hk (hkey.symm.trans h.symm)
    exact ⟨(w'.handler.getEntry_insertEntry_ne hne).trans ha'.entry, ha'.live⟩

/-- A fill of a primary order, seen from the entry `ph`. -/
theorem FilledStep.seen (h : FilledStep p w r) (ha : w.At ph e L) :
    ∃ e', r.2.At ph e' L ∧ ActivateStep e e' := by
  cases h with
  | ignored => exact ⟨e, ha, .same⟩
  | refused err hq => exact ⟨e, hq.keeps_at ha, .same⟩
  | @waiting w' k e₁ hk he₁ hp hq reason =>
    refine ⟨_, ha.insertEntry hq he₁ _, ?_⟩
    split
    · rename_i heq
      subst heq
      cases he₁.symm.trans ha.entry
      exact .waiting hp reason
    · exact .same
  | @started w' k e₁ hk he₁ hp hq a =>
    refine ⟨_, ha.insertEntry hq he₁ _, ?_⟩
    split
    · rename_i heq
      subst heq
      cases he₁.symm.trans ha.entry
      exact .started hp a
    · exact .same

theorem FilledStep.breaker (h : FilledStep p w r) :
    r.2.handler.circuitBreaker = w.handler.circuitBreaker := by
  cases h with
  | ignored => rfl
  | refused err hq => exact hq.breaker
  | waiting hk he hp hq reason => exact hq.breaker
  | started hk he hp hq a => exact hq.breaker

/-- `true` means that the entry of the order now tracks a first price. -/
theorem FilledStep.tracks (h : FilledStep p w (.ok true, w'))
    (hph : w.handler.getPlaceholderForPrimary p = some ph) (ha : w.At ph e L) :
    ∃ a, w'.At ph (e.setStatus (.tracking a (e.calculateStop a))) L := by
  cases h with
  | @started w₁ k e₁ hk he₁ hp hq a =>
    cases hk.symm.trans hph
    cases he₁.symm.trans ha.entry
    have := ha.insertEntry hq he₁ (.tracking a (e.calculateStop a))
    exact ⟨a, by simpa using this⟩

end Filled

/-! ## The feed goes and comes back -/

/-- What a recovery scan does to an entry without a feed. -/
inductive RecoverStep (e : TrailingEntry) : TrailingEntry → Prop where
  | same : RecoverStep e e
  | expired : RecoverStep e
      (e.setStatus (.failed "Entry TTL expired while waiting for price source" 0))
  | recovered (a : Decimal) : RecoverStep e (e.setStatus (.tracking a (e.calculateStop a)))
  | failedAgain (now : Instant) : RecoverStep e (failedRecovery now e)

/-- The recovery of one entry in terms of its activation. -/
inductive RecoverRun (c : Ctx β) (ph : String) (w : World β) : World β → Prop where
  /-- The entry is gone, or it failed to recover not long ago. -/
  | idle : RecoverRun c ph w w
  | expired {e} (he : w.handler.getEntry ph = some e) :
      RecoverRun c ph w { w with
        handler := w.handler.updateStatus ph fun _ =>
          some (.failed "Entry TTL expired while waiting for price source" 0) }
  | failedAgain {e err} (he : w.handler.getEntry ph = some e)
      (hr : ((tryActivateTracking c e).run w).1 = .error err) (now : Instant) :
      RecoverRun c ph w { ((tryActivateTracking c e).run w).2 with
        handler := ((tryActivateTracking c e).run w).2.handler.modifyEntry ph (failedRecovery now)
          (failedRecovery_placeholderId now) }
  | recovered {e e'} (he : w.handler.getEntry ph = some e)
      (hr : ((tryActivateTracking c e).run w).1 = .ok e') :
      RecoverRun c ph w
        ((storeRecovered ph e'.status).run ((tryActivateTracking c e).run w).2).2

section Recovery

variable (keys : List String) (stats : RecoveryStats) (w : World β) {ph : String}
  {e : TrailingEntry} {L : List StopOrder}

theorem recoverRun_tryRecoverEntry (ph : String) :
    RecoverRun c ph w ((tryRecoverEntry c ph stats).run w).2 := by
  cases he : w.handler.getEntry ph with
  | none =>
    have hcode : (tryRecoverEntry c ph stats).run w = (stats, w) := by
      simp [tryRecoverEntry, he]
    rw [hcode]
    exact .idle
  | some e =>
    simp only [tryRecoverEntry, run_bind, run_readHandler, he, run_read]
    cases recoveryCheck c.config (c.now w.outside) e with
    | expired => exact .expired he
    | skipped => exact .idle
    | due =>
      simp only [run_bind]
      cases hr : ((tryActivateTracking c e).run w).1 with
      | error err => exact .failedAgain he hr _
      | ok e' =>
        simp only [run_bind]
        split <;> exact .recovered he hr

/-- Alone, the entry is as it was when the copy was made. -/
theorem RecoverRun.seen {w w' : World β} (h : RecoverRun c ph w w') (ha : w.At ph e L) :
    World.OnlyAt ph w w' ∧ ∃ e', w'.At ph e' L ∧ RecoverStep e e' := by
  cases h with
  | idle => exact ⟨.refl, e, ha, .same⟩
  | expired he => exact ⟨w.onlyAt_updateStatus _ _, _, ha.updateStatus rfl, .expired⟩
  | failedAgain he hr now =>
    cases he.symm.trans ha.entry
    obtain ⟨hq, -⟩ := run_tryActivateTracking (c := c) e w
    have ha' := hq.keeps_at ha
    generalize ((tryActivateTracking c e).run w).2 = v at hq ha' ⊢
    refine ⟨(hq.onlyAt ph).trans ⟨fun k hk => ?_, fun _ _ => rfl, rfl⟩, _, ⟨?_, ha'.live⟩,
      .failedAgain now⟩
    · exact v.handler.getEntry_modifyEntry_ne hk (failedRecovery_placeholderId _)
    · exact (v.handler.getEntry_modifyEntry_self ph (failedRecovery_placeholderId _)).trans
        (by rw [ha'.entry]; rfl)
  | recovered he hr =>
    cases he.symm.trans ha.entry
    obtain ⟨hq, ⟨err, herr⟩ | ⟨a, hok⟩⟩ := run_tryActivateTracking (c := c) e w
    · cases hr.symm.trans herr
    · cases hr.symm.trans hok
      have ha' := hq.keeps_at ha
      generalize ((tryActivateTracking c e).run w).2 = v at hq ha' ⊢
      simp only [storeRecovered, run_step, ha'.entry]
      by_cases hu : e.status.isUnavailable = true
      · simp only [hu, if_true]
        exact ⟨(hq.onlyAt ph).trans (v.onlyAt_updateStatus _ _), _, ha'.updateStatus rfl,
          .recovered a⟩
      · simp only [hu, Bool.false_eq_true, if_false]
        exact ⟨hq.onlyAt ph, e, ha', .same⟩

theorem run_tryRecoverEntry {w : World β} (ha : w.At ph e L) :
    World.OnlyAt ph w ((tryRecoverEntry c ph stats).run w).2 ∧
      ∃ e', ((tryRecoverEntry c ph stats).run w).2.At ph e' L ∧ RecoverStep e e' :=
  (recoverRun_tryRecoverEntry stats w ph).seen ha

theorem onlyAt_tryRecoverEntry (ph : String) :
    World.OnlyAt ph w ((tryRecoverEntry c ph stats).run w).2 := by
  cases he : w.handler.getEntry ph with
  | some e => exact (run_tryRecoverEntry stats ⟨he, rfl⟩).1
  | none =>
    have hcode : (tryRecoverEntry c ph stats).run w = (stats, w) := by
      simp [tryRecoverEntry, he]
    rw [hcode]
    exact .refl

theorem run_tryRecoverEntries :
    (tryRecoverEntries c keys stats).run w =
      exec (fun sw ph => (tryRecoverEntry c ph sw.1).run sw.2) (stats, w) keys := by
  induction keys generalizing stats w with
  | nil => rfl
  | cons ph rest ih => simp only [tryRecoverEntries, run_bind, ih, exec_cons]

/-- A recovery scan, seen from one entry. -/
theorem run_retryUnavailableEntries {w : World β} (ha : w.At ph e L) :
    ∃ e', ((retryUnavailableEntries c).run w).2.At ph e' L ∧
      if e.status.isUnavailable then RecoverStep e e' else e' = e := by
  have hother {v : World β} {k : String} {e' : TrailingEntry} (stats : RecoveryStats) (hk : k ≠ ph)
      (hat : v.At ph e' L) : ((tryRecoverEntry c k stats).run v).2.At ph e' L :=
    (onlyAt_tryRecoverEntry stats v k).at_ne hk.symm hat
  have hscan (stats : RecoveryStats) := w.handler.exec_selectEntries ha.entry
    (run_tryRecoverEntries (c := c) _ stats w) (p := fun e => e.status.isUnavailable)
    (I := fun sw => sw.2.At ph e L) (P := fun sw => ∃ e', sw.2.At ph e' L ∧ RecoverStep e e')
    (fun _ sw hat => (run_tryRecoverEntry sw.1 hat).2) (fun sw _ hk hat => hother sw.1 hk hat)
    (fun sw _ hk ⟨e', hat, hstep⟩ => ⟨e', hother sw.1 hk hat, hstep⟩) ha
  simp only [retryUnavailableEntries, run_bind, run_readHandler]
  by_cases hu : e.status.isUnavailable = true
  · simp only [hu, if_true] at hscan ⊢
    exact hscan _
  · simp only [hu, Bool.false_eq_true, if_false] at hscan ⊢
    exact ⟨e, hscan _, rfl⟩

theorem run_disconnectEntries :
    ((disconnectEntries keys).run w).2 =
      exec (fun w ph => { w with
        handler := w.handler.updateStatus ph fun e => some (disconnectedStatus e) }) w keys := by
  induction keys generalizing w with
  | nil => rfl
  | cons ph rest ih =>
    simp only [disconnectEntries, run_bind, run_modifyHandler, ih, exec_cons]

theorem run_onPriceSourceDisconnected (symbol : String) {w : World β} (ha : w.At ph e L) :
    ((onPriceSourceDisconnected symbol).run w).2.At ph
      (if e.symbol = symbol ∧ e.status.isActive then e.setStatus (disconnectedStatus e) else e)
      L := by
  have hother {v : World β} {k : String} {e' : TrailingEntry} (hk : k ≠ ph) (hat : v.At ph e' L) :
      World.At { v with
        handler := v.handler.updateStatus k fun e => some (disconnectedStatus e) } ph e' L :=
    (v.onlyAt_updateStatus k _).at_ne hk.symm hat
  have hscan := w.handler.exec_selectEntries ha.entry (run_disconnectEntries _ w)
    (p := fun e => e.symbol = symbol ∧ e.status.isActive) (I := fun v => v.At ph e L)
    (P := fun v => v.At ph (e.setStatus (disconnectedStatus e)) L)
    (fun _ _ hat => hat.updateStatus rfl) (fun _ _ hk hat => hother hk hat)
    (fun _ _ hk hat => hother hk hat) ha
  simp only [onPriceSourceDisconnected, run_bind, run_readHandler, run_modifyHandler]
  simp only [decide_eq_true_eq] at hscan
  split at hscan
  · rename_i hsel
    rw [if_pos hsel]
    exact ⟨hscan.entry, hscan.live⟩
  · rename_i hsel
    rw [if_neg hsel]
    exact ⟨hscan.entry, hscan.live⟩

end Recovery

/-! ## Cancellation -/

theorem quiet_decrementSymbolTask (symbol : String) (w : World β) :
    World.Quiet w ((decrementSymbolTask symbol).run w).2 := by
  rw [decrementSymbolTask, run_modifyHandler]
  cases ht : w.handler.symbolTasks.get symbol with
  | none => exact .refl
  | some task =>
    by_cases hlast : task.refcount - 1 = 0
    · simp only [hlast, if_true]
      exact ⟨fun _ => rfl, rfl, rfl⟩
    · simp only [hlast, if_false]
      exact ⟨fun _ => rfl, rfl, rfl⟩

/-- A local cancellation leaves the stops alone. The answer is `true` if the entry was marked. -/
theorem run_cancel (reason : CancellationReason) {w : World β} {ph : String} {e : TrailingEntry}
    {L : List StopOrder} (ha : w.At ph e L) :
    World.OnlyAt ph w ((cancel ph reason).run w).2 ∧
      if e.status.isTerminal then
        ((cancel ph reason).run w).1 = .ok false ∧ ((cancel ph reason).run w).2 = w
      else ((cancel ph reason).run w).1 = .ok true ∧
        ((cancel ph reason).run w).2.At ph (e.setStatus (.cancelled reason)) L := by
  simp only [cancel, run_bind, markCancelled, run_step, ha.entry]
  by_cases ht : e.status.isTerminal = true
  · simp only [ht, if_true]
    exact ⟨.refl, rfl, rfl⟩
  · simp only [ht, Bool.false_eq_true, if_false]
    have hmark := ha.updateStatus (f := fun _ => some (.cancelled reason)) rfl
    have honly := w.onlyAt_updateStatus ph fun _ => some (.cancelled reason)
    have hq : ∀ v : World β, World.Quiet v ((do
        modifyHandler fun h =>
          { h with entriesByPrimary := h.entriesByPrimary.remove e.primaryOrderId }
        decrementSymbolTask e.symbol
        pure (Except.ok true) : TrailM β (Except GatewayError Bool)).run v).2 :=
      quiet_bind (fun _ => ⟨fun _ => rfl, rfl, rfl⟩) fun _ =>
        quiet_bind (quiet_decrementSymbolTask _) fun _ _ => .refl
    exact ⟨honly.trans ((hq _).onlyAt ph), by simp, (hq _).keeps_at hmark⟩

/-- The live stops without the one that the entry names. -/
def unnamedStops (e : TrailingEntry) (L : List StopOrder) : List StopOrder :=
  match e.status.stopOrderId with
  | some id => L.filter fun o => o.orderId ≠ id
  | none => L

/-- A cancellation cancels the stop that the entry names, and no other. -/
theorem run_cancelAsync (hex : c.executor.Succeeds) (reason : CancellationReason) {w : World β}
    {ph : String} {e : TrailingEntry} {L : List StopOrder} (ha : w.At ph e L) :
    World.OnlyAt ph w ((cancelAsync c ph reason).run w).2 ∧
      if e.status.isTerminal then
        ((cancelAsync c ph reason).run w).1 = .ok false ∧ ((cancelAsync c ph reason).run w).2 = w
      else ((cancelAsync c ph reason).run w).1 = .ok true ∧
        ((cancelAsync c ph reason).run w).2.At ph (e.setStatus (.cancelled reason))
          (unnamedStops e L) := by
  simp only [cancelAsync, run_bind, run_readHandler, ha.entry, unnamedStops]
  by_cases ht : e.status.isTerminal = true
  · simp only [ht, if_true]
    exact ⟨.refl, rfl, rfl⟩
  · simp only [ht, Bool.false_eq_true, if_false]
    cases hid : e.status.stopOrderId with
    | none =>
      have hc := run_cancel reason ha
      simp only [ht, Bool.false_eq_true, if_false] at hc
      exact hc
    | some id =>
      obtain ⟨b', hb'⟩ := hex.cancel id e.symbol w.outside
      simp only [run_bind, cancelStopOrder, run_call, hb']
      have hc := run_cancel reason (ha.dropStop b' id)
      simp only [ht, Bool.false_eq_true, if_false] at hc
      exact ⟨(w.onlyAt_dropStop b' ph id).trans hc.1, hc.2⟩

theorem onlyAt_cancelAsync (hex : c.executor.Succeeds) (reason : CancellationReason) (w : World β)
    (ph : String) : World.OnlyAt ph w ((cancelAsync c ph reason).run w).2 := by
  cases he : w.handler.getEntry ph with
  | some e => exact (run_cancelAsync hex reason ⟨he, rfl⟩).1
  | none =>
    have hcode : (cancelAsync c ph reason).run w = (.ok false, w) := by
      simp [cancelAsync, he]
    rw [hcode]
    exact .refl

end Gateway.Trailing
