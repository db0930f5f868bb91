import TradingGateway.Exit.Handler

/-!
# What a registration does to the world

`register` as a relation between the world before and after, for a handler that runs alone
(`RegisterStep`), and what the placeholder ids of legs look like.
-/

namespace Gateway.Exit

variable {β : Type} {c : Ctx β}

/-! ## Placeholder ids -/

theorem generatePlaceholderId_inj {leg leg' : ExitLegType} {p p' : String}
    (h : generatePlaceholderId leg p = generatePlaceholderId leg' p') : leg = leg' ∧ p = p' := by
  have h' := congrArg String.toList h
  cases leg <;> cases leg' <;>
    simp [generatePlaceholderId, ExitLegType.idPrefix, String.toList_append] at h' ⊢
  · exact String.toList_inj.mp h'
  · exact String.toList_inj.mp h'

theorem stopLossId_ne_takeProfitId (p : String) :
    generatePlaceholderId .stopLoss p ≠ generatePlaceholderId .takeProfit p := fun h => by
  have := (generatePlaceholderId_inj h).1
  cases this

theorem stopLossId_lt_takeProfitId (p : String) :
    Text.lt (generatePlaceholderId .stopLoss p) (generatePlaceholderId .takeProfit p) = true := by
  simp [Text.lt, generatePlaceholderId, ExitLegType.idPrefix, String.toList_append, Text.lexLt]

/-! ## One leg -/

/-- `e` inserted and indexed (`insert_entry_inner`). -/
def ExitHandler.insertEntryInner (h : ExitHandler) (e : ExitEntry) : ExitHandler :=
  (h.insertEntry e).addToSecondaryIndex e.primaryOrderId e.placeholderId

variable (h : ExitHandler) (e : ExitEntry) {w' : World β}

@[simp] theorem ExitHandler.getEntry_insertEntryInner (k : String) :
    (h.insertEntryInner e).getEntry k = if k = e.placeholderId then some e else h.getEntry k :=
  h.getEntry_insertEntry e k

theorem ExitHandler.getPlaceholdersForPrimary_insertEntryInner (p : String) :
    (h.insertEntryInner e).getPlaceholdersForPrimary p =
      if p = e.primaryOrderId then h.getPlaceholdersForPrimary p ++ [e.placeholderId]
      else h.getPlaceholdersForPrimary p := by
  rw [insertEntryInner, getPlaceholdersForPrimary_addToSecondaryIndex]
  by_cases hp : p = e.primaryOrderId
  · simp [hp]
  · simp [hp]

theorem ExitHandler.get_pendingByPrimary_insertEntryInner (q : String) :
    (h.insertEntryInner e).pendingByPrimary.get q =
      if q = e.primaryOrderId then
        some (h.getPlaceholdersForPrimary e.primaryOrderId ++ [e.placeholderId])
      else h.pendingByPrimary.get q := Table.get_insert ..

theorem run_registerLeg (p : String) (order : OrderRequest) (leg : ExitLegType) (price : Decimal)
    (w : World β) :
    (registerLeg c p order leg (some price)).run w =
      (some (generatePlaceholderId leg p),
        { w with
          handler := w.handler.insertEntryInner
            (legEntry c p order leg price (c.adapter.now w.broker)) }) := rfl

/-! ## The registration -/

/-- The two legs point at each other. -/
def ExitHandler.linkLegs (h : ExitHandler) (slId tpId : String) : ExitHandler :=
  (h.modifyEntry slId (.setSibling tpId)).modifyEntry tpId (.setSibling slId)

theorem ExitHandler.getEntry_linkLegs {slId tpId : String} (hne : slId ≠ tpId) (k : String) :
    (h.linkLegs slId tpId).getEntry k =
      if k = slId then (h.getEntry k).map (.setSibling tpId)
      else if k = tpId then (h.getEntry k).map (.setSibling slId)
      else h.getEntry k := by
  simp only [linkLegs, getEntry_modifyEntry]
  by_cases hsl : k = slId
  · subst hsl
    simp [hne]
  · by_cases htp : k = tpId
    · subst htp
      simp [hsl]
    · simp [hsl, htp]

@[simp] theorem ExitHandler.getPlaceholdersForPrimary_linkLegs (slId tpId p : String) :
    (h.linkLegs slId tpId).getPlaceholdersForPrimary p = h.getPlaceholdersForPrimary p := rfl

section legEntry

variable (p : String) (order : OrderRequest) (leg : ExitLegType) (price : Decimal) (now : Instant)

@[simp] theorem legEntry_placeholderId :
    (legEntry c p order leg price now).placeholderId = generatePlaceholderId leg p := rfl

@[simp] theorem legEntry_primaryOrderId :
    (legEntry c p order leg price now).primaryOrderId = p := rfl

end legEntry

/-- Both legs inserted, indexed and linked. -/
def ExitHandler.registerPair (h : ExitHandler) (c : Ctx β) (p : String) (order : OrderRequest)
    (sl tp : Decimal) (now : Instant) : ExitHandler :=
  ((h.insertEntryInner (legEntry c p order .stopLoss sl now)).insertEntryInner
    (legEntry c p order .takeProfit tp now)).linkLegs
      (generatePlaceholderId .stopLoss p) (generatePlaceholderId .takeProfit p)

section registerPair

variable (h : ExitHandler) (p : String) (order : OrderRequest) (sl tp : Decimal) (now : Instant)

theorem ExitHandler.getEntry_registerPair (k : String) :
    (h.registerPair c p order sl tp now).getEntry k =
      if k = generatePlaceholderId .stopLoss p then
        some ((legEntry c p order .stopLoss sl now).setSibling
          (generatePlaceholderId .takeProfit p))
      else if k = generatePlaceholderId .takeProfit p then
        some ((legEntry c p order .takeProfit tp now).setSibling
          (generatePlaceholderId .stopLoss p))
      else h.getEntry k := by
  have hne := stopLossId_ne_takeProfitId p
  rw [registerPair, getEntry_linkLegs _ hne, getEntry_insertEntryInner, getEntry_insertEntryInner]
  by_cases h₁ : k = generatePlaceholderId .stopLoss p
  · simp [h₁, hne]
  · by_cases h₂ : k = generatePlaceholderId .takeProfit p
    · simp [h₂, hne.symm]
    · simp [h₁, h₂]

theorem ExitHandler.getPlaceholdersForPrimary_registerPair (p' : String) :
    (h.registerPair c p order sl tp now).getPlaceholdersForPrimary p' =
      h.getPlaceholdersForPrimary p' ++
        if p' = p then [generatePlaceholderId .stopLoss p, generatePlaceholderId .takeProfit p]
        else [] := by
  rw [registerPair, getPlaceholdersForPrimary_linkLegs, getPlaceholdersForPrimary_insertEntryInner,
    getPlaceholdersForPrimary_insertEntryInner]
  by_cases hp : p' = p
  · simp [hp]
  · simp [hp]

end registerPair

/-- What `register` does. -/
inductive RegisterStep (c : Ctx β) (p : String) (order : OrderRequest) (w : World β) :
    Except GatewayError RegisteredExitLegs → World β → Prop where
  | refused (e : GatewayError) : RegisterStep c p order w (.error e) w
  /-- The order has no exits. -/
  | empty (hsl : order.stopLoss = none) (htp : order.takeProfit = none) :
      RegisterStep c p order w (.ok {}) w
  | one (leg : ExitLegType) {price : Decimal} (legs : RegisteredExitLegs)
      (hlegs : legs = match leg with
        | .stopLoss => { stopLossId := some (generatePlaceholderId leg p) }
        | .takeProfit => { takeProfitId := some (generatePlaceholderId leg p) })
      (hleg : match leg with
        | .stopLoss => order.stopLoss = some price ∧ order.takeProfit = none
        | .takeProfit => order.takeProfit = some price ∧ order.stopLoss = none) :
      RegisterStep c p order w (.ok legs)
        { w with
          handler := w.handler.insertEntryInner
            (legEntry c p order leg price (c.adapter.now w.broker)) }
  | both {sl tp : Decimal} (hsl : order.stopLoss = some sl) (htp : order.takeProfit = some tp) :
      RegisterStep c p order w
        (.ok
          { stopLossId := some (generatePlaceholderId .stopLoss p)
            takeProfitId := some (generatePlaceholderId .takeProfit p) })
        { w with handler := w.handler.registerPair c p order sl tp (c.adapter.now w.broker) }

theorem run_register (p : String) (order : OrderRequest) (w : World β) :
    RegisterStep c p order w ((register c p order).run w).1 ((register c p order).run w).2 := by
  simp only [register, Routine.run_bind, run_readHandler]
  by_cases hfull : w.handler.pendingByPlaceholder.len ≥ c.config.maxPendingEntries
  · simp only [hfull, if_true]
    exact .refused _
  · simp only [hfull, if_false]
    cases hsl : order.stopLoss with
    | none =>
      cases htp : order.takeProfit with
      | none => exact .empty hsl htp
      | some tp =>
        cases hv : validateExitPrices order with
        | error e => exact .refused e
        | ok _ => exact .one .takeProfit _ rfl ⟨htp, hsl⟩
    | some sl =>
      cases hv : validateExitPrices order with
      | error e => exact .refused e
      | ok _ =>
        cases htp : order.takeProfit with
        | none => exact .one .stopLoss _ rfl ⟨hsl, htp⟩
        | some tp =>
          have h := RegisterStep.both (c := c) (p := p) (w := w) hsl htp
          simpa [run_registerLeg, linkSiblings, ExitHandler.registerPair, ExitHandler.linkLegs,
            stopLossId_lt_takeProfitId] using h

/-- A registered leg is indexed under its primary order and waits for the first fill. -/
theorem RegisterStep.leg {p ph : String} {order : OrderRequest} {legs : RegisteredExitLegs}
    {w : World β} (h : RegisterStep c p order w (.ok legs) w')
    (hleg : legs.stopLossId = some ph ∨ legs.takeProfitId = some ph) :
    ph ∈ w'.handler.getPlaceholdersForPrimary p ∧
      ∃ e, w'.handler.getEntry ph = some e ∧ e.status = .pending ∧
        e.lastAttemptedFillQty = none := by
  cases h with
  | empty => simp at hleg
  | one leg _ hlegs =>
    have hph : generatePlaceholderId leg p = ph := by
      cases leg <;> subst hlegs <;> simpa using hleg
    subst hph
    refine ⟨?_, _, by simp; rfl, rfl, rfl⟩
    simp [ExitHandler.getPlaceholdersForPrimary_insertEntryInner]
  | both =>
    have hne := stopLossId_ne_takeProfitId p
    simp only [Option.some.injEq] at hleg
    simp only [ExitHandler.getEntry_registerPair,
      ExitHandler.getPlaceholdersForPrimary_registerPair]
    rcases hleg with rfl | rfl
    · exact ⟨by simp, _, by simp; rfl, rfl, rfl⟩
    · exact ⟨by simp, _, by simp [hne.symm]; rfl, rfl, rfl⟩

/-- `h'` is `h` with new entries for `p` at the placeholders `news`, indexed in this order. -/
structure ExitHandler.Inserts (p : String) (news : List String) (h h' : ExitHandler) : Prop where
  nonempty : news ≠ []
  nodup : news.Nodup
  id : ∀ k ∈ news, ∃ leg, k = generatePlaceholderId leg p
  new : ∀ k ∈ news, ∃ e, h'.getEntry k = some e ∧ e.placeholderId = k ∧ e.primaryOrderId = p ∧
    e.status = .pending ∧ ∀ s, e.siblingId = some s →
      s ∈ news ∧ ∃ leg, k = generatePlaceholderId leg p ∧ s = generatePlaceholderId leg.other p
  old : ∀ k, k ∉ news → h'.getEntry k = h.getEntry k
  index : ∀ q, h'.pendingByPrimary.get q =
    if q = p then some (h.getPlaceholdersForPrimary p ++ news) else h.pendingByPrimary.get q

theorem ExitHandler.Inserts.placeholders {p : String} {news : List String} {h h' : ExitHandler}
    (hins : Inserts p news h h') (q : String) :
    h'.getPlaceholdersForPrimary q =
      h.getPlaceholdersForPrimary q ++ if q = p then news else [] := by
  rw [getPlaceholdersForPrimary, hins.index]
  split
  · rename_i hq
    rw [hq]
    rfl
  · exact (List.append_nil _).symm

theorem ExitHandler.inserts_leg (p : String) (order : OrderRequest) (leg : ExitLegType)
    (price : Decimal) (now : Instant) :
    Inserts p [generatePlaceholderId leg p] h
      (h.insertEntryInner (legEntry c p order leg price now)) where
  nonempty := List.cons_ne_nil _ _
  nodup := List.nodup_singleton _
  id k hk := ⟨leg, List.mem_singleton.mp hk⟩
  new k hk := by
    obtain rfl := List.mem_singleton.mp hk
    refine ⟨_, by rw [getEntry_insertEntryInner]; exact if_pos rfl, rfl, rfl, rfl, ?_⟩
    intro s hs
    cases hs
  old k hk := by
    rw [List.mem_singleton] at hk
    rw [getEntry_insertEntryInner]
    exact if_neg hk
  index q := h.get_pendingByPrimary_insertEntryInner _ q

theorem ExitHandler.inserts_pair (p : String) (order : OrderRequest) (sl tp : Decimal)
    (now : Instant) :
    Inserts p [generatePlaceholderId .stopLoss p, generatePlaceholderId .takeProfit p] h
      (h.registerPair c p order sl tp now) where
  nonempty := List.cons_ne_nil _ _
  nodup := by simpa using stopLossId_ne_takeProfitId p
  id k hk := by
    rcases List.mem_pair.mp hk with rfl | rfl
    · exact ⟨.stopLoss, rfl⟩
    · exact ⟨.takeProfit, rfl⟩
  new k hk := by
    have hne := stopLossId_ne_takeProfitId p
    rw [getEntry_registerPair]
    rcases List.mem_pair.mp hk with rfl | rfl
    · refine ⟨_, if_pos rfl, rfl, rfl, rfl, ?_⟩
      rintro s ⟨⟩
      exact ⟨List.mem_pair.mpr (.inr rfl), .stopLoss, rfl, rfl⟩
    · refine ⟨_, by rw [if_neg hne.symm, if_pos rfl], rfl, rfl, rfl, ?_⟩
      rintro s ⟨⟩
      exact ⟨List.mem_pair.mpr (.inl rfl), .takeProfit, rfl, rfl⟩
  old k hk := by
    rw [List.mem_pair, not_or] at hk
    rw [getEntry_registerPair, if_neg hk.1, if_neg hk.2]
  index q := by
    -- linking the legs leaves the index alone
    refine (get_pendingByPrimary_insertEntryInner _ _ q).trans ?_
    rw [get_pendingByPrimary_insertEntryInner, getPlaceholdersForPrimary_insertEntryInner]
    simp only [legEntry_primaryOrderId, legEntry_placeholderId, if_true]
    by_cases hq : q = p
    · simp [hq]
    · simp [hq]

theorem RegisterStep.inserts {p : String} {order : OrderRequest}
    {r : Except GatewayError RegisteredExitLegs} {w : World β} (h : RegisterStep c p order w r w') :
    w' = w ∨
      ∃ news h', ExitHandler.Inserts p news w.handler h' ∧ w' = { w with handler := h' } := by
  cases h with
  | refused e => exact .inl rfl
  | empty => exact .inl rfl
  | one leg => exact .inr ⟨_, _, w.handler.inserts_leg p order leg _ _, rfl⟩
  | both => exact .inr ⟨_, _, w.handler.inserts_pair p order _ _ _, rfl⟩

/-! ## Backups -/

namespace ExitHandler

/-- An update of several entries, each maybe more than once. -/
theorem getEntry_foldl_modifyEntry {g : ExitEntry → ExitEntry} (hg : ∀ e, g (g e) = g e)
    (ids : List String) (h : ExitHandler) (k : String) :
    (ids.foldl (fun h id => h.modifyEntry id g) h).getEntry k =
      if k ∈ ids then (h.getEntry k).map g else h.getEntry k := by
  induction ids generalizing h with
  | nil => simp
  | cons id ids ih =>
    rw [List.foldl_cons, ih, getEntry_modifyEntry]
    by_cases hid : k = id
    · subst hid
      cases h.getEntry k <;> simp [hg]
    · simp [hid]

@[simp] theorem pendingByPrimary_foldl_modifyEntry {g : ExitEntry → ExitEntry} (ids : List String)
    (h : ExitHandler) :
    (ids.foldl (fun h id => h.modifyEntry id g) h).pendingByPrimary = h.pendingByPrimary := by
  induction ids generalizing h with
  | nil => rfl
  | cons id ids ih => exact ih (h.modifyEntry id g)

theorem getPlaceholdersForPrimary_foldl_modifyEntry {g : ExitEntry → ExitEntry} (ids : List String)
    (h : ExitHandler) (p : String) :
    (ids.foldl (fun h id => h.modifyEntry id g) h).getPlaceholdersForPrimary p =
      h.getPlaceholdersForPrimary p := by
  rw [getPlaceholdersForPrimary, pendingByPrimary_foldl_modifyEntry, getPlaceholdersForPrimary]

variable (h : ExitHandler) (backupId actual : String)

theorem getEntry_activateBackup (k : String) :
    (h.activateBackup backupId actual).2.getEntry k =
      if k ∈ h.getPlaceholdersForPrimary backupId then (h.getEntry k).map (.setPrimary actual)
      else h.getEntry k := by
  unfold activateBackup
  by_cases hids : h.getPlaceholdersForPrimary backupId = []
  · simp [hids]
  · simp only [List.isEmpty_iff, hids, if_false, getEntry_extendSecondaryIndex,
      getEntry_dropPrimary]
    rw [getEntry_foldl_modifyEntry]
    exact fun _ => rfl

theorem getPlaceholdersForPrimary_activateBackup (p : String) :
    (h.activateBackup backupId actual).2.getPlaceholdersForPrimary p =
      (if p = backupId then [] else h.getPlaceholdersForPrimary p) ++
        if p = actual then h.getPlaceholdersForPrimary backupId else [] := by
  unfold activateBackup
  by_cases hids : h.getPlaceholdersForPrimary backupId = []
  · by_cases hp : p = backupId
    · simp [hp, hids]
    · simp [hp, hids]
  · simp only [List.isEmpty_iff, hids, if_false, getPlaceholdersForPrimary_extendSecondaryIndex,
      getPlaceholdersForPrimary_dropPrimary, getPlaceholdersForPrimary_foldl_modifyEntry]
    by_cases hp : p = actual
    · subst hp
      simp
    · simp [hp]

end ExitHandler

end Gateway.Exit
