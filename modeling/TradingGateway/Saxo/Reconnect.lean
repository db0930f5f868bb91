import TradingGateway.Saxo.Provider

/-!
# Does a reconnect restore every feed?

After a successful reconnect the new context should have a price subscription for each configured
symbol and the order subscription, a reader that is not cancelled, and no snapshot of an earlier
context that its deltas could be merged into. The last always holds. The others fail as soon as the
reader of an earlier connection has wound up: it has cancelled the one token, and the symbols it was
subscribed to are still on record.

* `reconnect_restored_iff`: which reconnects restore every feed.
* `not_restored_of_done`: none does after a reader has wound up.
-/

namespace Gateway.Saxo

namespace SaxoProvider

/-! ## Snapshots and their contexts -/

/-- Contexts are drawn one after the other, and a snapshot is not older than any subscription whose
deltas it takes. -/
structure Sound (p : SaxoProvider) : Prop where
  accepted_lt : ∀ c f, (c, f) ∈ p.accepted → c < p.contexts
  origin_lt : ∀ r o, p.origin.get r = some o → o < p.contexts
  le_origin : ∀ c f o, (c, f) ∈ p.accepted → p.origin.get f.referenceId = some o → c ≤ o
  current : ∀ c, p.contextId = some c → c + 1 = p.contexts

/-- What `Sound` speaks of is the same. -/
structure SameContexts (p p' : SaxoProvider) : Prop where
  accepted : p'.accepted = p.accepted
  origin : p'.origin = p.origin
  contexts : p'.contexts = p.contexts
  contextId : p'.contextId = p.contextId

variable {p : SaxoProvider} {lower : String → String} {b : Broker}

theorem sound_new : Sound new where
  accepted_lt c f h := by cases h
  origin_lt r o h := by cases h
  le_origin c f o h := by cases h
  current c h := by cases h

variable (feed : Feed) (symbols : List String) {p' q : SaxoProvider}

theorem Sound.shrink (h : Sound p) (haccepted : p'.accepted ⊆ p.accepted)
    (horigin : ∀ r o, p'.origin.get r = some o → p.origin.get r = some o)
    (hcontexts : p'.contexts = p.contexts) (hcontextId : p'.contextId = p.contextId) :
    Sound p' := by
  constructor
  · intro c f hf
    rw [hcontexts]
    exact h.accepted_lt c f (haccepted hf)
  · intro r o ho
    rw [hcontexts]
    exact h.origin_lt r o (horigin r o ho)
  · intro c f o hf ho
    exact h.le_origin c f o (haccepted hf) (horigin _ o ho)
  · rw [hcontextId, hcontexts]
    exact h.current

theorem Sound.frame (h : Sound p) (hs : SameContexts p p') : Sound p' :=
  h.shrink (hs.accepted ▸ List.Subset.refl _) (fun _ _ ho => hs.origin ▸ ho) hs.contexts
    hs.contextId

theorem Sound.accept {context : ℕ} {feed : Feed} {snapshot : Json} (h : Sound p)
    (hc : context + 1 = p.contexts) : Sound (p.accept context feed snapshot) := by
  have horigin : ∀ r o, (p.accept context feed snapshot).origin.get r = some o →
      (r = feed.referenceId ∧ o = context) ∨ p.origin.get r = some o := by
    intro r o ho
    simp only [SaxoProvider.accept, Table.get_insert] at ho
    split at ho
    · rename_i hr
      cases ho
      exact Or.inl ⟨hr, rfl⟩
    · exact Or.inr ho
  have haccepted : ∀ c f, (c, f) ∈ (p.accept context feed snapshot).accepted →
      (c, f) ∈ p.accepted ∨ (c = context ∧ f = feed) := by
    intro c f hf
    simpa [SaxoProvider.accept] using hf
  constructor
  · intro c f hf
    show c < p.contexts
    rcases haccepted c f hf with hf | ⟨rfl, -⟩
    · exact h.accepted_lt c f hf
    · omega
  · intro r o ho
    show o < p.contexts
    rcases horigin r o ho with ⟨-, rfl⟩ | ho
    · omega
    · exact h.origin_lt r o ho
  · intro c f o hf ho
    -- the new snapshot is the newest of all
    have hle : c < p.contexts := by
      rcases haccepted c f hf with hf | ⟨rfl, -⟩
      · exact h.accepted_lt c f hf
      · omega
    rcases horigin _ o ho with ⟨-, rfl⟩ | ho'
    · omega
    · rcases haccepted c f hf with hf | ⟨rfl, rfl⟩
      · exact h.le_origin c f o hf ho'
      · simp only [SaxoProvider.accept, Table.get_insert_self] at ho
        cases ho
        exact Nat.le_refl _
  · exact h.current

/-! ## What subscribing does -/

/-- A part of a call that subscribes in a context. -/
structure Subscribes (context : ℕ) (p p' : SaxoProvider) : Prop where
  contexts : p'.contexts = p.contexts
  contextId : p'.contextId = p.contextId
  instrumentMap : p'.instrumentMap = p.instrumentMap
  cancelled : p'.cancelled = p.cancelled
  readers : p'.readers = p.readers
  sound : context + 1 = p.contexts → Sound p → Sound p'

variable {context : ℕ}

theorem Subscribes.refl (p : SaxoProvider) : Subscribes context p p :=
  ⟨rfl, rfl, rfl, rfl, rfl, fun _ h => h⟩

theorem Subscribes.trans {p'' : SaxoProvider} (h : Subscribes context p p')
    (h' : Subscribes context p' p'') : Subscribes context p p'' where
  contexts := h'.contexts.trans h.contexts
  contextId := h'.contextId.trans h.contextId
  instrumentMap := h'.instrumentMap.trans h.instrumentMap
  cancelled := h'.cancelled.trans h.cancelled
  readers := h'.readers.trans h.readers
  sound hc hs := h'.sound (hc.trans h.contexts.symm) (h.sound hc hs)

theorem subscribes_accept (snapshot : Json) :
    Subscribes context p (p.accept context feed snapshot) :=
  ⟨rfl, rfl, rfl, rfl, rfl, fun hc h => h.accept hc⟩

theorem subscribes_requestFeed : Subscribes context p (p.requestFeed b context feed).2 := by
  unfold requestFeed
  split
  · exact .refl p
  · exact subscribes_accept feed _

theorem subscribes_subscribeInstrument (symbol : String) (info : SaxoInstrumentInfo) :
    Subscribes context p (p.subscribeInstrument lower b context symbol info).2 := by
  have hfeed : Subscribes context p (p.requestFeed b context
      (.price (referenceIdForSymbol lower symbol) info)).2 := subscribes_requestFeed _
  unfold subscribeInstrument
  dsimp only
  split
  · exact .refl p
  · split
    · rename_i e p' h
      rw [h] at hfeed
      exact hfeed
    · rename_i p' h
      rw [h] at hfeed
      exact hfeed.trans ⟨rfl, rfl, rfl, rfl, rfl, fun _ h => h.frame ⟨rfl, rfl, rfl, rfl⟩⟩

theorem subscribes_subscribeSymbol (p : SaxoProvider) (symbol : String) :
    Subscribes context p (p.subscribeSymbol lower b context symbol).2 := by
  unfold subscribeSymbol
  split
  · exact .refl p
  · split
    · exact .refl p
    · exact subscribes_subscribeInstrument symbol _

theorem subscribes_subscribeEach (p : SaxoProvider) :
    Subscribes context p (p.subscribeEach lower b context symbols) := by
  induction symbols generalizing p with
  | nil => exact .refl p
  | cons symbol rest ih => exact (subscribes_subscribeSymbol p symbol).trans (ih _)

theorem subscribes_subscribeAll (p : SaxoProvider) :
    Subscribes context p (subscribeAll lower b context symbols p).2 := by
  induction symbols generalizing p with
  | nil => exact .refl p
  | cons symbol rest ih =>
    have hsymbol : Subscribes context p (p.subscribeSymbol lower b context symbol).2 :=
      subscribes_subscribeSymbol p symbol
    unfold subscribeAll
    split
    · rename_i e p' h
      rw [h] at hsymbol
      exact hsymbol
    · rename_i p' h
      rw [h] at hsymbol
      exact hsymbol.trans (ih p')

theorem subscribes_createInitialSubscriptions (p : SaxoProvider) :
    Subscribes context p (createInitialSubscriptions lower b symbols context p) :=
  ((subscribes_subscribeEach symbols p).trans (subscribes_requestFeed .balance)).trans
    (subscribes_requestFeed .orders)

/-! ## What the readers do -/

theorem advance_eq (p : SaxoProvider) (i : ℕ) (old new : ReaderPhase)
    (effect : SaxoProvider → SaxoProvider) :
    p.advance i old new effect = p ∨
      ∃ readers, p.advance i old new effect = effect { p with readers } := by
  unfold advance
  split
  · exact Or.inl rfl
  · split
    · exact Or.inr ⟨_, rfl⟩
    · exact Or.inl rfl

theorem mergeMessage_eq (p : SaxoProvider) (referenceId : String) (payload : Json) :
    ∃ snapshotStore, p.mergeMessage referenceId payload = { p with snapshotStore } := by
  unfold mergeMessage
  split
  · split
    · exact ⟨p.snapshotStore, rfl⟩
    · exact ⟨_, rfl⟩
  · exact ⟨p.snapshotStore, rfl⟩

/-- Readers change the store, the channel and their own phases, and they may cancel the token. -/
theorem readerStep_eq (p : SaxoProvider) (r : ReaderStep) :
    ∃ readers eventTx cancelled snapshotStore, (p.cancelled = true → cancelled = true) ∧
      p.readerStep r = { p with readers, eventTx, cancelled, snapshotStore } := by
  cases r with
  | deliver i referenceId payload =>
    rcases advance_eq p i .running .running fun p => p.mergeMessage referenceId payload with
      h | ⟨readers, h⟩
    · exact ⟨p.readers, p.eventTx, p.cancelled, p.snapshotStore, id, h⟩
    · obtain ⟨store, hstore⟩ := mergeMessage_eq { p with readers } referenceId payload
      exact ⟨readers, p.eventTx, p.cancelled, store, id, h.trans hstore⟩
  | leave i =>
    rcases advance_eq p i .running .leaving id with h | ⟨readers, h⟩
    · exact ⟨p.readers, p.eventTx, p.cancelled, p.snapshotStore, id, h⟩
    · exact ⟨readers, p.eventTx, p.cancelled, p.snapshotStore, id, h⟩
  | clear i =>
    rcases advance_eq p i .leaving .cleared fun p => { p with eventTx := none } with
      h | ⟨readers, h⟩
    · exact ⟨p.readers, p.eventTx, p.cancelled, p.snapshotStore, id, h⟩
    · exact ⟨readers, none, p.cancelled, p.snapshotStore, id, h⟩
  | cancel i =>
    rcases advance_eq p i .cleared .done fun p => { p with cancelled := true } with
      h | ⟨readers, h⟩
    · exact ⟨p.readers, p.eventTx, p.cancelled, p.snapshotStore, id, h⟩
    · exact ⟨readers, p.eventTx, true, p.snapshotStore, fun _ => rfl, h⟩

theorem sameContexts_readerStep (p : SaxoProvider) (r : ReaderStep) :
    SameContexts p (p.readerStep r) := by
  obtain ⟨readers, eventTx, cancelled, store, -, h⟩ := p.readerStep_eq r
  rw [h]
  exact ⟨rfl, rfl, rfl, rfl⟩

theorem cancelled_readerStep (h : p.cancelled = true) (r : ReaderStep) :
    (p.readerStep r).cancelled = true := by
  obtain ⟨readers, eventTx, cancelled, store, hcancelled, heq⟩ := p.readerStep_eq r
  rw [heq]
  exact hcancelled h

theorem sameContexts_exec (p : SaxoProvider) (during : List ReaderStep) :
    SameContexts p (Run.exec readerStep p during) := by
  induction during generalizing p with
  | nil => exact ⟨rfl, rfl, rfl, rfl⟩
  | cons r rest ih =>
    have hstep := p.sameContexts_readerStep r
    have hrest := ih (p.readerStep r)
    exact ⟨hrest.accepted.trans hstep.accepted, hrest.origin.trans hstep.origin,
      hrest.contexts.trans hstep.contexts, hrest.contextId.trans hstep.contextId⟩

/-- The readers and the token are the same. -/
def SameReaders (p q : SaxoProvider) : Prop := p.readers = q.readers ∧ p.cancelled = q.cancelled

theorem SameReaders.advance (h : SameReaders p q) (i : ℕ) (old new : ReaderPhase)
    {effect : SaxoProvider → SaxoProvider}
    (he : ∀ p q, SameReaders p q → SameReaders (effect p) (effect q)) :
    SameReaders (p.advance i old new effect) (q.advance i old new effect) := by
  unfold SaxoProvider.advance
  rw [← h.1]
  split
  · exact h
  · split
    · exact he _ _ ⟨rfl, h.2⟩
    · exact h

/-- What readers do to the token depends on the readers and the token only. -/
theorem SameReaders.readerStep (h : SameReaders p q) (r : ReaderStep) :
    SameReaders (p.readerStep r) (q.readerStep r) := by
  cases r with
  | deliver i referenceId payload =>
    refine h.advance i _ _ fun p q hpq => ?_
    obtain ⟨store, hp⟩ := p.mergeMessage_eq referenceId payload
    obtain ⟨store', hq⟩ := q.mergeMessage_eq referenceId payload
    rw [hp, hq]
    exact hpq
  | leave i => exact h.advance i _ _ fun p q hpq => hpq
  | clear i => exact h.advance i _ _ fun p q hpq => hpq
  | cancel i => exact h.advance i _ _ fun p q hpq => ⟨hpq.1, rfl⟩

theorem SameReaders.exec (h : SameReaders p q) (during : List ReaderStep) :
    SameReaders (Run.exec SaxoProvider.readerStep p during)
      (Run.exec SaxoProvider.readerStep q during) := by
  induction during generalizing p q with
  | nil => exact h
  | cons r rest ih => exact ih (h.readerStep r)

/-! ## Every run is sound -/

theorem Sound.drawContext (h : Sound p) (config : ProviderConfig) :
    Sound (p.drawContext config) := by
  constructor
  · intro c f hf
    exact Nat.lt_succ_of_lt (h.accepted_lt c f hf)
  · intro r o ho
    exact Nat.lt_succ_of_lt (h.origin_lt r o ho)
  · exact h.le_origin
  · rintro c ⟨⟩
    rfl

theorem subscribes_startReading (lower : String → String) (b : Broker) (symbols : List String)
    (context : ℕ) (q : SaxoProvider) :
    Subscribes context q (createInitialSubscriptions lower b symbols context
      { q with eventTx := some context }) := by
  have hchannel : Subscribes context q { q with eventTx := some context } :=
    ⟨rfl, rfl, rfl, rfl, rfl, fun _ h => h.frame ⟨rfl, rfl, rfl, rfl⟩⟩
  exact hchannel.trans (subscribes_createInitialSubscriptions symbols _)

theorem Sound.startReading (h : Sound p) (hc : context + 1 = p.contexts)
    (during : List ReaderStep) (symbols : List String) :
    Sound (p.startReading lower b during symbols context) := by
  have hcreated := (subscribes_startReading lower b symbols context p).sound hc h
  have hduring := hcreated.frame (sameContexts_exec _ during)
  exact hduring.frame ⟨rfl, rfl, rfl, rfl⟩

theorem Sound.connect (h : Sound p) (during : List ReaderStep) (config : ProviderConfig) :
    Sound (p.connect lower b during config).2 := by
  have hdrawn := h.drawContext config
  unfold SaxoProvider.connect
  dsimp only
  split
  · exact hdrawn
  · rename_i map _
    have hloaded : Sound { p.drawContext config with instrumentMap := some map } :=
      hdrawn.frame ⟨rfl, rfl, rfl, rfl⟩
    split
    · exact hloaded
    · exact hloaded.startReading rfl during config.symbols

theorem Sound.reconnect (h : Sound p) (during : List ReaderStep) :
    Sound (p.reconnect lower b during).2 := by
  unfold SaxoProvider.reconnect
  split
  · exact h
  · exact h.connect during _

theorem Sound.subscribe (h : Sound p) (symbols : List String) :
    Sound (p.subscribe lower b symbols).2 := by
  unfold SaxoProvider.subscribe
  split
  · exact h
  · rename_i context hcontext
    exact (subscribes_subscribeAll symbols p).sound (h.current context hcontext) h

theorem Sound.unsubscribeSymbol (h : Sound p) (symbol : String) :
    Sound (p.unsubscribeSymbol lower b context symbol) := by
  unfold SaxoProvider.unsubscribeSymbol
  dsimp only
  split
  · exact h
  · have horigin : ∀ r o, (p.origin.remove (referenceIdForSymbol lower symbol)).get r = some o →
        p.origin.get r = some o := by
      intro r o ho
      rw [Table.get_remove] at ho
      split at ho
      · cases ho
      · exact ho
    unfold deleteSubscription
    split
    · exact h.shrink (List.Subset.refl _) horigin rfl rfl
    · exact h.shrink (List.filter_subset_self _) horigin rfl rfl

theorem Sound.unsubscribe (h : Sound p) (symbols : List String) :
    Sound (p.unsubscribe lower b symbols).2 := by
  unfold SaxoProvider.unsubscribe
  split
  · exact h
  · exact Run.exec_inv_all (I := Sound) (fun _ symbol h => h.unsubscribeSymbol symbol) h symbols

theorem Sound.step (h : Sound p) (s : ProviderStep) : Sound (p.step lower s) := by
  cases s with
  | connect b during config => exact h.connect during config
  | reconnect b during => exact h.reconnect during
  | subscribe b symbols => exact h.subscribe symbols
  | unsubscribe b symbols => exact h.unsubscribe symbols
  | disconnect => exact h.frame ⟨rfl, rfl, rfl, rfl⟩
  | reader r => exact h.frame (p.sameContexts_readerStep r)

theorem sound_exec (lower : String → String) (steps : List ProviderStep) :
    Sound (Run.exec (step lower) new steps) :=
  Run.exec_inv_all (I := Sound) (fun _ s h => h.step s) sound_new steps

/-! ## What a reconnect restores -/

section restore

variable (lower : String → String) (map : SaxoInstrumentMap)

/-- Every feed is back in a context. -/
structure Restored (symbols : List String) (context : ℕ) (p : SaxoProvider) : Prop where
  prices : ∀ symbol ∈ symbols, ∃ info, map.symbolToSaxo.get symbol = some info ∧
    (context, .price (referenceIdForSymbol lower symbol) info) ∈ p.accepted
  orders : (context, .orders) ∈ p.accepted
  reader : ⟨context, .running⟩ ∈ p.readers ∧ p.cancelled = false
  /-- A snapshot that takes deltas of the context was made in it. -/
  snapshots : ∀ feed o, (context, feed) ∈ p.accepted → p.origin.get feed.referenceId = some o →
    o = context

/-- The price subscriptions after some symbols, where `old` were on record before the first. -/
structure Opened (old : Table String SubscriptionEntry) (context : ℕ) (symbols : List String)
    (p : SaxoProvider) : Prop where
  loaded : p.instrumentMap = some map
  noted : ∀ r, (p.subscriptions.get r).isSome = true ↔ (old.get r).isSome = true ∨
    ∃ s ∈ symbols, referenceIdForSymbol lower s = r ∧ (map.symbolToSaxo.get s).isSome = true
  only : ∀ r info, (context, .price r info) ∈ p.accepted → old.get r = none ∧
    ∃ s ∈ symbols, referenceIdForSymbol lower s = r ∧ map.symbolToSaxo.get s = some info
  all : ∀ s ∈ symbols, (map.symbolToSaxo.get s).isSome = true →
    old.get (referenceIdForSymbol lower s) = none →
    ∃ info, (context, .price (referenceIdForSymbol lower s) info) ∈ p.accepted
  unique : ∀ r info info', (context, .price r info) ∈ p.accepted →
    (context, .price r info') ∈ p.accepted → info = info'

variable {lower map} {old : Table String SubscriptionEntry} {symbols : List String}

variable (during : List ReaderStep) (q : SaxoProvider) {symbol : String}

/-- One more symbol has a reference id on record, or it does not count. -/
theorem noted_snoc {r : String} :
    (∃ s ∈ symbols ++ [symbol], referenceIdForSymbol lower s = r ∧
      (map.symbolToSaxo.get s).isSome = true) ↔
    (∃ s ∈ symbols, referenceIdForSymbol lower s = r ∧
      (map.symbolToSaxo.get s).isSome = true) ∨
      referenceIdForSymbol lower symbol = r ∧ (map.symbolToSaxo.get symbol).isSome = true := by
  simp only [List.mem_append, List.mem_singleton, or_and_right, exists_or, exists_eq_left]

/-- A symbol that changes nothing: unknown, or on record already. -/
theorem Opened.skip {symbol : String} (h : Opened lower map old context symbols p)
    (hskip : (map.symbolToSaxo.get symbol).isSome = true →
      (p.subscriptions.get (referenceIdForSymbol lower symbol)).isSome = true) :
    Opened lower map old context (symbols ++ [symbol]) p := by
  constructor
  · exact h.loaded
  · intro r
    rw [noted_snoc, ← or_assoc, ← h.noted]
    refine ⟨Or.inl, fun hr => hr.elim id ?_⟩
    rintro ⟨rfl, hknown⟩
    exact hskip hknown
  · intro r info hf
    obtain ⟨hold, s, hs, hr⟩ := h.only r info hf
    exact ⟨hold, s, List.mem_append_left _ hs, hr⟩
  · intro s hs hknown hold
    rcases List.mem_append.mp hs with hs | hs
    · exact h.all s hs hknown hold
    · cases List.mem_singleton.mp hs
      -- an earlier symbol with this reference id has made the subscription
      rcases (h.noted _).mp (hskip hknown) with hsome | ⟨s', hs', href, hknown'⟩
      · rw [hold] at hsome
        cases hsome
      · rw [← href]
        exact h.all s' hs' hknown' (href ▸ hold)
  · exact h.unique

theorem Opened.add {info : SaxoInstrumentInfo} {snapshot : Json}
    (h : Opened lower map old context symbols p) (hinfo : map.symbolToSaxo.get symbol = some info)
    (hnew : (p.subscriptions.get (referenceIdForSymbol lower symbol)).isSome = false)
    (entry : SubscriptionEntry) :
    Opened lower map old context (symbols ++ [symbol])
      { p.accept context (.price (referenceIdForSymbol lower symbol) info) snapshot with
        subscriptions := p.subscriptions.insert (referenceIdForSymbol lower symbol) entry } := by
  have hfresh := mt (h.noted _).mpr (by rw [hnew]; simp)
  have haccepted : ∀ r i, (context, Feed.price r i) ∈
      p.accepted ++ [(context, .price (referenceIdForSymbol lower symbol) info)] ↔
      (context, .price r i) ∈ p.accepted ∨ r = referenceIdForSymbol lower symbol ∧ i = info := by
    intro r i
    simp
  have hold : old.get (referenceIdForSymbol lower symbol) = none := by
    by_contra hne
    exact hfresh (Or.inl (Option.isSome_iff_ne_none.mpr hne))
  have hunused : ∀ i, (context, .price (referenceIdForSymbol lower symbol) i) ∉ p.accepted := by
    intro i hi
    obtain ⟨-, s, hs, href, hs'⟩ := h.only _ _ hi
    exact hfresh (Or.inr ⟨s, hs, href, by simp [hs']⟩)
  constructor
  · exact h.loaded
  · intro r
    show ((p.subscriptions.insert _ entry).get r).isSome = true ↔ _
    rw [Table.get_insert]
    split
    · rename_i hr
      subst hr
      exact iff_of_true rfl (Or.inr ⟨symbol, by simp, rfl, by simp [hinfo]⟩)
    · rename_i hr
      rw [noted_snoc, ← or_assoc, ← h.noted]
      exact ⟨Or.inl, fun hs => hs.resolve_right fun hsame => hr hsame.1.symm⟩
  · intro r i hf
    rcases (haccepted r i).mp hf with hf | ⟨rfl, rfl⟩
    · obtain ⟨hr, s, hs, hs'⟩ := h.only r i hf
      exact ⟨hr, s, List.mem_append_left _ hs, hs'⟩
    · exact ⟨hold, symbol, by simp, rfl, hinfo⟩
  · intro s hs hknown hnone
    rcases List.mem_append.mp hs with hs | hs
    · obtain ⟨i, hi⟩ := h.all s hs hknown hnone
      exact ⟨i, (haccepted _ i).mpr (Or.inl hi)⟩
    · cases List.mem_singleton.mp hs
      exact ⟨info, (haccepted _ info).mpr (Or.inr ⟨rfl, rfl⟩)⟩
  · intro r i i' hi hi'
    rcases (haccepted r i).mp hi with hearlier | ⟨rfl, rfl⟩
    · rcases (haccepted r i').mp hi' with hearlier' | ⟨rfl, rfl⟩
      · exact h.unique r i i' hearlier hearlier'
      · exact absurd hearlier (hunused i)
    · rcases (haccepted _ i').mp hi' with hearlier' | ⟨-, rfl⟩
      · exact absurd hearlier' (hunused i')
      · rfl

theorem Opened.subscribeSymbol (hb : ∀ feed, ∃ snapshot, b.subscription feed = .ok snapshot)
    (h : Opened lower map old context symbols p) (symbol : String) :
    Opened lower map old context (symbols ++ [symbol])
      (p.subscribeSymbol lower b context symbol).2 := by
  unfold SaxoProvider.subscribeSymbol
  rw [h.loaded]
  dsimp only
  split
  · rename_i hnone
    exact h.skip fun hknown => by rw [hnone] at hknown; cases hknown
  · rename_i info hinfo
    unfold subscribeInstrument
    dsimp only
    split
    · rename_i hsome
      exact h.skip fun _ => hsome
    · rename_i hnew
      obtain ⟨snapshot, hsnapshot⟩ := hb (.price (referenceIdForSymbol lower symbol) info)
      unfold requestFeed
      rw [hsnapshot]
      exact h.add hinfo (by simpa using hnew) _

theorem Opened.subscribeEach (hb : ∀ feed, ∃ snapshot, b.subscription feed = .ok snapshot)
    (rest : List String) (h : Opened lower map old context symbols p) :
    Opened lower map old context (symbols ++ rest) (p.subscribeEach lower b context rest) := by
  induction rest generalizing symbols p with
  | nil =>
    rw [List.append_nil]
    exact h
  | cons symbol rest ih =>
    have hrest := ih (h.subscribeSymbol hb symbol)
    rw [List.append_assoc] at hrest
    exact hrest

theorem opened_start (hmap : p.instrumentMap = some map)
    (hnone : ∀ f, (context, f) ∉ p.accepted) :
    Opened lower map p.subscriptions context [] p := by
  constructor
  · exact hmap
  · intro r
    simp
  · intro r info hf
    exact absurd hf (hnone _)
  · intro s hs
    cases hs
  · intro r info info' hf
    exact absurd hf (hnone _)

variable (lower map) in
/-- Each symbol is known, its reference id is not on record, and no other symbol has the same
reference id, unless it is the same instrument. -/
def Free (old : Table String SubscriptionEntry) (symbols : List String) : Prop :=
  ∀ symbol ∈ symbols, ∃ info, map.symbolToSaxo.get symbol = some info ∧
    old.get (referenceIdForSymbol lower symbol) = none ∧
    ∀ symbol' ∈ symbols, referenceIdForSymbol lower symbol' = referenceIdForSymbol lower symbol →
      map.symbolToSaxo.get symbol' = some info

/-- All symbols have a price subscription in the end. -/
theorem Opened.prices_iff (h : Opened lower map old context symbols p) :
    (∀ symbol ∈ symbols, ∃ info, map.symbolToSaxo.get symbol = some info ∧
      (context, .price (referenceIdForSymbol lower symbol) info) ∈ p.accepted) ↔
    Free lower map old symbols := by
  constructor
  · intro hall symbol hsymbol
    obtain ⟨info, hinfo, hf⟩ := hall symbol hsymbol
    refine ⟨info, hinfo, (h.only _ _ hf).1, fun symbol' hsymbol' href => ?_⟩
    obtain ⟨info', hinfo', hf'⟩ := hall symbol' hsymbol'
    rw [href] at hf'
    rw [hinfo', h.unique _ _ _ hf' hf]
  · intro hall symbol hsymbol
    obtain ⟨info, hinfo, hold, hsame⟩ := hall symbol hsymbol
    obtain ⟨info', hf⟩ := h.all symbol hsymbol (by simp [hinfo]) hold
    obtain ⟨-, symbol', hsymbol', href, hinfo'⟩ := h.only _ _ hf
    have heq : info' = info := Option.some.inj (hinfo'.symm.trans (hsame symbol' hsymbol' href))
    exact ⟨info, hinfo, heq ▸ hf⟩

variable (lower map) in
/-- Nothing of earlier connections is in the way of a new one. -/
structure Unspoiled (symbols : List String) (during : List ReaderStep) (p : SaxoProvider) :
    Prop where
  /-- No reader has cancelled the token, nor does one before the new reader starts. -/
  token : (Run.exec readerStep p during).cancelled = false
  free : Free lower map p.subscriptions symbols

theorem accepted_createInitialSubscriptions
    (hb : ∀ feed, ∃ snapshot, b.subscription feed = .ok snapshot) (p : SaxoProvider) :
    (createInitialSubscriptions lower b symbols context p).accepted =
      (p.subscribeEach lower b context symbols).accepted ++
        [(context, .balance)] ++ [(context, .orders)] := by
  obtain ⟨balance, hbalance⟩ := hb .balance
  obtain ⟨orders, horders⟩ := hb .orders
  unfold createInitialSubscriptions requestFeed
  dsimp only
  rw [hbalance, horders]
  rfl

/-- The provider with a new context and the instruments of the broker. -/
def loaded (map : SaxoInstrumentMap) (config : ProviderConfig) (p : SaxoProvider) : SaxoProvider :=
  { p.drawContext config with instrumentMap := some map }

theorem reconnect_eq_ok {during : List ReaderStep} {config : ProviderConfig} {p' : SaxoProvider}
    (hconfig : p.storedConfig = some config) (hmap : b.instruments = .ok map)
    (h : p.reconnect lower b during = (.ok (), p')) :
    p' = (p.loaded map config).startReading lower b during config.symbols p.contexts := by
  unfold SaxoProvider.reconnect at h
  rw [hconfig] at h
  unfold SaxoProvider.connect at h
  dsimp only at h
  rw [hmap] at h
  dsimp only at h
  split at h
  · cases h
  · cases h
    rfl

theorem accepted_startReading :
    (q.startReading lower b during symbols context).accepted =
      (createInitialSubscriptions lower b symbols context
        { q with eventTx := some context }).accepted :=
  (sameContexts_exec _ during).accepted

theorem cancelled_startReading :
    (q.startReading lower b during symbols context).cancelled =
      (Run.exec readerStep q during).cancelled := by
  have hcreated := subscribes_startReading lower b symbols context q
  have hsame : SameReaders (createInitialSubscriptions lower b symbols context
      { q with eventTx := some context }) q := ⟨hcreated.readers, hcreated.cancelled⟩
  exact (hsame.exec during).2

theorem opened_loaded (hb : ∀ feed, ∃ snapshot, b.subscription feed = .ok snapshot)
    (h : Sound p) (config : ProviderConfig) :
    Opened lower map p.subscriptions p.contexts symbols
      (subscribeEach lower b p.contexts symbols
        { p.loaded map config with eventTx := some p.contexts }) := by
  have hnone : ∀ f, (p.contexts, f) ∉ p.accepted :=
    fun f hf => Nat.lt_irrefl _ (h.accepted_lt _ f hf)
  have hstart : Opened lower map p.subscriptions p.contexts []
      { p.loaded map config with eventTx := some p.contexts } :=
    opened_start (p := { p.loaded map config with eventTx := some p.contexts }) rfl hnone
  exact hstart.subscribeEach hb symbols

/-- The price subscriptions of the new context are those of the loop. -/
theorem mem_accepted_startReading (hb : ∀ feed, ∃ snapshot, b.subscription feed = .ok snapshot)
    (during : List ReaderStep) (q : SaxoProvider) (feed : Feed) :
    (context, feed) ∈ (q.startReading lower b during symbols context).accepted ↔
      (context, feed) ∈ (subscribeEach lower b context symbols
        { q with eventTx := some context }).accepted ∨ feed = .balance ∨ feed = .orders := by
  rw [accepted_startReading, accepted_createInitialSubscriptions hb]
  simp

theorem contextId_startReading :
    (q.startReading lower b during symbols context).contextId = q.contextId := by
  have hcreated := subscribes_startReading lower b symbols context q
  exact (sameContexts_exec _ during).contextId.trans hcreated.contextId

theorem contexts_startReading :
    (q.startReading lower b during symbols context).contexts = q.contexts := by
  have hcreated := subscribes_startReading lower b symbols context q
  exact (sameContexts_exec _ during).contexts.trans hcreated.contexts

theorem startReading_restored_iff (hb : ∀ feed, ∃ snapshot, b.subscription feed = .ok snapshot)
    (h : Sound p) (during : List ReaderStep) (config : ProviderConfig) :
    Restored lower map symbols p.contexts
        ((p.loaded map config).startReading lower b during symbols p.contexts) ↔
      Unspoiled lower map symbols during p := by
  have hprices : (∀ symbol ∈ symbols, ∃ info, map.symbolToSaxo.get symbol = some info ∧
      (p.contexts, .price (referenceIdForSymbol lower symbol) info) ∈
        ((p.loaded map config).startReading lower b during symbols p.contexts).accepted) ↔
      Free lower map p.subscriptions symbols := by
    simp only [mem_accepted_startReading hb, reduceCtorEq, or_false]
    exact (opened_loaded hb h config).prices_iff
  have htoken : ((p.loaded map config).startReading lower b during symbols p.contexts).cancelled =
      (Run.exec readerStep p during).cancelled := by
    have hsame : SameReaders (p.loaded map config) p := ⟨rfl, rfl⟩
    rw [cancelled_startReading]
    exact (hsame.exec during).2
  constructor
  · intro hr
    exact ⟨htoken ▸ hr.reader.2, hprices.mp hr.prices⟩
  · intro hu
    have hloaded : Sound (p.loaded map config) :=
      (h.drawContext config).frame ⟨rfl, rfl, rfl, rfl⟩
    have hsound : Sound ((p.loaded map config).startReading lower b during symbols p.contexts) :=
      hloaded.startReading rfl during symbols
    refine ⟨hprices.mpr hu.free, (mem_accepted_startReading hb during _ _).mpr (by simp),
      ⟨by simp [startReading], htoken.trans hu.token⟩, fun feed o hf ho => ?_⟩
    -- no subscription is newer than its snapshot, and no context is newer than this one
    have hle := hsound.le_origin _ feed o hf ho
    have hlt := hsound.origin_lt _ o ho
    rw [contexts_startReading] at hlt
    have hcontexts : (p.loaded map config).contexts = p.contexts + 1 := rfl
    omega

end restore

end SaxoProvider

open SaxoProvider

/-- A reconnect that returns without an error, with a broker that accepts every subscription, brings
back every feed exactly if nothing of earlier connections is in its way. -/
theorem reconnect_restored_iff (lower : String → String) (steps : List ProviderStep) (b : Broker)
    (during : List ReaderStep) (config : ProviderConfig) (map : SaxoInstrumentMap) (context : ℕ)
    (p' : SaxoProvider)
    (hconfig : (Run.exec (step lower) new steps).storedConfig = some config)
    (hmap : b.instruments = .ok map)
    (hb : ∀ feed, ∃ snapshot, b.subscription feed = .ok snapshot)
    (hrun : (Run.exec (step lower) new steps).reconnect lower b during = (.ok (), p'))
    (hcontext : p'.contextId = some context) :
    Restored lower map config.symbols context p' ↔
      Unspoiled lower map config.symbols during (Run.exec (step lower) new steps) := by
  have hsound := sound_exec lower steps
  obtain rfl := reconnect_eq_ok hconfig hmap hrun
  rw [contextId_startReading] at hcontext
  obtain rfl : _ = context := Option.some.inj hcontext
  exact startReading_restored_iff hb hsound during config

/-! ## After the end of a socket -/

namespace SaxoProvider

variable {p : SaxoProvider} {lower : String → String} {b : Broker} {context : ℕ}

/-- A reader that has wound up has cancelled the token. -/
def Spent (p : SaxoProvider) : Prop := ∀ r ∈ p.readers, r.phase = .done → p.cancelled = true

theorem Spent.frame {p' : SaxoProvider} (h : Spent p) (hreaders : p'.readers = p.readers)
    (hcancelled : p'.cancelled = p.cancelled) : Spent p' := by
  intro r hr hdone
  rw [hcancelled]
  exact h r (hreaders ▸ hr) hdone

theorem Spent.advance {i : ℕ} {old new : ReaderPhase} {effect : SaxoProvider → SaxoProvider}
    (h : Spent p) (hnew : new ≠ .done) (he : ∀ q, Spent q → Spent (effect q)) :
    Spent (p.advance i old new effect) := by
  unfold SaxoProvider.advance
  split
  · exact h
  · split
    · refine he _ fun r hr hdone => ?_
      rcases List.mem_or_eq_of_mem_set hr with hmem | rfl
      · exact h r hmem hdone
      · exact absurd hdone hnew
    · exact h

theorem Spent.readerStep (h : Spent p) (r : ReaderStep) : Spent (p.readerStep r) := by
  cases r with
  | deliver i referenceId payload =>
    refine h.advance (by decide) fun q hq => ?_
    obtain ⟨store, hstore⟩ := q.mergeMessage_eq referenceId payload
    rw [hstore]
    exact hq
  | leave i => exact h.advance (by decide) fun q hq => hq
  | clear i => exact h.advance (by decide) fun q hq => hq
  | cancel i =>
    rcases advance_eq p i .cleared .done fun p => { p with cancelled := true } with
      hsame | ⟨readers, hdone⟩
    · exact h.frame (congrArg readers hsame) (congrArg cancelled hsame)
    · intro r _ _
      exact congrArg cancelled hdone

theorem Spent.startReading (h : Spent p) (during : List ReaderStep) (symbols : List String) :
    Spent (p.startReading lower b during symbols context) := by
  have hcreated := subscribes_startReading lower b symbols context p
  have hduring := Run.exec_inv_all (I := Spent) (fun _ r h => h.readerStep r)
    (h.frame hcreated.readers hcreated.cancelled) during
  intro r hr hdone
  rcases List.mem_append.mp hr with hr | hr
  · exact hduring r hr hdone
  · cases List.mem_singleton.mp hr
    cases hdone

theorem Spent.connect (h : Spent p) (during : List ReaderStep) (config : ProviderConfig) :
    Spent (p.connect lower b during config).2 := by
  unfold SaxoProvider.connect
  dsimp only
  split
  · exact h
  · rename_i map _
    have hloaded : Spent { p.drawContext config with instrumentMap := some map } := h
    split
    · exact h
    · exact hloaded.startReading during config.symbols

theorem Spent.unsubscribeSymbol (h : Spent p) (symbol : String) :
    Spent (p.unsubscribeSymbol lower b context symbol) := by
  unfold SaxoProvider.unsubscribeSymbol
  dsimp only
  split
  · exact h
  · unfold deleteSubscription
    split
    · exact h
    · exact h

theorem Spent.step (h : Spent p) (s : ProviderStep) : Spent (p.step lower s) := by
  cases s with
  | connect b during config => exact h.connect during config
  | reconnect b during =>
    show Spent (p.reconnect lower b during).2
    unfold SaxoProvider.reconnect
    split
    · exact h
    · exact h.connect during _
  | subscribe b symbols =>
    show Spent (p.subscribe lower b symbols).2
    unfold SaxoProvider.subscribe
    split
    · exact h
    · rename_i context _
      have hall : Subscribes context p (subscribeAll lower b context symbols p).2 :=
        subscribes_subscribeAll symbols p
      exact h.frame hall.readers hall.cancelled
  | unsubscribe b symbols =>
    show Spent (p.unsubscribe lower b symbols).2
    unfold SaxoProvider.unsubscribe
    split
    · exact h
    · exact Run.exec_inv_all (I := Spent) (fun _ symbol h => h.unsubscribeSymbol symbol) h symbols
  | disconnect => exact fun _ _ _ => rfl
  | reader r => exact h.readerStep r

theorem spent_exec (lower : String → String) (steps : List ProviderStep) :
    Spent (Run.exec (SaxoProvider.step lower) new steps) :=
  Run.exec_inv_all (I := Spent) (fun _ s h => h.step s) (fun _ hr => by cases hr) steps

end SaxoProvider

/-- Once the reader of a connection has wound up, no reconnect restores every feed. -/
theorem not_restored_of_done (lower : String → String) (steps : List ProviderStep) (b : Broker)
    (during : List ReaderStep) (config : ProviderConfig) (map : SaxoInstrumentMap) (context : ℕ)
    (p' : SaxoProvider)
    (hconfig : (Run.exec (step lower) new steps).storedConfig = some config)
    (hmap : b.instruments = .ok map)
    (hrun : (Run.exec (step lower) new steps).reconnect lower b during = (.ok (), p'))
    (hdone : ∃ r ∈ (Run.exec (step lower) new steps).readers, r.phase = .done) :
    ¬ Restored lower map config.symbols context p' := by
  intro hrestored
  obtain ⟨r, hr, hphase⟩ := hdone
  have hcancelled := spent_exec lower steps r hr hphase
  obtain rfl := reconnect_eq_ok hconfig hmap hrun
  have hactive := hrestored.reader.2
  rw [cancelled_startReading] at hactive
  -- the reader steps during the call do not take the cancellation back
  have hstill := Run.exec_inv_all (I := fun q : SaxoProvider => q.cancelled = true)
    (fun _ r h => cancelled_readerStep h r)
    (s := loaded map config (Run.exec (step lower) new steps)) hcancelled during
  rw [hstill] at hactive
  cases hactive

/-- A broker with one instrument that accepts every request. -/
def acceptsAll : Broker where
  instruments := .ok sampleMap
  token := .ok ()
  request := .ok ()
  socket := .ok ()
  subscription _ := .ok (.obj [])
  delete _ := .ok ()

def sampleConfig : ProviderConfig := ⟨.saxoSim, ["EURUSD:FxSpot"], ["quote"], true⟩

/-- Connected, then unsubscribed from the symbol; the socket has ended, and its reader has not come
to the token yet. -/
def beforeCancel : List ProviderStep :=
  [.connect acceptsAll [] sampleConfig, .unsubscribe acceptsAll ["EURUSD:FxSpot"],
    .reader (.leave 0)]

theorem reconnect_restored_before_cancel :
    Restored Text.asciiLower sampleMap ["EURUSD:FxSpot"] 1
      ((Run.exec (step Text.asciiLower) new beforeCancel).reconnect Text.asciiLower acceptsAll
        []).2 := by
  refine (reconnect_restored_iff Text.asciiLower beforeCancel acceptsAll [] sampleConfig sampleMap 1
    _ rfl rfl (fun _ => ⟨_, rfl⟩) rfl rfl).mpr ⟨rfl, ?_⟩
  intro symbol hsymbol
  cases List.mem_singleton.mp hsymbol
  refine ⟨⟨21, "FxSpot"⟩, rfl, rfl, fun symbol' hsymbol' _ => ?_⟩
  cases List.mem_singleton.mp hsymbol'
  rfl

/-- Connected; then the socket ends and the reader winds up. -/
def afterClose : List ProviderStep :=
  [.connect acceptsAll [] sampleConfig, .reader (.leave 0), .reader (.clear 0), .reader (.cancel 0)]

theorem not_restored_of_done_afterClose :
    ¬ Restored Text.asciiLower sampleMap ["EURUSD:FxSpot"] 1
      ((Run.exec (step Text.asciiLower) new afterClose).reconnect Text.asciiLower acceptsAll
        []).2 :=
  not_restored_of_done Text.asciiLower afterClose acceptsAll [] sampleConfig sampleMap 1 _ rfl rfl
    rfl ⟨_, List.mem_singleton_self _, rfl⟩

/-- The reconnect succeeds. Its context has no price subscription, and its reader is cancelled. -/
theorem reconnect_after_close :
    ((Run.exec (step Text.asciiLower) new afterClose).reconnect Text.asciiLower acceptsAll
      []).1 = .ok () ∧
    ((Run.exec (step Text.asciiLower) new afterClose).reconnect Text.asciiLower acceptsAll
      []).2.contextId = some 1 ∧
    ((Run.exec (step Text.asciiLower) new afterClose).reconnect Text.asciiLower acceptsAll
      []).2.accepted.filter (fun x => x.1 = 1) = [(1, .balance), (1, .orders)] ∧
    ((Run.exec (step Text.asciiLower) new afterClose).reconnect Text.asciiLower acceptsAll
      []).2.cancelled = true ∧
    ¬ Restored Text.asciiLower sampleMap ["EURUSD:FxSpot"] 1
      ((Run.exec (step Text.asciiLower) new afterClose).reconnect Text.asciiLower acceptsAll
        []).2 := by
  refine ⟨rfl, rfl, by decide +kernel, rfl, fun h => ?_⟩
  cases h.reader.2

end Gateway.Saxo
