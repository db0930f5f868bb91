import TradingGateway.Error
import TradingGateway.Lib.Run

/-!
# Providers and their quote subscriptions (`crates/core/src/websocket/provider.rs`, `registry.rs`)

The registry notes what a provider is subscribed to as two lists, of symbols and of event types, and
takes every pair of them to be subscribed. `ensureQuoteSubscription` adds to both lists, so after a
first quote request of a provider without quotes, the quotes of all its old symbols are taken to
flow.

* `quotes_flow_iff`: the sequences of requests whose quotes all flow.
-/

namespace Gateway

/-- Configuration of a provider connection. -/
structure ProviderConfig where
  platform : TradingPlatform
  symbols : List String
  eventTypes : List String
  /-- There are credentials. -/
  credentials : Bool
  deriving DecidableEq, Repr

inductive WebSocketError where
  | connectionFailed (message : String)
  | connectionClosed (message : String)
  | providerError (message : String)
  | configError (message : String)
  | sendError (message : String)
  deriving DecidableEq, Repr

/-- Shared provider state. -/
structure SharedProvider (π : Type) where
  provider : π
  platformType : TradingPlatform
  symbols : List String
  eventTypes : List String

section ensure

variable {π : Type} (subscribe : π → List String → List String → Except WebSocketError Unit × π)

/-- The item is added at the end, unless it is there. -/
def pushNew (item : String) (items : List String) : List String :=
  if item ∈ items then items else items ++ [item]

@[simp] theorem mem_pushNew {item x : String} {items : List String} :
    x ∈ pushNew item items ↔ x ∈ items ∨ x = item := by
  unfold pushNew
  split
  · rename_i h
    constructor
    · exact Or.inl
    · rintro (hx | rfl)
      · exact hx
      · exact h
  · simp

/-- The provider has the symbol and the quotes on its lists. -/
def SharedProvider.listsQuote (shared : SharedProvider π) (symbol : String) : Bool :=
  decide (symbol ∈ shared.symbols) && decide ("quote" ∈ shared.eventTypes)

/-- The lists after a successful subscribe call. -/
def SharedProvider.noteQuote (shared : SharedProvider π) (symbol : String) (provider : π) :
    SharedProvider π :=
  { shared with
    provider
    symbols := pushNew symbol shared.symbols
    eventTypes := pushNew "quote" shared.eventTypes }

/-- Ensure that some provider is subscribed to the quotes of a symbol: the first that lists them, or
that accepts the subscription. No provider is no error. -/
def ensureQuoteSubscription (symbol : String) : List (SharedProvider π) →
    Except GatewayError Unit × List (SharedProvider π)
  | [] => (.ok (), [])
  | shared :: rest =>
    if shared.listsQuote symbol then (.ok (), shared :: rest)
    else
      match subscribe shared.provider [symbol] ["quote"] with
      | (.error _, provider) =>
        let (result, rest) := ensureQuoteSubscription symbol rest
        (result, { shared with provider } :: rest)
      | (.ok _, provider) => (.ok (), shared.noteQuote symbol provider :: rest)

theorem ensureQuoteSubscription_fst (symbol : String) (providers : List (SharedProvider π)) :
    (ensureQuoteSubscription subscribe symbol providers).1 = .ok () := by
  induction providers with
  | nil => rfl
  | cons shared rest ih =>
    unfold ensureQuoteSubscription
    split
    · rfl
    · split
      · exact ih
      · rfl

/-- What a sequence of requests makes of the registry. -/
def requestQuotes (providers : List (SharedProvider π)) (symbol : String) :
    List (SharedProvider π) :=
  (ensureQuoteSubscription subscribe symbol providers).2

end ensure

/-! ## A provider that accepts every call -/

/-- A provider whose subscribe calls all succeed and add the pairs they name. -/
structure Subscribing (π : Type) where
  subscribe : π → List String → List String → Except WebSocketError Unit × π
  /-- The provider is subscribed to an event type of a symbol. -/
  Has : π → String → String → Prop
  accepts : ∀ p symbols eventTypes, (subscribe p symbols eventTypes).1 = .ok ()
  has_subscribe : ∀ p symbols eventTypes symbol eventType,
    Has (subscribe p symbols eventTypes).2 symbol eventType ↔
      Has p symbol eventType ∨ symbol ∈ symbols ∧ eventType ∈ eventTypes

namespace Subscribing

variable {π : Type} (A : Subscribing π)

/-- Some provider is subscribed to the quotes of the symbol. -/
def QuotesFlow (providers : List (SharedProvider π)) (symbol : String) : Prop :=
  ∃ shared ∈ providers, A.Has shared.provider symbol "quote"

/-- What one request does to a registry with one provider. -/
def noteRequest (shared : SharedProvider π) (symbol : String) : SharedProvider π :=
  if shared.listsQuote symbol then shared
  else shared.noteQuote symbol (A.subscribe shared.provider [symbol] ["quote"]).2

theorem requestQuotes_singleton (shared : SharedProvider π) (symbol : String) :
    requestQuotes A.subscribe [shared] symbol = [A.noteRequest shared symbol] := by
  unfold requestQuotes ensureQuoteSubscription noteRequest
  split
  · rfl
  · have hok := A.accepts shared.provider [symbol] ["quote"]
    split
    · rename_i e provider h
      rw [h] at hok
      cases hok
    · rename_i provider h
      rw [h]

theorem exec_requestQuotes (shared : SharedProvider π) (calls : List String) :
    Run.exec (requestQuotes A.subscribe) [shared] calls =
      [Run.exec A.noteRequest shared calls] := by
  induction calls generalizing shared with
  | nil => rfl
  | cons symbol calls ih => rw [Run.exec_cons, requestQuotes_singleton, ih, Run.exec_cons]

/-! ## The lists and the provider -/

section run

variable (S E : List String)

/-- The provider after requests for some symbols, registered with the lists `S` and `E`. -/
structure Noted (called : List String) (shared : SharedProvider π) : Prop where
  symbols : ∀ s, s ∈ shared.symbols ↔ s ∈ S ∨ s ∈ called
  quote : "quote" ∈ shared.eventTypes ↔ "quote" ∈ E ∨ called ≠ []
  has : ∀ s, A.Has shared.provider s "quote" ↔ (s ∈ S ∧ "quote" ∈ E) ∨ s ∈ called

/-- A request that the lists answer truthfully. -/
def Truthful (called : List String) (symbol : String) : Prop :=
  "quote" ∈ E ∨ called = [] ∨ (symbol ∈ S → symbol ∈ called)

variable {A S E} {called : List String} {shared : SharedProvider π} {symbol : String}

theorem Noted.listsQuote_iff (h : A.Noted S E called shared) :
    shared.listsQuote symbol = true ↔
      (symbol ∈ S ∨ symbol ∈ called) ∧ ("quote" ∈ E ∨ called ≠ []) := by
  simp only [SharedProvider.listsQuote, Bool.and_eq_true, decide_eq_true_eq, h.symbols, h.quote]

/-- The lists say that the quotes flow, and they do. -/
theorem Noted.has_of_listsQuote (h : A.Noted S E called shared) (hok : Truthful S E called symbol)
    (hlists : shared.listsQuote symbol = true) : A.Has shared.provider symbol "quote" := by
  obtain ⟨hsymbol, hquote⟩ := h.listsQuote_iff.mp hlists
  rw [h.has]
  by_cases hcalled : symbol ∈ called
  · exact Or.inr hcalled
  · have hS : symbol ∈ S := hsymbol.resolve_right hcalled
    rcases hok with hE | hnil | hmem
    · exact Or.inl ⟨hS, hE⟩
    · exact Or.inl ⟨hS, hquote.resolve_right fun hne => hne hnil⟩
    · exact absurd (hmem hS) hcalled

theorem Noted.noteRequest (h : A.Noted S E called shared) (hok : Truthful S E called symbol) :
    A.Noted S E (called ++ [symbol]) (A.noteRequest shared symbol) := by
  unfold Subscribing.noteRequest
  split
  · rename_i hlists
    have hhas := h.has_of_listsQuote hok hlists
    obtain ⟨hsymbol, hquote⟩ := h.listsQuote_iff.mp hlists
    refine ⟨fun s => ?_, ?_, fun s => ?_⟩
    · rw [h.symbols, List.mem_append, List.mem_singleton, ← or_assoc]
      refine ⟨Or.inl, fun hs => hs.elim id ?_⟩
      rintro rfl
      exact hsymbol
    · rw [h.quote]
      exact iff_of_true hquote (Or.inr (by simp))
    · rw [List.mem_append, List.mem_singleton, ← or_assoc, ← h.has]
      refine ⟨Or.inl, fun hs => hs.elim id ?_⟩
      rintro rfl
      exact hhas
  · refine ⟨fun s => ?_, ?_, fun s => ?_⟩
    · simp [SharedProvider.noteQuote, h.symbols, or_assoc]
    · simp [SharedProvider.noteQuote]
    · simp [SharedProvider.noteQuote, A.has_subscribe, h.has, or_assoc]

theorem Noted.not_has (h : A.Noted S E called shared) (hok : ¬ Truthful S E called symbol) :
    ¬ A.Has (A.noteRequest shared symbol).provider symbol "quote" := by
  unfold Truthful at hok
  push Not at hok
  obtain ⟨hE, hne, hS, hcalled⟩ := hok
  have hlists := h.listsQuote_iff.mpr ⟨Or.inl hS, Or.inr hne⟩
  unfold Subscribing.noteRequest
  rw [if_pos hlists, h.has]
  rintro (⟨-, hquote⟩ | hmem)
  · exact hE hquote
  · exact hcalled hmem

/-- The runs whose requests are all truthful, by the logged run. -/
theorem guarded_truthful_iff {x : SharedProvider π} {calls : List String} :
    Run.Guarded (Run.logged A.noteRequest) (fun s symbol => Truthful S E s.2 symbol) (x, []) calls ↔
      "quote" ∈ E ∨ ∀ before symbol, before ++ [symbol] <+: calls → before ≠ [] → symbol ∈ S →
        symbol ∈ before := by
  rw [Run.guarded_iff]
  simp only [Run.exec_logged, List.nil_append, Truthful]
  constructor
  · intro h
    by_cases hE : "quote" ∈ E
    · exact Or.inl hE
    · refine Or.inr fun before symbol hp hne hS => ?_
      rcases h before symbol hp with h | h | h
      · exact absurd h hE
      · exact absurd h hne
      · exact h hS
  · rintro (hE | h) before symbol hp
    · exact Or.inl hE
    · by_cases hne : before = []
      · exact Or.inr (Or.inl hne)
      · exact Or.inr (Or.inr (h before symbol hp hne))

end run

/-- After every request of a sequence the quotes of all requested symbols flow, exactly if the
provider was registered with quotes, or no request after the first is the first one for a symbol
that the provider was registered with. -/
theorem quotes_flow_iff (S E : List String) (p : π) (platform : TradingPlatform)
    (hexact : ∀ symbol eventType, A.Has p symbol eventType ↔ symbol ∈ S ∧ eventType ∈ E)
    (calls : List String) :
    (∀ calls', calls' <+: calls → ∀ symbol ∈ calls',
      A.QuotesFlow (Run.exec (requestQuotes A.subscribe) [⟨p, platform, S, E⟩] calls') symbol) ↔
    ("quote" ∈ E ∨ ∀ before symbol, before ++ [symbol] <+: calls → before ≠ [] → symbol ∈ S →
      symbol ∈ before) := by
  let x : SharedProvider π := ⟨p, platform, S, E⟩
  have hstart : A.Noted S E [] x :=
    ⟨fun s => by simp [x], by simp [x], fun s => by simp [x, hexact]⟩
  have hlegal : Run.Guarded (Run.logged A.noteRequest) (fun _ _ => True) (x, []) calls :=
    Run.guarded_of_forall (fun _ _ => trivial) _ _
  have hruns : (∀ calls', calls' <+: calls → ∀ symbol ∈ (Run.exec (Run.logged A.noteRequest)
        (x, []) calls').2, A.Has (Run.exec (Run.logged A.noteRequest) (x, []) calls').1.provider
          symbol "quote") ↔
      Run.Guarded (Run.logged A.noteRequest) (fun s symbol => Truthful S E s.2 symbol) (x, [])
        calls :=
    Run.forall_prefix_iff_guarded (I := fun s => A.Noted S E s.2 s.1)
      (P := fun s => ∀ symbol ∈ s.2, A.Has s.1.provider symbol "quote")
      (fun s h symbol hs => (h.has symbol).mpr (Or.inr hs))
      (fun s symbol h _ hok => h.noteRequest hok)
      (fun s symbol h _ hok hP => h.not_has hok (hP symbol (by simp [Run.logged])))
      hstart hlegal
  rw [← guarded_truthful_iff (A := A) (x := x), ← hruns]
  simp only [Run.exec_logged, List.nil_append, A.exec_requestQuotes, QuotesFlow,
    List.mem_singleton, exists_eq_left, x]

/-- A provider that keeps the list of its pairs. -/
def listing : Subscribing (List (String × String)) where
  subscribe p symbols eventTypes :=
    (.ok (), p ++ symbols.flatMap fun symbol => eventTypes.map (symbol, ·))
  Has p symbol eventType := (symbol, eventType) ∈ p
  accepts _ _ _ := rfl
  has_subscribe _ _ _ _ _ := by simp

theorem quotes_flow_registered :
    listing.QuotesFlow (Run.exec (requestQuotes listing.subscribe)
      [⟨[("A", "quote")], .saxoSim, ["A"], ["quote"]⟩] ["B", "A"]) "A" :=
  (listing.quotes_flow_iff ["A"] ["quote"] [("A", "quote")] .saxoSim (by simp [listing])
    ["B", "A"]).mpr (Or.inl (by simp)) ["B", "A"] (List.prefix_refl _) "A" (by simp)

/-- A provider registered with the candles of `A`: a request for `B` makes the next one, for `A`, do
nothing. -/
theorem second_request_unsubscribed :
    (∀ symbol eventType, listing.Has [("A", "candle")] symbol eventType ↔
      symbol ∈ ["A"] ∧ eventType ∈ ["candle"]) ∧
    (ensureQuoteSubscription listing.subscribe "A" (requestQuotes listing.subscribe
      [⟨[("A", "candle")], .saxoSim, ["A"], ["candle"]⟩] "B")).1 = .ok () ∧
    ¬ listing.QuotesFlow (Run.exec (requestQuotes listing.subscribe)
      [⟨[("A", "candle")], .saxoSim, ["A"], ["candle"]⟩] ["B", "A"]) "A" := by
  refine ⟨by simp [listing], ensureQuoteSubscription_fst _ _ _, ?_⟩
  rw [listing.exec_requestQuotes]
  unfold QuotesFlow
  simp only [List.mem_singleton, exists_eq_left]
  show ("A", "quote") ∉ _
  decide +kernel

end Subscribing

end Gateway
