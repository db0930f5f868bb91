import Mathlib.Data.Finset.SDiff
import TradingGateway.Lib.Table
import TradingGateway.Lib.Text
import TradingGateway.Websocket.Provider

/-!
# Market data subscriptions (`crates/binance/src/websocket.rs`)

A connection is opened with the streams of the configuration; `subscribe` and `unsubscribe` change
them while it lasts. `reconnect` opens the new connection with the streams of the configuration that
`connect` stored. What was subscribed or unsubscribed since then is not looked at.

The server accepts every request that reaches it. The connection state, the listen key and the user
data socket are left out: no stream depends on them.

* `reconnect_restores_iff`: a reconnect restores the streams all along a history exactly if no
  call of the history changes the streams in force.
-/

namespace Gateway.Binance

section names

-- Lower case as the code has it; nothing here depends on what it does to a symbol.
variable (lower : String → String)

/-- The stream of an event type. Order, trade and account updates come with the user data, and an
unknown event type is logged. -/
def streamSuffix : String → Option String
  | "quote" | "quotes" | "bookTicker" => some "bookTicker"
  | "candle" | "candles" | "bar" | "bars" | "candle_1m" => some "kline_1m"
  | "candle_5m" => some "kline_5m"
  | "candle_15m" => some "kline_15m"
  | "candle_1h" => some "kline_1h"
  | "candle_1d" => some "kline_1d"
  | _ => none

/-- The stream names of some symbols and event types. -/
def buildStreamNames (symbols eventTypes : List String) : List String :=
  symbols.flatMap fun symbol =>
    eventTypes.filterMap fun eventType =>
      (streamSuffix eventType).map fun suffix => lower symbol ++ "@" ++ suffix

end names

/-- The provider, and the streams of its connection at the server. -/
structure BinanceProvider where
  storedConfig : Option ProviderConfig
  /-- The event types noted for each symbol. -/
  subscriptions : Table String (List String)
  /-- There is a socket to write to. -/
  writeHalf : Bool
  nextMsgId : UInt64
  /-- The streams of the last connection; they stay when it is lost. -/
  streams : Finset String

namespace BinanceProvider

def new : BinanceProvider := ⟨none, ∅, false, 1, ∅⟩

variable (lower : String → String)

/-- Note the event types for each symbol, in place of those noted before. -/
def note (p : BinanceProvider) (symbols eventTypes : List String) : BinanceProvider :=
  { p with
    subscriptions := symbols.foldl (fun subs symbol => subs.insert symbol eventTypes)
      p.subscriptions }

/-- Open the market data socket; `failure` is the error of the last attempt, if all of them
fail. -/
def connectMarketData (failure : Option String) (p : BinanceProvider) (config : ProviderConfig) :
    Except WebSocketError Unit × BinanceProvider :=
  match failure with
  | none =>
    (.ok (), note { p with
      writeHalf := true
      streams := (buildStreamNames lower config.symbols config.eventTypes).toFinset }
      config.symbols config.eventTypes)
  | some e => (.error (.connectionFailed ("Failed to connect after 5 retries: " ++ e)), p)

def connect (failure : Option String) (p : BinanceProvider) (config : ProviderConfig) :
    Except WebSocketError Unit × BinanceProvider :=
  connectMarketData lower failure { p with storedConfig := some config } config

/-- Send a request; `failure` is the error of the socket, if it does not take it. -/
def request (failure : Option String) (verb : String) (p : BinanceProvider) :
    Except WebSocketError Unit × BinanceProvider :=
  let p := { p with nextMsgId := p.nextMsgId + 1 }
  if p.writeHalf then
    match failure with
    | none => (.ok (), p)
    | some e => (.error (.sendError ("Failed to send " ++ verb ++ ": " ++ e)), p)
  else (.error (.connectionClosed "Not connected"), p)

def subscribe (failure : Option String) (p : BinanceProvider) (symbols eventTypes : List String) :
    Except WebSocketError Unit × BinanceProvider :=
  let names := buildStreamNames lower symbols eventTypes
  if names = [] then (.ok (), p)
  else
    match request failure "subscribe" p with
    | (.error e, p) => (.error e, p)
    | (.ok _, p) =>
      (.ok (), note { p with streams := p.streams ∪ names.toFinset } symbols eventTypes)

/-- The event types noted for any of the symbols. -/
def notedTypes (p : BinanceProvider) (symbols : List String) : List String :=
  ((symbols.filterMap fun symbol => p.subscriptions.get symbol).flatten).dedup

/-- The streams that `unsubscribe` names: every noted event type, for every symbol. -/
def unsubscribeNames (p : BinanceProvider) (symbols : List String) : List String :=
  buildStreamNames lower symbols (p.notedTypes symbols)

def unsubscribe (failure : Option String) (p : BinanceProvider) (symbols : List String) :
    Except WebSocketError Unit × BinanceProvider :=
  let names := unsubscribeNames lower p symbols
  if names = [] then (.ok (), p)
  else
    match request failure "unsubscribe" p with
    | (.error e, p) => (.error e, p)
    | (.ok _, p) => (.ok (),
      { p with
        streams := p.streams \ names.toFinset
        subscriptions := symbols.foldl (fun subs symbol => subs.remove symbol) p.subscriptions })

def disconnect (p : BinanceProvider) : BinanceProvider := { p with writeHalf := false }

def reconnect (failure : Option String) (p : BinanceProvider) :
    Except WebSocketError Unit × BinanceProvider :=
  match p.storedConfig with
  | none => (.error (.connectionClosed
      "Cannot reconnect: no stored config (connect() was never called)"), p)
  | some config => connectMarketData lower failure { p with writeHalf := false } config

/-! ## What the calls do to the streams -/

variable {lower} {p : BinanceProvider}

/-- The call reaches the server. -/
def Reaches (failure : Option String) (p : BinanceProvider) : Prop :=
  p.writeHalf = true ∧ failure = none

instance (failure : Option String) (p : BinanceProvider) : Decidable (Reaches failure p) :=
  inferInstanceAs (Decidable (_ ∧ _))

/-- A call leaves the configuration and the socket alone. -/
structure SameLine (p p' : BinanceProvider) : Prop where
  storedConfig : p'.storedConfig = p.storedConfig
  writeHalf : p'.writeHalf = p.writeHalf

theorem request_of_reaches {failure : Option String} (verb : String) (h : Reaches failure p) :
    request failure verb p = (.ok (), { p with nextMsgId := p.nextMsgId + 1 }) := by
  unfold request
  rw [h.2]
  exact if_pos h.1

theorem request_of_not_reaches {failure : Option String} (verb : String) (h : ¬ Reaches failure p) :
    ∃ e, request failure verb p = (.error e, { p with nextMsgId := p.nextMsgId + 1 }) := by
  unfold request
  dsimp only
  split
  · rename_i hw
    cases failure with
    | none => exact absurd ⟨hw, rfl⟩ h
    | some e => exact ⟨_, rfl⟩
  · exact ⟨_, rfl⟩

theorem subscribe_snd (lower : String → String) (p : BinanceProvider) (failure : Option String)
    (symbols eventTypes : List String) :
    SameLine p (subscribe lower failure p symbols eventTypes).2 ∧
      (subscribe lower failure p symbols eventTypes).2.streams =
        if Reaches failure p then p.streams ∪ (buildStreamNames lower symbols eventTypes).toFinset
        else p.streams := by
  unfold subscribe
  dsimp only
  split
  · rename_i hnil
    exact ⟨⟨rfl, rfl⟩, by simp [hnil]⟩
  · by_cases h : Reaches failure p
    · rw [request_of_reaches _ h, if_pos h]
      exact ⟨⟨rfl, rfl⟩, rfl⟩
    · obtain ⟨e, he⟩ := request_of_not_reaches "subscribe" h
      rw [he, if_neg h]
      exact ⟨⟨rfl, rfl⟩, rfl⟩

theorem unsubscribe_snd (lower : String → String) (p : BinanceProvider) (failure : Option String)
    (symbols : List String) :
    SameLine p (unsubscribe lower failure p symbols).2 ∧
      (unsubscribe lower failure p symbols).2.streams =
        if Reaches failure p then p.streams \ (unsubscribeNames lower p symbols).toFinset
        else p.streams := by
  unfold unsubscribe
  dsimp only
  split
  · rename_i hnil
    exact ⟨⟨rfl, rfl⟩, by simp [hnil]⟩
  · by_cases h : Reaches failure p
    · rw [request_of_reaches _ h, if_pos h]
      exact ⟨⟨rfl, rfl⟩, rfl⟩
    · obtain ⟨e, he⟩ := request_of_not_reaches "unsubscribe" h
      rw [he, if_neg h]
      exact ⟨⟨rfl, rfl⟩, rfl⟩

/-! ## Reconnecting -/

section reconnect

variable (lower)

/-- The streams that a connection is opened with. -/
def configStreams (config : ProviderConfig) : Finset String :=
  (buildStreamNames lower config.symbols config.eventTypes).toFinset

/-- A reconnect that succeeds has the streams that are in force. -/
def Restores (p : BinanceProvider) : Prop :=
  ∀ p', reconnect lower none p = (.ok (), p') → p'.streams = p.streams

/-- The streams in force are those of the stored configuration. -/
structure Settled (p : BinanceProvider) : Prop where
  streams : ∀ config, p.storedConfig = some config → p.streams = configStreams lower config
  unconnected : p.storedConfig = none → p.writeHalf = false

variable {lower} {p' : BinanceProvider}

theorem reconnect_of_config {config : ProviderConfig} (failure : Option String)
    (h : p.storedConfig = some config) :
    reconnect lower failure p =
      connectMarketData lower failure { p with writeHalf := false } config := by
  unfold reconnect
  rw [h]

theorem restores_iff :
    Restores lower p ↔
      ∀ config, p.storedConfig = some config → p.streams = configStreams lower config := by
  unfold Restores
  constructor
  · intro h config hconfig
    rw [reconnect_of_config none hconfig] at h
    exact (h _ rfl).symm
  · intro h p' hp'
    cases hconfig : p.storedConfig with
    | none =>
      unfold reconnect at hp'
      rw [hconfig] at hp'
      cases hp'
    | some config =>
      rw [reconnect_of_config none hconfig] at hp'
      cases hp'
      exact (h config hconfig).symm

theorem Settled.of_sameLine (h : Settled lower p) (hline : SameLine p p')
    (hstreams : p'.streams = p.streams) : Settled lower p' := by
  constructor
  · intro config hconfig
    rw [hstreams]
    exact h.streams config (hline.storedConfig ▸ hconfig)
  · intro hnone
    rw [hline.writeHalf]
    exact h.unconnected (hline.storedConfig ▸ hnone)

theorem Settled.not_restores (h : Settled lower p) (hline : SameLine p p')
    (hwrite : p.writeHalf = true) (hne : p'.streams ≠ p.streams) : ¬ Restores lower p' := by
  rw [restores_iff]
  intro hrestores
  cases hconfig : p.storedConfig with
  | none =>
    rw [h.unconnected hconfig] at hwrite
    cases hwrite
  | some config =>
    have hp' := hrestores config (hline.storedConfig.trans hconfig)
    exact hne (hp'.trans (h.streams config hconfig).symm)

theorem settled_connect (failure : Option String) (config : ProviderConfig)
    (hok : failure ≠ none → configStreams lower config = p.streams) :
    Settled lower (connect lower failure p config).2 := by
  cases failure with
  | none =>
    constructor
    · rintro config' ⟨⟩
      rfl
    · rintro ⟨⟩
  | some e =>
    constructor
    · rintro config' ⟨⟩
      exact (hok (by simp)).symm
    · rintro ⟨⟩

theorem Settled.reconnect (h : Settled lower p) (failure : Option String) :
    Settled lower (reconnect lower failure p).2 := by
  cases hconfig : p.storedConfig with
  | none =>
    unfold BinanceProvider.reconnect
    rw [hconfig]
    exact h
  | some config =>
    rw [reconnect_of_config failure hconfig]
    cases failure with
    | none =>
      constructor
      · intro config' hconfig'
        cases hconfig.symm.trans hconfig'
        rfl
      · intro hnone
        cases hconfig.symm.trans hnone
    | some e => exact ⟨h.streams, fun _ => rfl⟩

theorem Settled.disconnect (h : Settled lower p) : Settled lower p.disconnect :=
  ⟨h.streams, fun _ => rfl⟩

end reconnect

end BinanceProvider

open BinanceProvider

/-! ## Histories -/

/-- A call of the provider, or a quote request at the registry. `failure` is the error of the
socket, if there is one. -/
inductive Call where
  | connect (config : ProviderConfig) (failure : Option String)
  | subscribe (symbols eventTypes : List String) (failure : Option String)
  | unsubscribe (symbols : List String) (failure : Option String)
  | ensureQuote (symbol : String) (failure : Option String)
  | disconnect
  | reconnect (failure : Option String)
  deriving DecidableEq, Repr

variable (lower : String → String)

/-- What a call makes of the provider and of the registry's lists for it. -/
def Call.step (x : SharedProvider BinanceProvider) : Call → SharedProvider BinanceProvider
  | .connect config failure =>
    { x with provider := (x.provider.connect lower failure config).2 }
  | .subscribe symbols eventTypes failure =>
    { x with provider := (x.provider.subscribe lower failure symbols eventTypes).2 }
  | .unsubscribe symbols failure =>
    { x with provider := (x.provider.unsubscribe lower failure symbols).2 }
  | .ensureQuote symbol failure =>
    (requestQuotes (BinanceProvider.subscribe lower failure) [x] symbol).headD x
  | .disconnect => { x with provider := x.provider.disconnect }
  | .reconnect failure => { x with provider := (x.provider.reconnect lower failure).2 }

/-- The call leaves the streams in force as they are, or opens a connection. -/
def Call.Keeps (x : SharedProvider BinanceProvider) : Call → Prop
  | .connect config failure => failure ≠ none → configStreams lower config = x.provider.streams
  | .subscribe symbols eventTypes failure => Reaches failure x.provider →
      (buildStreamNames lower symbols eventTypes).toFinset ⊆ x.provider.streams
  | .unsubscribe symbols failure => Reaches failure x.provider →
      Disjoint x.provider.streams (unsubscribeNames lower x.provider symbols).toFinset
  | .ensureQuote symbol failure => x.listsQuote symbol = false → Reaches failure x.provider →
      (buildStreamNames lower [symbol] ["quote"]).toFinset ⊆ x.provider.streams
  | .disconnect => True
  | .reconnect _ => True

variable {lower} {x : SharedProvider BinanceProvider}

/-- A quote request is a subscription, unless the registry lists the quotes. -/
theorem step_ensureQuote (symbol : String) (failure : Option String) :
    (Call.step lower x (.ensureQuote symbol failure)).provider =
      if x.listsQuote symbol then x.provider
      else (x.provider.subscribe lower failure [symbol] ["quote"]).2 := by
  show ((requestQuotes (BinanceProvider.subscribe lower failure) [x] symbol).headD x).provider = _
  unfold requestQuotes ensureQuoteSubscription
  split
  · rfl
  · split
    · rename_i e provider h
      rw [h]
      rfl
    · rename_i provider h
      rw [h]
      rfl

variable (c : Call) {failure : Option String} {symbols eventTypes : List String}
  {p : BinanceProvider}

theorem subscribe_keeps (h : Settled lower p)
    (hok : Reaches failure p → (buildStreamNames lower symbols eventTypes).toFinset ⊆ p.streams) :
    Settled lower (p.subscribe lower failure symbols eventTypes).2 := by
  obtain ⟨hline, hstreams⟩ := subscribe_snd lower p failure symbols eventTypes
  refine h.of_sameLine hline (hstreams.trans ?_)
  split
  · rename_i hreach
    exact Finset.union_eq_left.mpr (hok hreach)
  · rfl

theorem subscribe_breaks (h : Settled lower p) (hreach : Reaches failure p)
    (hnew : ¬ (buildStreamNames lower symbols eventTypes).toFinset ⊆ p.streams) :
    ¬ Restores lower (p.subscribe lower failure symbols eventTypes).2 := by
  obtain ⟨hline, hstreams⟩ := subscribe_snd lower p failure symbols eventTypes
  refine h.not_restores hline hreach.1 fun heq => hnew ?_
  rw [hstreams, if_pos hreach] at heq
  exact Finset.union_eq_left.mp heq

theorem unsubscribe_keeps (h : Settled lower p)
    (hok : Reaches failure p → Disjoint p.streams (unsubscribeNames lower p symbols).toFinset) :
    Settled lower (p.unsubscribe lower failure symbols).2 := by
  obtain ⟨hline, hstreams⟩ := unsubscribe_snd lower p failure symbols
  refine h.of_sameLine hline (hstreams.trans ?_)
  split
  · rename_i hreach
    exact Finset.sdiff_eq_self_iff_disjoint.mpr (hok hreach)
  · rfl

theorem unsubscribe_breaks (h : Settled lower p) (hreach : Reaches failure p)
    (hin : ¬ Disjoint p.streams (unsubscribeNames lower p symbols).toFinset) :
    ¬ Restores lower (p.unsubscribe lower failure symbols).2 := by
  obtain ⟨hline, hstreams⟩ := unsubscribe_snd lower p failure symbols
  refine h.not_restores hline hreach.1 fun heq => hin ?_
  rw [hstreams, if_pos hreach] at heq
  exact Finset.sdiff_eq_self_iff_disjoint.mp heq

theorem Call.step_settled (h : Settled lower x.provider) (hok : c.Keeps lower x) :
    Settled lower (c.step lower x).provider := by
  cases c with
  | connect config failure => exact settled_connect failure config hok
  | subscribe symbols eventTypes failure => exact subscribe_keeps h hok
  | unsubscribe symbols failure => exact unsubscribe_keeps h hok
  | ensureQuote symbol failure =>
    rw [step_ensureQuote]
    split
    · exact h
    · rename_i hlists
      exact subscribe_keeps h (hok (by simpa using hlists))
  | disconnect => exact h.disconnect
  | reconnect failure => exact h.reconnect failure

theorem Call.step_not_restores (h : Settled lower x.provider) (hok : ¬ c.Keeps lower x) :
    ¬ Restores lower (c.step lower x).provider := by
  cases c with
  | connect config failure =>
    rw [restores_iff]
    intro hrestores
    refine hok fun hfail => ?_
    cases failure with
    | none => exact absurd rfl hfail
    | some e => exact (hrestores config rfl).symm
  | subscribe symbols eventTypes failure =>
    unfold Call.Keeps at hok
    push Not at hok
    exact subscribe_breaks h hok.1 hok.2
  | unsubscribe symbols failure =>
    unfold Call.Keeps at hok
    push Not at hok
    exact unsubscribe_breaks h hok.1 hok.2
  | ensureQuote symbol failure =>
    unfold Call.Keeps at hok
    push Not at hok
    rw [step_ensureQuote, if_neg (by simp [hok.1])]
    exact subscribe_breaks h hok.2.1 hok.2.2
  | disconnect => exact absurd trivial hok
  | reconnect failure => exact absurd trivial hok

/-- The provider before it is connected, and the lists that the registry has for it. -/
def registered (platform : TradingPlatform) (S E : List String) : SharedProvider BinanceProvider :=
  ⟨.new, platform, S, E⟩

theorem settled_registered (platform : TradingPlatform) (S E : List String) :
    Settled lower (registered platform S E).provider := by
  constructor
  · rintro config ⟨⟩
  · intro _
    rfl

/-- At every point of a history a successful reconnect restores the streams that are in force,
exactly if no call since the connection was opened changes them. -/
theorem reconnect_restores_iff (lower : String → String) (platform : TradingPlatform)
    (S E : List String) (calls : List Call) :
    (∀ calls', calls' <+: calls →
      Restores lower (Run.exec (Call.step lower) (registered platform S E) calls').provider) ↔
    Run.Guarded (Call.step lower) (Call.Keeps lower) (registered platform S E) calls := by
  have hlegal : Run.Guarded (Call.step lower) (fun _ _ => True) (registered platform S E) calls :=
    Run.guarded_of_forall (fun _ _ => trivial) _ _
  exact Run.forall_prefix_iff_guarded (I := fun x => Settled lower x.provider)
    (P := fun x => Restores lower x.provider)
    (fun x h => restores_iff.mpr h.streams)
    (fun x c h _ hok => c.step_settled h hok)
    (fun x c h _ hok => c.step_not_restores h hok)
    (settled_registered platform S E) hlegal

/-- Connected with the candles of one symbol, and quotes requested for it. -/
def quotesRequested : List Call :=
  [.connect ⟨.binanceSpotLive, ["BTCUSDT"], ["candle"], false⟩ none, .ensureQuote "BTCUSDT" none]

/-- The quotes that the registry requested are lost. -/
theorem reconnect_loses_quotes :
    (Run.exec (Call.step Text.asciiLower) (registered .binanceSpotLive ["BTCUSDT"] ["candle"])
      quotesRequested).provider.streams = {"btcusdt@kline_1m", "btcusdt@bookTicker"} ∧
    ((Run.exec (Call.step Text.asciiLower) (registered .binanceSpotLive ["BTCUSDT"] ["candle"])
      (quotesRequested ++ [.disconnect])).provider.reconnect Text.asciiLower none).1 = .ok () ∧
    ((Run.exec (Call.step Text.asciiLower) (registered .binanceSpotLive ["BTCUSDT"] ["candle"])
      (quotesRequested ++ [.disconnect])).provider.reconnect Text.asciiLower none).2.streams =
        {"btcusdt@kline_1m"} := by
  refine ⟨by decide +kernel, rfl, by decide +kernel⟩

end Gateway.Binance
