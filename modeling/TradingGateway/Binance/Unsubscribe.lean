import TradingGateway.Binance.Streams

/-!
# Unsubscribing (`crates/binance/src/websocket.rs`)

`unsubscribe` works out the streams to drop from the event types that were noted for the symbols.
`subscribe` notes only the event types of its own call, in place of those of earlier calls, so the
streams of earlier calls can stay at the server.

* `unsubscribe_complete_iff`: it drops exactly the streams of its symbols if and only if every
  stream in force of the symbols is among those of the noted event types.
-/

namespace Gateway.Binance

open BinanceProvider

variable (lower : String → String)

/-! ## The streams of a symbol -/

/-- `name` is a stream of the symbol. -/
def StreamOf (symbol name : String) : Prop :=
  ∃ eventType suffix, streamSuffix eventType = some suffix ∧ name = lower symbol ++ "@" ++ suffix

variable {lower}

theorem mem_buildStreamNames {symbols eventTypes : List String} {name : String} :
    name ∈ buildStreamNames lower symbols eventTypes ↔
      ∃ symbol ∈ symbols, ∃ eventType ∈ eventTypes, ∃ suffix,
        streamSuffix eventType = some suffix ∧ name = lower symbol ++ "@" ++ suffix := by
  simp only [buildStreamNames, List.mem_flatMap, List.mem_filterMap, Option.map_eq_some_iff,
    eq_comm (a := name)]

theorem notMem_streamSuffix {eventType suffix : String} (h : streamSuffix eventType = some suffix) :
    '@' ∉ suffix.toList := by
  unfold streamSuffix at h
  split at h <;> cases h <;> decide +kernel

/-- A stream name tells the lower case of the symbol, and the suffix. -/
theorem streamName_inj {symbol symbol' eventType eventType' suffix suffix' : String}
    (h : streamSuffix eventType = some suffix) (h' : streamSuffix eventType' = some suffix')
    (heq : lower symbol ++ "@" ++ suffix = lower symbol' ++ "@" ++ suffix') :
    lower symbol = lower symbol' ∧ suffix = suffix' :=
  Text.append_sep_inj (notMem_streamSuffix h) (notMem_streamSuffix h') heq

/-! ## One call -/

variable (lower)

/-- What unsubscribing the symbols should do to the streams: none of theirs is left, and those of
other symbols are as before. -/
structure Unsubscribed (symbols : List String) (p p' : BinanceProvider) : Prop where
  gone : ∀ symbol ∈ symbols, ∀ name, StreamOf lower symbol name → name ∉ p'.streams
  kept : ∀ symbol, lower symbol ∉ symbols.map lower → ∀ name, StreamOf lower symbol name →
    (name ∈ p'.streams ↔ name ∈ p.streams)

/-- Every stream in force of the symbols is one of the event types noted for them. -/
def AllNoted (symbols : List String) (p : BinanceProvider) : Prop :=
  ∀ symbol ∈ symbols, ∀ eventType suffix, streamSuffix eventType = some suffix →
    lower symbol ++ "@" ++ suffix ∈ p.streams →
    ∃ noted ∈ p.notedTypes symbols, streamSuffix noted = some suffix

variable {lower}

theorem unsubscribed_iff {p : BinanceProvider} (hwrite : p.writeHalf = true)
    (symbols : List String) :
    Unsubscribed lower symbols p (p.unsubscribe lower none symbols).2 ↔
      AllNoted lower symbols p := by
  have hstreams := (unsubscribe_snd lower p none symbols).2
  rw [if_pos ⟨hwrite, rfl⟩] at hstreams
  have hmem (name : String) : name ∈ (p.unsubscribe lower none symbols).2.streams ↔
      name ∈ p.streams ∧ name ∉ buildStreamNames lower symbols (p.notedTypes symbols) := by
    rw [hstreams, Finset.mem_sdiff, List.mem_toFinset, unsubscribeNames]
  constructor
  · intro h symbol hsymbol eventType suffix hsuffix hin
    -- a stream in force that is gone was named
    have hgone := h.gone symbol hsymbol _ ⟨eventType, suffix, hsuffix, rfl⟩
    rw [hmem] at hgone
    have hnamed := not_not.mp fun hn => hgone ⟨hin, hn⟩
    obtain ⟨symbol', -, noted, hnoted, suffix', hsuffix', heq⟩ := mem_buildStreamNames.mp hnamed
    obtain ⟨-, rfl⟩ := streamName_inj hsuffix hsuffix' heq
    exact ⟨noted, hnoted, hsuffix'⟩
  · intro h
    constructor
    · rintro symbol hsymbol name ⟨eventType, suffix, hsuffix, rfl⟩ hleft
      obtain ⟨hin, hnot⟩ := (hmem _).mp hleft
      obtain ⟨noted, hnoted, hsuffix'⟩ := h symbol hsymbol eventType suffix hsuffix hin
      exact hnot (mem_buildStreamNames.mpr ⟨symbol, hsymbol, noted, hnoted, suffix, hsuffix', rfl⟩)
    · rintro symbol hother name ⟨eventType, suffix, hsuffix, rfl⟩
      rw [hmem, and_iff_left_iff_imp]
      intro _ hnamed
      -- only streams of the symbols are named
      obtain ⟨symbol', hsymbol', noted, -, suffix', hsuffix', heq⟩ := mem_buildStreamNames.mp hnamed
      obtain ⟨hlower, -⟩ := streamName_inj hsuffix hsuffix' heq
      exact hother (List.mem_map.mpr ⟨symbol', hsymbol', hlower.symm⟩)

/-! ## Every sequence of calls -/

/-- A call whose request the server applies. -/
inductive Request where
  | subscribe (symbols eventTypes : List String)
  | unsubscribe (symbols : List String)
  deriving DecidableEq, Repr

def Request.step (lower : String → String) (p : BinanceProvider) : Request → BinanceProvider
  | .subscribe symbols eventTypes => (p.subscribe lower none symbols eventTypes).2
  | .unsubscribe symbols => (p.unsubscribe lower none symbols).2

theorem Request.step_writeHalf (p : BinanceProvider) (r : Request) :
    (r.step lower p).writeHalf = p.writeHalf := by
  cases r with
  | subscribe symbols eventTypes =>
    exact (subscribe_snd lower p none symbols eventTypes).1.writeHalf
  | unsubscribe symbols => exact (unsubscribe_snd lower p none symbols).1.writeHalf

theorem writeHalf_exec {p : BinanceProvider} (hwrite : p.writeHalf = true)
    (requests : List Request) :
    (Run.exec (Request.step lower) p requests).writeHalf = true :=
  Run.exec_inv_all (I := fun p => p.writeHalf = true)
    (fun p r h => (r.step_writeHalf p).trans h) hwrite requests

/-- After a connection is opened, and any calls: each `unsubscribe` does what it should exactly if
every stream in force of its symbols is one of the event types noted for them. -/
theorem unsubscribe_complete_iff (lower : String → String) (p : BinanceProvider)
    (config : ProviderConfig) (requests : List Request) :
    (∀ before symbols after, requests = before ++ .unsubscribe symbols :: after →
      Unsubscribed lower symbols
        (Run.exec (Request.step lower) (p.connect lower none config).2 before)
        (Run.exec (Request.step lower) (p.connect lower none config).2
          (before ++ [.unsubscribe symbols]))) ↔
    ∀ before symbols after, requests = before ++ .unsubscribe symbols :: after →
      AllNoted lower symbols
        (Run.exec (Request.step lower) (p.connect lower none config).2 before) := by
  refine forall₄_congr fun before symbols after _ => ?_
  rw [Run.exec_append, Run.exec_cons, Run.exec_nil]
  exact unsubscribed_iff (writeHalf_exec rfl before) symbols

/-- Quotes, then candles of one symbol; then it is unsubscribed. -/
def quotesThenCandles : List Request :=
  [.subscribe ["BTCUSDT"] ["quote"], .subscribe ["BTCUSDT"] ["candle"], .unsubscribe ["BTCUSDT"]]

/-- The quotes stay. -/
theorem unsubscribe_leaves_quotes :
    (Run.exec (Request.step Text.asciiLower)
      (BinanceProvider.new.connect Text.asciiLower none ⟨.binanceSpotLive, [], [], false⟩).2
      quotesThenCandles).streams = {"btcusdt@bookTicker"} := by
  decide +kernel

end Gateway.Binance
