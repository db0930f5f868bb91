import TradingGateway.Error
import TradingGateway.Lib.Json
import TradingGateway.Lib.Utf8
import TradingGateway.Oanda.Candles

/-!
# Text frames (`crates/binance/src/websocket.rs`, `crates/alpaca/src/websocket.rs`)

What the readers of the market data sockets, and of Alpaca's trading stream, do with a text frame. A
frame that cannot be parsed is logged, cut off after 200 bytes. The arguments of an event are
evaluated only if its level is enabled, so `debug` tells whether the cut is made at all.

The parsers of the JSON library and of the decimals are parameters: nothing is assumed of them.

* `parsedOrLogged`: what the three functions have in common.
* `parsedOrLogged_ne_panic_iff`: when the cut is made between two characters, or not at all.
-/

namespace Gateway

structure Quote where
  symbol : String
  provider : String
  bid : Decimal
  bidSize : Option Decimal
  ask : Decimal
  askSize : Option Decimal
  last : Decimal
  volume : Option Decimal
  timestamp : ℤ
  deriving DecidableEq, Repr

/-- A message with market data. -/
inductive MarketMessage where
  | quoteData (quote : Quote)
  | candle (bar : Bar)
  deriving DecidableEq, Repr

def Timeframe.fromStr (s : String) : Option Timeframe :=
  [.oneMinute, .twoMinutes, .fiveMinutes, .tenMinutes, .fifteenMinutes, .thirtyMinutes, .oneHour,
    .twoHours, .fourHours, .twelveHours, .oneDay, .oneWeek].find? fun t => t.asStr = s

def TradingPlatform.isPaper : TradingPlatform → Bool
  | alpacaPaper | binanceSpotTestnet | binanceFuturesTestnet | binanceMarginTestnet
  | binanceCoinFuturesTestnet | oandaPractice | saxoSim | tektii | mock => true
  | _ => false

/-- Log the start of a frame: `&text[..text.len().min(200)]`. -/
def logExcerpt (debug : Bool) (text : String) : Checked Empty Unit := do
  if debug then
    let _ ← Utf8.upTo text (min text.utf8ByteSize 200)
    .ok ()
  else .ok ()

theorem logExcerpt_ne_panic_iff {debug : Bool} {text : String} :
    logExcerpt debug text ≠ .panic ↔
      (debug = true → text.utf8ByteSize ≤ 200 ∨ Utf8.Boundary text 200) := by
  rw [← Utf8.boundary_min_iff, ← Utf8.upTo_ne_panic_iff (ε := Empty)]
  unfold logExcerpt
  cases debug with
  | false => simp
  | true =>
    cases hup : (Utf8.upTo text (min text.utf8ByteSize 200) : Checked Empty String) with
    | panic => simp [bind, Checked.bind]
    | fail e => exact e.elim
    | ok p => simp

/-- Use a frame that could be parsed, or log it. -/
def parsedOrLogged {α μ : Type} (parsed : Option α) (debug : Bool) (text : String) (f : α → μ)
    (ignored : μ) : Checked Empty μ :=
  match parsed with
  | some a => .ok (f a)
  | none => do
    logExcerpt debug text
    .ok ignored

theorem parsedOrLogged_ne_panic_iff {α μ : Type} {parsed : Option α} {debug : Bool} {text : String}
    {f : α → μ} {ignored : μ} :
    parsedOrLogged parsed debug text f ignored ≠ .panic ↔
      (parsed = none → debug = true → text.utf8ByteSize ≤ 200 ∨ Utf8.Boundary text 200) := by
  unfold parsedOrLogged
  cases parsed with
  | some a => simp
  | none =>
    rw [← logExcerpt_ne_panic_iff]
    cases hlog : logExcerpt debug text with
    | panic => simp [bind, Checked.bind]
    | fail e => exact e.elim
    | ok u => simp

/-! ## Binance -/

namespace Binance

/-- The wrapper of the combined stream. -/
structure CombinedStreamMessage where
  stream : String
  data : Json

structure WsBookTickerEvent where
  symbol : String
  bidPrice : String
  bidQty : String
  askPrice : String
  askQty : String

structure WsKlineData where
  openTime : ℤ
  interval : String
  «open» : String
  high : String
  low : String
  close : String
  volume : String

structure WsKlineEvent where
  symbol : String
  kline : WsKlineData

/-- The parsers that the reader calls. -/
structure Parsers where
  combined : String → Option CombinedStreamMessage
  bookTicker : Json → Option WsBookTickerEvent
  kline : Json → Option WsKlineEvent
  decimal : String → Option Decimal
  timestampMillis : ℤ → Option ℤ

def platformProviderName : TradingPlatform → String
  | .binanceSpotLive | .binanceSpotTestnet => "binance-spot"
  | .binanceFuturesLive | .binanceFuturesTestnet => "binance-futures"
  | .binanceMarginLive | .binanceMarginTestnet => "binance-margin"
  | .binanceCoinFuturesLive | .binanceCoinFuturesTestnet => "binance-coin-futures"
  | _ => "binance"

def binanceIntervalToTimeframe (interval : String) : Timeframe :=
  (Timeframe.fromStr interval).getD .oneMinute

variable (p : Parsers) (now : ℤ) (platform : TradingPlatform)

def quoteOf (ticker : WsBookTickerEvent) : Quote :=
  let bid := (p.decimal ticker.bidPrice).getD 0
  let ask := (p.decimal ticker.askPrice).getD 0
  { symbol := ticker.symbol
    provider := platformProviderName platform
    bid
    bidSize := p.decimal ticker.bidQty
    ask
    askSize := p.decimal ticker.askQty
    last := (bid + ask) / 2
    volume := none
    timestamp := now }

def barOf (event : WsKlineEvent) : Bar where
  symbol := event.symbol
  provider := platformProviderName platform
  timeframe := binanceIntervalToTimeframe event.kline.interval
  timestamp := (p.timestampMillis event.kline.openTime).getD now
  «open» := (p.decimal event.kline.open).getD 0
  high := (p.decimal event.kline.high).getD 0
  low := (p.decimal event.kline.low).getD 0
  close := (p.decimal event.kline.close).getD 0
  volume := (p.decimal event.kline.volume).getD 0

/-- The messages of a parsed frame. -/
def streamMessages (combined : CombinedStreamMessage) : List MarketMessage :=
  if "@bookTicker".toList <:+ combined.stream.toList then
    ((p.bookTicker combined.data).map fun ticker =>
      .quoteData (quoteOf p now platform ticker)).toList
  else if containsWord combined.stream.toList "@kline_" then
    ((p.kline combined.data).map fun event => .candle (barOf p now platform event)).toList
  else []

/-- Process a market data message from the combined stream. -/
def processMarketMessage (debug : Bool) (text : String) : Checked Empty (List MarketMessage) :=
  parsedOrLogged (p.combined text) debug text (streamMessages p now platform) []

end Binance

/-! ## Alpaca -/

namespace Alpaca

structure AlpacaTradeMessage where
  symbol : String
  price : ℚ
  size : ℚ
  timestamp : String

structure AlpacaQuoteMessage where
  symbol : String
  bidPrice : ℚ
  bidSize : ℚ
  askPrice : ℚ
  askSize : ℚ
  timestamp : String

structure AlpacaBarMessage where
  symbol : String
  «open» : ℚ
  high : ℚ
  low : ℚ
  close : ℚ
  volume : ℚ
  timestamp : String

structure AlpacaTradingStreamMessage where
  stream : String
  data : Option Json

/-- The parsers that the readers call. A floating-point number is the rational it stands for; not
each has a decimal. -/
structure Parsers where
  array : String → Option (List Json)
  quote : Json → Option AlpacaQuoteMessage
  bar : Json → Option AlpacaBarMessage
  trade : Json → Option AlpacaTradeMessage
  fromF64 : ℚ → Option Decimal
  datetime : String → Option ℤ
  tradingStream : String → Option AlpacaTradingStreamMessage

def alpacaProviderName (platform : TradingPlatform) : String :=
  if platform.isPaper then "alpaca-paper" else "alpaca-live"

variable (p : Parsers) (now : ℤ) (platform : TradingPlatform)

def convertQuoteToWsMessage (msg : AlpacaQuoteMessage) : Option MarketMessage := do
  let bid ← p.fromF64 msg.bidPrice
  let ask ← p.fromF64 msg.askPrice
  some (.quoteData
    { symbol := msg.symbol
      provider := alpacaProviderName platform
      bid
      bidSize := p.fromF64 msg.bidSize
      ask
      askSize := p.fromF64 msg.askSize
      last := (bid + ask) / 2
      volume := none
      timestamp := (p.datetime msg.timestamp).getD now })

def convertBarToWsMessage (msg : AlpacaBarMessage) : MarketMessage :=
  .candle
    { symbol := msg.symbol
      provider := alpacaProviderName platform
      timeframe := (Timeframe.fromStr "1m").getD .oneMinute
      timestamp := (p.datetime msg.timestamp).getD now
      «open» := (p.fromF64 msg.open).getD 0
      high := (p.fromF64 msg.high).getD 0
      low := (p.fromF64 msg.low).getD 0
      close := (p.fromF64 msg.close).getD 0
      volume := (p.fromF64 msg.volume).getD 0 }

/-- A trade is reported as a quote at its price. -/
def tradeQuote (msg : AlpacaTradeMessage) : MarketMessage :=
  let price := (p.fromF64 msg.price).getD 0
  .quoteData
    { symbol := msg.symbol
      provider := alpacaProviderName platform
      bid := price
      bidSize := p.fromF64 msg.size
      ask := price
      askSize := none
      last := price
      volume := p.fromF64 msg.size
      timestamp := (p.datetime msg.timestamp).getD now }

/-- The message for one item of a frame. Confirmations, errors and unknown items are logged. -/
def itemMessage (msg : Json) : Option MarketMessage :=
  match (msg.get "T").bind Json.asStr with
  | some "q" => (p.quote msg).bind (convertQuoteToWsMessage p now platform)
  | some "b" => (p.bar msg).map (convertBarToWsMessage p now platform)
  | some "t" => (p.trade msg).map (tradeQuote p now platform)
  | _ => none

/-- Process a text message from the market data socket: an array of items. -/
def processAlpacaMessage (debug : Bool) (text : String) : Checked Empty (List MarketMessage) :=
  parsedOrLogged (p.array text) debug text (List.filterMap (itemMessage p now platform)) []

/-- Process a text message from the trading stream. `orderEvent` parses an order update and makes
the event that is sent on; what it makes is left open. -/
def processTradingStreamText {μ : Type} (orderEvent : Json → Option μ) (debug : Bool)
    (text : String) : Checked Empty (Option μ) :=
  parsedOrLogged (p.tradingStream text) debug text
    (fun streamMsg =>
      if streamMsg.stream = "trade_updates" then streamMsg.data.bind orderEvent else none)
    none

end Alpaca

end Gateway
