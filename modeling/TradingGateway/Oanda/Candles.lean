import TradingGateway.Lib.Table
import TradingGateway.Models

/-!
# Polled candles (`crates/oanda/src/streaming.rs`)

The candle poll asks for the newest candles of every instrument, once a minute, or sooner after a
failure. The answers overlap. For each instrument the time of the last candle that was sent is kept
(`lastEmitted`): of the first answer the newest closed candle is sent, of later answers every closed
candle that is newer than that time.

`CandleEvent` is what happens to the task: an answer for each instrument, or its cancellation.
-/

namespace Gateway

/-- A bar (`crates/core/src/models/bar.rs`). -/
structure Bar where
  symbol : String
  provider : String
  timeframe : Timeframe
  /-- The start of the bar. -/
  timestamp : ℤ
  «open» : Decimal
  high : Decimal
  low : Decimal
  close : Decimal
  volume : Decimal
  deriving DecidableEq, Repr

namespace Oanda

/-- The prices of a candle, as they are sent. -/
structure OandaCandleData where
  o : String
  h : String
  l : String
  c : String
  deriving DecidableEq, Repr

structure OandaCandle where
  time : String
  mid : Option OandaCandleData
  volume : ℤ
  complete : Bool
  deriving DecidableEq, Repr

/-- How times and decimals are read. -/
structure Codec where
  parseTime : String → Option ℤ
  parseDecimal : String → Option Decimal

/-- A candle without mid prices, or with a time that cannot be read, is no bar. -/
def candleToBar (codec : Codec) (symbol : String) (candle : OandaCandle)
    (platform : TradingPlatform) : Option Bar := do
  let mid ← candle.mid
  let timestamp ← codec.parseTime candle.time
  pure
    { symbol
      provider := platform.headerValue
      timeframe := .oneMinute
      «open» := (codec.parseDecimal mid.o).getD 0
      high := (codec.parseDecimal mid.h).getD 0
      low := (codec.parseDecimal mid.l).getD 0
      close := (codec.parseDecimal mid.c).getD 0
      volume := candle.volume
      timestamp }

inductive CandlePollError where
  /-- 401 or 403. -/
  | auth (msg : String)
  | transient (msg : String)
  deriving DecidableEq, Repr

/-- What comes of the request for the candles of an instrument. -/
inductive CandleAnswer where
  | unreachable (error : String)
  /-- A status with its text, and the body if it can be read. -/
  | answered (status : ℕ) (text : String) (body : Except String (List OandaCandle))

/-- The closed candles of an answer, oldest first. -/
def pollCandles : CandleAnswer → Except CandlePollError (List OandaCandle)
  | .unreachable e => .error (.transient e)
  | .answered status text body =>
    if status = 401 ∨ status = 403 then .error (.auth ("HTTP " ++ text))
    else if ¬ (200 ≤ status ∧ status < 300) then .error (.transient ("HTTP " ++ text))
    else
      match body with
      | .error e => .error (.transient e)
      | .ok candles => .ok (candles.filter OandaCandle.complete)

def initialBackoff : Duration := 10 ^ 9

def maxBackoff : Duration := 60 * 10 ^ 9

def candlePollOffset : Duration := 3 * 10 ^ 9

def maxConsecutiveCandlePollFailures : ℕ := 8

/-- The state of the poll task, with what it has sent. -/
structure CandlePoll where
  lastEmitted : Table String ℤ
  backoff : Duration
  consecutiveFailures : ℕ
  stopped : Bool
  emitted : List Bar

def CandlePoll.new : CandlePoll := ⟨∅, initialBackoff, 0, false, []⟩

namespace CandlePoll

/-- Send a bar and remember its time. -/
def emit (s : CandlePoll) (symbol : String) (bar : Bar) : CandlePoll :=
  { s with
    lastEmitted := s.lastEmitted.insert symbol bar.timestamp
    emitted := s.emitted ++ [bar] }

/-- The bars of an answer that were not sent yet. Of the first answer only the newest one. -/
def newBars (s : CandlePoll) (symbol : String) (bars : List Bar) : List Bar :=
  match s.lastEmitted.get symbol with
  | none => bars.getLast?.toList
  | some watermark => bars.filter fun b => b.timestamp > watermark

section poll

variable (codec : Codec) (platform : TradingPlatform) (channelOpen : Bool)

/-- The answer for one instrument. `false` if the request failed. -/
def pollSymbol (s : CandlePoll) (symbol : String) (answer : CandleAnswer) : Bool × CandlePoll :=
  match pollCandles answer with
  | .error _ => (false, s)
  | .ok candles =>
    let bars := candles.filterMap fun c => candleToBar codec symbol c platform
    -- without a channel nothing is sent, and nothing is remembered as sent
    (true, if channelOpen then (s.newBars symbol bars).foldl (emit · symbol) s else s)

/-- All instruments. `false` if a request failed. -/
def pollAndEmit (s : CandlePoll) (answers : List (String × CandleAnswer)) : Bool × CandlePoll :=
  answers.foldl (fun (healthy, s) (symbol, answer) =>
    let (ok, s) := s.pollSymbol codec platform channelOpen symbol answer
    (healthy && ok, s)) (true, s)

end poll

/-- The start of the next minute, in nanoseconds. -/
def nextMinuteBoundary (now : Instant) : Instant := (now / (60 * 10 ^ 9) + 1) * (60 * 10 ^ 9)

/-- How long the task sleeps before the next poll. -/
def sleepDur (s : CandlePoll) (now : Instant) : Duration :=
  if s.consecutiveFailures = 0 then nextMinuteBoundary now + candlePollOffset - now
  else s.backoff

/-- The task after a poll. -/
def afterPoll (healthy : Bool) (s : CandlePoll) : CandlePoll :=
  if healthy then { s with consecutiveFailures := 0, backoff := initialBackoff }
  else
    let consecutiveFailures := s.consecutiveFailures + 1
    if consecutiveFailures ≥ maxConsecutiveCandlePollFailures then
      { s with consecutiveFailures, stopped := true }
    else { s with consecutiveFailures, backoff := min (s.backoff * 2) maxBackoff }

end CandlePoll

inductive CandleEvent where
  /-- The sleep ends; each instrument of the moment gets an answer. -/
  | poll (answers : List (String × CandleAnswer)) (channelOpen : Bool)
  /-- The task is replaced, or the provider disconnects. -/
  | cancelled

/-- A turn of `run_candle_poll`. -/
def CandleEvent.step (codec : Codec) (platform : TradingPlatform) (s : CandlePoll) :
    CandleEvent → CandlePoll
  | .cancelled => { s with stopped := true }
  | .poll answers channelOpen =>
    if s.stopped then s
    else if answers.isEmpty then s
    else
      let (healthy, s) := s.pollAndEmit codec platform channelOpen answers
      s.afterPoll healthy

end Oanda

end Gateway
