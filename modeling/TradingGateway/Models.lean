import Mathlib.Algebra.Order.Field.Rat
import Mathlib.Data.Rat.Floor

/-!
# Orders, sides and quantities (`crates/core/src/models`)

The part of the gateway's data model that the exit and trailing-stop handlers use. Wire spellings
(serde attributes, schema annotations) and wall-clock timestamps are left out: no function here
reads them.

A `Decimal` is an exact rational. The code's decimal has 28 significant digits; within them its
additions, subtractions and comparisons are exact.
-/

namespace Gateway

/-- A quantity or a price. -/
abbrev Decimal := ℚ

/-- A monotonic instant, in nanoseconds. -/
abbrev Instant := ℕ

/-- A length of time, in nanoseconds. -/
abbrev Duration := ℕ

def Duration.fromMillis (ms : ℕ) : Duration := ms * 10 ^ 6

def Duration.fromSecs (secs : ℕ) : Duration := secs * 10 ^ 9

namespace Decimal

/-- The digits after the point of `r`, `0 ≤ r < 1`, at most `n` of them. -/
def fraction : ℕ → Decimal → List Char
  | 0, _ => []
  | n + 1, r =>
    if r = 0 then [] else Nat.digitChar (r * 10).floor.toNat :: fraction n (Int.fract (r * 10))

/-- The text of a decimal, without trailing zeros. -/
def display (d : Decimal) : String :=
  let a := if d < 0 then -d else d
  let whole := (if d < 0 then "-" else "") ++ toString a.floor.toNat
  match fraction 28 (Int.fract a) with
  | [] => whole
  | ds => whole ++ "." ++ String.ofList ds

end Decimal

inductive Side where
  | buy
  | sell
  deriving DecidableEq, Repr

inductive OrderType where
  | market
  | limit
  | stop
  | stopLimit
  | trailingStop
  deriving DecidableEq, Repr

inductive OrderStatus where
  | pending
  | pendingCancel
  | open
  | partiallyFilled
  | filled
  | cancelled
  | rejected
  | expired
  deriving DecidableEq, Repr

def OrderStatus.isTerminal : OrderStatus → Bool
  | filled | cancelled | rejected | expired => true
  | _ => false

inductive TrailingType where
  | absolute
  | percent
  deriving DecidableEq, Repr

inductive MarginMode where
  | cross
  | isolated
  deriving DecidableEq, Repr

inductive TimeInForce where
  | gtc
  | day
  | ioc
  | fok
  deriving DecidableEq, Repr

inductive RejectReason where
  | insufficientMargin
  | insufficientBalance
  | invalidQuantity
  | invalidPrice
  | symbolNotTradeable
  | marketClosed
  | reduceOnlyViolated
  | postOnlyViolated
  | rateLimited
  | unknown
  deriving DecidableEq, Repr

inductive TradingPlatform where
  | alpacaLive
  | alpacaPaper
  | binanceSpotLive
  | binanceSpotTestnet
  | binanceFuturesLive
  | binanceFuturesTestnet
  | binanceMarginLive
  | binanceMarginTestnet
  | binanceCoinFuturesLive
  | binanceCoinFuturesTestnet
  | oandaPractice
  | oandaLive
  | saxoSim
  | saxoLive
  | tektii
  | mock
  deriving DecidableEq, Repr

/-- The platform's kebab-case name, which is also its text (`Display`). -/
def TradingPlatform.headerValue : TradingPlatform → String
  | alpacaLive => "alpaca-live"
  | alpacaPaper => "alpaca-paper"
  | binanceSpotLive => "binance-spot-live"
  | binanceSpotTestnet => "binance-spot-testnet"
  | binanceFuturesLive => "binance-futures-live"
  | binanceFuturesTestnet => "binance-futures-testnet"
  | binanceMarginLive => "binance-margin-live"
  | binanceMarginTestnet => "binance-margin-testnet"
  | binanceCoinFuturesLive => "binance-coin-futures-live"
  | binanceCoinFuturesTestnet => "binance-coin-futures-testnet"
  | oandaPractice => "oanda-practice"
  | oandaLive => "oanda-live"
  | saxoSim => "saxo-sim"
  | saxoLive => "saxo-live"
  | tektii => "tektii"
  | mock => "mock"

/-- The length of a bar. -/
inductive Timeframe where
  | oneMinute
  | twoMinutes
  | fiveMinutes
  | tenMinutes
  | fifteenMinutes
  | thirtyMinutes
  | oneHour
  | twoHours
  | fourHours
  | twelveHours
  | oneDay
  | oneWeek
  deriving DecidableEq, Repr

/-- The text of a timeframe (also its `Display`). -/
def Timeframe.asStr : Timeframe → String
  | oneMinute => "1m"
  | twoMinutes => "2m"
  | fiveMinutes => "5m"
  | tenMinutes => "10m"
  | fifteenMinutes => "15m"
  | thirtyMinutes => "30m"
  | oneHour => "1h"
  | twoHours => "2h"
  | fourHours => "4h"
  | twelveHours => "12h"
  | oneDay => "1d"
  | oneWeek => "1w"

/-- A request to submit a new order. -/
structure OrderRequest where
  symbol : String
  side : Side
  quantity : Decimal
  orderType : OrderType
  limitPrice : Option Decimal := none
  stopPrice : Option Decimal := none
  trailingDistance : Option Decimal := none
  trailingType : Option TrailingType := none
  stopLoss : Option Decimal := none
  takeProfit : Option Decimal := none
  positionId : Option String := none
  reduceOnly : Bool := false
  postOnly : Bool := false
  hidden : Bool := false
  displayQuantity : Option Decimal := none
  marginMode : Option MarginMode := none
  leverage : Option Decimal := none
  clientOrderId : Option String := none
  ocoGroupId : Option String := none
  timeInForce : TimeInForce := .gtc
  deriving DecidableEq, Repr

/-- What the provider answers to a submission. -/
structure OrderHandle where
  id : String
  clientOrderId : Option String := none
  correlationId : Option String := none
  status : OrderStatus
  deriving DecidableEq, Repr

/-- Full order details. What a literal leaves out is `none`. -/
structure Order where
  id : String
  clientOrderId : Option String := none
  symbol : String
  side : Side
  orderType : OrderType
  quantity : Decimal
  filledQuantity : Decimal
  remainingQuantity : Decimal
  limitPrice : Option Decimal := none
  stopPrice : Option Decimal := none
  stopLoss : Option Decimal := none
  takeProfit : Option Decimal := none
  trailingDistance : Option Decimal := none
  trailingType : Option TrailingType := none
  averageFillPrice : Option Decimal := none
  status : OrderStatus
  rejectReason : Option RejectReason := none
  positionId : Option String := none
  parentOrderId : Option String := none
  reduceOnly : Option Bool := none
  postOnly : Option Bool := none
  hidden : Option Bool := none
  displayQuantity : Option Decimal := none
  ocoGroupId : Option String := none
  correlationId : Option String := none
  timeInForce : TimeInForce
  deriving DecidableEq, Repr

/-- A request to modify an existing order. -/
structure ModifyOrderRequest where
  limitPrice : Option Decimal := none
  stopPrice : Option Decimal := none
  quantity : Option Decimal := none
  stopLoss : Option Decimal := none
  takeProfit : Option Decimal := none
  trailingDistance : Option Decimal := none
  deriving DecidableEq, Repr

structure ModifyOrderResult where
  order : Order
  /-- The previous order id, if the provider replaced the order. -/
  previousOrderId : Option String
  deriving DecidableEq, Repr

structure CancelOrderResult where
  success : Bool
  order : Order
  deriving DecidableEq, Repr

end Gateway
