import Mathlib.Tactic.Linarith
import TradingGateway.Error

/-!
# Trailing stops: entries and stop prices (`crates/core/src/trailing_stop/types.rs`)

A trailing stop follows the best price seen (`peakPrice`: the highest for a sell stop, the lowest
for a buy stop) at a fixed or proportional distance.

* `calculateStopPrice`: the stop of a peak. For a distance that `register` accepts it is strictly
  monotone, and `peakFor` is its inverse (`TrailingEntry.calculateStop_peakFor`).
* `isPeakImprovement`: a strict order on prices for each side, in which the stops of two prices are
  ordered as the prices (`TrailingEntry.improvement_calculateStop`).

Quotients are exact here; the code rounds them to 28 digits.
-/

namespace Gateway.Trailing

/-- The least change of a stop that is worth a modification, in percent. -/
def minPriceImprovementPct : Decimal := 1 / 10

def generatePlaceholderId (primaryOrderId : String) : String := "trailing:" ++ primaryOrderId

def calculateStopPrice (peakPrice trailingDistance : Decimal) (trailingType : TrailingType)
    (side : Side) : Decimal :=
  match side, trailingType with
  | .sell, .absolute => peakPrice - trailingDistance
  | .sell, .percent => peakPrice * (1 - trailingDistance / 100)
  | .buy, .absolute => peakPrice + trailingDistance
  | .buy, .percent => peakPrice * (1 + trailingDistance / 100)

/-- A new high for a sell stop, a new low for a buy stop. -/
def isPeakImprovement (currentPeak newPrice : Decimal) (side : Side) : Bool :=
  match side with
  | .sell => newPrice > currentPeak
  | .buy => newPrice < currentPeak

/-- The change of the stop is large enough to be sent. -/
def shouldAdjustStop (currentStop newStop : Decimal) : Bool :=
  if currentStop = 0 then true
  else |newStop - currentStop| / currentStop * 100 ≥ minPriceImprovementPct

inductive CancellationReason where
  | primaryCancelled
  | primaryRejected
  | userRequested
  | positionClosed
  | systemCleanup
  deriving DecidableEq, Repr

inductive TrailingEntryStatus where
  /-- Waiting for the primary order to fill. -/
  | pending
  /-- Following the price, no stop placed yet. -/
  | tracking (peakPrice stopLevel : Decimal)
  /-- The stop rests at the provider; still following the price. -/
  | active (stopOrderId : String) (peakPrice stopLevel : Decimal)
  | triggered (stopOrderId : String) (fillPrice : Decimal)
  | cancelled (reason : CancellationReason)
  | failed (error : String) (retryCount : ℕ)
  /-- No price feed; may recover. -/
  | priceSourceUnavailable (reason : String) (recoveryFailureCount : ℕ)
      (lastRecoveryAttempt : Option Instant)
  deriving DecidableEq, Repr

namespace TrailingEntryStatus

def isTerminal : TrailingEntryStatus → Bool
  | triggered .. | cancelled _ | failed .. => true
  | _ => false

def isActive : TrailingEntryStatus → Bool
  | tracking .. | active .. => true
  | _ => false

def isPending : TrailingEntryStatus → Bool
  | pending | priceSourceUnavailable .. => true
  | _ => false

/-- The entry waits for its price feed to come back. -/
def isUnavailable : TrailingEntryStatus → Bool
  | priceSourceUnavailable .. => true
  | _ => false

/-- The stop order that the status names. -/
def stopOrderId : TrailingEntryStatus → Option String
  | active id _ _ => some id
  | _ => none

end TrailingEntryStatus

structure TrailingEntry where
  placeholderId : String
  primaryOrderId : String
  symbol : String
  side : Side
  quantity : Decimal
  trailingDistance : Decimal
  trailingType : TrailingType
  status : TrailingEntryStatus
  createdAt : Instant
  platform : TradingPlatform
  version : ℕ
  deriving DecidableEq, Repr

namespace TrailingEntry

def new (primaryOrderId symbol : String) (side : Side) (quantity trailingDistance : Decimal)
    (trailingType : TrailingType) (platform : TradingPlatform) (now : Instant) :
    TrailingEntry where
  placeholderId := generatePlaceholderId primaryOrderId
  primaryOrderId
  symbol
  side
  quantity
  trailingDistance
  trailingType
  status := .pending
  createdAt := now
  platform
  version := 0

def setStatus (e : TrailingEntry) (status : TrailingEntryStatus) : TrailingEntry :=
  { e with status, version := e.version + 1 }

def calculateStop (e : TrailingEntry) (peakPrice : Decimal) : Decimal :=
  calculateStopPrice peakPrice e.trailingDistance e.trailingType e.side

def isPeakImprovement (e : TrailingEntry) (currentPeak newPrice : Decimal) : Bool :=
  Trailing.isPeakImprovement currentPeak newPrice e.side

def currentPeak (e : TrailingEntry) : Option Decimal :=
  match e.status with
  | .tracking peakPrice _ | .active _ peakPrice _ => some peakPrice
  | _ => none

def currentStopLevel (e : TrailingEntry) : Option Decimal :=
  match e.status with
  | .tracking _ stopLevel | .active _ _ stopLevel => some stopLevel
  | _ => none

/-- The side, the distance and the symbol never change. -/
structure SameTerms (e e' : TrailingEntry) : Prop where
  symbol : e'.symbol = e.symbol
  side : e'.side = e.side
  distance : e'.trailingDistance = e.trailingDistance
  trailingType : e'.trailingType = e.trailingType

end TrailingEntry

structure TrailingStopConfig where
  maxPendingEntries : ℕ := 10000
  entryTtl : Duration := 86400 * 10 ^ 9
  recoveryInterval : Duration := 10 * 10 ^ 9
  maxRecoveryBackoff : Duration := 300 * 10 ^ 9
  activationTimeout : Duration := 5 * 10 ^ 9

/-! ## The order of prices and of their stops -/

/-- The distances that `register` accepts. -/
def AcceptedDistance (trailingDistance : Decimal) (trailingType : TrailingType) : Prop :=
  0 < trailingDistance ∧ (trailingType = .percent → trailingDistance < 100)

/-- `y` is strictly better than `x` for the side: higher for a sell stop, lower for a buy stop. -/
def Better (side : Side) (x y : Decimal) : Prop :=
  match side with
  | .sell => x < y
  | .buy => y < x

instance : (side : Side) → (x y : Decimal) → Decidable (Better side x y)
  | .sell, x, y => inferInstanceAs (Decidable (x < y))
  | .buy, x, y => inferInstanceAs (Decidable (y < x))

theorem isPeakImprovement_iff {side : Side} {x y : Decimal} :
    isPeakImprovement x y side = true ↔ Better side x y := by
  cases side <;> simp [isPeakImprovement, Better]

namespace Better

variable {side : Side} {x y z : Decimal}

theorem irrefl : ¬ Better side x x := by
  cases side <;> simp [Better]

theorem trans (h : Better side x y) (h' : Better side y z) : Better side x z := by
  cases side <;> simp only [Better] at * <;> linarith

theorem not_trans (h : ¬ Better side x y) (h' : ¬ Better side y z) : ¬ Better side x z := by
  cases side <;> simp only [Better] at * <;> linarith

end Better

/-- The better of two prices. -/
def best (side : Side) (x y : Decimal) : Decimal := if Better side x y then y else x

namespace TrailingEntry

/-- The peak whose stop is `stop`. -/
def peakFor (e : TrailingEntry) (stop : Decimal) : Decimal :=
  match e.side, e.trailingType with
  | .sell, .absolute => stop + e.trailingDistance
  | .sell, .percent => stop / (1 - e.trailingDistance / 100)
  | .buy, .absolute => stop - e.trailingDistance
  | .buy, .percent => stop / (1 + e.trailingDistance / 100)

variable {e e' : TrailingEntry} (hd : AcceptedDistance e.trailingDistance e.trailingType)

include hd in
theorem better_calculateStop {x y : Decimal} :
    Better e.side (e.calculateStop x) (e.calculateStop y) ↔ Better e.side x y := by
  obtain ⟨hpos, hlt⟩ := hd
  unfold calculateStop
  cases hs : e.side <;> cases ht : e.trailingType <;> simp only [Better, calculateStopPrice]
  · constructor <;> intro h <;> linarith
  · have hk : 0 < 1 + e.trailingDistance / 100 := by linarith
    exact mul_lt_mul_iff_left₀ hk
  · constructor <;> intro h <;> linarith
  · have hk : 0 < 1 - e.trailingDistance / 100 := by linarith [hlt ht]
    exact mul_lt_mul_iff_left₀ hk

include hd in
theorem peakFor_calculateStop (x : Decimal) : e.peakFor (e.calculateStop x) = x := by
  obtain ⟨hpos, hlt⟩ := hd
  unfold calculateStop peakFor
  cases hs : e.side <;> cases ht : e.trailingType <;> simp only [calculateStopPrice]
  · ring
  · have hk : 1 + e.trailingDistance / 100 ≠ 0 := by linarith
    exact mul_div_cancel_right₀ x hk
  · ring
  · have hk : 1 - e.trailingDistance / 100 ≠ 0 := by linarith [hlt ht]
    exact mul_div_cancel_right₀ x hk

@[simp] theorem setStatus_status (e : TrailingEntry) (s : TrailingEntryStatus) :
    (e.setStatus s).status = s := rfl

theorem SameTerms.refl (e : TrailingEntry) : e.SameTerms e := ⟨rfl, rfl, rfl, rfl⟩

theorem SameTerms.setStatus (h : e.SameTerms e') (s : TrailingEntryStatus) :
    e.SameTerms (e'.setStatus s) := ⟨h.symbol, h.side, h.distance, h.trailingType⟩

theorem SameTerms.calculateStop (h : e.SameTerms e') : e'.calculateStop = e.calculateStop := by
  funext x
  simp only [TrailingEntry.calculateStop, h.side, h.distance, h.trailingType]

theorem SameTerms.peakFor (h : e.SameTerms e') : e'.peakFor = e.peakFor := by
  funext x
  simp only [TrailingEntry.peakFor, h.side, h.distance, h.trailingType]

theorem SameTerms.isPeakImprovement_iff (h : e.SameTerms e') {x y : Decimal} :
    e'.isPeakImprovement x y = true ↔ Better e.side x y := by
  rw [TrailingEntry.isPeakImprovement, h.side, Trailing.isPeakImprovement_iff]

end TrailingEntry

end Gateway.Trailing
