import TradingGateway.Exit.Fill

/-!
# The submit route (`crates/core/src/api/routes.rs`)

What the route does with the exits of an order after the broker accepted it.
-/

namespace Gateway

/-- How an order's exits are placed (`adapter/capabilities.rs`). -/
inductive BracketStrategy where
  | none
  | nativeBracket
  | nativeOco
  /-- The gateway places them when the order fills. -/
  | pendingSlTp
  deriving DecidableEq, Repr

namespace Api

open Exit

variable {β : Type}

/-- Register the exits of a submitted order, and replay a fill that came before. `strategy` is what
the adapter's capabilities say for the request. -/
def registerPendingExits (c : Ctx β) (strategy : BracketStrategy) (request : OrderRequest)
    (orderId : String) : ExitM β Unit :=
  if request.stopLoss.isNone && request.takeProfit.isNone then pure ()
  else if strategy ≠ .pendingSlTp then pure ()
  else do
    if ← readHandler fun h => h.hasPendingForPrimary orderId then pure ()
    else do
      match ← register c orderId request with
      | .ok _ => do
        let _ ← processBufferedFill c orderId
        pure ()
      | .error _ => pure ()

end Api

end Gateway
