import TradingGateway.Exit.Types
import Mathlib.Algebra.BigOperators.Group.List.Basic

/-!
# Coverage (`crates/core/src/exit_management/coverage.rs`)

The quantity that a leg's active orders cover.
-/

namespace Gateway.Exit

/-- The quantity covered by the active orders of a leg. -/
def calculateActiveCoverage (existingOrders : List ActualOrder) (legType : ExitLegType) : Decimal :=
  ((existingOrders.filter fun o => o.isActive && o.legType == legType).map
    ActualOrder.remainingQty).sum

@[simp] theorem calculateActiveCoverage_nil (leg : ExitLegType) :
    calculateActiveCoverage [] leg = 0 := rfl

theorem calculateActiveCoverage_append (os os' : List ActualOrder) (leg : ExitLegType) :
    calculateActiveCoverage (os ++ os') leg =
      calculateActiveCoverage os leg + calculateActiveCoverage os' leg := by
  simp [calculateActiveCoverage]

@[simp] theorem calculateActiveCoverage_open (id : String) (q : Decimal) (leg : ExitLegType) :
    calculateActiveCoverage [⟨id, q, .open, leg⟩] leg = q := by
  simp [calculateActiveCoverage, ActualOrder.isActive, ActualOrder.remainingQty]

end Gateway.Exit
