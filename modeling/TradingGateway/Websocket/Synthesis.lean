import Mathlib.Algebra.Order.Group.Unbundled.Abs
import TradingGateway.Events.Steps
import TradingGateway.State.Symbols
import TradingGateway.Websocket.Registry

/-!
# The position synthesized from a fill

The router is told the signed quantity that a fill leaves. It compares its size with the size that
is cached for the symbol, and opens, modifies or closes the position that it synthesizes under the
symbol's own id.

* `synthesis_exact_iff`: the signed quantity is cached and its change announced, but not for a
  position that is turned around at the same size, nor for the close of a position that is cached
  under another id, nor for a cached position of quantity zero.
-/

namespace Gateway.Registry

/-! ## What a call does -/

section call

variable {β γ : Type} (c : Events.Ctx β γ) (w : Events.World β γ)

variable (event : PositionEventType) (order : Order) (position : Position) (qty : Decimal)

theorem state_handlePositionEvent :
    (Events.handlePositionEvent c event position w).state =
      match event with
      | .positionClosed => w.state.removePosition position.id
      | _ => w.state.upsertPosition position := by
  unfold Events.handlePositionEvent
  rw [Events.state_broadcast]
  cases event with
  | positionOpened | positionModified => rfl
  | positionClosed =>
    dsimp only
    split <;> rfl

theorem announced_handlePositionEvent :
    (Events.handlePositionEvent c event position w).announced =
      w.announced ++ if c.broadcastEnabled then [.position event position] else [] := by
  have hkept (w' : Events.World β γ) (hw' : w'.announced = w.announced) :
      (w'.broadcast c (.position event position)).announced =
        w.announced ++ if c.broadcastEnabled then [.position event position] else [] := by
    unfold Events.World.broadcast
    cases c.broadcastEnabled <;> simp [hw']
  unfold Events.handlePositionEvent
  cases event with
  | positionOpened | positionModified => exact hkept _ rfl
  | positionClosed =>
    refine hkept _ ?_
    dsimp only
    split <;> rfl

theorem cached_synthesizedPosition {qty : Decimal} (hqty : qty ≠ 0)
    (previous : Option CachedPosition) :
    (Events.synthesizedPosition order qty previous).cached =
      ⟨StateManager.ownId order.symbol, order.symbol, if 0 < qty then .long else .short,
        |qty|⟩ := by
  unfold Events.synthesizedPosition Position.cached StateManager.ownId
  dsimp only
  by_cases hpos : 0 < qty
  · simp [hpos]
  · have hneg : qty < 0 := lt_of_le_of_ne (not_lt.mp hpos) hqty
    simp [hpos, hneg]

/-- A position is opened or modified only with a quantity. -/
theorem positionEventType_ne_zero {previousQty positionQty : Decimal} {event : PositionEventType}
    (h : Events.positionEventType previousQty positionQty = some event)
    (hevent : event ≠ .positionClosed) : positionQty ≠ 0 := by
  intro h0
  unfold Events.positionEventType at h
  rw [h0] at h
  by_cases hp : previousQty = 0
  · rw [if_pos hp] at h
    simp at h
  · simp only [if_neg hp, ↓reduceIte, Option.some.injEq] at h
    exact hevent h.symm

/-- The event that the call finds for the signed quantity. -/
def eventFound (qty : Decimal) (slot : Option (CachedPosition × Bool)) :
    Option PositionEventType :=
  Events.positionEventType ((slot.map fun x => x.1.quantity).getD 0) |qty|

/-- The slot of a symbol after a call with this signed quantity. -/
def slotSynthesized (symbol : String) (qty : Decimal) (slot : Option (CachedPosition × Bool)) :
    Option (CachedPosition × Bool) :=
  match eventFound qty slot with
  | none => slot
  | some .positionClosed =>
    match slot with
    | some (p, false) => some (p, false)
    | _ => none
  | some _ =>
    some (⟨StateManager.ownId symbol, symbol, if 0 < qty then .long else .short, |qty|⟩, true)

theorem synthesizePositionFromFill_eq :
    Events.synthesizePositionFromFill c order qty w =
      match eventFound qty (w.state.slot order.symbol) with
      | none => w
      | some event => Events.handlePositionEvent c event
          (Events.synthesizedPosition order qty (w.state.getPositionBySymbol order.symbol)) w := by
  have hprev : ((w.state.getPositionBySymbol order.symbol).map CachedPosition.quantity).getD 0 =
      ((w.state.slot order.symbol).map fun x => x.1.quantity).getD 0 := by
    rw [w.state.getPositionBySymbol_eq]
    cases w.state.slot order.symbol <;> rfl
  unfold Events.synthesizePositionFromFill eventFound
  dsimp only
  rewrite [hprev]
  rfl

theorem slot_synthesizePositionFromFill :
    (Events.synthesizePositionFromFill c order qty w).state.slot order.symbol =
      slotSynthesized order.symbol qty (w.state.slot order.symbol) := by
  rw [synthesizePositionFromFill_eq]
  unfold slotSynthesized
  cases htype : eventFound qty (w.state.slot order.symbol) with
  | none => rfl
  | some event =>
    dsimp only
    rw [state_handlePositionEvent]
    cases event with
    | positionClosed => exact w.state.slot_removePosition order.symbol
    | positionOpened | positionModified =>
      have hqty := abs_ne_zero.mp (positionEventType_ne_zero htype (by simp))
      have hid : (Events.synthesizedPosition order qty
          (w.state.getPositionBySymbol order.symbol)).id = StateManager.ownId order.symbol := rfl
      dsimp only
      rw [← cached_synthesizedPosition order hqty (w.state.getPositionBySymbol order.symbol)]
      exact w.state.slot_upsertPosition hid

end call

/-! ## Signed quantities -/

/-- The signed quantity cached in a slot. -/
def slotValue (slot : Option (CachedPosition × Bool)) : Decimal :=
  (slot.map fun x => signedQuantity x.1).getD 0

/-- The signed net position cached for a symbol. -/
def netQuantity (s : StateManager) (symbol : String) : Decimal :=
  ((s.getPositionBySymbol symbol).map signedQuantity).getD 0

theorem netQuantity_eq (s : StateManager) (symbol : String) :
    netQuantity s symbol = slotValue (s.slot symbol) := by
  unfold netQuantity slotValue
  rw [s.getPositionBySymbol_eq]
  cases s.slot symbol <;> rfl

/-- The side and the size of a position; there is none of quantity zero. -/
def holding (qty : Decimal) : Option (PositionSide × Decimal) :=
  if 0 < qty then some (.long, qty) else if qty < 0 then some (.short, |qty|) else none

/-- The event of a change of the signed quantity. -/
def changeEvent (old new : Decimal) : Option PositionEventType :=
  if old = new then none
  else if old = 0 then some .positionOpened
  else if new = 0 then some .positionClosed
  else some .positionModified

theorem holding_eq {qty : Decimal} (hqty : qty ≠ 0) :
    holding qty = some (if 0 < qty then .long else .short, |qty|) := by
  unfold holding
  by_cases hpos : 0 < qty
  · simp [hpos, abs_of_pos hpos]
  · have hneg : qty < 0 := lt_of_le_of_ne (not_lt.mp hpos) hqty
    simp [hpos, hneg]

theorem signedQuantity_eq_zero (p : CachedPosition) : signedQuantity p = 0 ↔ p.quantity = 0 := by
  unfold signedQuantity
  split <;> simp

/-- Of the positions with the size of `qty`, the one with its sign is the holding. -/
theorem holding_iff {qty : Decimal} (hqty : qty ≠ 0) {p : CachedPosition}
    (hp : p.quantity = |qty|) :
    some (p.side, p.quantity) = holding qty ↔ signedQuantity p = qty := by
  have hne : ¬ -qty = qty := fun h => hqty (self_eq_neg.mp h.symm)
  rw [holding_eq hqty, hp]
  unfold signedQuantity
  by_cases hpos : 0 < qty
  · cases p.side <;> simp [hpos, hp, abs_of_pos hpos, hne]
  · have hneg : qty < 0 := lt_of_le_of_ne (not_lt.mp hpos) hqty
    cases p.side <;> simp [hpos, hp, abs_of_neg hneg, hne]

/-! ## When a call is exact -/

/-- The call leaves the position of `qty`: a close finds a position that is not empty under the
symbol's own id, and a cached position of the same size has the same sign. -/
def CachesExactly (qty : Decimal) : Option (CachedPosition × Bool) → Prop
  | none => True
  | some (p, own) =>
    if qty = 0 then own = true ∧ p.quantity ≠ 0
    else p.quantity = |qty| → signedQuantity p = qty

/-- The sizes differ exactly if the signed quantities do. -/
def FindsExactly (qty : Decimal) : Option (CachedPosition × Bool) → Prop
  | none => True
  | some (p, _) => qty = 0 ∨ (p.quantity = |qty| ↔ signedQuantity p = qty)

variable (symbol : String) (qty : Decimal) (slot : Option (CachedPosition × Bool))

theorem slotSynthesized_iff :
    (slotSynthesized symbol qty slot).map (fun x => (x.1.side, x.1.quantity)) = holding qty ↔
      CachesExactly qty slot := by
  unfold slotSynthesized eventFound Events.positionEventType CachesExactly
  by_cases hqty : qty = 0
  · subst hqty
    rcases slot with _ | ⟨p, own⟩
    · simp [holding]
    · by_cases hp : p.quantity = 0
      · simp [holding, hp]
      · cases own <;> simp [holding, hp]
  · have habs : |qty| ≠ 0 := abs_ne_zero.mpr hqty
    rcases slot with _ | ⟨p, own⟩
    · simp [holding_eq hqty, habs]
    · by_cases hsame : p.quantity = |qty|
      · simp only [Option.map_some, Option.getD_some, hsame, if_neg habs, ne_eq, not_true,
          if_false, if_neg hqty, forall_const]
        rw [← hsame]
        exact holding_iff hqty hsame
      · by_cases hp : p.quantity = 0
        · simp [holding_eq hqty, habs, hqty, hp, Ne.symm habs]
        · simp [holding_eq hqty, habs, hqty, hp, hsame]

theorem eventFound_iff :
    eventFound qty slot = changeEvent (slotValue slot) qty ↔ FindsExactly qty slot := by
  unfold eventFound Events.positionEventType changeEvent FindsExactly slotValue
  rcases slot with _ | ⟨p, own⟩
  · by_cases hqty : qty = 0
    · simp [hqty]
    · simp [hqty, Ne.symm hqty]
  · have hzero := signedQuantity_eq_zero p
    simp only [Option.map_some, Option.getD_some, abs_eq_zero]
    by_cases hqty : qty = 0
    · subst hqty
      by_cases hp : p.quantity = 0 <;> simp [hp, hzero]
    · by_cases hp : p.quantity = 0
      · have hsigned : signedQuantity p = 0 := hzero.mpr hp
        have hne : (0 : Decimal) ≠ |qty| := (abs_ne_zero.mpr hqty).symm
        simp [hqty, hp, hsigned, Ne.symm hqty, hne]
      · have hsigned : signedQuantity p ≠ 0 := fun h => hp (hzero.mp h)
        by_cases hsame : p.quantity = |qty| <;> by_cases heq : signedQuantity p = qty <;>
          simp [hqty, hp, hsigned, hsame, heq]

/-- The position events that were given out, with their symbols. -/
def positionEvents {β γ : Type} (w : Events.World β γ) : List (PositionEventType × String) :=
  w.announced.filterMap fun
    | .position event position => some (event, position.symbol)
    | _ => none

/-- The symbol has the position of the signed quantity, and a change of the signed quantity is
announced, if announcements are enabled. -/
structure SynthesisExact {β γ : Type} (c : Events.Ctx β γ) (w w' : Events.World β γ)
    (symbol : String) (qty : Decimal) : Prop where
  cached : (w'.state.getPositionBySymbol symbol).map (fun p => (p.side, p.quantity)) = holding qty
  announced : positionEvents w' = positionEvents w ++
    if c.broadcastEnabled then
      ((changeEvent (netQuantity w.state symbol) qty).map fun event => (event, symbol)).toList
    else []

theorem positionEvents_synthesize {β γ : Type} (c : Events.Ctx β γ) (w : Events.World β γ)
    (order : Order) (qty : Decimal) :
    positionEvents (Events.synthesizePositionFromFill c order qty w) = positionEvents w ++
      if c.broadcastEnabled then
        ((eventFound qty (w.state.slot order.symbol)).map fun event =>
          (event, order.symbol)).toList
      else [] := by
  rw [synthesizePositionFromFill_eq]
  cases eventFound qty (w.state.slot order.symbol) with
  | none => simp
  | some event =>
    unfold positionEvents
    dsimp only
    rw [announced_handlePositionEvent, List.filterMap_append]
    cases c.broadcastEnabled <;> rfl

theorem toList_map_symbol_inj (a b : Option PositionEventType) :
    (a.map fun event => (event, symbol)).toList = (b.map fun event => (event, symbol)).toList ↔
      a = b := by
  cases a <;> cases b <;> simp

/-- A call is exact if it does not turn a position around at the same size, and closes only a
position that is not empty and stands under the symbol's own id. -/
theorem synthesis_exact_iff {β γ : Type} (c : Events.Ctx β γ) (w : Events.World β γ)
    (order : Order) (qty : Decimal) :
    SynthesisExact c w (Events.synthesizePositionFromFill c order qty w) order.symbol qty ↔
      CachesExactly qty (w.state.slot order.symbol) ∧
        (c.broadcastEnabled = true → FindsExactly qty (w.state.slot order.symbol)) := by
  have hcached : ((Events.synthesizePositionFromFill c order qty w).state.getPositionBySymbol
      order.symbol).map (fun p => (p.side, p.quantity)) = holding qty ↔
        CachesExactly qty (w.state.slot order.symbol) := by
    rw [StateManager.getPositionBySymbol_eq, slot_synthesizePositionFromFill, Option.map_map]
    exact slotSynthesized_iff ..
  have hevents := positionEvents_synthesize c w order qty
  rw [← hcached, ← eventFound_iff, ← netQuantity_eq]
  cases henabled : c.broadcastEnabled with
  | false =>
    rw [henabled] at hevents
    refine ⟨fun h => ⟨h.cached, nofun⟩, fun h => ⟨h.1, ?_⟩⟩
    rw [henabled]
    exact hevents
  | true =>
    rw [henabled] at hevents
    constructor
    · intro h
      refine ⟨h.cached, fun _ => ?_⟩
      have hann := h.announced
      rw [hevents, henabled] at hann
      exact (toList_map_symbol_inj ..).mp (List.append_cancel_left hann)
    · rintro ⟨hc, hfound⟩
      refine ⟨hc, ?_⟩
      rw [hevents, henabled, hfound rfl]

/-- A router that a sync has told of one position. -/
def syncedWorld (position : Position) : Events.World (List (String × OrderRequest)) ℕ :=
  { Events.World.simulated with state := .syncFromProvider [] [position] }

/-- A position that is turned around at the same size is not seen, and a position under the
provider's id is not closed. -/
theorem synthesis_misses :
    let held (id : String) := syncedWorld (reportedPosition id "BTCUSD" .long 5)
    ¬ SynthesisExact .simulated (held "BTCUSD_position")
        (Events.synthesizePositionFromFill .simulated (sampleBracket.toOrder "o1") (-5)
          (held "BTCUSD_position")) "BTCUSD" (-5) ∧
      ¬ SynthesisExact .simulated (held "p1")
        (Events.synthesizePositionFromFill .simulated (sampleBracket.toOrder "o1") 0 (held "p1"))
        "BTCUSD" 0 := by
  constructor
  · intro h
    have hcached := h.cached
    revert hcached
    decide +kernel
  · intro h
    have hcached := h.cached
    revert hcached
    decide +kernel

end Gateway.Registry
