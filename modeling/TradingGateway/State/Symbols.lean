import TradingGateway.Lib.Run
import TradingGateway.State.Manager

/-!
# The index of positions by symbol

The cache finds the position of a symbol through an index from symbols to position ids. A position
may change its symbol, and several positions may share one, so the index keeps the id that was
cached last.

* `symbol_index_exact`: after any calls, the index is right and finds the last position.
-/

namespace Gateway

namespace StateManager

variable {s : StateManager}

/-- The index leads only to cached positions of the symbol. -/
def Indexed (s : StateManager) : Prop :=
  ∀ symbol id, s.positionBySymbol.get symbol = some id →
    ∃ p, s.positions.get id = some p ∧ p.symbol = symbol

theorem Indexed.new : Indexed new := by
  intro symbol id h
  cases h

theorem Indexed.congr {s' : StateManager} (h : s.Indexed)
    (hmaps : s'.positionMaps = s.positionMaps) : s'.Indexed := by
  have hp : s'.positions = s.positions := congrArg Prod.fst hmaps
  have hi : s'.positionBySymbol = s.positionBySymbol := congrArg Prod.snd hmaps
  intro symbol id hid
  rw [hi] at hid
  rw [hp]
  exact h symbol id hid

/-! ## Upserts -/

theorem get_positions_upsertPosition (s : StateManager) (position : Position) (id : String) :
    (s.upsertPosition position).positions.get id =
      if id = position.id then some position.cached else s.positions.get id := by
  rw [← Table.get_insert]
  unfold upsertPosition
  dsimp only
  split
  · split
    · rw [positions_dropSymbol]
    · rfl
  · rfl

theorem Indexed.get_index_upsertPosition (h : s.Indexed) (position : Position) (symbol : String) :
    (s.upsertPosition position).positionBySymbol.get symbol =
      if symbol = position.symbol then some position.id
      else if s.positionBySymbol.get symbol = some position.id then none
      else s.positionBySymbol.get symbol := by
  by_cases hsame : symbol = position.symbol
  · rw [if_pos hsame, hsame]
    exact Table.get_insert_self ..
  rw [if_neg hsame]
  unfold upsertPosition dropSymbol
  dsimp only
  rw [Table.get_insert_ne _ _ hsame]
  by_cases hled : s.positionBySymbol.get symbol = some position.id
  · -- The index was right, so the cached copy has this symbol.
    obtain ⟨old, hold, rfl⟩ := h symbol position.id hled
    rw [if_pos hled, hold]
    simp [hsame, hled]
  · rw [if_neg hled]
    cases hold : s.positions.get position.id with
    | none => rfl
    | some old =>
      dsimp only
      by_cases hmoved : old.symbol ≠ position.symbol
      · rw [if_pos hmoved]
        split
        · rename_i hidx
          have hother : symbol ≠ old.symbol := by
            rintro rfl
            exact hled hidx
          simp [Table.get_remove, hother]
        · rfl
      · rw [if_neg hmoved]

theorem Indexed.upsertPosition (h : s.Indexed) (position : Position) :
    (s.upsertPosition position).Indexed := by
  intro symbol id hid
  rw [h.get_index_upsertPosition] at hid
  rw [get_positions_upsertPosition]
  by_cases hsame : symbol = position.symbol
  · rw [if_pos hsame] at hid
    cases hid
    exact ⟨position.cached, if_pos rfl, hsame.symm⟩
  · rw [if_neg hsame] at hid
    split at hid
    · cases hid
    · rename_i hled
      have hne : id ≠ position.id := by
        rintro rfl
        exact hled hid
      rw [if_neg hne]
      exact h symbol id hid

/-! ## Removals -/

theorem Indexed.get_index_removePosition (h : s.Indexed) (id symbol : String) :
    (s.removePosition id).positionBySymbol.get symbol =
      if s.positionBySymbol.get symbol = some id then none
      else s.positionBySymbol.get symbol := by
  by_cases hled : s.positionBySymbol.get symbol = some id
  · obtain ⟨p, hp, rfl⟩ := h symbol id hled
    unfold removePosition dropSymbol
    simp [hp, hled]
  · rw [if_neg hled]
    rcases s.get_index_removePosition id symbol with hkept | ⟨-, hid⟩
    · exact hkept
    · exact absurd hid hled

theorem Indexed.removePosition (h : s.Indexed) (id : String) : (s.removePosition id).Indexed := by
  intro symbol id' hid'
  rw [h.get_index_removePosition] at hid'
  split at hid'
  · cases hid'
  · rename_i hled
    have hne : id' ≠ id := by
      rintro rfl
      exact hled hid'
    rw [get_positions_removePosition, if_neg hne]
    exact h symbol id' hid'

end StateManager

/-! ## Operations and calls -/

/-- What can happen to the cached positions. -/
inductive PositionOp where
  | upsert (position : Position)
  | remove (id : String)
  | clear

/-- A call that changes the cached positions. -/
inductive PositionCall where
  | upsertPosition (position : Position)
  | removePosition (id : String)
  | syncFromProvider (orders : List Order) (positions : List Position)

def PositionOp.apply (s : StateManager) : PositionOp → StateManager
  | .upsert position => s.upsertPosition position
  | .remove id => s.removePosition id
  | .clear => { s with positions := ∅, positionBySymbol := ∅ }

def PositionCall.apply (s : StateManager) : PositionCall → StateManager
  | .upsertPosition position => s.upsertPosition position
  | .removePosition id => s.removePosition id
  | .syncFromProvider orders positions => .syncFromProvider orders positions

/-- A call as operations: a sync removes every position and upserts those given. -/
def PositionCall.ops : PositionCall → List PositionOp
  | .upsertPosition position => [.upsert position]
  | .removePosition id => [.remove id]
  | .syncFromProvider _ positions => .clear :: positions.map .upsert

namespace PositionOp

open StateManager

/-- An operation sees of the cache only what it knows about positions. -/
theorem positionMaps_apply {s s' : StateManager} (h : s'.positionMaps = s.positionMaps)
    (op : PositionOp) : (op.apply s').positionMaps = (op.apply s).positionMaps := by
  have hp : s'.positions = s.positions := congrArg Prod.fst h
  have hi : s'.positionBySymbol = s.positionBySymbol := congrArg Prod.snd h
  cases op with
  | upsert position =>
    unfold apply upsertPosition dropSymbol positionMaps
    dsimp only
    rw [hp, hi]
    cases s.positions.get position.id with
    | none => rfl
    | some old =>
      dsimp only
      split
      · split <;> rfl
      · rfl
  | remove id =>
    unfold apply removePosition dropSymbol positionMaps
    dsimp only
    rw [hp, hi]
    cases s.positions.get id with
    | none => exact Prod.ext hp hi
    | some old =>
      dsimp only
      split <;> rfl
  | clear => rfl

theorem positionMaps_exec {s s' : StateManager} (h : s'.positionMaps = s.positionMaps)
    (ops : List PositionOp) :
    (Run.exec apply s' ops).positionMaps = (Run.exec apply s ops).positionMaps := by
  induction ops generalizing s s' with
  | nil => exact h
  | cons op ops ih => exact ih (positionMaps_apply h op)

end PositionOp

theorem PositionCall.positionMaps_apply (s : StateManager) (call : PositionCall) :
    (call.apply s).positionMaps = (Run.exec PositionOp.apply s call.ops).positionMaps := by
  cases call with
  | upsertPosition position => rfl
  | removePosition id => rfl
  | syncFromProvider orders positions =>
    -- The orders are cached first, and leave the positions alone.
    have horders (s : StateManager) :
        (orders.foldl .upsertOrder s).positionMaps = s.positionMaps := by
      induction orders generalizing s with
      | nil => rfl
      | cons order orders ih =>
        rw [List.foldl_cons, ih, StateManager.positionMaps_upsertOrder]
    have hfold (s : StateManager) : positions.foldl .upsertPosition s =
        Run.exec PositionOp.apply s (positions.map .upsert) := by
      rw [Run.exec, List.foldl_map]
      rfl
    show (StateManager.syncFromProvider orders positions).positionMaps = _
    unfold StateManager.syncFromProvider
    rw [hfold]
    exact PositionOp.positionMaps_exec (s := PositionOp.apply s .clear) (horders .new) _

/-- The calls change what the cache knows about positions as their operations do. -/
theorem PositionCall.positionMaps_exec (s : StateManager) (calls : List PositionCall) :
    (Run.exec PositionCall.apply s calls).positionMaps =
      (Run.exec PositionOp.apply s (calls.flatMap PositionCall.ops)).positionMaps := by
  induction calls generalizing s with
  | nil => rfl
  | cons call calls ih =>
    rw [Run.exec_cons, ih, List.flatMap_cons, Run.exec_append]
    exact PositionOp.positionMaps_exec (call.positionMaps_apply s) _

/-! ## The position of a symbol -/

namespace PositionOp

/-- The operation leaves the position with this id as the one of this symbol: it caches nothing
else under the symbol or the id, and does not remove the id. -/
def Spares (symbol id : String) : PositionOp → Prop
  | .upsert position => position.symbol ≠ symbol ∧ position.id ≠ id
  | .remove removed => removed ≠ id
  | .clear => False

variable {s : StateManager}

theorem indexed_apply (h : s.Indexed) (op : PositionOp) : (op.apply s).Indexed := by
  cases op with
  | upsert position => exact h.upsertPosition position
  | remove id => exact h.removePosition id
  | clear =>
    intro symbol id hid
    cases hid

theorem indexed_exec (h : s.Indexed) (ops : List PositionOp) : (Run.exec apply s ops).Indexed :=
  Run.exec_inv_all (I := StateManager.Indexed) (fun _ op hs => indexed_apply hs op) h ops

/-- The symbol leads to the id, and the id to the position. -/
def Leads (s : StateManager) (symbol id : String) (p : CachedPosition) : Prop :=
  s.positionBySymbol.get symbol = some id ∧ s.positions.get id = some p

theorem leads_upsert (h : s.Indexed) (position : Position) :
    Leads (s.upsertPosition position) position.symbol position.id position.cached := by
  constructor
  · rw [h.get_index_upsertPosition, if_pos rfl]
  · rw [StateManager.get_positions_upsertPosition, if_pos rfl]

variable {symbol id : String} {p : CachedPosition}

theorem Leads.apply (hl : Leads s symbol id p) (h : s.Indexed) {op : PositionOp}
    (hop : op.Spares symbol id) :
    Leads (op.apply s) symbol id p := by
  obtain ⟨hidx, hp⟩ := hl
  cases op with
  | upsert position =>
    obtain ⟨hsymbol, hid⟩ := hop
    have hother : s.positionBySymbol.get symbol ≠ some position.id := by
      rw [hidx]
      rintro ⟨⟩
      exact hid rfl
    constructor
    · show (s.upsertPosition position).positionBySymbol.get symbol = some id
      rw [h.get_index_upsertPosition, if_neg (Ne.symm hsymbol), if_neg hother, hidx]
    · show (s.upsertPosition position).positions.get id = some p
      rw [StateManager.get_positions_upsertPosition, if_neg (Ne.symm hid), hp]
  | remove removed =>
    have hother : s.positionBySymbol.get symbol ≠ some removed := by
      rw [hidx]
      rintro ⟨⟩
      exact hop rfl
    constructor
    · show (s.removePosition removed).positionBySymbol.get symbol = some id
      rw [h.get_index_removePosition, if_neg hother, hidx]
    · show (s.removePosition removed).positions.get id = some p
      rw [StateManager.get_positions_removePosition, if_neg (Ne.symm hop), hp]
  | clear => exact hop.elim

theorem Leads.exec (hl : Leads s symbol id p) (h : s.Indexed) {ops : List PositionOp}
    (hops : ∀ op ∈ ops, op.Spares symbol id) :
    Leads (Run.exec PositionOp.apply s ops) symbol id p := by
  induction ops generalizing s with
  | nil => exact hl
  | cons op ops ih =>
    refine ih (hl.apply h (hops op List.mem_cons_self)) (indexed_apply h op) fun op' hop' => ?_
    exact hops op' (List.mem_cons_of_mem op hop')

theorem Leads.found (hl : Leads s symbol id p) :
    s.getPosition id = some p ∧ s.getPositionBySymbol symbol = some p := by
  obtain ⟨hidx, hp⟩ := hl
  refine ⟨hp, ?_⟩
  unfold StateManager.getPositionBySymbol
  rw [hidx]
  exact hp

theorem Leads.congr {s' : StateManager} (hl : Leads s symbol id p)
    (hmaps : s'.positionMaps = s.positionMaps) :
    Leads s' symbol id p := by
  have hp : s'.positions = s.positions := congrArg Prod.fst hmaps
  have hi : s'.positionBySymbol = s.positionBySymbol := congrArg Prod.snd hmaps
  unfold Leads
  rw [hp, hi]
  exact hl

end PositionOp

/-- After any calls the index of symbols leads to cached positions of the symbol, and a symbol finds
the position that was cached last for it, if that was neither removed nor cached with another
symbol since. -/
theorem symbol_index_exact (calls : List PositionCall) :
    let s := Run.exec PositionCall.apply .new calls
    s.Indexed ∧
      ∀ before after position,
        calls.flatMap PositionCall.ops = before ++ PositionOp.upsert position :: after →
        (∀ op ∈ after, op.Spares position.symbol position.id) →
        s.getPosition position.id = some position.cached ∧
          s.getPositionBySymbol position.symbol = some position.cached := by
  have hmaps := PositionCall.positionMaps_exec .new calls
  refine ⟨(PositionOp.indexed_exec .new _).congr hmaps, ?_⟩
  intro before after position hops hspared
  rw [hops, Run.exec_append, Run.exec_cons] at hmaps
  have hbefore := PositionOp.indexed_exec .new before
  have hlast := PositionOp.leads_upsert hbefore position
  have hleads := hlast.exec (hbefore.upsertPosition position) hspared
  exact (hleads.congr hmaps).found

/-- A position as a provider reports it. -/
def reportedPosition (id symbol : String) (side : PositionSide) (quantity : Decimal) : Position :=
  ⟨id, symbol, side, quantity, 0, 0, 0, 0, none, none, none⟩

/-- Of two positions of a symbol the later one is found, and stays so when the other one goes. -/
theorem symbol_index_exact_shared :
    let b := reportedPosition "b" "EURUSD" .short 3
    (Run.exec PositionCall.apply .new
      [.syncFromProvider [] [reportedPosition "a" "EURUSD" .long 5, b], .removePosition "a"]
      ).getPositionBySymbol "EURUSD" = some b.cached := by
  refine ((symbol_index_exact _).2
    [.clear, .upsert (reportedPosition "a" "EURUSD" .long 5)] [.remove "a"]
    (reportedPosition "b" "EURUSD" .short 3) rfl ?_).2
  intro op hop
  obtain rfl := List.mem_singleton.mp hop
  show "a" ≠ "b"
  decide

end Gateway
