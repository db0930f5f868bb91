import TradingGateway.Lib.Table
import TradingGateway.Websocket.Messages

/-!
# The state manager (`crates/core/src/state/mod.rs`)

The cache of open orders and positions. Each operation on a map is atomic.

An order's OCO group is kept twice: on the cached order and in the index of the groups. A position
is found by its symbol through an index of ids.
-/

namespace Gateway

structure CachedOrder where
  orderId : String
  symbol : String
  side : Side
  quantity : Decimal
  filledQuantity : Decimal
  status : OrderStatus
  positionId : Option String
  ocoGroupId : Option String
  deriving DecidableEq, Repr

structure CachedPosition where
  positionId : String
  symbol : String
  side : PositionSide
  quantity : Decimal
  deriving DecidableEq, Repr

/-- The first fill in an OCO group. -/
structure OcoFillRecord where
  firstFilledOrderId : String
  firstFilledQty : Decimal
  symbol : String
  side : Side
  deriving DecidableEq, Repr

structure StateManager where
  orders : Table String CachedOrder
  positions : Table String CachedPosition
  /-- For netting: one position for each symbol. -/
  positionBySymbol : Table String String
  ocoGroups : Table String (KeySet String)
  ocoFills : Table String OcoFillRecord

def Order.cached (order : Order) : CachedOrder where
  orderId := order.id
  symbol := order.symbol
  side := order.side
  quantity := order.quantity
  filledQuantity := order.filledQuantity
  status := order.status
  positionId := order.positionId
  ocoGroupId := order.ocoGroupId

def Position.cached (position : Position) : CachedPosition where
  positionId := position.id
  symbol := position.symbol
  side := position.side
  quantity := position.quantity

namespace StateManager

def new : StateManager := ⟨∅, ∅, ∅, ∅, ∅⟩

/-! ## Orders -/

/-- Take an order out of a group of the index; an empty group goes. -/
def leaveGroup (s : StateManager) (orderId groupId : String) : StateManager :=
  match s.ocoGroups.get groupId with
  | none => s
  | some members =>
    let rest := members.drop orderId
    { s with
      ocoGroups :=
        if rest.elems.isEmpty then s.ocoGroups.remove groupId
        else s.ocoGroups.insert groupId rest }

/-- Put an order into a group of the index. -/
def joinGroup (s : StateManager) (orderId groupId : String) : StateManager :=
  { s with
    ocoGroups := s.ocoGroups.insert groupId (((s.ocoGroups.get groupId).getD ∅).add orderId) }

def upsertOrder (s : StateManager) (order : Order) : StateManager :=
  let old := s.orders.get order.id
  let s := { s with orders := s.orders.insert order.id order.cached }
  let s :=
    match old.bind CachedOrder.ocoGroupId with
    | some oldGroupId =>
      if some oldGroupId ≠ order.ocoGroupId then s.leaveGroup order.id oldGroupId else s
    | none => s
  match order.ocoGroupId with
  | some groupId => s.joinGroup order.id groupId
  | none => s

def updateOrderFill (s : StateManager) (orderId : String) (filledQty : Decimal)
    (status : OrderStatus) : StateManager :=
  { s with
    orders := s.orders.modify orderId fun o => { o with filledQuantity := filledQty, status } }

/-- Remove an order (cancelled, filled, expired), and its place in the group that the cached order
names. -/
def removeOrder (s : StateManager) (orderId : String) : StateManager :=
  match s.orders.get orderId with
  | none => s
  | some order =>
    let s := { s with orders := s.orders.remove orderId }
    match order.ocoGroupId with
    | some groupId => s.leaveGroup orderId groupId
    | none => s

def getOrder (s : StateManager) (orderId : String) : Option CachedOrder := s.orders.get orderId

def getAllOrderIds (s : StateManager) : List String := s.orders.toList.map Prod.fst

/-! ## Positions -/

/-- Drop the index of a symbol, if it names this position. -/
def dropSymbol (s : StateManager) (symbol positionId : String) : StateManager :=
  if s.positionBySymbol.get symbol = some positionId then
    { s with positionBySymbol := s.positionBySymbol.remove symbol }
  else s

def upsertPosition (s : StateManager) (position : Position) : StateManager :=
  let old := s.positions.get position.id
  let s := { s with positions := s.positions.insert position.id position.cached }
  let s :=
    match old with
    | some old => if old.symbol ≠ position.symbol then s.dropSymbol old.symbol position.id else s
    | none => s
  { s with positionBySymbol := s.positionBySymbol.insert position.symbol position.id }

/-- Remove a position (closed). -/
def removePosition (s : StateManager) (positionId : String) : StateManager :=
  match s.positions.get positionId with
  | none => s
  | some position =>
    { s with positions := s.positions.remove positionId }.dropSymbol position.symbol positionId

def getPosition (s : StateManager) (positionId : String) : Option CachedPosition :=
  s.positions.get positionId

def getPositionBySymbol (s : StateManager) (symbol : String) : Option CachedPosition :=
  (s.positionBySymbol.get symbol).bind s.getPosition

/-! ## OCO groups -/

def addToOcoGroup (s : StateManager) (orderId groupId : String) : StateManager :=
  let s := s.joinGroup orderId groupId
  { s with orders := s.orders.modify orderId fun o => { o with ocoGroupId := some groupId } }

/-- The members of a group in the index. -/
def groupMembers (s : StateManager) (groupId : String) : KeySet String :=
  (s.ocoGroups.get groupId).getD ∅

def getOcoSiblings (s : StateManager) (groupId excludeOrderId : String) : List String :=
  (s.groupMembers groupId).elems.filter fun id => id ≠ excludeOrderId

/-- The first group of the index that has the order, in the order of the table. -/
def indexedGroup (s : StateManager) (orderId : String) : Option String :=
  (s.ocoGroups.toList.find? fun (_, members) => members.has orderId).map Prod.fst

/-- The group on the cached order, or else one of the index: the order may not be cached yet. -/
def getOcoGroupId (s : StateManager) (orderId : String) : Option String :=
  ((s.orders.get orderId).bind CachedOrder.ocoGroupId).or (s.indexedGroup orderId)

/-- Record a fill of a group; the previous one, if it is not the first. -/
def recordOcoFill (s : StateManager) (groupId orderId : String) (filledQty : Decimal)
    (symbol : String) (side : Side) : Option OcoFillRecord × StateManager :=
  match s.ocoFills.get groupId with
  | some existing => (some existing, s)
  | none =>
    (none, { s with ocoFills := s.ocoFills.insert groupId ⟨orderId, filledQty, symbol, side⟩ })

/-- Replace the cache by what the provider has; OCO groups are dropped. -/
def syncFromProvider (orders : List Order) (positions : List Position) : StateManager :=
  positions.foldl upsertPosition (orders.foldl upsertOrder new)

/-! ## Orders and positions apart -/

/-- What the cache knows about positions. -/
def positionMaps (s : StateManager) : Table String CachedPosition × Table String String :=
  (s.positions, s.positionBySymbol)

variable (s : StateManager)

variable (orderId positionId groupId symbol : String)

@[simp] theorem positionMaps_leaveGroup :
    (s.leaveGroup orderId groupId).positionMaps = s.positionMaps := by
  unfold leaveGroup
  split <;> rfl

@[simp] theorem positionMaps_joinGroup :
    (s.joinGroup orderId groupId).positionMaps = s.positionMaps := rfl

@[simp] theorem positionMaps_upsertOrder (order : Order) :
    (s.upsertOrder order).positionMaps = s.positionMaps := by
  have hstored : positionMaps { s with orders := s.orders.insert order.id order.cached } =
    s.positionMaps := rfl
  unfold upsertOrder
  dsimp only
  split <;> split <;> (try split) <;> simp [hstored]

@[simp] theorem positionMaps_updateOrderFill (filledQty : Decimal) (status : OrderStatus) :
    (s.updateOrderFill orderId filledQty status).positionMaps = s.positionMaps := rfl

@[simp] theorem positionMaps_removeOrder :
    (s.removeOrder orderId).positionMaps = s.positionMaps := by
  unfold removeOrder
  split
  · rfl
  · dsimp only
    split
    · rw [positionMaps_leaveGroup]
      rfl
    · rfl

@[simp] theorem positionMaps_recordOcoFill (orderId : String) (filledQty : Decimal)
    (symbol : String) (side : Side) :
    (s.recordOcoFill groupId orderId filledQty symbol side).2.positionMaps = s.positionMaps := by
  unfold recordOcoFill
  split <;> rfl

/-! ## The position of a symbol -/

/-- The id under which the position of a symbol is synthesized. -/
def ownId (symbol : String) : String := symbol ++ "_position"

/-- The position cached for a symbol, and whether it stands under the symbol's own id. -/
def slot (symbol : String) : Option (CachedPosition × Bool) :=
  (s.positionBySymbol.get symbol).bind fun id =>
    (s.positions.get id).map fun p => (p, decide (id = ownId symbol))

theorem getPositionBySymbol_eq : s.getPositionBySymbol symbol = (s.slot symbol).map Prod.fst := by
  unfold getPositionBySymbol slot getPosition
  cases s.positionBySymbol.get symbol with
  | none => rfl
  | some id => cases h : s.positions.get id <;> simp [h]

theorem slot_congr {s s' : StateManager} (h : s'.positionMaps = s.positionMaps) (symbol : String) :
    s'.slot symbol = s.slot symbol := by
  have hp : s'.positions = s.positions := congrArg Prod.fst h
  have hi : s'.positionBySymbol = s.positionBySymbol := congrArg Prod.snd h
  unfold slot
  rw [hp, hi]

@[simp] theorem positions_dropSymbol (positionId : String) :
    (s.dropSymbol symbol positionId).positions = s.positions := by
  unfold dropSymbol
  split <;> rfl

theorem slot_upsertPosition {position : Position} (hid : position.id = ownId position.symbol) :
    (s.upsertPosition position).slot position.symbol = some (position.cached, true) := by
  have hpos : (s.upsertPosition position).positions.get position.id = some position.cached := by
    unfold upsertPosition
    dsimp only
    split
    · split <;> simp
    · simp
  have hidx : (s.upsertPosition position).positionBySymbol.get position.symbol =
      some position.id := by
    unfold upsertPosition
    dsimp only
    rw [Table.get_insert_self]
  unfold slot
  rw [hidx]
  simp [← hid, hpos]

theorem get_positions_removePosition (k : String) :
    (s.removePosition positionId).positions.get k =
      if k = positionId then none else s.positions.get k := by
  unfold removePosition
  cases hget : s.positions.get positionId with
  | none =>
    by_cases hk : k = positionId
    · simp [hk, hget]
    · simp [hk]
  | some position =>
    dsimp only
    rw [positions_dropSymbol]
    simp [Table.get_remove, eq_comm]

theorem get_index_removePosition :
    (s.removePosition positionId).positionBySymbol.get symbol = s.positionBySymbol.get symbol ∨
      (s.removePosition positionId).positionBySymbol.get symbol = none ∧
        s.positionBySymbol.get symbol = some positionId := by
  unfold removePosition dropSymbol
  split
  · exact .inl rfl
  · rename_i position _
    split
    · rename_i hidx
      by_cases hsym : symbol = position.symbol
      · subst hsym
        exact .inr ⟨Table.get_remove_self .., hidx⟩
      · exact .inl (by simp [Table.get_remove, hsym])
    · exact .inl rfl

/-- Closing the synthesized position of a symbol removes it only if it stands under that id. -/
theorem slot_removePosition :
    (s.removePosition (ownId symbol)).slot symbol =
      match s.slot symbol with
      | some (p, false) => some (p, false)
      | _ => none := by
  unfold slot
  rcases s.get_index_removePosition (ownId symbol) symbol with hsame | ⟨hgone, hown⟩
  · rw [hsame]
    cases hidx : s.positionBySymbol.get symbol with
    | none => rfl
    | some id =>
      by_cases hown : id = ownId symbol
      · -- A dangling index finds nothing.
        subst hown
        cases hp : s.positions.get (ownId symbol) <;> simp [get_positions_removePosition, hp]
      · cases hp : s.positions.get id <;> simp [get_positions_removePosition, hown, hp]
  · rw [hgone, hown]
    cases hp : s.positions.get (ownId symbol) <;> simp [hp]

end StateManager

end Gateway
