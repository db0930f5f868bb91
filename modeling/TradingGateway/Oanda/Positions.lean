import TradingGateway.Lib.Checked
import TradingGateway.Lib.Table
import TradingGateway.Oanda.Rest
import TradingGateway.Websocket.Messages

/-!
# Positions over REST (`crates/oanda/src/adapter.rs`)

An instrument can be held long and short at once. A position id is an instrument with a side, an
instrument alone, or the id of a trade. Reading a position and closing it each resolve the id.

* `positions_consistent_iff`: when the operations agree. Only an instrument held on exactly one side
  is listed by its symbol as it is in the full list, and an instrument held short only is closed on
  the wrong side by its bare name.
-/

namespace Gateway.Oanda

/-! ## Wire types -/

structure OandaPositionSide where
  units : String
  averagePrice : Option String := none
  unrealizedPl : Option String := none
  deriving DecidableEq, Repr

structure OandaPosition where
  instrument : String
  long : OandaPositionSide
  short : OandaPositionSide
  deriving DecidableEq, Repr

structure OandaTrade where
  id : String
  instrument : String
  currentUnits : String
  price : String
  state : String
  unrealizedPl : Option String := none
  deriving DecidableEq, Repr

/-- The body of a close request, with the path it is sent to. -/
inductive CloseTarget where
  | trade (id units : String)
  | position (instrument : String) (longUnits shortUnits : Option String)
  deriving DecidableEq, Repr

/-! ## Position ids -/

/-- What a position id points at. -/
inductive PositionTarget where
  | trade (id : String)
  | side (instrument : String) (side : Option PositionSide)
  deriving DecidableEq, Repr

/-- What stands before `suffix` in a text that ends with it. -/
def stripSuffix (s suffix : String) : Option String :=
  (suffix.toList.isSuffixOf? s.toList).map String.ofList

def parsePositionId (positionId : String) : PositionTarget :=
  if positionId ≠ "" ∧ positionId.toList.all Char.isDigit then .trade positionId
  else
    match stripSuffix positionId "_LONG" with
    | some base => .side base (some .long)
    | none =>
      match stripSuffix positionId "_SHORT" with
      | some base => .side base (some .short)
      | none => .side positionId none

theorem parsePositionId_side {id instrument : String}
    (h : parsePositionId id = .side instrument none) : instrument = id := by
  unfold parsePositionId at h
  split at h
  · cases h
  · split at h
    · cases h
    · split at h <;> cases h
      rfl

/-! ## Translations -/

variable (text : DecimalText)

/-- One side of an instrument, if it is held. -/
def translateSide (instrument : String) (side : PositionSide) (suffix : String)
    (held : OandaPositionSide) : List Position :=
  if held.units ≠ "0" then
    [{ id := instrument ++ suffix
       symbol := instrument
       side
       quantity := |(text.read held.units).getD 0|
       averageEntryPrice := (held.averagePrice.bind text.read).getD 0
       currentPrice := 0
       unrealizedPnl := (held.unrealizedPl.bind text.read).getD 0
       realizedPnl := 0
       marginMode := none
       leverage := none
       liquidationPrice := none }]
  else []

/-- The positions of an instrument, the long one first. -/
def translateOandaPosition (p : OandaPosition) : List Position :=
  translateSide text p.instrument .long "_LONG" p.long ++
    translateSide text p.instrument .short "_SHORT" p.short

def translateOandaTradeToPosition (trade : OandaTrade) : Except GatewayError Position := do
  let (side, quantity) ← fromOandaUnits text trade.currentUnits
  pure
    { id := trade.id
      symbol := trade.instrument
      side := match side with
        | .buy => .long
        | .sell => .short
      quantity
      averageEntryPrice := (text.read trade.price).getD 0
      currentPrice := 0
      unrealizedPnl := (trade.unrealizedPl.bind text.read).getD 0
      realizedPnl := 0
      marginMode := none
      leverage := none
      liquidationPrice := none }

/-! ## The broker -/

/-- The account: a position for every instrument that was ever traded, and the trades. An instrument
is not named like a trade, or like one side. -/
structure OandaAccount where
  positions : Table String OandaPosition
  trades : Table String OandaTrade
  instrument_eq : ∀ i p, positions.get i = some p → p.instrument = i
  plain : ∀ i p, positions.get i = some p → parsePositionId i = .side i none

namespace OandaAccount

variable (a : OandaAccount)

/-- The answer to a request for something that is there, or is not. -/
def found {α : Type} : Option α → Answer α
  | some x => .answered 200 none (.ok x)
  | none => .answered 404 none (.error "")

/-- `GET /openPositions` -/
def openPositions : List OandaPosition :=
  (a.positions.toList.map Prod.snd).filter fun p => p.long.units ≠ "0" ∨ p.short.units ≠ "0"

/-- The sides on which an instrument is held. -/
def sidesHeld (instrument : String) : List PositionSide :=
  match a.positions.get instrument with
  | none => []
  | some p =>
    (if p.long.units ≠ "0" then [.long] else []) ++ if p.short.units ≠ "0" then [.short] else []

/-- The instrument and the side of which a close request closes units. -/
def closes : CloseTarget → Option (String × PositionSide)
  | .trade id _ => do
    let trade ← a.trades.get id
    let p ← (translateOandaTradeToPosition text trade).toOption
    pure (p.symbol, p.side)
  | .position instrument (some _) none => some (instrument, .long)
  | .position instrument none (some _) => some (instrument, .short)
  | .position .. => none

end OandaAccount

/-! ## The adapter -/

variable (breaker : AdapterCircuitBreaker) (a : OandaAccount)

/-- The only state of a trade in which it can be acted on. -/
def openTradeState : String := "OPEN"

def fetchTrade (tradeId : String) : Except GatewayError OandaTrade := do
  let trade ← orMissing (.positionNotFound tradeId)
    (getJson (OandaAccount.found (a.trades.get tradeId)))
  if trade.state ≠ openTradeState then .error (.positionNotFound tradeId) else .ok trade

def getPosition (positionId : String) : Except GatewayError Position := do
  checkCircuitBreaker breaker
  match parsePositionId positionId with
  | .trade tradeId =>
    let trade ← fetchTrade a tradeId
    translateOandaTradeToPosition text trade
  | .side instrument requested =>
    let position ← orMissing (.positionNotFound positionId)
      (getJson (OandaAccount.found (a.positions.get instrument)))
    let positions := translateOandaPosition text position
    match (match requested with
      | some side => positions.find? fun p => p.side = side
      | none => positions.head?) with
    | some p => .ok p
    | none => .error (.positionNotFound positionId)

def getPositions (symbol : Option String) : Except GatewayError (List Position) := do
  checkCircuitBreaker breaker
  match symbol with
  | some symbol =>
    let position ← getPosition text breaker a symbol
    pure [position]
  | none =>
    let positions ← getJson (.answered 200 none (.ok a.openPositions))
    pure (positions.flatMap (translateOandaPosition text))

/-- The whole position or trade. -/
def allUnits : String := "ALL"

/-- A close request: where it goes, and which fill of the answer to report, under which id. -/
structure ClosePut where
  target : CloseTarget
  closedId : String
  fillKey : String
  deriving DecidableEq, Repr

def ClosePut.ofTrade (tradeId units : String) : ClosePut :=
  { target := .trade tradeId units, closedId := tradeId, fillKey := "orderFillTransaction" }

def ClosePut.ofPosition (positionId instrument units : String) (side : PositionSide) :
    ClosePut where
  target := match side with
    | .long => .position instrument (some units) none
    | .short => .position instrument none (some units)
  closedId := positionId
  fillKey := match side with
    | .long => "longOrderFillTransaction"
    | .short => "shortOrderFillTransaction"

/-- The close request that `close_position` sends. -/
def closeRequest (positionId : String) (quantity : Option Decimal) : ClosePut :=
  let units := (quantity.map text.write).getD allUnits
  match parsePositionId positionId with
  | .trade tradeId => .ofTrade tradeId units
  | .side instrument requested =>
    .ofPosition positionId instrument units (requested.getD .long)

/-- Send a close request and report the fill. -/
def putClose (put : ClosePut) : Answer Json → Except GatewayError OrderHandle
  | .failed error => .error (.providerError ("Request failed: " ++ error) (some "oanda"))
  | .answered status json value =>
    if status = 404 then .error (.positionNotFound put.closedId)
    else if isSuccess status then
      match value with
      | .error error => .error (.internal ("Failed to parse close response: " ++ error))
      | .ok body =>
        .ok
          { id := (((body.get put.fillKey).bind (Json.get · "id")).bind Json.asStr).getD "unknown"
            status := .filled }
    else .error (mapHttpError status (errorBody json))

/-- The request that is sent, and what the answer makes of it. -/
def closePosition (positionId : String) (quantity : Option Decimal) (answer : Answer Json) :
    Except GatewayError (ClosePut × Except GatewayError OrderHandle) := do
  checkCircuitBreaker breaker
  let put := closeRequest text positionId quantity
  pure (put, putClose put answer)

/-! ## Reading positions -/

section Reading

variable {text breaker a}

/-- The positions of an instrument. -/
def positionsOf (text : DecimalText) (a : OandaAccount) (symbol : String) : List Position :=
  (a.positions.get symbol).elim [] (translateOandaPosition text)

theorem symbol_of_mem_translate {p : OandaPosition} {q : Position}
    (h : q ∈ translateOandaPosition text p) : q.symbol = p.instrument := by
  unfold translateOandaPosition translateSide at h
  rcases List.mem_append.mp h with h | h
  all_goals
    split at h
    · rw [List.mem_singleton.mp h]
    · cases h

theorem side_positionsOf (symbol : String) :
    (positionsOf text a symbol).map Position.side = a.sidesHeld symbol := by
  unfold positionsOf OandaAccount.sidesHeld
  cases a.positions.get symbol with
  | none => rfl
  | some p =>
    simp only [Option.elim_some, translateOandaPosition, translateSide, List.map_append]
    congr 1 <;> split <;> rfl

theorem translate_flat {p : OandaPosition} (h : ¬ (p.long.units ≠ "0" ∨ p.short.units ≠ "0")) :
    translateOandaPosition text p = [] := by
  rw [not_or] at h
  rw [translateOandaPosition, translateSide, if_neg h.1, translateSide, if_neg h.2, List.append_nil]

theorem flatMap_openPositions :
    a.openPositions.flatMap (translateOandaPosition text) =
      a.positions.toList.flatMap fun e => translateOandaPosition text e.2 := by
  unfold OandaAccount.openPositions
  induction a.positions.toList with
  | nil => rfl
  | cons e l ih =>
    rw [List.map_cons, List.filter_cons, List.flatMap_cons]
    split
    · rw [List.flatMap_cons, ih]
    · rename_i hflat
      rw [ih, translate_flat (by simpa using hflat), List.nil_append]

theorem filter_openPositions (symbol : String) :
    (a.openPositions.flatMap (translateOandaPosition text)).filter (fun q => q.symbol = symbol) =
      positionsOf text a symbol := by
  have hsymbol : ∀ e ∈ a.positions.toList, ∀ q ∈ translateOandaPosition text e.2,
      q.symbol = e.1 := by
    intro e he q hq
    rw [symbol_of_mem_translate hq, a.instrument_eq e.1 e.2 (Table.mem_toList.mp he)]
  rw [flatMap_openPositions, List.filter_flatMap, Table.flatMap_toList a.positions symbol]
  · cases hget : a.positions.get symbol with
    | none => rw [positionsOf, hget, Option.elim_none, Option.elim_none]
    | some p =>
      rw [positionsOf, hget, Option.elim_some, Option.elim_some]
      refine List.filter_eq_self.mpr fun q hq => ?_
      exact decide_eq_true (hsymbol (symbol, p) (Table.mem_toList.mpr hget) q hq)
  · intro e he hne
    refine List.filter_eq_nil_iff.mpr fun q hq => ?_
    rw [hsymbol e he q hq]
    simpa using hne

theorem getJson_missing {α : Type} :
    getJson (OandaAccount.found (none : Option α)) =
      .error (.providerError "Upstream returned 404: Unknown error" (some "oanda")) := by
  rfl

theorem orMissing_found {α : Type} (missing : GatewayError) (x : Option α) :
    orMissing missing (getJson (OandaAccount.found x)) = x.elim (.error missing) .ok := by
  cases x with
  | none =>
    have h404 : containsWord "Upstream returned 404: Unknown error".toList "404" = true := by
      decide +kernel
    rw [getJson_missing, orMissing, if_pos h404, Option.elim_none]
  | some x => rfl

/-- The position of a side, or the first one. -/
def choose (positions : List Position) : Option PositionSide → Option Position
  | some side => positions.find? fun p => p.side = side
  | none => positions.head?

variable {p : Position} {symbol id instrument tradeId : String} {requested : Option PositionSide}

theorem getPosition_side (hclosed : breaker.isOpen = false)
    (hid : parsePositionId id = .side instrument requested) :
    getPosition text breaker a id =
      (choose (positionsOf text a instrument) requested).elim (.error (.positionNotFound id))
        .ok := by
  unfold getPosition checkCircuitBreaker positionsOf
  rw [hclosed, hid]
  simp only [orMissing_found]
  cases a.positions.get instrument with
  | none => cases requested <;> rfl
  | some p =>
    change _ = (choose (translateOandaPosition text p) requested).elim _ _
    cases hfound : choose (translateOandaPosition text p) requested <;> cases requested <;>
      simp only [choose] at hfound <;> simp [bind, Except.bind, hfound]

theorem exists_of_mem_positionsOf (h : p ∈ positionsOf text a symbol) :
    ∃ position, a.positions.get symbol = some position ∧
      p ∈ translateOandaPosition text position := by
  unfold positionsOf at h
  cases hget : a.positions.get symbol with
  | none =>
    rw [hget] at h
    cases h
  | some position =>
    rw [hget] at h
    exact ⟨position, rfl, h⟩

theorem symbol_of_mem_positionsOf (h : p ∈ positionsOf text a symbol) : p.symbol = symbol := by
  obtain ⟨position, hget, hmem⟩ := exists_of_mem_positionsOf h
  rw [symbol_of_mem_translate hmem, a.instrument_eq symbol position hget]

theorem mem_of_choose {positions : List Position} (h : choose positions requested = some p) :
    p ∈ positions := by
  cases requested with
  | none => exact List.mem_of_head? h
  | some side => exact List.mem_of_find?_eq_some h

/-- The name of an instrument with positions is not the id of a trade or of a side. -/
theorem parsePositionId_of_mem (h : p ∈ positionsOf text a symbol) :
    parsePositionId symbol = .side symbol none := by
  obtain ⟨position, hget, -⟩ := exists_of_mem_positionsOf h
  exact a.plain symbol position hget

/-- Reading the id of a side finds the position that is chosen. -/
theorem getPosition_side_iff (hclosed : breaker.isOpen = false)
    (hid : parsePositionId id = .side instrument requested) (p : Position) :
    getPosition text breaker a id = .ok p ↔
      choose (positionsOf text a instrument) requested = some p := by
  rw [getPosition_side hclosed hid]
  cases choose (positionsOf text a instrument) requested <;> simp

theorem fetchTrade_ok {trade : OandaTrade} (h : fetchTrade a tradeId = .ok trade) :
    a.trades.get tradeId = some trade := by
  unfold fetchTrade at h
  rw [orMissing_found] at h
  cases hget : a.trades.get tradeId with
  | none =>
    rw [hget] at h
    cases h
  | some found =>
    rw [hget, Option.elim_some] at h
    have hstate : (if found.state ≠ openTradeState then .error (.positionNotFound tradeId)
        else Except.ok found : Except GatewayError OandaTrade) = .ok trade := h
    split at hstate <;> cases hstate
    rfl

theorem getPosition_open (hopen : breaker.isOpen = true) (id : String) :
    getPosition text breaker a id = .error breaker.openError := by
  unfold getPosition checkCircuitBreaker
  rw [hopen]
  rfl

theorem getPosition_trade (hclosed : breaker.isOpen = false)
    (hid : parsePositionId id = .trade tradeId) :
    getPosition text breaker a id =
      (fetchTrade a tradeId >>= fun trade => translateOandaTradeToPosition text trade) := by
  unfold getPosition checkCircuitBreaker
  rw [hclosed, hid]
  rfl

end Reading

/-! ## Agreement -/

/-- The positions listed for a symbol are those of the full list. -/
def ListsAlike (symbol : String) : Prop :=
  getPositions text breaker a (some symbol) =
    (getPositions text breaker a none).map (List.filter fun p => p.symbol = symbol)

/-- Closing an id that can be read closes units of the position that is read. -/
def ClosesSame (id : String) : Prop :=
  ∀ p, getPosition text breaker a id = .ok p → ∀ quantity answer,
    (closePosition text breaker id quantity answer).map (fun sent => a.closes text sent.1.target) =
      .ok (some (p.symbol, p.side))

variable {text breaker a}

/-- The list of one position is the whole list exactly if there is one. -/
theorem singleton_eq_positionsOf_iff (hclosed : breaker.isOpen = false) (symbol : String) :
    (getPosition text breaker a symbol >>= fun position => pure [position]) =
        .ok (positionsOf text a symbol) ↔
      ∃ side, (positionsOf text a symbol).map Position.side = [side] := by
  constructor
  · intro h
    obtain ⟨p, -, hone⟩ := Checked.exceptBind_eq_ok h
    refine ⟨p.side, ?_⟩
    rw [← Except.ok.inj hone, List.map_singleton]
  · rintro ⟨side, hside⟩
    obtain ⟨p, hone, -⟩ := List.map_eq_singleton_iff.mp hside
    have hplain : parsePositionId symbol = .side symbol none :=
      parsePositionId_of_mem (hone ▸ List.mem_singleton_self p)
    rw [getPosition_side hclosed hplain, hone]
    rfl

theorem listsAlike_iff (symbol : String) :
    ListsAlike text breaker a symbol ↔
      breaker.isOpen = true ∨ ∃ side, a.sidesHeld symbol = [side] := by
  unfold ListsAlike getPositions checkCircuitBreaker
  cases hopen : breaker.isOpen with
  | true => exact ⟨fun _ => .inl rfl, fun _ => rfl⟩
  | false =>
    have hlist : (getPosition text breaker a symbol >>= fun position => pure [position]) =
          .ok ((a.openPositions.flatMap (translateOandaPosition text)).filter
            fun p => p.symbol = symbol) ↔
        ∃ side, a.sidesHeld symbol = [side] := by
      rw [filter_openPositions, singleton_eq_positionsOf_iff hopen, side_positionsOf]
    refine Iff.trans hlist ?_
    simp

/-- The first of the sides held is the short one only if it is the only one. -/
theorem head_sidesHeld (symbol : String) :
    (a.sidesHeld symbol).head? = some .short ↔ a.sidesHeld symbol = [.short] := by
  unfold OandaAccount.sidesHeld
  cases a.positions.get symbol with
  | none => simp
  | some p =>
    dsimp only
    split_ifs <;> simp

/-- The chosen position is on the side asked for, or long, unless the first one is short. -/
theorem choose_side_iff (positions : List Position) (requested : Option PositionSide) :
    (∀ p, choose positions requested = some p → p.side = requested.getD .long) ↔
      ¬ (requested = none ∧ (positions.map Position.side).head? = some .short) := by
  cases requested with
  | some side =>
    refine ⟨fun _ h => by simp at h, fun _ p hp => ?_⟩
    simpa using List.find?_some hp
  | none =>
    cases positions with
    | nil => simp [choose]
    | cons p positions => cases hside : p.side <;> simp [choose, hside]

theorem closes_side {id instrument : String} {requested : Option PositionSide}
    (hid : parsePositionId id = .side instrument requested) (quantity : Option Decimal) :
    a.closes text (closeRequest text id quantity).target =
      some (instrument, requested.getD .long) := by
  unfold closeRequest
  rw [hid]
  dsimp only [ClosePut.ofPosition]
  cases requested.getD .long <;> rfl

theorem closes_trade {id tradeId : String} {p : Position}
    (hclosed : breaker.isOpen = false) (hid : parsePositionId id = .trade tradeId)
    (h : getPosition text breaker a id = .ok p) (quantity : Option Decimal) :
    a.closes text (closeRequest text id quantity).target = some (p.symbol, p.side) := by
  rw [getPosition_trade hclosed hid] at h
  obtain ⟨trade, hfetch, htranslate⟩ := Checked.exceptBind_eq_ok h
  unfold closeRequest
  rw [hid]
  simp only [ClosePut.ofTrade, OandaAccount.closes, fetchTrade_ok hfetch, Option.bind_eq_bind,
    Option.bind_some, htranslate, Except.toOption, Option.pure_def]

theorem closesSame_iff (id : String) :
    ClosesSame text breaker a id ↔
      breaker.isOpen = true ∨
        ¬ (parsePositionId id = .side id none ∧ a.sidesHeld id = [.short]) := by
  unfold ClosesSame
  cases hopen : breaker.isOpen with
  | true =>
    refine ⟨fun _ => .inl rfl, fun _ p hp => ?_⟩
    rw [getPosition_open hopen] at hp
    cases hp
  | false =>
    have hput (quantity answer) :
        (closePosition text breaker id quantity answer).map
            (fun sent => a.closes text sent.1.target) =
          .ok (a.closes text (closeRequest text id quantity).target) := by
      rw [closePosition, checkCircuitBreaker, hopen]
      rfl
    simp only [hput, Except.ok.injEq]
    cases hid : parsePositionId id with
    | trade tradeId =>
      exact ⟨fun _ => .inr (by simp), fun _ p hp quantity _ => closes_trade hopen hid hp quantity⟩
    | side instrument requested =>
      -- what is closed is the side asked for, or the long one
      have hsame : (∀ p, choose (positionsOf text a instrument) requested = some p →
            Option Decimal → Answer Json → some (instrument, requested.getD .long) =
              some (p.symbol, p.side)) ↔
          ∀ p, choose (positionsOf text a instrument) requested = some p →
            p.side = requested.getD .long := by
        refine forall₂_congr fun p hp => ?_
        rw [symbol_of_mem_positionsOf (mem_of_choose hp)]
        exact ⟨fun h => (Prod.mk.inj (Option.some.inj (h none (.failed "")))).2.symm,
          fun h _ _ => by rw [h]⟩
      simp only [getPosition_side_iff hopen hid, closes_side hid]
      rw [hsame, choose_side_iff, side_positionsOf, head_sidesHeld]
      cases requested with
      | none =>
        obtain rfl := parsePositionId_side hid
        simp
      | some side => simp

/-- When the operations on positions agree. A symbol is listed as in the full list exactly if the
instrument is held on one side only: a flat one is an error, of a hedged one only the long side is
given. An id is closed as it is read, except the bare name of an instrument that is held short
only. -/
theorem positions_consistent_iff (text : DecimalText) (breaker : AdapterCircuitBreaker)
    (a : OandaAccount) (symbol id : String) :
    (ListsAlike text breaker a symbol ↔
        breaker.isOpen = true ∨ ∃ side, a.sidesHeld symbol = [side]) ∧
      (ClosesSame text breaker a id ↔
        breaker.isOpen = true ∨
          ¬ (parsePositionId id = .side id none ∧ a.sidesHeld id = [.short])) :=
  ⟨listsAlike_iff symbol, closesSame_iff id⟩

/-- An account with one instrument. -/
def OandaAccount.single (p : OandaPosition)
    (h : parsePositionId p.instrument = .side p.instrument none) : OandaAccount where
  positions := Table.insert ∅ p.instrument p
  trades := ∅
  instrument_eq i q hget := by
    rw [Table.get_insert, Table.get_empty] at hget
    split at hget <;> cases hget
    rename_i hi
    exact hi.symm
  plain i q hget := by
    rw [Table.get_insert, Table.get_empty] at hget
    split at hget <;> cases hget
    rename_i hi
    rwa [hi]

/-- Short 100 EUR_USD. -/
def shortOnly : OandaAccount :=
  .single { instrument := "EUR_USD", long := { units := "0" }, short := { units := "-100" } }
    (by decide +kernel)

/-- Long 50 and short 100 EUR_USD. -/
def hedged : OandaAccount :=
  .single { instrument := "EUR_USD", long := { units := "50" }, short := { units := "-100" } }
    (by decide +kernel)

/-- Closing the bare name of a short position asks for long units. A flat instrument is an error,
not the empty list, and the short side of a hedged one is not listed. -/
theorem positions_disagree :
    ((getPosition .fractions (.new 3 0 "oanda") shortOnly "EUR_USD").map Position.side =
        .ok .short ∧
      (closePosition .fractions (.new 3 0 "oanda") "EUR_USD" none (.failed "")).map
        (fun sent => sent.1.target) = .ok (.position "EUR_USD" (some "ALL") none)) ∧
    ((getPositions .fractions (.new 3 0 "oanda") shortOnly none).map
        (List.filter fun p => p.symbol = "GBP_USD") = .ok [] ∧
      getPositions .fractions (.new 3 0 "oanda") shortOnly (some "GBP_USD") =
        .error (.positionNotFound "GBP_USD")) ∧
    ((getPositions .fractions (.new 3 0 "oanda") hedged none).map (List.map Position.id) =
        .ok ["EUR_USD_LONG", "EUR_USD_SHORT"] ∧
      (getPositions .fractions (.new 3 0 "oanda") hedged (some "EUR_USD")).map
        (List.map Position.id) = .ok ["EUR_USD_LONG"]) := by
  decide +kernel

end Gateway.Oanda
