import TradingGateway.Saxo.Deltas
import TradingGateway.Websocket.Provider

/-!
# The streaming provider (`crates/saxo/src/websocket.rs`)

`connect` draws a new context id, creates a subscription for each configured symbol, for the balance
and for the orders, and starts a reader. `reconnect` is `connect` with the stored configuration.
Three things outlive a connection: the cancellation token, which the old reader cancels when it
ends, the record of the price subscriptions, by which a symbol is skipped, and the snapshots.

The context ids are drawn one after the other. Beside the provider, the state has what the broker
has accepted in each context (`accepted`), and in which context each snapshot was made (`origin`).
The re-authorisation task is left out: it only sends.
-/

namespace Gateway.Saxo

/-! ## The provider -/

/-- What can be subscribed. -/
inductive Feed where
  | price (referenceId : String) (info : SaxoInstrumentInfo)
  | balance
  | orders
  deriving DecidableEq, Repr

def balanceReferenceId : String := "balance_account"

def Feed.referenceId : Feed → String
  | price referenceId _ => referenceId
  | balance => balanceReferenceId
  | orders => orderReferenceId

structure SubscriptionEntry where
  symbol : String
  uic : UInt32
  assetType : String
  deriving DecidableEq, Repr

/-- How far a reader has come. -/
inductive ReaderPhase where
  | running
  /-- It has left its loop and sent that it is disconnecting. -/
  | leaving
  /-- It has taken the event channel away. -/
  | cleared
  /-- It has cancelled the token. -/
  | done
  deriving DecidableEq, Repr

structure Reader where
  contextId : ℕ
  phase : ReaderPhase
  deriving DecidableEq, Repr

/-- What the broker answers while a connection is made. Errors are given by their text. -/
structure Broker where
  instruments : Except String SaxoInstrumentMap
  token : Except String Unit
  request : Except String Unit
  socket : Except String Unit
  /-- The snapshot of an accepted subscription. -/
  subscription : Feed → Except String Json
  /-- The answer to a request to delete a price subscription. -/
  delete : String → Except String Unit

structure SaxoProvider where
  storedConfig : Option ProviderConfig
  contextId : Option ℕ
  instrumentMap : Option SaxoInstrumentMap
  /-- The price subscriptions by reference id. -/
  subscriptions : Table String SubscriptionEntry
  snapshotStore : SnapshotStore
  cancelled : Bool
  /-- The context whose event stream is fed. -/
  eventTx : Option ℕ
  readers : List Reader
  /-- How many context ids have been drawn. -/
  contexts : ℕ
  accepted : List (ℕ × Feed)
  origin : Table String ℕ

namespace SaxoProvider

def new : SaxoProvider where
  storedConfig := none
  contextId := none
  instrumentMap := none
  subscriptions := ∅
  snapshotStore := ∅
  cancelled := false
  eventTx := none
  readers := []
  contexts := 0
  accepted := []
  origin := ∅

section model

-- Lower case as the code has it; nothing here depends on what it does to a symbol.
variable (lower : String → String)

/-- The reference id of a symbol's price subscription. -/
def referenceIdForSymbol (symbol : String) : String :=
  "price_" ++ String.ofList ((lower symbol).toList.map fun c => if c = ':' then '_' else c)

/-- The broker accepts a subscription and the snapshot is stored. -/
def accept (context : ℕ) (feed : Feed) (snapshot : Json) (p : SaxoProvider) : SaxoProvider :=
  { p with
    snapshotStore := p.snapshotStore.setSnapshot feed.referenceId snapshot
    accepted := p.accepted ++ [(context, feed)]
    origin := p.origin.insert feed.referenceId context }

/-- Ask the broker for a subscription. -/
def requestFeed (b : Broker) (context : ℕ) (feed : Feed) (p : SaxoProvider) :
    Except SaxoError Unit × SaxoProvider :=
  match b.subscription feed with
  | .error message => (.error (.subscriptionFailed feed.referenceId message), p)
  | .ok snapshot => (.ok (), p.accept context feed snapshot)

/-- The price subscription of a symbol with known instrument, unless there is one on record. -/
def subscribeInstrument (b : Broker) (context : ℕ) (symbol : String) (info : SaxoInstrumentInfo)
    (p : SaxoProvider) : Except SaxoError Unit × SaxoProvider :=
  let referenceId := referenceIdForSymbol lower symbol
  if (p.subscriptions.get referenceId).isSome then (.ok (), p)
  else
    match p.requestFeed b context (.price referenceId info) with
    | (.error e, p) => (.error e, p)
    | (.ok _, p) =>
      (.ok (), { p with
        subscriptions := p.subscriptions.insert referenceId ⟨symbol, info.uic, info.assetType⟩ })

def subscribeSymbol (b : Broker) (context : ℕ) (p : SaxoProvider) (symbol : String) :
    Except SaxoError Unit × SaxoProvider :=
  match p.instrumentMap with
  | none => (.error (.config "Instrument map not loaded"), p)
  | some map =>
    match map.symbolToSaxo.get symbol with
    | none => (.error (.instrumentNotFound symbol), p)
    | some info => p.subscribeInstrument lower b context symbol info

/-- A price subscription that the broker is asked to delete; a refusal is only logged. -/
def deleteSubscription (b : Broker) (context : ℕ) (referenceId : String) (p : SaxoProvider) :
    SaxoProvider :=
  match b.delete referenceId with
  | .error _ => p
  | .ok _ =>
    { p with
      accepted := p.accepted.filter fun x => ¬ (x.1 = context ∧ x.2.referenceId = referenceId) }

def unsubscribeSymbol (b : Broker) (context : ℕ) (p : SaxoProvider) (symbol : String) :
    SaxoProvider :=
  let referenceId := referenceIdForSymbol lower symbol
  match p.subscriptions.get referenceId with
  | none => p
  | some _ =>
    deleteSubscription b context referenceId
      { p with
        subscriptions := p.subscriptions.remove referenceId
        snapshotStore := Table.remove p.snapshotStore referenceId
        origin := p.origin.remove referenceId }

/-- Subscribe to each symbol; a failure is logged and skipped. -/
def subscribeEach (b : Broker) (context : ℕ) (symbols : List String) (p : SaxoProvider) :
    SaxoProvider :=
  symbols.foldl (fun p symbol => (p.subscribeSymbol lower b context symbol).2) p

/-- The prices, the balance and the orders. -/
def createInitialSubscriptions (b : Broker) (symbols : List String) (context : ℕ)
    (p : SaxoProvider) : SaxoProvider :=
  let p := p.subscribeEach lower b context symbols
  let p := (p.requestFeed b context .balance).2
  (p.requestFeed b context .orders).2

end model

end SaxoProvider

/-- A step of reader `i`. -/
inductive ReaderStep where
  /-- A data message of its context. -/
  | deliver (i : ℕ) (referenceId : String) (payload : Json)
  /-- It leaves its loop: the socket ended, or the token is cancelled. -/
  | leave (i : ℕ)
  | clear (i : ℕ)
  | cancel (i : ℕ)
  deriving DecidableEq, Repr

namespace SaxoProvider

/-- Merge a message of the reader into the snapshot it names. Prices need a subscription on
record. -/
def mergeMessage (p : SaxoProvider) (referenceId : String) (payload : Json) : SaxoProvider :=
  if referenceId = balanceReferenceId ∨ referenceId = orderReferenceId ∨
      (p.subscriptions.get referenceId).isSome then
    match p.snapshotStore.applyDelta referenceId payload with
    | .error _ => p
    | .ok (_, snapshotStore) => { p with snapshotStore }
  else p

/-- Reader `i` goes from one phase to the next, with some effect. -/
def advance (p : SaxoProvider) (i : ℕ) (old new : ReaderPhase)
    (effect : SaxoProvider → SaxoProvider) : SaxoProvider :=
  match p.readers[i]? with
  | none => p
  | some r =>
    if r.phase = old then effect { p with readers := p.readers.set i { r with phase := new } }
    else p

/-- What the readers do. -/
def readerStep (p : SaxoProvider) : ReaderStep → SaxoProvider
  | .deliver i referenceId payload =>
    p.advance i .running .running fun p => p.mergeMessage referenceId payload
  | .leave i => p.advance i .running .leaving id
  | .clear i => p.advance i .leaving .cleared fun p => { p with eventTx := none }
  | .cancel i => p.advance i .cleared .done fun p => { p with cancelled := true }

section calls

variable (lower : String → String)

def openSocket (b : Broker) : Except WebSocketError Unit :=
  match b.token, b.request, b.socket with
  | .error e, _, _ => .error (.configError ("Failed to get Saxo token: " ++ e))
  | .ok _, .error e, _ => .error (.connectionFailed ("Failed to build WS request: " ++ e))
  | .ok _, .ok _, .error e => .error (.connectionFailed ("Saxo WS connect failed: " ++ e))
  | .ok _, .ok _, .ok _ => .ok ()

/-- Subscribe and start the reader. Old readers may go on meanwhile: `during` are their steps. The
call does not look at what they change. -/
def startReading (b : Broker) (during : List ReaderStep) (symbols : List String) (context : ℕ)
    (p : SaxoProvider) : SaxoProvider :=
  let p := createInitialSubscriptions lower b symbols context { p with eventTx := some context }
  let p := Run.exec readerStep p during
  { p with readers := p.readers ++ [⟨context, .running⟩] }

/-- Store the configuration and draw a context id. -/
def drawContext (config : ProviderConfig) (p : SaxoProvider) : SaxoProvider :=
  { p with
    storedConfig := some config
    contextId := some p.contexts
    contexts := p.contexts + 1 }

def connect (b : Broker) (during : List ReaderStep) (config : ProviderConfig) (p : SaxoProvider) :
    Except WebSocketError Unit × SaxoProvider :=
  let context := p.contexts
  let p := p.drawContext config
  match b.instruments with
  | .error e => (.error (.configError ("Failed to load Saxo instruments: " ++ e)), p)
  | .ok map =>
    let p := { p with instrumentMap := some map }
    match openSocket b with
    | .error e => (.error e, p)
    | .ok _ => (.ok (), p.startReading lower b during config.symbols context)

def reconnect (b : Broker) (during : List ReaderStep) (p : SaxoProvider) :
    Except WebSocketError Unit × SaxoProvider :=
  match p.storedConfig with
  | none => (.error (.connectionClosed "Cannot reconnect: no stored config"), p)
  | some config => p.connect lower b during config

/-- Subscribe to symbols until one fails. -/
def subscribeAll (b : Broker) (context : ℕ) : List String → SaxoProvider →
    Except WebSocketError Unit × SaxoProvider
  | [], p => (.ok (), p)
  | symbol :: rest, p =>
    match p.subscribeSymbol lower b context symbol with
    | (.error e, p) => (.error (.providerError e.display), p)
    | (.ok _, p) => subscribeAll b context rest p

def notConnected : WebSocketError := .configError "Not connected — call connect() first"

def subscribe (b : Broker) (symbols : List String) (p : SaxoProvider) :
    Except WebSocketError Unit × SaxoProvider :=
  match p.contextId with
  | none => (.error notConnected, p)
  | some context => subscribeAll lower b context symbols p

def unsubscribe (b : Broker) (symbols : List String) (p : SaxoProvider) :
    Except WebSocketError Unit × SaxoProvider :=
  match p.contextId with
  | none => (.error notConnected, p)
  | some context => (.ok (), symbols.foldl (unsubscribeSymbol lower b context) p)

def disconnect (p : SaxoProvider) : SaxoProvider := { p with cancelled := true }

end calls

end SaxoProvider

/-! ## Runs -/

inductive ProviderStep where
  | connect (b : Broker) (during : List ReaderStep) (config : ProviderConfig)
  | reconnect (b : Broker) (during : List ReaderStep)
  | subscribe (b : Broker) (symbols : List String)
  | unsubscribe (b : Broker) (symbols : List String)
  | disconnect
  | reader (step : ReaderStep)

namespace SaxoProvider

/-- A call of the provider, or a step of one of its readers. -/
def step (lower : String → String) (p : SaxoProvider) : ProviderStep → SaxoProvider
  | .connect b during config => (p.connect lower b during config).2
  | .reconnect b during => (p.reconnect lower b during).2
  | .subscribe b symbols => (p.subscribe lower b symbols).2
  | .unsubscribe b symbols => (p.unsubscribe lower b symbols).2
  | .disconnect => p.disconnect
  | .reader r => p.readerStep r

end SaxoProvider

end Gateway.Saxo
