import TradingGateway.Lib.Channel
import TradingGateway.Lib.Run
import TradingGateway.Websocket.Messages

/-!
# The two feeds of a connection (`crates/binance/src/websocket.rs`)

`connect` opens the market data socket and, with credentials, the user data socket. Each socket has
a reader task, and both readers send into one channel, whose receiver is the event stream of the
provider. The stream is closed when every sender handle is dropped. Each reader holds one, so the
loss of one socket does not close the stream while the reader of the other runs.

* `closed_iff_readers_ended`: when the stream is closed.
-/

namespace Gateway.Binance

/-- The name that the code gives a platform in a message. -/
def debugName : TradingPlatform → String
  | .alpacaLive => "AlpacaLive"
  | .alpacaPaper => "AlpacaPaper"
  | .binanceSpotLive => "BinanceSpotLive"
  | .binanceSpotTestnet => "BinanceSpotTestnet"
  | .binanceFuturesLive => "BinanceFuturesLive"
  | .binanceFuturesTestnet => "BinanceFuturesTestnet"
  | .binanceMarginLive => "BinanceMarginLive"
  | .binanceMarginTestnet => "BinanceMarginTestnet"
  | .binanceCoinFuturesLive => "BinanceCoinFuturesLive"
  | .binanceCoinFuturesTestnet => "BinanceCoinFuturesTestnet"
  | .oandaPractice => "OandaPractice"
  | .oandaLive => "OandaLive"
  | .saxoSim => "SaxoSim"
  | .saxoLive => "SaxoLive"
  | .tektii => "Tektii"
  | .mock => "Mock"

inductive ConnectionState where
  | disconnected
  | connecting
  | connected
  | subscribed
  | error (message : String)
  deriving DecidableEq, Repr

inductive TaskState where
  | notStarted
  | running
  | ended
  deriving DecidableEq, Repr

/-- Who can hold a sender handle. -/
inductive Holder where
  /-- The call of `connect`, until it returns. -/
  | connect
  | marketReader
  | userReader
  deriving DecidableEq, Repr

/-- How far `connect` has come after opening the market data socket. -/
inductive ConnectPhase where
  | marketUp
  | userUp
  | returned
  deriving DecidableEq, Repr

/-- A connection: the channel, the tasks and the cancellation token. -/
structure Connection where
  channel : Channel Holder WsMessage
  phase : ConnectPhase
  market : TaskState
  user : TaskState
  keepAlive : TaskState
  cancelled : Bool
  connectionState : ConnectionState

/-- What a reader finds at its socket. A text is given by the events it is parsed into. -/
inductive SocketInput where
  | text (events : List WsMessage)
  | close
  | error (message : String)
  | eof
  /-- A frame of another kind. -/
  | other
  deriving DecidableEq, Repr

namespace Connection

/-- After `connect_market_data`: the reader has a clone of the handle. -/
def start : Connection where
  channel := ⟨[], [.marketReader, .connect], true⟩
  phase := .marketUp
  market := .running
  user := .notStarted
  keepAlive := .notStarted
  cancelled := false
  connectionState := .subscribed

/-- `connect_user_data` after its socket is open: the reader gets a clone, the keep-alive none. -/
def connectUserData (s : Connection) : Connection :=
  match s.phase with
  | .marketUp =>
    { s with
      channel := s.channel.clone .userReader
      user := .running
      keepAlive := .running
      phase := .userUp }
  | _ => s

/-- `connect` returns, with or without a user data socket. Its own handle is dropped. -/
def connectReturns (s : Connection) : Connection :=
  match s.phase with
  | .returned => s
  | _ => { s with channel := s.channel.drop .connect, phase := .returned }

def endMarket (s : Connection) : Connection :=
  { s with channel := s.channel.drop .marketReader, market := .ended }

def endUser (s : Connection) : Connection :=
  { s with channel := s.channel.drop .userReader, user := .ended }

def marketLost (platform : TradingPlatform) (error : String) : WsMessage :=
  .connection .brokerDisconnected (some error) (some (debugName platform))

/-- The market data reader. -/
def readMarket (platform : TradingPlatform) (s : Connection) : SocketInput → Connection
  | .text events =>
    let (sent, channel) := s.channel.sendAll events
    let s := { s with channel }
    if sent then s else s.endMarket
  | .close =>
    { s with
      connectionState := .disconnected
      channel := (s.channel.send (marketLost platform "Market data stream closed")).2 }.endMarket
  | .error e =>
    { s with
      connectionState := .error e
      channel := (s.channel.send (marketLost platform ("WebSocket error: " ++ e))).2 }.endMarket
  | .eof => { s with connectionState := .disconnected }.endMarket
  | .other => s

/-- The user data reader. The end of its socket is only logged. -/
def readUser (s : Connection) : SocketInput → Connection
  | .text events =>
    let (sent, channel) := s.channel.sendAll events
    let s := { s with channel }
    if sent then s else s.endUser
  | .close | .error _ | .eof => s.endUser
  | .other => s

end Connection

inductive Action where
  | connectUserData
  | connectReturns
  | market (input : SocketInput)
  | user (input : SocketInput)
  /-- The provider is disconnected. -/
  | cancel
  /-- A reader, or the keep-alive task, sees the cancellation. -/
  | marketCancelled
  | userCancelled
  | keepAliveCancelled
  /-- The registry takes an event. -/
  | recv
  /-- The registry drops the stream. -/
  | dropStream
  deriving DecidableEq, Repr

namespace Connection

/-- One step of some task. A task that does not run takes none. -/
def step (platform : TradingPlatform) (s : Connection) : Action → Connection
  | .connectUserData => s.connectUserData
  | .connectReturns => s.connectReturns
  | .market input => if s.market = .running then s.readMarket platform input else s
  | .user input => if s.user = .running then s.readUser input else s
  | .cancel => { s with cancelled := true, connectionState := .disconnected }
  | .marketCancelled =>
    if s.market = .running ∧ s.cancelled then
      { s with connectionState := .disconnected }.endMarket
    else s
  | .userCancelled => if s.user = .running ∧ s.cancelled then s.endUser else s
  | .keepAliveCancelled =>
    if s.keepAlive = .running ∧ s.cancelled then { s with keepAlive := .ended } else s
  | .recv => { s with channel := s.channel.recv.2 }
  | .dropStream => { s with channel := { s.channel with receiving := false } }

/-- The events that are queued are consumed, and the stream then reports closed. -/
def ReportsClosed (s : Connection) : Prop := s.channel.drain.recv.1 = .closed

/-! ## Who holds a handle -/

/-- How many handles a task holds. -/
def handles (s : Connection) : Holder → ℕ
  | .connect => if s.phase = .returned then 0 else 1
  | .marketReader => if s.market = .running then 1 else 0
  | .userReader => if s.user = .running then 1 else 0

/-- Each task that runs holds one handle, and there is no other. -/
structure Held (s : Connection) : Prop where
  count : ∀ o, s.channel.senders.count o = s.handles o
  user : s.phase = .marketUp → s.user = .notStarted

theorem held_start : Held start := ⟨fun o => by cases o <;> rfl, fun _ => rfl⟩

variable {s : Connection} {platform : TradingPlatform}

/-- A step that touches neither the handles nor the tasks. -/
theorem Held.frame (h : Held s) {s' : Connection} (hs : s'.channel.senders = s.channel.senders)
    (hphase : s'.phase = s.phase) (hmarket : s'.market = s.market) (huser : s'.user = s.user) :
    Held s' := by
  constructor
  · intro o
    rw [hs, h.count o]
    cases o <;> simp [handles, hphase, hmarket, huser]
  · intro hp
    rw [huser]
    exact h.user (hphase ▸ hp)

theorem handles_endMarket (hrun : s.market = .running) (o : Holder) :
    s.endMarket.handles o = s.handles o - if .marketReader = o then 1 else 0 := by
  cases o with
  | connect => rfl
  | marketReader => simp [handles, endMarket, hrun]
  | userReader => rfl

theorem handles_endUser (hrun : s.user = .running) (o : Holder) :
    s.endUser.handles o = s.handles o - if .userReader = o then 1 else 0 := by
  cases o with
  | connect => rfl
  | marketReader => rfl
  | userReader => simp [handles, endUser, hrun]

theorem Held.endMarket (h : Held s) (hrun : s.market = .running) : Held s.endMarket := by
  constructor
  · intro o
    rw [handles_endMarket hrun, ← h.count]
    exact s.channel.count_drop _ _
  · exact h.user

theorem Held.endUser (h : Held s) (hrun : s.user = .running) : Held s.endUser := by
  constructor
  · intro o
    rw [handles_endUser hrun, ← h.count]
    exact s.channel.count_drop _ _
  · intro hp
    rw [h.user hp] at hrun
    cases hrun

theorem Held.connectUserData (h : Held s) : Held s.connectUserData := by
  unfold Connection.connectUserData
  split
  · rename_i hp
    have huser := h.user hp
    constructor
    · intro o
      show (s.channel.clone .userReader).senders.count o = _
      rw [Channel.count_clone, h.count o]
      cases o with
      | connect => simp [handles, hp]
      | marketReader => rfl
      | userReader => simp [handles, huser]
    · intro hp'
      cases hp'
  · exact h

theorem Held.connectReturns (h : Held s) : Held s.connectReturns := by
  unfold Connection.connectReturns
  split
  · exact h
  · rename_i hp
    have hp : s.phase ≠ .returned := hp
    constructor
    · intro o
      show (s.channel.drop .connect).senders.count o = _
      rw [Channel.count_drop, h.count o]
      cases o with
      | connect => simp [handles, hp]
      | marketReader => rfl
      | userReader => rfl
    · intro hp'
      cases hp'

theorem Held.readMarket (h : Held s) (hrun : s.market = .running) (input : SocketInput) :
    Held (s.readMarket platform input) := by
  cases input with
  | text events =>
    have hsent := s.channel.senders_sendAll events
    show Held (if _ then _ else _)
    split
    · exact h.frame hsent rfl rfl rfl
    · exact Held.endMarket (h.frame hsent rfl rfl rfl) hrun
  | close => exact Held.endMarket (h.frame (s.channel.senders_send _) rfl rfl rfl) hrun
  | error e => exact Held.endMarket (h.frame (s.channel.senders_send _) rfl rfl rfl) hrun
  | eof => exact Held.endMarket (h.frame rfl rfl rfl rfl) hrun
  | other => exact h

theorem Held.readUser (h : Held s) (hrun : s.user = .running) (input : SocketInput) :
    Held (s.readUser input) := by
  cases input with
  | text events =>
    have hsent := s.channel.senders_sendAll events
    show Held (if _ then _ else _)
    split
    · exact h.frame hsent rfl rfl rfl
    · exact Held.endUser (h.frame hsent rfl rfl rfl) hrun
  | close => exact h.endUser hrun
  | error e => exact h.endUser hrun
  | eof => exact h.endUser hrun
  | other => exact h

theorem Held.step (h : Held s) (a : Action) : Held (s.step platform a) := by
  cases a with
  | connectUserData => exact h.connectUserData
  | connectReturns => exact h.connectReturns
  | market input =>
    show Held (if _ then _ else _)
    split
    · rename_i hrun
      exact h.readMarket hrun input
    · exact h
  | user input =>
    show Held (if _ then _ else _)
    split
    · rename_i hrun
      exact h.readUser hrun input
    · exact h
  | cancel => exact h.frame rfl rfl rfl rfl
  | marketCancelled =>
    show Held (if _ then _ else _)
    split
    · rename_i hrun
      exact Held.endMarket (h.frame rfl rfl rfl rfl) hrun.1
    · exact h
  | userCancelled =>
    show Held (if _ then _ else _)
    split
    · rename_i hrun
      exact h.endUser hrun.1
    · exact h
  | keepAliveCancelled =>
    show Held (if _ then _ else _)
    split
    · exact h.frame rfl rfl rfl rfl
    · exact h
  | recv => exact h.frame s.channel.senders_recv rfl rfl rfl
  | dropStream => exact h.frame rfl rfl rfl rfl

theorem held_exec (platform : TradingPlatform) (actions : List Action) :
    Held (Run.exec (step platform) start actions) :=
  Run.exec_inv_all (I := Held) (fun _ a h => h.step a) held_start actions

/-! ## When the stream is closed -/

theorem Held.reportsClosed_iff (h : Held s) (hreturned : s.phase = .returned) :
    ReportsClosed s ↔ s.market ≠ .running ∧ s.user ≠ .running := by
  unfold ReportsClosed
  rw [Channel.recv_drain, Channel.senders_eq_nil_iff]
  constructor
  · intro hnone
    have hmarket : s.handles .marketReader = 0 := (h.count _).symm.trans (hnone _)
    have huser : s.handles .userReader = 0 := (h.count _).symm.trans (hnone _)
    constructor
    · intro hrun
      simp [handles, hrun] at hmarket
    · intro hrun
      simp [handles, hrun] at huser
  · rintro ⟨hmarket, huser⟩ o
    rw [h.count o]
    cases o <;> simp [handles, hreturned, hmarket, huser]

end Connection

open Connection

/-- After any steps of the tasks of a connection, its stream reports closed exactly if neither
reader runs. -/
theorem closed_iff_readers_ended (platform : TradingPlatform) (actions : List Action)
    (hreturned : (Run.exec (step platform) start actions).phase = .returned) :
    ReportsClosed (Run.exec (step platform) start actions) ↔
      (Run.exec (step platform) start actions).market ≠ .running ∧
      (Run.exec (step platform) start actions).user ≠ .running :=
  (held_exec platform actions).reportsClosed_iff hreturned

theorem closed_after_both :
    ReportsClosed (Run.exec (step .binanceSpotLive) start
      [.connectUserData, .connectReturns, .user .close, .market .eof]) :=
  (closed_iff_readers_ended .binanceSpotLive
    [.connectUserData, .connectReturns, .user .close, .market .eof] rfl).mpr
    ⟨by decide, by decide⟩

/-- Whichever socket is closed first: the reader has ended, the stream is still open. -/
theorem first_loss_leaves_open :
    (Run.exec (step .binanceSpotLive) start
      [.connectUserData, .connectReturns, .user .close]).user = .ended ∧
    ¬ ReportsClosed (Run.exec (step .binanceSpotLive) start
      [.connectUserData, .connectReturns, .user .close]) ∧
    (Run.exec (step .binanceSpotLive) start
      [.connectUserData, .connectReturns, .market .close]).market = .ended ∧
    ¬ ReportsClosed (Run.exec (step .binanceSpotLive) start
      [.connectUserData, .connectReturns, .market .close]) := by
  unfold ReportsClosed
  refine ⟨rfl, by decide, rfl, by decide⟩

end Gateway.Binance
