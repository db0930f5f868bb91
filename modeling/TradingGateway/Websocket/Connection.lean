import TradingGateway.Lib.Run
import TradingGateway.Lib.Table
import TradingGateway.Websocket.Messages

/-!
# Strategy connections (`crates/core/src/websocket/connection.rs`, `server.rs`)

Each strategy connection has a bounded queue of outgoing messages. `send_to` and `broadcast` put
messages into it without waiting; the connection's send task takes them out and writes them to the
socket. A message that finds the queue full is dropped, and the connection stays as it is.

* `WsConnection`: a connection with its queue. Its last two fields are history: the messages that
  were addressed to the connection and those written to the client.
* `WsConnectionManager.step`: one call of the manager, or one round of a send task.
* `written_isPrefix_of_hasRoom`: what the client gets has no gap as long as every message for
  it finds room.
-/

namespace Gateway

abbrev Uuid := ℕ

/-- An outgoing message with the id of the engine event it carries. -/
abbrev Outgoing := WsMessage × Option String

structure WsConnection where
  capacity : ℕ
  /-- The queue of the send task, oldest message first. -/
  queue : List Outgoing
  /-- The send task has ended, so the channel is closed. -/
  closed : Bool
  addressed : List Outgoing
  written : List Outgoing
  deriving DecidableEq, Repr

namespace WsConnection

def new (capacity : ℕ) : WsConnection := ⟨capacity, [], false, [], []⟩

def isFull (conn : WsConnection) : Bool := conn.capacity ≤ conn.queue.length

/-- A message finds room, or is refused because the client is gone. -/
def hasRoom (conn : WsConnection) : Bool := conn.closed || !conn.isFull

/-- The message could not be queued: why. -/
inductive SendError where
  | full
  | closed
  deriving DecidableEq, Repr

/-- `try_send` on the bounded channel. -/
def send (conn : WsConnection) (m : Outgoing) : Except SendError Unit × WsConnection :=
  let conn := { conn with addressed := conn.addressed ++ [m] }
  if conn.closed then (.error .closed, conn)
  else if conn.isFull then (.error .full, conn)
  else (.ok (), { conn with queue := conn.queue ++ [m] })

/-- The send task ends and drops its queue. -/
def stop (conn : WsConnection) : WsConnection := { conn with queue := [], closed := true }

/-- One round of the send task. `ok`: the socket takes the frame. A `Close` message becomes a close
frame, and the task ends after it. -/
def write (conn : WsConnection) (ok : Bool) : WsConnection :=
  match conn.queue with
  | [] => conn
  | m :: rest =>
    if !ok then conn.stop
    else
      let conn := { conn with queue := rest, written := conn.written ++ [m] }
      match m.1 with
      | .close .. => conn.stop
      | _ => conn

end WsConnection

/-- The connections. -/
abbrev WsConnectionManager := Table Uuid WsConnection

namespace WsConnectionManager

/-- Send a message to every connection; a failure is only logged. -/
def broadcast (manager : WsConnectionManager) (message : WsMessage) : WsConnectionManager :=
  Table.mapValues (fun conn => (conn.send (message, none)).2) manager

/-- Send a message to one connection. Whether it was queued. -/
def sendTo (manager : WsConnectionManager) (id : Uuid) (m : Outgoing) :
    Bool × WsConnectionManager :=
  match Table.get manager id with
  | none => (false, manager)
  | some conn => ((conn.send m).1.isOk, Table.insert manager id (conn.send m).2)

/-- A call of the manager, or a round of a connection's send task. -/
inductive Action where
  | addConnection (id : Uuid) (capacity : ℕ)
  | removeConnection (id : Uuid)
  | sendTo (id : Uuid) (m : Outgoing)
  | broadcast (message : WsMessage)
  | write (id : Uuid) (ok : Bool)
  deriving DecidableEq, Repr

def step (manager : WsConnectionManager) : Action → WsConnectionManager
  | .addConnection id capacity => Table.insert manager id (.new capacity)
  | .removeConnection id => Table.remove manager id
  | .sendTo id m => (manager.sendTo id m).2
  | .broadcast message => manager.broadcast message
  | .write id ok => Table.modify manager id (·.write ok)

end WsConnectionManager

/-! ## What the client gets -/

namespace WsConnection

/-- Nothing was lost: the client has got, or will get, everything that was addressed to it, unless
the send task has ended. -/
structure Complete (conn : WsConnection) : Prop where
  isPrefix : conn.written ++ conn.queue <+: conn.addressed
  whole : conn.closed = false → conn.written ++ conn.queue = conn.addressed

theorem Complete.written {conn : WsConnection} (h : conn.Complete) :
    conn.written <+: conn.addressed :=
  (List.prefix_append _ _).trans h.isPrefix

theorem complete_new (capacity : ℕ) : (new capacity).Complete := ⟨by simp [new], fun _ => rfl⟩

theorem Complete.stop {conn : WsConnection} (h : conn.Complete) : conn.stop.Complete where
  isPrefix := by
    show conn.written ++ [] <+: conn.addressed
    rw [List.append_nil]
    exact h.written
  whole := nofun

/-- A message that finds room, or a closed channel, opens no gap. -/
theorem Complete.send {conn : WsConnection} (h : conn.Complete) (m : Outgoing)
    (hroom : conn.hasRoom = true) : (conn.send m).2.Complete := by
  cases hc : conn.closed with
  | true =>
    have heq : (conn.send m).2 = { conn with addressed := conn.addressed ++ [m] } := by
      simp [WsConnection.send, hc]
    rw [heq]
    exact ⟨h.isPrefix.trans (List.prefix_append _ _), fun h' => by simp [hc] at h'⟩
  | false =>
    have hfull : conn.isFull = false := by simpa [hasRoom, hc] using hroom
    have heq : (conn.send m).2 =
        { conn with addressed := conn.addressed ++ [m], queue := conn.queue ++ [m] } := by
      have hroom' : ¬ conn.capacity ≤ conn.queue.length := by simpa [isFull] using hfull
      simp [WsConnection.send, hc, isFull, hroom']
    have hwhole : conn.written ++ (conn.queue ++ [m]) = conn.addressed ++ [m] := by
      rw [← List.append_assoc, h.whole hc]
    rw [heq]
    refine ⟨?_, fun _ => hwhole⟩
    show conn.written ++ (conn.queue ++ [m]) <+: conn.addressed ++ [m]
    exact ⟨[], (List.append_nil _).trans hwhole⟩

theorem Complete.write {conn : WsConnection} (h : conn.Complete) (ok : Bool) :
    (conn.write ok).Complete := by
  unfold WsConnection.write
  split
  · exact h
  · rename_i m rest hq
    cases ok with
    | false => exact h.stop
    | true =>
      -- The head of the queue moves to the end of what was written.
      have hmoved : (conn.written ++ [m]) ++ rest = conn.written ++ conn.queue := by
        rw [hq, List.append_assoc, List.singleton_append]
      have hnext : Complete { conn with queue := rest, written := conn.written ++ [m] } :=
        ⟨by rw [hmoved]; exact h.isPrefix, fun hc => by rw [hmoved]; exact h.whole hc⟩
      simp only [Bool.not_true, Bool.false_eq_true, ↓reduceIte]
      split
      · exact hnext.stop
      · exact hnext

end WsConnection

namespace WsConnectionManager

variable {manager : WsConnectionManager} {id : Uuid} {conn : WsConnection}

/-- The message of an action finds room at the connection, if it is for it. -/
def hasRoom (id : Uuid) (manager : WsConnectionManager) : Action → Bool
  | .sendTo id' _ => id' ≠ id || (Table.get manager id).all WsConnection.hasRoom
  | .broadcast _ => (Table.get manager id).all WsConnection.hasRoom
  | _ => true

/-- The connection, while it is there, is complete. -/
def Complete (id : Uuid) (manager : WsConnectionManager) : Prop :=
  ∀ conn, Table.get manager id = some conn → conn.Complete

theorem Complete.insert {id' : Uuid} (h : Complete id manager) (hc : id' = id → conn.Complete) :
    Complete id (Table.insert manager id' conn) := by
  intro conn' hget
  rw [Table.get_insert] at hget
  split at hget
  · rename_i hid
    cases hget
    exact hc hid.symm
  · exact h conn' hget

theorem Complete.step (h : Complete id manager) {a : Action} (hroom : manager.hasRoom id a = true) :
    Complete id (manager.step a) := by
  cases a with
  | addConnection id' capacity => exact h.insert fun _ => WsConnection.complete_new capacity
  | removeConnection id' =>
    intro conn hget
    have hget' : (Table.remove manager id').get id = some conn := hget
    rw [Table.get_remove] at hget'
    split at hget'
    · cases hget'
    · exact h conn hget'
  | sendTo id' m =>
    show Complete id (manager.sendTo id' m).2
    unfold WsConnectionManager.sendTo
    split
    · exact h
    · rename_i conn hget
      refine h.insert ?_
      rintro rfl
      have hconn : conn.hasRoom = true := by simpa [hasRoom, hget] using hroom
      exact (h conn hget).send m hconn
  | broadcast message =>
    intro conn hget
    have hget' : (Table.mapValues (fun conn => (conn.send (message, none)).2) manager).get id =
      some conn := hget
    rw [Table.get_mapValues, Option.map_eq_some_iff] at hget'
    obtain ⟨conn', hget', rfl⟩ := hget'
    have hconn : conn'.hasRoom = true := by simpa [hasRoom, hget'] using hroom
    exact (h conn' hget').send _ hconn
  | write id' ok =>
    intro conn hget
    have hget' : (Table.modify manager id' (·.write ok)).get id = some conn := hget
    rw [Table.get_modify] at hget'
    split at hget'
    · rename_i hid
      obtain ⟨conn', hconn', rfl⟩ := Option.map_eq_some_iff.mp hget'
      exact (h conn' (hid ▸ hconn')).write ok
    · exact h conn hget'

/-- In a run whose messages for a connection all find room, its client has got a prefix of what was
addressed to it, at every moment. -/
theorem written_isPrefix_of_hasRoom {actions : List Action}
    (hroom : Run.Guarded step (fun manager a => manager.hasRoom id a = true) ∅ actions)
    {actions' : List Action} (hinit : actions' <+: actions)
    (hget : Table.get (Run.exec step (∅ : WsConnectionManager) actions') id = some conn) :
    conn.written <+: conn.addressed := by
  have hempty : Complete id (∅ : WsConnectionManager) := by
    intro conn hget
    cases hget
  have hcomplete := Run.exec_inv (I := Complete id) (fun _ _ h hr => h.step hr) hempty
    (hroom.initial hinit)
  exact (hcomplete conn hget).written

/-- Two messages, the second one after the first was written. -/
theorem written_isPrefix_of_hasRoom_two :
    ∃ actions conn, Run.Guarded step (fun manager a => manager.hasRoom 1 a = true) ∅ actions ∧
      Table.get (Run.exec step (∅ : WsConnectionManager) actions) 1 = some conn ∧
      conn.written = [(.other "candle" "a", none), (.other "candle" "b", none)] ∧
      conn.written <+: conn.addressed := by
  have hroom : Run.Guarded step (fun manager a => manager.hasRoom 1 a = true) ∅
      [.addConnection 1 1, .sendTo 1 (.other "candle" "a", none), .write 1 true,
        .broadcast (.other "candle" "b"), .write 1 true] := by decide +kernel
  have hget : Table.get (Run.exec step (∅ : WsConnectionManager)
      [.addConnection 1 1, .sendTo 1 (.other "candle" "a", none), .write 1 true,
        .broadcast (.other "candle" "b"), .write 1 true]) 1 =
      some ⟨1, [], false, [(.other "candle" "a", none), (.other "candle" "b", none)],
        [(.other "candle" "a", none), (.other "candle" "b", none)]⟩ := by decide +kernel
  refine ⟨_, ⟨1, [], false, [(.other "candle" "a", none), (.other "candle" "b", none)],
    [(.other "candle" "a", none), (.other "candle" "b", none)]⟩, hroom, hget, rfl, ?_⟩
  exact written_isPrefix_of_hasRoom hroom List.prefix_rfl hget

/-- Three messages to a connection whose queue has room for one. -/
def slowConsumer : List Action :=
  let m (text : String) : Outgoing := (.other "candle" text, none)
  [.addConnection 1 1, .sendTo 1 (m "a"), .sendTo 1 (m "b"), .write 1 true, .sendTo 1 (m "c"),
    .write 1 true]

/-- The second message is lost, and the third one is written all the same. -/
theorem slowConsumer_gap : ∃ conn,
    Table.get (Run.exec step (∅ : WsConnectionManager) slowConsumer) 1 = some conn ∧
      ¬ conn.written <+: conn.addressed := by
  refine ⟨⟨1, [], false, [(.other "candle" "a", none), (.other "candle" "b", none),
    (.other "candle" "c", none)], [(.other "candle" "a", none), (.other "candle" "c", none)]⟩,
    by decide +kernel, by decide +kernel⟩

end WsConnectionManager

end Gateway
