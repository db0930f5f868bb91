import TradingGateway.Lib.Run
import TradingGateway.Models

/-!
# The listen key of the user data stream (`crates/binance/src/websocket.rs`)

The user data socket is opened with a listen key, which has to be kept alive. A task sends a
keep-alive for the stored key every twenty minutes; when that fails, it stores a new key, with which
no socket is opened. Every connect opens a socket with a new key and starts another task; the
sockets and tasks of earlier connects go on.

* `key_in_use_iff`: each keep-alive names the key of every open socket, exactly if no other key was
  created since the last socket was opened and no socket with another key is left.
-/

namespace Gateway.Binance

structure UserSocket where
  /-- The listen key that the socket was opened with. -/
  key : String
  isOpen : Bool
  deriving DecidableEq, Repr

structure UserData where
  /-- Whether the stored configuration has credentials. -/
  credentials : Option Bool
  listenKey : Option String
  listenKeyCreated : Option Instant
  /-- The sockets that were opened, oldest first. -/
  sockets : List UserSocket
  /-- The keep-alive tasks that sleep. -/
  sleeping : ℕ
  /-- The keep-alive tasks that failed and wait for a new key. -/
  creating : ℕ
  cancelled : Bool
  deriving DecidableEq, Repr

/-- What a call or a task meets. `created` is the answer to a request for a listen key. -/
inductive KeyEvent where
  | connect (credentials marketOk : Bool) (created : Except String String) (socketOk : Bool)
      (now : Instant)
  | reconnect (marketOk : Bool) (created : Except String String) (socketOk : Bool) (now : Instant)
  /-- A task wakes up; whether its request, if it sends one, succeeds. -/
  | keepAlive (ok : Bool)
  /-- A task that failed gets its answer. -/
  | created (answer : Except String String) (now : Instant)
  /-- The `i`-th socket is closed, or its reader ends. -/
  | closed (i : ℕ)
  | disconnect

namespace UserData

def new : UserData := ⟨none, none, none, [], 0, 0, false⟩

/-- A key is created and a socket opened with it; after `disconnect` its tasks end at once. -/
def connectUserData (s : UserData) (created : Except String String) (socketOk : Bool)
    (now : Instant) : UserData :=
  match created with
  | .error _ => s
  | .ok key =>
    if socketOk then
      { s with
        listenKey := some key
        listenKeyCreated := some now
        sockets := s.sockets ++ [⟨key, !s.cancelled⟩]
        sleeping := if s.cancelled then s.sleeping else s.sleeping + 1 }
    else s

def connect (s : UserData) (credentials marketOk : Bool) (created : Except String String)
    (socketOk : Bool) (now : Instant) : UserData :=
  let s := { s with credentials := some credentials }
  if marketOk && credentials then s.connectUserData created socketOk now else s

/-- How long a key is thought to be good. -/
def reuseWindow : Duration := 50 * 60 * 10 ^ 9

def shouldReuse (s : UserData) (now : Instant) : Bool :=
  s.listenKey.isSome && s.listenKeyCreated.any fun created => now - created < reuseWindow

/-- A key that may be reused stays stored, but a new one is created all the same. -/
def reconnect (s : UserData) (marketOk : Bool) (created : Except String String) (socketOk : Bool)
    (now : Instant) : UserData :=
  match s.credentials with
  | some true =>
    if marketOk then
      let s := if s.shouldReuse now then s else { s with listenKey := none }
      s.connectUserData created socketOk now
    else s
  | _ => s

/-- The key that a task names when it wakes up. -/
def names (s : UserData) : Option String := if 0 < s.sleeping then s.listenKey else none

def keepAlive (s : UserData) (ok : Bool) : UserData :=
  match s.names with
  | none => s
  | some _ =>
    if ok then s else { s with sleeping := s.sleeping - 1, creating := s.creating + 1 }

/-- The new key is stored. After `disconnect` the task ends. -/
def keyCreated (s : UserData) (answer : Except String String) (now : Instant) : UserData :=
  if s.creating = 0 then s
  else
    let s := { s with
      creating := s.creating - 1
      sleeping := if s.cancelled then s.sleeping else s.sleeping + 1 }
    match answer with
    | .ok key => { s with listenKey := some key, listenKeyCreated := some now }
    | .error _ => s

def closed (s : UserData) (i : ℕ) : UserData :=
  { s with sockets := s.sockets.modify i fun socket => { socket with isOpen := false } }

def disconnect (s : UserData) : UserData :=
  { s with
    cancelled := true
    listenKey := none
    sockets := s.sockets.map fun socket => { socket with isOpen := false }
    sleeping := 0 }

def step (s : UserData) : KeyEvent → UserData
  | .connect credentials marketOk created socketOk now =>
    s.connect credentials marketOk created socketOk now
  | .reconnect marketOk created socketOk now => s.reconnect marketOk created socketOk now
  | .keepAlive ok => s.keepAlive ok
  | .created answer now => s.keyCreated answer now
  | .closed i => s.closed i
  | .disconnect => s.disconnect

/-- The key of the last socket that was opened. -/
def lastKey (s : UserData) : Option String := (s.sockets.map UserSocket.key).getLast?

/-- A step opens a socket, or leaves the keys of the sockets alone and the stored key as it is, or
forgotten. -/
inductive Opening (s : UserData) : UserData → Prop
  | opened {s' : UserData} (key : String) (isOpen : Bool) (hkey : s'.listenKey = some key)
      (hsockets : s'.sockets = s.sockets ++ [⟨key, isOpen⟩]) : Opening s s'
  | same {s' : UserData} (hkey : s'.listenKey = s.listenKey ∨ s'.listenKey = none)
      (hkeys : s'.sockets.map UserSocket.key = s.sockets.map UserSocket.key) : Opening s s'

theorem Opening.of_forgotten {s s₀ s' : UserData} (h : Opening s₀ s')
    (hkey : s₀.listenKey = s.listenKey ∨ s₀.listenKey = none)
    (hsockets : s₀.sockets = s.sockets) : Opening s s' := by
  cases h with
  | opened key isOpen hkey' hsockets' => exact .opened key isOpen hkey' (hsockets ▸ hsockets')
  | same hkey' hkeys =>
    refine .same ?_ (hsockets ▸ hkeys)
    rcases hkey' with hkey' | hkey'
    · rw [hkey']
      exact hkey
    · exact .inr hkey'

variable (s : UserData)

theorem opening_connectUserData (created : Except String String) (socketOk : Bool) (now : Instant) :
    Opening s (s.connectUserData created socketOk now) := by
  unfold connectUserData
  cases created with
  | error e => exact .same (.inl rfl) rfl
  | ok key =>
    cases socketOk with
    | false => exact .same (.inl rfl) rfl
    | true => exact .opened key (!s.cancelled) rfl rfl

theorem opening_connect (credentials marketOk : Bool) (created : Except String String)
    (socketOk : Bool) (now : Instant) :
    Opening s (s.connect credentials marketOk created socketOk now) := by
  unfold connect
  dsimp only
  split
  · exact (opening_connectUserData _ created socketOk now).of_forgotten (.inl rfl) rfl
  · exact .same (.inl rfl) rfl

theorem opening_reconnect (marketOk : Bool) (created : Except String String) (socketOk : Bool)
    (now : Instant) :
    Opening s (s.reconnect marketOk created socketOk now) := by
  unfold reconnect
  split
  · split
    · dsimp only
      split
      · exact opening_connectUserData s created socketOk now
      · exact (opening_connectUserData _ created socketOk now).of_forgotten (.inr rfl) rfl
    · exact .same (.inl rfl) rfl
  · exact .same (.inl rfl) rfl

theorem keys_closed (sockets : List UserSocket) (i : ℕ) :
    (sockets.modify i fun socket => { socket with isOpen := false }).map UserSocket.key =
      sockets.map UserSocket.key := by
  induction sockets generalizing i with
  | nil => rw [List.modify_nil]
  | cons socket sockets ih =>
    cases i with
    | zero => rfl
    | succ i => rw [List.modify_succ_cons, List.map_cons, List.map_cons, ih]

theorem opening_keepAlive (ok : Bool) : Opening s (s.keepAlive ok) := by
  unfold keepAlive
  split
  · exact .same (.inl rfl) rfl
  · split <;> exact .same (.inl rfl) rfl

/-- A task that gets no key, or does not wait for one. -/
theorem opening_keyCreated (answer : Except String String) (now : Instant)
    (h : s.creating = 0 ∨ answer.isOk = false) : Opening s (s.keyCreated answer now) := by
  unfold keyCreated
  split
  · exact .same (.inl rfl) rfl
  · rename_i hcreating
    cases answer with
    | error e => exact .same (.inl rfl) rfl
    | ok key => exact absurd h (by simp [hcreating, Except.isOk, Except.toBool])

theorem opening_closed (i : ℕ) : Opening s (s.closed i) :=
  .same (.inl rfl) (keys_closed s.sockets i)

theorem opening_disconnect : Opening s s.disconnect := by
  refine .same (.inr rfl) ?_
  simp [disconnect, Function.comp_def]

end UserData

/-! ## The key that was created since -/

/-- The stream, and the key that a task created since the last socket was opened. -/
structure Watched where
  stream : UserData
  created : Option String

namespace Watched

def new : Watched := ⟨.new, none⟩

def step (w : Watched) (e : KeyEvent) : Watched where
  stream := w.stream.step e
  created :=
    match e with
    | .created (.ok key) _ => if w.stream.creating = 0 then w.created else some key
    | _ => if (w.stream.step e).sockets.length = w.stream.sockets.length then w.created else none

/-- A keep-alive names the key of every open socket, and a socket was opened with it last. -/
def InUse (w : Watched) : KeyEvent → Prop
  | .keepAlive _ => ∀ key, w.stream.names = some key →
    (∀ socket ∈ w.stream.sockets, socket.isOpen = true → socket.key = key) ∧
      w.stream.lastKey = some key
  | _ => True

/-- When a keep-alive is sent: no other key was created since the last socket was opened, and no
socket with another key is left. -/
def Current (w : Watched) : KeyEvent → Prop
  | .keepAlive _ => w.stream.names ≠ none →
    (∀ key, w.created = some key → w.stream.lastKey = some key) ∧
      ∀ socket ∈ w.stream.sockets, socket.isOpen = true → w.stream.lastKey = some socket.key
  | _ => True

/-- The stored key is the one that was created last, or else the one of the last socket. -/
def Stored (w : Watched) : Prop :=
  ∀ key, w.stream.listenKey = some key → w.created.or w.stream.lastKey = some key

theorem inUse_iff {w : Watched} (h : Stored w) (e : KeyEvent) : InUse w e ↔ Current w e := by
  cases e with
  | keepAlive ok =>
    unfold InUse Current
    cases hnames : w.stream.names with
    | none => simp
    | some key =>
      have hkey : w.stream.listenKey = some key := by
        unfold UserData.names at hnames
        split at hnames
        · exact hnames
        · cases hnames
      have hstored := h key hkey
      constructor
      · intro hin _
        obtain ⟨hopen, hlast⟩ := hin key rfl
        refine ⟨fun created hcreated => ?_, fun socket hsocket hisOpen => ?_⟩
        · rw [hcreated] at hstored
          obtain rfl := Option.some.inj hstored
          exact hlast
        · rw [hopen socket hsocket hisOpen, hlast]
      · rintro hcurrent key' ⟨⟩
        obtain ⟨hcreated, hopen⟩ := hcurrent (by simp)
        have hlast : w.stream.lastKey = some key := by
          cases hc : w.created with
          | none => rwa [hc, Option.none_or] at hstored
          | some created =>
            rw [hc] at hstored
            obtain rfl := Option.some.inj hstored
            exact hcreated _ hc
        refine ⟨fun socket hsocket hisOpen => ?_, hlast⟩
        exact Option.some.inj ((hopen socket hsocket hisOpen).symm.trans hlast)
  | _ => exact Iff.rfl

/-- A step that opens a socket, or does not touch the keys. -/
theorem Stored.opening {w : Watched} (h : Stored w) {s' : UserData}
    (hs : UserData.Opening w.stream s') {created : Option String}
    (hcreated : created =
      if s'.sockets.length = w.stream.sockets.length then w.created else none) :
    Stored ⟨s', created⟩ := by
  subst hcreated
  intro key hkey
  dsimp only at hkey ⊢
  cases hs with
  | opened key' isOpen hkey' hsockets =>
    obtain rfl := Option.some.inj (hkey'.symm.trans hkey)
    simp [UserData.lastKey, hsockets]
  | same hkey' hkeys =>
    have hlength : s'.sockets.length = w.stream.sockets.length := by
      simpa using congrArg List.length hkeys
    rw [if_pos hlength, UserData.lastKey, hkeys]
    rcases hkey' with hkey' | hkey'
    · exact h key (hkey'.symm.trans hkey)
    · cases hkey'.symm.trans hkey

theorem Stored.step {w : Watched} (h : Stored w) (e : KeyEvent) : Stored (w.step e) := by
  cases e with
  | connect credentials marketOk created socketOk now =>
    exact h.opening (UserData.opening_connect ..) rfl
  | reconnect marketOk created socketOk now =>
    exact h.opening (UserData.opening_reconnect ..) rfl
  | keepAlive ok => exact h.opening (UserData.opening_keepAlive ..) rfl
  | created answer now =>
    cases answer with
    | error e => exact h.opening (UserData.opening_keyCreated _ _ _ (.inr rfl)) rfl
    | ok key =>
      by_cases hcreating : w.stream.creating = 0
      · have hsame : w.step (.created (.ok key) now) = w := by
          simp [Watched.step, UserData.step, UserData.keyCreated, hcreating]
        rw [hsame]
        exact h
      · intro key' hkey'
        simp only [Watched.step, UserData.step, UserData.keyCreated, hcreating, if_false] at hkey' ⊢
        exact hkey'
  | closed i => exact h.opening (UserData.opening_closed ..) rfl
  | disconnect => exact h.opening (UserData.opening_disconnect _) rfl

theorem stored_exec (events : List KeyEvent) : Stored (Run.exec Watched.step .new events) :=
  Run.exec_inv_all (I := Stored) (fun _ e h => h.step e) (by rintro key ⟨⟩) events

end Watched

/-- In every history: each keep-alive names the key of every open socket, and a socket was opened
with that key last, exactly if whenever one is sent no other key was created since the last socket
was opened and no socket with another key is left. -/
theorem key_in_use_iff (events : List KeyEvent) :
    (∀ before e after, events = before ++ e :: after →
      (Run.exec Watched.step .new before).InUse e) ↔
    ∀ before e after, events = before ++ e :: after →
      (Run.exec Watched.step .new before).Current e :=
  forall₄_congr fun before e _ _ => Watched.inUse_iff (Watched.stored_exec before) e

/-- A keep-alive fails, and a new key is created. -/
def keyReplaced : List KeyEvent :=
  [.connect true true (.ok "key-1") true 0, .keepAlive false, .created (.ok "key-2") 1]

/-- The next keep-alive names the new key, while the socket with the old one is open. -/
theorem keyReplaced_names_other :
    (Run.exec Watched.step .new keyReplaced).stream.names = some "key-2" ∧
      (Run.exec Watched.step .new keyReplaced).stream.sockets = [⟨"key-1", true⟩] ∧
      (Run.exec Watched.step .new
        [.connect true true (.ok "key-1") true 0,
          .reconnect true (.ok "key-2") true 1]).stream.names = some "key-2" ∧
      (Run.exec Watched.step .new
        [.connect true true (.ok "key-1") true 0,
          .reconnect true (.ok "key-2") true 1]).stream.sockets =
        [⟨"key-1", true⟩, ⟨"key-2", true⟩] := by
  decide +kernel

end Gateway.Binance
