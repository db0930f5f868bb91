import TradingGateway.Error
import TradingGateway.Lib.Run
import TradingGateway.Lib.Table

/-!
# The price feed of the trailing stops (`crates/core/src/trailing_stop/ws_price_source.rs`)

The provider's event task hands each quote to the price source, which keeps the latest price of
every symbol and sends the quote on the symbol's broadcast channel. A subscription has a bridge task
between that channel and its reader. A send that finds no receiver is followed by the removal of the
channel, and other tasks may run between the two.

* `Feed`, `Action`, `step`: the price source and its subscriptions. One task hands over the quotes,
  so the next one comes after the removal.
* `updates_in_order`: what a reader is given are quotes of its symbol since it subscribed, in their
  order and none twice.
* `readers_served_iff`: no reader is cut off along a run exactly if none subscribes between a send
  without receivers and the removal of the channel, and is still there at the removal.
-/

namespace Gateway.Trailing

open scoped List

/-- A quote, as the trailing stops see it. -/
structure PriceUpdate where
  symbol : String
  price : Decimal
  timestampMs : ℕ
  deriving DecidableEq, Repr

structure WebSocketPriceSource where
  /-- The broadcast channel of each symbol, by its number. -/
  channels : Table String ℕ
  latestPrices : Table String (Decimal × ℕ)
  channelCapacity : ℕ

def WebSocketPriceSource.currentPrice (source : WebSocketPriceSource) (symbol : String) :
    Except GatewayError Decimal :=
  match source.latestPrices.get symbol with
  | some entry => .ok entry.1
  | none => .error (.symbolNotFound symbol)

def bridgeChannelCapacity : ℕ := 64

/-- One subscription: the bridge task with its receiver of the broadcast channel, and the channel
from there to the reader. -/
structure Subscriber where
  symbol : String
  channel : ℕ
  /-- What was sent and the receiver has not got yet. -/
  unread : List PriceUpdate := []
  bridging : Bool := true
  queue : List PriceUpdate := []
  /-- The reader still holds its end. -/
  reading : Bool := true
  /-- History: the number of quotes before it. -/
  quotesBefore : ℕ
  /-- History: what the reader took, and how many updates the bridge did not pass on. -/
  received : List PriceUpdate := []
  missed : ℕ := 0
  deriving DecidableEq, Repr

namespace Subscriber

def receives (sub : Subscriber) (symbol : String) (channel : ℕ) : Bool :=
  sub.symbol = symbol ∧ sub.channel = channel ∧ sub.bridging

def send (channel : ℕ) (update : PriceUpdate) (sub : Subscriber) : Subscriber :=
  if sub.receives update.symbol channel then { sub with unread := sub.unread ++ [update] } else sub

/-- A round of `bridge_broadcast_to_mpsc`. -/
def bridge (source : WebSocketPriceSource) (sub : Subscriber) : Subscriber :=
  if !sub.bridging then sub
  else if source.channelCapacity < sub.unread.length then
    -- lagged: the channel holds the last updates only
    let lost := sub.unread.length - source.channelCapacity
    { sub with unread := sub.unread.drop lost, missed := sub.missed + lost }
  else
    match sub.unread with
    | update :: unread =>
      if !sub.reading then { sub with unread, bridging := false, missed := sub.missed + 1 }
      else if sub.queue.length < bridgeChannelCapacity then
        { sub with unread, queue := sub.queue ++ [update] }
      else { sub with unread, missed := sub.missed + 1 }
    | [] =>
      -- closed, once the table has dropped the sender
      if source.channels.get sub.symbol = some sub.channel then sub
      else { sub with bridging := false }

/-- The reader takes an update. -/
def read (sub : Subscriber) : Subscriber :=
  match sub.reading, sub.queue with
  | true, update :: queue => { sub with queue, received := sub.received ++ [update] }
  | _, _ => sub

/-- The reader drops its end. -/
def leave (sub : Subscriber) : Subscriber := { sub with reading := false }

end Subscriber

structure Feed where
  source : WebSocketPriceSource
  /-- The number of the next new channel. -/
  created : ℕ
  /-- The symbol whose channel `handle_quote` is about to remove. -/
  cleanup : Option String
  subscribers : List Subscriber
  /-- History: all quotes. -/
  quotes : List PriceUpdate

namespace Feed

def new (channelCapacity : ℕ) : Feed := ⟨⟨∅, ∅, channelCapacity⟩, 0, none, [], []⟩

/-- Keep the price of a quote. -/
def cachePrice (w : Feed) (update : PriceUpdate) : Feed :=
  { w with
    source.latestPrices :=
      w.source.latestPrices.insert update.symbol (update.price, update.timestampMs)
    quotes := w.quotes ++ [update] }

/-- `handle_quote` up to and with the send, which fails without receivers. -/
def handleQuote (w : Feed) (update : PriceUpdate) : Feed :=
  let w := w.cachePrice update
  match w.source.channels.get update.symbol with
  | none => w
  | some channel =>
    { w with
      subscribers := w.subscribers.map (.send channel update)
      cleanup :=
        if w.subscribers.any (·.receives update.symbol channel) then none
        else some update.symbol }

/-- `handle_quote` after a send without receivers. -/
def removeChannel (w : Feed) (symbol : String) : Feed :=
  { w with source.channels := w.source.channels.remove symbol, cleanup := none }

/-- Subscribe to the channel of a symbol, a new one if it has none. -/
def subscribe (w : Feed) (symbol : String) : Feed :=
  let channel := (w.source.channels.get symbol).getD w.created
  { w with
    source.channels := w.source.channels.insert symbol channel
    created := w.created + 1
    subscribers := w.subscribers ++ [{ symbol, channel, quotesBefore := w.quotes.length }] }

inductive Action where
  | quote (update : PriceUpdate)
  | cleanup
  | subscribe (symbol : String)
  | bridge (id : ℕ)
  | read (id : ℕ)
  | leave (id : ℕ)
  deriving DecidableEq, Repr

def step (w : Feed) : Action → Feed
  | .quote update => if w.cleanup.isNone then w.handleQuote update else w
  | .cleanup =>
    match w.cleanup with
    | some symbol => w.removeChannel symbol
    | none => w
  | .subscribe symbol => w.subscribe symbol
  | .bridge id => { w with subscribers := w.subscribers.modify id (.bridge w.source) }
  | .read id => { w with subscribers := w.subscribers.modify id .read }
  | .leave id => { w with subscribers := w.subscribers.modify id .leave }

/-! ## What a subscription is given -/

/-- The quotes that a subscription should see. -/
def quotesFor (w : Feed) (sub : Subscriber) : List PriceUpdate :=
  (w.quotes.drop sub.quotesBefore).filter fun update => update.symbol = sub.symbol

/-- What a reader relies on: its bridge task runs, the table has its channel, and each quote for it
was received, is on its way, or is one that the bridge could not pass on. -/
structure Served (w : Feed) (sub : Subscriber) : Prop where
  bridging : sub.bridging = true
  registered : w.source.channels.get sub.symbol = some sub.channel
  counted : (sub.received ++ sub.queue ++ sub.unread).length + sub.missed =
    (w.quotesFor sub).length

/-- What holds for every subscription, and for its reader along runs that are `good`. While a
channel is about to be removed, it has only readers that came after the last quote. -/
structure Kept (good : Prop) (w : Feed) (sub : Subscriber) : Prop where
  before_le : sub.quotesBefore ≤ w.quotes.length
  given : sub.received ++ sub.queue ++ sub.unread <+ w.quotesFor sub
  served : good → sub.reading = true → Served w sub
  late : good → sub.reading = true → w.cleanup = some sub.symbol →
    sub.quotesBefore = w.quotes.length

/-- No reader is left on a channel that is removed. -/
def LeavesNoReader (w : Feed) (action : Action) : Prop :=
  action = .cleanup → ∀ sub ∈ w.subscribers, w.cleanup = some sub.symbol →
    sub.quotesBefore = w.quotes.length → sub.reading = false

instance (w : Feed) (action : Action) : Decidable (LeavesNoReader w action) :=
  inferInstanceAs (Decidable (_ → _))

section Subscriptions

variable {good : Prop} {w : Feed} {sub : Subscriber}

/-- Only the table and the pending removal matter, while no quote comes. -/
theorem Kept.of_quotes_eq {w' : Feed} (h : Kept good w sub) (hquotes : w'.quotes = w.quotes)
    (hchannels : good → sub.reading = true → w.source.channels.get sub.symbol = some sub.channel →
      w'.source.channels.get sub.symbol = some sub.channel)
    (hcleanup : w'.cleanup = none ∨ w'.cleanup = w.cleanup) : Kept good w' sub := by
  have hfor : w'.quotesFor sub = w.quotesFor sub := by rw [quotesFor, hquotes, quotesFor]
  refine ⟨hquotes ▸ h.before_le, hfor ▸ h.given, fun hg hr => ?_, fun hg hr hc => ?_⟩
  · have hserved := h.served hg hr
    exact ⟨hserved.bridging, hchannels hg hr hserved.registered, hfor ▸ hserved.counted⟩
  · rw [hquotes]
    obtain hnone | hsame := hcleanup
    · exact absurd (hnone.symm.trans hc) nofun
    · exact h.late hg hr (hsame ▸ hc)

section Quote

variable {w' : Feed} {update : PriceUpdate} (hquotes : w'.quotes = w.quotes ++ [update])
  (hchannels : w'.source.channels = w.source.channels)

include hquotes

theorem quotesFor_append (h : sub.quotesBefore ≤ w.quotes.length) :
    w'.quotesFor sub =
      w.quotesFor sub ++ if update.symbol = sub.symbol then [update] else [] := by
  simp [quotesFor, hquotes, List.drop_append_of_le_length h, List.filter_cons]

include hchannels

/-- A quote that the subscription is not sent: it has no reader, or another symbol. -/
theorem Kept.mute (h : Kept good w sub)
    (hcleanup : w'.cleanup = none ∨ w'.cleanup = some update.symbol)
    (hother : good → sub.reading = true → update.symbol ≠ sub.symbol) : Kept good w' sub := by
  have hfor := quotesFor_append hquotes h.before_le
  refine ⟨h.before_le.trans (by simp [hquotes]), ?_, fun hg hr => ?_, fun hg hr hc => ?_⟩
  · exact hfor ▸ h.given.trans (List.sublist_append_left ..)
  · have hserved := h.served hg hr
    rw [if_neg (hother hg hr), List.append_nil] at hfor
    exact ⟨hserved.bridging, hchannels ▸ hserved.registered, hfor ▸ hserved.counted⟩
  · obtain hnone | hsome := hcleanup
    · exact absurd (hnone.symm.trans hc) nofun
    · exact absurd (Option.some.inj (hsome.symm.trans hc)) (hother hg hr)

theorem Kept.hear (h : Kept good w sub) (hcleanup : w'.cleanup = none)
    (hsymbol : update.symbol = sub.symbol) :
    Kept good w' { sub with unread := sub.unread ++ [update] } := by
  have hfor := quotesFor_append hquotes h.before_le
  rw [if_pos hsymbol] at hfor
  refine ⟨h.before_le.trans (by simp [hquotes]), ?_, fun hg hr => ?_, fun _ _ hc => ?_⟩
  · change _ <+ w'.quotesFor sub
    rw [hfor, ← List.append_assoc]
    exact h.given.append (.refl _)
  · have hserved := h.served hg hr
    refine ⟨hserved.bridging, hchannels ▸ hserved.registered, ?_⟩
    change _ = (w'.quotesFor sub).length
    have hcounted := hserved.counted
    grind
  · exact absurd (hcleanup.symm.trans hc) nofun

end Quote

theorem Kept.bridge (h : Kept good w sub) : Kept good w (sub.bridge w.source) := by
  unfold Subscriber.bridge
  -- in every case the queue and what is unread lose some updates, and these are counted
  have hpass {queue unread : List PriceUpdate} {missed : ℕ} {bridging : Bool}
      (hle : queue ++ unread <+ sub.queue ++ sub.unread)
      (hcount : (queue ++ unread).length + missed = (sub.queue ++ sub.unread).length + sub.missed)
      (hbridging : good → sub.reading = true → bridging = true) :
      Kept good w { sub with queue, unread, missed, bridging } := by
    refine ⟨h.before_le, ?_, fun hg hr => ?_, h.late⟩
    · have hgiven := h.given
      rw [List.append_assoc] at hgiven ⊢
      exact (hle.append_left _).trans hgiven
    · have hserved := h.served hg hr
      refine ⟨hbridging hg hr, hserved.registered, ?_⟩
      have hcounted := hserved.counted
      change _ = (w.quotesFor sub).length
      grind
  have hruns (hg : good) (hr : sub.reading = true) := (h.served hg hr).bridging
  split
  · exact h
  split
  · exact hpass ((List.drop_sublist ..).append_left _) (by grind) hruns
  split
  · rename_i update unread hunread
    have hdrop : sub.queue ++ unread <+ sub.queue ++ sub.unread :=
      hunread ▸ (List.sublist_cons_self ..).append_left _
    have hcount : (sub.queue ++ unread).length + (sub.missed + 1) =
        (sub.queue ++ sub.unread).length + sub.missed := by
      grind
    split
    · rename_i hgone
      exact hpass hdrop hcount fun _ hr => by simp [hr] at hgone
    split
    · exact hpass (by simp [hunread]) (by simp [hunread]) hruns
    · exact hpass hdrop hcount hruns
  · split
    · exact h
    · rename_i hclosed
      exact hpass (.refl _) rfl fun hg hr => absurd (h.served hg hr).registered hclosed

theorem Kept.read (h : Kept good w sub) : Kept good w sub.read := by
  unfold Subscriber.read
  split
  · rename_i update queue hreading hqueue
    have hsame : sub.received ++ [update] ++ queue = sub.received ++ sub.queue := by simp [hqueue]
    refine ⟨h.before_le, hsame ▸ h.given, fun hg hr => ?_, h.late⟩
    have hserved := h.served hg hr
    exact ⟨hserved.bridging, hserved.registered, hsame ▸ hserved.counted⟩
  · exact h

end Subscriptions

/-! ## Runs -/

theorem mem_modify {l : List Subscriber} {id : ℕ} {f : Subscriber → Subscriber} {sub : Subscriber}
    (h : sub ∈ l.modify id f) : sub ∈ l ∨ ∃ sub' ∈ l, sub = f sub' := by
  obtain ⟨i, hi⟩ := List.mem_iff_getElem?.mp h
  rw [List.getElem?_modify] at hi
  obtain ⟨sub', hsub', rfl⟩ := Option.map_eq_some_iff.mp hi
  have hmem := List.mem_of_getElem? hsub'
  by_cases hid : id = i
  · exact .inr ⟨sub', hmem, by simp [hid]⟩
  · exact .inl (by simpa [hid] using hmem)

section Steps

variable {good : Prop} {w : Feed}

theorem kept_handleQuote (h : ∀ sub ∈ w.subscribers, Kept good w sub) (hidle : w.cleanup = none)
    (update : PriceUpdate) :
    ∀ sub ∈ (w.handleQuote update).subscribers, Kept good (w.handleQuote update) sub := by
  cases hchannel : w.source.channels.get update.symbol with
  | none =>
    have heq : w.handleQuote update = w.cachePrice update := by
      simp [handleQuote, cachePrice, hchannel]
    rw [heq]
    refine fun sub hsub => .mute rfl rfl (h sub hsub) (.inl hidle) fun hg hr hsymbol => ?_
    have hregistered := ((h sub hsub).served hg hr).registered
    rw [← hsymbol, hchannel] at hregistered
    cases hregistered
  | some channel =>
    simp only [handleQuote, cachePrice, hchannel]
    intro sub' hsub'
    obtain ⟨sub, hsub, rfl⟩ := List.mem_map.mp hsub'
    by_cases hreceives : sub.receives update.symbol channel = true
    · have hany : w.subscribers.any (·.receives update.symbol channel) = true :=
        List.any_eq_true.mpr ⟨sub, hsub, hreceives⟩
      rw [Subscriber.send, if_pos hreceives]
      simp only [Subscriber.receives, decide_eq_true_eq] at hreceives
      exact .hear rfl rfl (h sub hsub) (if_pos hany) hreceives.1.symm
    · rw [Subscriber.send, if_neg hreceives]
      refine .mute rfl rfl (h sub hsub) (ite_eq_or_eq ..) fun hg hr hsymbol => ?_
      have hserved := (h sub hsub).served hg hr
      have hsame := hserved.registered
      rw [← hsymbol, hchannel, Option.some.injEq] at hsame
      simp [Subscriber.receives, hsymbol, hserved.bridging, hsame] at hreceives

theorem kept_subscribe (h : ∀ sub ∈ w.subscribers, Kept good w sub) (symbol : String) :
    ∀ sub ∈ (w.subscribe symbol).subscribers, Kept good (w.subscribe symbol) sub := by
  intro sub hsub
  obtain hsub | hsub := List.mem_append.mp hsub
  · refine (h sub hsub).of_quotes_eq rfl (fun _ _ hchannel => ?_) (.inr rfl)
    rw [subscribe, Table.get_insert]
    split
    · rename_i hsymbol
      rw [← hsymbol, hchannel, Option.getD_some]
    · exact hchannel
  · obtain rfl := List.mem_singleton.mp hsub
    exact ⟨le_rfl, List.nil_sublist _,
      fun _ _ => ⟨rfl, Table.get_insert_self .., by simp [quotesFor, subscribe]⟩, fun _ _ _ => rfl⟩

theorem kept_step (h : ∀ sub ∈ w.subscribers, Kept good w sub) {action : Action}
    (hok : good → LeavesNoReader w action) :
    ∀ sub ∈ (step w action).subscribers, Kept good (step w action) sub := by
  -- the work of one subscription
  have hwork {id : ℕ} {f : Subscriber → Subscriber}
      (hf : ∀ sub, Kept good w sub → Kept good w (f sub)) :
      ∀ sub ∈ w.subscribers.modify id f,
        Kept good { w with subscribers := w.subscribers.modify id f } sub := by
    intro sub hsub
    have hkept : Kept good w sub := by
      obtain hsub | ⟨sub', hsub', rfl⟩ := mem_modify hsub
      · exact h sub hsub
      · exact hf sub' (h sub' hsub')
    exact hkept.of_quotes_eq rfl (fun _ _ h => h) (.inr rfl)
  cases action with
  | quote update =>
    rw [step]
    split
    · exact kept_handleQuote h (Option.isNone_iff_eq_none.mp ‹_›) update
    · exact h
  | cleanup =>
    rw [step]
    split
    · rename_i symbol hsymbol
      refine fun sub hsub => (h sub hsub).of_quotes_eq rfl (fun hg hr hchannel => ?_) (.inl rfl)
      have hother : sub.symbol ≠ symbol := by
        rintro rfl
        have := hok hg rfl sub hsub hsymbol ((h sub hsub).late hg hr hsymbol)
        exact absurd (hr.symm.trans this) nofun
      rw [removeChannel, Table.get_remove, if_neg hother, hchannel]
    · exact h
  | subscribe symbol => exact kept_subscribe h symbol
  | bridge id => exact hwork fun _ => Kept.bridge
  | read id => exact hwork fun _ => Kept.read
  | leave id => exact hwork fun _ h => ⟨h.before_le, h.given, nofun, nofun⟩

end Steps

/-- For every order of the steps: what a reader was given and will still be given are quotes of its
symbol since it subscribed, in their order and each once. -/
theorem updates_in_order (channelCapacity : ℕ) (actions : List Action) :
    ∀ sub ∈ (Run.exec step (new channelCapacity) actions).subscribers,
      sub.received ++ sub.queue ++ sub.unread <+
        (Run.exec step (new channelCapacity) actions).quotesFor sub := by
  intro sub hsub
  have hkept : Kept False _ sub := Run.exec_inv_all
    (I := fun w => ∀ sub ∈ w.subscribers, Kept False w sub)
    (fun _ _ h => kept_step h False.elim) (List.forall_mem_nil _) actions sub hsub
  exact hkept.given

theorem updates_in_order_read :
    ∃ w sub, w = Run.exec step (new 1)
        [.subscribe "EURUSD", .quote ⟨"EURUSD", 1, 0⟩, .quote ⟨"EURUSD", 2, 1⟩, .bridge 0,
          .bridge 0, .read 0] ∧
      sub ∈ w.subscribers ∧ sub.received = [⟨"EURUSD", 2, 1⟩] ∧
        sub.received ++ sub.queue ++ sub.unread <+ w.quotesFor sub :=
  ⟨_, _, rfl, .head _, rfl, updates_in_order 1 _ _ (.head _)⟩

/-- For every order of the steps: every reader is served all along, exactly if no channel is removed
with a reader that subscribed since the send that found no receiver. -/
theorem readers_served_iff (channelCapacity : ℕ) (actions : List Action) :
    (∀ actions', actions' <+: actions →
        ∀ sub ∈ (Run.exec step (new channelCapacity) actions').subscribers, sub.reading = true →
          Served (Run.exec step (new channelCapacity) actions') sub) ↔
      Run.Guarded step LeavesNoReader (new channelCapacity) actions := by
  refine Run.forall_prefix_iff_guarded_all (I := fun w => ∀ sub ∈ w.subscribers, Kept True w sub)
    (P := fun w => ∀ sub ∈ w.subscribers, sub.reading = true → Served w sub)
    (fun _ h sub hsub => (h sub hsub).served trivial) (fun _ _ h hok => kept_step h fun _ => hok)
    (fun w action h hbad hserved => ?_) (List.forall_mem_nil _) actions
  simp only [LeavesNoReader, not_forall] at hbad
  obtain ⟨rfl, sub, hsub, hcleanup, -, hreading⟩ := hbad
  have hstep : step w .cleanup = w.removeChannel sub.symbol := by rw [step, hcleanup]
  rw [hstep] at hserved
  have hgone := (hserved sub hsub (Bool.not_eq_false _ ▸ hreading)).registered
  simp [removeChannel] at hgone

/-- The second reader comes after the send that found the first one gone. -/
example :
    ¬ Run.Guarded step LeavesNoReader (new 128)
      [.subscribe "EURUSD", .leave 0, .quote ⟨"EURUSD", 1, 0⟩, .bridge 0, .quote ⟨"EURUSD", 1, 1⟩,
        .subscribe "EURUSD", .cleanup] := by
  decide +kernel

end Feed

end Gateway.Trailing
