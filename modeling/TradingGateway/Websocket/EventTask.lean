import TradingGateway.OrderQuery
import TradingGateway.Subscription.Filter
import TradingGateway.Websocket.Registry

/-!
# What the event task keeps between events

The provider event task (`crates/core/src/websocket/registry.rs`) looks into two tables while it
relays events: the correlation ids (`crates/core/src/correlation.rs`) that the submit route stores,
and the stale instruments (`crates/core/src/websocket/staleness.rs`).

* `correlation_id_iff`: which events go out with a correlation id. An event before the submission
  has stored the id has none, and an id that is stored after the last event stays.
* `fresh_notice_iff`: which ticks are announced as the end of an outage, and since when.
-/

namespace Gateway.Registry

variable {β γ : Type} (c : Ctx β γ)

/-! ## Correlation ids -/

/-- What touches the correlation ids: the registry, and a submission that stores the id of its
order (`submit_order`). -/
inductive Traffic where
  | registry (action : Action)
  | stored (orderId correlationId : String)
  deriving DecidableEq, Repr

def traffic (w : World β γ) : Traffic → World β γ
  | .registry action => step c w action
  | .stored orderId correlationId =>
    { w with correlations := w.correlations.insert orderId correlationId }

/-- The last event of the order. -/
def settles (orderId : String) : WsMessage → Bool
  | .order event order _ => order.id = orderId ∧ endsCorrelation event
  | _ => false

/-- The correlation id of the order is written, or removed with its last event. -/
def Traffic.writes (orderId : String) : Traffic → Option (Option String)
  | .stored id correlationId => if id = orderId then some (some correlationId) else none
  | .registry (.streamEvent event _ _) => if settles orderId event then some none else none
  | .registry _ => none

theorem correlations_enrich (tracked : Option String) (event : WsMessage)
    (correlations : Table String String) (id : String) :
    (enrich tracked event correlations).2.get id =
      (if settles id event then some none else none).getD (correlations.get id) := by
  cases event with
  | order event order parent =>
    grind [enrich, settles, Table.get_remove]
  | _ => rfl

theorem correlations_traffic (id : String) (w : World β γ) (t : Traffic) :
    (traffic c w t).correlations.get id = (t.writes id).getD (w.correlations.get id) := by
  cases t with
  | stored orderId correlationId =>
    rw [traffic, Table.get_insert, Traffic.writes]
    grind
  | registry action =>
    cases action with
    | streamEvent event engineEventId fresh => exact correlations_enrich ..
    | synthesis =>
      rw [traffic, step, synthesisRound]
      split <;> rfl
    | _ => rfl

/-- For every interleaving of submissions with the registry's tasks: an order event goes out with a
correlation id exactly if a submission stored this id for its order, or it was there before, and
since then neither the last event of the order came nor another submission stored an id for it. -/
theorem correlation_id_iff (w₀ : World β γ) (traffics : List Traffic) (event : OrderEventType)
    (order : Order) (parentOrderId engineEventId : Option String) (fresh : Option WsMessage) :
    let w := Run.exec (traffic c) w₀ traffics
    let manager := fresh.elim w.manager w.manager.broadcast
    ∃ parent correlationId,
      let sent := .order event { order with correlationId, parentOrderId := parent } parent
      (handleStreamEvent c (.order event order parentOrderId) engineEventId fresh w).manager =
        (if c.wanted sent then deliver w.connectedStrategies sent engineEventId manager
          else manager) ∧
      ∀ id, correlationId = some id ↔
        (∃ earlier later, traffics = earlier ++ .stored order.id id :: later ∧
          ∀ t ∈ later, t.writes order.id = none) ∨
          w₀.correlations.get order.id = some id ∧ ∀ t ∈ traffics, t.writes order.id = none := by
  intro w manager
  refine ⟨_, w.correlations.get order.id, by cases fresh <;> rfl, fun id => ?_⟩
  refine (Run.get_exec_eq_some_iff (fun w : World β γ => w.correlations.get order.id)
    (correlations_traffic c order.id) w₀ traffics id).trans (or_congr_left ⟨?_, ?_⟩)
  · rintro ⟨earlier, t, later, heq, ht, hlater⟩
    obtain rfl : t = .stored order.id id := by
      unfold Traffic.writes at ht
      split at ht <;> simp_all
    exact ⟨earlier, later, heq, hlater⟩
  · rintro ⟨earlier, later, heq, hlater⟩
    exact ⟨earlier, _, later, heq, if_pos rfl, hlater⟩

/-! ## Stale instruments -/

/-- The stale instruments, with the time since when. -/
structure StalenessTracker where
  staleInstruments : Table String DateTime

namespace StalenessTracker

def markAllStale (t : StalenessTracker) (symbols : List String) (now : DateTime) :
    StalenessTracker :=
  ⟨symbols.foldl (fun table symbol => table.insert symbol now) t.staleInstruments⟩

def markFresh (t : StalenessTracker) (symbol : String) : Option DateTime × StalenessTracker :=
  (t.staleInstruments.get symbol, ⟨t.staleInstruments.remove symbol⟩)

end StalenessTracker

/-- The symbol of a tick. -/
def tickSymbol : Subscription.FilterMessage → Option String
  | .candle symbol _ | .quoteData symbol | .trade symbol => some symbol
  | _ => none

/-- Clear the staleness of the instrument of a candle, quote or trade. -/
def maybeClearStaleness (event : Subscription.FilterMessage) (t : StalenessTracker) :
    Option (String × DateTime) × StalenessTracker :=
  match tickSymbol event with
  | none => (none, t)
  | some symbol => ((t.markFresh symbol).1.map (symbol, ·), (t.markFresh symbol).2)

/-- The stream closes, or has an event. -/
inductive StreamStep where
  | closed (symbols : List String) (now : DateTime)
  | relayed (event : Subscription.FilterMessage)

def track (t : StalenessTracker) : StreamStep → StalenessTracker
  | .closed symbols now => t.markAllStale symbols now
  | .relayed event => (maybeClearStaleness event t).2

def StreamStep.marks (symbol : String) : StreamStep → Option (Option DateTime)
  | .closed symbols now => if symbol ∈ symbols then some (some now) else none
  | .relayed event => if tickSymbol event = some symbol then some none else none

theorem get_track (symbol : String) (t : StalenessTracker) (s : StreamStep) :
    (track t s).staleInstruments.get symbol =
      (s.marks symbol).getD (t.staleInstruments.get symbol) := by
  cases s with
  | closed symbols now =>
    obtain ⟨table⟩ := t
    simp only [track, StreamStep.marks, StalenessTracker.markAllStale]
    induction symbols generalizing table with
    | nil => rfl
    | cons s symbols ih =>
      rw [List.foldl_cons, ih, Table.get_insert]
      grind
  | relayed event =>
    simp only [track, maybeClearStaleness, StreamStep.marks]
    cases tickSymbol event with
    | none => rfl
    | some s =>
      grind [StalenessTracker.markFresh, Table.get_remove]

/-- For every sequence of events and outages: an event is announced as the end of an outage exactly
if it is the first one for its symbol since the stream closed, and the time is that of the last
close. -/
theorem fresh_notice_iff (steps : List StreamStep) (event : Subscription.FilterMessage)
    (symbol : String) (since : DateTime) :
    (maybeClearStaleness event (Run.exec track ⟨∅⟩ steps)).1 =
        some (symbol, since) ↔
      tickSymbol event = some symbol ∧
        ∃ earlier symbols later, steps = earlier ++ .closed symbols since :: later ∧
          symbol ∈ symbols ∧ ∀ s ∈ later, s.marks symbol = none := by
  have hnotice : (maybeClearStaleness event (Run.exec track ⟨∅⟩ steps)).1 =
      some (symbol, since) ↔ tickSymbol event = some symbol ∧
        (Run.exec track ⟨∅⟩ steps).staleInstruments.get symbol = some since := by
    unfold maybeClearStaleness
    cases tickSymbol event with
    | none => simp
    | some s => grind [StalenessTracker.markFresh, Option.map_eq_some_iff]
  have hlast := Run.get_exec_eq_some_iff
    (fun t : StalenessTracker => t.staleInstruments.get symbol) (get_track symbol) ⟨∅⟩
    steps since
  rw [hnotice, hlast]
  refine and_congr_right fun _ => ⟨?_, ?_⟩
  · rintro (⟨earlier, s, later, heq, hs, hlater⟩ | ⟨h, -⟩)
    · cases s with
      | closed symbols now =>
        simp only [StreamStep.marks, Option.ite_none_right_eq_some, Option.some.injEq] at hs
        obtain ⟨hmem, rfl⟩ := hs
        exact ⟨earlier, symbols, later, heq, hmem, hlater⟩
      | relayed event => simp [StreamStep.marks] at hs
    · cases h
  · rintro ⟨earlier, symbols, later, heq, hmem, hlater⟩
    exact .inl ⟨earlier, _, later, heq, if_pos hmem, hlater⟩

end Gateway.Registry
