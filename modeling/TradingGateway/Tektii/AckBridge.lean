import Mathlib.Data.List.Induction
import Mathlib.Data.List.Nodup
import TradingGateway.Lib.Run

/-!
# The acknowledgement bridge (`crates/tektii/src/ack_bridge.rs`)

The engine waits until each event it emitted has been delivered to the strategy and acknowledged by
it. The bridge queues the events and sends to the engine the ids that met both. Each operation is
atomic under the state lock. Logging and the closed channel are left out; so is `immediate_ack`,
which does not touch the queue.

* `Part`: an operation with a list of ids as a sequence of single ids. `seen` says of a history of
  parts whether an event was delivered, or acknowledged, after its registration.
* `bridge_releases_exactly`: the result, for every sequence of operations.
-/

namespace Gateway.Tektii

/-! ## The bridge -/

/-- One engine event that awaits its acknowledgement. -/
structure PendingEvent where
  id : String
  /-- Delivered to the strategy. -/
  sent : Bool
  /-- Acknowledged before its delivery was confirmed. -/
  acked : Bool
  deriving DecidableEq, Repr

structure AckBridge where
  /-- The pending events, in the order of registration. -/
  queue : List PendingEvent
  /-- What was sent on the engine channel, oldest first. -/
  engineAcks : List (List String)
  deriving DecidableEq, Repr

/-- Visit the first event with this id: `f` changes it, or releases it (`none`). -/
def visit (id : String) (f : PendingEvent → Option PendingEvent) :
    List PendingEvent → List PendingEvent × List String
  | [] => ([], [])
  | event :: queue =>
    if event.id = id then
      match f event with
      | some event' => (event' :: queue, [])
      | none => (queue, [event.id])
    else
      let (queue', released) := visit id f queue
      (event :: queue', released)

/-- The loop over the ids of a call. -/
def visitAll (f : PendingEvent → Option PendingEvent) :
    List String → List PendingEvent → List PendingEvent × List String
  | [], queue => (queue, [])
  | id :: ids, queue =>
    let (queue', released) := visit id f queue
    let (queue'', more) := visitAll f ids queue'
    (queue'', released ++ more)

/-- Delivery is confirmed; an event that was acknowledged before is released. -/
def confirmDelivery (event : PendingEvent) : Option PendingEvent :=
  if event.acked then none else some { event with sent := true }

/-- A delivered event is released; one in flight is remembered as acknowledged. -/
def acknowledge (event : PendingEvent) : Option PendingEvent :=
  if event.sent then none else some { event with acked := true }

namespace AckBridge

def new : AckBridge := ⟨[], []⟩

def registerPending (b : AckBridge) (eventId : String) : AckBridge :=
  { b with queue := b.queue ++ [⟨eventId, false, false⟩] }

/-- Keep the queue and send the released ids, if there are any. -/
def forward (b : AckBridge) (r : List PendingEvent × List String) : AckBridge :=
  { queue := r.1
    engineAcks := if r.2.isEmpty then b.engineAcks else b.engineAcks ++ [r.2] }

def markSent (b : AckBridge) (eventIds : List String) : AckBridge :=
  if eventIds.isEmpty then b else b.forward (visitAll confirmDelivery eventIds b.queue)

def handleStrategyAck (b : AckBridge) (eventIds : List String) : AckBridge :=
  if eventIds.isEmpty then b else b.forward (visitAll acknowledge eventIds b.queue)

/-- The ids sent to the engine. -/
def released (b : AckBridge) : List String := b.engineAcks.flatten

end AckBridge

inductive BridgeOp where
  | registerPending (id : String)
  | markSent (ids : List String)
  | handleStrategyAck (ids : List String)
  deriving DecidableEq, Repr

def AckBridge.apply (b : AckBridge) : BridgeOp → AckBridge
  | .registerPending id => b.registerPending id
  | .markSent ids => b.markSent ids
  | .handleStrategyAck ids => b.handleStrategyAck ids

/-! ## Single ids -/

/-- The two things that release an event. -/
inductive Half where
  | delivered
  | acked
  deriving DecidableEq

def Half.other : Half → Half
  | delivered => acked
  | acked => delivered

/-- An operation on a single id. -/
inductive Part where
  | registered (id : String)
  | met (half : Half) (id : String)
  deriving DecidableEq

def BridgeOp.parts : BridgeOp → List Part
  | registerPending id => [.registered id]
  | markSent ids => ids.map (.met .delivered)
  | handleStrategyAck ids => ids.map (.met .acked)

def PendingEvent.flag (e : PendingEvent) : Half → Bool
  | .delivered => e.sent
  | .acked => e.acked

def PendingEvent.setFlag (e : PendingEvent) : Half → PendingEvent
  | .delivered => { e with sent := true }
  | .acked => { e with acked := true }

/-- `confirmDelivery` and `acknowledge` are one rule: the second half releases. -/
def meet (half : Half) (e : PendingEvent) : Option PendingEvent :=
  if e.flag half.other then none else some (e.setFlag half)

/-- The queue and the released ids after one part. -/
def partStep (s : List PendingEvent × List String) : Part → List PendingEvent × List String
  | .registered id => (s.1 ++ [⟨id, false, false⟩], s.2)
  | .met half id => ((visit id (meet half) s.1).1, s.2 ++ (visit id (meet half) s.1).2)

theorem visitAll_eq_exec (half : Half) (ids : List String) (queue : List PendingEvent)
    (released : List String) :
    Run.exec partStep (queue, released) (ids.map (.met half)) =
      ((visitAll (meet half) ids queue).1, released ++ (visitAll (meet half) ids queue).2) := by
  induction ids generalizing queue released with
  | nil => simp [visitAll]
  | cons id ids ih => simp [visitAll, partStep, ih]

variable (b : AckBridge) {h : List Part} {id x : String} {ops : List BridgeOp}

theorem released_forward (r : List PendingEvent × List String) :
    (b.forward r).released = b.released ++ r.2 := by
  unfold AckBridge.forward AckBridge.released
  cases h : r.2 with
  | nil => simp
  | cons id ids => simp

theorem apply_eq_exec (op : BridgeOp) :
    ((b.apply op).queue, (b.apply op).released) =
      Run.exec partStep (b.queue, b.released) op.parts := by
  have hforward : ∀ half ids,
      ((b.forward (visitAll (meet half) ids b.queue)).queue,
        (b.forward (visitAll (meet half) ids b.queue)).released) =
      Run.exec partStep (b.queue, b.released) (ids.map (.met half)) := by
    intro half ids
    rw [visitAll_eq_exec, released_forward]
    rfl
  cases op with
  | registerPending id => rfl
  | markSent ids =>
    cases ids with
    | nil => rfl
    | cons id ids => exact hforward .delivered (id :: ids)
  | handleStrategyAck ids =>
    cases ids with
    | nil => rfl
    | cons id ids => exact hforward .acked (id :: ids)

/-! ## What the history says -/

/-- The registered ids, in order. -/
def registrations : List Part → List String
  | [] => []
  | .registered id :: h => id :: registrations h
  | .met _ _ :: h => registrations h

/-- The half was met for the event after its registration. -/
def seen (half : Half) (id : String) : List Part → Bool
  | [] => false
  | part :: h => if part = .registered id then decide (.met half id ∈ h) else seen half id h

/-- The event as the history has it. -/
def eventOf (h : List Part) (id : String) : PendingEvent :=
  ⟨id, seen .delivered id h, seen .acked id h⟩

/-- The event has met both halves. -/
def metBoth (h : List Part) (id : String) : Bool := seen .delivered id h && seen .acked id h

/-- The registered events that have not met both halves. -/
def unreleased (h : List Part) : List String := (registrations h).filter fun id => !metBoth h id

@[simp] theorem registrations_append (h h' : List Part) :
    registrations (h ++ h') = registrations h ++ registrations h' := by
  induction h with
  | nil => rfl
  | cons part h ih => cases part <;> simp [registrations, ih]

theorem mem_registrations : id ∈ registrations h ↔ .registered id ∈ h := by
  induction h with
  | nil => simp [registrations]
  | cons part h ih => cases part <;> simp [registrations, ih]

theorem seen_append (half : Half) (id : String) (h : List Part) (part : Part) :
    seen half id (h ++ [part]) =
      (seen half id h || decide (part = .met half id ∧ id ∈ registrations h)) := by
  induction h with
  | nil => simp [seen, registrations]
  | cons p h ih =>
    by_cases hp : p = .registered id
    · subst hp
      simp [seen, registrations, eq_comm]
    · have hreg : id ∈ registrations (p :: h) ↔ id ∈ registrations h := by
        rw [mem_registrations, mem_registrations, List.mem_cons]
        exact or_iff_right fun h => hp h.symm
      simp [seen, hp, ih, hreg]

theorem registered_of_seen {half : Half} (hs : seen half id h = true) : id ∈ registrations h := by
  induction h with
  | nil => simp [seen] at hs
  | cons p h ih =>
    rw [mem_registrations]
    by_cases hp : p = .registered id
    · simp [hp]
    · rw [seen, if_neg hp] at hs
      exact List.mem_cons_of_mem _ (mem_registrations.mp (ih hs))

theorem seen_append_met (half half' : Half) (id x : String) (h : List Part) :
    seen half' id (h ++ [.met half x]) =
      (seen half' id h || decide (half' = half ∧ id = x ∧ x ∈ registrations h)) := by
  rw [seen_append]
  congr 1
  by_cases hh : half' = half
  · by_cases hid : id = x
    · simp [hh, hid]
    · simp [hid, Ne.symm hid]
  · simp [hh, Ne.symm hh]

theorem metBoth_eq (h : List Part) (id : String) (half : Half) :
    metBoth h id = (seen half id h && seen half.other id h) := by
  cases half with
  | delivered => rfl
  | acked => exact Bool.and_comm _ _

theorem mem_unreleased : id ∈ unreleased h ↔ id ∈ registrations h ∧ metBoth h id = false := by
  simp [unreleased]

/-- Meeting a half completes `x` if the other half was met, and no other event. -/
theorem metBoth_append_met (half : Half) (hx : x ∈ registrations h) (id : String) :
    metBoth (h ++ [.met half x]) id =
      (metBoth h id || decide (id = x ∧ seen half.other x h = true)) := by
  rw [metBoth_eq _ _ half, metBoth_eq _ _ half, seen_append_met, seen_append_met]
  have hne : half.other ≠ half := by cases half <;> simp [Half.other]
  by_cases hid : id = x
  · subst hid
    cases seen half id h <;> cases seen half.other id h <;> simp [hx, hne]
  · simp [hid]

/-! ## The bridge follows the history -/

/-- The queue and the released ids are what the history says. -/
structure Reflects (h : List Part) (s : List PendingEvent × List String) : Prop where
  queue : s.1 = (unreleased h).map (eventOf h)
  nodup : s.2.Nodup
  released : ∀ id, id ∈ s.2 ↔ metBoth h id = true

theorem visit_map {ev : String → PendingEvent} (hev : ∀ id, (ev id).id = id)
    (f : PendingEvent → Option PendingEvent) (x : String) {ids : List String} (hn : ids.Nodup) :
    visit x f (ids.map ev) =
      if x ∈ ids then
        match f (ev x) with
        | some e => (ids.map (Function.update ev x e), [])
        | none => ((ids.filter (· ≠ x)).map ev, [x])
      else (ids.map ev, []) := by
  induction ids with
  | nil => rfl
  | cons id ids ih =>
    obtain ⟨hid, hn'⟩ := List.nodup_cons.mp hn
    by_cases hx : id = x
    · subst hx
      have hne : ∀ y ∈ ids, y ≠ id := fun y hy heq => hid (heq ▸ hy)
      have hmap : ∀ e, ids.map (Function.update ev id e) = ids.map ev := fun e =>
        List.map_congr_left fun y hy => Function.update_of_ne (hne y hy) _ _
      have hfilter : ids.filter (· ≠ id) = ids :=
        List.filter_eq_self.mpr fun y hy => by simpa using hne y hy
      simp only [List.map_cons, visit, hev, if_true, List.mem_cons, true_or, Function.update_self]
      cases f (ev id) with
      | none =>
        rw [List.filter_cons_of_neg (by simp), hfilter]
      | some e => simp [hmap]
    · have hmem : x ∈ id :: ids ↔ x ∈ ids := by simp [Ne.symm hx]
      simp only [List.map_cons, visit, hev, hx, if_false, hmem, ih hn']
      by_cases hin : x ∈ ids
      · simp only [hin, if_true]
        cases f (ev x) with
        | none => simp [hx]
        | some e => simp [Function.update_of_ne hx]
      · simp [hin]

theorem Reflects.registered {s : List PendingEvent × List String} (hr : Reflects h s)
    (hx : x ∉ registrations h) :
    Reflects (h ++ [.registered x]) (partStep s (.registered x)) := by
  have hseen : ∀ half id, seen half id (h ++ [.registered x]) = seen half id h := fun half id => by
    simp [seen_append]
  have hnew : ∀ half, seen half x h = false := fun half => by
    by_contra hs
    exact hx (registered_of_seen (by simpa using hs))
  have hevent : eventOf (h ++ [.registered x]) = eventOf h := by
    funext id
    simp only [eventOf, hseen]
  have hboth : metBoth (h ++ [.registered x]) = metBoth h := by
    funext id
    simp only [metBoth, hseen]
  have hun : unreleased (h ++ [.registered x]) = unreleased h ++ [x] := by
    have hx' : metBoth h x = false := by simp [metBoth, hnew]
    simp [unreleased, hboth, registrations, hx']
  refine ⟨?_, hr.nodup, fun id => by rw [hboth]; exact hr.released id⟩
  rw [hun, hevent]
  simp [partStep, hr.queue, eventOf, hnew]

theorem eventOf_flag (h : List Part) (id : String) (half : Half) :
    (eventOf h id).flag half = seen half id h := by
  cases half <;> rfl

/-- The flags after a half was met for `x`: only the event `x` changes. -/
theorem eventOf_append_met (half : Half) (hx : x ∈ registrations h) :
    eventOf (h ++ [.met half x]) = Function.update (eventOf h) x ((eventOf h x).setFlag half) := by
  funext id
  by_cases hid : id = x
  · subst hid
    cases half <;> simp [eventOf, seen_append_met, hx, PendingEvent.setFlag]
  · rw [Function.update_of_ne hid]
    simp [eventOf, seen_append_met, hid]

section met

variable {h : List Part} {s : List PendingEvent × List String} {half : Half} {x : String}

/-- The second half is met: `x` leaves the queue and is sent to the engine. -/
theorem Reflects.met_second (hr : Reflects h s) (hx : x ∈ unreleased h)
    (hflag : seen half.other x h = true)
    (hvisit : visit x (meet half) s.1 = (((unreleased h).filter (· ≠ x)).map (eventOf h), [x])) :
    Reflects (h ++ [.met half x]) (partStep s (.met half x)) := by
  obtain ⟨hxr, hnot⟩ := mem_unreleased.mp hx
  have hboth := metBoth_append_met half hxr
  have hun : unreleased (h ++ [.met half x]) = (unreleased h).filter (· ≠ x) := by
    simp [unreleased, registrations, hboth, hflag, List.filter_filter, Bool.and_comm]
  refine ⟨?_, ?_, fun id => ?_⟩
  · rw [hun, eventOf_append_met half hxr]
    simp only [partStep, hvisit]
    refine List.map_congr_left fun id hid => ?_
    rw [Function.update_of_ne]
    simpa using (List.mem_filter.mp hid).2
  · simp only [partStep, hvisit]
    refine List.nodup_append.mpr ⟨hr.nodup, by simp, ?_⟩
    intro id hid y hy heq
    obtain rfl := List.mem_singleton.mp hy
    rw [heq, hr.released, hnot] at hid
    cases hid
  · simp [partStep, hvisit, hr.released, hboth, hflag]

/-- The first half is met: `x` stays in the queue, with its flag set. -/
theorem Reflects.met_first (hr : Reflects h s) (hx : x ∈ unreleased h)
    (hflag : seen half.other x h = false)
    (hvisit : visit x (meet half) s.1 =
      ((unreleased h).map (Function.update (eventOf h) x ((eventOf h x).setFlag half)), [])) :
    Reflects (h ++ [.met half x]) (partStep s (.met half x)) := by
  obtain ⟨hxr, -⟩ := mem_unreleased.mp hx
  have hboth := metBoth_append_met half hxr
  have hun : unreleased (h ++ [.met half x]) = unreleased h := by
    simp [unreleased, registrations, hboth, hflag]
  refine ⟨?_, ?_, fun id => ?_⟩
  · simp [partStep, hvisit, hun, eventOf_append_met half hxr]
  · simpa [partStep, hvisit] using hr.nodup
  · simp [partStep, hvisit, hr.released, hboth, hflag]

/-- A half that is met for an id not in the queue says nothing new. -/
theorem seen_append_met_of_notMem (hx : x ∉ unreleased h) (half' : Half) (id : String) :
    seen half' id (h ++ [.met half x]) = seen half' id h := by
  rw [seen_append_met]
  by_cases hc : half' = half ∧ id = x ∧ x ∈ registrations h
  · obtain ⟨rfl, rfl, hxr⟩ := hc
    have hboth : metBoth h id = true := by
      by_contra hnot
      exact hx (mem_unreleased.mpr ⟨hxr, by simpa using hnot⟩)
    rw [metBoth_eq _ _ half', Bool.and_eq_true] at hboth
    simp [hboth.1]
  · simp [hc]

/-- `x` is unknown, or was released before: nothing happens. -/
theorem Reflects.met_unknown (hr : Reflects h s) (hx : x ∉ unreleased h)
    (hvisit : visit x (meet half) s.1 = ((unreleased h).map (eventOf h), [])) :
    Reflects (h ++ [.met half x]) (partStep s (.met half x)) := by
  have hseen : ∀ half' id, seen half' id (h ++ [.met half x]) = seen half' id h :=
    seen_append_met_of_notMem hx
  have hboth : metBoth (h ++ [.met half x]) = metBoth h := by
    funext id
    simp only [metBoth, hseen]
  have hun : unreleased (h ++ [.met half x]) = unreleased h := by
    simp [unreleased, registrations, hboth]
  have hevent : eventOf (h ++ [.met half x]) = eventOf h := by
    funext id
    simp only [eventOf, hseen]
  refine ⟨?_, ?_, fun id => ?_⟩
  · simp [partStep, hvisit, hun, hevent]
  · simpa [partStep, hvisit] using hr.nodup
  · simp [partStep, hvisit, hboth, hr.released]

/-- A half is met for `x`: this releases the event if the other half was met before. -/
theorem Reflects.met (hr : Reflects h s) (hn : (registrations h).Nodup) (half : Half) (x : String) :
    Reflects (h ++ [.met half x]) (partStep s (.met half x)) := by
  have hnodup : (unreleased h).Nodup := hn.filter _
  have hvisit := visit_map (fun id => (rfl : (eventOf h id).id = id)) (meet half) x hnodup
  rw [← hr.queue] at hvisit
  by_cases hx : x ∈ unreleased h
  · rw [if_pos hx] at hvisit
    cases hflag : seen half.other x h with
    | true =>
      have hmeet : meet half (eventOf h x) = none := by simp [meet, eventOf_flag, hflag]
      rw [hmeet] at hvisit
      exact hr.met_second hx hflag hvisit
    | false =>
      have hmeet : meet half (eventOf h x) = some ((eventOf h x).setFlag half) := by
        simp [meet, eventOf_flag, hflag]
      rw [hmeet] at hvisit
      exact hr.met_first hx hflag hvisit
  · rw [if_neg hx] at hvisit
    exact hr.met_unknown hx (hvisit.trans (by rw [hr.queue]))

end met

/-- After every history with distinct registrations, the bridge is what the history says. -/
theorem reflects_exec (hn : (registrations h).Nodup) :
    Reflects h (Run.exec partStep ([], []) h) := by
  induction h using List.reverseRecOn with
  | nil => exact ⟨rfl, .nil, fun id => by simp [metBoth, seen]⟩
  | append_singleton h part ih =>
    rw [registrations_append] at hn
    have hn' := (List.nodup_append.mp hn).1
    rw [Run.exec_append]
    cases part with
    | registered x =>
      refine (ih hn').registered fun hx => ?_
      exact (List.nodup_append.mp hn).2.2 x hx x (by simp [registrations]) rfl
    | met half x => exact (ih hn').met hn' half x

/-! ## Every sequence of operations -/

/-- The ids that the operations register, in order. -/
def registeredIds (ops : List BridgeOp) : List String :=
  ops.filterMap fun op => match op with
    | .registerPending id => some id
    | _ => none

theorem registrations_parts (ops : List BridgeOp) :
    registrations (ops.flatMap BridgeOp.parts) = registeredIds ops := by
  have hmet : ∀ half (ids : List String), registrations (ids.map (.met half)) = [] := by
    intro half ids
    induction ids with
    | nil => rfl
    | cons id ids ih => exact ih
  induction ops with
  | nil => rfl
  | cons op ops ih =>
    rw [List.flatMap_cons, registrations_append, ih]
    cases op with
    | registerPending id => rfl
    | markSent ids => exact congrArg (· ++ _) (hmet _ ids)
    | handleStrategyAck ids => exact congrArg (· ++ _) (hmet _ ids)

theorem exec_apply (ops : List BridgeOp) :
    ((Run.exec AckBridge.apply b ops).queue, (Run.exec AckBridge.apply b ops).released) =
      Run.exec partStep (b.queue, b.released) (ops.flatMap BridgeOp.parts) := by
  induction ops generalizing b with
  | nil => rfl
  | cons op ops ih =>
    rw [Run.exec_cons, ih, List.flatMap_cons, Run.exec_append, ← apply_eq_exec]

/-- The id is registered, and then both delivered and acknowledged. -/
def DeliveredAndAcked (ops : List BridgeOp) (id : String) : Prop :=
  ∃ before after, ops = before ++ .registerPending id :: after ∧
    (∃ ids, .markSent ids ∈ after ∧ id ∈ ids) ∧ ∃ ids, .handleStrategyAck ids ∈ after ∧ id ∈ ids

theorem delivered_mem_parts :
    .met .delivered id ∈ ops.flatMap BridgeOp.parts ↔ ∃ ids, .markSent ids ∈ ops ∧ id ∈ ids := by
  rw [List.mem_flatMap]
  constructor
  · rintro ⟨op, hop, hmem⟩
    cases op <;> simp [BridgeOp.parts] at hmem
    exact ⟨_, hop, hmem⟩
  · rintro ⟨ids, hop, hid⟩
    exact ⟨_, hop, List.mem_map_of_mem hid⟩

theorem acked_mem_parts :
    .met .acked id ∈ ops.flatMap BridgeOp.parts ↔
      ∃ ids, .handleStrategyAck ids ∈ ops ∧ id ∈ ids := by
  rw [List.mem_flatMap]
  constructor
  · rintro ⟨op, hop, hmem⟩
    cases op <;> simp [BridgeOp.parts] at hmem
    exact ⟨_, hop, hmem⟩
  · rintro ⟨ids, hop, hid⟩
    exact ⟨_, hop, List.mem_map_of_mem hid⟩

/-- What comes before the registration does not count. -/
theorem seen_parts_append (half : Half) {op : BridgeOp} (hop : op ≠ .registerPending id)
    (h : List Part) :
    seen half id (op.parts ++ h) = seen half id h := by
  have hmet : ∀ half' (ids : List String),
      seen half id (ids.map (.met half') ++ h) = seen half id h := by
    intro half' ids
    induction ids with
    | nil => rfl
    | cons x ids ih => simpa [seen] using ih
  cases op with
  | registerPending x =>
    have hx : x ≠ id := fun heq => hop (heq ▸ rfl)
    simp [BridgeOp.parts, seen, hx]
  | markSent ids => exact hmet _ ids
  | handleStrategyAck ids => exact hmet _ ids

theorem metBoth_parts :
    metBoth (ops.flatMap BridgeOp.parts) id = true ↔ DeliveredAndAcked ops id := by
  induction ops with
  | nil => simp [metBoth, seen, DeliveredAndAcked]
  | cons op ops ih =>
    rw [List.flatMap_cons]
    by_cases hop : op = .registerPending id
    · subst hop
      have hboth : metBoth (BridgeOp.parts (.registerPending id) ++ ops.flatMap BridgeOp.parts) id =
          true ↔ (∃ ids, .markSent ids ∈ ops ∧ id ∈ ids) ∧
            ∃ ids, .handleStrategyAck ids ∈ ops ∧ id ∈ ids := by
        rw [← delivered_mem_parts, ← acked_mem_parts]
        simp [metBoth, BridgeOp.parts, seen]
      rw [hboth]
      constructor
      · rintro ⟨hsent, hacked⟩
        exact ⟨[], ops, rfl, hsent, hacked⟩
      · rintro ⟨before, after, heq, ⟨ids, hs, hid⟩, ids', ha, hid'⟩
        have hsub : after ⊆ ops := by
          cases before with
          | nil => simp_all
          | cons op' before =>
            rw [(List.cons.inj heq).2]
            exact fun x hx => by simp [hx]
        exact ⟨⟨ids, hsub hs, hid⟩, ids', hsub ha, hid'⟩
    · have hseen : metBoth (op.parts ++ ops.flatMap BridgeOp.parts) id =
          metBoth (ops.flatMap BridgeOp.parts) id := by
        simp only [metBoth, seen_parts_append _ hop]
      rw [hseen, ih]
      constructor
      · rintro ⟨before, after, rfl, hmet⟩
        exact ⟨op :: before, after, rfl, hmet⟩
      · rintro ⟨before, after, heq, hmet⟩
        cases before with
        | nil => exact absurd (List.cons.inj heq).1 hop
        | cons op' before => exact ⟨before, after, (List.cons.inj heq).2, hmet⟩

/-- The engine is sent each id at most once, and exactly those that were registered and then both
delivered and acknowledged; the queue holds the other registered ids, in order. -/
theorem bridge_releases_exactly (ops : List BridgeOp) (hn : (registeredIds ops).Nodup) :
    (Run.exec AckBridge.apply .new ops).released.Nodup ∧
    (∀ id, id ∈ (Run.exec AckBridge.apply .new ops).released ↔ DeliveredAndAcked ops id) ∧
    (Run.exec AckBridge.apply .new ops).queue.map PendingEvent.id =
      (registeredIds ops).filter fun id => id ∉ (Run.exec AckBridge.apply .new ops).released := by
  have hr := reflects_exec (h := ops.flatMap BridgeOp.parts) (by rwa [registrations_parts])
  rw [show ([], []) = (AckBridge.new.queue, AckBridge.new.released) from rfl, ← exec_apply] at hr
  refine ⟨hr.nodup, fun id => (hr.released id).trans metBoth_parts, ?_⟩
  have hqueue : (Run.exec AckBridge.apply .new ops).queue = _ := hr.queue
  rw [hqueue, unreleased, registrations_parts, List.map_map]
  refine (List.map_id _).trans (List.filter_congr fun id _ => ?_)
  have hmem := hr.released id
  cases hb : metBoth (ops.flatMap BridgeOp.parts) id <;> simp_all

/-- An acknowledgement that comes, twice, before its delivery is confirmed. -/
theorem bridge_releases_exactly_early_ack :
    let ops : List BridgeOp := [.registerPending "a", .registerPending "b",
      .handleStrategyAck ["a", "a"], .markSent ["b", "a"]]
    (Run.exec AckBridge.apply .new ops).released.Nodup ∧
    (∀ id, id ∈ (Run.exec AckBridge.apply .new ops).released ↔ DeliveredAndAcked ops id) ∧
    (Run.exec AckBridge.apply .new ops).queue.map PendingEvent.id =
      (registeredIds ops).filter fun id => id ∉ (Run.exec AckBridge.apply .new ops).released :=
  bridge_releases_exactly _ (by decide)

example : (Run.exec AckBridge.apply .new [.registerPending "a", .registerPending "b",
    .handleStrategyAck ["a", "a"], .markSent ["b", "a"]]).engineAcks = [["a"]] := by decide

end Gateway.Tektii
