import Mathlib.Algebra.Order.Field.Rat
import TradingGateway.Lib.Run
import TradingGateway.Oanda.Dedupe
import TradingGateway.Websocket.Messages

/-!
# A fill and its cancel (`crates/oanda/src/adapter.rs`, `streaming.rs`)

The response to an order may carry a fill of a part of it and a cancel of the rest. The transaction
stream carries the same two transactions, some of them lost and some repeated. The response claims
both ids at once, the stream one line at a time.

* `published_once_iff`: the pair is published as it should be exactly if the stream's cancel is not
  handled before the fill is published, and no copy is handled after its id was forgotten.
* `inTime_iff_inOrder`: with few claims for other orders nothing is forgotten.

The frames that go out with a fill (trade, financing, account) are left out.
-/

namespace Gateway.Oanda

/-- The number of ids that are remembered. -/
def capacity : ℕ := 4096

/-- A successful response with a fill. -/
structure OrderResponse where
  fillId : String
  /-- The signed units of the fill, if they are there and can be parsed. -/
  units : Option Decimal
  /-- The transaction that cancels the rest. -/
  cancelId : Option String
  deriving DecidableEq, Repr

/-- What is published: a fill under the event it is shown as, or a cancel. -/
inductive Published where
  | fill (event : OrderEventType)
  | cancel
  deriving DecidableEq, Repr

def Published.isFill : Published → Bool
  | .fill _ => true
  | .cancel => false

/-- The claims and the strategy channel; `sent` is what was published of the order. -/
structure World where
  claims : PublishedTransactions
  connected : Bool
  sent : List Published

namespace World

def fills (w : World) : ℕ := w.sent.countP Published.isFill

def cancels (w : World) : ℕ := w.sent.countP fun m => !m.isFill

/-- Remember the claims and publish. -/
def publish (w : World) (claims : PublishedTransactions) (frames : List Published) : World :=
  { w with claims, sent := w.sent ++ frames }

variable (w : World) (claims : PublishedTransactions) (frames : List Published)

@[simp] theorem fills_publish :
    (w.publish claims frames).fills = w.fills + frames.countP Published.isFill := List.countP_append

@[simp] theorem cancels_publish :
    (w.publish claims frames).cancels = w.cancels + frames.countP fun m => !m.isFill :=
  List.countP_append

end World

/-! ## The paths -/

/-- The quantity of the fill: not more than was ordered, and all of it if the units are missing. -/
def filledQuantity (quantity : Decimal) (r : OrderResponse) : Decimal :=
  match r.units with
  | some units => min |units| quantity
  | none => quantity

def isPartial (quantity : Decimal) (r : OrderResponse) : Bool :=
  filledQuantity quantity r < quantity

/-- The frames of the response: the fill, and the cancel of what a partial fill leaves. -/
def restFrames (quantity : Decimal) (r : OrderResponse) : List Published :=
  .fill (if isPartial quantity r then .orderPartiallyFilled else .orderFilled) ::
    if isPartial quantity r && r.cancelId.isSome then [.cancel] else []

/-- Claim the ids; publish if the claim succeeds. -/
def claimAndPublish (ids : List String) (frames : List Published) (w : World) : World :=
  match w.claims.tryClaimAll ids with
  | (true, claims) => w.publish claims frames
  | (false, claims) => { w with claims }

/-- The claim fails and changes nothing, or the frames are published. -/
theorem claimAndPublish_cases (ids : List String) (frames : List Published) (w : World) :
    (∃ id ∈ ids, w.claims.has id = true) ∧ claimAndPublish ids frames w = w ∨
      (∀ id ∈ ids, w.claims.has id = false) ∧
        claimAndPublish ids frames w = w.publish (ids.foldl .claim w.claims) frames := by
  unfold claimAndPublish
  rcases w.claims.tryClaimAll_cases ids with ⟨hseen, heq⟩ | ⟨hnew, heq⟩
  · left
    rw [heq]
    exact ⟨hseen, rfl⟩
  · right
    rw [heq]
    exact ⟨hnew, rfl⟩

/-- The response to an order of this quantity: one claim for the fill and the cancel. -/
def publishRest (quantity : Decimal) (r : OrderResponse) (w : World) : World :=
  if w.connected then claimAndPublish (r.fillId :: r.cancelId.toList) (restFrames quantity r) w
  else w

/-- A line of the transaction stream; one without an id is published without a claim. -/
def publishLine (id : Option String) (frame : Published) (w : World) : World :=
  match id with
  | none => { w with sent := w.sent ++ [frame] }
  | some id => if w.connected then claimAndPublish [id] [frame] w else w

/-! ## Interleavings -/

inductive Step where
  | rest
  | fillLine
  | cancelLine
  /-- A claim for another order. -/
  | other (ids : List String)
  deriving DecidableEq, Repr

def step (quantity : Decimal) (r : OrderResponse) (w : World) : Step → World
  | .rest => publishRest quantity r w
  | .fillLine => publishLine (some r.fillId) (.fill .orderFilled) w
  | .cancelLine =>
    match r.cancelId with
    | some id => publishLine (some id) .cancel w
    | none => w
  | .other ids => { w with claims := (w.claims.tryClaimAll ids).2 }

/-- The transactions of a response: two ids, and a cancel only of what a partial fill leaves. -/
structure OrderResponse.Legal (quantity : Decimal) (r : OrderResponse) : Prop where
  distinct : r.cancelId ≠ some r.fillId
  partially : r.cancelId.isSome = true → isPartial quantity r = true

/-- Other orders have other transactions. -/
def Step.Legal (r : OrderResponse) : Step → Prop
  | .other ids => r.fillId ∉ ids ∧ ∀ id ∈ r.cancelId, id ∉ ids
  | _ => True

/-- Published once each at most, and no cancel without its fill. -/
structure Consistent (w : World) : Prop where
  fills : w.fills ≤ 1
  cancels : w.cancels ≤ 1
  accompanied : 0 < w.cancels → 0 < w.fills

/-- A published transaction is still remembered when a copy of it is handled, and the stream's
cancel is handled only after the fill is published. -/
def InTime (r : OrderResponse) (w : World) : Step → Prop
  | .rest =>
    0 < w.fills → w.claims.has r.fillId = true ∨ ∃ id ∈ r.cancelId, w.claims.has id = true
  | .fillLine => 0 < w.fills → w.claims.has r.fillId = true
  | .cancelLine =>
    ∀ id ∈ r.cancelId, w.claims.has id = true ∨ 0 < w.fills ∧ w.cancels = 0
  | .other _ => True

instance (r : OrderResponse) (w : World) (s : Step) : Decidable (InTime r w s) := by
  cases s <;> unfold InTime <;> infer_instance

/-! ## One step -/

namespace Step

/-- The ids that a step claims. -/
def ids (r : OrderResponse) : Step → List String
  | .rest => r.fillId :: r.cancelId.toList
  | .fillLine => [r.fillId]
  | .cancelLine => r.cancelId.toList
  | .other ids => ids

/-- What a step publishes if it claims its ids. -/
def frames (quantity : Decimal) (r : OrderResponse) : Step → List Published
  | .rest => restFrames quantity r
  | .fillLine => [.fill .orderFilled]
  | .cancelLine => r.cancelId.toList.map fun _ => .cancel
  | .other _ => []

end Step

section OneStep

variable {quantity : Decimal} {r : OrderResponse} {w : World} {s : Step}

theorem step_eq_claimAndPublish (hconn : w.connected = true) (s : Step) :
    step quantity r w s = claimAndPublish (s.ids r) (s.frames quantity r) w := by
  cases s with
  | rest => exact if_pos hconn
  | fillLine => exact if_pos hconn
  | cancelLine =>
    unfold step
    cases hcancel : r.cancelId with
    | none => simp [Step.ids, Step.frames, hcancel, claimAndPublish, World.publish,
        PublishedTransactions.tryClaimAll]
    | some id =>
      simp only [Step.ids, Step.frames, hcancel]
      exact if_pos hconn
  | other ids =>
    simp only [step, Step.ids, Step.frames, claimAndPublish, World.publish]
    split <;> simp [*]

theorem restFrames_eq (hr : r.Legal quantity) :
    ∃ event, restFrames quantity r = .fill event :: r.cancelId.toList.map fun _ => .cancel := by
  refine ⟨if isPartial quantity r then .orderPartiallyFilled else .orderFilled, ?_⟩
  unfold restFrames
  cases hcancel : r.cancelId with
  | none => simp
  | some id => simp [hr.partially (by simp [hcancel])]

/-- How many fills and cancels a step publishes if it claims its ids. -/
theorem countP_frames (hr : r.Legal quantity) (s : Step) :
    (s.frames quantity r).countP Published.isFill = (if s = .rest ∨ s = .fillLine then 1 else 0) ∧
      (s.frames quantity r).countP (fun m => !m.isFill) =
        if s = .rest ∨ s = .cancelLine then r.cancelId.toList.length else 0 := by
  cases s with
  | rest =>
    obtain ⟨event, hframes⟩ := restFrames_eq hr
    cases hcancel : r.cancelId <;>
      simp [Step.frames, hframes, hcancel, Published.isFill, List.countP_cons]
  | fillLine => simp [Step.frames, Published.isFill]
  | cancelLine => cases hcancel : r.cancelId <;> simp [Step.frames, hcancel, Published.isFill]
  | other ids => simp [Step.frames]

/-- The ids are those of published transactions. -/
structure Inv (r : OrderResponse) (w : World) : Prop extends Consistent w where
  connected : w.connected = true
  fill_published : w.claims.has r.fillId = true → 0 < w.fills
  cancel_published : ∀ id ∈ r.cancelId, w.claims.has id = true → 0 < w.cancels

/-- A step that finds one of its ids remembered is in time. -/
theorem inTime_of_seen (h : ∃ id ∈ s.ids r, w.claims.has id = true) : InTime r w s := by
  obtain ⟨id, hid, hseen⟩ := h
  cases s with
  | rest =>
    intro _
    rcases List.mem_cons.mp hid with rfl | hcancel
    · exact .inl hseen
    · exact .inr ⟨id, Option.mem_toList.mp hcancel, hseen⟩
  | fillLine =>
    intro _
    exact List.mem_singleton.mp hid ▸ hseen
  | cancelLine =>
    intro id' hid'
    have hid : id ∈ r.cancelId := Option.mem_toList.mp hid
    obtain rfl : id' = id := Option.some.inj (hid'.symm.trans hid)
    exact .inl hseen
  | other ids => trivial

theorem consistent_publish_iff (claims : PublishedTransactions) (frames : List Published) :
    Consistent (w.publish claims frames) ↔
      w.fills + frames.countP Published.isFill ≤ 1 ∧
        w.cancels + frames.countP (fun m => !m.isFill) ≤ 1 ∧
        (0 < w.cancels + frames.countP (fun m => !m.isFill) →
          0 < w.fills + frames.countP Published.isFill) := by
  rw [← World.fills_publish w claims, ← World.cancels_publish w claims]
  exact ⟨fun h => ⟨h.fills, h.cancels, h.accompanied⟩, fun ⟨hf, hc, ha⟩ => ⟨hf, hc, ha⟩⟩

/-- A response that finds no id remembered is in time if the fill is not published. -/
theorem inTime_rest_iff (hnew : ∀ id ∈ Step.ids r .rest, w.claims.has id = false) :
    InTime r w .rest ↔ w.fills = 0 := by
  constructor
  · intro hseen
    by_contra hpos
    rcases hseen (by omega) with hfill | ⟨id, hid, hcancel⟩
    · simp [hnew r.fillId (by simp [Step.ids])] at hfill
    · simp [hnew id (List.mem_cons_of_mem _ (Option.mem_toList.mpr hid))] at hcancel
  · intro hnone hpos
    omega

theorem inTime_fillLine_iff (hnew : ∀ id ∈ Step.ids r .fillLine, w.claims.has id = false) :
    InTime r w .fillLine ↔ w.fills = 0 := by
  constructor
  · intro hseen
    by_contra hpos
    have hfill := hseen (by omega)
    simp [hnew r.fillId (by simp [Step.ids])] at hfill
  · intro hnone hpos
    omega

/-- A step is in time exactly if what is published after it is consistent. -/
theorem inTime_iff_consistent (hr : r.Legal quantity) (h : Inv r w) (s : Step) :
    InTime r w s ↔ Consistent (step quantity r w s) := by
  rw [step_eq_claimAndPublish h.connected]
  rcases claimAndPublish_cases (s.ids r) (s.frames quantity r) w with
    ⟨hseen, hsame⟩ | ⟨hnew, hpub⟩
  · rw [hsame]
    exact ⟨fun _ => h.toConsistent, fun _ => inTime_of_seen hseen⟩
  · obtain ⟨hf, hc⟩ := countP_frames hr s
    rw [hpub, consistent_publish_iff, hf, hc]
    have hfills := h.fills
    have hcancels := h.cancels
    have hacc := h.accompanied
    have hlen : r.cancelId.toList.length ≤ 1 := by cases r.cancelId <;> simp
    cases s with
    | rest =>
      rw [inTime_rest_iff hnew]
      simp only [true_or, if_true]
      omega
    | fillLine =>
      rw [inTime_fillLine_iff hnew]
      simp only [reduceCtorEq, or_true, or_false, if_true, if_false]
      omega
    | cancelLine =>
      cases hcancel : r.cancelId with
      | none =>
        simp only [InTime, hcancel, Option.mem_def, reduceCtorEq, or_true, or_self, if_true,
          if_false, Option.toList_none, List.length_nil, false_imp_iff, implies_true, true_iff]
        omega
      | some id =>
        have hid : w.claims.has id = false := hnew id (by simp [Step.ids, hcancel])
        simp only [InTime, hcancel, Option.mem_def, Option.some.injEq, forall_eq', hid,
          reduceCtorEq, or_self, Bool.false_eq_true, false_or, or_true, if_true, if_false,
          Option.toList_some, List.length_singleton]
        omega
    | other ids =>
      simp only [InTime, reduceCtorEq, or_self, if_false, true_iff]
      omega

theorem Step.of_fillId_mem (hr : r.Legal quantity) (hs : s.Legal r) (h : r.fillId ∈ s.ids r) :
    s = .rest ∨ s = .fillLine := by
  cases s with
  | rest => exact .inl rfl
  | fillLine => exact .inr rfl
  | cancelLine => exact absurd (Option.mem_toList.mp h) hr.distinct
  | other ids => exact absurd h hs.1

theorem Step.of_cancelId_mem (hr : r.Legal quantity) (hs : s.Legal r) {id : String}
    (hid : id ∈ r.cancelId) (h : id ∈ s.ids r) : s = .rest ∨ s = .cancelLine := by
  cases s with
  | rest => exact .inl rfl
  | fillLine =>
    obtain rfl : id = r.fillId := List.mem_singleton.mp h
    exact absurd hid hr.distinct
  | cancelLine => exact .inr rfl
  | other ids => exact absurd h (hs.2 id hid)

/-- A step that leaves what is published consistent keeps the invariant. -/
theorem Inv.step (hr : r.Legal quantity) (h : Inv r w) (hs : s.Legal r)
    (hcons : Consistent (step quantity r w s)) : Inv r (step quantity r w s) := by
  rw [step_eq_claimAndPublish h.connected] at hcons ⊢
  rcases claimAndPublish_cases (s.ids r) (s.frames quantity r) w with
    ⟨-, hsame⟩ | ⟨-, hpub⟩
  · rw [hsame]
    exact h
  · rw [hpub] at hcons ⊢
    obtain ⟨hf, hc⟩ := countP_frames hr s
    refine { hcons with connected := h.connected, fill_published := ?_, cancel_published := ?_ }
    · intro hseen
      rw [World.fills_publish, hf]
      rcases PublishedTransactions.has_of_claims hseen with hnow | hold
      · rw [if_pos (Step.of_fillId_mem hr hs hnow)]
        omega
      · have := h.fill_published hold
        omega
    · intro id hid hseen
      rw [World.cancels_publish, hc]
      rcases PublishedTransactions.has_of_claims hseen with hnow | hold
      · rw [if_pos (Step.of_cancelId_mem hr hs hid hnow), hid]
        simp
      · have := h.cancel_published id hid hold
        omega

theorem fills_le_step (hconn : w.connected = true) (s : Step) :
    w.fills ≤ (step quantity r w s).fills := by
  rw [step_eq_claimAndPublish hconn]
  rcases claimAndPublish_cases (s.ids r) (s.frames quantity r) w with
    ⟨-, hsame⟩ | ⟨-, hpub⟩
  · rw [hsame]
  · rw [hpub, World.fills_publish]
    omega

/-- After the response the fill is published, by the response or before it. -/
theorem Inv.fills_rest (hr : r.Legal quantity) (h : Inv r w) :
    0 < (Oanda.step quantity r w .rest).fills := by
  rw [step_eq_claimAndPublish h.connected]
  rcases claimAndPublish_cases (Step.ids r .rest) (Step.frames quantity r .rest) w with
    ⟨⟨id, hid, hseen⟩, hsame⟩ | ⟨-, hpub⟩
  · rw [hsame]
    rcases List.mem_cons.mp hid with rfl | hcancel
    · exact h.fill_published hseen
    · exact h.accompanied (h.cancel_published id (Option.mem_toList.mp hcancel) hseen)
  · rw [hpub, World.fills_publish, (countP_frames hr .rest).1]
    simp

end OneStep

/-! ## Runs -/

section Runs

variable {quantity : Decimal} {r : OrderResponse} {w : World} {steps : List Step}

/-- Nothing of the order is claimed or published yet. -/
structure Fresh (r : OrderResponse) (w : World) : Prop where
  connected : w.connected = true
  fill : w.claims.has r.fillId = false
  cancel : ∀ id ∈ r.cancelId, w.claims.has id = false
  sent : w.sent = []

theorem Fresh.inv (h : Fresh r w) : Inv r w where
  fills := by simp [World.fills, h.sent]
  cancels := by simp [World.cancels, h.sent]
  accompanied := by simp [World.cancels, h.sent]
  connected := h.connected
  fill_published := fun hseen => by simp [h.fill] at hseen
  cancel_published := fun id hid hseen => by simp [h.cancel id hid] at hseen

/-- The fill is published by the end of a run in time that has the response. -/
theorem fills_exec (hr : r.Legal quantity) (h : Inv r w) (hlegal : ∀ s ∈ steps, s.Legal r)
    (htime : Run.Guarded (step quantity r) (InTime r) w steps)
    (hpub : 0 < w.fills ∨ .rest ∈ steps) : 0 < (Run.exec (step quantity r) w steps).fills := by
  induction steps generalizing w with
  | nil => simpa using hpub
  | cons s steps ih =>
    have hnext : Inv r (step quantity r w s) :=
      h.step hr (hlegal s List.mem_cons_self) ((inTime_iff_consistent hr h s).mp htime.1)
    refine ih hnext (fun s' hs' => hlegal s' (List.mem_cons_of_mem s hs')) htime.2 ?_
    rcases hpub with hpos | hmem
    · exact .inl (hpos.trans_le (fills_le_step h.connected s))
    · rcases List.mem_cons.mp hmem with rfl | hlater
      · exact .inl (h.fills_rest hr)
      · exact .inr hlater

/-! With few claims for other orders nothing is forgotten, and only the order matters. -/

/-- The stream's cancel is handled after the fill is published. -/
def InOrder (r : OrderResponse) (w : World) (s : Step) : Prop :=
  s = .cancelLine → r.cancelId.isSome = true → 0 < w.fills

instance (r : OrderResponse) (w : World) (s : Step) : Decidable (InOrder r w s) :=
  inferInstanceAs (Decidable (_ → _ → _))

/-- How many ids a step claims for other orders. -/
def Step.others : Step → ℕ
  | .other ids => ids.length
  | _ => 0

/-- What is published is remembered, with at most `n` other ids after it. -/
structure Kept (r : OrderResponse) (n : ℕ) (w : World) : Prop where
  fill : 0 < w.fills → w.claims.Recent r.fillId (n + w.cancels)
  cancel : ∀ id ∈ r.cancelId, 0 < w.cancels → w.claims.Recent id (n + 1)

variable {n : ℕ} {s : Step}

theorem Kept.inTime (hkept : Kept r n w) (horder : InOrder r w s) : InTime r w s := by
  cases s with
  | rest =>
    intro hpos
    exact .inl (hkept.fill hpos).has
  | fillLine =>
    intro hpos
    exact (hkept.fill hpos).has
  | cancelLine =>
    intro id hid
    have hfills : 0 < w.fills := horder rfl (Option.isSome_of_mem hid)
    rcases Nat.eq_zero_or_pos w.cancels with hnone | hpos
    · exact .inr ⟨hfills, hnone⟩
    · exact .inl (hkept.cancel id hid hpos).has
  | other ids => trivial

theorem Kept.mono (hkept : Kept r n w) {n' : ℕ} (hn : n ≤ n') : Kept r n' w where
  fill := fun hpos => (hkept.fill hpos).mono (by omega)
  cancel := fun id hid hpos => (hkept.cancel id hid hpos).mono (by omega)

/-- The ids of a step of this order are claimed together or pushed by few others. -/
theorem Step.length_ids (r : OrderResponse) (s : Step) :
    (s.ids r).length = s.others + (if s = .rest ∨ s = .fillLine then 1 else 0) +
      if s = .rest ∨ s = .cancelLine then r.cancelId.toList.length else 0 := by
  cases s <;> simp [Step.ids, Step.others, add_comm]

theorem Step.nodup_ids (hr : r.Legal quantity) (hs : s.others = 0) : (s.ids r).Nodup := by
  cases s with
  | rest =>
    cases hcancel : r.cancelId with
    | none => simp [Step.ids, hcancel]
    | some id =>
      have hne : r.fillId ≠ id := fun heq => hr.distinct (by rw [hcancel, heq])
      simp [Step.ids, hcancel, hne]
  | fillLine => simp [Step.ids]
  | cancelLine => cases hcancel : r.cancelId <;> simp [Step.ids, hcancel]
  | other ids => simp [Step.ids, List.length_eq_zero_iff.mp hs]

/-- A step forgets nothing while there is room for the fill, the cancel and the other ids. -/
theorem Kept.step (hr : r.Legal quantity) (h : Inv r w) (hkept : Kept r n w) (hs : s.Legal r)
    (horder : InOrder r w s) (hroom : n + s.others + 1 < w.claims.capacity) :
    Kept r (n + s.others) (step quantity r w s) := by
  have hcons := (inTime_iff_consistent hr h s).mp (hkept.inTime horder)
  rw [step_eq_claimAndPublish h.connected] at hcons ⊢
  rcases claimAndPublish_cases (s.ids r) (s.frames quantity r) w with
    ⟨-, hsame⟩ | ⟨hnew, hpub⟩
  · rw [hsame]
    exact hkept.mono (by omega)
  · rw [hpub, consistent_publish_iff] at hcons
    rw [hpub]
    obtain ⟨hf, hc⟩ := countP_frames hr s
    rw [hf, hc] at hcons
    obtain ⟨hone, honeC, -⟩ := hcons
    have hlen := s.length_ids r
    have hacc := h.accompanied
    have hcap : (s.ids r).length ≤ w.claims.capacity := by omega
    constructor
    · intro hpos
      rw [World.cancels_publish, hc]
      rw [World.fills_publish, hf] at hpos
      by_cases hown : s = .rest ∨ s = .fillLine
      · have hzero : s.others = 0 := by rcases hown with rfl | rfl <;> rfl
        have hmem : r.fillId ∈ s.ids r := by rcases hown with rfl | rfl <;> simp [Step.ids]
        have hnow := PublishedTransactions.recent_of_mem hnew (Step.nodup_ids hr hzero) hcap hmem
        exact hnow.mono (by rw [hlen, if_pos hown]; omega)
      · rw [if_neg hown] at hpos hlen
        have hlater := PublishedTransactions.recent_claims (hkept.fill hpos) (s.ids r)
          (by omega)
        exact hlater.mono (by omega)
    · intro id hid hpos
      rw [World.cancels_publish, hc] at hpos
      by_cases hown : s = .rest ∨ s = .cancelLine
      · have hzero : s.others = 0 := by rcases hown with rfl | rfl <;> rfl
        have hmem : id ∈ s.ids r := by
          have hid' := Option.mem_toList.mpr hid
          rcases hown with rfl | rfl
          · exact List.mem_cons_of_mem _ hid'
          · exact hid'
        have hnow := PublishedTransactions.recent_of_mem hnew (Step.nodup_ids hr hzero) hcap hmem
        exact hnow.mono (by omega)
      · rw [if_neg hown] at hpos hlen
        have hlater := PublishedTransactions.recent_claims (hkept.cancel id hid hpos) (s.ids r)
          (by omega)
        exact hlater.mono (by omega)

theorem capacity_step (hconn : w.connected = true) (s : Step) :
    (step quantity r w s).claims.capacity = w.claims.capacity := by
  rw [step_eq_claimAndPublish hconn]
  rcases claimAndPublish_cases (s.ids r) (s.frames quantity r) w with
    ⟨-, hsame⟩ | ⟨-, hpub⟩
  · rw [hsame]
  · rw [hpub]
    exact PublishedTransactions.capacity_claims ..

theorem inOrder_of_inTime (h : Inv r w) (htime : InTime r w s) : InOrder r w s := by
  rintro rfl hsome
  obtain ⟨id, hid⟩ := Option.isSome_iff_exists.mp hsome
  rcases htime id hid with hseen | ⟨hpos, -⟩
  · exact h.accompanied (h.cancel_published id hid hseen)
  · exact hpos

theorem guarded_inTime_iff (hr : r.Legal quantity) (h : Inv r w) (hkept : Kept r n w)
    (hlegal : ∀ s ∈ steps, s.Legal r)
    (hroom : n + (steps.map Step.others).sum + 1 < w.claims.capacity) :
    Run.Guarded (step quantity r) (InTime r) w steps ↔
      Run.Guarded (step quantity r) (InOrder r) w steps := by
  induction steps generalizing w n with
  | nil => exact Iff.rfl
  | cons s steps ih =>
    simp only [List.map_cons, List.sum_cons] at hroom
    have hs := hlegal s List.mem_cons_self
    have hfirst : InTime r w s ↔ InOrder r w s := ⟨inOrder_of_inTime h, hkept.inTime⟩
    refine (and_congr_left fun _ => hfirst).trans (and_congr_right fun horder => ?_)
    have hcons := (inTime_iff_consistent hr h s).mp (hfirst.mpr horder)
    refine ih (h.step hr hs hcons) (hkept.step hr h hs horder (by omega))
      (fun s' hs' => hlegal s' (List.mem_cons_of_mem s hs')) ?_
    rw [capacity_step h.connected]
    omega

/-- With few claims for other orders a run is in time exactly if the stream's cancel is handled only
after the fill is published. -/
theorem inTime_iff_inOrder (hr : r.Legal quantity) (hfresh : Fresh r w)
    (hlegal : ∀ s ∈ steps, s.Legal r)
    (hfew : (steps.map Step.others).sum + 1 < w.claims.capacity) :
    Run.Guarded (step quantity r) (InTime r) w steps ↔
      Run.Guarded (step quantity r) (InOrder r) w steps := by
  have hkept : Kept r 0 w :=
    ⟨fun hpos => by simp [World.fills, hfresh.sent] at hpos,
      fun id _ hpos => by simp [World.cancels, hfresh.sent] at hpos⟩
  exact guarded_inTime_iff hr hfresh.inv hkept hlegal (by omega)

theorem inTime_iff_inOrder_repeated :
    Run.Guarded (step 100 ⟨"11", some 40, some "12"⟩) (InTime ⟨"11", some 40, some "12"⟩)
      ⟨.withCapacity capacity, true, []⟩ [.fillLine, .cancelLine, .rest, .cancelLine] :=
  (inTime_iff_inOrder ⟨by decide, fun _ => by decide +kernel⟩ ⟨rfl, rfl, fun _ _ => rfl, rfl⟩
    (by simp [Step.Legal]) (by decide)).mpr (by decide +kernel)

/-- The fill is published exactly once and the cancel at most once, never without the fill, exactly
if each step of the interleaving is in time. -/
theorem published_once_iff (hr : r.Legal quantity) (hfresh : Fresh r w)
    (hlegal : ∀ s ∈ steps, s.Legal r) (hrest : .rest ∈ steps) :
    ((∀ steps', steps' <+: steps → Consistent (Run.exec (step quantity r) w steps')) ∧
        (Run.exec (step quantity r) w steps).fills = 1) ↔
      Run.Guarded (step quantity r) (InTime r) w steps := by
  have hkeep : ∀ w s, Inv r w → s.Legal r → InTime r w s → Inv r (step quantity r w s) :=
    fun w s h hs htime => h.step hr hs ((inTime_iff_consistent hr h s).mp htime)
  have hbreak : ∀ w s, Inv r w → s.Legal r → ¬ InTime r w s →
      ¬ Consistent (step quantity r w s) :=
    fun w s h _ hlate hcons => hlate ((inTime_iff_consistent hr h s).mpr hcons)
  have hall : (∀ steps', steps' <+: steps → Consistent (Run.exec (step quantity r) w steps')) ↔
      Run.Guarded (step quantity r) (InTime r) w steps :=
    Run.forall_prefix_iff_guarded (fun _ h => h.toConsistent) hkeep hbreak hfresh.inv
      (Run.guarded_iff.mpr fun steps' s hp => hlegal s (hp.subset (by simp)))
  constructor
  · intro h
    exact hall.mp h.1
  · intro htime
    have hcons := hall.mpr htime
    have hpos := fills_exec hr hfresh.inv hlegal htime (.inr hrest)
    have hle := (hcons steps (List.prefix_refl steps)).fills
    exact ⟨hcons, by omega⟩

theorem published_once_repeated :
    Consistent (Run.exec (step 100 ⟨"11", some 40, some "12"⟩)
        ⟨.withCapacity capacity, true, []⟩ [.fillLine, .cancelLine, .rest, .cancelLine]) ∧
      (Run.exec (step 100 ⟨"11", some 40, some "12"⟩)
        ⟨.withCapacity capacity, true, []⟩
        [.fillLine, .cancelLine, .rest, .cancelLine]).fills = 1 := by
  have hr : OrderResponse.Legal 100 ⟨"11", some 40, some "12"⟩ :=
    ⟨by decide, fun _ => by decide +kernel⟩
  have hfresh : Fresh ⟨"11", some 40, some "12"⟩ ⟨.withCapacity capacity, true, []⟩ :=
    ⟨rfl, rfl, fun _ _ => rfl, rfl⟩
  have hlegal : ∀ s ∈ [Step.fillLine, .cancelLine, .rest, .cancelLine],
      s.Legal ⟨"11", some 40, some "12"⟩ := by simp [Step.Legal]
  have h := (published_once_iff hr hfresh hlegal (by simp)).mpr (by decide +kernel)
  exact ⟨h.1 _ (List.prefix_refl _), h.2⟩

/-- The stream lost the fill and its cancel is handled first: the response claims neither. -/
theorem cancel_without_fill :
    OrderResponse.Legal 100 ⟨"11", some 40, some "12"⟩ ∧
      Fresh ⟨"11", some 40, some "12"⟩ ⟨.withCapacity capacity, true, []⟩ ∧
      (Run.exec (step 100 ⟨"11", some 40, some "12"⟩)
        ⟨.withCapacity capacity, true, []⟩ [.cancelLine, .rest]).sent = [.cancel] :=
  ⟨⟨by decide, fun _ => by decide +kernel⟩, ⟨rfl, rfl, fun _ _ => rfl, rfl⟩, by decide +kernel⟩

end Runs

end Gateway.Oanda
