import TradingGateway.Lib.Bytes
import Mathlib.Data.UInt

/-!
# The binary frames of the streaming API

A frame is a concatenation of messages: 8 bytes of message id, 2 reserved bytes, the length of the
reference id, the reference id, a payload format of 0, 4 bytes of payload size, the payload.

`parseFrame` reads a frame with an offset that it checks before each read. A read or a sum that is
out of range would panic (`Checked.panic`).

* `parse_frame_exact`: the parser accepts encodings of messages and nothing else, and never
  panics.
-/

namespace Gateway.Saxo

inductive SaxoError where
  | instrumentNotFound (symbol : String)
  | config (message : String)
  | subscriptionFailed (referenceId message : String)
  | invalidFrame (message : String)
  | unsupportedPayloadFormat (format : UInt8)
  /-- A delta for a reference id with no stored snapshot. -/
  | noSnapshotForRef (referenceId : String)
  deriving DecidableEq, Repr

def SaxoError.display : SaxoError → String
  | instrumentNotFound symbol => "Instrument not found: " ++ symbol
  | config message => "Config error: " ++ message
  | subscriptionFailed referenceId message =>
    "Subscription failed for " ++ referenceId ++ ": " ++ message
  | invalidFrame message => "Invalid streaming frame: " ++ message
  | unsupportedPayloadFormat format => "Unsupported payload format byte: " ++ toString format
  | noSnapshotForRef referenceId => "No snapshot for reference ID: " ++ referenceId

/-- A single parsed message from a streaming frame. -/
structure SaxoMessage where
  messageId : UInt64
  referenceId : String
  payload : List UInt8
  deriving DecidableEq, Repr

/-! ## The parser -/

open Checked

/-- Read a little-endian number of `width` bytes at `offset`, with bounds checking. -/
def readLe (width : ℕ) (data : List UInt8) (offset : ℕ) (field : String) : Checked SaxoError ℕ := do
  let last ← add offset width
  failIf (last > data.length) (.invalidFrame ("truncated at " ++ field))
  let bytes ← slice data offset last
  pure (leNat bytes)

def readU64Le (data : List UInt8) (offset : ℕ) (field : String) : Checked SaxoError UInt64 := do
  pure (UInt64.ofNat (← readLe 8 data offset field))

def readU32Le (data : List UInt8) (offset : ℕ) (field : String) : Checked SaxoError UInt32 := do
  pure (UInt32.ofNat (← readLe 4 data offset field))

/-- The bytes as text. `utf8Error` is what the standard library says of bytes that are not UTF-8. -/
def fromUtf8 (utf8Error : List UInt8 → String) (bytes : List UInt8) : Checked SaxoError String :=
  match String.fromUTF8? bytes.toByteArray with
  | some text => .ok text
  | none => .fail (.invalidFrame ("invalid UTF-8 in reference ID: " ++ utf8Error bytes))

/-- One round of the loop: the message at `offset`, and the offset after it. -/
def parseMessage (utf8Error : List UInt8 → String) (data : List UInt8) (offset : ℕ) :
    Checked SaxoError (SaxoMessage × ℕ) := do
  let messageId ← readU64Le data offset "message_id"
  let offset ← add offset 8
  let reservedEnd ← add offset 2
  failIf (reservedEnd > data.length) (.invalidFrame "truncated at reserved bytes")
  let offset ← add offset 2
  failIf (offset ≥ data.length) (.invalidFrame "truncated at reference ID length")
  let refIdLen ← index data offset
  let offset ← add offset 1
  let refIdEnd ← add offset refIdLen.toNat
  failIf (refIdEnd > data.length) (.invalidFrame "truncated at reference ID")
  let refIdBytes ← slice data offset refIdEnd
  let referenceId ← fromUtf8 utf8Error refIdBytes
  let offset ← add offset refIdLen.toNat
  failIf (offset ≥ data.length) (.invalidFrame "truncated at payload format")
  let payloadFormat ← index data offset
  let offset ← add offset 1
  failIf (payloadFormat ≠ 0) (.unsupportedPayloadFormat payloadFormat)
  let payloadSize ← readU32Le data offset "payload_size"
  let offset ← add offset 4
  let payloadEnd ← add offset payloadSize.toNat
  failIf (payloadEnd > data.length) (.invalidFrame "truncated at payload")
  let payload ← slice data offset payloadEnd
  let offset ← add offset payloadSize.toNat
  pure (⟨messageId, referenceId, payload⟩, offset)

/-- The loop `while offset < data.len()`. -/
def parseRound (utf8Error : List UInt8 → String) (data : List UInt8) (s : ℕ × List SaxoMessage) :
    Checked SaxoError ((ℕ × List SaxoMessage) ⊕ List SaxoMessage) :=
  if s.1 < data.length then do
    let (message, offset) ← parseMessage utf8Error data s.1
    pure (.inl (offset, s.2 ++ [message]))
  else pure (.inr s.2)

/-- Parse a binary frame into zero or more messages. `none` if the loop takes more rounds than the
frame has bytes. -/
def parseFrame (utf8Error : List UInt8 → String) (data : Slice) :
    Option (Checked SaxoError (List SaxoMessage)) :=
  loop (parseRound utf8Error data.bytes) (data.bytes.length + 1) (0, [])

/-! ## The format -/

/-- The bytes of a text. -/
def utf8 (text : String) : List UInt8 := text.toUTF8.data.toList

/-- The layout of a message, with the two bytes in the reserved place. -/
def encode (m : SaxoMessage) (reserved : UInt8 × UInt8) : List UInt8 :=
  leBytes 8 m.messageId.toNat ++ ([reserved.1, reserved.2] ++
    ([UInt8.ofNat (utf8 m.referenceId).length] ++ (utf8 m.referenceId ++
      ([0] ++ (leBytes 4 m.payload.length ++ m.payload)))))

/-- The lengths of the message fit their fields. -/
structure SaxoMessage.Fits (m : SaxoMessage) : Prop where
  referenceId : (utf8 m.referenceId).length ≤ 255
  payload : m.payload.length < 2 ^ 32

/-- A frame of messages. -/
def encodeAll (ms : List (SaxoMessage × UInt8 × UInt8)) : List UInt8 :=
  ms.flatMap fun (m, reserved) => encode m reserved

example : encode ⟨42, "q", [123, 125]⟩ (7, 9) =
    [42, 0, 0, 0, 0, 0, 0, 0, 7, 9, 1, 113, 0, 2, 0, 0, 0, 123, 125] := by decide +kernel

/-! ## One message -/

section message

variable {data : List UInt8} {offset : ℕ}

theorem readLe_meets {width : ℕ} (hsum : offset + width < 2 ^ 64) (field : String) :
    Meets (readLe width data offset field) fun n =>
      Segment data offset (leBytes width n) (offset + width) ∧ n < 256 ^ width := by
  refine (meets_add hsum).bind fun last hlast => ?_
  subst hlast
  refine (meets_failIf _ _).bind fun _ hin => ?_
  obtain ⟨bytes, rfl, hseg⟩ := Segment.of_le data (a := offset) (n := width) (by omega)
  rw [hseg.slice_eq]
  refine .ok ⟨?_, leNat_lt bytes⟩
  rw [leBytes_leNat]
  exact hseg

theorem readLe_eq {width n stop : ℕ} (hseg : Segment data offset (leBytes width n) stop)
    (hn : n < 256 ^ width) (hdata : data.length < 2 ^ 63) (field : String) :
    readLe width data offset field = .ok n := by
  have hstop := hseg.length
  have hend := hseg.le_length
  rw [length_leBytes] at hstop
  subst hstop
  rw [readLe, add_eq (by omega), ok_bind, failIf_eq (by omega), ok_bind, hseg.slice_eq, ok_bind,
    leNat_leBytes hn]
  rfl

theorem utf8_of_fromUTF8 {bytes : List UInt8} {text : String}
    (h : String.fromUTF8? bytes.toByteArray = some text) : utf8 text = bytes := by
  unfold String.fromUTF8? at h
  split at h
  · cases h
    exact List.toList_data_toByteArray
  · cases h

theorem fromUTF8_utf8 (text : String) : String.fromUTF8? (utf8 text).toByteArray = some text := by
  have hbytes : (utf8 text).toByteArray = text.toUTF8 := by
    apply ByteArray.ext
    apply Array.toList_inj.mp
    exact List.toList_data_toByteArray
  rw [hbytes, String.fromUTF8?, String.toUTF8_eq_toByteArray, dif_pos text.isValidUTF8]
  rfl

variable (utf8Error : List UInt8 → String)

theorem fromUtf8_meets (bytes : List UInt8) :
    Meets (fromUtf8 utf8Error bytes) fun text => utf8 text = bytes := by
  unfold fromUtf8
  split
  · rename_i text htext
    exact .ok (utf8_of_fromUTF8 htext)
  · exact .fail _

theorem fromUtf8_eq (text : String) : fromUtf8 utf8Error (utf8 text) = .ok text := by
  rw [fromUtf8, fromUTF8_utf8]

theorem readU64Le_meets (hsum : offset + 8 < 2 ^ 64) (field : String) :
    Meets (readU64Le data offset field) fun n =>
      Segment data offset (leBytes 8 n.toNat) (offset + 8) := by
  refine (readLe_meets hsum field).bind fun n ⟨hseg, hn⟩ => .ok ?_
  have hfits : n < 2 ^ 64 := hn.trans_eq (by norm_num)
  rw [UInt64.toNat_ofNat', Nat.mod_eq_of_lt hfits]
  exact hseg

theorem readU32Le_meets (hsum : offset + 4 < 2 ^ 64) (field : String) :
    Meets (readU32Le data offset field) fun n =>
      Segment data offset (leBytes 4 n.toNat) (offset + 4) := by
  refine (readLe_meets hsum field).bind fun n ⟨hseg, hn⟩ => .ok ?_
  have hfits : n < 2 ^ 32 := hn.trans_eq (by norm_num)
  rw [UInt32.toNat_ofNat', Nat.mod_eq_of_lt hfits]
  exact hseg

/-- A round reads an encoding or refuses, and never leaves the frame. -/
theorem parseMessage_meets (hdata : data.length < 2 ^ 63) (hoffset : offset ≤ data.length) :
    Meets (parseMessage utf8Error data offset) fun (m, stop) =>
      ∃ reserved, Segment data offset (encode m reserved) stop := by
  unfold parseMessage
  refine (readU64Le_meets (by omega) _).bind fun id hid => ?_
  have hidEnd := hid.le_length
  rw [add_eq (by omega), ok_bind, add_eq (by omega), ok_bind]
  refine (meets_failIf _ _).bind fun _ hin => ?_
  obtain ⟨reserved, hlen, hreserved⟩ := Segment.of_le data (a := offset + 8) (n := 2)
    (by omega)
  obtain ⟨r₁, r₂, rfl⟩ := List.length_eq_two.mp hlen
  rw [ok_bind]
  refine (meets_failIf _ _).bind fun _ hin => ?_
  obtain ⟨size, hsize⟩ := Segment.of_lt data (a := offset + 8 + 2) (by omega)
  have hsizeEnd := hsize.le_length
  have hbyte := size.toNat_lt
  rw [hsize.index_eq, ok_bind, add_eq (by omega), ok_bind, add_eq (by omega), ok_bind]
  refine (meets_failIf _ _).bind fun _ hin => ?_
  obtain ⟨refId, hrefLen, hrefId⟩ := Segment.of_le data (a := offset + 8 + 2 + 1)
    (n := size.toNat) (by omega)
  rw [hrefId.slice_eq, ok_bind]
  refine (fromUtf8_meets utf8Error refId).bind fun text htext => ?_
  rw [ok_bind]
  refine (meets_failIf _ _).bind fun _ hin => ?_
  obtain ⟨format, hformat⟩ := Segment.of_lt data
    (a := offset + 8 + 2 + 1 + size.toNat) (by omega)
  rw [hformat.index_eq, ok_bind, add_eq (by omega), ok_bind]
  refine (meets_failIf _ _).bind fun _ hzero => ?_
  rw [ne_eq, not_not] at hzero
  refine (readU32Le_meets (by omega) _).bind fun count hcount => ?_
  have hcountEnd := hcount.le_length
  have hword := count.toNat_lt
  rw [add_eq (by omega), ok_bind, add_eq (by omega), ok_bind]
  refine (meets_failIf _ _).bind fun _ hin => ?_
  obtain ⟨payload, hpayLen, hpayload⟩ := Segment.of_le data
    (a := offset + 8 + 2 + 1 + size.toNat + 1 + 4) (n := count.toNat) (by omega)
  rw [hpayload.slice_eq, ok_bind, ok_bind]
  refine .ok ⟨(r₁, r₂), ?_⟩
  subst htext hzero
  have hsizeByte : UInt8.ofNat (utf8 text).length = size := by
    rw [hrefLen, UInt8.ofNat_toNat]
  unfold encode
  rw [hsizeByte, hpayLen]
  exact hid.append (hreserved.append (hsize.append (hrefId.append
    (hformat.append (hcount.append hpayload)))))

theorem parseMessage_encode (hdata : data.length < 2 ^ 63) {m : SaxoMessage} (hm : m.Fits)
    {reserved : UInt8 × UInt8} {stop : ℕ} (hs : Segment data offset (encode m reserved) stop) :
    parseMessage utf8Error data offset = .ok (m, stop) := by
  have hstop := hs.le_length
  have hrefFits := hm.referenceId
  have hsizeByte : (UInt8.ofNat (utf8 m.referenceId).length).toNat =
      (utf8 m.referenceId).length := by
    rw [UInt8.toNat_ofNat']
    omega
  have hcountWord : (UInt32.ofNat m.payload.length).toNat = m.payload.length := by
    rw [UInt32.toNat_ofNat', Nat.mod_eq_of_lt hm.payload]
  unfold encode at hs
  obtain ⟨hid, hs⟩ := hs.split (length_leBytes ..)
  obtain ⟨-, hs⟩ := hs.split (n := 2) rfl
  obtain ⟨hsize, hs⟩ := hs.split (n := 1) rfl
  obtain ⟨hrefId, hs⟩ := hs.split rfl
  obtain ⟨hformat, hs⟩ := hs.split (n := 1) rfl
  obtain ⟨hcount, hpayload⟩ := hs.split (length_leBytes ..)
  have hend := hpayload.length
  have hpayEnd := hpayload.le_length
  unfold parseMessage readU64Le readU32Le
  -- the message id and the reserved bytes
  rw [readLe_eq hid m.messageId.toNat_lt hdata, ok_bind, pure_eq, ok_bind, UInt64.ofNat_toNat,
    add_eq (by omega), ok_bind, add_eq (by omega), ok_bind, failIf_eq (by omega), ok_bind, ok_bind]
  -- the reference id
  rw [failIf_eq (by omega), ok_bind, hsize.index_eq, ok_bind, add_eq (by omega), ok_bind, hsizeByte,
    add_eq (by omega), ok_bind, failIf_eq (by omega), ok_bind, hrefId.slice_eq, ok_bind,
    fromUtf8_eq, ok_bind, ok_bind]
  -- the payload format
  rw [failIf_eq (by omega), ok_bind, hformat.index_eq, ok_bind, add_eq (by omega), ok_bind,
    failIf_eq (by simp), ok_bind]
  -- the payload
  rw [readLe_eq hcount hm.payload hdata, ok_bind, pure_eq, ok_bind, hcountWord, add_eq (by omega),
    ok_bind, add_eq (by omega), ok_bind, failIf_eq (by omega), ok_bind, ← hend,
    hpayload.slice_eq, ok_bind, ok_bind]
  rfl

end message

/-! ## Frames -/

section frame

variable (utf8Error : List UInt8 → String) {data : List UInt8}

theorem length_encode_pos (m : SaxoMessage) (reserved : UInt8 × UInt8) :
    0 < (encode m reserved).length := by
  rw [encode, List.length_append, length_leBytes]
  omega

/-- What was read so far are the encodings of the messages. -/
def ReadSoFar (data : List UInt8) : ℕ × List SaxoMessage → Prop
  | (offset, messages) => ∃ reserved : List (UInt8 × UInt8), reserved.length = messages.length ∧
    Segment data 0 (encodeAll (messages.zip reserved)) offset

/-- The frame is the encodings of the messages. -/
def IsFrame (data : List UInt8) (messages : List SaxoMessage) : Prop :=
  ∃ reserved : List (UInt8 × UInt8), reserved.length = messages.length ∧
    data = encodeAll (messages.zip reserved)

/-- A round reads on, or has read the whole frame. -/
theorem parseRound_meets (hdata : data.length < 2 ^ 63) (s : ℕ × List SaxoMessage)
    (hs : ReadSoFar data s) :
    Meets (parseRound utf8Error data s)
      (Sum.elim (fun s' => ReadSoFar data s' ∧ data.length - s'.1 < data.length - s.1)
        (IsFrame data)) := by
  obtain ⟨offset, messages⟩ := s
  obtain ⟨reserved, hlen, hread⟩ := hs
  unfold parseRound
  split
  · rename_i hmore
    refine (parseMessage_meets utf8Error hdata hread.le_length).bind fun ⟨m, stop⟩ hm => .ok ?_
    obtain ⟨r, hseg⟩ := hm
    have hlt := length_encode_pos m r
    have hstop := hseg.length
    refine ⟨⟨reserved ++ [r], by simp [hlen], ?_⟩, by simp only; omega⟩
    rw [List.zip_append hlen.symm, encodeAll, List.flatMap_append]
    refine hread.append ?_
    simpa [encodeAll] using hseg
  · rename_i hend
    have hall : offset = data.length := by
      have hle := hread.le_length
      omega
    subst hall
    exact .ok ⟨reserved, hlen, Segment.whole.mp hread⟩

theorem encodeAll_cons (m : SaxoMessage) (reserved : UInt8 × UInt8)
    (ms : List (SaxoMessage × UInt8 × UInt8)) :
    encodeAll ((m, reserved) :: ms) = encode m reserved ++ encodeAll ms := rfl

theorem loop_encodeAll (hdata : data.length < 2 ^ 63) {ms : List (SaxoMessage × UInt8 × UInt8)}
    (hms : ∀ m ∈ ms, m.1.Fits) {offset n : ℕ} {messages : List SaxoMessage}
    (hs : Segment data offset (encodeAll ms) data.length) (hn : ms.length < n) :
    loop (parseRound utf8Error data) n (offset, messages) =
      some (.ok (messages ++ ms.map Prod.fst)) := by
  induction ms generalizing offset n messages with
  | nil =>
    obtain ⟨n, rfl⟩ := Nat.exists_eq_succ_of_ne_zero (Nat.ne_of_gt hn)
    have hoffset : data.length = offset := hs.length
    have hround : parseRound utf8Error data (offset, messages) = .ok (.inr messages) :=
      if_neg (by omega)
    rw [loop_succ_of_inr hround, List.map_nil, List.append_nil]
  | cons x ms ih =>
    obtain ⟨m, r⟩ := x
    obtain ⟨n, rfl⟩ := Nat.exists_eq_succ_of_ne_zero (Nat.ne_of_gt (Nat.zero_lt_of_lt hn))
    rw [encodeAll_cons] at hs
    obtain ⟨hfirst, hrest⟩ := hs.split rfl
    have hpos := length_encode_pos m r
    have hle := hfirst.le_length
    have hfits : m.Fits := hms _ List.mem_cons_self
    have hround : parseRound utf8Error data (offset, messages) =
        .ok (.inl (offset + (encode m r).length, messages ++ [m])) := by
      unfold parseRound
      rw [if_pos (by omega), parseMessage_encode utf8Error hdata hfits hfirst]
      rfl
    rw [loop_succ_of_inl hround, ih (fun x hx => hms x (List.mem_cons_of_mem _ hx)) hrest
      (Nat.lt_of_succ_lt_succ hn), List.append_assoc]
    rfl

theorem length_le_encodeAll (ms : List (SaxoMessage × UInt8 × UInt8)) :
    ms.length ≤ (encodeAll ms).length := by
  induction ms with
  | nil => exact Nat.le_refl _
  | cons x ms ih =>
    have hpos := length_encode_pos x.1 x.2
    rw [encodeAll_cons, List.length_append, List.length_cons]
    omega

end frame

/-- The parser is exact: it returns the messages of every frame of encodings, whatever the reserved
bytes; what it returns was encoded in the frame; and on every byte string it ends, without an index,
a slice or a sum out of range. -/
theorem parse_frame_exact (utf8Error : List UInt8 → String) :
    (∀ (data : Slice) (ms : List (SaxoMessage × UInt8 × UInt8)), (∀ m ∈ ms, m.1.Fits) →
      data.bytes = encodeAll ms → parseFrame utf8Error data = some (.ok (ms.map Prod.fst))) ∧
    (∀ (data : Slice) (ms : List SaxoMessage), parseFrame utf8Error data = some (.ok ms) →
      ∃ reserved : List (UInt8 × UInt8), reserved.length = ms.length ∧
        data.bytes = encodeAll (ms.zip reserved)) ∧
    ∀ data : Slice, ∃ r, parseFrame utf8Error data = some r ∧ r ≠ .panic := by
  have hrun (data : Slice) : ∃ r, parseFrame utf8Error data = some r ∧
      Meets r (IsFrame data.bytes) := by
    have hstart : ReadSoFar data.bytes (0, []) := ⟨[], rfl, Segment.nil (Nat.zero_le _)⟩
    exact loop_meets (fun s => data.bytes.length - s.1)
      (parseRound_meets utf8Error data.length_lt) hstart (by simp only; omega)
  refine ⟨fun data ms hms hdata => ?_, fun data ms hparse => ?_, fun data => ?_⟩
  · have hwhole := Segment.whole.mpr hdata
    have hlen := length_le_encodeAll ms
    rw [← hdata] at hlen
    exact loop_encodeAll utf8Error data.length_lt hms hwhole (by omega)
  · obtain ⟨r, hr, hmeets⟩ := hrun data
    cases hr.symm.trans hparse
    exact hmeets
  · obtain ⟨r, hr, hmeets⟩ := hrun data
    exact ⟨r, hr, hmeets.ne_panic⟩

/-- Two messages, with reserved bytes that are not 0. -/
def twoMessages : List (SaxoMessage × UInt8 × UInt8) :=
  [(⟨1, "quotes_1", [123, 125]⟩, 7, 9), (⟨2 ^ 63, "_heartbeat", []⟩, 0, 255)]

theorem parse_frame_two_messages :
    (encodeAll twoMessages).length = 52 ∧
      parseFrame (fun _ => "") ⟨encodeAll twoMessages, by decide +kernel⟩ =
        some (.ok [⟨1, "quotes_1", [123, 125]⟩, ⟨2 ^ 63, "_heartbeat", []⟩]) := by
  refine ⟨by decide +kernel, (parse_frame_exact _).1 _ twoMessages (fun m hm => ?_) rfl⟩
  rcases List.mem_pair.mp hm with rfl | rfl
  · exact ⟨by decide +kernel, by decide +kernel⟩
  · exact ⟨by decide +kernel, by decide +kernel⟩

end Gateway.Saxo
