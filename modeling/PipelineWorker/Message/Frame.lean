/-
Frames: the form in which messages travel.

A frame is the tag of the kind and the length of the payload, a signed and an unsigned 32-bit word
with the most significant byte first, and then the payload itself.

* `encode_eq_ok_iff`, `encode_eq_error_iff` — a message has a frame unless its payload is over the
  limit;
* `decode_encode_append` — the frame of a message, whatever follows it, decodes to the message;
* `length?_eq_none_iff` — the length of a frame is unknown only before its header is complete.
-/
import PipelineWorker.Message.Basic
import PipelineWorker.Message.Error

namespace PipelineWorker

namespace Frame

/-- Bytes of a frame before its payload. -/
def headerLength : Nat := 8

/-- The most bytes that a payload may have; bulk data belongs in a segment. -/
def maxPayload : Nat := 256 * 1024 * 1024

/-- The header of a frame: tag and payload length. -/
def header (kind : Kind) (length : Nat) : Bytes :=
  BigEndian.ofSigned kind.tag ++ BigEndian.encode 4 length

/-- The frame of a message.  The origin is not part of it. -/
def encode (m : Message) : Except CodecError Bytes :=
  if maxPayload < m.payload.length then
    .error (.payloadTooLarge m.payload.length maxPayload)
  else
    .ok (header m.kind m.payload.length ++ m.payload.toList)

/-- Kind and payload length from the eight bytes of a header. -/
def parseHeader (bs : Bytes) : Except CodecError (Kind × Nat) :=
  let length := BigEndian.decode ((bs.drop 4).take 4)
  if maxPayload < length then
    .error (.payloadTooLarge length maxPayload)
  else
    .ok (.ofTag (BigEndian.signedOf (bs.take 4)), length)

/-- The length of the frame that `bs` begins with; `none` before its header is complete. -/
def length? (bs : Bytes) : Except CodecError (Option Nat) :=
  if bs.length < headerLength then
    .ok none
  else
    match parseHeader bs with
    | .ok (_, length) => .ok (some (headerLength + length))
    | .error e => .error e

/-- The message whose frame `bs` begins with, and the length of that frame. -/
def decode (bs : Bytes) : Except CodecError (Message × Nat) :=
  if bs.length < headerLength then
    .error (.truncated headerLength bs.length)
  else
    match parseHeader bs with
    | .error e => .error e
    | .ok (kind, length) =>
      if bs.length < headerLength + length then
        .error (.truncated (headerLength + length) bs.length)
      else
        .ok (.ofBytes kind ((bs.drop headerLength).take length), headerLength + length)

@[simp] theorem length_header (kind : Kind) (n : Nat) :
    (header kind n).length = headerLength := by
  simp [header, headerLength]

theorem encode_eq_ok_iff {m : Message} {bs : Bytes} :
    encode m = .ok bs ↔
      m.payload.length ≤ maxPayload ∧ bs = header m.kind m.payload.length ++ m.payload.toList := by
  rw [encode]
  split
  · simp; omega
  · simp [Nat.not_lt.1 ‹_›, eq_comm]

theorem encode_eq_error_iff {m : Message} {e : CodecError} :
    encode m = .error e ↔
      maxPayload < m.payload.length ∧ e = .payloadTooLarge m.payload.length maxPayload := by
  rw [encode]
  split
  · simp [*, eq_comm]
  · simp [*]

theorem parseHeader_header_append (kind : Kind) (n : Nat) (hn : n ≤ maxPayload) (rest : Bytes) :
    parseHeader (header kind n ++ rest) = .ok (.ofTag kind.tag, n) := by
  have h32 : n % BigEndian.capacity 4 = n := Nat.mod_eq_of_lt (Nat.lt_of_le_of_lt hn (by decide))
  have htag : (header kind n ++ rest).take 4 = BigEndian.ofSigned kind.tag := by
    simp [header, List.append_assoc]
  have hlen : ((header kind n ++ rest).drop 4).take 4 = BigEndian.encode 4 n := by
    simp [header, List.append_assoc]
  simp only [parseHeader, htag, hlen, BigEndian.decode_encode, h32,
    BigEndian.signedOf_ofSigned, Nat.not_lt.2 hn, if_false]

/-- A frame decodes to its message, and what follows is not looked at. -/
theorem decode_encode_append {m : Message} {bs : Bytes} (h : encode m = .ok bs) (rest : Bytes) :
    decode (bs ++ rest) =
      .ok ({ kind := .ofTag m.kind.tag, payload := m.payload },
        headerLength + m.payload.length) := by
  obtain ⟨hle, rfl⟩ := encode_eq_ok_iff.1 h
  have hfull : (header m.kind m.payload.length ++ m.payload.toList ++ rest).length
      = headerLength + m.payload.length + rest.length := by simp; omega
  have hdrop : (header m.kind m.payload.length ++ m.payload.toList ++ rest).drop headerLength
      = m.payload.toList ++ rest := by
    rw [List.append_assoc, List.drop_append_of_le_length (by simp)]
    simp [List.drop_of_length_le]
  rw [decode]
  rw [if_neg (by omega), List.append_assoc, parseHeader_header_append _ _ hle,
    ← List.append_assoc]
  simp only [hfull, hdrop]
  rw [if_neg (by omega)]
  have htake : (m.payload.toList ++ rest).take m.payload.length = m.payload.toList := by
    rw [List.take_append_of_le_length (by simp)]
    simp [List.take_of_length_le]
  rw [htake]
  simp [Message.ofBytes]

theorem length?_eq_none_iff {bs : Bytes} : length? bs = .ok none ↔ bs.length < headerLength := by
  rw [length?]
  split
  · simpa
  · rename_i h
    cases parseHeader bs with
    | ok r => simp; omega
    | error e => simp; omega

/-- A frame is never shorter than its header. -/
theorem headerLength_le_of_length? {bs : Bytes} {n : Nat} (h : length? bs = .ok (some n)) :
    headerLength ≤ n := by
  rw [length?] at h
  split at h
  · simp at h
  · cases hp : parseHeader bs with
    | error e => simp [hp] at h
    | ok r =>
      simp [hp] at h
      omega

end Frame

end PipelineWorker
