/-
Structured payloads: a sequence of typed fields.

Integers have the most significant byte first; byte strings and texts follow their length, a 32-bit
word.  A reader works on the bytes not yet read: every getter returns the bytes it leaves, also when
it fails, and the next getter goes on from there.

* `read_encode_append` — a field that fits its length prefix is read back, and what follows stays;
* `suffix_of_read` — a getter only ever moves forward.
-/
import PipelineWorker.BigEndian
import PipelineWorker.Message.Error

namespace PipelineWorker

/-- One value of a structured payload. -/
inductive Field
  | signed (v : Int32)
  | word (v : UInt32)
  | long (v : UInt64)
  | blob (bs : Bytes)
  | text (s : String)
  deriving DecidableEq, Repr

/-- What to read next from a structured payload. -/
inductive FieldType
  | signed | word | long | blob | text
  deriving DecidableEq, Repr

namespace Field

/-- What has to be read to get the field back. -/
def type : Field → FieldType
  | signed _ => .signed
  | word _ => .word
  | long _ => .long
  | blob _ => .blob
  | text _ => .text

/-- The UTF-8 bytes of a text. -/
def utf8 (s : String) : Bytes := s.toByteArray.data.toList

/-- Bytes behind their length.  The prefix holds the length modulo 2^32. -/
def encodeBlob (bs : Bytes) : Bytes := BigEndian.encode 4 bs.length ++ bs

/-- The bytes of a field. -/
def encode : Field → Bytes
  | signed v => BigEndian.ofSigned v
  | word v => BigEndian.ofWord v
  | long v => BigEndian.encode 8 v.toNat
  | blob bs => encodeBlob bs
  | text s => encodeBlob (utf8 s)

/-- The bytes of a sequence of fields. -/
def encodeAll (fields : List Field) : Bytes := fields.flatMap encode

/-- Takes `n` bytes, or none if fewer are left. -/
def take (n : Nat) (bs : Bytes) : Except CodecError Bytes × Bytes :=
  if bs.length < n then (.error (.truncated n bs.length), bs) else (.ok (bs.take n), bs.drop n)

/-- Takes the length prefix and then as many bytes as it says.  If these are not there the prefix
is gone all the same. -/
def takeBlob (bs : Bytes) : Except CodecError Bytes × Bytes :=
  match take 4 bs with
  | (.error e, rest) => (.error e, rest)
  | (.ok len, rest) => take (BigEndian.decode len) rest

/-- Reads one field off the front of `bs`, with the bytes left behind it. -/
def read (type : FieldType) (bs : Bytes) : Except CodecError Field × Bytes :=
  match type with
  | .signed => let (r, rest) := take 4 bs; (r.map (signed ∘ BigEndian.signedOf), rest)
  | .word => let (r, rest) := take 4 bs; (r.map (word ∘ BigEndian.wordOf), rest)
  | .long =>
    let (r, rest) := take 8 bs
    (r.map fun b => long (UInt64.ofNat (BigEndian.decode b)), rest)
  | .blob => let (r, rest) := takeBlob bs; (r.map blob, rest)
  | .text =>
    match takeBlob bs with
    | (.error e, rest) => (.error e, rest)
    | (.ok b, rest) =>
      match String.fromUTF8? b.toByteArray with
      | some s => (.ok (text s), rest)
      | none => (.error .invalidUtf8, rest)

/-- Reads fields one after the other, going on after failures. -/
def readAll : List FieldType → Bytes → List (Except CodecError Field × Bytes)
  | [], _ => []
  | t :: ts, bs => let r := read t bs; r :: readAll ts r.2

/-- The field's length fits the 32-bit prefix. -/
def Fits : Field → Prop
  | blob bs => bs.length < UInt32.size
  | text s => (utf8 s).length < UInt32.size
  | _ => True

theorem suffix_of_take (n : Nat) (bs : Bytes) : (take n bs).2 <:+ bs := by
  rw [take]
  split
  · exact List.suffix_rfl
  · exact List.drop_suffix n bs

theorem suffix_of_takeBlob (bs : Bytes) : (takeBlob bs).2 <:+ bs := by
  rw [takeBlob]
  have h := suffix_of_take 4 bs
  split <;> simp_all
  exact (suffix_of_take ..).trans h

/-- A getter only ever moves forward. -/
theorem suffix_of_read (t : FieldType) (bs : Bytes) : (read t bs).2 <:+ bs := by
  have h := suffix_of_takeBlob bs
  cases t <;> simp only [read]
  case text =>
    revert h
    split
    · simp_all
    · split <;> simp_all
  case blob => exact h
  all_goals exact suffix_of_take ..

theorem take_append {n : Nat} {bs : Bytes} (h : bs.length = n) (rest : Bytes) :
    take n (bs ++ rest) = (.ok bs, rest) := by
  subst h
  simp [take]

theorem takeBlob_encodeBlob_append {bs : Bytes} (h : bs.length < UInt32.size) (rest : Bytes) :
    takeBlob (encodeBlob bs ++ rest) = (.ok bs, rest) := by
  have hlen : bs.length % BigEndian.capacity 4 = bs.length := Nat.mod_eq_of_lt h
  rw [takeBlob, encodeBlob, List.append_assoc, take_append (BigEndian.length_encode ..)]
  simp only [BigEndian.decode_encode, hlen]
  exact take_append rfl rest

/-- A field that fits its length prefix is read back, and what follows stays. -/
theorem read_encode_append {f : Field} (h : f.Fits) (rest : Bytes) :
    read f.type (f.encode ++ rest) = (.ok f, rest) := by
  cases f with
  | signed v => simp [read, type, encode, take_append (BigEndian.length_ofSigned v), Except.map]
  | word v => simp [read, type, encode, take_append (BigEndian.length_ofWord v), Except.map]
  | long v =>
    have hv := v.toNat_lt
    have hmod : v.toNat % BigEndian.capacity 8 = v.toNat := Nat.mod_eq_of_lt hv
    simp [read, type, encode, take_append (BigEndian.length_encode 8 v.toNat), Except.map,
      BigEndian.decode_encode, hmod]
  | blob bs => simp [read, type, encode, takeBlob_encodeBlob_append h, Except.map]
  | text s =>
    have hs : (utf8 s).toByteArray = s.toByteArray := by
      apply ByteArray.ext
      simp [utf8]
    have hback : String.fromUTF8? s.toByteArray = some s := by
      simp only [String.fromUTF8?, s.isValidUTF8, dite_true]
      rfl
    simp [read, type, encode, takeBlob_encodeBlob_append h, hs, hback]

end Field

end PipelineWorker
