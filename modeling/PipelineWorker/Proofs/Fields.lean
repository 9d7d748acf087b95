/-
Getters of structured payloads.

What a getter does is told by the layout of the bytes that are left (`Getting`): they begin with a
field as it is written, or they end too early, or they hold a text that is none.  A `Cursor` keeps
the whole payload and a place in it.  It takes neither for granted that its place is inside of the
payload nor that there is a slice between two places.

* `exists_getting_iff` — **a getter does what the layout tells, and nothing else**;
* `Cursor.read?_eq` — a reader that keeps a place is never at a loss, and does the same;
* `Cursor.reads_of_types` — **whatever is asked of a payload, in whatever order and after whatever
  failures, the place stays inside and moves forward, and only by what was used up**;
* `readAll_encodeAll_append` — **what was built is read back field by field, and what stands behind
  it is left**.
-/
import PipelineWorker.Message.Fields

namespace PipelineWorker

/-- How many bytes a field of that type takes, if they all take as many. -/
def FieldType.width? : FieldType → Option Nat
  | signed | word => some 4
  | long => some 8
  | blob | text => none

namespace Field

/-! ### One getter -/

/-- All that a getter can do on the bytes that are left: its answer, and how many of them it uses
up. -/
inductive Getting (bs : Bytes) : FieldType → Except CodecError Field → Nat → Prop
  /-- The bytes begin with the field, as it is written. -/
  | found {f : Field} (fits : f.Fits) (front : f.encode <+: bs) :
      Getting bs f.type (.ok f) f.encode.length
  /-- There are fewer bytes than the field takes. -/
  | short {t : FieldType} {w : Nat} (width : t.width? = some w) (few : bs.length < w) :
      Getting bs t (.error (.truncated w bs.length)) 0
  /-- There are fewer bytes than a length takes. -/
  | headless {t : FieldType} (width : t.width? = none) (few : bs.length < 4) :
      Getting bs t (.error (.truncated 4 bs.length)) 0
  /-- Behind the length there are fewer bytes than it tells. -/
  | cut {t : FieldType} (width : t.width? = none) {n : UInt32} (front : BigEndian.ofWord n <+: bs)
      (few : bs.length - 4 < n.toNat) :
      Getting bs t (.error (.truncated n.toNat (bs.length - 4))) 4
  /-- The bytes are all there, but they are those of no text. -/
  | garbled {b : Bytes} (fits : b.length < UInt32.size) (front : encodeBlob b <+: bs)
      (foreign : ∀ s, utf8 s ≠ b) : Getting bs .text (.error .invalidUtf8) (4 + b.length)

/-- The bytes that are to be turned into a field, and those behind them. -/
def taken (t : FieldType) (bs : Bytes) : Except CodecError Bytes × Bytes :=
  match t.width? with
  | some w => take w bs
  | none => takeBlob bs

/-- The field of that type that is made of these bytes. -/
def ofBytes : FieldType → Bytes → Except CodecError Field
  | .signed, bs => .ok (signed (BigEndian.signedOf bs))
  | .word, bs => .ok (word (BigEndian.wordOf bs))
  | .long, bs => .ok (long (UInt64.ofNat (BigEndian.decode bs)))
  | .blob, bs => .ok (blob bs)
  | .text, bs =>
    match String.fromUTF8? bs.toByteArray with
    | some s => .ok (text s)
    | none => .error .invalidUtf8

/-- A getter takes bytes and makes a field of them. -/
theorem read_eq (t : FieldType) (bs : Bytes) :
    read t bs = ((taken t bs).1.bind (ofBytes t), (taken t bs).2) := by
  have hmap (r : Except CodecError Bytes) (f : Bytes → Field) :
      r.map f = r.bind fun b => .ok (f b) := by cases r <;> rfl
  cases t with
  | signed => exact congrArg (·, _) (hmap ..)
  | word => exact congrArg (·, _) (hmap ..)
  | long => exact congrArg (·, _) (hmap ..)
  | blob => exact congrArg (·, _) (hmap ..)
  | text =>
    have htaken : taken .text bs = takeBlob bs := rfl
    rw [read, htaken]
    rcases takeBlob bs with ⟨e | b, rest⟩
    · rfl
    · dsimp only [Except.bind, ofBytes]
      cases String.fromUTF8? b.toByteArray <;> rfl

theorem read_of_width {t : FieldType} {w : Nat} (h : t.width? = some w) (bs : Bytes) :
    read t bs = ((take w bs).1.bind (ofBytes t), (take w bs).2) := by
  rw [read_eq, taken, h]

theorem read_of_no_width {t : FieldType} (h : t.width? = none) (bs : Bytes) :
    read t bs = ((takeBlob bs).1.bind (ofBytes t), (takeBlob bs).2) := by
  rw [read_eq, taken, h]

theorem take_of_lt {n : Nat} {bs : Bytes} (h : bs.length < n) :
    take n bs = (.error (.truncated n bs.length), bs) := if_pos h

theorem take_of_le {n : Nat} {bs : Bytes} (h : n ≤ bs.length) :
    take n bs = (.ok (bs.take n), bs.drop n) := if_neg (Nat.not_lt.2 h)

theorem takeBlob_of_lt {bs : Bytes} (h : bs.length < 4) :
    takeBlob bs = (.error (.truncated 4 bs.length), bs) := by
  rw [takeBlob, take_of_lt h]

theorem takeBlob_ofWord_append (n : UInt32) (rest : Bytes) :
    takeBlob (BigEndian.ofWord n ++ rest) = take n.toNat rest := by
  rw [takeBlob, take_append (BigEndian.length_ofWord n)]
  dsimp only
  rw [BigEndian.decode_ofWord]

theorem encodeBlob_eq {n : UInt32} {b : Bytes} (h : b.length = n.toNat) :
    encodeBlob b = BigEndian.ofWord n ++ b := by
  rw [encodeBlob, BigEndian.ofWord, h]

theorem length_encodeBlob (b : Bytes) : (encodeBlob b).length = 4 + b.length := by
  rw [encodeBlob, List.length_append, BigEndian.length_encode]

/-- Four bytes are a length. -/
theorem exists_ofWord_append {bs : Bytes} (h : 4 ≤ bs.length) :
    ∃ n rest, bs = BigEndian.ofWord n ++ rest := by
  have hlength : (bs.take 4).length = 4 := List.length_take_of_le h
  refine ⟨BigEndian.wordOf (bs.take 4), bs.drop 4, ?_⟩
  rw [BigEndian.ofWord_wordOf hlength, List.take_append_drop]

theorem utf8_of_fromUTF8? {b : Bytes} {s : String} (h : String.fromUTF8? b.toByteArray = some s) :
    utf8 s = b := by
  rw [String.fromUTF8?] at h
  split at h
  · obtain rfl := Option.some.inj h
    simp [utf8, String.fromUTF8]
  · cases h

/-- Bytes that cannot be read as a text are those of no text. -/
theorem utf8_ne_of_fromUTF8? {b : Bytes} (h : String.fromUTF8? b.toByteArray = none)
    (s : String) : utf8 s ≠ b := by
  rintro rfl
  have hback : (utf8 s).toByteArray = s.toByteArray := by
    apply ByteArray.ext
    simp [utf8]
  rw [hback, String.fromUTF8?, dif_pos s.isValidUTF8] at h
  cases h

/-- Any bytes of the right number are those of a field of fixed width. -/
theorem exists_of_width {t : FieldType} {w : Nat} (hwidth : t.width? = some w) {b : Bytes}
    (h : b.length = w) : ∃ f : Field, ofBytes t b = .ok f ∧ f.type = t ∧ f.Fits ∧ f.encode = b := by
  cases t with
  | signed =>
    obtain rfl := Option.some.inj hwidth
    exact ⟨signed _, rfl, rfl, trivial, BigEndian.ofSigned_signedOf h⟩
  | word =>
    obtain rfl := Option.some.inj hwidth
    exact ⟨word _, rfl, rfl, trivial, BigEndian.ofWord_wordOf h⟩
  | long =>
    obtain rfl := Option.some.inj hwidth
    refine ⟨long _, rfl, rfl, trivial, ?_⟩
    have hlt := BigEndian.decode_lt b
    have hback := BigEndian.encode_decode b
    rw [h] at hlt hback
    have hmod : BigEndian.decode b % 2 ^ 64 = BigEndian.decode b := Nat.mod_eq_of_lt hlt
    rw [encode, UInt64.toNat_ofNat', hmod, hback]
  | blob | text => cases hwidth

/-- Bytes that stand behind their length are a blob, and a text if they are the bytes of one. -/
theorem getting_of_encodeBlob {t : FieldType} (hwidth : t.width? = none) {b : Bytes}
    (hfits : b.length < UInt32.size) (rest : Bytes) :
    Getting (encodeBlob b ++ rest) t (ofBytes t b) (4 + b.length) := by
  have hfront : encodeBlob b <+: encodeBlob b ++ rest := List.prefix_append ..
  cases t with
  | signed | word | long => cases hwidth
  | blob =>
    rw [← length_encodeBlob]
    exact .found (f := blob b) hfits hfront
  | text =>
    rw [ofBytes]
    cases hs : String.fromUTF8? b.toByteArray with
    | some s =>
      obtain rfl := utf8_of_fromUTF8? hs
      rw [← length_encodeBlob]
      exact .found (f := text s) hfits hfront
    | none => exact .garbled hfits hfront (utf8_ne_of_fromUTF8? hs)

/-- **A getter does what the layout tells.** -/
theorem getting_read (t : FieldType) (bs : Bytes) :
    ∃ k, Getting bs t (read t bs).1 k ∧ (read t bs).2 = bs.drop k := by
  cases hwidth : t.width? with
  | some w =>
    rw [read_of_width hwidth]
    rcases Nat.lt_or_ge bs.length w with hshort | hlong
    · rw [take_of_lt hshort]
      exact ⟨0, .short hwidth hshort, rfl⟩
    · have hlength : (bs.take w).length = w := List.length_take_of_le hlong
      obtain ⟨f, hf, rfl, hfits, hencode⟩ := exists_of_width hwidth hlength
      have hfound := Getting.found hfits (hencode ▸ List.take_prefix w bs)
      rw [hencode, hlength, ← hf] at hfound
      rw [take_of_le hlong]
      exact ⟨w, hfound, rfl⟩
  | none =>
    rw [read_of_no_width hwidth]
    rcases Nat.lt_or_ge bs.length 4 with hshort | hlong
    · rw [takeBlob_of_lt hshort]
      exact ⟨0, .headless hwidth hshort, rfl⟩
    obtain ⟨n, rest, rfl⟩ := exists_ofWord_append hlong
    have hlength : (BigEndian.ofWord n ++ rest).length - 4 = rest.length := by simp
    rw [takeBlob_ofWord_append]
    rcases Nat.lt_or_ge rest.length n.toNat with hcut | hwhole
    · have hgetting := Getting.cut hwidth (List.prefix_append (BigEndian.ofWord n) rest)
        (hlength ▸ hcut)
      rw [hlength] at hgetting
      rw [take_of_lt hcut]
      exact ⟨4, hgetting, (List.drop_left' (BigEndian.length_ofWord n)).symm⟩
    · have hblob : (rest.take n.toNat).length = n.toNat := List.length_take_of_le hwhole
      have hfits : (rest.take n.toNat).length < UInt32.size := by
        rw [hblob]
        exact n.toNat_lt
      have hgetting := getting_of_encodeBlob hwidth hfits (rest.drop n.toNat)
      rw [encodeBlob_eq hblob, List.append_assoc, List.take_append_drop, hblob] at hgetting
      rw [take_of_le hwhole]
      refine ⟨4 + n.toNat, hgetting, ?_⟩
      rw [← List.drop_drop, List.drop_left' (BigEndian.length_ofWord n)]

/-- A getter has one answer, and uses up one number of bytes. -/
theorem Getting.read_eq {bs : Bytes} {t : FieldType} {x : Except CodecError Field} {k : Nat}
    (h : Getting bs t x k) : read t bs = (x, bs.drop k) := by
  cases h with
  | found fits front =>
    obtain ⟨rest, rfl⟩ := front
    rw [read_encode_append fits, List.drop_left' rfl]
  | short width few =>
    rw [read_of_width width, take_of_lt few]
    rfl
  | headless width few =>
    rw [read_of_no_width width, takeBlob_of_lt few]
    rfl
  | @cut _ width n front few =>
    obtain ⟨rest, rfl⟩ := front
    have hlength : (BigEndian.ofWord n ++ rest).length - 4 = rest.length := by simp
    rw [hlength] at few ⊢
    rw [read_of_no_width width, takeBlob_ofWord_append, take_of_lt few,
      List.drop_left' (BigEndian.length_ofWord n)]
    rfl
  | @garbled b fits front foreign =>
    obtain ⟨rest, rfl⟩ := front
    rw [read, takeBlob_encodeBlob_append fits, ← length_encodeBlob, List.drop_left' rfl]
    dsimp only
    cases hs : String.fromUTF8? b.toByteArray with
    | some s => exact absurd (utf8_of_fromUTF8? hs) (foreign s)
    | none => rfl

/-- A getter uses up only bytes that are there. -/
theorem Getting.le_length {bs : Bytes} {t : FieldType} {x : Except CodecError Field} {k : Nat}
    (h : Getting bs t x k) : k ≤ bs.length := by
  cases h with
  | found fits front => exact front.length_le
  | short | headless => exact Nat.zero_le _
  | cut width front => exact BigEndian.length_ofWord _ ▸ front.length_le
  | garbled fits front => exact length_encodeBlob _ ▸ front.length_le

/-- **A getter does what the layout tells, and nothing else.** -/
theorem exists_getting_iff (t : FieldType) (bs : Bytes) :
    ∃ k ≤ bs.length, (read t bs).2 = bs.drop k ∧
      ∀ x j, Getting bs t x j ↔ x = (read t bs).1 ∧ j = k := by
  obtain ⟨k, hgetting, hleft⟩ := getting_read t bs
  refine ⟨k, hgetting.le_length, hleft, fun x j => ⟨fun h => ?_, ?_⟩⟩
  · have hdrop : bs.drop j = bs.drop k := by rw [← hleft, h.read_eq]
    have hmin := List.drop_eq_drop_iff.1 hdrop
    rw [Nat.min_eq_left h.le_length, Nat.min_eq_left hgetting.le_length] at hmin
    exact ⟨by rw [h.read_eq], hmin⟩
  · rintro ⟨rfl, rfl⟩
    exact hgetting

/-! ### A place in the payload -/

/-- A reader that keeps the whole payload and its place in it. -/
structure Cursor where
  whole : Bytes
  place : Nat
  deriving DecidableEq, Repr

namespace Cursor

/-- How many bytes are left.  That means nothing where the place is behind the end. -/
def remaining? (c : Cursor) : Option Nat :=
  if c.place ≤ c.whole.length then some (c.whole.length - c.place) else none

/-- The next `n` bytes, if that is a slice of the payload. -/
def slice? (n : Nat) (c : Cursor) : Option Bytes :=
  if c.place + n ≤ c.whole.length then some ((c.whole.drop c.place).take n) else none

/-- Takes `n` bytes, or none if fewer are left. -/
def take? (n : Nat) (c : Cursor) : Option (Except CodecError Bytes × Cursor) := do
  let left ← c.remaining?
  if left < n then
    return (.error (.truncated n left), c)
  else
    return (.ok (← c.slice? n), { c with place := c.place + n })

/-- Takes a length and then as many bytes as it says. -/
def takeBlob? (c : Cursor) : Option (Except CodecError Bytes × Cursor) := do
  match ← c.take? 4 with
  | (.error e, c) => return (.error e, c)
  | (.ok n, c) => c.take? (BigEndian.decode n)

/-- Takes the bytes that are to be turned into a field. -/
def taken? (t : FieldType) (c : Cursor) : Option (Except CodecError Bytes × Cursor) :=
  match t.width? with
  | some w => c.take? w
  | none => c.takeBlob?

/-- Reads one field. -/
def read? (t : FieldType) (c : Cursor) : Option (Except CodecError Field × Cursor) :=
  (c.taken? t).map fun (bs, c) => (bs.bind (ofBytes t), c)

/-- Reads fields one after the other, going on after failures. -/
def readAll? : List FieldType → Cursor → Option (List (Except CodecError Field × Cursor))
  | [], _ => some []
  | t :: ts, c => do
    let r ← c.read? t
    return r :: (← readAll? ts r.2)

/-- The bytes behind the place. -/
def left (c : Cursor) : Bytes := c.whole.drop c.place

/-- The cursor that has used up the next `k` bytes. -/
def skip (k : Nat) (c : Cursor) : Cursor := { c with place := c.place + k }

variable {c : Cursor}

theorem length_left (c : Cursor) : c.left.length = c.whole.length - c.place := List.length_drop

theorem left_skip (k : Nat) (c : Cursor) : (c.skip k).left = c.left.drop k := List.drop_drop.symm

theorem inside_skip {k : Nat} (h : c.place ≤ c.whole.length) (hk : k ≤ c.left.length) :
    (c.skip k).place ≤ (c.skip k).whole.length := by
  rw [length_left] at hk
  show c.place + k ≤ c.whole.length
  omega

theorem take?_of_lt {n : Nat} (h : c.place ≤ c.whole.length) (hn : c.left.length < n) :
    c.take? n = some (.error (.truncated n c.left.length), c) := by
  rw [length_left] at hn ⊢
  simp [take?, remaining?, h, hn]

theorem take?_of_le {n : Nat} (h : c.place ≤ c.whole.length) (hn : n ≤ c.left.length) :
    c.take? n = some (.ok (c.left.take n), c.skip n) := by
  have hslice : c.slice? n = some (c.left.take n) := if_pos (inside_skip h hn)
  rw [length_left] at hn
  simp [take?, remaining?, h, Nat.not_lt.2 hn, hslice, skip]

/-- A cursor did what was done on the bytes behind its place: it gave the same answer, and stands
where those bytes begin that were left. -/
def Follows {α : Type} (c : Cursor) (x : Option (α × Cursor)) (r : α × Bytes) : Prop :=
  ∃ k ≤ c.left.length, x = some (r.1, c.skip k) ∧ r.2 = c.left.drop k

theorem follows_take? (h : c.place ≤ c.whole.length) (n : Nat) :
    c.Follows (c.take? n) (take n c.left) := by
  rcases Nat.lt_or_ge c.left.length n with hn | hn
  · rw [take?_of_lt h hn, take_of_lt hn]
    exact ⟨0, Nat.zero_le _, rfl, rfl⟩
  · rw [take?_of_le h hn, take_of_le hn]
    exact ⟨n, hn, rfl, rfl⟩

theorem follows_takeBlob? (h : c.place ≤ c.whole.length) :
    c.Follows c.takeBlob? (takeBlob c.left) := by
  obtain ⟨k, hk, hc, hleft⟩ := follows_take? h 4
  rw [takeBlob?, hc, takeBlob]
  generalize take 4 c.left = r at hleft
  rcases r with ⟨e | b, rest⟩
  · exact ⟨k, hk, rfl, hleft⟩
  · -- the second take goes on from where the first one stopped
    obtain rfl : rest = c.left.drop k := hleft
    obtain ⟨j, hj, hc', hleft'⟩ := follows_take? (inside_skip h hk) (BigEndian.decode b)
    rw [left_skip] at hj hc' hleft'
    refine ⟨k + j, ?_, ?_, ?_⟩
    · rw [List.length_drop] at hj
      omega
    · show (c.skip k).take? (BigEndian.decode b) = _
      rw [hc', skip, skip, skip, Nat.add_assoc]
    · rw [← List.drop_drop]
      exact hleft'

/-- **A reader that keeps a place is never at a loss, and does the same.** -/
theorem read?_eq (h : c.place ≤ c.whole.length) (t : FieldType) :
    c.Follows (c.read? t) (read t c.left) := by
  have htaken : c.Follows (c.taken? t) (taken t c.left) := by
    rw [taken?, taken]
    cases t.width? with
    | some w => exact follows_take? h w
    | none => exact follows_takeBlob? h
  obtain ⟨k, hk, hc, hleft⟩ := htaken
  rw [read?, hc, read_eq]
  exact ⟨k, hk, rfl, hleft⟩

end Cursor

/-! ### Getters in a row -/

/-- Getters one after the other, from a place in the payload on: their answers, and the places at
which they stop.  Each goes on from where the one before it stopped, and does the one thing that the
layout tells. -/
inductive Reads (whole : Bytes) :
    Nat → List FieldType → List (Except CodecError Field × Nat) → Prop
  | done (place : Nat) : Reads whole place [] []
  | next {place k : Nat} {t : FieldType} {x : Except CodecError Field} {ts : List FieldType}
      {answers : List (Except CodecError Field × Nat)}
      (getting : ∀ y j, Getting (whole.drop place) t y j ↔ y = x ∧ j = k)
      (inside : place + k ≤ whole.length) (later : Reads whole (place + k) ts answers) :
      Reads whole place (t :: ts) ((x, place + k) :: answers)

theorem Cursor.reads_from (whole : Bytes) (types : List FieldType) {place : Nat}
    (h : place ≤ whole.length) :
    ∃ answers, Reads whole place types answers ∧
      readAll? types ⟨whole, place⟩ = some (answers.map fun a => (a.1, ⟨whole, a.2⟩)) ∧
      readAll types (whole.drop place) = answers.map fun a => (a.1, whole.drop a.2) := by
  induction types generalizing place with
  | nil => exact ⟨[], .done place, rfl, rfl⟩
  | cons t ts ih =>
    obtain ⟨k, hk, hcursor, hleft⟩ := read?_eq (c := ⟨whole, place⟩) h t
    obtain ⟨j, hj, hleft', hgetting⟩ := exists_getting_iff t (whole.drop place)
    -- both use up the same bytes
    obtain rfl : j = k := by
      have hmin := List.drop_eq_drop_iff.1 (hleft'.symm.trans hleft)
      have hk' : k ≤ (whole.drop place).length := hk
      rwa [Nat.min_eq_left hj, Nat.min_eq_left hk'] at hmin
    have hinside : place + j ≤ whole.length := inside_skip h hk
    obtain ⟨answers, hreads, hcursors, hbytes⟩ := ih hinside
    refine ⟨_, .next hgetting hinside hreads, ?_, ?_⟩
    · rw [readAll?, hcursor]
      show (do return _ :: (← readAll? ts ⟨whole, place + j⟩)) = _
      rw [hcursors]
      rfl
    · rw [List.drop_drop] at hleft'
      rw [readAll, hleft', hbytes, List.map_cons, ← hleft']

/-- **Whatever is asked of a payload, in whatever order and after whatever failures, the place stays
inside and moves forward, and only by what was used up.** -/
theorem Cursor.reads_of_types (whole : Bytes) (types : List FieldType) :
    ∃ answers, Reads whole 0 types answers ∧
      readAll? types ⟨whole, 0⟩ = some (answers.map fun a => (a.1, ⟨whole, a.2⟩)) ∧
      readAll types whole = answers.map fun a => (a.1, whole.drop a.2) :=
  Cursor.reads_from whole types (Nat.zero_le _)

/-- Too great a length is used up, and so is a text that is none; a word that is cut off is not. -/
example : readAll [.text, .text, .word] [0, 0, 0, 9, 0, 0, 0, 1, 255, 7] =
    [(.error (.truncated 9 6), [0, 0, 0, 1, 255, 7]), (.error .invalidUtf8, [7]),
      (.error (.truncated 4 1), [7])] := rfl

/-! ### What was built -/

instance (f : Field) : Decidable f.Fits :=
  match f with
  | signed _ | word _ | long _ => inferInstanceAs (Decidable True)
  | blob bs => inferInstanceAs (Decidable (bs.length < UInt32.size))
  | text s => inferInstanceAs (Decidable ((utf8 s).length < UInt32.size))

theorem read_encodeAll_cons {f : Field} (h : f.Fits) (fs : List Field) (rest : Bytes) :
    read f.type (encodeAll (f :: fs) ++ rest) = (.ok f, encodeAll fs ++ rest) := by
  have hcons : encodeAll (f :: fs) = f.encode ++ encodeAll fs := List.flatMap_cons
  rw [hcons, List.append_assoc]
  exact read_encode_append h _

/-- **What was built is read back field by field, each getter uses up the bytes of its field, and
what stands behind the fields is left.** -/
theorem readAll_encodeAll_append {fields : List Field} (h : ∀ f ∈ fields, f.Fits) (rest : Bytes) :
    readAll (fields.map type) (encodeAll fields ++ rest) =
        (fields.mapIdx fun i f => (.ok f, encodeAll (fields.drop (i + 1)) ++ rest)) ∧
      (fields.map type).foldl (fun bs t => (read t bs).2) (encodeAll fields ++ rest) = rest := by
  induction fields with
  | nil => exact ⟨rfl, rfl⟩
  | cons f fs ih =>
    obtain ⟨hfits, hlater⟩ := List.forall_mem_cons.1 h
    obtain ⟨hread, hleft⟩ := ih hlater
    have hfirst := read_encodeAll_cons hfits fs rest
    constructor
    · rw [List.map_cons, readAll, hfirst, List.mapIdx_cons]
      exact congrArg (_ :: ·) hread
    · rw [List.map_cons, List.foldl_cons, hfirst]
      exact hleft

/-- Fields of all types, an empty one and a text that is not ASCII among them. -/
theorem readAll_encodeAll_append_mixed :
    let fields := [signed (-7), text "façade", blob [], long 1099511627776, word 4294967295,
      blob [0, 255]]
    (∀ f ∈ fields, f.Fits) ∧
      readAll (fields.map type) (encodeAll fields ++ [9, 9]) =
        (fields.mapIdx fun i f => (.ok f, encodeAll (fields.drop (i + 1)) ++ [9, 9])) ∧
      (fields.map type).foldl (fun bs t => (read t bs).2) (encodeAll fields ++ [9, 9])
        = [9, 9] := by
  intro fields
  have hfits : ∀ f ∈ fields, f.Fits := by decide
  exact ⟨hfits, readAll_encodeAll_append hfits [9, 9]⟩

end Field

end PipelineWorker
