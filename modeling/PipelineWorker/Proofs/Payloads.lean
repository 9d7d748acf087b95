/-
Control payloads and their layouts.

A segment and a port are read off the front of a payload, a process id is a payload of its own.
Sizes and ports travel as signed words, and not all of these are read.

* `SegmentAnnouncement.decode_encode_append`, `DatamanagerAssignment.decode_encode_append` — what
  the readers make of what was written;
* `ReadsBack` — a reader takes certain byte strings only, and what it reads is written as they are;
* `control_payloads_read_back` — **what was written is read back within the limits of its words, and
  nothing but what could have been written is read**.
-/
import PipelineWorker.Message.Control
import PipelineWorker.Proofs.Fields

namespace PipelineWorker

/-! ### Signed words -/

namespace BigEndian

/-- The number of a word that is read as a signed one. -/
theorem toInt_toInt32 (v : UInt32) : v.toInt32.toInt = Int.bmod v.toNat 4294967296 :=
  BitVec.toInt_eq_toNat_bmod v.toBitVec

theorem toInt32_pos_iff (v : UInt32) :
    0 < v.toInt32.toInt ↔ 1 ≤ v.toNat ∧ v.toNat ≤ 2147483647 := by
  have hv := v.toNat_lt
  rw [toInt_toInt32, Int.bmod_def]
  split <;> omega

/-- Signed or not, a word is read as the same port. -/
theorem toInt32_port_iff (v : UInt32) :
    (1 ≤ v.toInt32.toInt ∧ v.toInt32.toInt ≤ 65535) ↔ 1 ≤ v.toNat ∧ v.toNat ≤ 65535 := by
  have hv := v.toNat_lt
  rw [toInt_toInt32, Int.bmod_def]
  split <;> omega

end BigEndian

open BigEndian

/-! ### Readers -/

/-- The reader takes just the byte strings that are `Accepted`, and what it reads is written as the
`part` of the byte string that tells it. -/
structure ReadsBack {α : Type} (encode : α → Bytes) (decode : Bytes → Except CodecError α)
    (Accepted : Bytes → Prop) (part : Bytes → Bytes) : Prop where
  accepts (bs : Bytes) : (∃ a, decode bs = .ok a) ↔ Accepted bs
  rewritten (bs : Bytes) (a : α) : decode bs = .ok a → encode a = part bs

/-- A reader that takes a value off the front looks at as many bytes as are written for it. -/
theorem ReadsBack.of_front {α : Type} {encode : α → Bytes} {decode : Bytes → Except CodecError α}
    {Accepted : Bytes → Prop} {n : Nat} (length : ∀ a, (encode a).length = n)
    (sound : ∀ bs a, decode bs = .ok a → Accepted bs)
    (complete : ∀ bs, Accepted bs → ∃ a rest, bs = encode a ++ rest ∧ decode bs = .ok a) :
    ReadsBack encode decode Accepted (List.take n) where
  accepts bs := by
    refine ⟨fun ⟨a, h⟩ => sound bs a h, fun h => ?_⟩
    obtain ⟨a, rest, -, ha⟩ := complete bs h
    exact ⟨a, ha⟩
  rewritten bs a h := by
    obtain ⟨b, rest, hbs, hb⟩ := complete bs (sound bs a h)
    obtain rfl : b = a := Except.ok.inj (hb.symm.trans h)
    rw [hbs, List.take_left' (length b)]

/-! ### Segments -/

namespace SegmentAnnouncement

/-- Two words are there, and the second one is positive. -/
def Accepted (bs : Bytes) : Prop :=
  8 ≤ bs.length ∧ 0 < (signedOf ((bs.drop 4).take 4)).toInt

theorem length_encode (a : SegmentAnnouncement) : a.encode.length = 8 := by
  rw [encode, List.length_append, length_ofSigned, length_ofSigned]

/-- **A segment is read as it was written if its size is a positive signed word.** -/
theorem decode_encode_append (a : SegmentAnnouncement) (rest : Bytes) :
    decode (a.encode ++ rest) =
      if 1 ≤ a.size.toNat ∧ a.size.toNat ≤ 2147483647 then .ok a
      else .error (.outOfRange .segmentSize a.size.toInt32.toInt) := by
  rw [decode, encode, List.append_assoc, Field.take_append (length_ofSigned _)]
  dsimp only [bind, Except.bind]
  rw [Field.take_append (length_ofSigned _)]
  dsimp only
  rw [signedOf_ofSigned, signedOf_ofSigned, UInt32.toUInt32_toInt32]
  by_cases h : 1 ≤ a.size.toNat ∧ a.size.toNat ≤ 2147483647
  · rw [if_pos h, if_neg (Int.not_le.2 ((toInt32_pos_iff _).2 h))]
  · rw [if_neg h, if_pos (Int.not_lt.1 (mt (toInt32_pos_iff _).1 h))]

/-- Any eight bytes are those of a segment. -/
theorem exists_encode_append {bs : Bytes} (h : 8 ≤ bs.length) :
    ∃ (a : SegmentAnnouncement) (rest : Bytes), bs = a.encode ++ rest := by
  obtain ⟨key, bs', rfl⟩ := Field.exists_ofWord_append (show 4 ≤ bs.length by omega)
  have h' : 4 ≤ bs'.length := by
    rw [List.length_append, length_ofWord] at h
    omega
  obtain ⟨size, rest, rfl⟩ := Field.exists_ofWord_append h'
  refine ⟨⟨⟨key.toInt32⟩, size⟩, rest, ?_⟩
  rw [encode, ofSigned, ofSigned, UInt32.toUInt32_toInt32, UInt32.toUInt32_toInt32,
    List.append_assoc]

/-- The size is told by the second word. -/
theorem accepted_encode_append {a : SegmentAnnouncement} {rest : Bytes} :
    Accepted (a.encode ++ rest) ↔ 1 ≤ a.size.toNat ∧ a.size.toNat ≤ 2147483647 := by
  have hlength : 8 ≤ (a.encode ++ rest).length := by
    rw [List.length_append, length_encode]
    exact Nat.le_add_right ..
  have hword : signedOf (((a.encode ++ rest).drop 4).take 4) = a.size.toInt32 := by
    rw [encode, List.append_assoc, List.drop_left' (length_ofSigned _),
      List.take_left' (length_ofSigned _), signedOf_ofSigned]
  rw [Accepted, hword, toInt32_pos_iff]
  exact ⟨fun h => h.2, fun h => ⟨hlength, h⟩⟩

theorem decode_of_short {bs : Bytes} (h : bs.length < 8) (a : SegmentAnnouncement) :
    decode bs ≠ .ok a := by
  rw [decode]
  rcases Nat.lt_or_ge bs.length 4 with hshort | hlong
  · rw [Field.take_of_lt hshort]
    exact fun h => nomatch h
  · have hrest : (bs.drop 4).length < 4 := by
      rw [List.length_drop]
      omega
    rw [Field.take_of_le hlong]
    dsimp only [bind, Except.bind]
    rw [Field.take_of_lt hrest]
    exact fun h => nomatch h

theorem readsBack : ReadsBack encode decode Accepted (List.take 8) := by
  refine .of_front length_encode (fun bs a h => ?_) fun bs h => ?_
  · rcases Nat.lt_or_ge bs.length 8 with hshort | hlong
    · exact absurd h (decode_of_short hshort a)
    · obtain ⟨b, rest, rfl⟩ := exists_encode_append hlong
      rw [decode_encode_append] at h
      split at h
      · rename_i hsize
        exact accepted_encode_append.2 hsize
      · cases h
  · obtain ⟨a, rest, rfl⟩ := exists_encode_append h.1
    refine ⟨a, rest, rfl, ?_⟩
    rw [decode_encode_append, if_pos (accepted_encode_append.1 h)]

end SegmentAnnouncement

/-! ### Ports -/

namespace DatamanagerAssignment

/-- A word is there, and it spells a number from 1 to 65535. -/
def Accepted (bs : Bytes) : Prop :=
  4 ≤ bs.length ∧ 1 ≤ BigEndian.decode (bs.take 4) ∧ BigEndian.decode (bs.take 4) ≤ 65535

theorem length_encode (a : DatamanagerAssignment) : a.encode.length = 4 := length_ofSigned _

/-- A port is written as the word of its number. -/
theorem encode_eq (a : DatamanagerAssignment) : a.encode = ofWord (UInt32.ofNat a.port.toNat) := rfl

/-- The reader looks at the first word. -/
theorem decode_ofWord_append (n : UInt32) (rest : Bytes) :
    decode (ofWord n ++ rest) =
      if 1 ≤ n.toInt32.toInt ∧ n.toInt32.toInt ≤ 65535 then
        .ok { port := UInt16.ofNat n.toInt32.toInt.toNat }
      else .error (.outOfRange .datamanagerPort n.toInt32.toInt) := by
  rw [decode, Field.take_append (length_ofWord n)]
  dsimp only [bind, Except.bind]
  rw [signedOf, wordOf_ofWord]

/-- **A port is read as it was written, unless it is zero.** -/
theorem decode_encode_append (a : DatamanagerAssignment) (rest : Bytes) :
    decode (a.encode ++ rest) =
      if a.port ≠ 0 then .ok a else .error (.outOfRange .datamanagerPort 0) := by
  have hlt := a.port.toNat_lt
  have hword : (UInt32.ofNat a.port.toNat).toInt32.toInt = a.port.toNat :=
    Int32.toInt_ofNat_of_lt (by omega)
  have hzero : a.port ≠ 0 ↔ 1 ≤ a.port.toNat := by
    rw [ne_eq, ← UInt16.toNat_inj]
    exact Nat.pos_iff_ne_zero.symm
  rw [encode_eq, decode_ofWord_append, hword]
  by_cases h : a.port ≠ 0
  · have hpos := hzero.1 h
    rw [if_pos h, if_pos (by omega), Int.toNat_natCast, UInt16.ofNat_toNat]
  · have hport : a.port.toNat = 0 := by
      have hnot := mt hzero.2 h
      omega
    rw [if_neg h, hport]
    rfl

theorem accepted_ofWord_append {n : UInt32} {rest : Bytes} :
    Accepted (ofWord n ++ rest) ↔ 1 ≤ n.toNat ∧ n.toNat ≤ 65535 := by
  have hlength : 4 ≤ (ofWord n ++ rest).length := by
    rw [List.length_append, length_ofWord]
    exact Nat.le_add_right ..
  rw [Accepted, List.take_left' (length_ofWord n), decode_ofWord]
  exact ⟨fun h => h.2, fun h => ⟨hlength, h⟩⟩

/-- Any word of a port from 1 to 65535 is that of an assignment. -/
theorem exists_encode_append {bs : Bytes} (h : Accepted bs) :
    ∃ (a : DatamanagerAssignment) (rest : Bytes), a.port ≠ 0 ∧ bs = a.encode ++ rest := by
  obtain ⟨n, rest, rfl⟩ := Field.exists_ofWord_append h.1
  obtain ⟨hpos, hle⟩ := accepted_ofWord_append.1 h
  have hport : (UInt16.ofNat n.toNat).toNat = n.toNat := by
    rw [UInt16.toNat_ofNat']
    omega
  refine ⟨⟨UInt16.ofNat n.toNat⟩, rest, fun hzero => ?_, ?_⟩
  · have hnone : n.toNat = 0 := by
      rw [← hport]
      exact congrArg UInt16.toNat hzero
    omega
  · rw [encode_eq, hport, UInt32.ofNat_toNat]

theorem readsBack : ReadsBack encode decode Accepted (List.take 4) := by
  refine .of_front length_encode (fun bs a h => ?_) fun bs h => ?_
  · rcases Nat.lt_or_ge bs.length 4 with hshort | hlong
    · rw [decode, Field.take_of_lt hshort] at h
      cases h
    · obtain ⟨n, rest, rfl⟩ := Field.exists_ofWord_append hlong
      rw [decode_ofWord_append] at h
      split at h
      · rename_i hn
        exact accepted_ofWord_append.2 ((toInt32_port_iff n).1 hn)
      · cases h
  · obtain ⟨a, rest, ha, rfl⟩ := exists_encode_append h
    refine ⟨a, rest, rfl, ?_⟩
    rw [decode_encode_append, if_pos ha]

end DatamanagerAssignment

/-! ### Process ids -/

namespace ProcessIdAnnouncement

theorem decode_encode (a : ProcessIdAnnouncement) : decode a.encode = .ok a := by
  rw [decode, encode, if_pos (length_ofWord _), wordOf_ofWord]

theorem readsBack : ReadsBack encode decode (·.length = 4) id where
  accepts bs := by
    refine ⟨fun ⟨a, h⟩ => ?_, fun h => ⟨⟨wordOf bs⟩, if_pos h⟩⟩
    rw [decode] at h
    split at h
    · assumption
    · cases h
  rewritten bs a h := by
    rw [decode] at h
    split at h
    · rename_i hlength
      obtain rfl := Except.ok.inj h
      exact ofWord_wordOf hlength
    · cases h

end ProcessIdAnnouncement

/-! ### All three -/

/-- **What was written is read back within the limits of its words, and nothing but what could have
been written is read.**  Behind a segment and behind a port there may stand anything, behind a
process id nothing. -/
theorem control_payloads_read_back (rest : Bytes) :
    ((∀ a : SegmentAnnouncement, SegmentAnnouncement.decode (a.encode ++ rest) =
        if 1 ≤ a.size.toNat ∧ a.size.toNat ≤ 2147483647 then .ok a
        else .error (.outOfRange .segmentSize a.size.toInt32.toInt)) ∧
      ReadsBack SegmentAnnouncement.encode SegmentAnnouncement.decode
        SegmentAnnouncement.Accepted (List.take 8)) ∧
    ((∀ a : DatamanagerAssignment, DatamanagerAssignment.decode (a.encode ++ rest) =
        if a.port ≠ 0 then .ok a else .error (.outOfRange .datamanagerPort 0)) ∧
      ReadsBack DatamanagerAssignment.encode DatamanagerAssignment.decode
        DatamanagerAssignment.Accepted (List.take 4)) ∧
    (∀ a : ProcessIdAnnouncement, ProcessIdAnnouncement.decode a.encode = .ok a) ∧
      ReadsBack ProcessIdAnnouncement.encode ProcessIdAnnouncement.decode (·.length = 4) id :=
  ⟨⟨fun a => a.decode_encode_append rest, SegmentAnnouncement.readsBack⟩,
    ⟨fun a => a.decode_encode_append rest, DatamanagerAssignment.readsBack⟩,
    ProcessIdAnnouncement.decode_encode, ProcessIdAnnouncement.readsBack⟩

/-- A size of 2^31 arrives as a negative one. -/
example : SegmentAnnouncement.decode (SegmentAnnouncement.encode ⟨⟨7⟩, 2147483648⟩) =
    .error (.outOfRange .segmentSize (-2147483648)) := rfl

end PipelineWorker
