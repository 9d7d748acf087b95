/-
Messages and frames determine each other.

What a frame does not carry is the origin, and whether a tag was written by a known kind or by an
unknown one that has its tag.  All else comes back, and every byte of a frame is accounted for.

* `Kind.ofTag_tag_iff` — the kinds that are read back as what they were;
* `header_of_parseHeader` — the eight bytes of a header are those of the kind and length read off it;
* `encode_of_decode` — a message that was decoded has the frame that it was decoded from;
* `eq_of_encode_prefix` — no frame goes on where another one ends;
* `framing_invertible` — **encoding and decoding undo each other**, in both directions.
-/
import PipelineWorker.Proofs.Framing

namespace PipelineWorker

namespace Kind

/-- The assigned tags are those from 1 to 15. -/
theorem isKnown_ofTag_iff {t : Int32} :
    (ofTag t).isKnown = true ↔ 1 ≤ t.toInt ∧ t.toInt ≤ 15 := by
  rw [ofTag]
  split
  case h_16 =>
    have hunknown : (unknown t).isKnown = false := rfl
    grind
  all_goals
    rename_i ht
    rw [ht]
    exact ⟨fun _ => by decide, fun _ => rfl⟩

/-- A kind is read back from its tag, unless it is an unknown one with an assigned tag. -/
theorem ofTag_tag_iff {k : Kind} :
    ofTag k.tag = k ↔ ¬ ∃ t, k = .unknown t ∧ (ofTag t).isKnown = true := by
  constructor
  · rintro h ⟨t, rfl, hknown⟩
    rw [show (unknown t).tag = t from rfl] at h
    rw [h] at hknown
    exact Bool.false_ne_true hknown
  · intro h
    cases k with
    | unknown t =>
      have hunknown : (ofTag t).isKnown ≠ true := fun hknown => h ⟨t, rfl, hknown⟩
      rw [Ne, isKnown_ofTag_iff] at hunknown
      show ofTag t = unknown t
      rw [ofTag]
      split
      case h_16 => rfl
      all_goals
        rename_i ht
        rw [ht] at hunknown
        exact absurd (by decide) hunknown
    | _ => rfl

end Kind

namespace Frame

/-! ### From bytes to the message and back -/

/-- **The bytes of a header are those of the kind and the length that are read off it.** -/
theorem header_of_parseHeader {bs : Bytes} {kind : Kind} {n : Nat} (hlen : headerLength ≤ bs.length)
    (h : parseHeader bs = .ok (kind, n)) :
    header kind n = bs.take headerLength ∧ n ≤ maxPayload := by
  have h8 : 8 ≤ bs.length := hlen
  have htag : (bs.take 4).length = 4 := by
    rw [List.length_take]
    omega
  have hlength : ((bs.drop 4).take 4).length = 4 := by
    rw [List.length_take, List.length_drop]
    omega
  rw [parseHeader] at h
  split at h
  · cases h
  · rename_i hmax
    obtain ⟨rfl, rfl⟩ := Prod.mk.inj (Except.ok.inj h)
    have hsecond := BigEndian.encode_decode ((bs.drop 4).take 4)
    rw [hlength] at hsecond
    refine ⟨?_, Nat.le_of_not_lt hmax⟩
    rw [header, Kind.tag_ofTag, BigEndian.ofSigned_signedOf htag, hsecond]
    exact (List.take_add (i := 4) (j := 4)).symm

/-- **A message that was decoded has the frame that it was decoded from.** -/
theorem encode_of_decode {bs : Bytes} {m : Message} {n : Nat} (h : decode bs = .ok (m, n)) :
    encode m = .ok (bs.take n) := by
  obtain ⟨hn, hle⟩ := length_of_decode h
  have hlen : headerLength ≤ bs.length := by omega
  rw [decode, if_neg (by omega)] at h
  cases hp : parseHeader bs with
  | error e =>
    rw [hp] at h
    cases h
  | ok r =>
    obtain ⟨kind, length⟩ := r
    obtain ⟨hheader, hmax⟩ := header_of_parseHeader hlen hp
    rw [hp] at h
    dsimp only at h
    split at h
    · cases h
    · rename_i hall
      obtain ⟨rfl, rfl⟩ := Prod.mk.inj (Except.ok.inj h)
      have hpayload : (Message.ofBytes kind ((bs.drop headerLength).take length)).payload.length
          = length := by omega
      refine encode_eq_ok_iff.2 ⟨by omega, ?_⟩
      rw [hpayload]
      show _ = header kind length ++ (bs.drop headerLength).take length
      rw [hheader]
      exact List.take_add

/-! ### No frame goes on where another one ends -/

/-- A frame is as long as its own bytes say. -/
theorem length_of_encode_prefix {m m' : Message} {frame frame' : Bytes} (h : encode m = .ok frame)
    (h' : encode m' = .ok frame') (hinitial : frame <+: frame') :
    m.payload.length = m'.payload.length := by
  obtain ⟨rest, rfl⟩ := hinitial
  have hdecoded := decode_encode_append h rest
  have hwhole := decode_encode_append h' []
  rw [List.append_nil] at hwhole
  have hspan := (decode_unique hdecoded hwhole).2
  omega

/-- **No frame is the beginning of another one.** -/
theorem eq_of_encode_prefix {m m' : Message} {frame frame' : Bytes} (h : encode m = .ok frame)
    (h' : encode m' = .ok frame') (hinitial : frame <+: frame') : frame = frame' := by
  have hpayload := length_of_encode_prefix h h' hinitial
  have hframe := (encode_eq_ok_iff.1 h).2
  have hframe' := (encode_eq_ok_iff.1 h').2
  refine hinitial.eq_of_length ?_
  rw [hframe, hframe', List.length_append, List.length_append, length_header, length_header,
    Payload.length_toList, Payload.length_toList, hpayload]

/-! ### Both directions -/

/-- **Encoding and decoding undo each other.**  The frame of a message, whatever follows it, decodes
to the message without its origin; only an unknown kind with an assigned tag comes back as another
one.  A message over the limit has no frame.  Bytes that were decoded are the frame of what came of
them.  And no frame is the beginning of another one. -/
theorem framing_invertible (m : Message) (bs : Bytes) :
    (m.payload.length ≤ maxPayload → ∃ frame, encode m = .ok frame ∧
      ∀ rest, ∃ m', decode (frame ++ rest) = .ok (m', 8 + m.payload.length) ∧
        m'.payload = m.payload ∧ m'.kind = .ofTag m.kind.tag ∧ m'.origin = none ∧
        (m'.kind = m.kind ↔ ¬ ∃ t, m.kind = .unknown t ∧ (Kind.ofTag t).isKnown = true)) ∧
    (maxPayload < m.payload.length →
      encode m = .error (.payloadTooLarge m.payload.length maxPayload)) ∧
    (∀ m' used, decode bs = .ok (m', used) → used ≤ bs.length ∧ encode m' = .ok (bs.take used)) ∧
    ∀ m' frame frame', encode m = .ok frame → encode m' = .ok frame' → frame <+: frame' →
      frame = frame' := by
  refine ⟨fun hle => ?_, fun hlt => ?_, fun m' used h => ?_, fun m' frame frame' h h' => ?_⟩
  · have hframe := encode_eq_ok_iff.2 ⟨hle, rfl⟩
    refine ⟨_, hframe, fun rest => ⟨_, decode_encode_append hframe rest, rfl, rfl, rfl, ?_⟩⟩
    exact Kind.ofTag_tag_iff
  · exact encode_eq_error_iff.2 ⟨hlt, rfl⟩
  · exact ⟨(length_of_decode h).2, encode_of_decode h⟩
  · exact eq_of_encode_prefix h h'

/-- A message of an unknown kind with the tag of `quit`, and a frame with a negative tag in front of
other bytes. -/
theorem framing_invertible_disguised :
    let m : Message := { kind := .unknown 1, payload := .ofList [7, 8], origin := some ⟨3⟩ }
    let frame : Bytes := [0, 0, 0, 1, 0, 0, 0, 2, 7, 8]
    let bs : Bytes := [255, 255, 255, 156, 0, 0, 0, 2, 1, 2, 9]
    m.payload.length ≤ maxPayload ∧ encode m = .ok frame ∧
      (∃ m', decode (frame ++ [9]) = .ok (m', 10) ∧ m'.kind = .quit ∧ m'.kind ≠ m.kind) ∧
      decode bs = .ok (.ofBytes (.unknown (-100)) [1, 2], 10) ∧
      encode (.ofBytes (.unknown (-100)) [1, 2]) = .ok (bs.take 10) ∧ ¬ frame <+: bs := by
  intro m frame bs
  obtain ⟨hencode, -, hdecode, hinitial⟩ := framing_invertible m bs
  have hle : m.payload.length ≤ maxPayload := by decide
  have hframe : encode m = .ok frame := by cbv
  have hread : decode bs = .ok (.ofBytes (.unknown (-100)) [1, 2], 10) := rfl
  obtain ⟨hused, hback⟩ := hdecode _ 10 hread
  refine ⟨hle, hframe, ?_, hread, hback, fun h => ?_⟩
  · obtain ⟨frame', hframe', hall⟩ := hencode hle
    obtain rfl : frame = frame' := Except.ok.inj (hframe.symm.trans hframe')
    obtain ⟨m', hm', -, hkind, -, hsame⟩ := hall [9]
    exact ⟨m', hm', hkind, fun h => hsame.1 h ⟨1, rfl, rfl⟩⟩
  · exact absurd h (by decide)

end Frame

end PipelineWorker
