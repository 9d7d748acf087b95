/-
Three ways to take a frame off bytes.

`Frame.length?` looks at the header alone, `Frame.decode` at bytes that are all there, and
`Source.readMessage` at a stream of which only the next piece is.  They never disagree.

* `Delivers` — a stream brings these bytes, in any pieces and with any number of interrupted reads;
* `readExact_of_le`, `readExact_of_lt` — so many bytes are taken off, or the stream ends before;
* `readMessage_of_header` — a whole header decides how the message is read;
* `readMessage_of_decode`, `readMessage_of_tooLarge`, `readMessage_of_isPartial` — reading a message
  off a stream comes to what decoding its bytes does;
* `decodesAs_of_delivers` — reading again and again does what decoding again and again does;
* `decoders_agree` — **all three agree on every input**.
-/
import PipelineWorker.Message.Stream
import PipelineWorker.Proofs.Framing

namespace PipelineWorker

namespace Frame

/-! ### Slices -/

/-- Too much is announced for the one decoder exactly when it is for the other. -/
theorem length?_tooLarge_iff {bs : Bytes} {n limit : Nat} :
    length? bs = .error (.payloadTooLarge n limit) ↔
      decode bs = .error (.payloadTooLarge n limit) := by
  refine ⟨decode_of_length?_error, fun h => ?_⟩
  cases hl : length? bs with
  | error e =>
    rw [decode_of_length?_error hl] at h
    rw [Except.error.inj h]
  | ok total =>
    -- otherwise too few bytes are there, or all of them
    cases total with
    | none =>
      rw [decode_of_length?_none hl] at h
      cases h
    | some total =>
      have hd := decode_of_length?_some hl
      split at hd
      · rw [hd] at h
        cases h
      · obtain ⟨m, hm⟩ := hd
        rw [hm] at h
        cases h

/-- Bytes are not a frame because they announce too much or because there are too few of them. -/
theorem tooLarge_or_isPartial_of_decode_error {bs : Bytes} {e : CodecError}
    (h : decode bs = .error e) : (∃ n, e = .payloadTooLarge n maxPayload) ∨ IsPartial bs := by
  cases hl : length? bs with
  | error e' =>
    rw [decode_of_length?_error hl] at h
    obtain rfl : e' = e := Except.error.inj h
    exact .inl (exists_of_length?_error hl)
  | ok total =>
    refine .inr ⟨total, hl, fun n hn => Nat.lt_of_not_le fun hle => ?_⟩
    subst hn
    have hd := decode_of_length?_some hl
    rw [if_neg (Nat.not_lt.2 hle)] at hd
    obtain ⟨m, hm⟩ := hd
    rw [hm] at h
    cases h

/-- The header is all that is read of a frame before its payload. -/
theorem parseHeader_take {bs : Bytes} (h : headerLength ≤ bs.length) :
    parseHeader (bs.take headerLength) = parseHeader bs := by
  have htake : headerLength ≤ (bs.take headerLength).length := by
    rw [List.length_take]
    omega
  rw [← parseHeader_append htake (bs.drop headerLength), List.take_append_drop]

/-- What is left of a stream of frames behind all of its messages. -/
def remainder (bs : Bytes) : Bytes := bs.drop (span (messages bs))

theorem remainder_of_decode {bs : Bytes} {m : Message} {n : Nat} (h : decode bs = .ok (m, n)) :
    remainder bs = remainder (bs.drop n) := by
  rw [remainder, remainder, messages_eq_cons h, span_cons, List.drop_drop, (length_of_decode h).1]

theorem remainder_of_error {bs : Bytes} {e : CodecError} (h : decode bs = .error e) :
    remainder bs = bs := by
  rw [remainder, messages_eq_nil h, span_nil, List.drop_zero]

end Frame

namespace Source

/-! ### Streams -/

/-- The stream brings just these bytes before it ends: in any pieces, and with any number of
interrupted reads between them. -/
inductive Delivers : Bytes → Source → Prop
  | ended : Delivers [] []
  | interrupted {bs : Bytes} {src : Source} {f : OsFailure} (h : f.kind = .interrupted)
      (rest : Delivers bs src) : Delivers bs (.failure f :: src)
  | piece {c bs : Bytes} {src : Source} (h : c ≠ []) (rest : Delivers bs src) :
      Delivers (c ++ bs) (.data c :: src)

/-- As many bytes are taken as are asked for, wherever the pieces end. -/
theorem readExact_of_le {bs : Bytes} {src : Source} (h : Delivers bs src) :
    ∀ n ≤ bs.length, ∃ src',
      readExact n src = (.ok (bs.take n), src') ∧ Delivers (bs.drop n) src' := by
  -- The induction follows the pieces, and an interruption is a piece without bytes.
  induction h with
  | ended =>
    intro n hn
    obtain rfl : n = 0 := Nat.le_zero.1 hn
    exact ⟨[], by rw [readExact, List.take_zero], .ended⟩
  | @interrupted bs src f hf rest ih =>
    intro n hn
    cases n with
    | zero => exact ⟨.failure f :: src, by rw [readExact, List.take_zero], .interrupted hf rest⟩
    | succ n =>
      obtain ⟨src', hread, hrest⟩ := ih (n + 1) hn
      exact ⟨src', by rw [readExact, if_pos hf, hread], hrest⟩
  | @piece c bs src hc rest ih =>
    intro n hn
    have hempty : ¬ c.isEmpty = true := fun h => hc (List.isEmpty_iff.1 h)
    cases n with
    | zero => exact ⟨.data c :: src, by rw [readExact, List.take_zero], .piece hc rest⟩
    | succ n =>
      by_cases hlt : n + 1 < c.length
      · -- the piece is not used up
        have hdrop : c.drop (n + 1) ≠ [] := fun h => by
          have := List.drop_eq_nil_iff.1 h
          omega
        refine ⟨.data (c.drop (n + 1)) :: src, ?_, ?_⟩
        · rw [readExact, if_neg hempty, if_pos hlt, List.take_append_of_le_length (by omega)]
        · rw [List.drop_append_of_le_length (by omega)]
          exact .piece hdrop rest
      · have hle : c.length ≤ n + 1 := Nat.le_of_not_lt hlt
        rw [List.length_append] at hn
        obtain ⟨src', hread, hrest⟩ := ih (n + 1 - c.length) (by omega)
        refine ⟨src', ?_, ?_⟩
        · rw [readExact, if_neg hempty, if_neg hlt, hread, List.take_append,
            List.take_of_length_le hle]
          rfl
        · rw [List.drop_append, List.drop_of_length_le hle, List.nil_append]
          exact hrest

/-- The end of the stream is reported if it comes too early. -/
theorem readExact_of_lt {bs : Bytes} {src : Source} (h : Delivers bs src) :
    ∀ n, bs.length < n → (readExact n src).1 = .error (.plain .unexpectedEof) := by
  induction h with
  | ended =>
    intro n hn
    cases n with
    | zero => exact absurd hn (Nat.not_lt_zero _)
    | succ n => rw [readExact]
  | interrupted hf rest ih =>
    intro n hn
    cases n with
    | zero => exact absurd hn (Nat.not_lt_zero _)
    | succ n => rw [readExact, if_pos hf, ih (n + 1) hn]
  | @piece c bs src hc rest ih =>
    intro n hn
    rw [List.length_append] at hn
    have hempty : ¬ c.isEmpty = true := fun h => hc (List.isEmpty_iff.1 h)
    cases n with
    | zero => exact absurd hn (Nat.not_lt_zero _)
    | succ n =>
      have hmore := ih (n + 1 - c.length) (by omega)
      rw [readExact, if_neg hempty, if_neg (by omega)]
      dsimp only
      rw [hmore]
      rfl

/-! ### Messages off a stream -/

/-- Where a whole header comes, it decides how the message is read. -/
theorem readMessage_of_header {bs : Bytes} {src : Source} (hsrc : Delivers bs src)
    (hlen : ¬ bs.length < Frame.headerLength) :
    ∃ behind, Delivers (bs.drop Frame.headerLength) behind ∧
      readMessage src = match Frame.parseHeader bs with
        | .error e => (.error e, behind)
        | .ok (kind, length) =>
          match readExact length behind with
          | (.error f, src) => (.error (.stream f), src)
          | (.ok payload, src) => (.ok (.ofBytes kind payload), src) := by
  have hle : Frame.headerLength ≤ bs.length := Nat.le_of_not_lt hlen
  obtain ⟨behind, hheader, hbehind⟩ := readExact_of_le hsrc _ hle
  refine ⟨behind, hbehind, ?_⟩
  have hread := readMessage.eq_def src
  rw [hheader] at hread
  dsimp only at hread
  rw [Frame.parseHeader_take hle] at hread
  exact hread

/-- A frame that is all there is taken off the stream, and nothing more. -/
theorem readMessage_of_decode {bs : Bytes} {src : Source} (hsrc : Delivers bs src) {m : Message}
    {n : Nat} (h : Frame.decode bs = .ok (m, n)) :
    ∃ src', readMessage src = (.ok m, src') ∧ Delivers (bs.drop n) src' := by
  rw [Frame.decode] at h
  split at h
  · cases h
  · rename_i hlen
    obtain ⟨behind, hbehind, hread⟩ := readMessage_of_header hsrc hlen
    cases hp : Frame.parseHeader bs with
    | error e =>
      rw [hp] at h
      cases h
    | ok r =>
      rw [hp] at h hread
      dsimp only at h hread
      split at h
      · cases h
      · rename_i hlong
        obtain ⟨rfl, rfl⟩ := Prod.mk.inj (Except.ok.inj h)
        obtain ⟨src', hpayload, hrest⟩ :=
          readExact_of_le hbehind r.2 (by rw [List.length_drop]; omega)
        refine ⟨src', ?_, ?_⟩
        · rw [hread, hpayload]
        · rw [← List.drop_drop]
          exact hrest

/-- A header that announces too much is refused on the stream as it is in memory. -/
theorem readMessage_of_tooLarge {bs : Bytes} {src : Source} (hsrc : Delivers bs src)
    {n limit : Nat} (h : Frame.decode bs = .error (.payloadTooLarge n limit)) :
    (readMessage src).1 = .error (.payloadTooLarge n limit) := by
  rw [Frame.decode] at h
  split at h
  · cases h
  · rename_i hlen
    obtain ⟨behind, -, hread⟩ := readMessage_of_header hsrc hlen
    cases hp : Frame.parseHeader bs with
    | error e =>
      rw [hp] at h hread
      rw [hread]
      exact congrArg _ (Except.error.inj h)
    | ok r =>
      rw [hp] at h
      dsimp only at h
      split at h <;> cases h

/-- A stream that ends in the middle of a frame is reported to have ended. -/
theorem readMessage_of_isPartial {bs : Bytes} {src : Source} (hsrc : Delivers bs src)
    (h : Frame.IsPartial bs) :
    (readMessage src).1 = .error (.stream (.plain .unexpectedEof)) := by
  rcases Frame.isPartial_iff.1 h with hlen | ⟨n, hn, hlen⟩
  · -- the header is not complete
    obtain ⟨src', hheader⟩ : ∃ src', readExact Frame.headerLength src =
        (.error (.plain .unexpectedEof), src') := ⟨_, Prod.ext (readExact_of_lt hsrc _ hlen) rfl⟩
    rw [readMessage, hheader]
  · rw [Frame.length?] at hn
    split at hn
    · cases hn
    · rename_i hfull
      obtain ⟨behind, hbehind, hread⟩ := readMessage_of_header hsrc hfull
      cases hp : Frame.parseHeader bs with
      | error e =>
        rw [hp] at hn
        cases hn
      | ok r =>
        rw [hp] at hn hread
        obtain rfl := Option.some.inj (Except.ok.inj hn)
        have hshort : (bs.drop Frame.headerLength).length < r.2 := by
          rw [List.length_drop]
          omega
        obtain ⟨src', hpayload⟩ : ∃ src', readExact r.2 behind =
            (.error (.plain .unexpectedEof), src') :=
          ⟨_, Prod.ext (readExact_of_lt hbehind _ hshort) rfl⟩
        rw [hread]
        dsimp only
        rw [hpayload]

/-! ### All messages off a stream -/

/-- The stream behind the first `n` results of reading messages off it. -/
def after : Nat → Source → Source
  | 0, src => src
  | n + 1, src => after n (readMessage src).2

/-- What reading messages off a stream that brings these bytes fails with, in the end. -/
def Ending (bs : Bytes) (e : CodecError) : Prop :=
  (∃ n limit, Frame.decode (Frame.remainder bs) = .error (.payloadTooLarge n limit) ∧
      e = .payloadTooLarge n limit) ∨
    (Frame.IsPartial (Frame.remainder bs) ∧ e.isEof = true)

/-- Bytes that begin with no whole frame give no message on a stream either. -/
theorem exists_ending {bs : Bytes} {src : Source} (hsrc : Delivers bs src) {e : CodecError}
    (h : Frame.decode bs = .error e) :
    ∃ e', (readMessage src).1 = .error e' ∧ Ending bs e' := by
  have hwhole := Frame.remainder_of_error h
  rcases Frame.tooLarge_or_isPartial_of_decode_error h with ⟨n, rfl⟩ | hpart
  · exact ⟨_, readMessage_of_tooLarge hsrc h, .inl ⟨n, _, by rw [hwhole, h], rfl⟩⟩
  · exact ⟨_, readMessage_of_isPartial hsrc hpart, .inr ⟨by rw [hwhole]; exact hpart, rfl⟩⟩

/-- Reading messages off the stream does what taking frame after frame off the bytes does. -/
structure DecodesAs (bs : Bytes) (src : Source) : Prop where
  /-- The same messages are read in the same order, and then reading fails. -/
  results : ∃ e, readMessages ((Frame.messages bs).length + 1) src =
    (Frame.messages bs).map .ok ++ [.error e] ∧ Ending bs e
  /-- With the messages, just the bytes of their frames are taken. -/
  consumed : ∀ k ≤ (Frame.messages bs).length,
    Delivers (bs.drop (Frame.span ((Frame.messages bs).take k))) (after k src)

/-- **Reading frame after frame off a stream decodes what the stream brings.** -/
theorem decodesAs_of_delivers {bs : Bytes} {src : Source} (h : Delivers bs src) :
    DecodesAs bs src := by
  -- along the frames of the bytes; the stream behind a frame brings the rest of the bytes
  fun_induction Frame.messages bs generalizing src with
  | case1 bs m n hd ih =>
    -- a whole frame, and behind it the rest of the frames
    obtain ⟨src', hread, hrest⟩ := readMessage_of_decode h hd
    obtain ⟨⟨e, hresults, hending⟩, hconsumed⟩ := ih hrest
    constructor
    · refine ⟨e, ?_, ?_⟩
      · rw [Frame.messages_eq_cons hd, List.length_cons, readMessages, hread]
        dsimp only
        rw [hresults, List.map_cons, List.cons_append]
      · rw [Ending, Frame.remainder_of_decode hd]
        exact hending
    · intro k hk
      rw [Frame.messages_eq_cons hd] at hk ⊢
      cases k with
      | zero => exact h
      | succ k =>
        rw [List.length_cons] at hk
        rw [List.take_succ_cons, Frame.span_cons, ← List.drop_drop,
          ← (Frame.length_of_decode hd).1, after, hread]
        exact hconsumed k (by omega)
  | case2 bs e hd =>
    -- no whole frame is left; what there is decides how the reading ends
    have hnil := Frame.messages_eq_nil hd
    obtain ⟨e', hread, hending⟩ := exists_ending h hd
    constructor
    · refine ⟨e', ?_, hending⟩
      rw [hnil, List.length_nil, readMessages]
      dsimp only
      rw [hread, readMessages, List.map_nil, List.nil_append]
    · intro k hk
      rw [hnil] at hk ⊢
      obtain rfl : k = 0 := Nat.le_zero.1 hk
      exact h

end Source

namespace Frame

/-- **The three decoders agree on every input.** -/
theorem decoders_agree (bs : Bytes) :
    (length? bs = .ok none ↔ bs.length < 8) ∧
      (bs.length < 8 → decode bs = .error (.truncated 8 bs.length)) ∧
      (∀ n limit, length? bs = .error (.payloadTooLarge n limit) ↔
        decode bs = .error (.payloadTooLarge n limit)) ∧
      (∀ e, length? bs = .error e → ∃ n, e = .payloadTooLarge n maxPayload) ∧
      (∀ n, length? bs = .ok (some n) →
        (n ≤ bs.length → ∃ m, decode bs = .ok (m, n)) ∧
          (bs.length < n → decode bs = .error (.truncated n bs.length))) ∧
      ∀ src, Source.Delivers bs src → Source.DecodesAs bs src := by
  refine ⟨length?_eq_none_iff, fun h => decode_of_length?_none (length?_eq_none_iff.2 h),
    fun n limit => length?_tooLarge_iff, fun e => exists_of_length?_error, fun n hn => ?_,
    fun src => Source.decodesAs_of_delivers⟩
  have hd := decode_of_length?_some hn
  refine ⟨fun hle => ?_, fun hlt => ?_⟩
  · rw [if_neg (Nat.not_lt.2 hle)] at hd
    exact hd
  · rw [if_pos hlt] at hd
    exact hd

/-- A frame that comes in three pieces around an interrupted read, and behind it a header that
announces one byte too many. -/
theorem decoders_agree_pieces :
    let bs : Bytes := [0, 0, 0, 1, 0, 0, 0, 2, 7, 8, 255, 255, 255, 156, 16, 0, 0, 1, 5]
    let src : Source := [.data [0, 0, 0], .failure (.plain .interrupted), .data [1, 0, 0, 0, 2, 7],
      .data [8, 255, 255, 255, 156, 16, 0, 0, 1, 5]]
    length? bs = .ok (some 10) ∧ Source.Delivers bs src ∧ Source.DecodesAs bs src ∧
      (∃ m, decode bs = .ok (m, 10)) ∧
      decode (bs.take 9) = .error (.truncated 10 9) ∧
      Source.readMessages 2 src = [.ok (.ofBytes .quit [7, 8]),
        .error (.payloadTooLarge (maxPayload + 1) maxPayload)] := by
  intro bs src
  have hlength : length? bs = .ok (some 10) := rfl
  have hlast := Source.Delivers.ended.piece (List.cons_ne_nil 8 [255, 255, 255, 156, 16, 0, 0, 1, 5])
  have hsrc : Source.Delivers bs src :=
    ((hlast.piece (List.cons_ne_nil 1 [0, 0, 0, 2, 7])).interrupted rfl).piece
      (List.cons_ne_nil 0 [0, 0])
  obtain ⟨-, -, -, -, hlong, hstream⟩ := decoders_agree bs
  obtain ⟨-, -, -, -, hshort, -⟩ := decoders_agree (bs.take 9)
  exact ⟨hlength, hsrc, hstream src hsrc, (hlong 10 hlength).1 (by decide),
    (hshort 10 rfl).2 (by decide), by cbv⟩

end Frame

end PipelineWorker
