/-
Byte streams as sequences of frames.

`Frame.messages bs` decodes `bs` frame by frame from its start, up to the first frame that is not
complete or not allowed.  Where a stream is cut does not matter:

* `length?_append`, `decode_append` — a frame that has begun is the same frame whatever follows;
* `messages_eq_cons` — the first message of a stream and the messages of the rest;
* `messages_of_prefix` — behind the first messages of a stream, `span` bytes on, come the others;
* `IsPartial` — the bytes of a frame that has begun and is not complete.
-/
import PipelineWorker.Message.Frame
import PipelineWorker.Total

namespace PipelineWorker

namespace Frame

/-! ### What follows a frame does not matter -/

theorem parseHeader_append {bs : Bytes} (h : headerLength ≤ bs.length) (more : Bytes) :
    parseHeader (bs ++ more) = parseHeader bs := by
  have h8 : 8 ≤ bs.length := h
  have hdrop : (bs ++ more).drop 4 = bs.drop 4 ++ more := List.drop_append_of_le_length (by omega)
  have hlen : ((bs ++ more).drop 4).take 4 = (bs.drop 4).take 4 := by
    rw [hdrop, List.take_append_of_le_length (by rw [List.length_drop]; omega)]
  have htag : (bs ++ more).take 4 = bs.take 4 := List.take_append_of_le_length (by omega)
  simp only [parseHeader, hlen, htag]

theorem length?_append {bs : Bytes} (h : headerLength ≤ bs.length) (more : Bytes) :
    length? (bs ++ more) = length? bs := by
  have hmore : ¬ (bs ++ more).length < headerLength := by
    rw [List.length_append]
    omega
  rw [length?, length?, if_neg hmore, if_neg (by omega), parseHeader_append h]

/-- A refused header refuses the frame. -/
theorem decode_of_length?_error {bs : Bytes} {e : CodecError} (h : length? bs = .error e) :
    decode bs = .error e := by
  rw [length?] at h
  split at h
  · simp at h
  · rename_i hlen
    rw [decode, if_neg hlen]
    cases hp : parseHeader bs with
    | error e' =>
      rw [hp] at h
      simpa only [Except.error.injEq] using h
    | ok r =>
      rw [hp] at h
      simp at h

/-- A header is refused for what it announces, not for a failure of the stream. -/
theorem exists_of_length?_error {bs : Bytes} {e : CodecError} (h : length? bs = .error e) :
    ∃ n, e = .payloadTooLarge n maxPayload := by
  rw [length?] at h
  split at h
  · simp at h
  · unfold parseHeader at h
    dsimp only at h
    split at h
    · simp at h
    · rename_i hp
      split at hp
      · simp only [Except.error.injEq] at h hp
        exact ⟨_, h ▸ hp.symm⟩
      · simp at hp

/-- Without a whole header there is no frame. -/
theorem decode_of_length?_none {bs : Bytes} (h : length? bs = .ok none) :
    decode bs = .error (.truncated headerLength bs.length) := by
  rw [decode, if_pos (length?_eq_none_iff.1 h)]

/-- The frame is decoded as soon as all its bytes are there. -/
theorem decode_of_length?_some {bs : Bytes} {n : Nat} (h : length? bs = .ok (some n)) :
    if bs.length < n then decode bs = .error (.truncated n bs.length)
    else ∃ m, decode bs = .ok (m, n) := by
  rw [length?] at h
  split at h
  · simp at h
  · rename_i hlen
    cases hp : parseHeader bs with
    | error e =>
      rw [hp] at h
      simp at h
    | ok r =>
      rw [hp] at h
      simp only [Except.ok.injEq, Option.some.injEq] at h
      subst h
      rw [decode, if_neg hlen, hp]
      split
      · rename_i hn
        simp only [if_pos hn]
      · rename_i hn
        simp only [if_neg hn]
        exact ⟨_, rfl⟩

/-- A frame is as long as its header and its payload, and all of it is there. -/
theorem length_of_decode {bs : Bytes} {m : Message} {n : Nat} (h : decode bs = .ok (m, n)) :
    n = headerLength + m.payload.length ∧ n ≤ bs.length := by
  rw [decode] at h
  split at h
  · simp at h
  · cases hp : parseHeader bs with
    | error e =>
      rw [hp] at h
      simp at h
    | ok r =>
      rw [hp] at h
      dsimp only at h
      split at h
      · simp at h
      · rename_i hlen
        simp only [Except.ok.injEq, Prod.mk.injEq] at h
        obtain ⟨rfl, rfl⟩ := h
        refine ⟨?_, by omega⟩
        simp only [Message.ofBytes, Payload.length_ofList, List.length_take, List.length_drop]
        omega

/-- What starts the bytes is one frame. -/
theorem decode_unique {bs : Bytes} {m m' : Message} {n n' : Nat} (h : decode bs = .ok (m, n))
    (h' : decode bs = .ok (m', n')) : m = m' ∧ n = n' := by
  rw [h, Except.ok.injEq, Prod.mk.injEq] at h'
  exact h'

/-- A frame is the same frame whatever follows it. -/
theorem decode_append {bs : Bytes} {m : Message} {n : Nat} (h : decode bs = .ok (m, n))
    (more : Bytes) : decode (bs ++ more) = .ok (m, n) := by
  have hn := length_of_decode h
  have h8 : headerLength ≤ bs.length := by omega
  have hmore : (bs ++ more).length = bs.length + more.length := List.length_append
  rw [decode] at h ⊢
  rw [if_neg (by omega), parseHeader_append h8]
  rw [if_neg (by omega)] at h
  cases hp : parseHeader bs with
  | error e =>
    rw [hp] at h
    simp at h
  | ok r =>
    rw [hp] at h
    dsimp only at h ⊢
    split at h
    · simp at h
    · rename_i hlen
      rw [if_neg (by omega), ← h, List.drop_append_of_le_length h8,
        List.take_append_of_le_length (by rw [List.length_drop]; omega)]

/-! ### A stream of frames -/

/-- The messages of a stream, frame by frame from its start. -/
def messages (bs : Bytes) : List Message :=
  match _h : decode bs with
  | .ok (m, n) => m :: messages (bs.drop n)
  | .error _ => []
termination_by bs.length
decreasing_by
  have hn := length_of_decode _h
  have : headerLength = 8 := rfl
  rw [List.length_drop]
  omega

/-- The first message of a stream and the messages of the rest. -/
theorem messages_eq_cons {bs : Bytes} {m : Message} {n : Nat} (h : decode bs = .ok (m, n)) :
    messages bs = m :: messages (bs.drop n) := by
  rw [messages]
  split
  · rename_i h'
    obtain ⟨rfl, rfl⟩ := decode_unique h h'
    rfl
  · rename_i h'
    simp [h] at h'

theorem messages_eq_nil {bs : Bytes} {e : CodecError} (h : decode bs = .error e) :
    messages bs = [] := by
  rw [messages]
  split
  · rename_i h'
    simp [h] at h'
  · rfl

/-- How many bytes the frames of these messages take. -/
def span (ms : List Message) : Nat := total (fun m => headerLength + m.payload.length) ms

@[simp] theorem span_nil : span [] = 0 := rfl

@[simp] theorem span_cons (m : Message) (ms : List Message) :
    span (m :: ms) = headerLength + m.payload.length + span ms := rfl

theorem span_append (ms ns : List Message) : span (ms ++ ns) = span ms + span ns := by
  induction ms with
  | nil => simp
  | cons m ms ih => simp [ih, Nat.add_assoc]

@[simp] theorem span_map_withOrigin (ms : List Message) (id : ConnectionId) :
    span (ms.map (·.withOrigin id)) = span ms := by
  induction ms with
  | nil => rfl
  | cons m ms ih => rw [List.map_cons, span_cons, span_cons, ih, Message.payload_withOrigin]

/-- A stream with a first message begins with its frame. -/
theorem decode_of_messages_eq_cons {bs : Bytes} {m : Message} {ms : List Message}
    (h : messages bs = m :: ms) :
    decode bs = .ok (m, headerLength + m.payload.length) ∧
      messages (bs.drop (headerLength + m.payload.length)) = ms := by
  cases hd : decode bs with
  | error e =>
    rw [messages_eq_nil hd] at h
    simp at h
  | ok r =>
    obtain ⟨m', n⟩ := r
    rw [messages_eq_cons hd, List.cons.injEq] at h
    obtain ⟨rfl, hrest⟩ := h
    rw [← (length_of_decode hd).1]
    exact ⟨rfl, hrest⟩

/-- **Behind the first messages of a stream come the others.** -/
theorem messages_of_prefix {ms : List Message} {bs : Bytes} (h : ms <+: messages bs) :
    messages bs = ms ++ messages (bs.drop (span ms)) := by
  induction ms generalizing bs with
  | nil => rfl
  | cons m ms ih =>
    obtain ⟨rest, hrest⟩ := h
    obtain ⟨hd, htail⟩ := decode_of_messages_eq_cons hrest.symm
    rw [span_cons, ← List.drop_drop, messages_eq_cons hd, List.cons_append, ← ih]
    rw [htail]
    exact List.prefix_append ms rest

/-- Bytes that follow bring more messages, and change none. -/
theorem messages_append_prefix (bs more : Bytes) : messages bs <+: messages (bs ++ more) := by
  fun_induction messages bs with
  | case1 bs m n hd ih =>
    rw [messages_eq_cons (decode_append hd more),
      List.drop_append_of_le_length (length_of_decode hd).2]
    exact (List.prefix_cons_inj m).2 ih
  | case2 bs e hd => exact List.nil_prefix

/-! ### Frames that have begun -/

/-- The bytes begin a frame and are not all of it: the header is not complete, or it is allowed and
the frame needs more. -/
def IsPartial (bs : Bytes) : Prop :=
  ∃ total, length? bs = .ok total ∧ ∀ n, total = some n → bs.length < n

theorem isPartial_nil : IsPartial [] := ⟨none, rfl, fun _ h => nomatch h⟩

theorem isPartial_iff {bs : Bytes} :
    IsPartial bs ↔ bs.length < headerLength ∨ ∃ n, length? bs = .ok (some n) ∧ bs.length < n := by
  constructor
  · rintro ⟨total, hl, hn⟩
    cases total with
    | none => exact .inl (length?_eq_none_iff.1 hl)
    | some n => exact .inr ⟨n, hl, hn n rfl⟩
  · rintro (h | ⟨n, hl, hn⟩)
    · exact ⟨none, length?_eq_none_iff.2 h, fun _ h => nomatch h⟩
    · refine ⟨some n, hl, fun k hk => ?_⟩
      rw [Option.some_inj] at hk
      omega

/-- Nothing behind the frame that the bytes begin. -/
def Fits (bs : Bytes) : Prop :=
  bs.length ≤ headerLength ∨ ∃ n, length? bs = .ok (some n) ∧ bs.length ≤ n

theorem IsPartial.fits {bs : Bytes} (h : IsPartial bs) : Fits bs := by
  rcases isPartial_iff.1 h with h | ⟨n, hl, hn⟩
  · exact .inl (by omega)
  · exact .inr ⟨n, hl, by omega⟩

/-- A frame that has begun without being complete is not decoded. -/
theorem IsPartial.decode {bs : Bytes} (h : IsPartial bs) :
    ∃ needed, Frame.decode bs = .error (.truncated needed bs.length) := by
  obtain ⟨total, hl, hn⟩ := h
  cases total with
  | none => exact ⟨_, decode_of_length?_none hl⟩
  | some n =>
    have hd := decode_of_length?_some hl
    rw [if_pos (hn n rfl)] at hd
    exact ⟨n, hd⟩

end Frame

end PipelineWorker
