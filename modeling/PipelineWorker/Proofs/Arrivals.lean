/-
What a link still carries.

`Link.coming` is the bytes that a reader without a deadline gets to see, `Link.ending` is what it
meets behind them.  Interruptions do not end a stream; a close does, any other failure, and a
receive that brings no bytes.

* `recv_cases` — all that a receive can do;
* `coming_recv` — what a receive hands out is the front of what is coming;
* `recv_failure` — a receive fails because it was interrupted, at the end of the stream, or because
  its time ran out, and then nothing is lost.
-/
import PipelineWorker.Net.Network

namespace PipelineWorker

namespace Link

/-- The bytes of the arrivals, up to the end of the stream. -/
def bytesOf : List Arrival → Bytes
  | .data (b :: bs) :: rest => b :: bs ++ bytesOf rest
  | .failure .intr :: rest => bytesOf rest
  | _ => []

/-- How the stream of the arrivals ends. -/
def endOf : List Arrival → OsFailure
  | .data (_ :: _) :: rest => endOf rest
  | .failure .intr :: rest => endOf rest
  | .failure e :: _ => .number e
  | _ => .plain .unexpectedEof

/-- What is still to arrive, whenever it does. -/
def arrivals (l : Link) : List Arrival := l.incoming.map (·.what)

/-- The bytes that are still to be received before the stream ends. -/
def coming (l : Link) : Bytes := bytesOf l.arrivals

/-- How the stream ends. -/
def ending (l : Link) : OsFailure := endOf l.arrivals

/-- No failure but interruptions is still to come. -/
def IsClean (l : Link) : Prop := ∀ e, .failure e ∈ l.arrivals → e = .intr

theorem bytesOf_data {bs : Bytes} (h : bs ≠ []) (rest : List Arrival) :
    bytesOf (.data bs :: rest) = bs ++ bytesOf rest := by
  cases bs with
  | nil => exact absurd rfl h
  | cons b bs => rfl

theorem endOf_data {bs : Bytes} (h : bs ≠ []) (rest : List Arrival) :
    endOf (.data bs :: rest) = endOf rest := by
  cases bs with
  | nil => exact absurd rfl h
  | cons b bs => rfl

theorem bytesOf_failure {e : Errno} (h : e ≠ .intr) (rest : List Arrival) :
    bytesOf (.failure e :: rest) = [] := by
  cases e with
  | intr => exact absurd rfl h
  | _ => rfl

theorem endOf_failure {e : Errno} (h : e ≠ .intr) (rest : List Arrival) :
    endOf (.failure e :: rest) = .number e := by
  cases e with
  | intr => exact absurd rfl h
  | _ => rfl

/-- A stream without other failures than interruptions ends with a close. -/
theorem endOf_of_clean : ∀ {as : List Arrival}, (∀ e, .failure e ∈ as → e = .intr) →
    endOf as = .plain .unexpectedEof := by
  intro as
  induction as with
  | nil =>
    intro _
    rfl
  | cons a as ih =>
    intro h
    have hrest : ∀ e, Arrival.failure e ∈ as → e = .intr :=
      fun e he => h e (List.mem_cons_of_mem _ he)
    match a with
    | .close => rfl
    | .data [] => rfl
    | .data (b :: bs) => exact ih hrest
    | .failure e =>
      obtain rfl := h e List.mem_cons_self
      exact ih hrest

theorem ending_of_isClean {l : Link} (h : l.IsClean) : l.ending = .plain .unexpectedEof :=
  endOf_of_clean h

theorem arrivals_eq_cons {l : Link} {i : Incoming} {rest : List Incoming}
    (h : l.incoming = i :: rest) : l.arrivals = i.what :: rest.map (·.what) := by
  rw [arrivals, h, List.map_cons]

/-! ### Receiving -/

/-- All that a receive can do: it finds that nothing is to come, its time runs out, or it takes from
the item in front. -/
theorem recv_cases (n now : Nat) (l : Link) :
    (l.incoming = [] ∧ l.recv n now = ⟨.ok [], now, l.closeIfSilent now⟩) ∨
    (∃ t, l.readTimeout = some t ∧ l.recv n now = ⟨.error .again, now + t, l⟩) ∨
    (∃ i rest, l.incoming = i :: rest ∧
      l.recv n now = takeFront n l (max now i.time) i rest) := by
  rw [recv]
  split
  · rename_i hi ht
    exact .inl ⟨hi, rfl⟩
  · rename_i t hi ht
    exact .inr (.inl ⟨t, ht, rfl⟩)
  · rename_i i rest hi ht
    exact .inr (.inr ⟨i, rest, hi, rfl⟩)
  · rename_i i rest t hi ht
    split
    · exact .inr (.inr ⟨i, rest, hi, rfl⟩)
    · exact .inr (.inl ⟨t, ht, rfl⟩)

/-- A receive that brings nothing stands at the end of the stream. -/
theorem coming_eq_nil_of_recv {n now : Nat} {l : Link} (hn : 0 < n)
    (h : (l.recv n now).result = .ok []) :
    l.coming = [] ∧ l.ending = .plain .unexpectedEof := by
  rcases recv_cases n now l with ⟨hi, _⟩ | ⟨t, _, hr⟩ | ⟨⟨time, what⟩, rest, hi, hr⟩
  · rw [coming, ending, arrivals, hi]
    exact ⟨rfl, rfl⟩
  · rw [hr] at h
    simp at h
  · rw [hr] at h
    rw [coming, ending, arrivals_eq_cons hi]
    cases what with
    | close => exact ⟨rfl, rfl⟩
    | failure e => simp [takeFront] at h
    | data bs =>
      cases bs with
      | nil => exact ⟨rfl, rfl⟩
      | cons b bs =>
        obtain ⟨k, rfl⟩ : ∃ k, n = k + 1 := ⟨n - 1, by omega⟩
        simp only [takeFront] at h
        split at h <;> simp at h

/-- **What a receive hands out is the front of what is coming.** -/
theorem coming_recv {n now : Nat} {l : Link} {bs : Bytes} (hb : bs ≠ [])
    (h : (l.recv n now).result = .ok bs) :
    bs.length ≤ n ∧ l.coming = bs ++ (l.recv n now).link.coming ∧
      (l.recv n now).link.ending = l.ending := by
  rcases recv_cases n now l with ⟨hi, hr⟩ | ⟨t, _, hr⟩ | ⟨⟨time, what⟩, rest, hi, hr⟩
  · rw [hr] at h
    simp only [Except.ok.injEq] at h
    exact absurd h.symm hb
  · rw [hr] at h
    simp at h
  · rw [hr] at h ⊢
    cases what with
    | close =>
      simp only [takeFront, Except.ok.injEq] at h
      exact absurd h.symm hb
    | failure e => simp [takeFront] at h
    | data ds =>
      simp only [takeFront] at h ⊢
      -- Either the item is used up, or what is left of it stays in front.
      split at h
      · rename_i hd
        simp only [Except.ok.injEq] at h
        subst h
        rw [if_pos hd, coming, coming, ending, ending, arrivals_eq_cons hi, bytesOf_data hb,
          endOf_data hb]
        refine ⟨?_, rfl, rfl⟩
        rw [List.isEmpty_iff, List.drop_eq_nil_iff] at hd
        exact hd
      · rename_i hd
        simp only [Except.ok.injEq] at h
        have hrest : ds.drop n ≠ [] := fun h => hd (by rw [h]; rfl)
        have hds : ds ≠ [] := by
          rintro rfl
          simp at hrest
        rw [if_neg hd, coming, coming, ending, ending, arrivals_eq_cons hi, arrivals_eq_cons rfl,
          bytesOf_data hds, endOf_data hds, bytesOf_data hrest, endOf_data hrest, ← h,
          ← List.append_assoc, List.take_append_drop]
        exact ⟨List.length_take_le .., rfl, rfl⟩

/-- An interrupted receive loses nothing. -/
theorem coming_recv_intr {n now : Nat} {l : Link} (h : (l.recv n now).result = .error .intr) :
    (l.recv n now).link.coming = l.coming ∧ (l.recv n now).link.ending = l.ending := by
  rcases recv_cases n now l with ⟨hi, hr⟩ | ⟨t, _, hr⟩ | ⟨⟨time, what⟩, rest, hi, hr⟩
  · rw [hr] at h
    simp at h
  · rw [hr]
    exact ⟨rfl, rfl⟩
  · rw [hr] at h ⊢
    cases what with
    | close => simp [takeFront] at h
    | failure e =>
      simp only [takeFront, Except.error.injEq] at h
      subst h
      rw [coming, coming, ending, ending, arrivals_eq_cons hi]
      exact ⟨rfl, rfl⟩
    | data ds =>
      simp only [takeFront] at h
      split at h <;> simp at h

/-- A receive that fails otherwise ran out of time, and then nothing is lost, or it stands at the
end of the stream. -/
theorem recv_failure {n now : Nat} {l : Link} {e : Errno} (h : (l.recv n now).result = .error e)
    (he : e ≠ .intr) :
    (l.readTimeout.isSome ∧ e = .again ∧ (l.recv n now).link = l) ∨
      (l.coming = [] ∧ l.ending = .number e ∧ ¬ l.IsClean) := by
  rcases recv_cases n now l with ⟨hi, hr⟩ | ⟨t, ht, hr⟩ | ⟨⟨time, what⟩, rest, hi, hr⟩
  · rw [hr] at h
    simp at h
  · rw [hr] at h ⊢
    simp only [Except.error.injEq] at h
    exact .inl ⟨by rw [ht]; rfl, h.symm, rfl⟩
  · rw [hr] at h
    cases what with
    | close => simp [takeFront] at h
    | failure e' =>
      simp only [takeFront, Except.error.injEq] at h
      subst h
      rw [coming, ending, IsClean, arrivals_eq_cons hi, bytesOf_failure he, endOf_failure he]
      exact .inr ⟨rfl, rfl, fun hc => he (hc e' List.mem_cons_self)⟩
    | data ds =>
      simp only [takeFront] at h
      split at h <;> simp at h

/-! ### What a receive leaves alone -/

/-- A receive takes arrivals, and changes nothing else of the link but the time of its last one. -/
theorem recv_link (n now : Nat) (l : Link) :
    (l.recv n now).link = { l with
      incoming := (l.recv n now).link.incoming, lastTime := (l.recv n now).link.lastTime } := by
  rcases recv_cases n now l with ⟨hi, hr⟩ | ⟨t, _, hr⟩ | ⟨⟨time, what⟩, rest, hi, hr⟩
  · rw [hr, closeIfSilent, if_pos hi]
    rfl
  · rw [hr]
  · rw [hr]
    cases what with
    | close => rfl
    | failure e => rfl
    | data bs =>
      simp only [takeFront]
      split <;> rfl

/-- Receiving brings no new failures. -/
theorem failure_mem_of_recv {n now : Nat} {l : Link} {e : Errno}
    (h : .failure e ∈ (l.recv n now).link.arrivals) : .failure e ∈ l.arrivals := by
  rcases recv_cases n now l with ⟨hi, hr⟩ | ⟨t, _, hr⟩ | ⟨⟨time, what⟩, rest, hi, hr⟩
  · rw [hr, closeIfSilent, if_pos hi] at h
    simp [arrivals, feedOne, hi] at h
  · rw [hr] at h
    exact h
  · have hrest (he : .failure e ∈ rest.map (·.what)) : .failure e ∈ l.arrivals := by
      rw [arrivals_eq_cons hi]
      exact List.mem_cons_of_mem _ he
    rw [hr] at h
    cases what with
    | close => exact h
    | failure e' => exact hrest h
    | data bs =>
      simp only [takeFront] at h
      split at h
      · exact hrest h
      · rw [arrivals_eq_cons rfl] at h
        exact hrest (List.mem_of_ne_of_mem (by simp) h)

theorem isClean_recv (n now : Nat) {l : Link} (h : l.IsClean) : (l.recv n now).link.IsClean :=
  fun e he => h e (failure_mem_of_recv he)

end Link

end PipelineWorker
