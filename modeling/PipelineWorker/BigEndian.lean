/-
Numbers as bytes, most significant byte first.

`encode w n` writes the `w` lowest bytes of `n`, `decode` reads a byte string of any width.

* `decode_encode` — what was written reads back, less the bits that did not fit;
* `encode_decode` — a byte string is the encoding of its number at its own width;
* `wordOf_encode` — a 32-bit word survives the trip whole.
-/

namespace PipelineWorker

/-- A byte string. -/
abbrev Bytes := List UInt8

namespace BigEndian

/-- The `w` lowest bytes of `n`, most significant first. -/
def encode : Nat → Nat → Bytes
  | 0, _ => []
  | w + 1, n => encode w (n / 256) ++ [UInt8.ofNat n]

/-- The number that the bytes `bs` spell. -/
def decode (bs : Bytes) : Nat :=
  bs.foldl (fun n b => 256 * n + b.toNat) 0

@[simp] theorem length_encode (w n : Nat) : (encode w n).length = w := by
  induction w generalizing n with
  | zero => rfl
  | succ w ih => simp [encode, ih]

@[simp] theorem decode_nil : decode [] = 0 := rfl

@[simp] theorem decode_append_singleton (bs : Bytes) (b : UInt8) :
    decode (bs ++ [b]) = 256 * decode bs + b.toNat := by
  simp [decode]

/-- How many numbers `w` bytes can spell: `256` to the power of `w`. -/
def capacity (w : Nat) : Nat := Nat.pow 256 w

/-- Reading back gives the number modulo what the width can hold. -/
theorem decode_encode (w n : Nat) : decode (encode w n) = n % capacity w := by
  induction w generalizing n with
  | zero => simp [encode, capacity, Nat.mod_one]
  | succ w ih =>
    rw [encode, decode_append_singleton, ih, show capacity (w + 1) = 256 * capacity w from
      Nat.mul_comm .., Nat.mod_mul]
    simp [UInt8.toNat_ofNat']
    omega

/-- A byte string is what its number is written as at that width. -/
theorem encode_decode (bs : Bytes) : encode bs.length (decode bs) = bs := by
  induction h : bs.length generalizing bs with
  | zero => simpa [encode] using (List.length_eq_zero_iff.1 h).symm
  | succ n ih =>
    obtain ⟨init, b, rfl⟩ : ∃ init b, bs = init ++ [b] :=
      ⟨bs.dropLast, bs.getLast (by rintro rfl; simp at h), (List.dropLast_concat_getLast _).symm⟩
    have hn : init.length = n := by simpa using h
    have hb : b.toNat < 256 := b.toNat_lt
    have hdiv : (256 * decode init + b.toNat) / 256 = decode init := by omega
    have hlast : UInt8.ofNat (256 * decode init + b.toNat) = b := by
      apply UInt8.toNat_inj.1
      rw [UInt8.toNat_ofNat']
      omega
    rw [decode_append_singleton, encode, hdiv, hlast, ih init hn]

theorem decode_lt (bs : Bytes) : decode bs < capacity bs.length := by
  have h := decode_encode bs.length (decode bs)
  rw [encode_decode] at h
  rw [h]
  exact Nat.mod_lt _ (Nat.pow_pos (by decide))

/-! ### Words -/

/-- The 32-bit word that `bs` spells. -/
def wordOf (bs : Bytes) : UInt32 := UInt32.ofNat (decode bs)

/-- The four bytes of a word. -/
def ofWord (v : UInt32) : Bytes := encode 4 v.toNat

/-- The four bytes of a signed word, as two's complement. -/
def ofSigned (v : Int32) : Bytes := ofWord v.toUInt32

/-- The signed word that `bs` spells, as two's complement. -/
def signedOf (bs : Bytes) : Int32 := (wordOf bs).toInt32

@[simp] theorem length_ofWord (v : UInt32) : (ofWord v).length = 4 := length_encode ..

@[simp] theorem length_ofSigned (v : Int32) : (ofSigned v).length = 4 := length_encode ..

theorem decode_ofWord (v : UInt32) : decode (ofWord v) = v.toNat := by
  rw [ofWord, decode_encode]
  exact Nat.mod_eq_of_lt v.toNat_lt

@[simp] theorem wordOf_ofWord (v : UInt32) : wordOf (ofWord v) = v := by
  rw [wordOf, decode_ofWord, UInt32.ofNat_toNat]

@[simp] theorem signedOf_ofSigned (v : Int32) : signedOf (ofSigned v) = v := by
  simp [signedOf, ofSigned]

theorem ofWord_wordOf {bs : Bytes} (h : bs.length = 4) : ofWord (wordOf bs) = bs := by
  have hlt : decode bs < capacity 4 := h ▸ decode_lt bs
  have hmod : decode bs % 2 ^ 32 = decode bs := Nat.mod_eq_of_lt hlt
  have := encode_decode bs
  rw [h] at this
  simpa only [ofWord, wordOf, UInt32.toNat_ofNat', hmod] using this

theorem ofSigned_signedOf {bs : Bytes} (h : bs.length = 4) : ofSigned (signedOf bs) = bs := by
  simp [ofSigned, signedOf, ofWord_wordOf h]

end BigEndian

end PipelineWorker
