/-
Reading bytes as UTF-8 without ever failing.

A well-formed character is read as it is.  Bytes that do not belong to one are replaced: each
longest run that could still begin a character, and otherwise each single byte, becomes one
U+FFFD.
-/
import PipelineWorker.BigEndian

namespace PipelineWorker

namespace Lossy

/-- The bytes that may follow a first byte, by its value: how many are needed and the range of the
next one.  The range keeps out overlong forms, surrogates and what lies beyond the last code
point. -/
def expect (b : Nat) : Option (Nat × Nat × Nat) :=
  if b < 0x80 then some (0, 0x80, 0xBF)
  else if 0xC2 ≤ b ∧ b ≤ 0xDF then some (1, 0x80, 0xBF)
  else if b = 0xE0 then some (2, 0xA0, 0xBF)
  else if b = 0xED then some (2, 0x80, 0x9F)
  else if 0xE1 ≤ b ∧ b ≤ 0xEF then some (2, 0x80, 0xBF)
  else if b = 0xF0 then some (3, 0x90, 0xBF)
  else if 0xF1 ≤ b ∧ b ≤ 0xF3 then some (3, 0x80, 0xBF)
  else if b = 0xF4 then some (3, 0x80, 0x8F)
  else none

/-- The bits of a first byte that belong to the code point. -/
def leading (b : Nat) : Nat :=
  if b < 0x80 then b else if b < 0xE0 then b % 0x20 else if b < 0xF0 then b % 0x10 else b % 0x08

/-- What a character begun so far is waiting for: the bits read, how many bytes are missing and the
range of the next one. -/
structure Pending where
  bits : Nat
  missing : Nat
  low : Nat
  high : Nat

/-- The replacement of what cannot be read. -/
def replacement : Char := '\uFFFD'

/-- Reads the bytes behind a character begun as `pending` says. -/
def decodeFrom : Option Pending → Bytes → List Char
  | none, [] => []
  | some _, [] => [replacement]
  | none, b :: rest =>
    match expect b.toNat with
    | none => replacement :: decodeFrom none rest
    | some (0, _, _) => Char.ofNat b.toNat :: decodeFrom none rest
    | some (n + 1, low, high) => decodeFrom (some ⟨leading b.toNat, n + 1, low, high⟩) rest
  | some p, b :: rest =>
    if p.low ≤ b.toNat ∧ b.toNat ≤ p.high then
      let bits := 64 * p.bits + b.toNat % 64
      if p.missing ≤ 1 then Char.ofNat bits :: decodeFrom none rest
      else decodeFrom (some ⟨bits, p.missing - 1, 0x80, 0xBF⟩) rest
    else
      -- The run ends here, and this byte begins anew.
      replacement ::
        match expect b.toNat with
        | none => replacement :: decodeFrom none rest
        | some (0, _, _) => Char.ofNat b.toNat :: decodeFrom none rest
        | some (n + 1, low, high) => decodeFrom (some ⟨leading b.toNat, n + 1, low, high⟩) rest

/-- The text that the bytes spell, with replacements. -/
def decode (bs : Bytes) : String := String.ofList (decodeFrom none bs)

end Lossy

end PipelineWorker
