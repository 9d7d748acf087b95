/-
Quoted text: a string between double quotes, on one line and in visible characters.

Tab, line feed, carriage return and NUL have escapes of one letter, a double quote and a backslash
are put behind a backslash, and any other unprintable character is written by its code point in
hexadecimal.
-/
import PipelineWorker.Text.Unprintable

namespace PipelineWorker

namespace Quoted

/-- A number in hexadecimal, without leading zeros. -/
def hex (n : Nat) : List Char := Nat.toDigits 16 n

/-- How one character is written. -/
def escape (c : Char) : List Char :=
  if c = '\x00' then ['\\', '0']
  else if c = '\t' then ['\\', 't']
  else if c = '\n' then ['\\', 'n']
  else if c = '\r' then ['\\', 'r']
  else if c = '"' ∨ c = '\\' then ['\\', c]
  else if isUnprintable c then ['\\', 'u', '\x7b'] ++ hex c.toNat ++ ['\x7d']
  else [c]

/-- The text between double quotes. -/
def encode (s : String) : String :=
  String.ofList ('"' :: s.toList.flatMap escape ++ ['"'])

end Quoted

end PipelineWorker
