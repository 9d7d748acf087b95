/-
Quoted text in a TOML document.

Basic strings stand between double quotes and know escapes, literal strings stand between single
quotes and do not; both come on one line or, between three quotes, on many, where line ends stay as
they are written.  Every function starts behind the opening quotes and returns the text with what
follows the closing ones.
-/
import PipelineWorker.Config.Toml.Scalar

namespace PipelineWorker.Toml

/-- Characters that a document may hold outside of line ends. -/
def isVisible (c : Char) : Bool := c = '\t' || (' ' ≤ c && c ≠ '\x7f')

/-- The character of that code point, unless it is none. -/
def charOf? (digits : List Char) : Option Char := do
  let n ← (digits.mapM (digitValue? 16)).map (·.foldl (fun n d => 16 * n + d) 0)
  if n.isValidChar then some (Char.ofNat n) else none

/-- Escapes of one letter. -/
def simpleEscape? : Char → Option Char
  | 'b' => some '\x08'
  | 't' => some '\t'
  | 'n' => some '\n'
  | 'f' => some '\x0c'
  | 'r' => some '\r'
  | 'e' => some '\x1b'
  | '"' => some '"'
  | '\\' => some '\\'
  | _ => none

/-- A character before what was read behind it. -/
def before (c : Char) (r : Option (List Char × List Char)) : Option (List Char × List Char) :=
  r.map fun (text, rest) => (c :: text, rest)

/-- A basic string on one line. -/
def basic? : List Char → Option (List Char × List Char)
  | [] => none
  | '"' :: cs => some ([], cs)
  | '\\' :: 'x' :: a :: b :: cs => do before (← charOf? [a, b]) (basic? cs)
  | '\\' :: 'u' :: a :: b :: c :: d :: cs => do before (← charOf? [a, b, c, d]) (basic? cs)
  | '\\' :: 'U' :: a :: b :: c :: d :: e :: f :: g :: h :: cs => do
    before (← charOf? [a, b, c, d, e, f, g, h]) (basic? cs)
  | '\\' :: c :: cs => do before (← simpleEscape? c) (basic? cs)
  | c :: cs => if isVisible c && c ≠ '\\' then before c (basic? cs) else none

/-- A literal string on one line. -/
def literal? : List Char → Option (List Char × List Char)
  | [] => none
  | '\'' :: cs => some ([], cs)
  | c :: cs => if isVisible c then before c (literal? cs) else none

/-- Whether only blanks are left on the line. -/
def blankLine : List Char → Bool
  | [] => false
  | '\n' :: _ => true
  | '\r' :: '\n' :: _ => true
  | c :: cs => (c = ' ' || c = '\t') && blankLine cs

/-- A basic string on many lines.  A backslash at the end of a line takes away the line end and all
blanks and line ends behind it; `trimming` says that this is going on.  Up to two quotes may stand
in front of the closing ones. -/
def multiBasic? (trimming : Bool) : List Char → Option (List Char × List Char)
  | [] => none
  | '"' :: '"' :: '"' :: '"' :: '"' :: cs => some (['"', '"'], cs)
  | '"' :: '"' :: '"' :: '"' :: cs => some (['"'], cs)
  | '"' :: '"' :: '"' :: cs => some ([], cs)
  | '\r' :: '\n' :: cs =>
    if trimming then multiBasic? true cs else before '\r' (before '\n' (multiBasic? false cs))
  | '\n' :: cs => if trimming then multiBasic? true cs else before '\n' (multiBasic? false cs)
  | '\\' :: 'x' :: a :: b :: cs => do before (← charOf? [a, b]) (multiBasic? false cs)
  | '\\' :: 'u' :: a :: b :: c :: d :: cs => do
    before (← charOf? [a, b, c, d]) (multiBasic? false cs)
  | '\\' :: 'U' :: a :: b :: c :: d :: e :: f :: g :: h :: cs => do
    before (← charOf? [a, b, c, d, e, f, g, h]) (multiBasic? false cs)
  | '\\' :: c :: cs =>
    match simpleEscape? c with
    | some e => before e (multiBasic? false cs)
    | none => if blankLine (c :: cs) then multiBasic? true (c :: cs) else none
  | c :: cs =>
    if trimming && (c = ' ' || c = '\t') then multiBasic? true cs
    else if isVisible c && c ≠ '\\' then before c (multiBasic? false cs)
    else none

/-- A literal string on many lines.  Up to two quotes may stand in front of the closing ones. -/
def multiLiteral? : List Char → Option (List Char × List Char)
  | [] => none
  | '\'' :: '\'' :: '\'' :: '\'' :: '\'' :: cs => some (['\'', '\''], cs)
  | '\'' :: '\'' :: '\'' :: '\'' :: cs => some (['\''], cs)
  | '\'' :: '\'' :: '\'' :: cs => some ([], cs)
  | '\r' :: '\n' :: cs => before '\r' (before '\n' (multiLiteral? cs))
  | '\n' :: cs => before '\n' (multiLiteral? cs)
  | c :: cs => if isVisible c then before c (multiLiteral? cs) else none

/-- A line end right behind the opening quotes does not count. -/
def skipFirstLineEnd : List Char → List Char
  | '\n' :: cs => cs
  | '\r' :: '\n' :: cs => cs
  | cs => cs

end PipelineWorker.Toml
