/-
Reading TOML documents.

`parse?` accepts exactly the well-formed documents: lines that are empty, comments, headers of
tables or pairs of a key and a value, which together define every key once.
-/
import PipelineWorker.Config.Toml.Text
import PipelineWorker.Config.Toml.Document

namespace PipelineWorker.Toml

/-! ### Blanks, comments and line ends -/

/-- Drops blanks. -/
def skipBlanks (cs : List Char) : List Char := cs.dropWhile fun c => c = ' ' || c = '\t'

/-- Drops a comment, which ends with the line.  It may hold any visible characters. -/
def skipComment : List Char → Option (List Char)
  | '#' :: cs =>
    let rest := cs.dropWhile isVisible
    match rest with
    | [] | '\n' :: _ | '\r' :: '\n' :: _ => some rest
    | _ => none
  | cs => some cs

/-- Drops the line end, or nothing at the end of the document. -/
def skipLineEnd : List Char → Option (List Char)
  | [] => some []
  | '\n' :: cs => some cs
  | '\r' :: '\n' :: cs => some cs
  | _ => none

/-- Drops blanks, comments and line ends, as they may stand inside of brackets. -/
def skipLines : Nat → List Char → Option (List Char)
  | 0, _ => none
  | fuel + 1, cs =>
    match skipBlanks cs with
    | '\n' :: rest => skipLines fuel rest
    | '\r' :: '\n' :: rest => skipLines fuel rest
    | '#' :: rest => do skipLines fuel (← skipComment ('#' :: rest))
    | rest => some rest

/-! ### Keys -/

/-- Characters of a key without quotes. -/
def isBare (c : Char) : Bool :=
  isDigit c || ('a' ≤ c && c ≤ 'z') || ('A' ≤ c && c ≤ 'Z') || c = '_' || c = '-'

/-- One part of a key. -/
def keyPart? (cs : List Char) : Option (String × List Char) :=
  match cs with
  | '"' :: cs => do let (s, cs) ← basic? cs; return (String.ofList s, cs)
  | '\'' :: cs => do let (s, cs) ← literal? cs; return (String.ofList s, cs)
  | _ =>
    let (name, rest) := cs.span isBare
    if name = [] then none else some (String.ofList name, rest)

/-- How many parts a key may have. -/
def maxParts : Nat := 80

/-- A key of at most that many parts between dots, and the blanks behind it. -/
def keyParts? : Nat → List Char → Option (List String × List Char)
  | 0, _ => none
  | left + 1, cs => do
    let (part, cs) ← keyPart? cs
    match skipBlanks cs with
    | '.' :: cs =>
      let (parts, cs) ← keyParts? left (skipBlanks cs)
      return (part :: parts, cs)
    | cs => return ([part], cs)

/-- A key and the blanks behind it. -/
def key? (cs : List Char) : Option (List String × List Char) := keyParts? maxParts cs

/-! ### Values -/

/-- Characters of a value without quotes. -/
def isScalarChar (c : Char) : Bool := isBare c || c = '+' || c = '.' || c = ':'

/-- A value without quotes.  A date and a time may have one blank between them. -/
def scalarRun (cs : List Char) : List Char × List Char :=
  let (run, rest) := cs.span isScalarChar
  match rest with
  | ' ' :: c :: more =>
    if isDate run && isDigit c then
      let (time, rest) := (c :: more).span isScalarChar
      (run ++ 'T' :: time, rest)
    else (run, rest)
  | _ => (run, rest)

/-- How deep arrays and inline tables may be nested. -/
def maxDepth : Nat := 80

mutual

/-- A value; `depth` levels of brackets may still be opened. -/
def value? (depth : Nat) : Nat → List Char → Option (Value × List Char)
  | 0, _ => none
  | fuel + 1, cs =>
    let text := fun (r : Option (List Char × List Char)) =>
      r.map fun (s, cs) => (Value.text (String.ofList s), cs)
    match cs with
    | '"' :: '"' :: '"' :: cs => text (multiBasic? false (skipFirstLineEnd cs))
    | '\'' :: '\'' :: '\'' :: cs => text (multiLiteral? (skipFirstLineEnd cs))
    | '"' :: cs => text (basic? cs)
    | '\'' :: cs => text (literal? cs)
    | '[' :: cs => if depth = 0 then none else elements? (depth - 1) fuel cs
    | '\x7b' :: cs => if depth = 0 then none else pairs? (depth - 1) [] fuel cs
    | _ =>
      let (run, rest) := scalarRun cs
      (scalar? run).map (·, rest)

/-- The elements of an array up to its closing bracket. -/
def elements? (depth : Nat) : Nat → List Char → Option (Value × List Char)
  | 0, _ => none
  | fuel + 1, cs => do
    match ← skipLines fuel cs with
    | ']' :: cs => return (.other, cs)
    | cs =>
      let (_, cs) ← value? depth fuel cs
      match ← skipLines fuel cs with
      | ',' :: cs => elements? depth fuel cs
      | ']' :: cs => return (.other, cs)
      | _ => none

/-- The pairs of an inline table up to its closing brace; `es` holds those read so far. -/
def pairs? (depth : Nat) (es : Entries) : Nat → List Char → Option (Value × List Char)
  | 0, _ => none
  | fuel + 1, cs => do
    match ← skipLines fuel cs with
    | '\x7d' :: cs => return (.other, cs)
    | cs =>
      let (path, cs) ← key? cs
      match ← skipLines fuel cs with
      | '=' :: cs =>
        let (v, cs) ← value? depth fuel (← skipLines fuel cs)
        let es ← Entries.put v path es
        match ← skipLines fuel cs with
        | ',' :: cs => pairs? depth es fuel cs
        | '\x7d' :: cs => return (.other, cs)
        | _ => none
      | _ => none

end

/-! ### Lines -/

/-- One line of the document; `none` as statement if it says nothing.  At most `fuel` characters are
left. -/
def statement? (fuel : Nat) (cs : List Char) : Option (Option Statement × List Char) :=
  let finish := fun (s : Option Statement) (cs : List Char) => do
    return (s, ← skipLineEnd (← skipComment (skipBlanks cs)))
  match skipBlanks cs with
  | [] => some (none, [])
  | '#' :: rest => finish none ('#' :: rest)
  | '\n' :: rest => some (none, rest)
  | '\r' :: '\n' :: rest => some (none, rest)
  | '[' :: '[' :: rest => do
    match ← key? (skipBlanks rest) with
    | (path, ']' :: ']' :: rest) => finish (some (.nextTable path)) rest
    | _ => none
  | '[' :: rest => do
    match ← key? (skipBlanks rest) with
    | (path, ']' :: rest) => finish (some (.table path)) rest
    | _ => none
  | cs => do
    match ← key? cs with
    | (path, '=' :: rest) =>
      let (v, rest) ← value? maxDepth (2 * fuel) (skipBlanks rest)
      finish (some (.pair path v)) rest
    | _ => none

/-- The lines of the document behind those that were read, of which `read` holds the last first. -/
def statements? (read : List Statement) : Nat → List Char → Option (List Statement)
  | 0, _ => none
  | _ + 1, [] => some read.reverse
  | fuel + 1, cs =>
    match statement? (fuel + 1) cs with
    | none => none
    | some (none, rest) => statements? read fuel rest
    | some (some s, rest) => statements? (s :: read) fuel rest

/-- The byte order mark that a document may begin with. -/
def skipMark : List Char → List Char
  | '\uFEFF' :: cs => cs
  | cs => cs

/-- The table that a document spells, unless it is malformed. -/
def parse? (text : String) : Option Entries := do
  let cs := skipMark text.toList
  assemble (← statements? [] (cs.length + 1) cs) [] []

end PipelineWorker.Toml
