/-
Directives: single rules of a filter for reports.

A directive is written `target[span{field=value}]=level`, where every part may be missing.  It sets
the level for the reports whose target begins with the text and which have the field.  The worker
opens no spans, in which alone a value is compared, so a directive for a span or for a value
concerns no report.

* `applies_eq_false_of_span` — a directive for a span concerns no report;
* `takeBytes_append`, `dropBytes_append` — counted in bytes, a text comes apart where it was joined.
-/
import PipelineWorker.Log.Event
import PipelineWorker.Log.Pattern
import PipelineWorker.Config.ModuleConfig
import PipelineWorker.Total

namespace PipelineWorker

/-- The least important level that is written; `none` writes nothing. -/
abbrev Threshold := Option Level

namespace Threshold

/-- Whether a report of that level is written. -/
def passes (t : Threshold) (level : Level) : Bool := t.any fun least => least.index ≤ level.index

/-- Capital letters as small ones. -/
def lower (text : String) : String := text.map Char.toLower

/-- The levels by number, from none to all. -/
def byNumber : List Threshold :=
  [none, some .error, some .warn, some .info, some .debug, some .trace]

/-- The threshold of a number or of a name in small or capital letters.  An empty text is the level
of errors. -/
def ofText? (text : String) : Option Threshold :=
  let digits := match text.toList with
    | '+' :: cs => cs
    | cs => cs
  match (decimal? digits).bind (byNumber[·]?) with
  | some t => some t
  | none =>
    match lower text with
    | "" | "error" => some (some .error)
    | "off" => some none
    | "warn" => some (some .warn)
    | "info" => some (some .info)
    | "debug" => some (some .debug)
    | "trace" => some (some .trace)
    | _ => none

end Threshold

/-! ### Places in a text -/

/-- How many bytes the characters take. -/
def byteCount (cs : List Char) : Nat := total Char.utf8Size cs

/-- The characters in the first `n` bytes. -/
def takeBytes : Nat → List Char → List Char
  | _, [] => []
  | n, c :: cs => if c.utf8Size ≤ n then c :: takeBytes (n - c.utf8Size) cs else []

/-- The characters behind the first `n` bytes. -/
def dropBytes : Nat → List Char → List Char
  | _, [] => []
  | n, c :: cs => if n = 0 then c :: cs else dropBytes (n - c.utf8Size) cs

theorem takeBytes_append (cs ds : List Char) : takeBytes (byteCount cs) (cs ++ ds) = cs := by
  induction cs with
  | nil =>
    cases ds with
    | nil => rfl
    | cons d ds =>
      have := d.utf8Size_pos
      simp [takeBytes, byteCount]
      omega
  | cons c cs ih =>
    have : c.utf8Size + byteCount cs - c.utf8Size = byteCount cs := by omega
    simp only [byteCount, total_cons, List.cons_append, takeBytes, Nat.le_add_right, if_true]
    exact congrArg (c :: ·) (by rw [← byteCount, this, ih])

theorem dropBytes_append (cs ds : List Char) : dropBytes (byteCount cs) (cs ++ ds) = ds := by
  induction cs with
  | nil => cases ds <;> simp [dropBytes, byteCount]
  | cons c cs ih =>
    have pos := c.utf8Size_pos
    have : c.utf8Size + byteCount cs - c.utf8Size = byteCount cs := by omega
    have : c.utf8Size + byteCount cs ≠ 0 := by omega
    simp_all [byteCount, dropBytes]

/-- The characters between two places. -/
def between (first past : Nat) (cs : List Char) : List Char :=
  takeBytes (past - first) (dropBytes first cs)

/-! ### Directives -/

/-- A field that a report must have, and a pattern for its value if that counts too. -/
structure FieldPattern where
  name : String
  value : Option String
  deriving DecidableEq, Repr

namespace FieldPattern

/-- Whether a text ends a decimal number: nothing, or an exponent. -/
def isExponent : List Char → Bool
  | [] => true
  | e :: cs =>
    let digits := match cs with
      | '+' :: cs | '-' :: cs => cs
      | cs => cs
    (e = 'e' || e = 'E') && digits ≠ [] && digits.all isDigit

/-- Whether a text is a number without a sign: in decimal, with digits before the point or behind
it, or one of the words for what is no such number. -/
def isUnsigned (cs : List Char) : Bool :=
  let (whole, rest) := cs.span isDigit
  let (fraction, rest) := match rest with
    | '.' :: rest => rest.span isDigit
    | rest => ([], rest)
  ["inf", "infinity", "nan"].contains (Threshold.lower (String.ofList cs)) ||
    (whole ++ fraction ≠ [] && isExponent rest)

/-- Whether a value is a number with a plus sign in front, which counts as one and not as a
pattern. -/
def isSigned : List Char → Bool
  | '+' :: cs => isUnsigned cs
  | _ => false

/-- Reads the text between braces, unless its pattern cannot be used. -/
def ofChars (cs : List Char) : Except PatternError FieldPattern :=
  match Separated.split '=' cs with
  | name :: value :: _ => do
    if !isSigned value then Pattern.check value
    return ⟨String.ofList name, some (String.ofList value)⟩
  | _ => .ok ⟨String.ofList cs, none⟩

end FieldPattern

/-- One rule of a filter. -/
structure Directive where
  target : Option String := none
  span : Option String := none
  field : Option FieldPattern := none
  threshold : Threshold := some .trace
  deriving DecidableEq, Repr

/-- Why a directive cannot be read. -/
inductive DirectiveError
  | malformed
  | badLevel
  | badPattern (error : PatternError)
  deriving DecidableEq, Repr

/-- The text of the error. -/
def DirectiveError.message : DirectiveError → String
  | malformed => "invalid filter directive"
  | badLevel => "error parsing level filter: expected one of \"off\", \"error\", \"warn\", " ++
      "\"info\", \"debug\", \"trace\", or a number 0-5"
  | badPattern error => "invalid field filter: " ++ error.message

namespace Directive

/-- Whether a directive may begin with that character, apart from a bracket. -/
def mayStart (c : Char) : Bool := c = '-' || c = ':' || c = '_' || isAlphanumeric c

/-- Takes the blanks off both ends. -/
def trimmed (cs : List Char) : List Char :=
  ((cs.dropWhile isBlank).reverse.dropWhile isBlank).reverse

/-- A directive without brackets and equals sign: a level, or a target of which everything is
written. -/
def ofWord (text : String) : Directive :=
  match Threshold.ofText? text with
  | some t => { threshold := t }
  | none => { target := some text }

/-- Ends a directive at a place of the text `cs`, where `rest` is left: nothing, or an equals sign
and a level.  Without a level everything is written. -/
def finish (d : Directive) (cs : List Char) (place : Nat) (rest : List Char) :
    Except DirectiveError Directive :=
  match rest with
  | [] => .ok d
  | '=' :: _ =>
    match dropBytes (place + 1) cs with
    | [] => .ok d
    | level =>
      match Threshold.ofText? (String.ofList level) with
      | some t => .ok { d with threshold := t }
      | none => .error .badLevel
  | _ => .error .malformed

/-- Reads span and field, behind their bracket at a place of the text `cs`, and the level. -/
def readScope (d : Directive) (cs : List Char) (place : Nat) (rest : List Char) :
    Except DirectiveError Directive :=
  let (span, rest) := rest.span fun c => c ≠ ']' && c ≠ '\x7b'
  let past := place + byteCount span
  let name := String.ofList (between place past cs)
  match rest with
  | ']' :: rest => finish { d with span := some name } cs (past + 1) rest
  | '\x7b' :: rest =>
    let (field, rest) := rest.span (· ≠ '\x7d')
    let last := past + 1 + byteCount field
    match rest with
    | [] => .error .malformed
    | _ :: rest =>
      if field = [] then .error .malformed
      else
        match FieldPattern.ofChars (between (past + 1) last cs) with
        | .error e => .error (.badPattern e)
        | .ok f =>
          match rest with
          | ']' :: rest =>
            let span := if name = "" then none else some name
            finish { d with span := span, field := some f } cs (last + 2) rest
          | _ => .error .malformed
  | _ => .error .malformed

/-- Reads a directive.  Where its parts begin and end is counted without the blanks in front, and
then they are cut out of the text with the blanks. -/
def parse? (text : String) : Except DirectiveError Directive :=
  let cs := text.toList
  match trimmed cs with
  | [] => .error .malformed
  | '[' :: rest => readScope {} cs 1 rest
  | c :: rest =>
    if !mayStart c then .error .malformed
    else
      let (name, rest) := (c :: rest).span fun c => c ≠ '=' && c ≠ '['
      let past := byteCount name
      let d := { target := some (String.ofList (takeBytes past cs)) }
      match rest with
      | [] => .ok (ofWord text)
      | '[' :: rest => readScope d cs (past + 1) rest
      | rest => finish d cs past rest

/-- Whether the directive concerns a report. -/
def applies (d : Directive) (r : Report) : Bool :=
  d.span.isNone && d.target.all (fun t => t.toList.isPrefixOf r.target.toList) &&
    d.field.all fun f => f.value.isNone && r.hasField f.name

/-- A directive for a span concerns no report. -/
theorem applies_eq_false_of_span {d : Directive} {name : String} (h : d.span = some name)
    (r : Report) : d.applies r = false := by simp [applies, h]

/-- How special the target is: by its length. -/
def reach (d : Directive) : Nat := d.target.elim 0 fun t => t.utf8ByteSize + 1

/-- The name of the field, empty if there is none. -/
def fieldName (d : Directive) : String := d.field.elim "" (·.name)

/-- Whether the directive is more special than another one: by target and then by field. -/
def outranks (d e : Directive) : Bool :=
  e.reach < d.reach || (e.reach = d.reach && decide (e.fieldName < d.fieldName))

end Directive

end PipelineWorker
