/-
Values of a TOML document that are written without quotes: numbers, truth values, dates and times.

Such a value is a run of characters that is read as a whole.  Only integers keep their value;
of the others it is enough to know that they are well formed.
-/
import PipelineWorker.Text.Separated

namespace PipelineWorker.Toml

/-- A value, as far as a configuration looks at it. -/
inductive Value
  | text (s : String)
  | integer (n : Int)
  /-- A float, a truth value, a moment, an array or an inline table. -/
  | other
  deriving DecidableEq, Repr

/-- A digit of the base, by its value. -/
def digitValue? (base : Nat) (c : Char) : Option Nat :=
  let v :=
    if isDigit c then some (c.toNat - '0'.toNat)
    else if 'a' ≤ c ∧ c ≤ 'f' then some (c.toNat - 'a'.toNat + 10)
    else if 'A' ≤ c ∧ c ≤ 'F' then some (c.toNat - 'A'.toNat + 10)
    else none
  v.filter (· < base)

/-- The number that digits of a base spell, behind the number `n`.  An underscore may stand between
two digits; `after` says whether a digit stands in front. -/
def digitsFrom? (base : Nat) (after : Bool) (n : Nat) : List Char → Option Nat
  | [] => if after then some n else none
  | '_' :: cs => if after then digitsFrom? base false n cs else none
  | c :: cs => do digitsFrom? base true (base * n + (← digitValue? base c)) cs

/-- A non-empty run of digits, with underscores between them. -/
def digits? (base : Nat) (cs : List Char) : Option Nat := digitsFrom? base false 0 cs

/-- A run of decimal digits that does not begin with a needless zero. -/
def plainDigits? (cs : List Char) : Option Nat :=
  if 1 < cs.length ∧ cs.head? = some '0' then none else digits? 10 cs

/-- A sign, if there is one, and what follows. -/
def cutSign : List Char → Bool × List Char
  | '-' :: cs => (true, cs)
  | '+' :: cs => (false, cs)
  | cs => (false, cs)

/-- The greatest whole number that a document may hold. -/
def maxInteger : Int := 0xffffffffffffffffffffffffffffffff

/-- The least whole number that a document may hold. -/
def minInteger : Int := -0x80000000000000000000000000000000

/-- A whole number: decimal with an optional sign, or in one of three bases without. -/
def integer? (cs : List Char) : Option Int :=
  let n : Option Int :=
    match cs with
    | '0' :: 'x' :: ds => (digits? 16 ds).map Int.ofNat
    | '0' :: 'o' :: ds => (digits? 8 ds).map Int.ofNat
    | '0' :: 'b' :: ds => (digits? 2 ds).map Int.ofNat
    | _ =>
      let (negative, ds) := cutSign cs
      (plainDigits? ds).map fun n => if negative then -(n : Int) else n
  n.filter fun n => minInteger ≤ n ∧ n ≤ maxInteger

/-- The significant digits that may be raised before a number leaves the range of floats. -/
def maxDecimalExponent : Nat := 400

/-- Whether `m * 10 ^ e` is too large for a 64-bit float. -/
def overflows (m : Nat) (e : Int) : Bool :=
  let limit : Nat := 1 <<< 1024 - 1 <<< 970
  if m = 0 then false
  else if (maxDecimalExponent : Int) < e then true
  else if 0 ≤ e then limit ≤ m * Nat.pow 10 e.toNat
  else if (maxDecimalExponent : Int) + Nat.log2 m < -e then false
  else limit * Nat.pow 10 (-e).toNat ≤ m

/-- How many digits are in a run. -/
def digitCount (cs : List Char) : Nat := (cs.filter (· ≠ '_')).length

/-- A decimal exponent; none at all counts as zero. -/
def exponent? : List Char → Option Int
  | [] => some 0
  | e :: cs =>
    if e = 'e' ∨ e = 'E' then
      let (negative, ds) := cutSign cs
      (digits? 10 ds).map fun n => if negative then -(n : Int) else n
    else none

/-- A float: a whole part, and a fraction or an exponent or both; or one of the special words. -/
def isFloat (cs : List Char) : Bool :=
  let (_, cs) := cutSign cs
  let part := fun (cs : List Char) => cs.span fun c => isDigit c || c = '_'
  if cs = ['i', 'n', 'f'] ∨ cs = ['n', 'a', 'n'] then true
  else
    let (whole, rest) := part cs
    match plainDigits? whole, rest with
    | none, _ | some _, [] => false
    | some _, '.' :: rest =>
      let (fraction, rest) := part rest
      match digits? 10 fraction, exponent? rest, digits? 10 (whole ++ fraction) with
      | some _, some e, some m => !overflows m (e - digitCount fraction)
      | _, _, _ => false
    | some m, rest =>
      match exponent? rest with
      | some e => !overflows m e
      | none => false

/-- A number of exactly `n` decimal digits. -/
def fixed? (n : Nat) (cs : List Char) : Option Nat := if cs.length = n then decimal? cs else none

/-- The days of a month. -/
def daysIn (year month : Nat) : Nat :=
  if month = 2 then
    if year % 4 = 0 ∧ (year % 100 ≠ 0 ∨ year % 400 = 0) then 29 else 28
  else if month ∈ [4, 6, 9, 11] then 30
  else 31

/-- A date: `1979-05-27`. -/
def isDate (cs : List Char) : Bool :=
  match Separated.split '-' cs with
  | [y, m, d] =>
    match fixed? 4 y, fixed? 2 m, fixed? 2 d with
    | some y, some m, some d => 1 ≤ m && m ≤ 12 && 1 ≤ d && d ≤ daysIn y m
    | _, _, _ => false
  | _ => false

/-- Hours and minutes. -/
def isHourMinute (h m : List Char) : Bool :=
  match fixed? 2 h, fixed? 2 m with
  | some h, some m => h ≤ 23 && m ≤ 59
  | _, _ => false

/-- Seconds, with or without a fraction. -/
def isSecond (cs : List Char) : Bool :=
  match Separated.split '.' cs with
  | [s] => ((fixed? 2 s).any (· ≤ 60))
  | [s, f] => ((fixed? 2 s).any (· ≤ 60)) && (decimal? f).isSome
  | _ => false

/-- A time: `07:32:00.5`; the seconds may be left out. -/
def isTime (cs : List Char) : Bool :=
  match Separated.split ':' cs with
  | [h, m] => isHourMinute h m
  | [h, m, s] => isHourMinute h m && isSecond s
  | _ => false

/-- A time with or without its offset: `Z` or `+01:00`. -/
def isOffsetTime (cs : List Char) : Bool :=
  let (time, offset) := cs.span fun c => isDigit c || c = ':' || c = '.'
  isTime time &&
    match offset with
    | [] | ['Z'] | ['z'] => true
    | sign :: offset =>
      (sign = '+' || sign = '-') &&
        match Separated.split ':' offset with
        | [h, m] => isHourMinute h m
        | _ => false

/-- A date, a time, or both with a `T` between. -/
def isMoment (cs : List Char) : Bool :=
  isDate cs || isTime cs ||
    (let date := cs.take 10
     match cs.drop 10 with
     | t :: time => isDate date && (t = 'T' || t = 't') && isOffsetTime time
     | [] => false)

/-- The value of a run of characters. -/
def scalar? (cs : List Char) : Option Value :=
  if cs = "true".toList ∨ cs = "false".toList then some .other
  else
    match integer? cs with
    | some n => some (.integer n)
    | none => if isFloat cs || isMoment cs then some .other else none

end PipelineWorker.Toml
