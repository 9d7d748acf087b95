/-
IPv4 addresses and the forms in which they are written.

`Ipv4.display` writes the canonical dotted quad.  Two grammars read it back: `Ipv4.ofQuad?` takes
four decimal fields with any number of leading zeros, `Ipv4.ofLiteral?` takes the canonical form
only.  Of IPv6 addresses only their literals are recognised (`isIpv6Literal`).

* `ofPacked_packed`, `packed_ofPacked` — an address and its 32-bit word determine each other.
-/
import PipelineWorker.Text.Separated

namespace PipelineWorker

/-- An IPv4 address, as its four octets. -/
structure Ipv4 where
  a : UInt8
  b : UInt8
  c : UInt8
  d : UInt8
  deriving DecidableEq, Repr, Inhabited

namespace Ipv4

/-- The address that stands for none. -/
def unspecified : Ipv4 := ⟨0, 0, 0, 0⟩

/-- The address of this very host. -/
def loopback : Ipv4 := ⟨127, 0, 0, 1⟩

/-- The octets in the order of writing. -/
def octets (x : Ipv4) : List UInt8 := [x.a, x.b, x.c, x.d]

/-- The address as one word, first octet most significant. -/
def packed (x : Ipv4) : UInt32 :=
  UInt32.ofNat (((x.a.toNat * 256 + x.b.toNat) * 256 + x.c.toNat) * 256 + x.d.toNat)

/-- The address that a word packs. -/
def ofPacked (w : UInt32) : Ipv4 :=
  ⟨(w >>> 24).toUInt8, (w >>> 16).toUInt8, (w >>> 8).toUInt8, w.toUInt8⟩

@[simp] theorem packed_ofPacked (w : UInt32) : (ofPacked w).packed = w := by
  have h := w.toNat_lt
  apply UInt32.toNat_inj.1
  simp only [packed, ofPacked, UInt32.toNat_ofNat', UInt32.toNat_toUInt8, UInt32.toNat_shiftRight,
    UInt32.reduceToNat, Nat.reduceMod, Nat.shiftRight_eq_div_pow]
  omega

@[simp] theorem ofPacked_packed (x : Ipv4) : ofPacked x.packed = x := by
  obtain ⟨a, b, c, d⟩ := x
  have ha := a.toNat_lt
  have hb := b.toNat_lt
  have hc := c.toNat_lt
  have hd := d.toNat_lt
  simp only [packed, ofPacked, UInt32.toNat_ofNat', UInt32.toNat_toUInt8, UInt32.toNat_shiftRight,
    UInt32.reduceToNat, Nat.reduceMod, Nat.shiftRight_eq_div_pow, mk.injEq, ← UInt8.toNat_inj]
  omega

/-- The canonical dotted quad. -/
def display (x : Ipv4) : String :=
  s!"{x.a.toNat}.{x.b.toNat}.{x.c.toNat}.{x.d.toNat}"

/-- An octet from a decimal field. -/
def octet? (field : List Char) : Option UInt8 :=
  match decimal? field with
  | some n => if n ≤ 255 then some (UInt8.ofNat n) else none
  | none => none

/-- An address from exactly four fields, each read by `octet`. -/
def ofFields? (octet : List Char → Option UInt8) : List (List Char) → Option Ipv4
  | [a, b, c, d] => do return ⟨← octet a, ← octet b, ← octet c, ← octet d⟩
  | _ => none

/-- Reads four decimal fields between dots. -/
def ofQuad? (text : String) : Option Ipv4 :=
  ofFields? octet? (Separated.split '.' text.toList)

/-- An octet in canonical form: no leading zero. -/
def plainOctet? (field : List Char) : Option UInt8 :=
  if field.length ≤ 3 ∧ (field.length ≤ 1 ∨ field.head? ≠ some '0') then octet? field else none

/-- Reads the canonical form. -/
def ofLiteral? (cs : List Char) : Option Ipv4 :=
  ofFields? plainOctet? (Separated.split '.' cs)

end Ipv4

/-! ### IPv6 literals -/

/-- A group of an IPv6 literal: one to four hexadecimal digits. -/
def isHexGroup (cs : List Char) : Bool :=
  1 ≤ cs.length && cs.length ≤ 4 &&
    cs.all fun c => isDigit c || ('a' ≤ c && c ≤ 'f') || ('A' ≤ c && c ≤ 'F')

/-- How many 16-bit groups a sequence of fields stands for; the last one may be an IPv4 literal and
counts twice. -/
def groupCount? : List (List Char) → Option Nat
  | [] => some 0
  | [f] => if isHexGroup f then some 1 else if (Ipv4.ofLiteral? f).isSome then some 2 else none
  | f :: fs => if isHexGroup f then (groupCount? fs).map (· + 1) else none

/-- The groups on one side of the gap. -/
def sideCount? (cs : List Char) : Option Nat :=
  if cs = [] then some 0 else groupCount? (Separated.split ':' cs)

/-- Cuts a text at its first `::`. -/
def cutAtGap : List Char → Option (List Char × List Char)
  | [] => none
  | ':' :: ':' :: cs => some ([], cs)
  | c :: cs => (cutAtGap cs).map fun (before, after) => (c :: before, after)

/-- Whether the text is an IPv6 address: eight groups, or fewer around one gap, in front of which
no IPv4 literal stands. -/
def isIpv6Literal (text : String) : Bool :=
  match cutAtGap text.toList with
  | none => groupCount? (Separated.split ':' text.toList) == some 8
  | some (before, after) =>
    (before = [] || (Separated.split ':' before).all isHexGroup) &&
      match sideCount? before, sideCount? after with
      | some m, some n => m + n ≤ 7
      | _, _ => false

end PipelineWorker
