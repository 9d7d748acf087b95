/-
Dotted quads, as they are read and as they are written.

A dotted quad is four fields between single dots.  A field is made of ASCII digits, leading zeros
among them if there are any, and spells a number up to 255.  A text of more than fifteen bytes is
not looked at.

* `OctetField`, `QuadFields` — the grammar, which says nothing of how a text is cut or read;
* `DottedQuad` — which address a text stands for;
* `isQuad_iff` — an address is read off a text whose fields have the values of its octets;
* `quadFields_display`, `utf8ByteSize_display` — what is written for an address keeps to the grammar
  and is short enough;
* `resolveNumeric_exact` — **numeric texts are accepted exactly where the grammar accepts them, and
  every packed address is found again under its name**.
-/
import Mathlib.Data.String.Basic
import PipelineWorker.Proofs.Destination

namespace PipelineWorker

/-! ### The grammar -/

/-- The number that a field of digits spells. -/
def fieldValue (field : List Char) : Nat := Nat.ofDigitChars 10 field 0

/-- A field that holds an octet. -/
structure OctetField (field : List Char) : Prop where
  nonempty : field ≠ []
  digits : ∀ c ∈ field, c.isDigit = true
  small : fieldValue field ≤ 255

/-- The text consists of these four fields with a dot between any two. -/
structure QuadFields (text : String) (fields : List (List Char)) : Prop where
  four : fields.length = 4
  dotted : text.toList = ['.'].intercalate fields
  octets : ∀ field ∈ fields, OctetField field

/-- The text is a dotted quad, and its fields have the values of the octets of the address. -/
def DottedQuad (text : String) (addr : Ipv4) : Prop :=
  text.utf8ByteSize ≤ 15 ∧ ∃ fields, QuadFields text fields ∧
    addr.octets.map UInt8.toNat = fields.map fieldValue

/-! ### Reading -/

theorem decimal?_eq_some_iff_fieldValue {field : List Char} {n : Nat} :
    decimal? field = some n ↔
      field ≠ [] ∧ (∀ c ∈ field, c.isDigit = true) ∧ fieldValue field = n := by
  rw [decimal?_eq_some_iff, fieldValue, Nat.ofDigitChars_eq_foldl]
  rfl

/-- A field is read as an octet where it holds one. -/
theorem decimal?_eq_some_octet_iff {field : List Char} {x : UInt8} :
    decimal? field = some x.toNat ↔ OctetField field ∧ x.toNat = fieldValue field := by
  rw [decimal?_eq_some_iff_fieldValue]
  constructor
  · rintro ⟨hne, hdigits, hvalue⟩
    exact ⟨⟨hne, hdigits, hvalue ▸ Nat.le_of_lt_succ x.toNat_lt⟩, hvalue.symm⟩
  · rintro ⟨h, hvalue⟩
    exact ⟨h.nonempty, h.digits, hvalue.symm⟩

/-- **An address is read off a text whose fields have the values of its octets.** -/
theorem isQuad_iff {text : String} {addr : Ipv4} :
    IsQuad text addr ↔ ∃ fields, QuadFields text fields ∧
      addr.octets.map UInt8.toNat = fields.map fieldValue := by
  simp only [IsQuad, decimal?_eq_some_octet_iff]
  constructor
  · rintro ⟨a, b, c, d, htext, ⟨ha, hav⟩, ⟨hb, hbv⟩, ⟨hc, hcv⟩, ⟨hd, hdv⟩⟩
    refine ⟨[a, b, c, d], ⟨rfl, ?_, ?_⟩, ?_⟩
    · simp [htext]
    · simp [ha, hb, hc, hd]
    · simp [Ipv4.octets, hav, hbv, hcv, hdv]
  · rintro ⟨fields, ⟨hfour, htext, hoctets⟩, hvalues⟩
    obtain ⟨a, b, c, d, rfl⟩ := List.length_eq_four.1 hfour
    simp only [Ipv4.octets, List.map_cons, List.map_nil, List.cons.injEq, and_true] at hvalues
    simp only [List.forall_mem_cons] at hoctets
    obtain ⟨hav, hbv, hcv, hdv⟩ := hvalues
    obtain ⟨ha, hb, hc, hd, -⟩ := hoctets
    exact ⟨a, b, c, d, by simpa using htext, ⟨ha, hav⟩, ⟨hb, hbv⟩, ⟨hc, hcv⟩, ⟨hd, hdv⟩⟩

/-- Fields of octets have values that are octets. -/
theorem QuadFields.exists_addr {text : String} {fields : List (List Char)}
    (h : QuadFields text fields) :
    ∃ addr : Ipv4, addr.octets.map UInt8.toNat = fields.map fieldValue := by
  obtain ⟨a, b, c, d, rfl⟩ := List.length_eq_four.1 h.four
  have hoctets := h.octets
  simp only [List.forall_mem_cons] at hoctets
  obtain ⟨ha, hb, hc, hd, -⟩ := hoctets
  have hvalue {field : List Char} (hf : OctetField field) :
      (UInt8.ofNat (fieldValue field)).toNat = fieldValue field :=
    UInt8.toNat_ofNat_of_lt' (Nat.lt_succ_of_le hf.small)
  refine ⟨⟨.ofNat (fieldValue a), .ofNat (fieldValue b), .ofNat (fieldValue c),
    .ofNat (fieldValue d)⟩, ?_⟩
  simp only [Ipv4.octets, List.map_cons, List.map_nil, hvalue ha, hvalue hb, hvalue hc, hvalue hd]

/-- A text is a dotted quad for some address where the grammar accepts it. -/
theorem exists_dottedQuad_iff {text : String} :
    (∃ addr, DottedQuad text addr) ↔
      text.utf8ByteSize ≤ 15 ∧ ∃ fields, QuadFields text fields := by
  constructor
  · rintro ⟨addr, hshort, fields, hfields, -⟩
    exact ⟨hshort, fields, hfields⟩
  · rintro ⟨hshort, fields, hfields⟩
    obtain ⟨addr, hvalues⟩ := hfields.exists_addr
    exact ⟨addr, hshort, fields, hfields, hvalues⟩

/-! ### Writing -/

/-- The decimal digits of an octet are a field that holds it. -/
theorem octetField_toDigits (x : UInt8) : OctetField (Nat.toDigits 10 x.toNat) where
  nonempty := Nat.toDigits_ne_nil
  digits := fun _ hc => Nat.isDigit_of_mem_toDigits (by decide) (by decide) hc
  small := by
    rw [fieldValue, Nat.ofDigitChars_ten_toDigits]
    exact Nat.le_of_lt_succ x.toNat_lt

/-- A digit takes one byte. -/
theorem utf8Len_of_digits {field : List Char} (h : ∀ c ∈ field, c.isDigit = true) :
    String.utf8Len field = field.length := by
  induction field with
  | nil => rfl
  | cons c cs ih =>
    obtain ⟨hc, hcs⟩ := List.forall_mem_cons.1 h
    have hone : c.utf8Size = 1 := by
      rw [Char.utf8Size_eq_one_iff]
      simp only [Char.isDigit, ge_iff_le, Bool.and_eq_true, decide_eq_true_eq] at hc
      exact UInt32.le_trans hc.2 (by decide)
    rw [String.utf8Len_cons, ih hcs, hone, List.length_cons]

namespace Ipv4

theorem toList_display (x : Ipv4) :
    x.display.toList = ['.'].intercalate (x.octets.map fun o => Nat.toDigits 10 o.toNat) := by
  have hdot : (toString ".").toList = ['.'] := rfl
  simp [display, octets, hdot]

/-- The canonical form keeps to the grammar. -/
theorem quadFields_display (x : Ipv4) :
    QuadFields x.display (x.octets.map fun o => Nat.toDigits 10 o.toNat) where
  four := rfl
  dotted := toList_display x
  octets := by
    intro field hfield
    obtain ⟨o, -, rfl⟩ := List.mem_map.1 hfield
    exact octetField_toDigits o

/-- Each of its fields has three digits at most. -/
theorem utf8ByteSize_display (x : Ipv4) : x.display.utf8ByteSize ≤ 15 := by
  have hthree (o : UInt8) : String.utf8Len (Nat.toDigits 10 o.toNat) ≤ 3 := by
    rw [utf8Len_of_digits (octetField_toDigits o).digits]
    exact (Nat.length_toDigits_le_iff (by decide) (by decide)).2
      (Nat.lt_trans o.toNat_lt (by decide))
  have hdot : String.utf8Len ['.'] = 1 := rfl
  have ha := hthree x.a
  have hb := hthree x.b
  have hc := hthree x.c
  have hd := hthree x.d
  rw [← String.utf8Len_toList, toList_display]
  simp only [octets, List.map_cons, List.map_nil, List.intercalate_cons_cons,
    List.intercalate_singleton, String.utf8Len_append, hdot]
  omega

end Ipv4

/-! ### Numeric hosts -/

namespace Endpoint

variable {text : String} {endpoint : Endpoint}

/-- **An endpoint is read off a dotted quad, and is named by it.** -/
theorem ofQuad?_eq_some_iff :
    ofQuad? text = some endpoint ↔ DottedQuad text endpoint.addr ∧ endpoint.name = text := by
  constructor
  · intro h
    have hquad := isQuad_of_ofQuad? h
    rw [ofQuad?] at h
    split at h
    · rename_i hshort
      obtain ⟨addr, -, rfl⟩ := Option.map_eq_some_iff.1 h
      exact ⟨⟨hshort, isQuad_iff.1 hquad⟩, rfl⟩
    · cases h
  · rintro ⟨⟨hshort, hfields⟩, rfl⟩
    exact ofQuad?_of_isQuad (isQuad_iff.2 hfields) hshort

/-- Nothing is read off what is no dotted quad. -/
theorem ofQuad?_eq_none_iff_forall : ofQuad? text = none ↔ ∀ addr, ¬ DottedQuad text addr := by
  rw [Option.eq_none_iff_forall_ne_some]
  constructor
  · intro hnone addr hquad
    exact hnone ⟨addr, text⟩ (ofQuad?_eq_some_iff.2 ⟨hquad, rfl⟩)
  · intro hno endpoint hread
    exact hno endpoint.addr (ofQuad?_eq_some_iff.1 hread).1

/-- What is written for an address is read as that address. -/
theorem ofQuad?_display (addr : Ipv4) : ofQuad? addr.display = some ⟨addr, addr.display⟩ := by
  refine ofQuad?_eq_some_iff.2
    ⟨⟨addr.utf8ByteSize_display, _, addr.quadFields_display, ?_⟩, rfl⟩
  rw [List.map_map]
  exact List.map_congr_left fun o _ => Nat.ofDigitChars_ten_toDigits.symm

theorem resolveNumeric_eq_ok_iff :
    resolveNumeric text = .ok endpoint ↔ ofQuad? text = some endpoint := by
  rw [resolveNumeric]
  cases ofQuad? text <;> simp

theorem resolveNumeric_eq_error_iff {e : NetError} :
    resolveNumeric text = .error e ↔ e = .invalidAddress text ∧ ofQuad? text = none := by
  rw [resolveNumeric]
  cases ofQuad? text <;> simp [eq_comm]

/-- **Numeric texts are accepted exactly where the grammar accepts them, and every packed address is
found again under its name.** -/
theorem resolveNumeric_exact :
    (∀ text endpoint, resolveNumeric text = .ok endpoint ↔
      DottedQuad text endpoint.addr ∧ endpoint.name = text) ∧
    (∀ text e, resolveNumeric text = .error e ↔ e = .invalidAddress text ∧
      ¬ (text.utf8ByteSize ≤ 15 ∧ ∃ fields, QuadFields text fields)) ∧
    ∀ word, ∃ endpoint, resolveNumeric (ofPacked word).name = .ok endpoint ∧
      endpoint.addr.packed = word := by
  refine ⟨fun text endpoint => ?_, fun text e => ?_, fun word => ?_⟩
  · rw [resolveNumeric_eq_ok_iff, ofQuad?_eq_some_iff]
  · rw [resolveNumeric_eq_error_iff, ofQuad?_eq_none_iff_forall, ← not_exists,
      exists_dottedQuad_iff]
  · exact ⟨_, resolveNumeric_eq_ok_iff.2 (ofQuad?_display (.ofPacked word)),
      Ipv4.packed_ofPacked word⟩

end Endpoint

end PipelineWorker
