/-
What a literal is read as.

A text is one string token. A number is one number token, with the operator `-`
before it if it is negative: an integer is written in digits, and a finite float in
digits with a fraction at most, never with an exponent or a name. Where a literal
stands in a query, what follows it cannot become a part of it: the end, a closing
parenthesis, a comma or a conjunction.
-/
import MonitorControl.Proofs.Sql.Token

set_option autoImplicit false

namespace MonitorControl

/-! ## Finite floats -/

open Float.Model in
theorem toNat_unpackExponent (b : BitVec Format.binary64.numBits) :
    (UnpackedFloat.unpackExponent b).toNat = b.toNat / Nat.pow 2 52 % Nat.pow 2 11 := by
  rw [UnpackedFloat.unpackExponent, BitVec.toNat_cast, BitVec.extractLsb_toNat,
    Nat.shiftRight_eq_div_pow]
  rfl

open Float.Model in
/-- A finite float has no name. -/
theorem ofSpecialFloat?_of_isFinite {x : Float} (h : x.isFinite = true) :
    Text.ofSpecialFloat? x = none := by
  rw [Text.ofSpecialFloat?]
  refine if_pos ?_
  rw [bne_iff_ne]
  intro hspecial
  -- with all exponent bits set, a float is infinite or no number
  have hexponent : @UnpackedFloat.unpackExponent Format.binary64 x.toBits.toBitVec = -1#11 := by
    apply BitVec.eq_of_toNat_eq
    rw [toNat_unpackExponent]
    exact hspecial
  have hunpack : UnpackedFloat.unpack Format.binary64 x.toBits.toBitVec =
      if @UnpackedFloat.unpackMantissa Format.binary64 x.toBits.toBitVec = 0#52 then
        .infinity (.ofBitVec (@UnpackedFloat.unpackSign Format.binary64 x.toBits.toBitVec))
      else .notANumber :=
    if_pos hexponent
  change (UnpackedFloat.unpack Format.binary64 x.toBits.toBitVec).isFinite = true at h
  rw [hunpack] at h
  by_cases hmantissa : @UnpackedFloat.unpackMantissa Format.binary64 x.toBits.toBitVec = 0#52
  · rw [if_pos hmantissa] at h
    cases h
  · rw [if_neg hmantissa] at h
    cases h

namespace Sql

/-! ## Numerals -/

theorem isDigit_of_mem_ofNat {n : Nat} {c : Char} (h : c ∈ Text.ofNat n) : c.isDigit = true :=
  Nat.isDigit_of_mem_toDigits (by decide) (by decide) h

theorem ofNat_ne_nil (n : Nat) : Text.ofNat n ≠ [] := Nat.toDigits_ne_nil

theorem isNumeral_of_digits {t : Text} (hne : t ≠ []) (ht : ∀ c ∈ t, c.isDigit = true) :
    IsNumeral t := by
  cases t with
  | nil => exact absurd rfl hne
  | cons c t => exact .whole (ht c List.mem_cons_self) fun d hd => ht d (List.mem_cons_of_mem c hd)

/-- A point before the last places of more digits than that. -/
theorem isNumeral_point {t : Text} {places : Nat} (ht : ∀ c ∈ t, c.isDigit = true)
    (hlength : places < t.length) :
    IsNumeral (t.take (t.length - places) ++ '.' :: t.drop (t.length - places)) := by
  cases t with
  | nil => exact absurd hlength (Nat.not_lt_zero _)
  | cons c t =>
    rw [List.length_cons] at hlength
    rw [List.length_cons, Nat.sub_add_comm (Nat.le_of_lt_succ hlength), List.take_succ_cons]
    refine .fraction (ht c List.mem_cons_self) ?_ ?_
    · intro d hd
      exact ht d (List.mem_cons_of_mem c (List.mem_of_mem_take hd))
    · intro d hd
      exact ht d (List.mem_of_mem_drop hd)

/-- **A decimal number is written as a numeral**, with a digit on each side of its point. -/
theorem isNumeral_positional (d : Decimal) : IsNumeral d.positional := by
  have hdigits : ∀ n, ∀ c ∈ List.replicate n '0' ++ Text.ofNat d.coefficient, c.isDigit = true := by
    intro n c hc
    rcases List.mem_append.1 hc with hzero | hdigit
    · rw [List.eq_of_mem_replicate hzero]
      rfl
    · exact isDigit_of_mem_ofNat hdigit
  rw [Decimal.positional]
  by_cases hexponent : 0 ≤ d.exponent
  · rw [if_pos hexponent]
    refine isNumeral_of_digits (List.append_ne_nil_of_left_ne_nil (ofNat_ne_nil _) _) ?_
    intro c hc
    rcases List.mem_append.1 hc with hdigit | hzero
    · exact isDigit_of_mem_ofNat hdigit
    · rw [List.eq_of_mem_replicate hzero]
      rfl
  · rw [if_neg hexponent]
    refine isNumeral_point (hdigits _) ?_
    rw [List.length_append, List.length_replicate]
    omega

/-- A numeral with a minus before it, if it is negative. -/
def signed (negative : Bool) (t : Text) : Text := if negative then '-' :: t else t

theorem exists_ofInt (n : Int) :
    ∃ negative t, IsNumeral t ∧ Text.ofInt n = signed negative t := by
  have hnumeral : IsNumeral (Text.ofNat n.natAbs) :=
    isNumeral_of_digits (ofNat_ne_nil _) fun c hc => isDigit_of_mem_ofNat hc
  rw [Text.ofInt]
  by_cases hn : n < 0
  · exact ⟨true, _, hnumeral, if_pos hn⟩
  · exact ⟨false, _, hnumeral, if_neg hn⟩

/-- **A finite float is written as a numeral.** -/
theorem exists_ofFloat {x : Float} (hx : x.isFinite = true) :
    ∃ negative t, IsNumeral t ∧ Text.ofFloat x = signed negative t := by
  rw [Text.ofFloat, ofSpecialFloat?_of_isFinite hx]
  refine ⟨(Binary64.ofFloat x).negative, _, ?_, rfl⟩
  split
  · -- zero has no digits to place a point in
    exact .whole rfl fun d hd => absurd hd List.not_mem_nil
  · exact isNumeral_positional _

/-! ## Operands -/

/-- **What a literal is read as.** -/
inductive Operand where
  | string (s : StringToken)
  | number (negative : Bool) (numeral : Text)
  deriving DecidableEq, Repr

/-- The tokens of an operand. -/
def Operand.tokens : Operand → List Token
  | .string s => [.string s]
  | .number negative numeral => (if negative then [.operator ['-']] else []) ++ [.number numeral]

/-- The operand that a number is written as. -/
def Operand.ofNumber : Text → Operand
  | [] => .number false []
  | c :: t => if c == '-' then .number true t else .number false (c :: t)

/-- **The operand that a literal is written as.** -/
def Literal.operand : Literal → Operand
  | .text t => .string (.ofText t)
  | .integer n => .ofNumber (Text.ofInt n)
  | .float x => .ofNumber (Text.ofFloat x)

/-- The texts in a literal: one, or none. -/
def Literal.texts : Literal → List Text
  | .text t => [t]
  | .integer _ => []
  | .float _ => []

/-- A number has no strings. -/
theorem strings_ofNumber (t : Text) : strings (Operand.ofNumber t).tokens = [] := by
  cases t with
  | nil => rfl
  | cons c t =>
    rw [Operand.ofNumber]
    split <;> rfl

/-- **The strings of a literal are those that its texts are written as.** -/
theorem Literal.strings_tokens (value : Literal) :
    strings value.operand.tokens = value.texts.map .ofText := by
  cases value with
  | text t => rfl
  | integer n => exact strings_ofNumber (Text.ofInt n)
  | float x => exact strings_ofNumber (Text.ofFloat x)

/-- The literal is not a float, or a finite one. -/
def Literal.IsFinite : Literal → Prop
  | .text _ => True
  | .integer _ => True
  | .float x => x.isFinite = true

/-- **What can follow a literal**: nothing, a closing parenthesis, a comma, or a conjunction. -/
inductive Stops : Text → Prop where
  | done : Stops []
  | close (rest : Text) : Stops (')' :: rest)
  | comma (rest : Text) : Stops (',' :: rest)
  | conjunction (k : Conjunction) (rest : Text) : Stops (' ' :: (k.keyword ++ ' ' :: rest))

/-- None of these can become a part of a number or a string. -/
theorem Stops.ends {rest : Text} (h : Stops rest) :
    (∀ c ∈ rest.head?, isWordPart c = false ∧ c ≠ '.' ∧ c ≠ '\'') ∧ continues rest = false := by
  cases h with
  | done => exact ⟨fun c hc => absurd hc (Option.not_mem_none c), rfl⟩
  | close rest =>
    refine ⟨fun c hc => ?_, rfl⟩
    obtain rfl := Option.some.inj hc
    decide
  | comma rest =>
    refine ⟨fun c hc => ?_, rfl⟩
    obtain rfl := Option.some.inj hc
    decide
  | conjunction k rest =>
    refine ⟨fun c hc => ?_, ?_⟩
    · obtain rfl := Option.some.inj hc
      decide
    · cases k <;> rfl

theorem operand_ofNumber (negative : Bool) {t : Text} (ht : IsNumeral t) :
    Operand.ofNumber (signed negative t) = .number negative t := by
  cases negative with
  | true => rfl
  | false =>
    obtain ⟨c, t', rfl, hc⟩ := ht.head
    refine if_neg ?_
    rw [beq_iff_eq]
    rintro rfl
    cases hc

/-- **A number is read as its tokens**, wherever a literal can stand. -/
theorem lex?_signed (negative : Bool) {t rest : Text} (ht : IsNumeral t) (hrest : Stops rest) :
    lex? (signed negative t ++ rest) =
      (lex? rest).map ((Operand.number negative t).tokens ++ ·) := by
  have hnumeral : lex? (t ++ rest) = (lex? rest).map (.number t :: ·) :=
    lex?_numeral ht fun d hd => ⟨(hrest.ends.1 d hd).1, (hrest.ends.1 d hd).2.1⟩
  cases negative with
  | false => exact hnumeral
  | true =>
    -- the minus is an operator of its own, as no other operator character follows it
    have hminus : lex? ('-' :: (t ++ rest)) = (lex? (t ++ rest)).map (.operator ['-'] :: ·) := by
      obtain ⟨c, t', rfl, hc⟩ := ht.head
      refine lex?_token rfl ?_
      have hdigit : ∀ d ∈ (c :: t' ++ rest).head?, isOperatorChar d = false := by
        intro d hd
        obtain rfl := Option.some.inj hd
        exact isOperatorChar_of_isDigit hc
      obtain ⟨htake, hdrop⟩ := Text.span_append (t := []) (fun d hd => absurd hd List.not_mem_nil) hdigit
      show readOperator? '-' ([] ++ (c :: t' ++ rest)) = _
      rw [readOperator?, htake, hdrop]
      rfl
    show lex? ('-' :: (t ++ rest)) = _
    rw [hminus, hnumeral, Option.map_map]
    rfl

/-- **A literal is read as its operand**, wherever it can stand. -/
theorem lex?_literal {value : Literal} (hvalue : value.IsFinite) {rest : Text} (hrest : Stops rest) :
    lex? (value.toText ++ rest) = (lex? rest).map (value.operand.tokens ++ ·) := by
  cases value with
  | text t =>
    obtain ⟨hhead, hcontinues⟩ := hrest.ends
    exact lex?_quoteText t (fun c hc => (hhead c hc).2.2) hcontinues
  | integer n =>
    obtain ⟨negative, t, ht, htext⟩ := exists_ofInt n
    rw [Literal.toText, Literal.operand, htext, operand_ofNumber negative ht]
    exact lex?_signed negative ht hrest
  | float x =>
    obtain ⟨negative, t, ht, htext⟩ := exists_ofFloat hvalue
    rw [Literal.toText, Literal.operand, htext, operand_ofNumber negative ht]
    exact lex?_signed negative ht hrest

end Sql

end MonitorControl
