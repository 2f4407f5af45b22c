import Mathlib.Algebra.Order.Field.Rat
import Mathlib.Algebra.Order.Field.Power
import Mathlib.Tactic.FieldSimp
import Mathlib.Tactic.Positivity
import Mathlib.Tactic.Ring
import Reckoner.Numeral
import Reckoner.Proofs.Lexeme.Boundary

/-!
# Numeral — decimal literals

The texts that stand for a decimal, written out from the parts of a `Literal`, and the
rational number that each of them `Denotes`. A text is read as a decimal exactly if it is a
literal, and what is read of it is the coefficient and the power of ten of that number. The
words for infinities and for what is not a number are no literals.
-/

namespace Reckoner

/-! ## The parts of a literal -/

inductive SignMark where
  | absent
  | plus
  | minus

namespace SignMark

def text : SignMark → List Char
  | .absent => []
  | .plus => ['+']
  | .minus => ['-']

def isMinus : SignMark → Bool
  | .minus => true
  | _ => false

end SignMark

/-- The end of a literal that gives a power of ten: a `mark`, a sign and digits. -/
structure ExponentPart where
  mark : Char
  sign : SignMark
  digits : List Char
  mark_eq : mark = 'e' ∨ mark = 'E'
  digits_allIn : AllIn Char.isDigit digits

namespace ExponentPart

def text (part : ExponentPart) : List Char := part.mark :: (part.sign.text ++ part.digits)

def value (part : ExponentPart) : ℤ :=
  if part.sign.isMinus then -(Numeral.ofDigits part.digits : ℤ) else Numeral.ofDigits part.digits

end ExponentPart

/-- A decimal literal: a sign, digits, a point with digits after it, and an exponent. All but
the digits can be missing, and these can be missing in one of `whole` and `fraction`. -/
structure Literal where
  sign : SignMark
  whole : List Char
  fraction : Option (List Char)
  exponent : Option ExponentPart
  whole_digits : ∀ c ∈ whole, c.isDigit = true
  fraction_digits : ∀ c ∈ fraction.getD [], c.isDigit = true
  some_digit : whole ≠ [] ∨ fraction.getD [] ≠ []

namespace Literal

/-- The digits after the point, none if there is no `fraction`. -/
def decimals (literal : Literal) : List Char := literal.fraction.getD []

def body (literal : Literal) : List Char :=
  literal.whole ++
    (literal.fraction.elim [] ('.' :: ·) ++ literal.exponent.elim [] ExponentPart.text)

def text (literal : Literal) : List Char := literal.sign.text ++ literal.body

/-- The power of ten that a literal is multiplied by, zero without an `exponent`. -/
def exponentValue (literal : Literal) : ℤ := literal.exponent.elim 0 ExponentPart.value

/-- The number that the digits denote, without the sign and the `exponent`. -/
def mantissa (literal : Literal) : ℚ :=
  Numeral.ofDigits literal.whole +
    (Numeral.ofDigits literal.decimals : ℚ) / 10 ^ literal.decimals.length

/-- The number that a literal denotes. -/
def value (literal : Literal) : ℚ :=
  (if literal.sign.isMinus then -1 else 1) * literal.mantissa * 10 ^ literal.exponentValue

end Literal

/-- Whether `text` is a decimal literal for `value`. -/
def Denotes (text : String) (value : ℚ) : Prop :=
  ∃ literal : Literal, literal.text = text.toList ∧ literal.value = value

/-! ## The value of digits -/

namespace Numeral

theorem ofDigits_append (whole decimals : List Char) :
    ofDigits (whole ++ decimals) = ofDigits whole * 10 ^ decimals.length + ofDigits decimals := by
  rw [ofDigits, Nat.ofDigitChars_append, Nat.ofDigitChars_eq_ofDigitChars_zero, Nat.mul_comm]
  rfl

end Numeral

namespace Literal

/-- All digits of a literal as one whole number. -/
def coefficient (literal : Literal) : ℕ := Numeral.ofDigits (literal.whole ++ literal.decimals)

/-- The power of ten of the last digit of a literal, so that its magnitude is `coefficient * 10
^ scale`. -/
def scale (literal : Literal) : ℤ := literal.exponentValue - literal.decimals.length

/-- The point is only a matter of the power of ten: `mantissa` and `exponentValue` say what
`coefficient` and `scale` say. -/
theorem mantissa_mul (literal : Literal) :
    literal.mantissa * 10 ^ literal.exponentValue =
      (literal.coefficient : ℚ) * 10 ^ literal.scale := by
  have hten : (10 : ℚ) ≠ 0 := by norm_num
  have hpow : (10 : ℚ) ^ literal.decimals.length ≠ 0 := pow_ne_zero _ hten
  rw [mantissa, coefficient, Numeral.ofDigits_append, scale, zpow_sub₀ hten, zpow_natCast]
  push_cast
  field_simp

theorem value_eq (literal : Literal) : literal.value =
    (if literal.sign.isMinus then -1 else 1) *
      ((literal.coefficient : ℚ) * 10 ^ literal.scale) := by
  rw [value, mul_assoc, mantissa_mul]

theorem abs_value (literal : Literal) :
    |literal.value| = (literal.coefficient : ℚ) * 10 ^ literal.scale := by
  have hnonneg : 0 ≤ (literal.coefficient : ℚ) * 10 ^ literal.scale := by positivity
  rw [value_eq]
  cases literal.sign.isMinus with
  | false => simp [abs_of_nonneg hnonneg]
  | true => simp [abs_of_nonneg hnonneg]

end Literal

/-! ## Reading the parts -/

namespace Numeral

theorem splitSign_text (sign : SignMark) {body : List Char}
    (h : ∀ c ∈ body.head?, c ≠ '-' ∧ c ≠ '+') :
    splitSign (sign.text ++ body) = (sign.isMinus, body) := by
  cases sign with
  | plus => rfl
  | minus => rfl
  | absent =>
    cases body with
    | nil => rfl
    | cons c body =>
      obtain ⟨hminus, hplus⟩ := h c rfl
      simp [SignMark.text, SignMark.isMinus, splitSign, hminus, hplus]

theorem exists_sign (text : List Char) : ∃ sign : SignMark,
    text = sign.text ++ (splitSign text).2 ∧ (splitSign text).1 = sign.isMinus := by
  unfold splitSign
  split
  · exact ⟨.minus, rfl, rfl⟩
  · exact ⟨.plus, rfl, rfl⟩
  · exact ⟨.absent, rfl, rfl⟩

theorem ne_of_isDigit {c : Char} (h : c.isDigit = true) :
    c ≠ '-' ∧ c ≠ '+' ∧ c ≠ '.' ∧ c ≠ 'e' ∧ c ≠ 'E' := by
  refine ⟨?_, ?_, ?_, ?_, ?_⟩ <;> rintro rfl <;> cases h

theorem exponent?_text (part : ExponentPart) : exponent? part.text = some part.value := by
  obtain ⟨mark, sign, digits, hmark, hne, hdigits⟩ := part
  have hsplit : splitSign (sign.text ++ digits) = (sign.isMinus, digits) := by
    refine splitSign_text sign ?_
    intro c hc
    have hdigit := ne_of_isDigit (hdigits c (List.mem_of_head? hc))
    exact ⟨hdigit.1, hdigit.2.1⟩
  simp only [ExponentPart.text, exponent?, hsplit]
  rw [if_pos ⟨hmark, hne, List.all_eq_true.2 hdigits⟩]
  rfl

theorem exists_exponent {text : List Char} {exponent : ℤ} (h : exponent? text = some exponent) :
    ∃ part : Option ExponentPart, part.elim [] ExponentPart.text = text := by
  cases text with
  | nil => exact ⟨none, rfl⟩
  | cons mark rest =>
    obtain ⟨sign, hrest, -⟩ := exists_sign rest
    simp only [exponent?] at h
    split at h
    · next hpart =>
      obtain ⟨hmark, hne, hdigits⟩ := hpart
      refine ⟨some ⟨mark, sign, (splitSign rest).2, hmark, hne, List.all_eq_true.1 hdigits⟩, ?_⟩
      show mark :: (sign.text ++ (splitSign rest).2) = mark :: rest
      rw [← hrest]
    · cases h

theorem splitDigits_append {digits rest : List Char} (h : ∀ c ∈ digits, c.isDigit = true)
    (hrest : ∀ c ∈ rest.head?, c.isDigit = false) :
    splitDigits (digits ++ rest) = (digits, rest) := by
  rw [splitDigits, List.takeWhile_append_of_pos h, List.dropWhile_append_of_pos h,
    takeWhile_eq_nil_of_head hrest, dropWhile_eq_self_of_head hrest, List.append_nil]

theorem head_exponent (part : Option ExponentPart) :
    ∀ c ∈ (part.elim [] ExponentPart.text).head?, c.isDigit = false ∧ c ≠ '.' := by
  intro c hc
  cases part with
  | none => cases hc
  | some part =>
    cases hc
    rcases part.mark_eq with hmark | hmark <;> rw [hmark] <;> decide

theorem splitFraction_append {fraction : Option (List Char)} {rest : List Char}
    (h : ∀ c ∈ fraction.getD [], c.isDigit = true)
    (hrest : ∀ c ∈ rest.head?, c.isDigit = false ∧ c ≠ '.') :
    splitFraction (fraction.elim [] ('.' :: ·) ++ rest) = (fraction.getD [], rest) := by
  cases fraction with
  | none =>
    cases rest with
    | nil => rfl
    | cons c rest => simp [splitFraction, (hrest c rfl).2]
  | some digits => exact splitDigits_append h fun c hc => (hrest c hc).1

theorem exists_fraction (text : List Char) : ∃ fraction : Option (List Char),
    text = fraction.elim [] ('.' :: ·) ++ (splitFraction text).2 ∧
      (splitFraction text).1 = fraction.getD [] ∧ ∀ c ∈ fraction.getD [], c.isDigit = true := by
  unfold splitFraction
  split
  · next rest =>
    refine ⟨some (splitDigits rest).1, ?_, rfl, ?_⟩
    · simp [splitDigits]
    · intro c hc
      exact List.mem_takeWhile_imp hc
  · exact ⟨none, rfl, rfl, by simp⟩

/-! ## Reading a literal -/

theorem decimal?_body (negative : Bool) (literal : Literal) :
    decimal? negative literal.body =
      some (.decimal negative literal.coefficient literal.scale) := by
  have hexponent := head_exponent literal.exponent
  -- The digits end at the point or, if there is none, where the exponent begins.
  have hrest : ∀ c ∈ (literal.fraction.elim [] ('.' :: ·) ++
      literal.exponent.elim [] ExponentPart.text).head?, c.isDigit = false := by
    intro c hc
    cases hfraction : literal.fraction with
    | none =>
      rw [hfraction] at hc
      exact (hexponent c hc).1
    | some digits =>
      rw [hfraction] at hc
      cases hc
      rfl
  have hsome : ¬ (literal.whole = [] ∧ literal.fraction.getD [] = []) := by
    rintro ⟨hwhole, hfraction⟩
    exact literal.some_digit.elim (· hwhole) (· hfraction)
  have hvalue : exponent? (literal.exponent.elim [] ExponentPart.text) =
      some literal.exponentValue := by
    cases hpart : literal.exponent with
    | none => simp [exponent?, Literal.exponentValue, hpart]
    | some part => simp [exponent?_text, Literal.exponentValue, hpart]
  rw [decimal?, Literal.body]
  simp only [splitDigits_append literal.whole_digits hrest,
    splitFraction_append literal.fraction_digits hexponent, hvalue]
  rw [if_neg hsome]
  rfl

theorem exists_literal {negative : Bool} {body : List Char} {numeral : Numeral}
    (h : decimal? negative body = some numeral) (sign : SignMark) :
    ∃ literal : Literal, literal.sign = sign ∧ literal.body = body := by
  obtain ⟨fraction, hrest, hdecimals, hfraction⟩ := exists_fraction (splitDigits body).2
  simp only [decimal?] at h
  split at h
  · cases h
  · next hsome =>
    obtain ⟨exponent, hexponent, -⟩ := Option.map_eq_some_iff.1 h
    obtain ⟨part, hpart⟩ := exists_exponent hexponent
    rw [hdecimals, not_and_or] at hsome
    refine ⟨⟨sign, (splitDigits body).1, fraction, part, ?_, hfraction, hsome⟩, rfl, ?_⟩
    · intro c hc
      exact List.mem_takeWhile_imp hc
    · rw [Literal.body, hpart, ← hrest]
      exact List.takeWhile_append_dropWhile

theorem toLower_of_head {c : Char} (h : c.isDigit = true ∨ c = '.') : c.toLower = c := by
  rcases h with h | rfl
  · have hdigit := LexemeKind.isDigit_iff_toNat.1 h
    have hlower : ¬ (c.val ≥ 'A'.val ∧ c.val ≤ 'Z'.val) := by
      rintro ⟨hle, -⟩
      have hnat : 65 ≤ c.toNat := UInt32.le_iff_toNat_le.1 hle
      omega
    exact dif_neg hlower
  · decide

/-- What begins with a digit or a point is none of the words that `unsigned?` knows. -/
theorem unsigned?_of_head (negative : Bool) {c : Char} {rest : List Char}
    (h : c.isDigit = true ∨ c = '.') :
    unsigned? negative (c :: rest) = decimal? negative (c :: rest) := by
  have hne : c ≠ 'n' ∧ c ≠ 'i' := by
    rcases h with h | rfl
    · constructor <;> rintro rfl <;> cases h
    · decide
  -- The first character is not changed by its case, so it is not that of a word.
  have hword : ∀ (d : Char) (word : List Char), c ≠ d →
      String.ofList ((c :: rest).map Char.toLower) ≠ String.ofList (d :: word) := by
    intro d word hd heq
    rw [List.map_cons, toLower_of_head h, String.ofList_inj] at heq
    exact hd (List.cons.inj heq).1
  unfold unsigned?
  split
  · next heq => exact absurd heq (hword 'n' ['a', 'n'] hne.1)
  · next heq => exact absurd heq (hword 'i' ['n', 'f'] hne.2)
  · next heq => exact absurd heq (hword 'i' ['n', 'f', 'i', 'n', 'i', 't', 'y'] hne.2)
  · rfl

theorem decimal?_of_unsigned? {negative sign : Bool} {body : List Char} {coefficient : ℕ}
    {exponent : ℤ} (h : unsigned? negative body = some (.decimal sign coefficient exponent)) :
    decimal? negative body = some (.decimal sign coefficient exponent) := by
  unfold unsigned? at h
  split at h
  · cases h
  · cases h
  · cases h
  · exact h

end Numeral

namespace Literal

theorem exists_head (literal : Literal) : ∃ c rest, literal.body = c :: rest ∧
    (c.isDigit = true ∨ c = '.') := by
  have hdigits := literal.whole_digits
  rw [body]
  cases hwhole : literal.whole with
  | cons c whole =>
    rw [hwhole] at hdigits
    exact ⟨c, _, rfl, .inl (hdigits c (by simp))⟩
  | nil =>
    cases hfraction : literal.fraction with
    | some digits => exact ⟨'.', _, rfl, .inr rfl⟩
    | none =>
      have hsome := literal.some_digit
      simp [hwhole, hfraction] at hsome

/-- A literal is read as its `coefficient` and its `scale`. -/
theorem parse?_eq {literal : Literal} {text : String} (h : literal.text = text.toList) :
    Numeral.parse? text =
      some (.decimal literal.sign.isMinus literal.coefficient literal.scale) := by
  obtain ⟨c, rest, hbody, hc⟩ := literal.exists_head
  have hsign : Numeral.splitSign text.toList = (literal.sign.isMinus, literal.body) := by
    rw [← h]
    refine Numeral.splitSign_text _ ?_
    rw [hbody]
    rintro d hd
    cases hd
    rcases hc with hc | rfl
    · exact ⟨(Numeral.ne_of_isDigit hc).1, (Numeral.ne_of_isDigit hc).2.1⟩
    · decide
  rw [Numeral.parse?, hsign]
  show Numeral.unsigned? literal.sign.isMinus literal.body = _
  rw [hbody, Numeral.unsigned?_of_head _ hc, ← hbody, Numeral.decimal?_body]

theorem exists_of_parse? {text : String} {negative : Bool} {coefficient : ℕ} {exponent : ℤ}
    (h : Numeral.parse? text = some (.decimal negative coefficient exponent)) :
    ∃ literal : Literal, literal.text = text.toList := by
  obtain ⟨sign, htext, -⟩ := Numeral.exists_sign text.toList
  have hread : Numeral.unsigned? (Numeral.splitSign text.toList).1
      (Numeral.splitSign text.toList).2 = _ := h
  obtain ⟨literal, rfl, hbody⟩ :=
    Numeral.exists_literal (Numeral.decimal?_of_unsigned? hread) sign
  exact ⟨literal, by rw [Literal.text, hbody, ← htext]⟩

theorem value_eq_of_text {literal other : Literal} (h : literal.text = other.text) :
    literal.value = other.value := by
  -- What is read of the text is the coefficient and the power of ten of both.
  have htext : literal.text = (String.ofList other.text).toList := by rw [h, String.toList_ofList]
  have hread := (parse?_eq htext).symm.trans (parse?_eq String.toList_ofList.symm)
  obtain ⟨hsign, hcoefficient, hscale⟩ := Numeral.decimal.inj (Option.some.inj hread)
  rw [value_eq, value_eq, hsign, hcoefficient, hscale]

end Literal

theorem Denotes.unique {text : String} {value other : ℚ} (h : Denotes text value)
    (hother : Denotes text other) : value = other := by
  obtain ⟨literal, htext, rfl⟩ := h
  obtain ⟨second, hsecond, rfl⟩ := hother
  exact Literal.value_eq_of_text (htext.trans hsecond.symm)

end Reckoner
