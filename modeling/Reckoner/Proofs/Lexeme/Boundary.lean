import Reckoner.Lexeme.Language
import Reckoner.Proofs.Text.Class

/-!
# Lexeme — boundaries

Where a lexeme begins and where it ends. Each kind has a class of characters that its
lexemes begin with, told by `LexemeKind.begins`, and no character is in two of these
classes. A lexeme ends where the next character cannot be more of it.
-/

namespace Reckoner

/-! ## Runs of a class -/

instance (inClass : Char → Bool) (text : List Char) : Decidable (AllIn inClass text) :=
  decidable_of_iff (text ≠ [] ∧ text.all inClass = true) (by simp [AllIn])

theorem AllIn.last {inClass : Char → Bool} {text : List Char} (h : AllIn inClass text) :
    ∃ init c, text = init ++ [c] ∧ inClass c = true := by
  obtain ⟨hne, hall⟩ := h
  refine ⟨text.dropLast, text.getLast hne, (List.dropLast_concat_getLast hne).symm, ?_⟩
  exact hall _ (List.getLast_mem hne)

theorem AllIn.snoc {inClass : Char → Bool} {text : List Char} {c : Char}
    (h : AllIn inClass text) (hc : inClass c = true) : AllIn inClass (text ++ [c]) := by
  refine ⟨by simp, ?_⟩
  intro d hd
  rcases List.mem_append.1 hd with hd | hd
  · exact h.2 d hd
  · rw [List.mem_singleton.1 hd]
    exact hc

namespace LexemeKind

/-! ## First characters -/

@[simp] theorem mem_all (kind : LexemeKind) : kind ∈ all := by
  cases kind <;> decide

/-- Whether lexemes of a kind begin with a character. -/
def begins : LexemeKind → Char → Bool
  | .number => Char.isDigit
  | .operator => isOperatorSign
  | .parenthesis => isParenthesis
  | .whitespace => isBlank

/-- Whether a character right after a lexeme of a kind can be more of that lexeme. For a number
that is a digit or a point, although a point alone adds nothing. -/
def continues : LexemeKind → Char → Bool
  | .number => fun c => c.isDigit || c = '.'
  | .operator => fun _ => false
  | .parenthesis => fun _ => false
  | .whitespace => isBlank

theorem isDigit_iff_toNat {c : Char} : c.isDigit = true ↔ 48 ≤ c.toNat ∧ c.toNat ≤ 57 := by
  simp [Char.isDigit, UInt32.le_iff_toNat_le]

theorem isOperatorSign_iff_toNat {c : Char} : isOperatorSign c = true ↔
    c.toNat = 43 ∨ c.toNat = 45 ∨ c.toNat = 42 ∨ c.toNat = 47 := by
  simp [isOperatorSign, ← Char.toNat_inj, or_assoc]

theorem isParenthesis_iff_toNat {c : Char} :
    isParenthesis c = true ↔ c.toNat = 40 ∨ c.toNat = 41 := by
  simp [isParenthesis, ← Char.toNat_inj]

theorem toNat_of_isBlank {c : Char} (h : isBlank c = true) : c.toNat < 40 ∨ 57 < c.toNat := by
  simp only [isBlank, Bool.or_eq_true, Bool.and_eq_true, decide_eq_true_eq] at h
  omega

/-- The code points of digits, signs and parentheses lie between those of the blanks. -/
theorem toNat_of_begins {kind : LexemeKind} {c : Char} (hkind : kind ≠ .whitespace)
    (h : kind.begins c = true) : 40 ≤ c.toNat ∧ c.toNat ≤ 57 := by
  cases kind with
  | number =>
    have hc := isDigit_iff_toNat.1 h
    omega
  | operator =>
    have hc := isOperatorSign_iff_toNat.1 h
    omega
  | parenthesis =>
    have hc := isParenthesis_iff_toNat.1 h
    omega
  | whitespace => exact absurd rfl hkind

theorem begins_inj {kind other : LexemeKind} {c : Char} (h : kind.begins c = true)
    (hother : other.begins c = true) : kind = other := by
  by_cases hk : kind = .whitespace <;> by_cases ho : other = .whitespace
  · rw [hk, ho]
  · subst hk
    have hblank := toNat_of_isBlank h
    have hc := toNat_of_begins ho hother
    omega
  · subst ho
    have hblank := toNat_of_isBlank hother
    have hc := toNat_of_begins hk h
    omega
  · -- Neither is blank, and the other classes are known code point by code point.
    cases kind <;> cases other <;> try rfl
    all_goals
      simp only [begins, isDigit_iff_toNat, isOperatorSign_iff_toNat, isParenthesis_iff_toNat,
        reduceCtorEq, not_false_eq_true, not_true_eq_false] at h hother hk ho
    all_goals omega

/-- A point begins no lexeme, so a number takes it or it is stray. -/
theorem begins_point (kind : LexemeKind) : kind.begins '.' = false := by
  cases kind <;> decide

/-! ## The first and the last character of a lexeme -/

@[simp] theorem longestPrefix_nil (kind : LexemeKind) : kind.longestPrefix [] = [] := by
  cases kind <;> rfl

/-- A kind finds a lexeme exactly where its first character `begins` one. -/
theorem longestPrefix_cons_ne_nil_iff {kind : LexemeKind} {c : Char} {rest : List Char} :
    kind.longestPrefix (c :: rest) ≠ [] ↔ kind.begins c = true := by
  cases kind with
  | number =>
    simp only [longestPrefix, leadingNumber, begins, List.takeWhile_cons]
    by_cases hc : c.isDigit = true <;> simp [hc]
  | operator => simp [longestPrefix, firstIf, begins]
  | parenthesis => simp [longestPrefix, firstIf, begins]
  | whitespace => simp [longestPrefix, begins, List.takeWhile_cons]

theorem longestPrefix_eq_nil_iff {kind : LexemeKind} {text : List Char} :
    kind.longestPrefix text = [] ↔ ∀ c ∈ text.head?, kind.begins c = false := by
  cases text with
  | nil => simp
  | cons c rest =>
    have hiff := @longestPrefix_cons_ne_nil_iff kind c rest
    cases hc : kind.begins c <;> simp_all

theorem Spells.ne_nil {kind : LexemeKind} {text : List Char} (h : kind.Spells text) :
    text ≠ [] := by
  cases kind with
  | number =>
    obtain ⟨whole, fraction, rfl, hwhole, -⟩ := h
    simp [hwhole.1]
  | operator =>
    obtain ⟨sign, rfl, -⟩ := h
    simp
  | parenthesis =>
    obtain ⟨c, rfl, -⟩ := h
    simp
  | whitespace => exact h.1

theorem Spells.head {kind : LexemeKind} {text : List Char} (h : kind.Spells text) :
    ∃ c rest, text = c :: rest ∧ kind.begins c = true := by
  obtain ⟨c, rest, rfl⟩ := List.exists_cons_of_ne_nil h.ne_nil
  have hne : kind.longestPrefix (c :: rest) ≠ [] := by
    intro hnil
    have hle := length_le_longestPrefix h List.prefix_rfl
    simp [hnil] at hle
  exact ⟨c, rest, rfl, longestPrefix_cons_ne_nil_iff.1 hne⟩

/-- A lexeme ends with a character that `begins` one of its kind. -/
theorem Spells.last {kind : LexemeKind} {text : List Char} (h : kind.Spells text) :
    ∃ init c, text = init ++ [c] ∧ kind.begins c = true := by
  cases kind with
  | number =>
    obtain ⟨whole, fraction, rfl, hwhole, rfl | ⟨digits, rfl, hdigits⟩⟩ := h
    · obtain ⟨init, c, rfl, hc⟩ := hwhole.last
      exact ⟨init, c, by simp, hc⟩
    · obtain ⟨init, c, rfl, hc⟩ := hdigits.last
      exact ⟨whole ++ '.' :: init, c, by simp, hc⟩
  | operator =>
    obtain ⟨sign, rfl, hsign⟩ := h
    exact ⟨[], sign, rfl, isOperatorSign_iff_mem.2 hsign⟩
  | parenthesis =>
    obtain ⟨c, rfl, hc⟩ := h
    exact ⟨[], c, rfl, isParenthesis_iff_mem.2 hc⟩
  | whitespace => exact AllIn.last h

/-- Unless it is a `number`, a lexeme holds only characters that `begins` accepts. -/
theorem Spells.all {kind : LexemeKind} {text : List Char} (h : kind.Spells text)
    (hkind : kind ≠ .number) : ∀ c ∈ text, kind.begins c = true := by
  cases kind with
  | number => exact absurd rfl hkind
  | operator =>
    obtain ⟨sign, rfl, hsign⟩ := h
    intro c hc
    rw [List.mem_singleton.1 hc]
    exact isOperatorSign_iff_mem.2 hsign
  | parenthesis =>
    obtain ⟨c, rfl, hparenthesis⟩ := h
    intro d hd
    rw [List.mem_singleton.1 hd]
    exact isParenthesis_iff_mem.2 hparenthesis
  | whitespace => exact h.2

theorem spells_of_longestPrefix {kind : LexemeKind} {found rest : List Char}
    (h : kind.longestPrefix (found ++ rest) = found) (hne : found ≠ []) : kind.Spells found := by
  rw [← h] at hne ⊢
  exact spells_longestPrefix hne

/-! ## The character after a lexeme -/

theorem leadingFraction_of_head {text : List Char} (h : ∀ c ∈ text.head?, c ≠ '.') :
    leadingFraction text = [] := by
  cases text with
  | nil => rfl
  | cons c rest =>
    unfold leadingFraction
    split
    · next heq => exact absurd (List.cons.inj heq).1 (h c rfl)
    · rfl

/-- A lexeme is found whole where the next character cannot continue it, see `continues`. -/
theorem longestPrefix_append {kind : LexemeKind} {found rest : List Char}
    (h : kind.Spells found) (hnext : ∀ c ∈ rest.head?, kind.continues c = false) :
    kind.longestPrefix (found ++ rest) = found := by
  cases kind with
  | number =>
    obtain ⟨whole, fraction, rfl, hwhole, hfraction⟩ := h
    have hdigit : ∀ c ∈ rest.head?, c.isDigit = false := by
      intro c hc
      exact (Bool.or_eq_false_iff.1 (hnext c hc)).1
    simp only [longestPrefix]
    rw [List.append_assoc, leadingNumber_of_digits hwhole, List.append_assoc]
    congr 1
    rcases hfraction with rfl | ⟨digits, rfl, hdigits⟩
    · -- After whole digits neither a digit nor a point follows, after a fraction no digit.
      have hpoint : ∀ c ∈ rest.head?, c ≠ '.' := by
        intro c hc
        simpa using (Bool.or_eq_false_iff.1 (hnext c hc)).2
      simp [takeWhile_eq_nil_of_head hdigit, dropWhile_eq_self_of_head hdigit,
        leadingFraction_of_head hpoint]
    · rw [List.cons_append, List.takeWhile_cons_of_neg (by decide),
        List.dropWhile_cons_of_neg (by decide), leadingFraction_of_digits hdigits,
        takeWhile_eq_nil_of_head hdigit]
      simp
  | operator =>
    obtain ⟨sign, rfl, hsign⟩ := h
    exact firstIf_of_mem (isOperatorSign_iff_mem.2 hsign) rest
  | parenthesis =>
    obtain ⟨c, rfl, hc⟩ := h
    exact firstIf_of_mem (isParenthesis_iff_mem.2 hc) rest
  | whitespace =>
    simp only [continues] at hnext
    simp only [longestPrefix]
    rw [takeWhile_append_of_allIn h, takeWhile_eq_nil_of_head hnext, List.append_nil]

/-- Whether two lexemes of `kind` side by side are one. -/
def merges (kind : LexemeKind) : Prop := kind = .number ∨ kind = .whitespace

/-- A lexeme cannot go on with the first character of another one, unless they are of one kind
that `merges`. -/
theorem continues_eq_false_of_begins {kind other : LexemeKind} {c : Char}
    (hc : other.begins c = true) (h : kind = other → ¬ kind.merges) :
    kind.continues c = false := by
  cases kind with
  | number =>
    have hdigit : c.isDigit = false := by
      cases hd : c.isDigit with
      | false => rfl
      | true => exact absurd (.inl rfl) (h (begins_inj hd hc))
    -- What begins no lexeme is no first character.
    have hpoint : c ≠ '.' := by
      intro heq
      subst heq
      simp [begins_point] at hc
    simp [continues, hdigit, hpoint]
  | operator => rfl
  | parenthesis => rfl
  | whitespace =>
    cases hb : isBlank c with
    | false => exact hb
    | true => exact absurd (.inr rfl) (h (begins_inj hb hc))

theorem Spells.snoc {kind : LexemeKind} {text : List Char} {c : Char} (h : kind.Spells text)
    (hmerges : kind.merges) (hc : kind.begins c = true) : kind.Spells (text ++ [c]) := by
  rcases hmerges with rfl | rfl
  · obtain ⟨whole, fraction, rfl, hwhole, rfl | ⟨digits, rfl, hdigits⟩⟩ := h
    · exact ⟨whole ++ [c], [], by simp, hwhole.snoc hc, .inl rfl⟩
    · exact ⟨whole, '.' :: (digits ++ [c]), by simp, hwhole,
        .inr ⟨_, rfl, hdigits.snoc hc⟩⟩
  · exact AllIn.snoc h hc

/-- After the longest lexeme of a kind that `merges`, no lexeme of the kind begins. -/
theorem begins_eq_false_of_longestPrefix {kind : LexemeKind} {found rest : List Char}
    (h : kind.longestPrefix (found ++ rest) = found) (hne : found ≠ []) (hmerges : kind.merges) :
    ∀ c ∈ rest.head?, kind.begins c = false := by
  intro c hc
  obtain ⟨rest, rfl⟩ := List.head?_eq_some_iff.1 hc
  cases hbegins : kind.begins c with
  | false => rfl
  | true =>
    -- Otherwise the lexeme with this character would be a longer one of the kind.
    have hfound := spells_of_longestPrefix h hne
    have hbegin : found ++ [c] <+: found ++ c :: rest := ⟨rest, by simp⟩
    have hle := length_le_longestPrefix (hfound.snoc hmerges hbegins) hbegin
    simp only [h, List.length_append, List.length_singleton] at hle
    omega

end LexemeKind

end Reckoner
