import Mathlib.Order.Bounds.Basic
import Reckoner.Proofs.Scan.Run

/-!
# Scan — stray characters

Which characters of an expression no lexeme can hold, said of each character by the
digits around it and without a scan. An expression with no stray character has tokens,
and in any other the first stray character is the one that is reported.

The scan knows nothing of what it has passed. What makes the local rule agree with it
is `Clean`: between two lexemes, nothing that was passed is stray, and what comes next
cannot be more of a number before it.
-/

namespace Reckoner

/-- Whether a point between `before` and `after` is the point of a number: a digit comes right
after it, digits come right before it, and these are not themselves a fraction. -/
def IsDecimalPoint (before after : List Char) : Prop :=
  (∃ c ∈ after.head?, c.isDigit = true) ∧
    before.rtakeWhile Char.isDigit ≠ [] ∧
    (before.rdropWhile Char.isDigit).getLast? ≠ some '.'

/-- Whether no lexeme of `text` can hold the character at `index`. -/
def IsStray (text : List Char) (index : Nat) : Prop :=
  ∃ c ∈ text[index]?, c.isDigit = false ∧ c ∉ ['+', '-', '*', '/', '(', ')'] ∧
    isBlank c = false ∧
    ¬ (c = '.' ∧ IsDecimalPoint (text.take index) (text.drop (index + 1)))

instance (before after : List Char) : Decidable (IsDecimalPoint before after) :=
  have : Decidable (∃ c ∈ after.head?, c.isDigit = true) := Option.decidableExistsMem _
  inferInstanceAs (Decidable (_ ∧ _))

instance (text : List Char) (index : Nat) : Decidable (IsStray text index) :=
  Option.decidableExistsMem text[index]?

/-! ## Characters around a place -/

theorem forall_begins_eq_false_iff {c : Char} :
    (∀ kind : LexemeKind, kind.begins c = false) ↔
      c.isDigit = false ∧ c ∉ ['+', '-', '*', '/', '(', ')'] ∧ isBlank c = false := by
  constructor
  · intro h
    refine ⟨h .number, ?_, h .whitespace⟩
    have hsign := h .operator
    have hparenthesis := h .parenthesis
    simp only [LexemeKind.begins, LexemeKind.isOperatorSign, LexemeKind.isParenthesis,
      Bool.or_eq_false_iff, decide_eq_false_iff_not] at hsign hparenthesis
    simp only [List.mem_cons, List.not_mem_nil, not_or]
    tauto
  · intro h kind
    obtain ⟨hdigit, hmem, hblank⟩ := h
    simp only [List.mem_cons, List.not_mem_nil, not_or] at hmem
    cases kind with
    | number => exact hdigit
    | operator => simp [LexemeKind.begins, LexemeKind.isOperatorSign, hmem]
    | parenthesis => simp [LexemeKind.begins, LexemeKind.isParenthesis, hmem]
    | whitespace => exact hblank

theorem isStray_append_cons {before after : List Char} {c : Char} :
    IsStray (before ++ c :: after) before.length ↔
      (∀ kind : LexemeKind, kind.begins c = false) ∧ ¬ (c = '.' ∧ IsDecimalPoint before after) := by
  rw [forall_begins_eq_false_iff]
  simp [IsStray, and_assoc]

/-! ## Points around digits -/

theorem isDecimalPoint_after_whole {before whole after : List Char}
    (hbefore : before.rtakeWhile Char.isDigit = []) (hpoint : before.getLast? ≠ some '.')
    (hwhole : AllIn Char.isDigit whole) (hafter : ∃ c ∈ after.head?, c.isDigit = true) :
    IsDecimalPoint (before ++ whole) after := by
  refine ⟨hafter, ?_, ?_⟩
  · rw [rtakeWhile_append_of_all hwhole.2, hbefore]
    exact hwhole.1
  · rwa [rdropWhile_append_of_all hwhole.2, rdropWhile_eq_self hbefore]

theorem not_isDecimalPoint_after_fraction {before digits after : List Char}
    (hdigits : AllIn Char.isDigit digits) : ¬ IsDecimalPoint (before ++ '.' :: digits) after := by
  intro h
  obtain ⟨-, -, hpoint⟩ := h
  rw [← List.singleton_append, ← List.append_assoc, rdropWhile_append_of_all hdigits.2,
    List.rdropWhile_concat_neg _ _ _ (by decide), List.getLast?_concat] at hpoint
  exact hpoint rfl

/-! ## Between two lexemes -/

/-- Whether a text has no character in `before` that is stray. -/
def NoStray (before after : List Char) : Prop :=
  ∀ index < before.length, ¬ IsStray (before ++ after) index

theorem NoStray.snoc {before after : List Char} {c : Char} (h : NoStray before (c :: after))
    (hc : (∃ kind : LexemeKind, kind.begins c = true) ∨ c = '.' ∧ IsDecimalPoint before after) :
    NoStray (before ++ [c]) after := by
  intro index hindex
  rw [List.append_assoc, List.singleton_append]
  by_cases hlt : index < before.length
  · exact h index hlt
  · -- The only new character is the last one.
    have heq : index = before.length := by
      simp only [List.length_append, List.length_singleton] at hindex
      omega
    subst heq
    rw [isStray_append_cons]
    intro hstray
    obtain ⟨hnone, hpoint⟩ := hstray
    rcases hc with ⟨kind, hkind⟩ | hc
    · simp [hnone kind] at hkind
    · exact hpoint hc

theorem NoStray.append {before run after : List Char} {kind : LexemeKind}
    (h : NoStray before (run ++ after)) (hrun : ∀ c ∈ run, kind.begins c = true) :
    NoStray (before ++ run) after := by
  induction run generalizing before with
  | nil => simpa using h
  | cons c run ih =>
    obtain ⟨hc, hrun⟩ := List.forall_mem_cons.1 hrun
    have hsnoc := ih (h.snoc (.inl ⟨kind, hc⟩)) hrun
    rwa [List.append_assoc] at hsnoc

/-- What holds of the texts before and after a place between two lexemes, the invariant of
`Passes`. -/
structure Clean (before after : List Char) : Prop where
  noStray : NoStray before after
  notPoint : before.getLast? ≠ some '.'
  digit : (∃ c ∈ after.head?, c.isDigit = true) → before.rtakeWhile Char.isDigit = []
  point : ∀ rest, after = '.' :: rest → ¬ IsDecimalPoint before rest

theorem clean_nil (text : List Char) : Clean [] text where
  noStray := by
    intro index hindex
    simp at hindex
  notPoint := by simp
  digit := fun _ => rfl
  point := by
    intro rest hrest hpoint
    obtain ⟨-, hdigits, -⟩ := hpoint
    exact hdigits rfl

/-- Over a sign, a parenthesis or blanks `Clean` goes on: they are no stray characters, and no
number ends there. -/
theorem Clean.step_of_ne_number {kind : LexemeKind} {before found rest : List Char}
    (h : Clean before (found ++ rest)) (hfound : kind.Spells found) (hkind : kind ≠ .number) :
    Clean (before ++ found) rest := by
  obtain ⟨init, c, rfl, hc⟩ := hfound.last
  have hdigit : c.isDigit = false := by
    cases hd : LexemeKind.number.begins c with
    | false => exact hd
    | true => exact absurd (LexemeKind.begins_inj hc hd) hkind
  have hnone : (before ++ (init ++ [c])).rtakeWhile Char.isDigit = [] := by
    rw [← List.append_assoc, List.rtakeWhile_concat_neg]
    simp [hdigit]
  refine ⟨h.noStray.append (hfound.all hkind), ?_, fun _ => hnone, ?_⟩
  · rw [← List.append_assoc, List.getLast?_concat]
    intro heq
    cases heq
    simp [LexemeKind.begins_point] at hc
  · intro after hafter hpoint
    obtain ⟨-, hdigits, -⟩ := hpoint
    exact hdigits hnone

/-- The only point in a number is a decimal point. -/
theorem Clean.noStray_number {before found rest : List Char}
    (h : Clean before (found ++ rest)) (hfound : LexemeKind.Spells .number found)
    (hbefore : before.rtakeWhile Char.isDigit = []) : NoStray (before ++ found) rest := by
  obtain ⟨whole, fraction, rfl, hwhole, hfraction⟩ := hfound
  have hdigit : ∀ {digits : List Char}, AllIn Char.isDigit digits →
      ∀ c ∈ digits, LexemeKind.number.begins c = true := fun h => h.2
  have hpassed : NoStray (before ++ whole) (fraction ++ rest) :=
    NoStray.append (by simpa using h.noStray) (hdigit hwhole)
  rcases hfraction with rfl | ⟨digits, rfl, hdigits⟩
  · simpa using hpassed
  · have hpoint : IsDecimalPoint (before ++ whole) (digits ++ rest) := by
      obtain ⟨c, tail, rfl⟩ := List.exists_cons_of_ne_nil hdigits.1
      have hc := hdigits.2 c (by simp)
      exact isDecimalPoint_after_whole hbefore h.notPoint hwhole ⟨c, rfl, hc⟩
    have hfraction := (hpassed.snoc (.inr ⟨rfl, hpoint⟩)).append (hdigit hdigits)
    simpa using hfraction

/-- A number that ends before a point would have gone on if there `IsDecimalPoint` held. -/
theorem not_isDecimalPoint_after_number {before found after : List Char}
    (hfound : LexemeKind.Spells .number found)
    (hlongest : LexemeKind.longestPrefix .number (found ++ '.' :: after) = found) :
    ¬ IsDecimalPoint (before ++ found) after := by
  obtain ⟨whole, fraction, rfl, hwhole, hfraction⟩ := hfound
  rcases hfraction with rfl | ⟨digits, rfl, hdigits⟩
  · intro h
    obtain ⟨⟨c, hc, hdigit⟩, -⟩ := h
    obtain ⟨after, rfl⟩ := List.head?_eq_some_iff.1 hc
    -- With the point and the digit after it the number would have been longer.
    have hlonger : LexemeKind.Spells .number (whole ++ ['.', c]) :=
      ⟨whole, ['.', c], rfl, hwhole, .inr ⟨[c], rfl, by simp, by simpa using hdigit⟩⟩
    have hbegin : whole ++ ['.', c] <+: whole ++ [] ++ '.' :: c :: after := ⟨after, by simp⟩
    have hle := LexemeKind.length_le_longestPrefix hlonger hbegin
    rw [hlongest] at hle
    simp only [List.length_append, List.length_cons, List.length_nil] at hle
    omega
  · rw [← List.append_assoc]
    exact not_isDecimalPoint_after_fraction hdigits

theorem Clean.step_of_number {before found rest : List Char}
    (h : Clean before (found ++ rest)) (hfound : LexemeKind.Spells .number found)
    (hlongest : LexemeKind.longestPrefix .number (found ++ rest) = found) :
    Clean (before ++ found) rest := by
  have hbefore : before.rtakeWhile Char.isDigit = [] := by
    obtain ⟨c, tail, rfl, hc⟩ := hfound.head
    exact h.digit ⟨c, rfl, hc⟩
  refine ⟨h.noStray_number hfound hbefore, ?_, ?_, ?_⟩
  · obtain ⟨init, c, rfl, hc⟩ := hfound.last
    rw [← List.append_assoc, List.getLast?_concat]
    intro heq
    cases heq
    simp [LexemeKind.begins_point] at hc
  · intro hnext
    obtain ⟨c, hc, hdigit⟩ := hnext
    have hnot :=
      LexemeKind.begins_eq_false_of_longestPrefix hlongest hfound.ne_nil (.inl rfl) c hc
    simp only [LexemeKind.begins, hdigit, reduceCtorEq] at hnot
  · intro after hafter
    subst hafter
    exact not_isDecimalPoint_after_number hfound hlongest

/-- A run leaves nothing stray behind: `Clean` at its beginning gives `Clean` at its end. -/
theorem Cursor.Passes.clean {kinds : List LexemeKind} {cursor stop : Cursor}
    {lexemes : List Lexeme} (h : Cursor.Passes kinds cursor lexemes stop) {before : List Char}
    (hclean : Clean before cursor.rest) :
    Clean (before ++ lexemes.flatMap (·.text.toList)) stop.rest := by
  induction h generalizing before with
  | done => simpa using hclean
  | step hstep _ ih =>
    obtain ⟨kind, _, found, rest, hrest, hne, hfound, rfl, rfl⟩ :=
      Cursor.step?_eq_some_iff.1 hstep
    -- `Clean` is the invariant; only a number can hold a point, so it is a case of its own.
    rw [hrest] at hclean
    have hspells := LexemeKind.spells_of_longestPrefix hfound hne
    have hnext : Clean (before ++ found) rest := by
      by_cases hkind : kind = .number
      · subst hkind
        exact hclean.step_of_number hspells hfound
      · exact hclean.step_of_ne_number hspells hkind
    simpa [Cursor.lexeme] using ih hnext

/-! ## The first stray character -/

theorem not_isStray_of_tokenize {source : String} {tokens : List Token}
    (h : tokenize source = .ok tokens) (index : Nat) : ¬ IsStray source.toList index := by
  obtain ⟨lexemes, hscan, -⟩ := tokenize_eq_ok_iff.1 h
  obtain ⟨stop, hpasses, hstop⟩ := scan_eq_ok_iff_passes.1 hscan
  have hrest : source.toList = _ := hpasses.rest_eq
  have hclean := hpasses.clean (clean_nil _)
  rw [hstop, List.append_nil] at hrest
  rw [hstop, List.nil_append, ← hrest] at hclean
  by_cases hindex : index < source.toList.length
  · simpa using hclean.noStray index hindex
  · intro hstray
    obtain ⟨c, hc, -⟩ := hstray
    obtain ⟨hlt, -⟩ := List.getElem?_eq_some_iff.1 hc
    exact hindex hlt

/-- What a failed scan has passed is `Clean`, and the character it stops at begins no lexeme. -/
theorem clean_of_tokenize {source : String} {error : Error} (h : tokenize source = .error error) :
    ∃ before c after, source.toList = before ++ c :: after ∧ Clean before (c :: after) ∧
      (∀ kind : LexemeKind, kind.begins c = false) ∧
      error = .invalidCharacter before.length c := by
  obtain ⟨lexemes, stop, c, rest, hpasses, hstop, hbegins, rfl⟩ :=
    scan_eq_error_iff_passes.1 (tokenize_eq_error_iff.1 h)
  have hrest := hpasses.rest_eq
  have hclean := hpasses.clean (clean_nil _)
  have hindex := hpasses.index_eq
  rw [hstop] at hrest hclean
  refine ⟨_, c, rest, hrest, hclean, hbegins, ?_⟩
  simp [hindex, Cursor.start]

theorem isLeast_of_tokenize {source : String} {error : Error}
    (h : tokenize source = .error error) :
    ∃ index c, error = .invalidCharacter index c ∧ source.toList[index]? = some c ∧
      IsLeast {index | IsStray source.toList index} index := by
  obtain ⟨before, c, after, hsource, hclean, hbegins, rfl⟩ := clean_of_tokenize h
  rw [hsource]
  refine ⟨before.length, c, rfl, by simp, ?_, ?_⟩
  · refine isStray_append_cons.2 ⟨hbegins, ?_⟩
    intro hpoint
    obtain ⟨rfl, hpoint⟩ := hpoint
    exact hclean.point after rfl hpoint
  · intro index hindex
    by_contra hlt
    exact hclean.noStray index (by omega) hindex

theorem tokenize_eq_error_iff_first {source : String} {index : Nat} {c : Char} :
    tokenize source = .error (.invalidCharacter index c) ↔
      source.toList[index]? = some c ∧ IsStray source.toList index ∧
        ∀ other < index, ¬ IsStray source.toList other := by
  constructor
  · intro h
    obtain ⟨index, c, heq, hc, hstray, hleast⟩ := isLeast_of_tokenize h
    cases heq
    refine ⟨hc, hstray, ?_⟩
    intro other hlt hother
    exact absurd (hleast hother) (Nat.not_le_of_lt hlt)
  · intro h
    obtain ⟨hc, hstray, hnone⟩ := h
    cases htokens : tokenize source with
    | ok tokens => exact absurd hstray (not_isStray_of_tokenize htokens index)
    | error error =>
      -- The scan reports the least index, and there is only one that is least.
      obtain ⟨other, d, rfl, hd, hother, hleast⟩ := isLeast_of_tokenize htokens
      have hle : other ≤ index := hleast hstray
      have heq : index = other := by
        rcases Nat.lt_or_eq_of_le hle with hlt | heq
        · exact absurd hother (hnone other hlt)
        · exact heq.symm
      subst heq
      rw [Option.some.inj (hc.symm.trans hd)]

/-- An expression has tokens if nothing in it `IsStray`; otherwise its first stray character is
reported, by its index and as it is. -/
theorem tokenize_iff_isStray (source : String) :
    ((∃ tokens, tokenize source = .ok tokens) ↔ ∀ index, ¬ IsStray source.toList index) ∧
      ∀ error, tokenize source = .error error ↔
        ∃ index c, error = .invalidCharacter index c ∧ source.toList[index]? = some c ∧
          IsLeast {index | IsStray source.toList index} index := by
  constructor
  · constructor
    · intro htokens
      obtain ⟨tokens, h⟩ := htokens
      exact not_isStray_of_tokenize h
    · intro h
      cases htokens : tokenize source with
      | ok tokens => exact ⟨tokens, rfl⟩
      | error error =>
        obtain ⟨index, c, -, -, hleast⟩ := isLeast_of_tokenize htokens
        exact absurd hleast.1 (h index)
  · intro error
    constructor
    · exact isLeast_of_tokenize
    · intro h
      obtain ⟨index, c, rfl, hc, hstray, hleast⟩ := h
      refine tokenize_eq_error_iff_first.2 ⟨hc, hstray, ?_⟩
      intro other hlt hother
      exact absurd (hleast hother) (Nat.not_le_of_lt hlt)

/-- The second point of a number is stray, the first is not. -/
example : IsStray "1.2.3".toList 3 ∧ ¬ IsStray "1.2.3".toList 1 := by decide

end Reckoner
