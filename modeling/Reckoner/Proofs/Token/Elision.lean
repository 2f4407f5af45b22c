import Mathlib.Data.List.Chain
import Reckoner.Proofs.Token.Reading

/-!
# Token — elision

What becomes of the tokens of an expression when its blanks are left out. No token holds a
blank, so the texts of the tokens are all that is left, one right after the other. They are
read as the same tokens if they are `Token.Apart`, that is unless two numbers come to stand
side by side: only a number can go on with the first character of another token, and only
with that of a number.
-/

namespace Reckoner

/-- The characters of `source` that are no blanks. -/
def elideBlanks (source : String) : String :=
  String.ofList (source.toList.filter fun c => !isBlank c)

/-- Whether two tokens can be told apart with nothing between them, which only two of the kind
`number` cannot. -/
def Token.Apart (before after : Token) : Prop :=
  ¬ (before.kind = .number ∧ after.kind = .number)

instance (before after : Token) : Decidable (before.Apart after) :=
  inferInstanceAs (Decidable (¬ _))

/-! ## No token holds a blank -/

theorem isBlank_eq_false_of_begins {kind : LexemeKind} {c : Char} (hkind : kind ≠ .whitespace)
    (hc : kind.begins c = true) : isBlank c = false := by
  cases hblank : isBlank c with
  | false => rfl
  | true =>
    have hwhitespace : LexemeKind.whitespace.begins c = true := hblank
    exact absurd (LexemeKind.begins_inj hc hwhitespace) hkind

theorem LexemeKind.Spells.not_blank {kind : LexemeKind} {text : List Char}
    (h : kind.Spells text) (hkind : kind ≠ .whitespace) : ∀ c ∈ text, isBlank c = false := by
  intro c hc
  by_cases hnumber : kind = .number
  · -- A number also holds a point, which begins no lexeme.
    subst hnumber
    have hdigit : ∀ d : Char, d.isDigit = true → isBlank d = false :=
      fun d => isBlank_eq_false_of_begins hkind
    obtain ⟨whole, fraction, rfl, hwhole, hfraction⟩ := h
    rcases List.mem_append.1 hc with hc | hc
    · exact hdigit c (hwhole.2 c hc)
    · rcases hfraction with rfl | ⟨digits, rfl, hdigits⟩
      · simp at hc
      · rcases List.mem_cons.1 hc with rfl | hc
        · rfl
        · exact hdigit c (hdigits.2 c hc)
  · exact isBlank_eq_false_of_begins hkind (h.all hnumber c hc)

theorem Token.IsSpelled.filter_value {token : Token} (h : token.IsSpelled) :
    token.value.toList.filter (fun c => !isBlank c) = token.value.toList := by
  rw [List.filter_eq_self]
  intro c hc
  rw [LexemeKind.Spells.not_blank h token.kind.lexemeKind_ne_whitespace c hc]
  rfl

/-! ## What is left of an expression -/

def Token.joined (tokens : List Token) : List Char := tokens.flatMap (·.value.toList)

@[simp] theorem Token.joined_nil : joined [] = [] := rfl

@[simp] theorem Token.joined_cons (token : Token) (tokens : List Token) :
    joined (token :: tokens) = token.value.toList ++ joined tokens := rfl

/-- Without its blanks a text is `Token.joined` of the tokens that it is read as. -/
theorem Reads.filter_eq_joined {text : List Char} {tokens : List Token} (h : Reads text tokens) :
    text.filter (fun c => !isBlank c) = Token.joined tokens := by
  induction h with
  | done => rfl
  | blank hc _ ih => simp [hc, ih]
  | token hspelled _ _ ih => rw [List.filter_append, hspelled.filter_value, ih, Token.joined_cons]

/-! ## Tokens side by side -/

/-- The text of a token that is `Apart` from the next one does not go on there. -/
theorem Token.Apart.continues_eq_false {before after : Token} {c : Char}
    (h : before.Apart after) (hc : after.kind.lexemeKind.begins c = true) :
    before.kind.lexemeKind.continues c = false := by
  refine LexemeKind.continues_eq_false_of_begins hc ?_
  intro heq hmerges
  have hkind : before.kind = after.kind := TokenKind.lexemeKind_inj.1 heq
  rcases hmerges with hnumber | hblank
  · have hbefore : before.kind = .number := TokenKind.lexemeKind_inj.1 hnumber
    exact h ⟨hbefore, hkind ▸ hbefore⟩
  · exact before.kind.lexemeKind_ne_whitespace hblank

/-- Tokens that are `Token.Apart` are read again from their texts alone. -/
theorem reads_joined {tokens : List Token} (hspelled : ∀ token ∈ tokens, token.IsSpelled)
    (hapart : tokens.IsChain Token.Apart) : Reads (Token.joined tokens) tokens := by
  induction tokens with
  | nil => exact .done
  | cons token tokens ih =>
    obtain ⟨htoken, hspelled⟩ := List.forall_mem_cons.1 hspelled
    obtain ⟨hnext, hapart⟩ := List.isChain_cons.1 hapart
    refine .token htoken ?_ (ih hspelled hapart)
    cases tokens with
    | nil => simp
    | cons next tokens =>
      obtain ⟨c, rest, htext, hc⟩ := (hspelled next (by simp)).head
      simpa [htext] using (hnext next rfl).continues_eq_false hc

/-- Of two numbers side by side the first would have gone on, so `before` is apart from what
does not continue it. -/
theorem Token.apart_of_continues {before after : Token} {rest : List Char}
    (hspelled : after.IsSpelled)
    (hnext : ∀ c ∈ (after.value.toList ++ rest).head?,
      before.kind.lexemeKind.continues c = false) : before.Apart after := by
  rintro ⟨hbefore, hafter⟩
  obtain ⟨c, tail, htext, hc⟩ := hspelled.head
  have hstop := hnext c (by rw [htext]; rfl)
  rw [hafter] at hc
  have hdigit : c.isDigit = true := hc
  simp [hbefore, TokenKind.lexemeKind, LexemeKind.continues, hdigit] at hstop

theorem Reads.isChain_apart {text : List Char} {tokens : List Token} (h : Reads text tokens)
    (hblank : ∀ c ∈ text, isBlank c = false) : tokens.IsChain Token.Apart := by
  induction h with
  | done => exact .nil
  | blank hc _ _ =>
    rw [hblank _ List.mem_cons_self] at hc
    cases hc
  | token _ hnext hrest ih =>
    have hrest_blank := fun c hc => hblank c (List.mem_append_right _ hc)
    -- Two tokens are neighbours only where no blank is read between them.
    cases hrest with
    | done => exact .singleton _
    | blank hc _ =>
      rw [hrest_blank _ List.mem_cons_self] at hc
      cases hc
    | token hspelled _ _ =>
      exact .cons_cons (Token.apart_of_continues hspelled hnext) (ih hrest_blank)

theorem toList_elideBlanks (source : String) :
    (elideBlanks source).toList = source.toList.filter fun c => !isBlank c :=
  String.toList_ofList

theorem isBlank_of_mem_elideBlanks {source : String} :
    ∀ c ∈ (elideBlanks source).toList, isBlank c = false := by
  intro c hc
  rw [toList_elideBlanks] at hc
  simpa using (List.mem_filter.1 hc).2

/-- Without its blanks an expression is the texts of its tokens, and it has the same tokens
exactly if no two numbers follow one another. -/
theorem tokenize_elideBlanks_eq_iff {source : String} {tokens : List Token}
    (h : tokenize source = .ok tokens) :
    String.join (tokens.map (·.value)) = elideBlanks source ∧
      (tokenize (elideBlanks source) = .ok tokens ↔ tokens.IsChain Token.Apart) := by
  have hreads := tokenize_eq_ok_iff_reads.1 h
  have htext : (elideBlanks source).toList = Token.joined tokens := by
    rw [toList_elideBlanks, hreads.filter_eq_joined]
  constructor
  · rw [← String.toList_inj, htext, String.toList_join, List.flatMap_map]
    rfl
  · rw [tokenize_eq_ok_iff_reads]
    constructor
    · intro helided
      exact helided.isChain_apart isBlank_of_mem_elideBlanks
    · intro hapart
      rw [htext]
      exact reads_joined hreads.isSpelled hapart

/-- The blanks around a sign can be left out. Without the one between two numbers the first
of them goes on with digits of the second. -/
theorem tokenize_elideBlanks_numbers :
    tokenize "3  +\u2003 4" = .ok [⟨.number, "3"⟩, ⟨.operator, "+"⟩, ⟨.number, "4"⟩] ∧
      tokenize (elideBlanks "3  +\u2003 4") =
        .ok [⟨.number, "3"⟩, ⟨.operator, "+"⟩, ⟨.number, "4"⟩] ∧
      tokenize "1.2 3.4" = .ok [⟨.number, "1.2"⟩, ⟨.number, "3.4"⟩] ∧
      elideBlanks "1.2 3.4" = "1.23.4" ∧
      tokenize (elideBlanks "1.2 3.4") ≠ .ok [⟨.number, "1.2"⟩, ⟨.number, "3.4"⟩] := by
  have hsum : tokenize "3  +\u2003 4" =
      .ok [⟨.number, "3"⟩, ⟨.operator, "+"⟩, ⟨.number, "4"⟩] := by decide +kernel
  have hpair : tokenize "1.2 3.4" = .ok [⟨.number, "1.2"⟩, ⟨.number, "3.4"⟩] := by
    decide +kernel
  obtain ⟨-, hsum_iff⟩ := tokenize_elideBlanks_eq_iff hsum
  obtain ⟨hjoined, hpair_iff⟩ := tokenize_elideBlanks_eq_iff hpair
  refine ⟨hsum, hsum_iff.2 (by decide), hpair, hjoined.symm.trans (by decide), ?_⟩
  rw [Ne, hpair_iff]
  decide

end Reckoner
