import Reckoner.Proofs.Scan.Run

/-!
# Token — reading

How a text falls into tokens, without lexemes and places: `Reads` skips blanks one by
one and takes a token where the next character cannot be more of it. An expression has
the tokens that it can be read as, so what holds of tokens is shown by induction on the
reading. How many blanks stand together, which the lexemes tell, is no part of it.
-/

namespace Reckoner

/-! ## Spelling of tokens -/

/-- The kind of lexeme that tokens of a kind are made of, which `LexemeKind.tokenKind?` undoes.
-/
def TokenKind.lexemeKind : TokenKind → LexemeKind
  | .number => .number
  | .operator => .operator
  | .parenthesis => .parenthesis

/-- Whether the text of `token` is spelled as its kind says. -/
def Token.IsSpelled (token : Token) : Prop :=
  token.kind.lexemeKind.Spells token.value.toList

theorem TokenKind.lexemeKind_ne_whitespace (kind : TokenKind) :
    kind.lexemeKind ≠ .whitespace := by
  cases kind <;> decide

@[simp] theorem TokenKind.tokenKind?_lexemeKind (kind : TokenKind) :
    kind.lexemeKind.tokenKind? = some kind := by
  cases kind <;> rfl

theorem TokenKind.lexemeKind_inj {kind other : TokenKind} :
    kind.lexemeKind = other.lexemeKind ↔ kind = other := by
  cases kind <;> cases other <;> decide

namespace LexemeKind

theorem eq_whitespace_or_exists (kind : LexemeKind) :
    kind = .whitespace ∨ ∃ tokenKind : TokenKind, kind = tokenKind.lexemeKind := by
  cases kind with
  | number => exact .inr ⟨.number, rfl⟩
  | operator => exact .inr ⟨.operator, rfl⟩
  | parenthesis => exact .inr ⟨.parenthesis, rfl⟩
  | whitespace => exact .inl rfl

theorem Spells.kind_eq {kind other : LexemeKind} {text : List Char} (h : kind.Spells text)
    (hother : other.Spells text) : kind = other := by
  obtain ⟨c, rest, rfl, hc⟩ := h.head
  obtain ⟨d, rest, heq, hd⟩ := hother.head
  cases heq
  exact begins_inj hc hd

/-- A text is a lexeme of a kind if `longestPrefix` finds all of it. -/
theorem spells_iff {kind : LexemeKind} {text : List Char} :
    kind.Spells text ↔ kind.longestPrefix text = text ∧ text ≠ [] := by
  constructor
  · intro h
    have hfound : kind.longestPrefix (text ++ []) = text := longestPrefix_append h (by simp)
    rw [List.append_nil] at hfound
    exact ⟨hfound, h.ne_nil⟩
  · rintro ⟨hfound, hne⟩
    rw [← hfound] at hne ⊢
    exact spells_longestPrefix hne

instance (kind : LexemeKind) (text : List Char) : Decidable (kind.Spells text) :=
  decidable_of_iff' _ spells_iff

/-- A lexeme that is as long as possible ends where another one begins, for that does not
continue it. -/
theorem continues_eq_false_of_longestPrefix {kind : LexemeKind} {found rest : List Char}
    (h : kind.longestPrefix (found ++ rest) = found) (hne : found ≠ [])
    (hnext : ∀ c ∈ rest.head?, ∃ other : LexemeKind, other.begins c = true) :
    ∀ c ∈ rest.head?, kind.continues c = false := by
  intro c hc
  obtain ⟨other, hother⟩ := hnext c hc
  refine continues_eq_false_of_begins hother ?_
  rintro rfl hmerges
  rw [begins_eq_false_of_longestPrefix h hne hmerges c hc] at hother
  cases hother

end LexemeKind

/-- A blank is no part of a token before it. -/
theorem TokenKind.continues_blank (kind : TokenKind) {c : Char} (hc : isBlank c = true) :
    kind.lexemeKind.continues c = false := by
  have hbegins : LexemeKind.whitespace.begins c = true := hc
  refine LexemeKind.continues_eq_false_of_begins hbegins ?_
  intro heq
  exact absurd heq kind.lexemeKind_ne_whitespace

instance (token : Token) : Decidable token.IsSpelled :=
  inferInstanceAs (Decidable (token.kind.lexemeKind.Spells token.value.toList))

/-! ## Readings -/

/-- Whether a text can be read as some tokens, one token or one blank at a time. Unlike a run of
the scan this counts nothing. -/
inductive Reads : List Char → List Token → Prop where
  | done : Reads [] []
  | blank {c : Char} {text : List Char} {tokens : List Token} (hc : isBlank c = true)
      (hrest : Reads text tokens) : Reads (c :: text) tokens
  | token {token : Token} {text : List Char} {tokens : List Token} (hspelled : token.IsSpelled)
      (hnext : ∀ c ∈ text.head?, token.kind.lexemeKind.continues c = false)
      (hrest : Reads text tokens) : Reads (token.value.toList ++ text) (token :: tokens)

namespace Reads

variable {text : List Char} {tokens : List Token}

theorem blanks {run : List Char} (hrun : ∀ c ∈ run, isBlank c = true)
    (h : Reads text tokens) : Reads (run ++ text) tokens := by
  induction run with
  | nil => exact h
  | cons c run ih =>
    obtain ⟨hc, hrun⟩ := List.forall_mem_cons.1 hrun
    exact .blank hc (ih hrun)

theorem value {kind : TokenKind} {found : List Char} (hspells : kind.lexemeKind.Spells found)
    (hnext : ∀ c ∈ text.head?, kind.lexemeKind.continues c = false) (h : Reads text tokens) :
    Reads (found ++ text) (⟨kind, String.ofList found⟩ :: tokens) := by
  have hspelled : Token.IsSpelled ⟨kind, String.ofList found⟩ := by
    simpa [Token.IsSpelled] using hspells
  simpa using h.token hspelled hnext

theorem isSpelled (h : Reads text tokens) : ∀ token ∈ tokens, token.IsSpelled := by
  induction h with
  | done => simp
  | blank _ _ ih => exact ih
  | token hspelled _ _ ih => exact List.forall_mem_cons.2 ⟨hspelled, ih⟩

end Reads

/-! ## A scan reads what it passes -/

namespace Cursor.Passes

variable {kinds : List LexemeKind} {cursor stop : Cursor} {lexemes : List Lexeme}

theorem exists_begins (h : Passes kinds cursor lexemes stop) (hstop : stop.rest = []) :
    ∀ c ∈ cursor.rest.head?, ∃ kind : LexemeKind, kind.begins c = true := by
  cases h with
  | done => simp [hstop]
  | step hstep _ =>
    obtain ⟨kind, _, found, rest, hrest, hne, hfound, -, -⟩ := step?_eq_some_iff.1 hstep
    obtain ⟨d, tail, rfl, hd⟩ := (LexemeKind.spells_of_longestPrefix hfound hne).head
    intro c hc
    rw [hrest] at hc
    cases hc
    exact ⟨kind, hd⟩

theorem reads (h : Passes kinds cursor lexemes stop) (hstop : stop.rest = []) :
    Reads cursor.rest (lexemes.filterMap Lexeme.token?) := by
  induction h with
  | done =>
    rw [hstop]
    exact .done
  | step hstep hpasses ih =>
    obtain ⟨kind, _, found, rest, hrest, hne, hfound, rfl, rfl⟩ := step?_eq_some_iff.1 hstep
    have hspells := LexemeKind.spells_of_longestPrefix hfound hne
    have hreads := ih hstop
    rw [hrest]
    rcases kind.eq_whitespace_or_exists with rfl | ⟨tokenKind, rfl⟩
    · exact hreads.blanks hspells.2
    · have hnext := LexemeKind.continues_eq_false_of_longestPrefix hfound hne
        (hpasses.exists_begins hstop)
      simpa [lexeme, Lexeme.token?] using hreads.value hspells hnext

section Blank

variable {c : Char} {text : List Char} {offset index : Nat}

/-- Before anything else a blank is a lexeme of its own. -/
theorem blank_alone (hc : isBlank c = true) (hhead : ∀ d ∈ text.head?, isBlank d = false)
    (h : Passes LexemeKind.all
      ⟨text, offset + (String.ofList [c]).utf8ByteSize, index + 1⟩ lexemes stop) :
    ∃ others, Passes LexemeKind.all ⟨c :: text, offset, index⟩ others stop ∧
      others.filterMap Lexeme.token? = lexemes.filterMap Lexeme.token? := by
  have hone : LexemeKind.whitespace.Spells [c] := ⟨by simp, by simpa using hc⟩
  have hfound := LexemeKind.longestPrefix_append hone hhead
  refine ⟨_, .step (step?_eq_some_iff.2 ⟨.whitespace, LexemeKind.mem_all _, [c], text, rfl,
    by simp, hfound, rfl, rfl⟩) h, ?_⟩
  exact List.filterMap_cons_none rfl

/-- Before blanks a blank is one more of them. -/
theorem blank_more {d : Char} (hc : isBlank c = true) (hd : isBlank d = true)
    (h : Passes LexemeKind.all
      ⟨d :: text, offset + (String.ofList [c]).utf8ByteSize, index + 1⟩ lexemes stop)
    (hstop : stop.rest = []) :
    ∃ others, Passes LexemeKind.all ⟨c :: d :: text, offset, index⟩ others stop ∧
      others.filterMap Lexeme.token? = lexemes.filterMap Lexeme.token? := by
  cases h with
  | done => cases hstop
  | @step _ _ _ _ lexemes hstep hrest =>
    obtain ⟨kind, _, found, rest, htext, hne, hfound, rfl, rfl⟩ := step?_eq_some_iff.1 hstep
    obtain ⟨e, tail, rfl, he⟩ := (LexemeKind.spells_of_longestPrefix hfound hne).head
    obtain ⟨rfl, rfl⟩ := List.cons.inj htext
    obtain rfl : kind = .whitespace := LexemeKind.begins_inj he hd
    have hlonger : LexemeKind.whitespace.longestPrefix (c :: d :: tail ++ rest) =
        c :: d :: tail := by
      have htail := List.takeWhile_cons_of_pos (l := d :: tail ++ rest) hc
      exact htail.trans (congrArg _ hfound)
    have hsize : (String.ofList (c :: d :: tail)).utf8ByteSize =
        (String.ofList [c]).utf8ByteSize + (String.ofList (d :: tail)).utf8ByteSize := by
      rw [← String.utf8ByteSize_append, ← String.ofList_append, List.singleton_append]
    -- The place after the blanks is the same, its counts only add up in another order.
    have hnext : Passes LexemeKind.all
        ⟨rest, offset + (String.ofList (c :: d :: tail)).utf8ByteSize,
          index + (c :: d :: tail).length⟩ lexemes stop := by
      rw [hsize, ← Nat.add_assoc, List.length_cons, Nat.add_comm _ 1, ← Nat.add_assoc]
      exact hrest
    refine ⟨_, .step (step?_eq_some_iff.2 ⟨.whitespace, LexemeKind.mem_all _, c :: d :: tail,
      rest, rfl, by simp, hlonger, rfl, rfl⟩) hnext, ?_⟩
    rw [List.filterMap_cons_none rfl, List.filterMap_cons_none rfl]

/-- A blank before a run makes no token, whether it is `blank_alone` or one of more. -/
theorem blank (hc : isBlank c = true)
    (h : Passes LexemeKind.all
      ⟨text, offset + (String.ofList [c]).utf8ByteSize, index + 1⟩ lexemes stop)
    (hstop : stop.rest = []) :
    ∃ others, Passes LexemeKind.all ⟨c :: text, offset, index⟩ others stop ∧
      others.filterMap Lexeme.token? = lexemes.filterMap Lexeme.token? := by
  cases text with
  | nil => exact h.blank_alone hc (by simp)
  | cons d text =>
    cases hd : isBlank d with
    | false => exact h.blank_alone hc (by simpa using hd)
    | true => exact h.blank_more hc hd hstop

end Blank

end Cursor.Passes

theorem Reads.exists_passes {text : List Char} {tokens : List Token} (h : Reads text tokens)
    (offset index : Nat) :
    ∃ lexemes stop, Cursor.Passes LexemeKind.all ⟨text, offset, index⟩ lexemes stop ∧
      stop.rest = [] ∧ lexemes.filterMap Lexeme.token? = tokens := by
  induction h generalizing offset index with
  | done => exact ⟨[], _, .done _, rfl, rfl⟩
  | blank hc _ ih =>
    obtain ⟨lexemes, stop, hpasses, hstop, htokens⟩ := ih _ _
    obtain ⟨others, hothers, heq⟩ := hpasses.blank hc hstop
    exact ⟨others, stop, hothers, hstop, heq.trans htokens⟩
  | token hspelled hnext _ ih =>
    obtain ⟨lexemes, stop, hpasses, hstop, rfl⟩ := ih _ _
    refine ⟨_, stop, .step (Cursor.step?_eq_some_iff.2 ⟨_, LexemeKind.mem_all _, _, _, rfl,
      hspelled.ne_nil, LexemeKind.longestPrefix_append hspelled hnext, rfl, rfl⟩) hpasses,
      hstop, ?_⟩
    simp [Cursor.lexeme, Lexeme.token?]

/-- An expression has the tokens that it `Reads` as. -/
theorem tokenize_eq_ok_iff_reads {source : String} {tokens : List Token} :
    tokenize source = .ok tokens ↔ Reads source.toList tokens := by
  simp only [tokenize_eq_ok_iff, scan_eq_ok_iff_passes]
  constructor
  · rintro ⟨lexemes, ⟨stop, hpasses, hstop⟩, rfl⟩
    exact hpasses.reads hstop
  · intro h
    obtain ⟨lexemes, stop, hpasses, hstop, htokens⟩ := h.exists_passes 0 0
    exact ⟨lexemes, ⟨stop, hpasses, hstop⟩, htokens⟩

theorem isSpelled_of_tokenize {source : String} {tokens : List Token}
    (h : tokenize source = .ok tokens) : ∀ token ∈ tokens, token.IsSpelled :=
  (tokenize_eq_ok_iff_reads.1 h).isSpelled

end Reckoner
