import Reckoner.Proofs.Token.Reading

/-!
# Token — spacing

How tokens are written so that they are read again. Blanks of any number and kind may
stand around tokens, and with some between each two neighbours the tokens are read as they
are, whatever they are. The lists of tokens that expressions have are therefore those
whose texts are spelled as their kinds say.
-/

namespace Reckoner

/-- The texts of some tokens in order, with `gap index` between the tokens at `index` and after
it. -/
def Token.spaced (gap : Nat → String) : List Token → String
  | [] => ""
  | [token] => token.value
  | token :: next :: tokens =>
    token.value ++ gap 0 ++ spaced (fun index => gap (index + 1)) (next :: tokens)

/-- A token that `IsSpelled` is read as it is before a blank. -/
theorem Reads.token_before_blank {token : Token} {text : List Char} {tokens : List Token}
    (h : Reads text tokens) (hspelled : token.IsSpelled)
    (hblank : ∀ c ∈ text.head?, isBlank c = true) :
    Reads (token.value.toList ++ text) (token :: tokens) := by
  refine h.token hspelled ?_
  intro c hc
  exact token.kind.continues_blank (hblank c hc)

/-- Tokens with gaps between them, and `trailing` blanks after them, are read as they are. -/
theorem reads_spaced {gap : Nat → String} {tokens : List Token} {trailing : List Char}
    (hspelled : ∀ token ∈ tokens, token.IsSpelled)
    (hgap : ∀ index, index + 1 < tokens.length → AllIn isBlank (gap index).toList)
    (htrailing : ∀ c ∈ trailing, isBlank c = true) :
    Reads ((Token.spaced gap tokens).toList ++ trailing) tokens := by
  have hdone : Reads trailing [] := by
    simpa using Reads.done.blanks htrailing
  -- The induction is on the tokens, with the gaps after the first one for the rest.
  fun_induction Token.spaced gap tokens with
  | case1 => simpa using hdone
  | case2 _ token =>
    refine hdone.token_before_blank (hspelled token (by simp)) ?_
    intro c hc
    exact htrailing c (List.mem_of_mem_head? hc)
  | case3 gap token next tokens ih =>
    obtain ⟨htoken, hspelled⟩ := List.forall_mem_cons.1 hspelled
    have hrest := ih hspelled (fun index hindex => hgap (index + 1) (by simpa using hindex))
    have hfirst : AllIn isBlank (gap 0).toList := hgap 0 (by simp)
    obtain ⟨c, blanks, hblanks⟩ := List.exists_cons_of_ne_nil hfirst.1
    have htext : Reads ((gap 0).toList ++ _) (next :: tokens) := hrest.blanks hfirst.2
    simp only [String.toList_append, List.append_assoc]
    refine htext.token_before_blank htoken ?_
    rw [hblanks]
    rintro _ ⟨⟩
    exact hfirst.2 c (by simp [hblanks])

theorem tokenize_spaced {gap : Nat → String} {tokens : List Token} {leading trailing : String}
    (hspelled : ∀ token ∈ tokens, token.IsSpelled)
    (hgap : ∀ index, index + 1 < tokens.length → AllIn isBlank (gap index).toList)
    (hleading : ∀ c ∈ leading.toList, isBlank c = true)
    (htrailing : ∀ c ∈ trailing.toList, isBlank c = true) :
    tokenize (leading ++ Token.spaced gap tokens ++ trailing) = .ok tokens := by
  rw [tokenize_eq_ok_iff_reads]
  simp only [String.toList_append, List.append_assoc]
  exact (reads_spaced hspelled hgap htrailing).blanks hleading

/-- Tokens each of which `IsSpelled` are the tokens of any expression in which they stand with
blanks between them, and no other lists are tokens of an expression. -/
theorem tokenize_spaced_and_exists_iff :
    (∀ (gap : Nat → String) (tokens : List Token) (leading trailing : String),
      (∀ token ∈ tokens, token.IsSpelled) →
      (∀ index, index + 1 < tokens.length → AllIn isBlank (gap index).toList) →
      (∀ c ∈ leading.toList, isBlank c = true) → (∀ c ∈ trailing.toList, isBlank c = true) →
      tokenize (leading ++ Token.spaced gap tokens ++ trailing) = .ok tokens) ∧
    ∀ tokens : List Token,
      (∃ source, tokenize source = .ok tokens) ↔ ∀ token ∈ tokens, token.IsSpelled := by
  refine ⟨fun _ _ _ _ => tokenize_spaced, ?_⟩
  intro tokens
  constructor
  · rintro ⟨source, h⟩
    exact isSpelled_of_tokenize h
  · intro hspelled
    have hspace : AllIn isBlank " ".toList := by decide
    have h : tokenize ("" ++ Token.spaced (fun _ => " ") tokens ++ "") = .ok tokens :=
      tokenize_spaced hspelled (fun _ _ => hspace) (by simp) (by simp)
    exact ⟨_, h⟩

/-- Two numbers and a sign with a wide blank and with a line feed between them. -/
theorem tokenize_spaced_numbers :
    (∀ token ∈ [Token.mk .number "1.5", ⟨.number, "20"⟩, ⟨.operator, "-"⟩], token.IsSpelled) ∧
      AllIn isBlank "\u3000".toList ∧ AllIn isBlank "\n ".toList ∧
      tokenize ("" ++
        Token.spaced (fun index => if index = 0 then "\u3000" else "\n ")
          [⟨.number, "1.5"⟩, ⟨.number, "20"⟩, ⟨.operator, "-"⟩] ++ "\t") =
        .ok [⟨.number, "1.5"⟩, ⟨.number, "20"⟩, ⟨.operator, "-"⟩] := by
  have hspelled : ∀ token ∈ [Token.mk .number "1.5", ⟨.number, "20"⟩, ⟨.operator, "-"⟩],
      token.IsSpelled := by decide
  have hwide : AllIn isBlank "\u3000".toList := by decide
  have hline : AllIn isBlank "\n ".toList := by decide
  have htab : AllIn isBlank "\t".toList := by decide
  refine ⟨hspelled, hwide, hline, tokenize_spaced_and_exists_iff.1 _ _ "" "\t" hspelled ?_
    (by simp) htab.2⟩
  intro index _
  by_cases hindex : index = 0
  · simpa [hindex] using hwide
  · simpa [hindex] using hline

end Reckoner
