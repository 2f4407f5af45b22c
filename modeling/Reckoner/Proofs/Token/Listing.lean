import Reckoner.Proofs.Token.Elision

/-!
# Token — listings

What `Token.listing` says of the tokens that it shows. Their texts stand there as they are,
so what is shown of a token does not tell where it ends: a text with a line feed can look
like several tokens. The tokens of an expression hold no line feed. Their listing falls into
lines, one for each token, and a line tells the kind and the text.
-/

namespace Reckoner

namespace Token

/-! ## One token -/

theorem toList_display (token : Token) : token.display.toList =
    "Token(type: '".toList ++ (token.kind.name.toList ++
      ("', value: '".toList ++ (token.value.toList ++ "')".toList))) := by
  unfold display
  simp only [String.toList_append, List.append_assoc]

/-- What begins with the `name` of a kind begins with the name of no other. -/
theorem kind_eq_of_name_append {kind other : TokenKind} {rest tail : List Char}
    (h : kind.name.toList ++ rest = other.name.toList ++ tail) : kind = other := by
  -- The names differ in their first characters.
  have hhead := congrArg List.head? h
  cases kind <;> cases other <;> first | rfl | exact absurd hhead (by simp [TokenKind.name])

/-- What `display` shows of a single token tells its kind and its text, whatever that holds. -/
theorem display_inj {token other : Token} : token.display = other.display ↔ token = other := by
  constructor
  · intro h
    rw [← String.toList_inj, toList_display, toList_display] at h
    -- The name tells the kind, and what is left after it ends in the same way.
    have hname := List.append_cancel_left h
    have hkind : token.kind = other.kind := kind_eq_of_name_append hname
    rw [hkind] at hname
    have hvalue := List.append_cancel_left (List.append_cancel_left hname)
    have htext : token.value = other.value :=
      String.toList_inj.1 (List.append_cancel_right hvalue)
    obtain ⟨kind, value⟩ := token
    obtain ⟨otherKind, otherValue⟩ := other
    obtain rfl : kind = otherKind := hkind
    obtain rfl : value = otherValue := htext
    rfl
  · rintro rfl
    rfl

theorem count_name (kind : TokenKind) : kind.name.toList.count '\n' = 0 := by
  cases kind <;> decide

/-- The line feeds of a shown token are those of its `value`. -/
theorem count_display (token : Token) :
    token.display.toList.count '\n' = token.value.toList.count '\n' := by
  have hopening : "Token(type: '".toList.count '\n' = 0 := by decide
  have hmiddle : "', value: '".toList.count '\n' = 0 := by decide
  have hclosing : "')".toList.count '\n' = 0 := by decide
  rw [toList_display]
  simp only [List.count_append, hopening, hmiddle, hclosing, count_name]
  omega

/-! ## A list of tokens -/

/-- What stands over the tokens of a listing. -/
def heading : List Char := "Generated Tokens:".toList

theorem lineFeed_not_mem_heading : '\n' ∉ heading := by decide

/-- The lines of a listing: `heading` and the tokens. -/
def lines (tokens : List Token) : List (List Char) :=
  heading :: tokens.map (·.display.toList)

theorem toList_listing (tokens : List Token) :
    (listing tokens).toList = heading ++ tokens.flatMap ('\n' :: ·.display.toList) := by
  unfold listing
  rw [String.toList_append, String.toList_join, List.flatMap_map]
  simp only [String.toList_append]
  rfl

theorem intercalate_lines (tokens : List Token) :
    ['\n'].intercalate (lines tokens) = (listing tokens).toList := by
  rw [toList_listing, lines]
  generalize heading = first
  induction tokens generalizing first with
  | nil => simp
  | cons token tokens ih =>
    rw [List.map_cons, List.intercalate_cons_cons, ih, List.flatMap_cons]
    simp

theorem lineFeed_not_mem_lines {tokens : List Token}
    (h : ∀ token ∈ tokens, '\n' ∉ token.value.toList) : ∀ line ∈ lines tokens, '\n' ∉ line := by
  intro line hline
  rcases List.mem_cons.1 hline with rfl | hline
  · exact lineFeed_not_mem_heading
  · obtain ⟨token, hmem, rfl⟩ := List.mem_map.1 hline
    rw [← List.count_eq_zero, count_display, List.count_eq_zero]
    exact h token hmem

/-- Between its line feeds a listing has its `lines`, if no text of a token holds one. -/
theorem splitOn_listing {tokens : List Token} (h : ∀ token ∈ tokens, '\n' ∉ token.value.toList) :
    (listing tokens).toList.splitOn '\n' = lines tokens := by
  rw [← intercalate_lines]
  exact List.splitOn_intercalate '\n' (lineFeed_not_mem_lines h) (List.cons_ne_nil _ _)

theorem lines_inj {tokens others : List Token} (h : lines tokens = lines others) :
    tokens = others := by
  have hmap := (List.cons.inj h).2
  refine List.map_injective_iff.2 ?_ hmap
  intro token other heq
  exact display_inj.1 (String.toList_inj.1 heq)

theorem listing_inj {tokens others : List Token}
    (h : ∀ token ∈ tokens, '\n' ∉ token.value.toList)
    (hothers : ∀ token ∈ others, '\n' ∉ token.value.toList) :
    listing tokens = listing others ↔ tokens = others := by
  constructor
  · intro heq
    apply lines_inj
    rw [← splitOn_listing h, ← splitOn_listing hothers, heq]
  · rintro rfl
    rfl

/-- A listing has a line feed for each token, if no text of a token holds one. -/
theorem count_listing {tokens : List Token} (h : ∀ token ∈ tokens, '\n' ∉ token.value.toList) :
    (listing tokens).toList.count '\n' = tokens.length := by
  have hheading : heading.count '\n' = 0 := List.count_eq_zero.2 lineFeed_not_mem_heading
  rw [toList_listing, List.count_append, hheading, Nat.zero_add]
  induction tokens with
  | nil => rfl
  | cons token tokens ih =>
    obtain ⟨htoken, htokens⟩ := List.forall_mem_cons.1 h
    rw [List.flatMap_cons, List.count_append, ih htokens, List.count_cons_self, count_display,
      List.count_eq_zero.2 htoken, List.length_cons, Nat.zero_add, Nat.add_comm]

end Token

/-! ## The tokens of expressions -/

/-- No text of a token that `IsSpelled` holds a line feed, since that is a blank. -/
theorem Token.IsSpelled.lineFeed_not_mem {token : Token} (h : token.IsSpelled) :
    '\n' ∉ token.value.toList := by
  intro hmem
  have hblank : isBlank '\n' = false :=
    LexemeKind.Spells.not_blank h token.kind.lexemeKind_ne_whitespace '\n' hmem
  exact absurd hblank (by decide)

theorem lineFeed_not_mem_of_tokenize {source : String} {tokens : List Token}
    (h : tokenize source = .ok tokens) : ∀ token ∈ tokens, '\n' ∉ token.value.toList :=
  fun token hmem => (isSpelled_of_tokenize h token hmem).lineFeed_not_mem

/-- The listings of two expressions are the same exactly if the tokens are, and a listing has
as many line feeds as tokens. -/
theorem listing_eq_iff_of_tokenize {source other : String} {tokens others : List Token}
    (h : tokenize source = .ok tokens) (hother : tokenize other = .ok others) :
    (Token.listing tokens = Token.listing others ↔ tokens = others) ∧
      (Token.listing tokens).toList.count '\n' = tokens.length := by
  have hnone := lineFeed_not_mem_of_tokenize h
  exact ⟨Token.listing_inj hnone (lineFeed_not_mem_of_tokenize hother), Token.count_listing hnone⟩

/-- The same characters make other tokens with a blank among them, and another listing. -/
theorem listing_eq_iff_of_tokenize_blank :
    tokenize "(12)" = .ok [⟨.parenthesis, "("⟩, ⟨.number, "12"⟩, ⟨.parenthesis, ")"⟩] ∧
      tokenize "(1 2)" =
        .ok [⟨.parenthesis, "("⟩, ⟨.number, "1"⟩, ⟨.number, "2"⟩, ⟨.parenthesis, ")"⟩] ∧
      Token.listing [⟨.parenthesis, "("⟩, ⟨.number, "12"⟩, ⟨.parenthesis, ")"⟩] ≠
        Token.listing
          [⟨.parenthesis, "("⟩, ⟨.number, "1"⟩, ⟨.number, "2"⟩, ⟨.parenthesis, ")"⟩] ∧
      (Token.listing [⟨.parenthesis, "("⟩, ⟨.number, "12"⟩, ⟨.parenthesis, ")"⟩]).toList.count
        '\n' = 3 := by
  have hone : tokenize "(12)" =
      .ok [⟨.parenthesis, "("⟩, ⟨.number, "12"⟩, ⟨.parenthesis, ")"⟩] := by decide +kernel
  have htwo : tokenize "(1 2)" =
      .ok [⟨.parenthesis, "("⟩, ⟨.number, "1"⟩, ⟨.number, "2"⟩, ⟨.parenthesis, ")"⟩] := by
    decide +kernel
  obtain ⟨hlisting, hcount⟩ := listing_eq_iff_of_tokenize hone htwo
  exact ⟨hone, htwo, hlisting.not.2 (by decide), hcount⟩

/-- Without an expression they come from, two tokens can be listed as one is. -/
example : Token.listing [⟨.number, "1"⟩, ⟨.number, "2"⟩] =
    Token.listing [⟨.number, "1')\nToken(type: 'NUMBER', value: '2"⟩] := by decide +kernel

end Reckoner
