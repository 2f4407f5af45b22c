import Mathlib.Algebra.Ring.Nat
import Reckoner.Log
import Reckoner.Proofs.Scan.Cut
import Reckoner.Proofs.Scan.Segmentation

/-!
# Log — stages

What is recorded while one source is split into tokens, told by `Log.Stage`. The records
tell what a failed scan has passed, which nothing else does: it is what the text before the
reported character is split into on its own. Each lexeme is recorded with the offset that
the sizes of those before it add up to.
-/

namespace Reckoner

/-! ## What a run has passed -/

/-- The start of a lexeme is the sum of the sizes of those before it. -/
theorem Tiles.start_eq {offset : Nat} {before after : List Lexeme} {lexeme : Lexeme}
    (h : Tiles offset (before ++ lexeme :: after)) :
    lexeme.span.start = offset + (before.map (·.text.utf8ByteSize)).sum := by
  induction before generalizing offset with
  | nil =>
    obtain ⟨hspan, -⟩ := h
    rw [hspan]
    rfl
  | cons first before ih =>
    obtain ⟨hspan, hrest⟩ := h
    rw [ih hrest, hspan, List.map_cons, List.sum_cons]
    simp only
    omega

namespace Cursor.Passes

variable {kinds : List LexemeKind} {source : String} {stop : Cursor} {lexemes : List Lexeme}

/-- What a run `Passes` is split into the same lexemes on its own. -/
theorem scan_eq (h : (start source).Passes kinds lexemes stop) :
    scan (String.ofList (lexemes.flatMap (·.text.toList))) = .ok lexemes := by
  rw [scan_eq_ok_iff_passes, start, String.toList_ofList]
  exact passes_of_tiles h.tiles h.spelled h.apart 0

/-- The index of `stop` is how much of the source was passed. -/
theorem take_index (h : (start source).Passes kinds lexemes stop) :
    source.toList.take stop.index = lexemes.flatMap (·.text.toList) := by
  have hrest : source.toList = _ := h.rest_eq
  have hindex : stop.index = 0 + _ := h.index_eq
  rw [hrest, hindex, Nat.zero_add, List.take_left]

end Cursor.Passes

namespace Log

/-! ## The entries of a stage -/

abbrev Entry := String × String

def entry (event : Event) : Entry := (event.label, event.text)

/-- The entry of a lexeme that was passed, see `Event.matched`. -/
def passed (lexeme : Lexeme) : Entry :=
  ("TRACE", "matched pattern kind=" ++ lexeme.kind.name ++ " text=" ++ quoteString lexeme.text ++
    " pos=" ++ toString lexeme.span.start)

/-- The entry of a source that was split into tokens, see `Event.tokenized`. -/
def sizes (bytes tokens : Nat) : Entry :=
  ("DEBUG", "tokenized input len=" ++ toString bytes ++ " tokens=" ++ toString tokens)

/-- Whether `source` has some `lexemes` and each is placed after the bytes of those before it.
-/
structure Places (source : String) (lexemes : List Lexeme) : Prop where
  scanned : scan source = .ok lexemes
  placed : ∀ before lexeme after, lexemes = before ++ lexeme :: after →
    lexeme.span.start = (before.map (·.text.utf8ByteSize)).sum

/-- The entries of splitting `source` into tokens: its lexemes and its sizes, or the lexemes of
the longest beginning that has tokens, which is all before the character that is reported. -/
inductive Stage (source : String) : List Entry → Prop where
  | whole {tokens : List Token} {lexemes : List Lexeme} (h : tokenize source = .ok tokens)
      (hlexemes : Places source lexemes)
      (hcount : tokens.length = lexemes.countP fun lexeme => lexeme.kind ≠ .whitespace) :
      Stage source (lexemes.map passed ++ [sizes source.utf8ByteSize tokens.length])
  | cut {position : Nat} {c : Char} {lexemes : List Lexeme}
      (h : tokenize source = .error (.invalidCharacter position c))
      (hlexemes : Places (String.ofList (source.toList.take position)) lexemes)
      (hlongest : ∀ longer : String, longer.toList <+: source.toList → position < longer.length →
        ¬ ∃ tokens, tokenize longer = .ok tokens) :
      Stage source (lexemes.map passed)

theorem places_of_scan {source : String} {lexemes : List Lexeme} (h : scan source = .ok lexemes) :
    Places source lexemes where
  scanned := h
  placed := by
    rintro before lexeme after rfl
    obtain ⟨stop, hpasses, -⟩ := scan_eq_ok_iff_passes.1 h
    have hstart := hpasses.tiles.start_eq
    rwa [Cursor.start, Nat.zero_add] at hstart

/-! ## The records of a stage -/

theorem length_filterMap_token? (lexemes : List Lexeme) :
    (lexemes.filterMap Lexeme.token?).length =
      lexemes.countP fun lexeme => lexeme.kind ≠ .whitespace := by
  rw [List.length_filterMap_eq_countP]
  congr 1
  ext lexeme
  obtain ⟨kind, text, span⟩ := lexeme
  cases kind <;> rfl

theorem ofSource_of_tokens {source : String} {tokens : List Token}
    (h : tokenize source = .ok tokens) : (ofSource source).map entry =
      (Scan.ofSource source).lexemes.map passed ++ [sizes source.utf8ByteSize tokens.length] := by
  have htokens : (Scan.ofSource source).tokens = .ok tokens := h
  rw [ofSource, htokens, List.map_append, List.map_map]
  rfl

theorem ofSource_of_error {source : String} {error : Error} (h : tokenize source = .error error) :
    (ofSource source).map entry = (Scan.ofSource source).lexemes.map passed := by
  have htokens : (Scan.ofSource source).tokens = .error error := h
  rw [ofSource, htokens, List.append_nil, List.map_map]
  rfl

theorem stage_ofSource (source : String) : Stage source ((ofSource source).map entry) := by
  have hpasses := Scan.passes_ofCursor LexemeKind.all (Cursor.start source)
  cases h : tokenize source with
  | ok tokens =>
    obtain ⟨lexemes, hscan, rfl⟩ := tokenize_eq_ok_iff.1 h
    obtain ⟨-, hlexemes⟩ := Scan.result_eq_ok_iff.1 hscan
    rw [ofSource_of_tokens h, hlexemes]
    exact .whole h (places_of_scan hscan) (length_filterMap_token? lexemes)
  | error error =>
    obtain ⟨c, rest, -, rfl⟩ := Scan.result_eq_error_iff.1 (tokenize_eq_error_iff.1 h)
    rw [ofSource_of_error h]
    -- What was passed before the error is split in the same way when it stands alone.
    refine .cut h ?_ (fun longer => not_exists_tokens_of_longer h)
    rw [Scan.ofSource, hpasses.take_index]
    exact places_of_scan hpasses.scan_eq

/-- A `Stage` has no entry of an error, so the end of a run is told by its last entry. -/
theorem Stage.label_ne {source : String} {entries : List Entry} (h : Stage source entries) :
    ∀ line ∈ entries, line.1 ≠ "ERROR" := by
  intro line hline
  cases h with
  | whole _ _ _ =>
    rcases List.mem_append.1 hline with hline | hline
    · obtain ⟨lexeme, -, rfl⟩ := List.mem_map.1 hline
      simp [passed]
    · rw [List.mem_singleton.1 hline]
      simp [sizes]
  | cut _ _ _ =>
    obtain ⟨lexeme, -, rfl⟩ := List.mem_map.1 hline
    simp [passed]

end Log

end Reckoner
