import Reckoner.Proofs.Lexeme.Boundary
import Reckoner.Scan

/-!
# Scan — runs

What a scan does between two places: `Cursor.Passes` lists the lexemes on the way, one
step each. A scan is the run from its place to one where no lexeme stands, and there
is only one such run. Since no character begins lexemes of two kinds, the kind that
matches does not depend on the order in which the kinds are tried.
-/

namespace Reckoner

namespace Cursor

/-! ## One step -/

/-- The order of `kinds` does not matter: whichever has a lexeme is the one found. -/
theorem firstMatch?_eq_some_iff {kinds : List LexemeKind} {text found : List Char}
    {kind : LexemeKind} : firstMatch? kinds text = some (kind, found) ↔
      kind ∈ kinds ∧ kind.longestPrefix text = found ∧ found ≠ [] := by
  constructor
  · exact firstMatch?_eq_some
  · intro h
    obtain ⟨hmem, rfl, hne⟩ := h
    cases h : firstMatch? kinds text with
    | none =>
      have hnone := List.findSome?_eq_none_iff.1 h kind hmem
      simp [hne] at hnone
    | some pair =>
      obtain ⟨other, other_found⟩ := pair
      -- Another kind with a lexeme here begins with the same character, so it is the same kind.
      obtain ⟨-, rfl, hother⟩ := firstMatch?_eq_some h
      cases text with
      | nil => simp at hne
      | cons c rest =>
        have hc := LexemeKind.longestPrefix_cons_ne_nil_iff.1 hne
        have hc' := LexemeKind.longestPrefix_cons_ne_nil_iff.1 hother
        rw [LexemeKind.begins_inj hc hc']

theorem firstMatch?_eq_none_iff {kinds : List LexemeKind} {text : List Char} :
    firstMatch? kinds text = none ↔ ∀ kind ∈ kinds, kind.longestPrefix text = [] := by
  simp [firstMatch?, List.findSome?_eq_none_iff]

/-- All that `step?` can do: it takes the longest lexeme of a kind off the rest and counts its
bytes and its characters. -/
theorem step?_eq_some_iff {kinds : List LexemeKind} {cursor next : Cursor} {lexeme : Lexeme} :
    cursor.step? kinds = some (lexeme, next) ↔
      ∃ kind ∈ kinds, ∃ found rest, cursor.rest = found ++ rest ∧ found ≠ [] ∧
        kind.longestPrefix (found ++ rest) = found ∧
        lexeme = cursor.lexeme kind found ∧
        next = ⟨rest, cursor.offset + (String.ofList found).utf8ByteSize,
          cursor.index + found.length⟩ := by
  constructor
  · intro h
    obtain ⟨⟨kind, found⟩, hmatch, heq⟩ := Option.map_eq_some_iff.1 h
    obtain ⟨rfl, rfl⟩ := Prod.mk.inj heq
    obtain ⟨hmem, hfound, hne⟩ := firstMatch?_eq_some hmatch
    obtain ⟨rest, hrest⟩ := kind.longestPrefix_isPrefix cursor.rest
    rw [hfound] at hrest
    refine ⟨kind, hmem, found, rest, hrest.symm, hne, by rw [hrest, hfound], rfl, ?_⟩
    simp [skip, ← hrest]
  · intro h
    obtain ⟨kind, hmem, found, rest, hrest, hne, hfound, rfl, rfl⟩ := h
    have hmatch : firstMatch? kinds cursor.rest = some (kind, found) :=
      firstMatch?_eq_some_iff.2 ⟨hmem, hrest ▸ hfound, hne⟩
    rw [step?, hmatch]
    simp [skip, hrest]

theorem step?_eq_none_iff {kinds : List LexemeKind} {cursor : Cursor} :
    cursor.step? kinds = none ↔ ∀ kind ∈ kinds, ∀ c ∈ cursor.rest.head?,
      kind.begins c = false := by
  simp only [step?, Option.map_eq_none_iff, firstMatch?_eq_none_iff,
    LexemeKind.longestPrefix_eq_nil_iff]

/-! ## Runs -/

/-- A run: from a place the scan passes some lexemes and gets to another place. It need not go
as far as `ofCursor` does. -/
inductive Passes (kinds : List LexemeKind) : Cursor → List Lexeme → Cursor → Prop where
  | done (cursor : Cursor) : Passes kinds cursor [] cursor
  | step {cursor next stop : Cursor} {lexeme : Lexeme} {lexemes : List Lexeme}
      (hstep : cursor.step? kinds = some (lexeme, next)) (hrest : Passes kinds next lexemes stop) :
      Passes kinds cursor (lexeme :: lexemes) stop

namespace Passes

variable {kinds : List LexemeKind} {cursor stop : Cursor} {lexemes : List Lexeme}

/-- What was passed and what is left make up what was there. -/
theorem rest_eq (h : Passes kinds cursor lexemes stop) :
    cursor.rest = lexemes.flatMap (·.text.toList) ++ stop.rest := by
  induction h with
  | done => rfl
  | step hstep _ ih =>
    obtain ⟨kind, _, found, rest, hrest, _, _, rfl, rfl⟩ := step?_eq_some_iff.1 hstep
    simp only at ih
    simp [hrest, ih, lexeme]

theorem index_eq (h : Passes kinds cursor lexemes stop) :
    stop.index = cursor.index + (lexemes.flatMap (·.text.toList)).length := by
  induction h with
  | done => simp
  | step hstep _ ih =>
    obtain ⟨kind, _, found, rest, _, _, _, rfl, rfl⟩ := step?_eq_some_iff.1 hstep
    simp only [ih, List.flatMap_cons, List.length_append, lexeme, String.toList_ofList]
    omega

end Passes

end Cursor

namespace Scan

open Cursor

theorem passes_ofCursor (kinds : List LexemeKind) (cursor : Cursor) :
    cursor.Passes kinds (ofCursor kinds cursor).lexemes (ofCursor kinds cursor).stop := by
  induction hn : cursor.rest.length using Nat.strongRecOn generalizing cursor with
  | ind n ih =>
    cases h : cursor.step? kinds with
    | none =>
      rw [ofCursor_of_none h]
      exact .done cursor
    | some pair =>
      obtain ⟨lexeme, next⟩ := pair
      rw [ofCursor_of_some h]
      exact .step h (ih _ (hn ▸ length_rest_of_step? h) next rfl)

/-- A scan is the run to the first place where `step?` gives nothing. -/
theorem ofCursor_eq_of_passes {kinds : List LexemeKind} {cursor stop : Cursor}
    {lexemes : List Lexeme} (h : cursor.Passes kinds lexemes stop)
    (hstop : stop.step? kinds = none) : ofCursor kinds cursor = ⟨lexemes, stop⟩ := by
  induction h with
  | done => exact ofCursor_of_none hstop
  | step hstep _ ih =>
    rw [ofCursor_of_some hstep, ih hstop]
    rfl

theorem step?_stop (kinds : List LexemeKind) (cursor : Cursor) :
    (ofCursor kinds cursor).stop.step? kinds = none := by
  induction hn : cursor.rest.length using Nat.strongRecOn generalizing cursor with
  | ind n ih =>
    cases h : cursor.step? kinds with
    | none => rwa [ofCursor_of_none h]
    | some pair =>
      obtain ⟨lexeme, next⟩ := pair
      rw [ofCursor_of_some h]
      exact ih _ (hn ▸ length_rest_of_step? h) next rfl

theorem result_eq_ok_iff {scan : Scan} {lexemes : List Lexeme} :
    scan.result = .ok lexemes ↔ scan.stop.rest = [] ∧ scan.lexemes = lexemes := by
  unfold result
  split <;> simp [*]

theorem result_eq_error_iff {scan : Scan} {error : Error} :
    scan.result = .error error ↔
      ∃ c rest, scan.stop.rest = c :: rest ∧ error = .invalidCharacter scan.stop.index c := by
  unfold result
  split <;> simp [*, eq_comm]

end Scan

/-! ## Expressions -/

open Cursor

/-- An expression has `lexemes` if the run over them leaves nothing of it. -/
theorem scan_eq_ok_iff_passes {source : String} {lexemes : List Lexeme} :
    scan source = .ok lexemes ↔
      ∃ stop, (start source).Passes LexemeKind.all lexemes stop ∧ stop.rest = [] := by
  constructor
  · intro h
    obtain ⟨hrest, rfl⟩ := Scan.result_eq_ok_iff.1 h
    exact ⟨_, Scan.passes_ofCursor LexemeKind.all (start source), hrest⟩
  · intro h
    obtain ⟨stop, hpasses, hrest⟩ := h
    have hstop : stop.step? LexemeKind.all = none := by
      simp [step?_eq_none_iff, hrest]
    rw [scan, Scan.ofSource, Scan.ofCursor_eq_of_passes hpasses hstop]
    exact Scan.result_eq_ok_iff.2 ⟨hrest, rfl⟩

/-- An expression is wrong where the run over its lexemes stops before a character `c`. -/
theorem scan_eq_error_iff_passes {source : String} {error : Error} :
    scan source = .error error ↔
      ∃ lexemes stop c rest, (start source).Passes LexemeKind.all lexemes stop ∧
        stop.rest = c :: rest ∧ (∀ kind : LexemeKind, kind.begins c = false) ∧
        error = .invalidCharacter stop.index c := by
  constructor
  · intro h
    obtain ⟨c, rest, hrest, rfl⟩ := Scan.result_eq_error_iff.1 h
    refine ⟨_, _, c, rest, Scan.passes_ofCursor LexemeKind.all (start source), hrest, ?_, rfl⟩
    intro kind
    have hstop := step?_eq_none_iff.1 (Scan.step?_stop LexemeKind.all (start source))
    exact hstop kind (LexemeKind.mem_all kind) c (by rw [← Scan.ofSource, hrest]; rfl)
  · intro h
    obtain ⟨lexemes, stop, c, rest, hpasses, hrest, hbegins, rfl⟩ := h
    have hstop : stop.step? LexemeKind.all = none := by
      simpa [step?_eq_none_iff, hrest] using hbegins
    rw [scan, Scan.ofSource, Scan.ofCursor_eq_of_passes hpasses hstop]
    exact Scan.result_eq_error_iff.2 ⟨c, rest, hrest, rfl⟩

theorem tokenize_eq_ok_iff {source : String} {tokens : List Token} :
    tokenize source = .ok tokens ↔
      ∃ lexemes, scan source = .ok lexemes ∧ lexemes.filterMap Lexeme.token? = tokens := by
  rw [tokenize, Scan.tokens, scan]
  cases (Scan.ofSource source).result <;> simp [Except.map]

theorem tokenize_eq_error_iff {source : String} {error : Error} :
    tokenize source = .error error ↔ scan source = .error error := by
  rw [tokenize, Scan.tokens, scan]
  cases (Scan.ofSource source).result <;> simp [Except.map]

end Reckoner
