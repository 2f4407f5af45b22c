import Mathlib.Data.List.Chain
import Mathlib.Data.Set.Subsingleton
import Reckoner.Proofs.Scan.Run

/-!
# Scan — segmentation

The lexemes of an expression without the search for them. They are its `IsSegmentation`:
they cut it into pieces that are spelled as their kinds say, and no two numbers and no two
runs of blanks stand side by side. An expression can be cut in this way at most once, and
the scan finds the cut if there is one.
-/

namespace Reckoner

/-- Whether two lexemes may stand side by side: they are neither two numbers nor two of the kind
`whitespace`. -/
def Lexeme.Apart (before after : Lexeme) : Prop :=
  ¬ (before.kind = .number ∧ after.kind = .number) ∧
    ¬ (before.kind = .whitespace ∧ after.kind = .whitespace)

/-- Whether `lexemes` cut `source` into pieces. -/
structure IsSegmentation (source : String) (lexemes : List Lexeme) : Prop where
  joined : String.join (lexemes.map (·.text)) = source
  spelled : ∀ lexeme ∈ lexemes, lexeme.kind.Spells lexeme.text.toList
  apart : lexemes.IsChain Lexeme.Apart
  nonempty : ∀ lexeme ∈ lexemes, lexeme.span.start < lexeme.span.stop
  measured : ∀ lexeme ∈ lexemes, lexeme.span.length? = some lexeme.text.utf8ByteSize
  first : ∀ lexeme ∈ lexemes.head?, lexeme.span.start = 0
  adjacent : lexemes.IsChain fun before after => after.span.start = before.span.stop
  last : ∀ lexeme ∈ lexemes.getLast?, lexeme.span.stop = source.utf8ByteSize

/-! ## Spans without a gap -/

/-- Whether lexemes lie side by side from `offset` on. -/
def Tiles : Nat → List Lexeme → Prop
  | _, [] => True
  | offset, lexeme :: lexemes =>
    lexeme.span = ⟨offset, offset + lexeme.text.utf8ByteSize⟩ ∧ Tiles lexeme.span.stop lexemes

theorem length?_eq_some_iff {span : Span} {length : Nat} :
    span.length? = some length ↔ span.stop = span.start + length := by
  unfold Span.length?
  split
  · simp only [Option.some.injEq]
    omega
  · simp only [reduceCtorEq, false_iff]
    omega

/-- Lexemes lie side by side if each starts where the one before it stops. -/
theorem tiles_iff {offset : Nat} {lexemes : List Lexeme} :
    Tiles offset lexemes ↔
      (∀ lexeme ∈ lexemes.head?, lexeme.span.start = offset) ∧
      lexemes.IsChain (fun before after => after.span.start = before.span.stop) ∧
      ∀ lexeme ∈ lexemes, lexeme.span.length? = some lexeme.text.utf8ByteSize := by
  induction lexemes generalizing offset with
  | nil => simp [Tiles]
  | cons lexeme lexemes ih =>
    have hspan : lexeme.span = ⟨offset, offset + lexeme.text.utf8ByteSize⟩ ↔
        lexeme.span.start = offset ∧
          lexeme.span.length? = some lexeme.text.utf8ByteSize := by
      rw [length?_eq_some_iff]
      cases lexeme.span
      simp only [Span.mk.injEq]
      constructor
      · intro h
        obtain ⟨rfl, rfl⟩ := h
        exact ⟨rfl, rfl⟩
      · intro h
        obtain ⟨rfl, rfl⟩ := h
        exact ⟨rfl, rfl⟩
    simp only [Tiles, ih, hspan, List.isChain_cons, List.head?_cons, List.forall_mem_cons,
      Option.mem_some_iff, forall_eq']
    tauto

/-- The last of some lexemes that `Tiles` holds of stops after the bytes of all. -/
theorem Tiles.last {offset : Nat} {lexemes : List Lexeme} (h : Tiles offset lexemes) :
    ∀ lexeme ∈ lexemes.getLast?,
      lexeme.span.stop = offset + (String.join (lexemes.map (·.text))).utf8ByteSize := by
  induction lexemes generalizing offset with
  | nil => simp
  | cons lexeme lexemes ih =>
    obtain ⟨hspan, hrest⟩ := h
    simp only [List.map_cons, String.join_cons, String.utf8ByteSize_append]
    cases lexemes with
    | nil => simp [hspan]
    | cons next lexemes =>
      rw [List.getLast?_cons_cons]
      intro last hlast
      rw [ih hrest last hlast, hspan]
      simp only
      omega

/-! ## A run cuts what it passes -/

namespace Cursor.Passes

variable {kinds : List LexemeKind} {cursor stop : Cursor} {lexemes : List Lexeme}

theorem spelled (h : Passes kinds cursor lexemes stop) :
    ∀ lexeme ∈ lexemes, lexeme.kind.Spells lexeme.text.toList := by
  induction h with
  | done => simp
  | step hstep _ ih =>
    obtain ⟨kind, _, found, rest, _, hne, hfound, rfl, rfl⟩ := step?_eq_some_iff.1 hstep
    refine List.forall_mem_cons.2 ⟨?_, ih⟩
    simp only [lexeme, String.toList_ofList]
    exact LexemeKind.spells_of_longestPrefix hfound hne

theorem tiles (h : Passes kinds cursor lexemes stop) : Tiles cursor.offset lexemes := by
  induction h with
  | done => trivial
  | step hstep _ ih =>
    obtain ⟨kind, _, found, rest, _, _, _, rfl, rfl⟩ := step?_eq_some_iff.1 hstep
    exact ⟨rfl, ih⟩

/-- What a run passes is `Lexeme.Apart`: of two numbers side by side, or of blanks, the first
would have been longer. -/
theorem apart (h : Passes kinds cursor lexemes stop) : lexemes.IsChain Lexeme.Apart := by
  induction h with
  | done => exact .nil
  | step hstep hrest ih =>
    cases hrest with
    | done => exact .singleton _
    | step hnext hrest =>
      refine .cons_cons ?_ ih
      obtain ⟨kind, _, found, rest, _, hne, hfound, rfl, rfl⟩ := step?_eq_some_iff.1 hstep
      obtain ⟨other, _, found', rest', rfl, hne', hfound', rfl, rfl⟩ :=
        step?_eq_some_iff.1 hnext
      -- Whether they may stand side by side is decided by the first character of the second.
      obtain ⟨c, tail, rfl, hbegins⟩ := (LexemeKind.spells_of_longestPrefix hfound' hne').head
      have hnot := fun hmerges =>
        LexemeKind.begins_eq_false_of_longestPrefix hfound hne hmerges c rfl
      constructor
      · intro hkinds
        obtain ⟨rfl, rfl⟩ := hkinds
        simp [hnot (.inl rfl)] at hbegins
      · intro hkinds
        obtain ⟨rfl, rfl⟩ := hkinds
        simp [hnot (.inr rfl)] at hbegins

end Cursor.Passes

/-! ## A cut is a run -/

theorem Lexeme.Apart.not_merges {before after : Lexeme} (h : before.Apart after)
    (heq : before.kind = after.kind) : ¬ before.kind.merges := by
  intro hmerges
  rcases hmerges with hkind | hkind
  · exact h.1 ⟨hkind, heq ▸ hkind⟩
  · exact h.2 ⟨hkind, heq ▸ hkind⟩

/-- Lexemes that lie side by side and apart are passed one by one, from any `index`. -/
theorem passes_of_tiles {lexemes : List Lexeme} {offset : Nat} (htiles : Tiles offset lexemes)
    (hspelled : ∀ lexeme ∈ lexemes, lexeme.kind.Spells lexeme.text.toList)
    (hapart : lexemes.IsChain Lexeme.Apart) (index : Nat) :
    ∃ stop, Cursor.Passes LexemeKind.all ⟨lexemes.flatMap (·.text.toList), offset, index⟩
      lexemes stop ∧ stop.rest = [] := by
  induction lexemes generalizing offset index with
  | nil => exact ⟨_, .done _, rfl⟩
  | cons lexeme lexemes ih =>
    obtain ⟨hspan, htiles⟩ := htiles
    obtain ⟨hlexeme, hspelled⟩ := List.forall_mem_cons.1 hspelled
    obtain ⟨hnext, hapart⟩ := List.isChain_cons.1 hapart
    obtain ⟨stop, hpasses, hstop⟩ :=
      ih htiles hspelled hapart (index + lexeme.text.toList.length)
    -- What follows in the text is the first character of the next lexeme, if there is one.
    have hhead : ∀ c ∈ (lexemes.flatMap (·.text.toList)).head?,
        lexeme.kind.continues c = false := by
      cases lexemes with
      | nil => simp
      | cons next lexemes =>
        obtain ⟨c, rest, htext, hc⟩ := (hspelled next (by simp)).head
        have hnot := (hnext next rfl).not_merges
        simpa [htext] using LexemeKind.continues_eq_false_of_begins hc hnot
    refine ⟨stop, .step ?_ hpasses, hstop⟩
    refine Cursor.step?_eq_some_iff.2 ⟨lexeme.kind, LexemeKind.mem_all _, lexeme.text.toList,
      lexemes.flatMap (·.text.toList), by simp, hlexeme.ne_nil,
      LexemeKind.longestPrefix_append hlexeme hhead, ?_, ?_⟩
    · simp [Cursor.lexeme, ← hspan]
    · simp [hspan]

/-! ## The scan finds the cut -/

theorem isSegmentation_of_scan {source : String} {lexemes : List Lexeme}
    (h : scan source = .ok lexemes) : IsSegmentation source lexemes := by
  obtain ⟨stop, hpasses, hrest⟩ := scan_eq_ok_iff_passes.1 h
  have htiles : Tiles 0 lexemes := hpasses.tiles
  obtain ⟨hfirst, hadjacent, hmeasured⟩ := tiles_iff.1 htiles
  have hjoined : String.join (lexemes.map (·.text)) = source := by
    have hall := hpasses.rest_eq
    rw [hrest, List.append_nil] at hall
    rw [← String.toList_inj, String.toList_join, List.flatMap_map]
    exact hall.symm
  have hlast := htiles.last
  rw [hjoined, Nat.zero_add] at hlast
  refine ⟨hjoined, hpasses.spelled, hpasses.apart, ?_, hmeasured, hfirst, hadjacent, hlast⟩
  intro lexeme hmem
  -- No span is empty since no lexeme is.
  have hsize : lexeme.text.utf8ByteSize ≠ 0 := by
    rw [ne_eq, String.utf8ByteSize_eq_zero_iff, ← String.toList_eq_nil_iff]
    exact (hpasses.spelled lexeme hmem).ne_nil
  have hstop := length?_eq_some_iff.1 (hmeasured lexeme hmem)
  omega

theorem IsSegmentation.scan_eq {source : String} {lexemes : List Lexeme}
    (h : IsSegmentation source lexemes) : scan source = .ok lexemes := by
  have htiles := tiles_iff.2 ⟨h.first, h.adjacent, h.measured⟩
  have hpasses := passes_of_tiles htiles h.spelled h.apart 0
  have hrest : source.toList = lexemes.flatMap (·.text.toList) := by
    rw [← h.joined, String.toList_join, List.flatMap_map]
  rw [← hrest] at hpasses
  exact scan_eq_ok_iff_passes.2 hpasses

/-- The lexemes of an expression are the only cut of it, and it has none exactly if
the scan fails. -/
theorem scan_eq_ok_iff_isSegmentation (source : String) :
    (∀ lexemes, scan source = .ok lexemes ↔ IsSegmentation source lexemes) ∧
      {lexemes | IsSegmentation source lexemes}.Subsingleton ∧
      ((∃ error, scan source = .error error) ↔ ¬ ∃ lexemes, IsSegmentation source lexemes) := by
  have hiff : ∀ lexemes, scan source = .ok lexemes ↔ IsSegmentation source lexemes :=
    fun lexemes => ⟨isSegmentation_of_scan, IsSegmentation.scan_eq⟩
  refine ⟨hiff, ?_, ?_⟩
  · intro lexemes h others hothers
    exact Except.ok.inj (h.scan_eq.symm.trans hothers.scan_eq)
  · simp only [← hiff]
    cases scan source <;> simp

end Reckoner
