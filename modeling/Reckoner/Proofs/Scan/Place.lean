import Reckoner.Proofs.Scan.Run

/-!
# Scan — places

What holds of every place that a scan comes to, whether it goes through or not, told by
`Cursor.IsAfter`. The text before the place is counted twice, in bytes and in characters: a
step adds the sizes of one lexeme to both counts, so the offset stays at a character
boundary of the source, and both counts grow with every step. So a scan cannot take more
steps than there are characters.
-/

namespace Reckoner

/-! ## Bytes and characters -/

theorem utf8ByteSize_ofList_cons (c : Char) (text : List Char) :
    (String.ofList (c :: text)).utf8ByteSize =
      c.utf8Size + (String.ofList text).utf8ByteSize := by
  rw [← List.singleton_append, String.ofList_append, String.utf8ByteSize_append,
    ← String.singleton_eq_ofList, String.utf8ByteSize_singleton]

theorem utf8Size_eq_one_iff_toNat {c : Char} : c.utf8Size = 1 ↔ c.toNat < 128 := by
  rw [Char.utf8Size_eq_one_iff, UInt32.le_iff_toNat_le]
  exact Nat.lt_succ_iff.symm

theorem length_le_utf8ByteSize (text : List Char) :
    text.length ≤ (String.ofList text).utf8ByteSize := by
  induction text with
  | nil => exact Nat.zero_le _
  | cons c text ih =>
    have hpos := c.utf8Size_pos
    rw [utf8ByteSize_ofList_cons, List.length_cons]
    omega

/-- A text has as many bytes as characters exactly if all of it is ASCII. -/
theorem length_eq_utf8ByteSize_iff (text : List Char) :
    text.length = (String.ofList text).utf8ByteSize ↔ ∀ c ∈ text, c.toNat < 128 := by
  induction text with
  | nil => simp
  | cons c text ih =>
    have hpos := c.utf8Size_pos
    have hle := length_le_utf8ByteSize text
    rw [utf8ByteSize_ofList_cons, List.length_cons, List.forall_mem_cons, ← ih,
      ← utf8Size_eq_one_iff_toNat]
    omega

/-! ## The text before a place -/

namespace Cursor

/-- Whether `cursor` is the place after the text `before` at the beginning of `source`. -/
structure IsAfter (source before : String) (cursor : Cursor) : Prop where
  source_eq : source = before ++ String.ofList cursor.rest
  offset_eq : cursor.offset = before.utf8ByteSize
  index_eq : cursor.index = before.length

theorem isAfter_start (source : String) : (start source).IsAfter source "" := by
  refine ⟨?_, rfl, rfl⟩
  simp [start]

namespace IsAfter

variable {source before : String} {cursor next stop : Cursor} {kinds : List LexemeKind}
  {lexeme : Lexeme} {lexemes : List Lexeme}

/-- The offset is at a character boundary, where `source` falls into `before` and the rest. -/
theorem exists_position (h : cursor.IsAfter source before) :
    ∃ position : source.Pos, position.offset.byteIdx = cursor.offset ∧
      (source.sliceTo position).copy = before ∧
      (source.sliceFrom position).copy = String.ofList cursor.rest := by
  have hsplits := String.Pos.splits_ofEqAppend h.source_eq
  refine ⟨_, ?_, hsplits.copy_sliceTo_eq, hsplits.copy_sliceFrom_eq⟩
  rw [hsplits.offset_eq_rawEndPos, h.offset_eq]
  rfl

theorem index_le_offset (h : cursor.IsAfter source before) : cursor.index ≤ cursor.offset := by
  have hle := length_le_utf8ByteSize before.toList
  rw [String.ofList_toList, String.length_toList] at hle
  rwa [h.index_eq, h.offset_eq]

theorem index_eq_offset_iff (h : cursor.IsAfter source before) :
    cursor.index = cursor.offset ↔ ∀ c ∈ before.toList, c.toNat < 128 := by
  have hiff := length_eq_utf8ByteSize_iff before.toList
  rw [String.ofList_toList, String.length_toList] at hiff
  rwa [h.index_eq, h.offset_eq]

theorem index_add_length (h : cursor.IsAfter source before) :
    cursor.index + cursor.rest.length = source.length := by
  rw [h.source_eq, h.index_eq, String.length_append, String.length_ofList]

/-! ## Steps -/

theorem step (h : cursor.IsAfter source before)
    (hstep : cursor.step? kinds = some (lexeme, next)) :
    next.IsAfter source (before ++ lexeme.text) := by
  obtain ⟨kind, _, found, rest, hrest, _, _, rfl, rfl⟩ := step?_eq_some_iff.1 hstep
  have hsource := h.source_eq
  refine ⟨?_, ?_, ?_⟩
  · rw [hrest, String.ofList_append, ← String.append_assoc] at hsource
    exact hsource
  · rw [Cursor.lexeme, String.utf8ByteSize_append, h.offset_eq]
  · rw [Cursor.lexeme, String.length_append, String.length_ofList, h.index_eq]

theorem passes (h : cursor.IsAfter source before) (hpasses : Passes kinds cursor lexemes stop) :
    stop.IsAfter source (before ++ String.join (lexemes.map (·.text))) := by
  induction hpasses generalizing before with
  | done => simpa using h
  | step hstep _ ih =>
    rw [List.map_cons, String.join_cons, ← String.append_assoc]
    exact ih (h.step hstep)

end IsAfter

/-- Both counts of `next` are greater, since no lexeme is empty. -/
theorem lt_of_step? {kinds : List LexemeKind} {cursor next : Cursor} {lexeme : Lexeme}
    (h : cursor.step? kinds = some (lexeme, next)) :
    cursor.offset < next.offset ∧ cursor.index < next.index := by
  obtain ⟨kind, _, found, rest, _, hne, _, rfl, rfl⟩ := step?_eq_some_iff.1 h
  have hlength := List.length_pos_iff.2 hne
  have hsize := length_le_utf8ByteSize found
  simp only
  omega

/-- A run takes no more steps than `stop.index` counts characters. -/
theorem Passes.length_le {kinds : List LexemeKind} {cursor stop : Cursor}
    {lexemes : List Lexeme} (h : Passes kinds cursor lexemes stop) :
    cursor.index + lexemes.length ≤ stop.index := by
  induction h with
  | done => exact Nat.le_refl _
  | step hstep _ ih =>
    have hlt := (lt_of_step? hstep).2
    rw [List.length_cons]
    omega

end Cursor

/-! ## The whole scan -/

namespace Scan

open Cursor

/-- How often `scan` looks for a lexeme: once for each that it finds, and once more if it stops
before a character. -/
def rounds (scan : Scan) : Nat :=
  scan.lexemes.length + if scan.stop.rest = [] then 0 else 1

/-- Wherever a scan comes to, it does there what `ofCursor` from there does. -/
theorem ofCursor_eq_after_of_passes {kinds : List LexemeKind} {cursor stop : Cursor}
    {lexemes : List Lexeme} (h : Passes kinds cursor lexemes stop) :
    ofCursor kinds cursor = after lexemes (ofCursor kinds stop) := by
  induction h with
  | done => rfl
  | step hstep _ ih =>
    rw [ofCursor_of_some hstep, ih]
    rfl

/-- A scan takes at most one of its `rounds` for each character. -/
theorem rounds_ofSource_le (source : String) : (ofSource source).rounds ≤ source.length := by
  have hpasses := passes_ofCursor LexemeKind.all (start source)
  have hsteps := hpasses.length_le
  have hlength := ((isAfter_start source).passes hpasses).index_add_length
  have hindex : (start source).index = 0 := rfl
  rw [← ofSource] at hsteps hlength
  unfold rounds
  split
  · omega
  · next hne =>
    have hpos := List.length_pos_iff.2 hne
    omega

end Scan

open Cursor

/-- At every place that the scan of `source` comes to, the text before it is a beginning of the
source that ends at a character boundary, where the slice after it is the rest. The offset
counts the bytes of that text and the index its characters, which are as many exactly if it is
ASCII, and both grow with every step. So the scan ends after at most as many `rounds` as the
source has characters. -/
theorem isAfter_of_passes_and_rounds_le (source : String) :
    (∀ passed cursor, (start source).Passes LexemeKind.all passed cursor →
      Scan.ofSource source = Scan.after passed (Scan.ofCursor LexemeKind.all cursor) ∧
      ∃ before : String, before = String.join (passed.map (·.text)) ∧
        cursor.IsAfter source before ∧
        (∃ position : source.Pos, position.offset.byteIdx = cursor.offset ∧
          (source.sliceTo position).copy = before ∧
          (source.sliceFrom position).copy = String.ofList cursor.rest) ∧
        (∀ lexeme next, cursor.step? LexemeKind.all = some (lexeme, next) →
          cursor.offset < next.offset ∧ cursor.index < next.index) ∧
        cursor.index ≤ cursor.offset ∧
        (cursor.index = cursor.offset ↔ ∀ c ∈ before.toList, c.toNat < 128)) ∧
      (Scan.ofSource source).rounds ≤ source.length := by
  refine ⟨?_, Scan.rounds_ofSource_le source⟩
  intro passed cursor hpasses
  have hafter := (isAfter_start source).passes hpasses
  rw [String.empty_append] at hafter
  exact ⟨Scan.ofCursor_eq_after_of_passes hpasses, _, rfl, hafter, hafter.exists_position,
    fun _ _ => lt_of_step?, hafter.index_le_offset, hafter.index_eq_offset_iff⟩

/-- A blank of three bytes before a character that ends the scan parts the two counts. -/
theorem isAfter_of_passes_and_rounds_le_wide :
    (start "1\u3000&").Passes LexemeKind.all
        [⟨.number, "1", 0, 1⟩, ⟨.whitespace, "\u3000", 1, 4⟩] ⟨['&'], 4, 2⟩ ∧
      (Cursor.mk ['&'] 4 2).IsAfter "1\u3000&" "1\u3000" ∧
      (∃ position : "1\u3000&".Pos, position.offset.byteIdx = 4 ∧
        ("1\u3000&".sliceTo position).copy = "1\u3000" ∧
        ("1\u3000&".sliceFrom position).copy = "&") ∧
      (∃ c ∈ "1\u3000".toList, ¬ c.toNat < 128) ∧
      (Scan.ofSource "1\u3000&").rounds ≤ 3 := by
  have hnumber : (start "1\u3000&").step? LexemeKind.all =
      some (⟨.number, "1", 0, 1⟩, ⟨['\u3000', '&'], 1, 1⟩) := by decide +kernel
  have hblank : (Cursor.mk ['\u3000', '&'] 1 1).step? LexemeKind.all =
      some (⟨.whitespace, "\u3000", 1, 4⟩, ⟨['&'], 4, 2⟩) := by decide +kernel
  have hpasses : (start "1\u3000&").Passes LexemeKind.all
      [⟨.number, "1", 0, 1⟩, ⟨.whitespace, "\u3000", 1, 4⟩] ⟨['&'], 4, 2⟩ :=
    .step hnumber (.step hblank (.done _))
  obtain ⟨hplaces, hrounds⟩ := isAfter_of_passes_and_rounds_le "1\u3000&"
  obtain ⟨-, before, rfl, hafter, hposition, -, -, hascii⟩ := hplaces _ _ hpasses
  have hwide : ∃ c ∈ "1\u3000".toList, ¬ c.toNat < 128 := by
    have hnot := hascii.not.1 (by decide)
    push Not at hnot ⊢
    exact hnot
  exact ⟨hpasses, hafter, hposition, hwide, hrounds⟩

end Reckoner
