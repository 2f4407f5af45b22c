import Reckoner.Calculation
import Reckoner.Proofs.Diagnostic.Marker

/-!
# Diagnostic — lines without a marker

When an error that is `Raised` by an expression cannot be shown. The marker never stands
before the text, because the scan and the excerpt agree on what is blank. It can stand too
far from the beginning of the text, and only for that is there nothing to show.
-/

namespace Reckoner

/-- Whether `error` is reported for `source`: it has no tokens, or these have no result. -/
def Raised (source : String) (error : Error) : Prop :=
  tokenize source = .error error ∨
    ∃ tokens, tokenize source = .ok tokens ∧ evaluate tokens = .error error

/-- Whether `error` is about a character with so much text of its line before it that the marker
would be beyond column 65535. -/
def IsTooFar (source : String) (error : Error) : Prop :=
  ∃ spot : Spot, spot.text = source.toList ∧
    error = .invalidCharacter spot.position spot.character ∧
    Diagnostic.lastColumn ≤ spot.passed.length

/-! ## Errors about a character -/

theorem position?_of_ofSign {text : String} {error : Error}
    (h : Operator.ofSign text = .error error) : error.position? = none := by
  unfold Operator.ofSign at h
  split at h
  · cases h
  · cases h
  · cases h
  · cases h
  · cases h
    rfl

theorem position?_of_apply {operator : Operator} {lhs rhs : Binary64} {error : Error}
    (h : operator.apply lhs rhs = .error error) : error.position? = none := by
  cases operator with
  | add => cases h
  | subtract => cases h
  | multiply => cases h
  | divide =>
    rw [Operator.apply] at h
    split at h
    · cases h
      rfl
    · cases h

theorem position?_of_ofTokens {tokens : List Token} {error : Error}
    (h : Calculation.ofTokens tokens = .error error) : error.position? = none := by
  unfold Calculation.ofTokens at h
  split at h
  · rename_i lhs operator rhs others
    cases hsign : Operator.ofSign operator.value with
    | ok operator => simp [hsign, Except.map] at h
    | error reported =>
      simp only [hsign, Except.map, Except.error.injEq] at h
      subst h
      exact position?_of_ofSign hsign
  · cases h
    rfl

theorem position?_of_evaluate {tokens : List Token} {error : Error}
    (h : evaluate tokens = .error error) : error.position? = none := by
  rw [evaluate] at h
  cases hcalculation : Calculation.ofTokens tokens with
  | ok calculation =>
    rw [hcalculation] at h
    exact position?_of_apply h
  | error other =>
    rw [hcalculation] at h
    cases h
    exact position?_of_ofTokens hcalculation

theorem render_of_position? {error : Error} (h : error.position? = none) (source : String) :
    Diagnostic.render error source = .ok (Diagnostic.headline error) := by
  rw [Diagnostic.render, h]
  rfl

/-- A reported error is about no character, or about one that has a `Spot`. -/
theorem Raised.position?_or_spot {source : String} {error : Error} (h : Raised source error) :
    error.position? = none ∨ ∃ spot : Spot, spot.text = source.toList ∧
      error = .invalidCharacter spot.position spot.character := by
  rcases h with htokens | ⟨tokens, -, hresult⟩
  · obtain ⟨before, c, after, -, -, -, rfl⟩ := clean_of_tokenize htokens
    obtain ⟨spot, hsource, hposition, hcharacter⟩ := exists_spot_of_tokenize htokens
    exact .inr ⟨spot, hsource, by rw [hposition, hcharacter]⟩
  · exact .inl (position?_of_evaluate hresult)

/-! ## A line of any length -/

/-- An expression with one stray character after some `digits`. -/
def longSource (digits : Nat) : String := String.ofList (List.replicate digits '1' ++ ['&'])

def longSpot (digits : Nat) : Spot where
  before := []
  indent := []
  passed := List.replicate digits '1'
  character := '&'
  tail := []
  after := []
  isLine := by
    refine ⟨.inl rfl, by simp, ?_, .inr rfl⟩
    simp
  blank_indent := by simp
  head_passed := by
    cases digits with
    | zero => simp [isBlank]
    | succ digits => simp [List.replicate_succ, isBlank]
  character_not_blank := by decide

theorem longSpot_text (digits : Nat) : (longSpot digits).text = (longSource digits).toList := by
  simp [longSpot, longSource, Spot.text, Spot.line]

theorem longSpot_position (digits : Nat) : (longSpot digits).position = digits := by
  simp [longSpot, Spot.position]

theorem tokenize_longSource (digits : Nat) :
    tokenize (longSource digits) = .error (.invalidCharacter digits '&') := by
  have hdigits : ∀ c ∈ List.replicate digits '1', LexemeKind.number.begins c = true := by
    intro c hc
    rw [List.eq_of_mem_replicate hc]
    rfl
  have hstray : IsStray (List.replicate digits '1' ++ ['&'])
      (List.replicate digits '1').length := by
    rw [isStray_append_cons, forall_begins_eq_false_iff]
    refine ⟨by decide, ?_⟩
    intro hpoint
    exact absurd hpoint.1 (by decide)
  have hnone : NoStray ([] ++ List.replicate digits '1') ['&'] :=
    (clean_nil _).noStray.append hdigits
  rw [List.length_replicate] at hstray
  rw [tokenize_eq_error_iff_first, longSource, String.toList_ofList]
  refine ⟨by simp, hstray, ?_⟩
  intro other hlt
  exact hnone other (by simpa using hlt)

theorem isTooFar_longSource {digits : Nat} (h : Diagnostic.lastColumn ≤ digits) :
    IsTooFar (longSource digits) (.invalidCharacter digits '&') := by
  refine ⟨longSpot digits, longSpot_text digits, ?_, ?_⟩
  · rw [longSpot_position]
    rfl
  · show _ ≤ (List.replicate digits '1').length
    rwa [List.length_replicate]

/-! ## The one fault -/

theorem IsTooFar.render_eq {source : String} {error : Error} (h : IsTooFar source error) :
    Diagnostic.render error source = .error .markerTooFar := by
  obtain ⟨spot, hsource, rfl, hfar⟩ := h
  rw [Spot.render_eq hsource, if_pos hfar]

theorem Raised.exists_render {source : String} {error : Error} (h : Raised source error)
    (hfar : ¬ IsTooFar source error) : ∃ text, Diagnostic.render error source = .ok text := by
  rcases h.position?_or_spot with hposition | ⟨spot, hsource, rfl⟩
  · exact ⟨_, render_of_position? hposition source⟩
  · rw [Spot.render_eq hsource]
    have hpassed : ¬ Diagnostic.lastColumn ≤ spot.passed.length := by
      intro hpassed
      exact hfar ⟨spot, hsource, rfl, hpassed⟩
    exact ⟨_, if_neg hpassed⟩

/-- An error of an expression can be shown unless it `IsTooFar`, and it is never for another
reason that it cannot. -/
theorem render_eq_ok_iff_not_isTooFar {source : String} {error : Error}
    (h : Raised source error) :
    ((∃ text, Diagnostic.render error source = .ok text) ↔ ¬ IsTooFar source error) ∧
      ∀ fault, Diagnostic.render error source = .error fault ↔
        fault = .markerTooFar ∧ IsTooFar source error := by
  by_cases hfar : IsTooFar source error
  · rw [hfar.render_eq]
    simp [hfar, eq_comm]
  · obtain ⟨text, htext⟩ := h.exists_render hfar
    rw [htext]
    simp [hfar]

/-- The marker under the character after as many digits as there are columns is too
far. -/
theorem render_longSource :
    Raised (longSource 65535) (.invalidCharacter 65535 '&') ∧
      Diagnostic.render (.invalidCharacter 65535 '&') (longSource 65535) =
        .error .markerTooFar := by
  have hraised : Raised (longSource 65535) (.invalidCharacter 65535 '&') :=
    .inl (tokenize_longSource 65535)
  have hfar := isTooFar_longSource (Nat.le_refl Diagnostic.lastColumn)
  exact ⟨hraised, ((render_eq_ok_iff_not_isTooFar hraised).2 _).2 ⟨rfl, hfar⟩⟩

/-- Not every error of an expression can be shown. -/
theorem not_forall_exists_render :
    ¬ ∀ source error, Raised source error →
      ∃ text, Diagnostic.render error source = .ok text := by
  intro h
  obtain ⟨text, htext⟩ := h _ _ (.inl (tokenize_longSource Diagnostic.lastColumn))
  rw [(isTooFar_longSource (Nat.le_refl Diagnostic.lastColumn)).render_eq] at htext
  cases htext

end Reckoner
