import Reckoner.Proofs.Log.Stage
import Reckoner.Proofs.Run.Ending

/-!
# Run — records

What a run records if all is shown, told by `Run.Records`: the stage of the expression to
list, then that of the expression to evaluate unless the first one failed, and last the
result or the error. There is an entry of an error exactly if the run fails, and nothing is
recorded after it.
-/

namespace Reckoner

namespace Log

/-- The entry of a `calculation` that has a result, `ignored` being the tokens after it. -/
def answer (calculation : Calculation) (result : Binary64) (ignored : Nat) : Entry :=
  ("DEBUG", "evaluated lhs=" ++ Layout.logged.text calculation.lhs ++
    " operator=" ++ calculation.operator.sign ++
    " rhs=" ++ Layout.logged.text calculation.rhs ++
    " result=" ++ Layout.logged.text result ++ " ignored=" ++ toString ignored)

def failed (error : Error) : Entry := ("ERROR", "failed error=" ++ error.message)

end Log

namespace Run

open Log (Entry Stage entry)

/-- The entries of a run on `expression` and `eval`, in order. -/
inductive Records (expression eval : String) : List Entry → Prop where
  | unlisted {error : Error} {first : List Entry} (h : tokenize expression = .error error)
      (hfirst : Stage expression first) : Records expression eval (first ++ [Log.failed error])
  | unevaluated {listed : List Token} {error : Error} {first second : List Entry}
      (h : tokenize expression = .ok listed) (heval : calculate eval = .error error)
      (hfirst : Stage expression first) (hsecond : Stage eval second) :
      Records expression eval (first ++ second ++ [Log.failed error])
  | evaluated {listed tokens : List Token} {calculation : Calculation} {result : Binary64}
      {ignored : Nat} {first second : List Entry} (h : tokenize expression = .ok listed)
      (htokens : tokenize eval = .ok tokens) (hresult : evaluate tokens = .ok result)
      (hcalculation : Calculation.ofTokens tokens = .ok calculation)
      (hignored : ignored + 3 = tokens.length)
      (hfirst : Stage expression first) (hsecond : Stage eval second) :
      Records expression eval (first ++ second ++ [Log.answer calculation result ignored])

/-! ## The record of a result -/

theorem ignored_of_ofTokens {tokens : List Token} {calculation : Calculation}
    (h : Calculation.ofTokens tokens = .ok calculation) :
    calculation.ignored + 3 = tokens.length := by
  rcases tokens with _ | ⟨lhs, _ | ⟨operator, _ | ⟨rhs, others⟩⟩⟩
  · cases h
  · cases h
  · cases h
  · rw [Calculation.ofTokens] at h
    cases hsign : Operator.ofSign operator.value with
    | error error =>
      rw [hsign] at h
      cases h
    | ok sign =>
      rw [hsign] at h
      cases h
      rfl

theorem exists_ofTokens_of_evaluate {tokens : List Token} {result : Binary64}
    (h : evaluate tokens = .ok result) : ∃ calculation,
      Calculation.ofTokens tokens = .ok calculation ∧
        Log.ofTokens tokens = [.evaluated calculation result] := by
  cases hcalculation : Calculation.ofTokens tokens with
  | error error =>
    rw [evaluate, hcalculation] at h
    cases h
  | ok calculation =>
    rw [evaluate, hcalculation] at h
    have hresult : calculation.result = .ok result := h
    refine ⟨calculation, rfl, ?_⟩
    simp only [Log.ofTokens, hcalculation, hresult]

/-! ## The records of a run -/

theorem shown_trace (events : List Event) : Log.shown .trace events = events := by
  rw [Log.shown, List.filter_eq_self]
  intro event _
  cases event <;> rfl

theorem records_ofExpressions (expression eval : String) :
    Records expression eval ((ofExpressions expression eval).log.map entry) := by
  have hfirst := Log.stage_ofSource expression
  have hsecond := Log.stage_ofSource eval
  -- One case for each constructor of `Records`.
  rcases failsWith_or expression eval with ⟨error, source, hfails⟩ |
    ⟨listed, tokens, result, hlisted, htokens, hresult⟩
  · cases hfails with
    | unlisted h =>
      rw [ofExpressions_of_error h, failure_log, List.map_append]
      exact .unlisted h hfirst
    | unevaluated h heval =>
      rw [ofExpressions_of_tokens h, evaluation_of_error heval, failure_log, List.map_append,
        List.map_append]
      exact .unevaluated h heval hfirst hsecond
  · obtain ⟨calculation, hcalculation, hlog⟩ := exists_ofTokens_of_evaluate hresult
    rw [ofExpressions_of_tokens hlisted, evaluation_of_ok htokens hresult, hlog, List.map_append,
      List.map_append]
    exact .evaluated hlisted htokens hresult hcalculation (ignored_of_ofTokens hcalculation)
      hfirst hsecond

namespace Records

variable {expression eval : String}

/-- Only the last entry can be that of an error, and it is one exactly if the run fails. -/
theorem exists_last {entries : List Entry} (h : Records expression eval entries) :
    ∃ init last, entries = init ++ [last] ∧ (∀ line ∈ init, line.1 ≠ "ERROR") ∧
      ((∃ error source, FailsWith expression eval error source ∧ last = Log.failed error) ∨
        (last.1 ≠ "ERROR" ∧ ¬ ∃ error source, FailsWith expression eval error source)) := by
  cases h with
  | @unlisted error first h hfirst =>
    exact ⟨first, _, rfl, hfirst.label_ne, .inl ⟨error, expression, .unlisted h, rfl⟩⟩
  | @unevaluated listed error first second h heval hfirst hsecond =>
    exact ⟨first ++ second, _, rfl, List.forall_mem_append.2 ⟨hfirst.label_ne, hsecond.label_ne⟩,
      .inl ⟨error, eval, .unevaluated h heval, rfl⟩⟩
  | @evaluated listed tokens calculation result ignored first second h htokens hresult _ _ hfirst
      hsecond =>
    refine ⟨first ++ second, _, rfl, List.forall_mem_append.2 ⟨hfirst.label_ne, hsecond.label_ne⟩,
      .inr ⟨by simp [Log.answer], ?_⟩⟩
    -- Both expressions have tokens and a result, so the run has no error.
    rintro ⟨error, source, hfails⟩
    cases hfails with
    | unlisted herror =>
      rw [h] at herror
      cases herror
    | unevaluated _ herror =>
      rw [calculate_eq_ok_iff.2 ⟨tokens, htokens, hresult⟩] at herror
      cases herror

/-- An entry labelled `ERROR` is the last one and tells the error of the run. -/
theorem last_of_error {before after : List Entry} {line : Entry}
    (h : Records expression eval (before ++ line :: after)) (hlabel : line.1 = "ERROR") :
    after = [] ∧
      ∃ error source, FailsWith expression eval error source ∧ line = Log.failed error := by
  obtain ⟨init, last, hentries, hinit, hlast⟩ := h.exists_last
  rcases List.eq_nil_or_concat after with rfl | ⟨tail, final, rfl⟩
  · obtain ⟨-, heq⟩ := List.append_inj' hentries rfl
    cases heq
    rcases hlast with ⟨error, source, hfails, rfl⟩ | ⟨hnot, -⟩
    · exact ⟨rfl, error, source, hfails, rfl⟩
    · exact absurd hlabel hnot
  · rw [List.concat_eq_append, ← List.cons_append, ← List.append_assoc] at hentries
    obtain ⟨rfl, -⟩ := List.append_inj' hentries rfl
    exact absurd hlabel (hinit line (by simp))

theorem exists_error_iff {entries : List Entry} (h : Records expression eval entries) :
    (∃ line ∈ entries, line.1 = "ERROR") ↔
      ∃ error source, FailsWith expression eval error source := by
  constructor
  · rintro ⟨line, hline, hlabel⟩
    obtain ⟨before, after, rfl⟩ := List.append_of_mem hline
    obtain ⟨-, error, source, hfails, -⟩ := h.last_of_error hlabel
    exact ⟨error, source, hfails⟩
  · intro hfails
    obtain ⟨init, last, rfl, -, hlast⟩ := h.exists_last
    rcases hlast with ⟨error, source, -, rfl⟩ | ⟨-, hnone⟩
    · exact ⟨Log.failed error, by simp, rfl⟩
    · exact absurd hfails hnone

end Records

/-- A run at the level `trace`, which shows all records. -/
def traced (expression eval : String) : Outcome := run ⟨expression, eval, .trace⟩

theorem traced_eq (expression eval : String) :
    traced expression eval = ofExpressions expression eval := by
  rw [traced, run, shown_trace]

/-- A run that shows all records has the entries that `Records` tells: those of its stages and
of what it comes to. There is an entry of an error exactly if the run fails, it is the last one,
and it has the message of the error that the run fails with. -/
theorem records_traced (expression eval : String) :
    Records expression eval ((traced expression eval).log.map entry) ∧
      ((∃ line ∈ (traced expression eval).log.map entry, line.1 = "ERROR") ↔
        (traced expression eval).exitCode ≠ 0) ∧
      ∀ before line after, (traced expression eval).log.map entry = before ++ line :: after →
        line.1 = "ERROR" → after = [] ∧
          ∃ error source, FailsWith expression eval error source ∧ line = Log.failed error := by
  have hrecords := records_ofExpressions expression eval
  rw [traced_eq]
  refine ⟨hrecords, ?_, ?_⟩
  · rw [exitCode_ne_zero_iff]
    exact hrecords.exists_error_iff
  · intro before line after hlog hlabel
    rw [hlog] at hrecords
    exact hrecords.last_of_error hlabel

/-- The sign stands three bytes and two characters after the beginning. The expression to
evaluate leaves no entry. -/
theorem records_traced_cut :
    (traced "2\u00a0*#" "1 + 1").log.map entry =
        [("TRACE", "matched pattern kind=NUMBER text=\"2\" pos=0"),
          ("TRACE", "matched pattern kind=WHITESPACE text=\"\\u\x7ba0\x7d\" pos=1"),
          ("TRACE", "matched pattern kind=OPERATOR text=\"*\" pos=3"),
          ("ERROR", "failed error=invalid character at position 3: '#'")] ∧
      (traced "2\u00a0*#" "1 + 1").exitCode ≠ 0 ∧
      ∃ error source, FailsWith "2\u00a0*#" "1 + 1" error source ∧
        ("ERROR", "failed error=invalid character at position 3: '#'") = Log.failed error := by
  have hlog : (traced "2\u00a0*#" "1 + 1").log.map entry =
      [("TRACE", "matched pattern kind=NUMBER text=\"2\" pos=0"),
        ("TRACE", "matched pattern kind=WHITESPACE text=\"\\u\x7ba0\x7d\" pos=1"),
        ("TRACE", "matched pattern kind=OPERATOR text=\"*\" pos=3"),
        ("ERROR", "failed error=invalid character at position 3: '#'")] := by decide +kernel
  obtain ⟨-, hexit, hlast⟩ := records_traced "2\u00a0*#" "1 + 1"
  refine ⟨hlog, hexit.1 ?_, ?_⟩
  · rw [hlog]
    exact ⟨_, List.mem_of_getLast? rfl, rfl⟩
  · obtain ⟨-, herror⟩ :=
      hlast _ _ [] (hlog.trans (List.dropLast_concat_getLast (by simp)).symm) rfl
    exact herror

end Run

end Reckoner
