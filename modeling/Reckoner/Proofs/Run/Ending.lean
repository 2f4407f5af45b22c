import Reckoner.Proofs.Calculation.Verdict
import Reckoner.Proofs.Diagnostic.Fault
import Reckoner.Run

/-!
# Run — endings

How a run ends, told by what its two expressions come to. It fails with the error of the
expression to list or else with that of the expression to evaluate, and the error is shown
in the source that it is about, so only the first expression matters if it has no tokens.
`Run.Ends` says for each case what is written and which exit code is left.
-/

namespace Reckoner

namespace Run

/-- The error with which a run fails, and which of `expression` and `eval` it is about. -/
inductive FailsWith (expression eval : String) : Error → String → Prop where
  | unlisted {error : Error} (h : tokenize expression = .error error) :
      FailsWith expression eval error expression
  | unevaluated {tokens : List Token} {error : Error} (h : tokenize expression = .ok tokens)
      (heval : calculate eval = .error error) : FailsWith expression eval error eval

/-- Whether the error of a run, if it has one, can be shown by `Diagnostic.render`. -/
def Showable (expression eval : String) : Prop :=
  ∀ error source, FailsWith expression eval error source →
    ∃ text, Diagnostic.render error source = .ok text

/-- What every run writes first. -/
def header (expression : String) : String := "Input Expression: " ++ expression ++ "\n"

/-- The exit code that a run on `expression` and `eval` leaves, and what it writes to the
standard output and to the standard error, records of the log apart. -/
inductive Ends (expression eval : String) : Nat → String → String → Prop where
  | unlisted {error : Error} {text : String} (h : tokenize expression = .error error)
      (htext : Diagnostic.render error expression = .ok text) :
      Ends expression eval 1 (header expression) (text ++ "\n")
  | unevaluated {tokens : List Token} {error : Error} {text : String}
      (h : tokenize expression = .ok tokens) (heval : calculate eval = .error error)
      (htext : Diagnostic.render error eval = .ok text) :
      Ends expression eval 1 (header expression ++ Token.listing tokens ++ "\n\n") (text ++ "\n")
  | evaluated {tokens : List Token} {result : Binary64}
      (h : tokenize expression = .ok tokens) (heval : calculate eval = .ok result) :
      Ends expression eval 0
        (header expression ++ Token.listing tokens ++ "\n\n" ++
          ("Evaluating '" ++ eval ++ "': " ++ Layout.plain.text result ++ "\n")) ""

/-! ## The end of a run with an error -/

section Failure

variable {stdout source text : String} {log : List Event} {error : Error}

@[simp] theorem failure_stdout : (failure stdout log error source).stdout = stdout := by
  unfold failure
  split <;> rfl

@[simp] theorem failure_log : (failure stdout log error source).log = log ++ [.failed error] := by
  unfold failure
  split <;> rfl

theorem failure_exitCode_ne_zero : (failure stdout log error source).exitCode ≠ 0 := by
  unfold failure
  split
  · exact Nat.one_ne_zero
  · show faultCode ≠ 0
    decide

theorem failure_of_render (h : Diagnostic.render error source = .ok text) :
    failure stdout log error source = ⟨1, stdout, text ++ "\n", log ++ [.failed error]⟩ := by
  rw [failure, h]

end Failure

/-! ## The second half of a run -/

section Evaluation

variable {stdout source : String} {log : List Event} {tokens : List Token} {error : Error}
  {result : Binary64}

theorem calculate_eq_ok_iff : calculate source = .ok result ↔
    ∃ tokens, tokenize source = .ok tokens ∧ evaluate tokens = .ok result := by
  cases h : tokenize source with
  | error error => simp [calculate_of_error h]
  | ok tokens => simp [calculate_of_tokens h]

theorem evaluation_of_error (h : calculate source = .error error) :
    evaluation stdout log source = failure stdout (log ++ Log.ofSource source) error source := by
  cases htokens : tokenize source with
  | error other =>
    rw [calculate_of_error htokens] at h
    cases h
    simp only [evaluation, htokens]
  | ok tokens =>
    rw [calculate_of_tokens htokens] at h
    simp only [evaluation, htokens, h]

theorem evaluation_of_ok (htokens : tokenize source = .ok tokens)
    (h : evaluate tokens = .ok result) : evaluation stdout log source =
      ⟨0, stdout ++ ("Evaluating '" ++ source ++ "': " ++ Layout.plain.text result ++ "\n"), "",
        log ++ Log.ofSource source ++ Log.ofTokens tokens⟩ := by
  simp only [evaluation, htokens, h, String.append_assoc]

end Evaluation

/-! ## A whole run -/

section Whole

variable {expression eval : String} {tokens : List Token} {error : Error}

theorem ofExpressions_of_error (h : tokenize expression = .error error) :
    ofExpressions expression eval =
      failure (header expression) (Log.ofSource expression) error expression := by
  unfold ofExpressions
  rw [h]
  rfl

theorem ofExpressions_of_tokens (h : tokenize expression = .ok tokens) :
    ofExpressions expression eval =
      evaluation (header expression ++ Token.listing tokens ++ "\n\n")
        (Log.ofSource expression) eval := by
  unfold ofExpressions
  rw [h]
  rfl

/-- A run `FailsWith` an error, or both its expressions have what is asked of them. -/
theorem failsWith_or (expression eval : String) :
    (∃ error source, FailsWith expression eval error source) ∨
      ∃ listed tokens result, tokenize expression = .ok listed ∧
        tokenize eval = .ok tokens ∧ evaluate tokens = .ok result := by
  cases h : tokenize expression with
  | error error => exact .inl ⟨error, expression, .unlisted h⟩
  | ok listed =>
    cases heval : calculate eval with
    | error error => exact .inl ⟨error, eval, .unevaluated h heval⟩
    | ok result =>
      obtain ⟨tokens, htokens, hresult⟩ := calculate_eq_ok_iff.1 heval
      exact .inr ⟨listed, tokens, result, rfl, htokens, hresult⟩

/-- The exit code of a run is zero exactly if it has no error, shown or not. -/
theorem exitCode_ne_zero_iff : (ofExpressions expression eval).exitCode ≠ 0 ↔
    ∃ error source, FailsWith expression eval error source := by
  constructor
  · intro hexit
    rcases failsWith_or expression eval with hfails |
      ⟨listed, tokens, result, hlisted, htokens, hresult⟩
    · exact hfails
    · rw [ofExpressions_of_tokens hlisted, evaluation_of_ok htokens hresult] at hexit
      exact absurd rfl hexit
  · rintro ⟨error, source, hfails⟩
    cases hfails with
    | unlisted h =>
      rw [ofExpressions_of_error h]
      exact failure_exitCode_ne_zero
    | unevaluated h heval =>
      rw [ofExpressions_of_tokens h, evaluation_of_error heval]
      exact failure_exitCode_ne_zero

theorem exists_stdout_eq (expression eval : String) :
    ∃ rest, (ofExpressions expression eval).stdout = header expression ++ rest := by
  cases h : tokenize expression with
  | error error =>
    refine ⟨"", ?_⟩
    rw [ofExpressions_of_error h, failure_stdout, String.append_empty]
  | ok tokens =>
    rw [ofExpressions_of_tokens h]
    cases heval : calculate eval with
    | error error =>
      refine ⟨Token.listing tokens ++ "\n\n", ?_⟩
      rw [evaluation_of_error heval, failure_stdout, String.append_assoc]
    | ok result =>
      obtain ⟨others, hothers, hresult⟩ := calculate_eq_ok_iff.1 heval
      refine ⟨Token.listing tokens ++ "\n\n" ++
        ("Evaluating '" ++ eval ++ "': " ++ Layout.plain.text result ++ "\n"), ?_⟩
      rw [evaluation_of_ok hothers hresult]
      simp only [String.append_assoc]

theorem Ends.ofExpressions_eq {exitCode : Nat} {stdout stderr : String}
    (h : Ends expression eval exitCode stdout stderr) :
    (ofExpressions expression eval).exitCode = exitCode ∧
      (ofExpressions expression eval).stdout = stdout ∧
      (ofExpressions expression eval).stderr = stderr := by
  cases h with
  | unlisted h htext =>
    rw [ofExpressions_of_error h, failure_of_render htext]
    exact ⟨rfl, rfl, rfl⟩
  | unevaluated h heval htext =>
    rw [ofExpressions_of_tokens h, evaluation_of_error heval, failure_of_render htext]
    exact ⟨rfl, rfl, rfl⟩
  | evaluated h heval =>
    obtain ⟨others, hothers, hresult⟩ := calculate_eq_ok_iff.1 heval
    rw [ofExpressions_of_tokens h, evaluation_of_ok hothers hresult]
    exact ⟨rfl, rfl, rfl⟩

theorem Showable.exists_ends (h : Showable expression eval) :
    ∃ exitCode stdout stderr, Ends expression eval exitCode stdout stderr := by
  rcases failsWith_or expression eval with ⟨error, source, hfails⟩ |
    ⟨listed, tokens, result, hlisted, htokens, hresult⟩
  · obtain ⟨text, htext⟩ := h error source hfails
    cases hfails with
    | unlisted hlisted => exact ⟨_, _, _, .unlisted hlisted htext⟩
    | unevaluated hlisted heval => exact ⟨_, _, _, .unevaluated hlisted heval htext⟩
  · exact ⟨_, _, _, .evaluated hlisted (calculate_eq_ok_iff.2 ⟨tokens, htokens, hresult⟩)⟩

theorem Showable.ends_iff (h : Showable expression eval) {exitCode : Nat}
    {stdout stderr : String} : Ends expression eval exitCode stdout stderr ↔
      (ofExpressions expression eval).exitCode = exitCode ∧
        (ofExpressions expression eval).stdout = stdout ∧
        (ofExpressions expression eval).stderr = stderr := by
  constructor
  · exact Ends.ofExpressions_eq
  · rintro ⟨rfl, rfl, rfl⟩
    obtain ⟨exitCode, stdout, stderr, hends⟩ := h.exists_ends
    obtain ⟨hexit, hstdout, hstderr⟩ := hends.ofExpressions_eq
    rwa [hexit, hstdout, hstderr]

end Whole

end Run

/-- Arguments that `Arguments.read?` takes lead to a run that first writes the expression to
list and, if its error can be shown, ends in the one way that its two expressions come to. The
expression to evaluate does not matter if the one to list has no tokens. -/
theorem outcome_of_arguments {arguments : List String} {settings : Settings}
    (h : Arguments.read? arguments = some (.run settings)) :
    (Arguments.read? arguments).map Request.outcome = some (run settings) ∧
      (∃ rest, (run settings).stdout =
        "Input Expression: " ++ settings.expression ++ "\n" ++ rest) ∧
      (Run.Showable settings.expression settings.eval → ∀ exitCode stdout stderr,
        Run.Ends settings.expression settings.eval exitCode stdout stderr ↔
          (run settings).exitCode = exitCode ∧ (run settings).stdout = stdout ∧
            (run settings).stderr = stderr) ∧
      ((∃ error, tokenize settings.expression = .error error) →
        ∀ other, run { settings with eval := other } = run settings) := by
  refine ⟨by rw [h]; rfl, Run.exists_stdout_eq _ _, ?_, ?_⟩
  · intro hshowable exitCode stdout stderr
    exact hshowable.ends_iff
  · rintro ⟨error, herror⟩ other
    simp only [run, Run.ofExpressions_of_error herror]

/-- A run that lists its tokens and then divides by a zero, and one that gets no further than
an expression without tokens. -/
theorem outcome_of_arguments_failing :
    Arguments.read? ["--eval=7 / 0", "(1)"] = some (.run ⟨"(1)", "7 / 0", .warn⟩) ∧
      Run.Showable "(1)" "7 / 0" ∧
      (run ⟨"(1)", "7 / 0", .warn⟩).exitCode = 1 ∧
      (run ⟨"(1)", "7 / 0", .warn⟩).stdout =
        Run.header "(1)" ++
          Token.listing [⟨.parenthesis, "("⟩, ⟨.number, "1"⟩, ⟨.parenthesis, ")"⟩] ++ "\n\n" ∧
      (run ⟨"(1)", "7 / 0", .warn⟩).stderr = "Error: DivisionByZero\n" ∧
      Arguments.read? ["3 & 4"] = some (.run ⟨"3 & 4", "5 * 2", .warn⟩) ∧
      tokenize "3 & 4" = .error (.invalidCharacter 2 '&') ∧
      run ⟨"3 & 4", "7 / 0", .warn⟩ = run ⟨"3 & 4", "5 * 2", .warn⟩ := by
  have hread : Arguments.read? ["--eval=7 / 0", "(1)"] =
      some (.run ⟨"(1)", "7 / 0", .warn⟩) := by decide +kernel
  have htokens : tokenize "(1)" =
      .ok [⟨.parenthesis, "("⟩, ⟨.number, "1"⟩, ⟨.parenthesis, ")"⟩] := by decide +kernel
  have heval : calculate "7 / 0" = .error .divisionByZero := by decide +kernel
  have hrender : Diagnostic.render .divisionByZero "7 / 0" = .ok "Error: DivisionByZero" := rfl
  have hshowable : Run.Showable "(1)" "7 / 0" := by
    rintro error source (⟨h⟩ | ⟨-, h⟩)
    · rw [htokens] at h
      cases h
    · rw [heval] at h
      cases h
      exact ⟨_, hrender⟩
  obtain ⟨-, -, hends, -⟩ := outcome_of_arguments hread
  obtain ⟨hexit, hstdout, hstderr⟩ :=
    (hends hshowable _ _ _).1 (.unevaluated htokens heval hrender)
  have hdefault : Arguments.read? ["3 & 4"] = some (.run ⟨"3 & 4", "5 * 2", .warn⟩) := by
    decide +kernel
  have herror : tokenize "3 & 4" = .error (.invalidCharacter 2 '&') := by decide +kernel
  obtain ⟨-, -, -, hsame⟩ := outcome_of_arguments hdefault
  exact ⟨hread, hshowable, hexit, hstdout, hstderr, hdefault, herror, hsame ⟨_, herror⟩ _⟩

end Reckoner
