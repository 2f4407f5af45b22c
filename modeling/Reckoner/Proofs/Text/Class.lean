import Mathlib.Data.List.DropRight

/-!
# Text — runs of a class

What `takeWhile` and `rtakeWhile` take at either end of a text and what `dropWhile` and
`rdropWhile` leave, where the text is put together from parts.
-/

namespace Reckoner

variable {inClass : Char → Bool}

/-! ## At the beginning -/

theorem head?_append_cons (init : List Char) (c : Char) (rest : List Char) :
    (init ++ c :: rest).head? = (init ++ [c]).head? := by
  cases init with
  | nil => rfl
  | cons d init => rfl

/-- Two texts are the same up to the first time that `c` stands in them, and after it. -/
theorem append_cons_inj {c : Char} {init other rest tail : List Char} (hinit : c ∉ init)
    (hother : c ∉ other) (h : init ++ c :: rest = other ++ c :: tail) :
    init = other ∧ rest = tail := by
  rcases List.append_eq_append_iff.1 h with ⟨mid, rfl, hmid⟩ | ⟨mid, rfl, hmid⟩
  · cases mid with
    | nil => simpa using hmid
    | cons d mid =>
      obtain ⟨rfl, -⟩ := List.cons.inj hmid
      simp at hother
  · cases mid with
    | nil => simpa using hmid.symm
    | cons d mid =>
      obtain ⟨rfl, -⟩ := List.cons.inj hmid
      simp at hinit

theorem takeWhile_eq_nil_of_head {text : List Char} (h : ∀ c ∈ text.head?, inClass c = false) :
    text.takeWhile inClass = [] := by
  cases text with
  | nil => rfl
  | cons c rest => simp [h c rfl]

theorem dropWhile_eq_self_of_head {text : List Char} (h : ∀ c ∈ text.head?, inClass c = false) :
    text.dropWhile inClass = text := by
  cases text with
  | nil => rfl
  | cons c rest => simp [h c rfl]

/-- A text begins with a `run` of characters of a class, and what follows does not. -/
theorem exists_takeWhile (inClass : Char → Bool) (text : List Char) :
    ∃ run rest, text = run ++ rest ∧ (∀ c ∈ run, inClass c = true) ∧
      ∀ c ∈ rest.head?, inClass c = false := by
  refine ⟨text.takeWhile inClass, text.dropWhile inClass,
    List.takeWhile_append_dropWhile.symm, ?_, ?_⟩
  · intro c hc
    exact List.mem_takeWhile_imp hc
  · intro c hc
    have hhead := List.head?_dropWhile_not inClass text
    rw [hc] at hhead
    exact hhead

/-! ## At the end -/

section Runs

variable {before run : List Char}

theorem rtakeWhile_append_of_all (h : ∀ c ∈ run, inClass c = true) :
    (before ++ run).rtakeWhile inClass = before.rtakeWhile inClass ++ run := by
  have hrev : ∀ c ∈ run.reverse, inClass c = true := by simpa using h
  simp [List.rtakeWhile, List.takeWhile_append_of_pos hrev]

theorem rdropWhile_append_of_all (h : ∀ c ∈ run, inClass c = true) :
    (before ++ run).rdropWhile inClass = before.rdropWhile inClass := by
  have hrev : ∀ c ∈ run.reverse, inClass c = true := by simpa using h
  simp [List.rdropWhile, List.dropWhile_append_of_pos hrev]

theorem rdropWhile_eq_self (h : before.rtakeWhile inClass = []) :
    before.rdropWhile inClass = before := by
  have happend : before.rdropWhile inClass ++ before.rtakeWhile inClass = before :=
    List.rdropWhile_append_rtakeWhile
  rwa [h, List.append_nil] at happend

theorem rdropWhile_append_of_ne_nil (h : run.rdropWhile inClass ≠ []) :
    (before ++ run).rdropWhile inClass = before ++ run.rdropWhile inClass := by
  have hrev : run.reverse.dropWhile inClass ≠ [] := by
    simpa [List.rdropWhile] using h
  simp [List.rdropWhile, List.dropWhile_append, hrev]

theorem rtakeWhile_append_of_ne_nil (h : run.rdropWhile inClass ≠ []) :
    (before ++ run).rtakeWhile inClass = run.rtakeWhile inClass := by
  have hwhole : (before ++ run).rdropWhile inClass ++ (before ++ run).rtakeWhile inClass =
      before ++ run := List.rdropWhile_append_rtakeWhile
  have hrun : run.rdropWhile inClass ++ run.rtakeWhile inClass = run :=
    List.rdropWhile_append_rtakeWhile
  rw [rdropWhile_append_of_ne_nil h, List.append_assoc] at hwhole
  exact List.append_cancel_left ((List.append_cancel_left hwhole).trans hrun.symm)

theorem rtakeWhile_eq_nil_of_last (h : ∀ c ∈ before.getLast?, inClass c = false) :
    before.rtakeWhile inClass = [] := by
  rw [List.rtakeWhile_eq_nil_iff]
  intro hne
  simp [h _ (List.getLast?_eq_some_getLast hne)]

end Runs

theorem rdropWhile_append_cons {c : Char} (hc : inClass c = false) (init tail : List Char) :
    (init ++ c :: tail).rdropWhile inClass = init ++ c :: tail.rdropWhile inClass := by
  induction tail using List.reverseRecOn with
  | nil =>
    rw [List.rdropWhile_nil]
    exact List.rdropWhile_concat_neg _ _ _ (by simp [hc])
  | append_singleton tail d ih =>
    rw [← List.cons_append, ← List.append_assoc]
    by_cases hd : inClass d = true
    · rw [List.rdropWhile_concat_pos _ _ _ hd, List.rdropWhile_concat_pos _ _ _ hd, ih]
    · rw [List.rdropWhile_concat_neg _ _ _ hd, List.rdropWhile_concat_neg _ _ _ hd]
      simp

/-- The last character that is left is not in the class. -/
theorem getLast?_rdropWhile (text : List Char) :
    ∀ c ∈ (text.rdropWhile inClass).getLast?, inClass c = false := by
  intro c hc
  obtain ⟨init, hinit⟩ := List.getLast?_eq_some_iff.1 hc
  have hnot := List.rdropWhile_last_not inClass text (by simp [hinit])
  simpa [hinit] using hnot

end Reckoner
