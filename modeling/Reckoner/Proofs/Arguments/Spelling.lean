import Mathlib.Data.List.Nodup
import Mathlib.Data.List.Forall2
import Reckoner.Run

/-!
# Arguments — spellings and order

Which arguments ask for the same run. A setting has several spellings, listed by
`Item.Spells`, and reading one of them takes the setting and goes on with the arguments
after it. Since no setting is given twice, what is taken in the end does not depend on the
order. The expression may also stand after the end of the options, where it is taken as it
is.
-/

namespace Reckoner

/-- Whether `text` is no option when it stands as an argument of its own. -/
def IsOrdinary (text : String) : Prop := text.toList.head? = some '-' → text = "-"

/-- A setting with the value that it is given. -/
inductive Item where
  | expression (text : String)
  | eval (text : String)
  | level (level : Level)

namespace Item

/-- The arguments that can be written to give a setting. A value may stand alone if it
`IsOrdinary`, and behind an equals sign whatever it is. -/
inductive Spells : Item → List String → Prop where
  | expression {text : String} (h : IsOrdinary text) : Spells (.expression text) [text]
  | evalLetter {text : String} (h : IsOrdinary text) : Spells (.eval text) ["-e", text]
  | evalName {text : String} (h : IsOrdinary text) : Spells (.eval text) ["--eval", text]
  | evalLetterEquals (text : String) : Spells (.eval text) ["-e=" ++ text]
  | evalNameEquals (text : String) : Spells (.eval text) ["--eval=" ++ text]
  | evalGlued {text : String} (hne : text ≠ "") (hequals : text.toList.head? ≠ some '=') :
      Spells (.eval text) ["-e" ++ text]
  | levelName (level : Level) : Spells (.level level) ["--log-level", level.name]
  | levelNameEquals (level : Level) : Spells (.level level) ["--log-level=" ++ level.name]

/-- The items for the settings that are given, which are those that are not `none`. -/
def list (expression? eval? : Option String) (level? : Option Level) : List Item :=
  expression?.toList.map .expression ++ (eval?.toList.map .eval ++ level?.toList.map .level)

/-- The setting of an option; an `expression` is none. -/
def setting? : Item → Option Setting
  | .expression _ => none
  | .eval _ => some .eval
  | .level _ => some .level

end Item

/-! ## One argument -/

namespace Argument

theorem ofText_of_isOrdinary {text : String} (h : IsOrdinary text) :
    ofText text = .positional text := by
  by_cases hhead : text.toList.head? = some '-'
  · rw [h hhead]
    rfl
  · unfold ofText
    split <;> simp_all

theorem ofText_letterEquals (text : String) :
    ofText ("-e=" ++ text) = .option .eval (some text) := by
  unfold ofText
  rw [String.toList_append]
  show Argument.option .eval (some (String.ofList text.toList)) = _
  rw [String.ofList_toList]

theorem ofText_glued {text : String} (hne : text ≠ "") (h : text.toList.head? ≠ some '=') :
    ofText ("-e" ++ text) = .option .eval (some text) := by
  unfold ofText
  rw [String.toList_append]
  show ofLetter ('e' :: text.toList) = _
  rw [← String.ofList_toList (s := text)]
  cases htext : text.toList with
  | nil => exact absurd (String.toList_eq_nil_iff.1 htext) hne
  | cons c value =>
    unfold ofLetter
    split <;> simp_all

theorem splitValue_append {name : List Char} (h : '=' ∉ name) (value : List Char) :
    splitValue (name ++ '=' :: value) = (String.ofList name, some (String.ofList value)) := by
  have hname : ∀ c ∈ name, decide (c ≠ '=') = true := by
    intro c hc
    exact decide_eq_true (ne_of_mem_of_not_mem hc h)
  unfold splitValue
  rw [List.takeWhile_append_of_pos hname, List.dropWhile_append_of_pos hname]
  simp

theorem ofText_evalEquals (text : String) :
    ofText ("--eval=" ++ text) = .option .eval (some text) := by
  unfold ofText
  rw [String.toList_append]
  show ofLongName (['e', 'v', 'a', 'l'] ++ '=' :: text.toList) = _
  unfold ofLongName
  rw [splitValue_append (by decide), String.ofList_toList]
  rfl

theorem ofText_levelEquals (text : String) :
    ofText ("--log-level=" ++ text) = .option .level (some text) := by
  unfold ofText
  rw [String.toList_append]
  show ofLongName (['l', 'o', 'g', '-', 'l', 'e', 'v', 'e', 'l'] ++ '=' :: text.toList) = _
  unfold ofLongName
  rw [splitValue_append (by decide), String.ofList_toList]
  rfl

end Argument

/-! ## One setting -/

namespace Level

theorem ofName?_name (level : Level) : ofName? level.name = some level := by
  cases level <;> decide

theorem isOrdinary_name (level : Level) : IsOrdinary level.name := by
  intro h
  cases level <;> simp [name] at h

end Level

namespace Given

/-- Takes the value of a setting; `none` if it has one already. -/
def take? (given : Given) : Item → Option Given
  | .expression text => given.setExpression? text
  | .eval text => given.set? .eval text
  | .level level => given.set? .level level.name

def items (given : Given) : List Item := Item.list given.expression? given.eval? given.level?

/-- A setting that is not among `given.items` is taken, and nothing else changes. -/
theorem exists_take? {given : Given} {item : Item}
    (h : item.setting? ∉ given.items.map Item.setting?) :
    ∃ next, given.take? item = some next ∧ next.items.Perm (item :: given.items) := by
  obtain ⟨expression?, eval?, level?⟩ := given
  cases item with
  | expression text =>
    cases expression? with
    | none => exact ⟨⟨some text, eval?, level?⟩, rfl, .refl _⟩
    | some other => simp [items, Item.list, Item.setting?] at h
  | eval text =>
    cases eval? with
    | none => exact ⟨⟨expression?, some text, level?⟩, rfl, List.perm_middle⟩
    | some other => simp [items, Item.list, Item.setting?] at h
  | level level =>
    cases level? with
    | none =>
      refine ⟨⟨expression?, eval?, some level⟩, ?_, ?_⟩
      · simp [take?, set?, Level.ofName?_name]
      · simp only [items, Item.list, Option.toList_some, Option.toList_none, List.map_cons,
          List.map_nil, List.append_nil]
        rw [← List.append_assoc]
        exact List.perm_append_singleton _ _
    | some other => simp [items, Item.list, Item.setting?] at h

theorem nodup_setting?_items (given : Given) : (given.items.map Item.setting?).Nodup := by
  obtain ⟨expression?, eval?, level?⟩ := given
  cases expression? <;> cases eval? <;> cases level? <;>
    simp [items, Item.list, Item.setting?]

/-- What is given can be told by its `items` in any order. -/
theorem eq_of_perm_items {given target : Given} (h : given.items.Perm target.items) :
    given = target := by
  have hmem := fun item => h.mem_iff (a := item)
  obtain ⟨expression?, eval?, level?⟩ := given
  obtain ⟨expression?', eval?', level?'⟩ := target
  have hexpression : expression? = expression?' := by
    ext text
    simpa [items, Item.list] using hmem (.expression text)
  have heval : eval? = eval?' := by
    ext text
    simpa [items, Item.list] using hmem (.eval text)
  have hlevel : level? = level?' := by
    ext level
    simpa [items, Item.list] using hmem (.level level)
  rw [hexpression, heval, hlevel]

end Given

namespace Arguments

/-! ## Reading -/

section Reading

variable {given target : Given} {items : List Item} {groups : List (List String)}

/-- The value of an option may be the next argument if it `IsOrdinary`. -/
theorem readFrom_option {name text : String} {setting : Setting}
    (hname : Argument.ofText name = .option setting none) (htext : IsOrdinary text)
    (given : Given) (rest : List String) : readFrom given (name :: text :: rest) =
      (given.set? setting text).bind (readFrom · rest) := by
  rw [readFrom, hname]
  simp only [Argument.ofText_of_isOrdinary htext]

/-- However `item` is spelled, it is taken and reading goes on with `rest`. -/
theorem readFrom_spelled {item : Item} {words : List String} (h : item.Spells words)
    (given : Given) (rest : List String) :
    readFrom given (words ++ rest) = (given.take? item).bind (readFrom · rest) := by
  -- One case for each spelling, and two ways to read an option: with its value or before it.
  cases h with
  | expression h =>
    rw [List.singleton_append, readFrom, Argument.ofText_of_isOrdinary h]
    rfl
  | evalLetter h =>
    have hname : Argument.ofText "-e" = .option .eval none := rfl
    exact readFrom_option hname h given rest
  | evalName h =>
    have hname : Argument.ofText "--eval" = .option .eval none := rfl
    exact readFrom_option hname h given rest
  | evalLetterEquals text =>
    rw [List.singleton_append, readFrom, Argument.ofText_letterEquals]
    rfl
  | evalNameEquals text =>
    rw [List.singleton_append, readFrom, Argument.ofText_evalEquals]
    rfl
  | evalGlued hne hequals =>
    rw [List.singleton_append, readFrom, Argument.ofText_glued hne hequals]
    rfl
  | levelName level =>
    have hname : Argument.ofText "--log-level" = .option .level none := rfl
    exact readFrom_option hname level.isOrdinary_name given rest
  | levelNameEquals level =>
    rw [List.singleton_append, readFrom, Argument.ofText_levelEquals]
    rfl

/-- After `items` in any order, reading goes on with all that `target` holds. -/
theorem readFrom_spelled_flatten (hspelled : List.Forall₂ Item.Spells items groups)
    (h : (given.items ++ items).Perm target.items) (rest : List String) :
    readFrom given (groups.flatten ++ rest) = readFrom target rest := by
  induction hspelled generalizing given with
  | nil =>
    rw [List.append_nil] at h
    obtain rfl := Given.eq_of_perm_items h
    rfl
  | @cons item words items groups hitem _ ih =>
    -- No setting is given twice in all, so this one is not given before.
    have hnodup := (h.map Item.setting?).nodup_iff.2 target.nodup_setting?_items
    rw [List.map_append, List.map_cons] at hnodup
    have hnot : item.setting? ∉ given.items.map Item.setting? := by
      intro hmem
      exact (List.nodup_middle.1 hnodup).notMem (List.mem_append_left _ hmem)
    obtain ⟨next, hnext, hperm⟩ := Given.exists_take? hnot
    have hall : (next.items ++ items).Perm target.items :=
      ((hperm.append_right items).trans List.perm_middle.symm).trans h
    rw [List.flatten_cons, List.append_assoc, readFrom_spelled hitem, hnext, Option.bind_some,
      ih hall]

end Reading

/-- Whether arguments give some settings and no others: each item as it `Spells`, in any order,
or the expression as it is after `--`. -/
inductive Give (expression? eval? : Option String) (level? : Option Level) :
    List String → Prop where
  | anyOrder {items : List Item} {groups : List (List String)}
      (horder : items.Perm (Item.list expression? eval? level?))
      (hspelled : List.Forall₂ Item.Spells items groups) :
      Give expression? eval? level? groups.flatten
  | atEnd {text : String} {items : List Item} {groups : List (List String)}
      (hexpression : expression? = some text)
      (horder : items.Perm (Item.list none eval? level?))
      (hspelled : List.Forall₂ Item.Spells items groups) :
      Give expression? eval? level? (groups.flatten ++ ["--", text])

/-- The settings of a run, with the defaults written out for those that are `none`. -/
def withDefaults (expression? eval? : Option String) (level? : Option Level) : Settings :=
  ⟨expression?.getD "3.5 + 5 * (10 - 4.2)", eval?.getD "5 * 2", level?.getD .warn⟩

/-- Arguments that give the same settings ask for the same run, however they are spelled and
ordered. -/
theorem read?_of_give {expression? eval? : Option String} {level? : Option Level}
    {arguments : List String} (h : Give expression? eval? level? arguments) :
    read? arguments = some (.run (withDefaults expression? eval? level?)) ∧
      (read? arguments).map Request.outcome =
        some (Reckoner.run (withDefaults expression? eval? level?)) := by
  have hread : read? arguments = some (.run (withDefaults expression? eval? level?)) := by
    cases h with
    | anyOrder horder hspelled =>
      -- At the beginning nothing is given.
      have hall : (({} : Given).items ++ _).Perm (Given.items ⟨expression?, eval?, level?⟩) :=
        horder
      have hread := readFrom_spelled_flatten hspelled hall []
      rw [List.append_nil] at hread
      exact hread
    | atEnd hexpression horder hspelled =>
      subst hexpression
      have hall : (({} : Given).items ++ _).Perm (Given.items ⟨none, eval?, level?⟩) := horder
      exact readFrom_spelled_flatten hspelled hall _
  rw [hread]
  exact ⟨rfl, rfl⟩

/-- Values that look like options are taken where a value stands and at the very end. -/
theorem read?_of_give_hyphens :
    Give (some "--eval") (some "-V") (some .trace)
        ["--log-level", "trace", "-e=-V", "--", "--eval"] ∧
      read? ["--log-level", "trace", "-e=-V", "--", "--eval"] =
        some (.run ⟨"--eval", "-V", .trace⟩) ∧
      (read? ["--log-level", "trace", "-e=-V", "--", "--eval"]).map Request.outcome =
        some (Reckoner.run ⟨"--eval", "-V", .trace⟩) := by
  have hgive : Give (some "--eval") (some "-V") (some .trace)
      ([["--log-level", Level.trace.name], ["-e=" ++ "-V"]].flatten ++ ["--", "--eval"]) :=
    .atEnd rfl (.swap _ _ [])
      (.cons (.levelName .trace) (.cons (.evalLetterEquals "-V") .nil))
  exact ⟨hgive, read?_of_give hgive⟩

end Arguments

end Reckoner
