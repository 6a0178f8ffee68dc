import ShellFlow.Proofs.Action.Compilation
import ShellFlow.Proofs.Shell.Spelling
import ShellFlow.Proofs.Text.Lines

/-!
# The header of a script

The name of a step and the description of its action go into comments at the top of the script. A
comment ends with its line, and only the first line of a name or a description is put behind a `#`.
What comes after a newline in them stands at the start of a line of its own.

* **`strayLines`** — the lines of a name and a description that no `#` is put before.
* **`forall_isIdleLine_headerLines`** — the header does nothing exactly if none of these would.
* **`run_idleLines`** — up to its first line that does something, a script is read as empty lines.
* **`compile_header_lines`** — both, for the scripts of all actions.
-/

namespace ShellFlow

namespace Shell

/-! ## Lines that do nothing -/

/-- True of an empty line and of a comment. -/
def IsIdleLine (line : String) : Prop := line = "" ∨ line.toList.head? = some '#'

instance (line : String) : Decidable (IsIdleLine line) := inferInstanceAs (Decidable (_ ∨ _))

/-- Lines that do nothing are read as so many empty lines, so that a command may start after them. -/
theorem run_idleLines {lines : List String} (h : ∀ line ∈ lines, IsIdleLine line)
    (hline : ∀ line ∈ lines, '\n' ∉ line.toList) :
    run (.outside true) (Text.charsOfLines lines) =
      some (List.replicate lines.length (.bare '\n'), .outside true) := by
  induction lines with
  | nil => rfl
  | cons line rest ih =>
    have hrest := ih (fun l hl => h l (List.mem_cons_of_mem _ hl))
      fun l hl => hline l (List.mem_cons_of_mem _ hl)
    have hfirst : run (.outside true) (line.toList ++ ['\n']) =
        some ([.bare '\n'], .outside true) := by
      rcases h line List.mem_cons_self with rfl | hhash
      · rfl
      · obtain ⟨more, hmore⟩ := List.head?_eq_some_iff.mp hhash
        have hcomment : '\n' ∉ more := fun hmem =>
          hline line List.mem_cons_self (hmore ▸ List.mem_cons_of_mem _ hmem)
        have hopen : step (.outside true) '#' = some ([], .inComment) := rfl
        have hclose : run .inComment ['\n'] = some ([.bare '\n'], .outside true) := rfl
        rw [hmore]
        exact run_trans (run_cons hopen (run_inComment hcomment)) hclose
    exact run_trans hfirst hrest

end Shell

namespace Action

open Shell Text

/-! ## Lines of the header -/

/-- The lines in front of the section of the inputs. -/
def headerLines (step description : Label) : List String :=
  (header step description).flatMap splitNewlines ++ [""]

/-- The lines of the header that no `#` is put before: those of the name and of the description,
except for the first line of each. -/
def strayLines (step description : Label) : List String :=
  (splitNewlines (step.display ++ " ===")).tail
    ++ if description.isTruthy then (splitNewlines description.display).tail else []

/-- Behind the front of a comment, the first line of a text is a comment and the others are as they
were. -/
theorem forall_isIdleLine_comment {front : String} (hfront : front.toList.head? = some '#')
    (hline : '\n' ∉ front.toList) (s : String) :
    (∀ line ∈ splitNewlines (front ++ s), IsIdleLine line) ↔
      ∀ line ∈ (splitNewlines s).tail, IsIdleLine line := by
  obtain ⟨line, lines, hs, hfs⟩ := splitNewlines_append hline s
  have hfirst : IsIdleLine (front ++ line) := by
    refine Or.inr ?_
    rw [String.toList_append, List.head?_append, hfront]
    rfl
  rw [hs, hfs, List.forall_mem_cons]
  exact and_iff_right hfirst

/-- The header does nothing exactly if the lines without a `#` of its own do nothing. -/
theorem forall_isIdleLine_headerLines (step description : Label) :
    (∀ line ∈ headerLines step description, IsIdleLine line) ↔
      ∀ line ∈ strayLines step description, IsIdleLine line := by
  have hempty : IsIdleLine "" := Or.inl rfl
  have htitleHash : "# === Action: ".toList.head? = some '#' := rfl
  have htitle := forall_isIdleLine_comment htitleHash (by decide) (step.display ++ " ===")
  rw [← String.append_assoc] at htitle
  have hhash : "# ".toList.head? = some '#' := rfl
  have hdescription := forall_isIdleLine_comment hhash (by decide) description.display
  rw [headerLines, header, strayLines, List.flatMap_cons, List.forall_mem_append,
    List.forall_mem_append, List.forall_mem_append, htitle, List.forall_mem_singleton,
    and_iff_left hempty]
  refine and_congr_right fun _ => ?_
  split
  · rw [List.flatMap_singleton, hdescription]
  · rfl

/-- A name and a description of one line each leave no line without a `#`. -/
theorem strayLines_eq_nil {step description : Label} (hstep : '\n' ∉ step.display.toList)
    (hdescription : '\n' ∉ description.display.toList) : strayLines step description = [] := by
  have htail : ∀ s : String, '\n' ∉ s.toList → (splitNewlines s).tail = [] := by
    intro s hs
    rw [splitNewlines, cutAtNewlines_of_not_mem hs]
    rfl
  have htitle : '\n' ∉ (step.display ++ " ===").toList := by
    rw [String.toList_append, List.mem_append, not_or]
    exact ⟨hstep, by decide⟩
  rw [strayLines, htail _ htitle, htail _ hdescription, ite_self]
  rfl

/-! ## Scripts -/

/-- The lines of the header come first, then those of the sections. -/
theorem splitNewlines_script (step description : Label) (setup checks exports : List String)
    (run : String) :
    ∃ below, splitNewlines (script (preamble step description setup checks) run exports) =
      headerLines step description ++ "# Setup inputs" :: below := by
  have hempty : splitNewlines "" = [""] := by decide
  have hsection : splitNewlines "# Setup inputs" = ["# Setup inputs"] := by decide
  rw [script, splitNewlines_joinLines (by simp [preamble]), preamble, List.append_assoc,
    List.flatMap_append, List.cons_append, List.cons_append, List.flatMap_cons, List.flatMap_cons,
    hempty, hsection, headerLines]
  exact ⟨_, (List.append_assoc _ _ _).symm⟩

/-- **The header of the script of an action.** The lines in front of the section of the inputs are
those of the title and of the description. All of them are empty or comments exactly if the further
lines of the name and of the description happen to be, so in any case if neither has a newline. As
far as lines are empty or comments they are read as empty lines; a command may start with the first
one that is not, in the header or below. -/
theorem compile_header_lines {action : Action} {invocation : Invocation} {carry : CarryChannel}
    {step : Step} (h : action.compile invocation carry = .ok step) :
    ∃ script below, step.run = .text script
      ∧ splitNewlines script =
          headerLines step.name action.description ++ "# Setup inputs" :: below
      ∧ ((∀ line ∈ headerLines step.name action.description, IsIdleLine line) ↔
          ∀ line ∈ strayLines step.name action.description, IsIdleLine line)
      ∧ ('\n' ∉ step.name.display.toList → '\n' ∉ action.description.display.toList →
          ∀ line ∈ headerLines step.name action.description, IsIdleLine line)
      ∧ ∀ before rest, splitNewlines script = before ++ rest → rest ≠ [] →
          (∀ line ∈ before, IsIdleLine line) →
          script.toList = charsOfLines before ++ (joinLines rest).toList
            ∧ Shell.run (.outside true) (charsOfLines before) =
                some (List.replicate before.length (.bare '\n'), .outside true) := by
  obtain ⟨c, rfl⟩ := compile_eq_ok_iff.mp h
  have hidle := forall_isIdleLine_headerLines (action.stepName invocation) action.description
  obtain ⟨below, hbelow⟩ := splitNewlines_script (action.stepName invocation) action.description
    c.setupLines (checks action.inputs) c.exportCode c.run
  refine ⟨script c.front c.run c.exportCode, below, rfl, hbelow, hidle, ?_, ?_⟩
  · intro hname hdescription
    refine hidle.mpr fun line hline => ?_
    have hnone := strayLines_eq_nil hname hdescription
    exact absurd (hnone ▸ hline) List.not_mem_nil
  · intro before rest hlines hne hbefore
    have hjoin := toList_joinLines_append before hne
    rw [← hlines, joinLines_splitNewlines] at hjoin
    refine ⟨hjoin, run_idleLines hbefore fun line hline => ?_⟩
    exact not_mem_of_mem_splitNewlines (hlines ▸ List.mem_append_left _ hline)

/-- An action with a description of two lines. -/
def notify : Action where
  name := .text "notify"
  run := .text "echo done"
  inputs := ∅
  outputs := []
  packages := []
  description := .text "tell\nus"

/-- The second line of a description is no comment. -/
theorem notify_header_lines :
    ∃ step script below, notify.compile ∅ = .ok step ∧ step.run = .text script
      ∧ splitNewlines script =
          ["# === Action: notify ===", "# tell", "us", "", "# Setup inputs"] ++ below
      ∧ ¬ (∀ line ∈ headerLines step.name notify.description, IsIdleLine line)
      ∧ Shell.run (.outside true) (charsOfLines ["# === Action: notify ===", "# tell"]) =
          some ([.bare '\n', .bare '\n'], .outside true) := by
  have hcompile := compile_eq_ok_iff.mpr
    ⟨(⟨∅, [], ∅, [], "echo done", rfl, rfl, rfl, rfl, rfl⟩ : Compilation notify ∅ .standard), rfl⟩
  obtain ⟨script, below, hrun, hlines, hidle, -, hread⟩ := compile_header_lines hcompile
  refine ⟨_, script, below, hcompile, hrun, hlines, ?_, ?_⟩
  · rw [hidle]
    decide
  · exact (hread ["# === Action: notify ===", "# tell"] _ hlines (List.cons_ne_nil _ _)
      (by decide)).2

end Action

end ShellFlow
