import ShellFlow.Proofs.Shell.Checks

/-!
# Expansions of references

A reference is written as its variable between braces, and nothing in the text says where the name
ends but the closing brace. A name that is no identifier may hold an operator, or close the braces
before its time. Only the name of an environment variable is taken as it is; the names of all other
variables are made so that they are identifiers.

* **`isIdentifier_var_iff`** — which references have an identifier for their variable.
* **`run_inBraces_eq_some`** — what is read in braces, from the first character of a name on.
* **`run_expansion_iff`** — an expansion is read as that of its variable exactly if this is an
  identifier, wherever it stands and whatever follows.
* **`reference_expansions`** — all references, and all assignments.
-/

namespace ShellFlow

/-- The variable of a reference is an identifier, apart from the names that are taken as they are:
the others are built from sanitized names behind a fixed prefix. -/
theorem isIdentifier_var_iff {r : Reference} :
    isIdentifier r.var = true ↔ ∀ name, r = .envVar name → isIdentifier name = true := by
  refine ⟨?_, isIdentifier_var⟩
  rintro h name rfl
  exact h

namespace Shell

/-- Whether an expansion that stands here is in double quotes; nothing is said where none is read. -/
def Place.inQuotes? : Place → Option Bool
  | .outside _ => some false
  | .inDouble => some true
  | _ => none

/-! ## Names in braces

The reader collects the characters of a name up to the brace. So the name must be read back from
where the brace is, whatever characters it has. -/

/-- A name in braces ends at the first character that no name has, which must be the closing brace,
and what was read by then must be an identifier. -/
theorem run_inBraces_eq_some {isQuoted : Bool} {name cs : List Char} {m : Mark} {marks : List Mark}
    {last : Place} (h : run (.inBraces isQuoted name) cs = some (m :: marks, last)) :
    ∃ more rest, cs = more ++ '\x7d' :: rest ∧ isIdentifierChars (name ++ more) = true
      ∧ m = .expansion isQuoted (String.ofList (name ++ more))
      ∧ run (.around isQuoted) rest = some (marks, last) := by
  induction cs generalizing name with
  | nil => cases h
  | cons c rest ih =>
    obtain ⟨here, next, later, hstep, hrest, hmarks⟩ := run_cons_eq_some h
    rw [step] at hstep
    split at hstep
    · -- the name goes on
      cases hstep
      rw [List.nil_append] at hmarks
      subst hmarks
      obtain ⟨more, rest', rfl, hident, hm, hrun⟩ := ih hrest
      rw [List.append_assoc, List.singleton_append] at hident hm
      exact ⟨c :: more, rest', rfl, hident, hm, hrun⟩
    · split at hstep
      · -- the brace closes the name
        rename_i hclose
        simp only [Bool.and_eq_true, decide_eq_true_eq] at hclose
        obtain ⟨rfl, hident⟩ := hclose
        cases hstep
        obtain ⟨rfl, rfl⟩ := List.cons.inj hmarks
        exact ⟨[], rest, rfl, by rwa [List.append_nil], by rw [List.append_nil], hrest⟩
      · cases hstep

/-! ## Expansions in place -/

/-- A character that completes no mark only moves the reader. -/
theorem run_cons_of_step {place next : Place} {c : Char} (h : step place c = some ([], next))
    (rest : List Char) : run place (c :: rest) = run next rest := by
  rw [run, h, Option.bind_eq_bind, Option.bind_some]
  dsimp only
  cases run next rest <;> simp

/-- The dollar sign and the opening brace of an expansion, read in front of any text: what remains
to be read is the name and whatever closes it. -/
theorem run_expansionChars_append {place : Place} {isQuoted : Bool}
    (hplace : place.inQuotes? = some isQuoted) (name : String) (rest : List Char) :
    run place (expansionChars name ++ rest) =
      run (.inBraces isQuoted []) (name.toList ++ '\x7d' :: rest) := by
  have hopen : step (.afterDollar isQuoted) '\x7b' = some ([], .inBraces isQuoted []) := rfl
  have hdollar : step place '$' = some ([], .afterDollar isQuoted) := by
    cases place with
    | outside | inDouble =>
      cases hplace
      rfl
    | inSingle | inComment | afterDollar | inBraces | inName => cases hplace
  rw [expansionChars, List.cons_append, List.cons_append, run_cons_of_step hdollar,
    run_cons_of_step hopen, List.append_assoc, List.singleton_append]

/-- An expansion is read as that of its variable, and what comes after it as if it were not there,
exactly if the variable is an identifier. -/
theorem run_expansion_iff {place : Place} {isQuoted : Bool}
    (hplace : place.inQuotes? = some isQuoted) (r : Reference) (rest : List Char)
    (marks : List Mark) (last : Place) :
    run place (r.expansion.toList ++ rest) = some (.expansion isQuoted r.var :: marks, last) ↔
      isIdentifier r.var = true ∧ run (.around isQuoted) rest = some (marks, last) := by
  rw [toList_expansion]
  constructor
  · intro h
    rw [run_expansionChars_append hplace] at h
    obtain ⟨more, rest', hsplit, hident, hname, hrun⟩ := run_inBraces_eq_some h
    -- the name that was read is the whole name, so the brace is the one that closes it
    rw [List.nil_append] at hident hname
    injection hname with _ hname
    have hmore : more = r.var.toList := by
      rw [hname, String.toList_ofList]
    subst hmore
    obtain ⟨-, rfl⟩ := List.cons.inj (List.append_cancel_left hsplit)
    exact ⟨hident, hrun⟩
  · rintro ⟨hident, hrun⟩
    have hhere := run_expansionChars isQuoted hident
    have hsame : run place (expansionChars r.var ++ rest) =
        run (.around isQuoted) (expansionChars r.var ++ rest) := by
      have haround : (Place.around isQuoted).inQuotes? = some isQuoted := by
        cases isQuoted <;> rfl
      rw [run_expansionChars_append hplace, run_expansionChars_append haround]
    rw [hsame]
    exact run_trans hhere hrun

/-- **How references are expanded.** A reference is written as its variable in braces, and the
variable is an identifier, except that of an environment variable with a name that is none. Exactly
then the expansion is that of one variable and nothing else, outside of quotes and in double quotes,
whatever text comes after it. So an assignment expands the variables of the references in its value
and no others, if all the environment variables among them have names that are identifiers. -/
theorem reference_expansions :
    (∀ r : Reference, expansion (.reference r) = .ok ("$\x7b" ++ r.var ++ "\x7d")
      ∧ (isIdentifier r.var = true ↔ ∀ name, r = .envVar name → isIdentifier name = true)
      ∧ ∀ (place : Place) (isQuoted : Bool), place.inQuotes? = some isQuoted →
          ∀ (rest : List Char) (marks : List Mark) (last : Place),
            run place (r.expansion.toList ++ rest) =
                some (.expansion isQuoted r.var :: marks, last) ↔
              isIdentifier r.var = true ∧ run (.around isQuoted) rest = some (marks, last))
    ∧ ∀ (var : String) (v : Value) (line : String), isIdentifier var = true →
        v.HasVariableNames → assignment var v = .ok line →
        ∃ word, commands? line = some [.assignment var word]
          ∧ word.expanded = variablesOf v := by
  refine ⟨fun r => ⟨rfl, isIdentifier_var_iff, fun _ _ hplace => run_expansion_iff hplace r⟩, ?_⟩
  intro var v line hvar hnames h
  obtain ⟨word, hcommands, -, hexpanded⟩ := exists_commands?_assignment hvar hnames h
  exact ⟨word, hcommands, hexpanded⟩

/-- A text that needs quotes, and the output of a step with a brace in its name. -/
def quotedTargets : Value := .list [.text "a b", .reference (.stepOutput "build\x7dapp" "tag-name")]

/-- A step name with a closing brace in it, which would end its expansion early if it were written
as it is: the variable has an underscore there, and the assignment expands just that variable. -/
theorem reference_expansions_targets :
    run .inDouble
        ((Reference.stepOutput "build\x7dapp" "tag-name").expansion.toList ++ "\x7d\"".toList) =
        some ([.expansion true "STEP_OUTPUT_build_app_tag_name", .quoted '\x7d', .quote],
          .outside false)
    ∧ ∃ line word, assignment "INPUT_targets" quotedTargets = .ok line
        ∧ commands? line = some [.assignment "INPUT_targets" word]
        ∧ word.expanded = ["STEP_OUTPUT_build_app_tag_name"] := by
  constructor
  · exact ((reference_expansions.1 (.stepOutput "build\x7dapp" "tag-name")).2.2 .inDouble true rfl _ _
      _).mpr ⟨by decide, rfl⟩
  · have hnames : quotedTargets.HasVariableNames := by
      intro name hname
      simp [quotedTargets, Value.leaves] at hname
    obtain ⟨word, hcommands, hexpanded⟩ :=
      reference_expansions.2 "INPUT_targets" quotedTargets _ (by decide) hnames rfl
    exact ⟨_, word, rfl, hcommands, hexpanded⟩

/-- The name of an environment variable may hold an operator and a command. -/
theorem expansion_of_default_operator :
    expansion (.reference (.envVar "TAG:-$(date)")) = .ok "$\x7bTAG:-$(date)\x7d"
    ∧ ¬ ∃ name, isIdentifier name = true
        ∧ expansion (.reference (.envVar "TAG:-$(date)")) = .ok ("$\x7b" ++ name ++ "\x7d") := by
  refine ⟨rfl, ?_⟩
  rintro ⟨name, hname, h⟩
  have hsame : "$\x7b" ++ "TAG:-$(date)" ++ "\x7d" = "$\x7b" ++ name ++ "\x7d" := Except.ok.inj h
  have hfront := (String.append_left_inj "\x7d").mp hsame
  obtain rfl := (String.append_right_inj "$\x7b").mp hfront
  exact absurd hname (by decide)

end Shell

end ShellFlow
