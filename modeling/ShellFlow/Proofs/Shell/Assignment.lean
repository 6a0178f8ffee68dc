import ShellFlow.Proofs.Leaves
import ShellFlow.Proofs.Shell.Spelling
import ShellFlow.Proofs.Success
import ShellFlow.Proofs.Variables
import ShellFlow.Shell.Word

/-!
# Values in assignments

The right-hand side of an assignment is one word. In every environment it stands for the text of the
value: the value of the variable for a reference, the raw text of a literal, and the texts of the
leaves with one blank between them for a list that has references in it. The variables it expands
are those of the references in it, in order.

* **`valueText`**, **`variablesOf`** — what the word of a value has to stand for, said without
  quoting.
* **`exists_spells_leafWord`** — one leaf.
* **`exists_spells_leaves`** — the leaves with a quoted blank between them, by induction on them.
* **`exists_spells_assignedWord`** — all values.
* **`exists_commands?_assignment`** — the assignment of a value, as a command.
-/

namespace ShellFlow

/-! ## Numbers

The texts of truth values and numbers need no quotes. -/

namespace Shell

theorem isSafe_of_isDigit {c : Char} (h : c.isDigit = true) : isSafe c = true := by
  simp [isSafe, Char.isAlphanum, h]

theorem isSafe_of_mem_toDigits {n : Nat} : ∀ c ∈ Nat.toDigits 10 n, isSafe c = true :=
  fun _ hc => isSafe_of_isDigit (Nat.isDigit_of_mem_toDigits (by decide) (by decide) hc)

/-- The text of an integer needs no quotes: a sign, which is a safe character, and digits. -/
theorem isSafe_of_mem_intText (i : Int) : ∀ c ∈ (toString i).toList, isSafe c = true := by
  rw [Int.toString_eq_repr, Int.repr_eq_if]
  split
  · rw [Nat.toList_repr]
    exact isSafe_of_mem_toDigits
  · rw [String.toList_append, Nat.toList_repr]
    intro c hc
    rcases List.mem_append.mp hc with hsign | hdigit
    · have hall : ∀ d ∈ "-".toList, isSafe d = true := List.all_eq_true.mp (by decide)
      exact hall c hsign
    · exact isSafe_of_mem_toDigits c hdigit

theorem isSafe_of_mem_replicate_zero {n : Nat} : ∀ c ∈ List.replicate n '0', isSafe c = true := by
  intro c hc
  rw [List.eq_of_mem_replicate hc]
  decide

open Decimal in
/-- A decimal written with its point in place needs no quotes if its digits need none: what is put
beside them is zeros and the point. -/
theorem isSafe_of_mem_positional {digits : List Char} (h : ∀ c ∈ digits, isSafe c = true)
    (whole : Int) : ∀ c ∈ Layout.positional digits whole, isSafe c = true := by
  have hzero : isSafe '0' = true := by decide
  have hpoint : isSafe '.' = true := by decide
  unfold Layout.positional
  split
  · simp only [List.forall_mem_cons, List.forall_mem_append]
    exact ⟨hzero, hpoint, isSafe_of_mem_replicate_zero, h⟩
  · dsimp only
    split
    · simp only [List.forall_mem_cons, List.forall_mem_append]
      exact ⟨⟨h, isSafe_of_mem_replicate_zero⟩, hpoint, hzero, by simp⟩
    · simp only [List.forall_mem_cons, List.forall_mem_append]
      exact ⟨fun c hc => h c (List.mem_of_mem_take hc), hpoint,
        fun c hc => h c (List.mem_of_mem_drop hc)⟩

open Decimal in
/-- A decimal written with an exponent needs no quotes if its digits need none: what is put beside
them is the point, the letter of the exponent and its sign and digits. -/
theorem isSafe_of_mem_scientific (layout : Layout) {digits : List Char}
    (h : ∀ c ∈ digits, isSafe c = true) (e : Int) :
    ∀ c ∈ layout.scientific digits e, isSafe c = true := by
  have hexponent : ∀ c ∈ layout.exponentText e, isSafe c = true := by
    unfold Layout.exponentText Layout.padZeros
    simp only [List.forall_mem_cons, List.forall_mem_append]
    refine ⟨?_, isSafe_of_mem_replicate_zero, isSafe_of_mem_toDigits⟩
    split <;> decide
  have he : isSafe 'e' = true := by decide
  have hpoint : isSafe '.' = true := by decide
  match digits, h with
  | [], _ => simp [Layout.scientific]
  | [d], h =>
    simp only [Layout.scientific, List.forall_mem_cons]
    exact ⟨h d List.mem_cons_self, he, hexponent⟩
  | d :: d' :: rest, h =>
    simp only [Layout.scientific, List.forall_mem_cons, List.forall_mem_append]
    simp only [List.forall_mem_cons] at h
    exact ⟨h.1, hpoint, h.2, he, hexponent⟩

open Decimal in
/-- The text of a floating-point number needs no quotes, in every layout whose names for the special
numbers need none. The cases are those of `Layout.write`. -/
theorem isSafe_of_mem_write {layout : Layout} (hnan : layout.nan.toList.all isSafe = true)
    (hinfinity : layout.infinity.toList.all isSafe = true)
    (hnegative : layout.negativeInfinity.toList.all isSafe = true) (x : Binary64) :
    ∀ c ∈ (layout.write x).toList, isSafe c = true := by
  cases x with
  | nan payload => exact List.all_eq_true.mp hnan
  | infinity negative =>
    cases negative
    · exact List.all_eq_true.mp hinfinity
    · exact List.all_eq_true.mp hnegative
  | finite negative m e =>
    have hdigits : ∀ c ∈ (if m = 0 then ['0', '.', '0']
        else layout.writeDigits (shortest m e)), isSafe c = true := by
      split
      · exact List.all_eq_true.mp (by decide)
      · unfold Layout.writeDigits
        dsimp only
        split
        · exact isSafe_of_mem_positional isSafe_of_mem_toDigits _
        · exact isSafe_of_mem_scientific _ isSafe_of_mem_toDigits _
    have hsign : isSafe '-' = true := by decide
    unfold Layout.write
    dsimp only
    rw [String.toList_ofList]
    cases negative
    · exact hdigits
    · exact List.forall_mem_cons.mpr ⟨hsign, hdigits⟩

/-- The layout of the shell texts has plain names (`nan`, `inf`), so its numbers are safe as
well. -/
theorem isSafe_of_mem_floatText (x : Binary64) :
    ∀ c ∈ (Value.floatLayout.write x).toList, isSafe c = true :=
  isSafe_of_mem_write (by decide) (by decide) (by decide) x

end Shell

/-! ## What a word has to stand for -/

namespace Value

/-- Every environment variable that a value refers to, at any depth of lists and tuples, has a name
that the shell takes for one. -/
def HasVariableNames (v : Value) : Prop :=
  ∀ name, Value.reference (.envVar name) ∈ v.leaves → isIdentifier name = true

end Value

namespace Shell

/-- The text of a leaf in an environment: the value of the variable of a reference, and the raw text
of anything else. -/
def leafText (env : String → String) : Value → Except Failure String
  | .reference r => .ok (env r.var)
  | leaf => toShell false leaf

def valueText (env : String → String) (v : Value) : Except Failure String :=
  match v with
  | .reference r => .ok (env r.var)
  | _ =>
    if v.containsReference then (v.leaves.mapM (leafText env)).map (" ".intercalate ·)
    else toShell false v

def leafVariable? : Value → Option String
  | .reference r => some r.var
  | _ => none

/-- The variables of the references in a value, from left to right. -/
def variablesOf (v : Value) : List String := v.leaves.filterMap leafVariable?

/-! ## Leaves -/

/-- A text of safe characters, put down without quotes, is one word that stands for that text and
expands nothing. -/
theorem exists_spells_of_safe {s : String} (h : ∀ c ∈ s.toList, isSafe c = true) :
    ∃ word, Spells s.toList word ∧ (∀ env, word.text env = s) ∧ word.expanded = [] := by
  refine ⟨_, spells_of_safe h, ?_, by simp⟩
  intro env
  simp [Word.text]

/-- A quoted text is one word that stands for the text and expands nothing, whatever characters the
text has. -/
theorem exists_spells_quote (s : String) :
    ∃ word, Spells (quote s).toList word ∧ (∀ env, word.text env = s) ∧ word.expanded = [] := by
  obtain ⟨word, hspells, hchars, hvars⟩ := exists_spells_quoteChars s.toList
  refine ⟨word, by simpa [quote] using hspells, ?_, hvars⟩
  intro env
  simp [Word.text, hchars env]

/-- The expansion of a reference, letter by letter: the name of its variable in braces. -/
theorem toList_expansion (r : Reference) : r.expansion.toList = expansionChars r.var := by
  simp [Reference.expansion, expansionChars]

/-- The quoted text of a leaf stands for the text of the leaf and expands its variable, if it has
one. -/
theorem exists_spells_toShell {leaf : Value} {s : String} (hseq : leaf.isSequence = false)
    (hname : ∀ r, leaf = .reference r → isIdentifier r.var = true)
    (h : toShell true leaf = .ok s) :
    ∃ word, Spells s.toList word ∧ (∀ env, leafText env leaf = .ok (word.text env))
      ∧ word.expanded = (leafVariable? leaf).toList := by
  cases leaf with
  | list items => cases hseq
  | tuple items => cases hseq
  | reference r =>
    simp only [toShell, Except.ok.injEq] at h
    subst s
    refine ⟨[.quote, .expansion true r.var, .quote], ?_, ?_, ?_⟩
    · have hspells := Spells.quotedExpansion r.var (hname r rfl) Spells.nil
      simpa [referenceWord, toList_expansion] using hspells
    · intro env
      simp [leafText, Word.text, Mark.chars]
    · simp [Mark.expanded?, leafVariable?]
  -- quoted, whatever is in it
  | text t | path t =>
    simp only [toShell, textWord, if_true, Except.ok.injEq] at h
    subst s
    obtain ⟨word, hspells, htext, hvars⟩ := exists_spells_quote t
    exact ⟨word, hspells, fun env => by simp [leafText, toShell, textWord, htext env], hvars⟩
  | null =>
    simp only [toShell, Except.ok.injEq] at h
    subst s
    exact ⟨[], .nil, fun env => rfl, rfl⟩
  -- the texts of truth values and numbers are safe, so nothing is put around them
  | bool b =>
    have hs : ∀ c ∈ s.toList, isSafe c = true := by
      cases b <;> simp only [toShell, Except.ok.injEq] at h <;> subst s <;>
        exact List.all_eq_true.mp (by decide)
    obtain ⟨word, hspells, htext, hvars⟩ := exists_spells_of_safe hs
    refine ⟨word, hspells, fun env => ?_, hvars⟩
    cases b <;> simp only [toShell, Except.ok.injEq] at h <;> simp [leafText, toShell, htext env, h]
  | int i =>
    simp only [toShell, Except.ok.injEq] at h
    subst s
    obtain ⟨word, hspells, htext, hvars⟩ := exists_spells_of_safe (isSafe_of_mem_intText i)
    exact ⟨word, hspells, fun env => by simp only [leafText, toShell, htext env], hvars⟩
  | float x =>
    simp only [toShell, Except.ok.injEq] at h
    subst s
    obtain ⟨word, hspells, htext, hvars⟩ := exists_spells_of_safe (isSafe_of_mem_floatText x)
    exact ⟨word, hspells, fun env => by simp only [leafText, toShell, htext env], hvars⟩
  | mapping _ | bytes _ | object _ _ | struct _ _ _ | noDefault => simp [toShell] at h

/-- The word of a leaf in a mixed list: an empty text becomes a pair of quotes, which stands for the
empty text too. -/
theorem exists_spells_leafWord {leaf : Value} {s : String} (hseq : leaf.isSequence = false)
    (hname : ∀ r, leaf = .reference r → isIdentifier r.var = true) (h : leafWord leaf = .ok s) :
    ∃ word, Spells s.toList word ∧ (∀ env, leafText env leaf = .ok (word.text env))
      ∧ word.expanded = (leafVariable? leaf).toList := by
  obtain ⟨raw, hraw, hs⟩ := Success.bind_eq_ok.mp h
  obtain ⟨word, hspells, htext, hvars⟩ := exists_spells_toShell hseq hname hraw
  injection hs with hs
  subst hs
  split
  · rename_i hempty
    have hnil : raw.toList = [] := by simpa using hempty
    rw [hnil] at hspells
    cases hspells
    exact ⟨_, Spells.single [] (by simp) .nil, htext, hvars⟩
  · exact ⟨word, hspells, htext, hvars⟩

/-! ## Whole values

Three forms of values are written in three ways: a reference alone, a list with references, and
anything else. -/

/-- The words of some leaves with a quoted blank between each two of them are one word, which stands
for the texts of the leaves with a blank between them. Induction on the leaves. -/
theorem exists_spells_leaves {leaves : List Value} {words : List String}
    (hseq : ∀ leaf ∈ leaves, leaf.isSequence = false)
    (hname : ∀ r, Value.reference r ∈ leaves → isIdentifier r.var = true)
    (h : leaves.mapM leafWord = .ok words) :
    ∃ word, Spells ("' '".intercalate words).toList word
      ∧ (∀ env, (leaves.mapM (leafText env)).map (" ".intercalate ·) = .ok (word.text env))
      ∧ word.expanded = leaves.filterMap leafVariable? := by
  induction leaves generalizing words with
  | nil =>
    cases h
    exact ⟨[], .nil, fun env => rfl, rfl⟩
  | cons leaf rest ih =>
    obtain ⟨s, ws, hs, hws, rfl⟩ := Success.mapM_cons_eq_ok.mp h
    obtain ⟨first, hfirst, hfirstText, hfirstVars⟩ := exists_spells_leafWord
      (hseq leaf List.mem_cons_self) (fun r hr => hname r (hr ▸ List.mem_cons_self)) hs
    obtain ⟨later, hlater, hlaterText, hlaterVars⟩ := ih
      (fun l hl => hseq l (List.mem_cons_of_mem _ hl))
      (fun r hr => hname r (List.mem_cons_of_mem _ hr)) hws
    have hvars : first.expanded ++ later.expanded = (leaf :: rest).filterMap leafVariable? := by
      rw [hfirstVars, hlaterVars]
      cases hleaf : leafVariable? leaf <;> simp [hleaf]
    cases rest with
    | nil =>
      cases hws
      refine ⟨first, by simpa using hfirst, ?_, ?_⟩
      · intro env
        have hone : [leaf].mapM (leafText env) = .ok [first.text env] :=
          Success.mapM_cons_eq_ok.mpr ⟨_, [], hfirstText env, rfl, rfl⟩
        rw [hone]
        rfl
      · rw [hfirstVars]
        cases hleaf : leafVariable? leaf <;> simp [hleaf]
    | cons next more =>
      obtain ⟨s', ws', _, _, rfl⟩ := Success.mapM_cons_eq_ok.mp hws
      -- the quoted blank joins the two words to one
      have hblank : Spells ('\'' :: ([' '] ++ '\'' :: _)) _ :=
        Spells.single [' '] (by decide) hlater
      refine ⟨first ++ .quote :: .quoted ' ' :: .quote :: later, ?_, ?_, ?_⟩
      · have hall := hfirst.append hblank
        simpa [String.intercalate_cons_cons] using hall
      · intro env
        obtain ⟨texts, htexts, hjoined⟩ := Success.map_eq_ok.mp (hlaterText env)
        obtain ⟨t, ts, _, _, rfl⟩ := Success.mapM_cons_eq_ok.mp htexts
        rw [Success.mapM_cons_eq_ok.mpr ⟨_, _, hfirstText env, htexts, rfl⟩]
        simp only [Except.map, String.intercalate_cons_cons, Except.ok.injEq]
        rw [hjoined]
        simp [Word.text, Mark.chars, String.append_assoc]
      · rw [← hvars]
        simp [Mark.expanded?]

/-- What the word of a value has to stand for, when the value is not a reference itself: the texts
of its leaves with blanks between them if there is a reference among them, and its own text
otherwise. -/
theorem valueText_of_not_reference {v : Value} (h : ∀ r, v ≠ .reference r)
    (env : String → String) :
    valueText env v =
      if v.containsReference then (v.leaves.mapM (leafText env)).map (" ".intercalate ·)
      else toShell false v := by
  unfold valueText
  split
  · rename_i r
    exact absurd rfl (h r)
  · rfl

theorem variablesOf_of_not_containsReference {v : Value} (h : v.containsReference = false) :
    variablesOf v = [] := by
  unfold Value.containsReference at h
  rw [List.any_eq_false] at h
  refine List.filterMap_eq_nil_iff.mpr fun leaf hleaf => ?_
  have hnot := h leaf hleaf
  cases leaf with
  | reference r => exact absurd rfl hnot
  | _ => rfl

/-- The word of a value stands for the text of the value in every environment, and expands the
variables of the references in it. -/
theorem exists_spells_assignedWord {v : Value} {s : String} (hname : v.HasVariableNames)
    (h : assignedWord v = .ok s) :
    ∃ word, Spells s.toList word ∧ (∀ env, valueText env v = .ok (word.text env))
      ∧ word.expanded = variablesOf v := by
  have hvar : ∀ r, Value.reference r ∈ v.leaves → isIdentifier r.var = true := fun r hr =>
    isIdentifier_var fun name hr' => hname name (hr' ▸ hr)
  unfold assignedWord at h
  split at h
  · -- a single reference, without quotes
    rename_i r
    injection h with h
    subst s
    refine ⟨[.expansion false r.var], ?_, ?_, ?_⟩
    · have hspells := Spells.expansion r.var (hvar r (by simp [Value.leaves])) Spells.nil
      simpa [toList_expansion] using hspells
    · intro env
      simp [valueText, Word.text, Mark.chars]
    · simp [Mark.expanded?, variablesOf, Value.leaves, leafVariable?]
  · rename_i hnot
    have hvalue := valueText_of_not_reference fun r hr => hnot r hr
    split at h
    · -- the leaves one by one, with quoted blanks between them
      rename_i hcontains
      obtain ⟨words, hwords, hs⟩ := Success.bind_eq_ok.mp h
      injection hs with hs
      subst s
      obtain ⟨word, hspells, htext, hvars⟩ :=
        exists_spells_leaves v.isSequence_of_mem_leaves hvar hwords
      refine ⟨word, hspells, fun env => ?_, hvars⟩
      rw [hvalue, if_pos hcontains]
      exact htext env
    · -- the raw text, quoted as a whole
      rename_i hcontains
      obtain ⟨raw, hraw, hs⟩ := Success.bind_eq_ok.mp h
      injection hs with hs
      subst s
      obtain ⟨word, hspells, htext, hvars⟩ := exists_spells_quote raw
      refine ⟨word, hspells, fun env => ?_, ?_⟩
      · rw [hvalue, if_neg hcontains, hraw, htext env]
      · rw [hvars, variablesOf_of_not_containsReference (Bool.eq_false_iff.mpr hcontains)]

/-! ## Assignments -/

/-- The assignment of a value is one line: the variable, an equals sign, and the word of the value. -/
theorem exists_readsLine_assignment {var line : String} {v : Value} (hvar : isIdentifier var = true)
    (hname : v.HasVariableNames) (h : assignment var v = .ok line) :
    ∃ word : Word, ReadsLine line.toList (var.toList.map .bare ++ .bare '=' :: word)
      ∧ (∀ env, valueText env v = .ok (word.text env)) ∧ word.expanded = variablesOf v := by
  obtain ⟨s, hs, hline⟩ := Success.bind_eq_ok.mp h
  injection hline with hline
  subst line
  obtain ⟨word, hspells, htext, hvars⟩ := exists_spells_assignedWord hname hs
  refine ⟨word, ?_, htext, hvars⟩
  have hspellsVar : Spells var.toList (var.toList.map .bare) :=
    spells_of_safe fun c hc => isSafe_of_isIdentChar (isIdentChar_of_mem_identifier hvar c hc)
  have hequals : isSafe '=' = true := by decide
  have hall := hspellsVar.append (Spells.safe '=' hequals hspells)
  have hline : (var ++ "=" ++ s).toList = var.toList ++ '=' :: s.toList := by
    simp
  rw [hline]
  -- a line is a word if its first character needs no quotes, and that is the first of the variable
  obtain ⟨c, rest, hhead, hc, -⟩ := (isIdentifier_iff var).mp hvar
  rw [hhead, List.map_cons, List.cons_append, List.cons_append] at hall ⊢
  exact ReadsLine.word (isSafe_of_isIdentChar (isIdentChar_of_isIdentStart hc)) hall

/-- The assignment of a value is one command. -/
theorem exists_commands?_assignment {var line : String} {v : Value} (hvar : isIdentifier var = true)
    (hname : v.HasVariableNames) (h : assignment var v = .ok line) :
    ∃ word : Word, commands? line = some [.assignment var word]
      ∧ (∀ env, valueText env v = .ok (word.text env)) ∧ word.expanded = variablesOf v := by
  obtain ⟨word, hreads, htext, hvars⟩ := exists_readsLine_assignment hvar hname h
  let row : List Char × Word := (line.toList, var.toList.map .bare ++ .bare '=' :: word)
  have hscript : line.toList = ['\n'].intercalate ([row].map Prod.fst) := by
    simp [row]
  have hcommands := commands?_of_lines hscript (by simpa [row] using hreads)
  have hnonempty : ([row].map Prod.snd).filter (fun word => !word.isEmpty) = [row.2] := by
    simp [row]
  rw [hnonempty, List.map_singleton, ofWords_assignment hvar] at hcommands
  exact ⟨word, hcommands, htext, hvars⟩

end Shell

end ShellFlow
