import ShellFlow.Proofs.Job.SharedVariables
import ShellFlow.ReadyMade

/-!
# Names that are accepted

Input, output and field names become part of a shell variable as they are, so they are checked where
they are declared. What the check accepts is a little more than the identifiers: a newline may stand
behind one. Such a name is no part of a variable, and sanitizing changes it.

* **`IsName`** — what a name should be, in terms of its characters.
* **`IsAccepted`** — what is accepted.
* **`checkNames_eq_ok_iff`**, **`checkNames_eq_error_iff`** — the check of a list of names.
* **`isAccepted_of_define`** — names in actions and job templates, and fields of a file.
* **`declaredNames_accepted`** — all of it, with what sanitizing does to an accepted name.
-/

namespace ShellFlow

/-! ## One name -/

/-- A text of ASCII letters, digits and underscores, with at least one of them and no digit in
front. -/
structure IsName (s : String) : Prop where
  ne_empty : s ≠ ""
  chars : ∀ c ∈ s.toList, c.isAlphanum = true ∨ c = '_'
  front : ∀ c, s.toList.head? = some c → c.isDigit = false

/-- A name, or a name with a newline behind it. -/
def IsAccepted (s : String) : Prop := IsName s ∨ ∃ name, IsName name ∧ s = name ++ "\n"

/-- The characters of a name, told by the library's own classes of ASCII characters. -/
theorem isIdentChar_iff {c : Char} : isIdentChar c = true ↔ c.isAlphanum = true ∨ c = '_' := by
  simp [isIdentChar]

/-- An identifier character may stand in front unless it is a digit. -/
theorem isIdentStart_iff {c : Char} :
    isIdentStart c = true ↔ isIdentChar c = true ∧ c.isDigit = false := by
  -- no letter is a digit, by the codes
  have hdisjoint : c.isAlpha = true → c.isDigit = false := by
    have hupper : c.isUpper = decide ('A'.val ≤ c.val ∧ c.val ≤ 'Z'.val) := rfl
    have hlower : c.isLower = (decide ('a'.val ≤ c.val) && decide (c.val ≤ 'z'.val)) := rfl
    have halpha : c.isAlpha = (c.isUpper || c.isLower) := rfl
    have hA : 'A'.val.toNat = 65 := rfl
    have ha : 'a'.val.toNat = 97 := rfl
    have h9 : '9'.val.toNat = 57 := rfl
    simp only [halpha, hupper, hlower, Char.isDigit, Bool.or_eq_true, Bool.and_eq_true,
      decide_eq_true_eq, Bool.and_eq_false_iff, decide_eq_false_iff_not, ge_iff_le,
      UInt32.le_iff_toNat_le]
    omega
  simp only [isIdentStart, isIdentChar, Char.isAlphanum, Bool.or_eq_true, beq_iff_eq]
  constructor
  · -- a letter or the underscore
    rintro (halpha | rfl)
    · exact ⟨Or.inl (Or.inl halpha), hdisjoint halpha⟩
    · exact ⟨Or.inr rfl, by decide⟩
  · rintro ⟨(halpha | hdigit) | hunderscore, hfront⟩
    · exact Or.inl halpha
    · rw [hfront] at hdigit
      cases hdigit
    · exact Or.inr hunderscore

/-- The test for identifiers, told by `IsName`: what later proofs need of an identifier is one of
the three parts. -/
theorem isIdentifier_iff_isName (s : String) : isIdentifier s = true ↔ IsName s := by
  rw [isIdentifier_iff]
  constructor
  · rintro ⟨c, rest, hlist, hc, hrest⟩
    obtain ⟨hchar, hdigit⟩ := isIdentStart_iff.mp hc
    refine ⟨?_, ?_, ?_⟩
    · rintro rfl
      cases hlist
    · rw [hlist]
      exact List.forall_mem_cons.mpr
        ⟨isIdentChar_iff.mp hchar, fun d hd => isIdentChar_iff.mp (hrest d hd)⟩
    · rw [hlist]
      rintro d ⟨⟩
      exact hdigit
  · rintro ⟨hne, hchars, hfront⟩
    cases hlist : s.toList with
    | nil => exact absurd (String.toList_eq_nil_iff.mp hlist) hne
    | cons c rest =>
      rw [hlist] at hchars hfront
      obtain ⟨hc, hrest⟩ := List.forall_mem_cons.mp hchars
      exact ⟨c, rest, rfl, isIdentStart_iff.mpr ⟨isIdentChar_iff.mpr hc, hfront c rfl⟩,
        fun d hd => isIdentChar_iff.mpr (hrest d hd)⟩

/-- The test that a definition makes accepts the identifiers, and an identifier with one newline
after it: the pattern ends with a mark that also stands before a last newline. -/
theorem isShellName_iff_isAccepted (s : String) : isShellName s = true ↔ IsAccepted s := by
  rw [isShellName_iff]
  simp only [isIdentifier_iff_isName]
  rfl

/-! ## Lists of names -/

def Value.IsAcceptedName (v : Value) : Prop := ∃ s, v = .text s ∧ IsAccepted s

def Value.IsProperName (v : Value) : Prop := ∃ s, v = .text s ∧ IsName s

/-- Every proper name is accepted, so what is said of accepted names holds of the names that are
meant to be written. -/
theorem Value.IsProperName.isAcceptedName {v : Value} (h : v.IsProperName) : v.IsAcceptedName := by
  obtain ⟨s, hs, hname⟩ := h
  exact ⟨s, hs, Or.inl hname⟩

def checkName (owner what : Label) : Value → Except Failure String
  | .text s => if isShellName s then .ok s else .error (.invalidName owner (.text s) what)
  | v => .error (.invalidName owner (.text v.display) what)

/-- A list of names is checked name by name, and the first that is refused is the one that is
reported. -/
theorem checkNames_eq_mapM (owner what : Label) (names : List Value) :
    checkNames owner names what = names.mapM (checkName owner what) := rfl

/-- Only texts are accepted, and they are passed on as they are. -/
theorem checkName_eq_ok_iff {owner what : Label} {v : Value} {s : String} :
    checkName owner what v = .ok s ↔ v = .text s ∧ IsAccepted s := by
  cases v with
  | text t =>
    rw [checkName, ← isShellName_iff_isAccepted]
    by_cases ht : isShellName t = true
    · rw [if_pos ht]
      constructor
      · rintro ⟨⟩
        exact ⟨rfl, ht⟩
      · rintro ⟨⟨⟩, -⟩
        rfl
    · rw [if_neg ht]
      refine iff_of_false nofun ?_
      rintro ⟨⟨⟩, hs⟩
      exact ht hs
  | null | bool _ | int _ | float _ | list _ | tuple _ | mapping _ | path _ | bytes _
  | object _ _ | struct _ _ _ | noDefault | reference _ =>
    exact iff_of_false nofun fun h => nomatch h.1

/-- A name that is refused is reported as it is displayed, whatever kind of value it is. -/
theorem checkName_eq_error_iff {owner what : Label} {v : Value} {e : Failure} :
    checkName owner what v = .error e ↔
      ¬ v.IsAcceptedName ∧ e = .invalidName owner (.text v.display) what := by
  have hother : (∀ s, v ≠ .text s) → (¬ v.IsAcceptedName) := by
    rintro h ⟨s, rfl, -⟩
    exact h s rfl
  cases v with
  | text t =>
    have haccepted : (Value.text t).IsAcceptedName ↔ isShellName t = true := by
      rw [isShellName_iff_isAccepted]
      constructor
      · rintro ⟨s, ⟨⟩, hs⟩
        exact hs
      · exact fun h => ⟨t, rfl, h⟩
    rw [checkName, haccepted]
    by_cases ht : isShellName t = true
    · rw [if_pos ht]
      exact iff_of_false nofun fun h => h.1 ht
    · rw [if_neg ht]
      constructor
      · rintro ⟨⟩
        exact ⟨ht, rfl⟩
      · rintro ⟨-, rfl⟩
        rfl
  -- what is no text is never accepted
  | null | bool _ | int _ | float _ | list _ | tuple _ | mapping _ | path _ | bytes _
  | object _ _ | struct _ _ _ | noDefault | reference _ =>
    constructor
    · rintro ⟨⟩
      exact ⟨hother nofun, rfl⟩
    · rintro ⟨-, rfl⟩
      rfl

/-- A list of names is accepted exactly if every one of them is. -/
theorem checkNames_eq_ok_iff {owner what : Label} {names : List Value} {texts : List String} :
    checkNames owner names what = .ok texts ↔
      names = texts.map .text ∧ ∀ s ∈ texts, IsAccepted s := by
  rw [checkNames_eq_mapM]
  induction names generalizing texts with
  | nil => cases texts <;> simp [pure, Except.pure]
  | cons v rest ih =>
    rw [Success.mapM_cons_eq_ok]
    constructor
    · rintro ⟨s, more, hs, hmore, rfl⟩
      obtain ⟨rfl, haccepted⟩ := checkName_eq_ok_iff.mp hs
      obtain ⟨rfl, hall⟩ := ih.mp hmore
      exact ⟨rfl, List.forall_mem_cons.mpr ⟨haccepted, hall⟩⟩
    · rintro ⟨hnames, hall⟩
      cases texts with
      | nil => cases hnames
      | cons s more =>
        cases hnames
        obtain ⟨hs, hmore⟩ := List.forall_mem_cons.mp hall
        exact ⟨s, more, checkName_eq_ok_iff.mpr ⟨rfl, hs⟩, ih.mpr ⟨rfl, hmore⟩, rfl⟩

/-- The first name that is not accepted is refused, shown as a text. -/
theorem checkNames_eq_error_iff {owner what : Label} {names : List Value} {e : Failure} :
    checkNames owner names what = .error e ↔ ∃ before v after, names = before ++ v :: after
      ∧ (∀ u ∈ before, u.IsAcceptedName) ∧ ¬ v.IsAcceptedName
      ∧ e = .invalidName owner (.text v.display) what := by
  have hpassed : ∀ u : Value, (∃ s, checkName owner what u = .ok s) ↔ u.IsAcceptedName := fun u =>
    exists_congr fun s => checkName_eq_ok_iff
  rw [checkNames_eq_mapM, Success.mapM_eq_error]
  simp only [hpassed, checkName_eq_error_iff]

/-- A list of names is accepted if each of them is: there is no condition on two of them
together. -/
theorem exists_checkNames_eq_ok_iff (owner what : Label) (names : List Value) :
    (∃ texts, checkNames owner names what = .ok texts) ↔ ∀ v ∈ names, v.IsAcceptedName := by
  constructor
  · rintro ⟨texts, h⟩ v hv
    obtain ⟨rfl, hall⟩ := checkNames_eq_ok_iff.mp h
    obtain ⟨s, hs, rfl⟩ := List.mem_map.mp hv
    exact ⟨s, rfl, hall s hs⟩
  · intro hall
    cases h : checkNames owner names what with
    | ok texts => exact ⟨texts, rfl⟩
    | error e =>
      obtain ⟨before, v, after, rfl, -, hv, -⟩ := checkNames_eq_error_iff.mp h
      exact absurd (hall v (List.mem_append_right _ List.mem_cons_self)) hv

/-! ## Declared names -/

/-- The names of a list that was accepted; `isAccepted_of_define` and the two lemmas after it say
for which definitions the list is checked. -/
theorem isAccepted_of_checkNames {owner what : Label} {names : List String} {texts : List String}
    (h : checkNames owner (names.map .text) what = .ok texts) : ∀ s ∈ names, IsAccepted s := by
  obtain ⟨hnames, hall⟩ := checkNames_eq_ok_iff.mp h
  obtain rfl : names = texts := List.map_injective_iff.mpr (fun _ _ => Value.text.inj) hnames
  exact hall

/-- All inputs and outputs of an action that was defined have accepted names. -/
theorem isAccepted_of_define {name : Label} {run : Value} {inputs : Schema}
    {outputs packages : Value} {description : Label} {action : Action}
    (h : Action.define name run inputs outputs packages description = .ok action) :
    ∀ s ∈ action.inputs.keys ++ action.outputs, IsAccepted s := by
  have houtputs := Action.isShellName_of_define h
  unfold Action.define at h
  split at h
  · cases h
  · split at h
    · cases h
    · obtain ⟨_, _, h⟩ := Success.bind_eq_ok.mp h
      obtain ⟨_, hinputs, h⟩ := Success.bind_eq_ok.mp h
      obtain ⟨_, _, h⟩ := Success.bind_eq_ok.mp h
      obtain ⟨_, _, h⟩ := Success.bind_eq_ok.mp h
      cases h
      exact List.forall_mem_append.mpr ⟨isAccepted_of_checkNames hinputs,
        fun s hs => (isShellName_iff_isAccepted s).mp (houtputs s hs)⟩

/-- All env outputs of a job template that was defined have accepted names. -/
theorem isAccepted_of_defineJob {template template' : JobTemplate} {lists : JobTemplate.Lists}
    (h : template.define lists = .ok template') : ∀ s ∈ template'.envOutputs, IsAccepted s := by
  obtain ⟨-, ⟨_, -, hnames⟩, -⟩ := JobTemplate.define_eq_ok h
  exact (checkNames_eq_ok_iff.mp hnames).2

/-- The fields that are loaded from a file are outputs of an action, so their names are accepted. -/
theorem isAccepted_of_loadOutputs {file name : String} {fields : Schema} {carry : CarryChannel}
    {action : Action} (h : ReadyMade.loadOutputs file fields name carry = .ok action) :
    ∀ s ∈ fields.keys, IsAccepted s := by
  obtain ⟨_, hfields, -⟩ := Success.bind_eq_ok.mp h
  exact isAccepted_of_checkNames hfields

/-- Sanitizing leaves a proper name as it is. A newline at the end becomes an underscore, so the
variable of such a name is that of another one. -/
theorem sanitize_of_isAccepted {s : String} (h : IsAccepted s) :
    (IsName s ∧ sanitize s = s)
      ∨ ∃ name, IsName name ∧ s = name ++ "\n" ∧ sanitize s = name ++ "_" := by
  have hkeep : ∀ {t : String}, IsName t → sanitize t = t := fun {t} ht =>
    sanitize_of_isIdentifier ((isIdentifier_iff_isName t).mpr ht)
  rcases h with hname | ⟨name, hname, rfl⟩
  · exact Or.inl ⟨hname, hkeep hname⟩
  · have hnewline : sanitize "\n" = "_" := by decide
    exact Or.inr ⟨name, hname, rfl, by rw [sanitize_append, hkeep hname, hnewline]⟩

/-- **Which names are accepted.** A list of names passes the check exactly if every one is accepted,
and otherwise the first that is not is refused. So the check lets exactly the names pass, unless a
list is accepted that has a name with a newline behind it. Every input and output name of an action,
every env output name of a job template and every field that is read from a file is accepted: it is
a name, which sanitizing leaves as it is, or a name with a newline behind it, which sanitizing turns
into an underscore. -/
theorem declaredNames_accepted (owner what : Label) (names : List Value) :
    ((∃ texts, checkNames owner names what = .ok texts) ↔ ∀ v ∈ names, v.IsAcceptedName)
    ∧ (∀ e : Failure, checkNames owner names what = .error e ↔
        ∃ before v after, names = before ++ v :: after
          ∧ (∀ u ∈ before, u.IsAcceptedName) ∧ ¬ v.IsAcceptedName
          ∧ e = .invalidName owner (.text v.display) what)
    ∧ (((∃ texts, checkNames owner names what = .ok texts) ↔ ∀ v ∈ names, v.IsProperName) ↔
        ((∀ v ∈ names, v.IsAcceptedName) → ∀ v ∈ names, v.IsProperName))
    ∧ (∀ (name : Label) (run : Value) (inputs : Schema) (outputs packages : Value)
        (description : Label) (action : Action),
        Action.define name run inputs outputs packages description = .ok action →
          ∀ s ∈ action.inputs.keys ++ action.outputs, IsAccepted s)
    ∧ (∀ (template template' : JobTemplate) (lists : JobTemplate.Lists),
        template.define lists = .ok template' → ∀ s ∈ template'.envOutputs, IsAccepted s)
    ∧ (∀ (file name : String) (fields : Schema) (carry : CarryChannel) (action : Action),
        ReadyMade.loadOutputs file fields name carry = .ok action →
          ∀ s ∈ fields.keys, IsAccepted s)
    ∧ ∀ s, IsAccepted s → (IsName s ∧ sanitize s = s)
        ∨ ∃ name, IsName name ∧ s = name ++ "\n" ∧ sanitize s = name ++ "_" := by
  have hok := exists_checkNames_eq_ok_iff owner what names
  refine ⟨hok, fun _ => checkNames_eq_error_iff, ?_, fun _ _ _ _ _ _ _ => isAccepted_of_define,
    fun _ _ _ => isAccepted_of_defineJob, fun _ _ _ _ _ => isAccepted_of_loadOutputs,
    fun _ => sanitize_of_isAccepted⟩
  rw [hok]
  exact ⟨Iff.mp, fun h => ⟨h, fun hall v hv => (hall v hv).isAcceptedName⟩⟩

/-- Of some output names the second is refused, not the first, which has a newline behind it; alone
the first one passes. An action with that output is defined, and its name is changed where it is
sanitized. -/
theorem declaredNames_accepted_newline :
    checkNames (.text "deploy") [.text "tag\n", .text "2nd", .int 3] (.text "output") =
        .error (.invalidName (.text "deploy") (.text "2nd") (.text "output"))
    ∧ ¬ ((∃ texts, checkNames (.text "deploy") [.text "tag\n"] (.text "output") = .ok texts) ↔
        ∀ v ∈ [Value.text "tag\n"], v.IsProperName)
    ∧ ∃ action, Action.define (.text "deploy") (.text "") ∅ (.list [.text "tag\n"]) = .ok action
        ∧ "tag\n" ∈ action.outputs ∧ sanitize "tag\n" = "tag_" := by
  obtain ⟨-, herror, -, -, -, -, hsanitize⟩ := declaredNames_accepted (.text "deploy")
    (.text "output") [.text "tag\n", .text "2nd", .int 3]
  obtain ⟨-, -, hagrees, hdefine, -⟩ := declaredNames_accepted (.text "deploy") (.text "output")
    [.text "tag\n"]
  -- a newline is no character of names
  have hnone : ¬ IsName "tag\n" := fun hname =>
    absurd ((isIdentifier_iff_isName _).mpr hname) (by decide)
  obtain ⟨action, haction, hmem⟩ : ∃ action, Action.define (.text "deploy") (.text "") ∅
      (.list [.text "tag\n"]) = .ok action ∧ "tag\n" ∈ action.outputs :=
    ⟨_, rfl, List.mem_singleton_self _⟩
  have haccepted : IsAccepted "tag\n" :=
    hdefine _ _ _ _ _ _ _ haction "tag\n" (List.mem_append_right _ hmem)
  refine ⟨(herror _).mpr ⟨[.text "tag\n"], .text "2nd", [.int 3], rfl, ?_, ?_, rfl⟩, fun h => ?_,
    action, haction, hmem, ?_⟩
  · exact List.forall_mem_singleton.mpr ⟨_, rfl, haccepted⟩
  · rintro ⟨s, hs, hname⟩
    cases hs
    exact absurd ((isShellName_iff_isAccepted _).mpr hname) (by decide)
  · obtain ⟨s, hs, hname⟩ := hagrees.mp h (List.forall_mem_singleton.mpr ⟨_, rfl, haccepted⟩) _
      List.mem_cons_self
    cases hs
    exact hnone hname
  · rcases hsanitize "tag\n" haccepted with ⟨hname, -⟩ | ⟨name, -, hsame, hname⟩
    · exact absurd hname hnone
    · have hfront : "tag" ++ "\n" = name ++ "\n" := hsame
      obtain rfl : "tag" = name := (String.append_left_inj "\n").mp hfront
      exact hname

end ShellFlow
