import ShellFlow.Proofs.Shell.Slots

/-!
# Lists with references and lists without

There are two ways to write a list in an assignment. One that has a reference in it goes leaf by
leaf, with quoted blanks in between; any other is rendered with all the lists in it and then quoted
as a whole. To compare them, fill the references of a list in, each with the text of its variable:
what was written in the first way is now written in the second. The texts should be the same. They
are, unless there is an empty list or tuple somewhere: the first way has no leaf for it, where the
second has the empty text between its blanks.

* **`Value.filledIn`** — the value without references.
* **`Value.IsSupported`** — the values that have a shell text.
* **`valueText_eq_leaves`**, **`toShell_filledIn`** — the text of either way.
* **`assignment_filledIn`** — both assignments, and when they assign the same.
-/

namespace ShellFlow

namespace Value

/-! ## References filled in -/

mutual

/-- The value with the texts of their variables in the place of all references in it. -/
def filledIn (env : String → String) : Value → Value
  | .reference r => .text (env r.var)
  | .list items => .list (filledInItems env items)
  | .tuple items => .tuple (filledInItems env items)
  | v => v
termination_by structural v => v

def filledInItems (env : String → String) : List Value → List Value
  | [] => []
  | item :: rest => filledIn env item :: filledInItems env rest
termination_by structural items => items

end

variable (env : String → String)

theorem filledInItems_eq_map (items : List Value) :
    filledInItems env items = items.map (filledIn env) := by
  induction items with
  | nil => rfl
  | cons item rest ih => rw [filledInItems, ih, List.map_cons]

@[simp]
theorem filledIn_list (items : List Value) :
    (list items).filledIn env = .list (items.map (filledIn env)) := by
  rw [filledIn, filledInItems_eq_map]

@[simp]
theorem filledIn_tuple (items : List Value) :
    (tuple items).filledIn env = .tuple (items.map (filledIn env)) := by
  rw [filledIn, filledInItems_eq_map]

/-- Filling in the references keeps the shape: a list stays a list, and a leaf stays a leaf. -/
theorem isSequence_filledIn (v : Value) : (v.filledIn env).isSequence = v.isSequence := by
  cases v <;> rfl

/-- The leaves of a value that was filled in are its leaves, each filled in. Induction on the
nesting of lists; a leaf stays one leaf by `isSequence_filledIn`. -/
theorem leaves_filledIn (v : Value) : (v.filledIn env).leaves = v.leaves.map (filledIn env) := by
  induction v using sequenceInduction with
  | list items ih | tuple items ih =>
    simp only [filledIn_list, filledIn_tuple, leaves_list, leaves_tuple, List.flatMap_map,
      List.map_flatMap]
    exact List.flatMap_congr ih
  | leaf v h =>
    rw [leaves_of_not_isSequence h, leaves_of_not_isSequence ((isSequence_filledIn env v).trans h)]
    rfl

/-- The slots of a value that was filled in are its slots, each filled in. -/
theorem slots_filledIn (v : Value) : (v.filledIn env).slots = v.slots.map (filledIn env) := by
  induction v using sequenceInduction with
  | list items ih | tuple items ih =>
    cases items with
    | nil => rfl
    | cons item rest =>
      have hitems := List.flatMap_congr ih
      simpa [List.flatMap_map, List.map_flatMap] using hitems
  | leaf v h =>
    rw [slots_of_not_isSequence h, slots_of_not_isSequence ((isSequence_filledIn env v).trans h)]
    rfl

theorem isReference_filledIn (v : Value) : (v.filledIn env).isReference = false := by
  cases v <;> rfl

/-- There is no reference left anywhere in a value that was filled in, so its assignment is written
on the path for literals. -/
theorem containsReference_filledIn (v : Value) : (v.filledIn env).containsReference = false := by
  unfold containsReference
  rw [leaves_filledIn, List.any_map, List.any_eq_false]
  intro leaf _
  simp [isReference_filledIn]

/-- With no reference left, no name is left that might be no identifier. -/
theorem hasVariableNames_filledIn (v : Value) : (v.filledIn env).HasVariableNames := by
  intro name hname
  rw [leaves_filledIn, List.mem_map] at hname
  obtain ⟨leaf, -, hleaf⟩ := hname
  have hreference := isReference_filledIn env leaf
  rw [hleaf] at hreference
  cases hreference

/-! ## Values with a text -/

/-- True of a leaf of a kind that has a shell text. -/
def hasShellText : Value → Bool
  | .null | .bool _ | .int _ | .float _ | .text _ | .path _ | .reference _ => true
  | _ => false

/-- All leaves of the value are of kinds that have a shell text. -/
def IsSupported (v : Value) : Prop := ∀ leaf ∈ v.leaves, leaf.hasShellText = true

end Value

namespace Shell

open Value

variable {env : String → String} {v : Value}

/-- The text of a leaf in an environment, empty if it has none. -/
def textOfLeaf (env : String → String) (leaf : Value) : String :=
  match leafText env leaf with
  | .ok s => s
  | .error _ => ""

theorem leafText_of_hasShellText {leaf : Value} (h : leaf.hasShellText = true) :
    leafText env leaf = .ok (textOfLeaf env leaf) := by
  unfold textOfLeaf
  cases leaf with
  | null | int _ | float _ | text _ | path _ | reference _ => rfl
  | bool b => cases b <;> rfl
  | list _ | tuple _ | mapping _ | bytes _ | object _ _ | struct _ _ _ | noDefault => cases h

/-- A leaf that was filled in is written as the text it had in the environment: this is where the
two paths meet, one leaf at a time. -/
theorem toShell_filledIn_leaf {leaf : Value} (h : leaf.hasShellText = true) :
    toShell false (leaf.filledIn env) = .ok (textOfLeaf env leaf) := by
  rw [← leafText_of_hasShellText h]
  cases leaf with
  | null | bool _ | int _ | float _ | text _ | path _ | reference _ => rfl
  | list _ | tuple _ | mapping _ | bytes _ | object _ _ | struct _ _ _ | noDefault => cases h

theorem exists_leafWord {leaf : Value} (h : leaf.hasShellText = true) :
    ∃ word, leafWord leaf = .ok word := by
  cases leaf with
  | null | int _ | float _ | text _ | path _ | reference _ => exact ⟨_, rfl⟩
  | bool b => cases b <;> exact ⟨_, rfl⟩
  | list _ | tuple _ | mapping _ | bytes _ | object _ _ | struct _ _ _ | noDefault => cases h

/-- The slots of a supported value all have shell texts: a slot is a leaf, or the absent value that
stands for an empty list. -/
theorem hasShellText_of_mem_slots (h : v.IsSupported) :
    ∀ slot ∈ v.slots, slot.hasShellText = true := by
  intro slot hslot
  -- an empty list stands for an absent value, which has a text
  rcases mem_leaves_of_mem_slots v slot hslot with rfl | hleaf
  · rfl
  · exact h slot hleaf

theorem exists_assignment (h : v.IsSupported) (href : v.containsReference = true) (var : String) :
    ∃ line, assignment var v = .ok line := by
  obtain ⟨words, hwords⟩ :=
    Success.exists_mapM_eq_ok fun leaf hleaf => exists_leafWord (h leaf hleaf)
  unfold assignment assignedWord
  split
  · exact ⟨_, rfl⟩
  · rw [if_pos href, hwords]
    exact ⟨_, rfl⟩

/-- With references in it, a value has the text of its leaves with blanks in between. -/
theorem valueText_eq_leaves (h : v.IsSupported) (href : v.containsReference = true) :
    valueText env v = .ok (" ".intercalate (v.leaves.map (textOfLeaf env))) := by
  have hleaves := Success.mapM_eq_ok_map fun leaf hleaf =>
    @leafText_of_hasShellText env leaf (h leaf hleaf)
  unfold valueText
  split
  · simp [leaves, textOfLeaf, leafText]
  · rw [if_pos href, hleaves]
    rfl

/-- Filled in, a value has the text of its slots with blanks in between. -/
theorem toShell_filledIn (h : v.IsSupported) :
    toShell false (v.filledIn env) = .ok (" ".intercalate (v.slots.map (textOfLeaf env))) := by
  have hslots := Success.mapM_eq_ok_map fun slot hslot =>
    @toShell_filledIn_leaf env slot (hasShellText_of_mem_slots h slot hslot)
  rw [toShell_eq_slots, slots_filledIn, joined, List.mapM_map]
  exact congrArg (Except.map (" ".intercalate ·)) hslots

/-- The text of a value that was filled in: one text for every slot, empty lists included, with
blanks between them. The environment no longer matters. -/
theorem valueText_filledIn (h : v.IsSupported) (env' : String → String) :
    valueText env' (v.filledIn env) = .ok (" ".intercalate (v.slots.map (textOfLeaf env))) := by
  have hnot : ∀ r, v.filledIn env ≠ .reference r := by
    intro r hr
    have hreference := isReference_filledIn env v
    rw [hr] at hreference
    cases hreference
  rw [valueText_of_not_reference hnot, containsReference_filledIn, if_neg (by decide),
    toShell_filledIn h]

/-- A supported value that was filled in has an assignment too, so that the two can be compared. -/
theorem exists_assignment_filledIn (h : v.IsSupported) (var : String) :
    ∃ line, assignment var (v.filledIn env) = .ok line := by
  unfold assignment assignedWord
  split
  · exact ⟨_, rfl⟩
  · rw [containsReference_filledIn, if_neg (by decide), toShell_filledIn h]
    exact ⟨_, rfl⟩

/-- **Lists with references against lists of literals.** A value with references is one assignment,
and so is the value with its references filled in from an environment. The latter assigns a text
that is longer, by one blank for each empty list or tuple in the value; without these the two assign
the same. The first text is put together from the leaves and the second from the slots, and
`length_intercalate_slots` compares the two. -/
theorem assignment_filledIn {var : String} (hvar : isIdentifier var = true) (h : v.IsSupported)
    (href : v.containsReference = true) (hname : v.HasVariableNames) :
    ∃ line word, assignment var v = .ok line ∧ commands? line = some [.assignment var word]
      ∧ ∀ env, ∃ line' word' text, assignment var (v.filledIn env) = .ok line'
          ∧ commands? line' = some [.assignment var word']
          ∧ (∀ env', word'.text env' = text)
          ∧ text.length = (word.text env).length + v.emptySequences
          ∧ (word.text env = text ↔ v.emptySequences = 0) := by
  obtain ⟨line, hline⟩ := exists_assignment h href var
  obtain ⟨word, hcommands, htext, -⟩ := exists_commands?_assignment hvar hname hline
  refine ⟨line, word, hline, hcommands, fun env => ?_⟩
  obtain ⟨line', hline'⟩ := @exists_assignment_filledIn env v h var
  obtain ⟨word', hcommands', htext', -⟩ :=
    exists_commands?_assignment hvar (hasVariableNames_filledIn env v) hline'
  -- the first text is that of the leaves and the second that of the slots
  have hword : word.text env = " ".intercalate (v.leaves.map (textOfLeaf env)) :=
    Except.ok.inj ((htext env).symm.trans (valueText_eq_leaves h href))
  have hword' : ∀ env', word'.text env' = " ".intercalate (v.slots.map (textOfLeaf env)) :=
    fun env' => Except.ok.inj ((htext' env').symm.trans (valueText_filledIn h env'))
  have hleaves : v.leaves ≠ [] := by
    intro hnil
    simp [containsReference, hnil] at href
  have hlength := @length_intercalate_slots (textOfLeaf env) rfl v hleaves
  refine ⟨line', word', _, hline', hcommands', hword', by rw [hword, hlength], ?_⟩
  rw [hword]
  constructor
  · intro heq
    rw [heq] at hlength
    omega
  · intro hnone
    rw [slots_eq_leaves hnone]

/-- A host that is known when the script runs, and an empty list of others. -/
def hostList : Value := .list [.reference (.envVar "HOST"), .list []]

/-- The empty list leaves nothing behind the host, and a blank behind the text of the host. -/
theorem assignment_filledIn_hosts :
    hostList.IsSupported ∧ hostList.containsReference = true ∧ hostList.HasVariableNames
    ∧ ∃ line word, assignment "HOSTS" hostList = .ok line
        ∧ commands? line = some [.assignment "HOSTS" word]
        ∧ ∀ env, ∃ line' word' text, assignment "HOSTS" (hostList.filledIn env) = .ok line'
            ∧ commands? line' = some [.assignment "HOSTS" word']
            ∧ (∀ env', word'.text env' = text)
            ∧ text.length = (word.text env).length + 1
            ∧ word.text env ≠ text := by
  have hleaves : hostList.leaves = [.reference (.envVar "HOST")] := rfl
  have hsupported : hostList.IsSupported := by
    simp [IsSupported, hleaves, hasShellText]
  have hname : hostList.HasVariableNames := by
    intro name hname
    rw [hleaves, List.mem_singleton] at hname
    cases hname
    decide
  obtain ⟨line, word, hline, hcommands, hfilled⟩ :=
    @assignment_filledIn hostList "HOSTS" (by decide) hsupported rfl hname
  refine ⟨hsupported, rfl, hname, line, word, hline, hcommands, fun env => ?_⟩
  obtain ⟨line', word', text, hline', hcommands', htext, hlength, hiff⟩ := hfilled env
  refine ⟨line', word', text, hline', hcommands', htext, hlength, fun heq => ?_⟩
  exact absurd (hiff.mp heq) (by decide)

end Shell

end ShellFlow
