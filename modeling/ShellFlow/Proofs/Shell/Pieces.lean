import ShellFlow.Proofs.Shell.Assignment

/-!
# Assignments taken apart

The text of an assignment does not tell an expansion that stands for a reference from one that a
text happens to spell. So the text is made once more, of pieces that say what they are: text from
somewhere else, or the expansion of a reference.

* **`Piece`**, **`assignedPieces`** — the right-hand side of an assignment, in pieces.
* **`assignedWord_eq_assemble`** — the pieces make the text of the right-hand side, and fail where
  that fails.
* **`references_assignedPieces`** — the references in the pieces are those in the value, in order.
-/

namespace ShellFlow

def Value.reference? : Value → Option Reference
  | .reference r => some r
  | _ => none

/-- The references in a value, from left to right. -/
def Value.references (v : Value) : List Reference := v.leaves.filterMap reference?

namespace Shell

/-- A part of a text that is written for a value. -/
inductive Piece where
  | literal (s : String)
  | expansion (isQuoted : Bool) (r : Reference)

namespace Piece

def text : Piece → String
  | .literal s => s
  | .expansion isQuoted r => referenceWord isQuoted r

def reference? : Piece → Option Reference
  | .literal _ => none
  | .expansion _ r => some r

def assemble (pieces : List Piece) : String := String.join (pieces.map text)

@[simp]
theorem assemble_nil : assemble [] = "" := rfl

@[simp]
theorem assemble_cons (p : Piece) (pieces : List Piece) :
    assemble (p :: pieces) = p.text ++ assemble pieces := by
  simp [assemble]

/-- Pieces that are set apart by a literal make the texts of the pieces with that literal in
between. -/
theorem assemble_intersperse (separator : String) (pieces : List Piece) :
    assemble (pieces.intersperse (.literal separator)) =
      separator.intercalate (pieces.map text) := by
  induction pieces with
  | nil => rfl
  | cons p rest ih =>
    cases rest with
    | nil => simp [text]
    | cons next more =>
      rw [List.intersperse_cons_cons, assemble_cons, assemble_cons, ih]
      simp [text, String.append_assoc]

/-- Literal text between the pieces adds no reference and keeps the order of those that are
there. -/
theorem references_intersperse (separator : String) (pieces : List Piece) :
    (pieces.intersperse (.literal separator)).filterMap reference? =
      pieces.filterMap reference? := by
  induction pieces with
  | nil => rfl
  | cons p rest ih =>
    cases rest with
    | nil => rfl
    | cons next more =>
      rw [List.intersperse_cons_cons]
      simp only [List.filterMap_cons, ih, reference?]

end Piece

/-- The piece for a leaf of a mixed list. -/
def leafPiece (leaf : Value) : Except Failure Piece :=
  match leaf with
  | .reference r => .ok (.expansion true r)
  | leaf => (leafWord leaf).map .literal

/-- The right-hand side of an assignment, in pieces. -/
def assignedPieces (value : Value) : Except Failure (List Piece) :=
  match value with
  | .reference r => .ok [.expansion false r]
  | _ =>
    if value.containsReference then
      (value.leaves.mapM leafPiece).map (·.intersperse (.literal "' '"))
    else (toShell false value).map fun s => [.literal (quote s)]

theorem leafWord_reference (r : Reference) :
    leafWord (.reference r) = .ok (referenceWord true r) := by
  have hne : (referenceWord true r).isEmpty = false := by
    simp [referenceWord]
  show Except.ok (if (referenceWord true r).isEmpty then "''" else referenceWord true r) = _
  rw [hne]
  rfl

/-- The word of a leaf is the text of its piece. The piece also remembers which reference the text
came from, which the text alone does not show. -/
theorem leafWord_eq_piece (leaf : Value) : leafWord leaf = (leafPiece leaf).map Piece.text := by
  have hliteral : ∀ word : Except Failure String,
      word = (word.map Piece.literal).map Piece.text := by
    intro word
    cases word <;> rfl
  cases leaf with
  | reference r => exact leafWord_reference r
  | null | bool _ | int _ | float _ | text _ | list _ | tuple _ | mapping _ | path _ | bytes _
  | object _ _ | struct _ _ _ | noDefault => exact hliteral _

/-- The same of all leaves of a list; both fail at the same leaf. -/
theorem leafWords_eq_pieces (leaves : List Value) :
    leaves.mapM leafWord = (leaves.mapM leafPiece).map (List.map Piece.text) := by
  induction leaves with
  | nil => rfl
  | cons leaf rest ih =>
    rw [List.mapM_cons, List.mapM_cons, ih, leafWord_eq_piece]
    cases leafPiece leaf with
    | error e => rfl
    | ok p => cases rest.mapM leafPiece <;> rfl

/-- The pieces of a value that is not a reference itself, by whether there is a reference in it. -/
theorem assignedPieces_of_not_reference {v : Value} (h : ∀ r, v ≠ .reference r) :
    assignedPieces v =
      if v.containsReference then
        (v.leaves.mapM leafPiece).map (·.intersperse (.literal "' '"))
      else (toShell false v).map fun s => [.literal (quote s)] := by
  unfold assignedPieces
  split
  · rename_i r
    exact absurd rfl (h r)
  · rfl

/-- **The word of a value is what its pieces assemble to.** What is shown about pieces is therefore
shown about the text that is written. -/
theorem assignedWord_eq_assemble (v : Value) :
    assignedWord v = (assignedPieces v).map Piece.assemble := by
  unfold assignedWord
  split
  · simp [assignedPieces, Except.map, Piece.text, referenceWord]
  · rename_i hnot
    rw [assignedPieces_of_not_reference hnot]
    split
    · rw [leafWords_eq_pieces]
      cases v.leaves.mapM leafPiece with
      | error e => rfl
      | ok pieces => exact congrArg Except.ok (Piece.assemble_intersperse "' '" pieces).symm
    · cases toShell false v with
      | error e => rfl
      | ok s => simp [Except.map, bind, Except.bind, Piece.text]

/-- The piece of a leaf holds the reference that the leaf is, if it is one. -/
theorem reference?_leafPiece {leaf : Value} {p : Piece} (h : leafPiece leaf = .ok p) :
    p.reference? = leaf.reference? := by
  unfold leafPiece at h
  split at h
  · cases h
    rfl
  · rename_i hnot
    obtain ⟨word, -, rfl⟩ := Success.map_eq_ok.mp h
    cases leaf with
    | reference r => exact absurd rfl (hnot r)
    | _ => rfl

/-- The pieces of the leaves hold the references of the leaves, in order. -/
theorem references_leafPieces {leaves : List Value} {pieces : List Piece}
    (h : leaves.mapM leafPiece = .ok pieces) :
    pieces.filterMap Piece.reference? = leaves.filterMap Value.reference? := by
  induction leaves generalizing pieces with
  | nil =>
    cases h
    rfl
  | cons leaf rest ih =>
    obtain ⟨p, more, hp, hmore, rfl⟩ := Success.mapM_cons_eq_ok.mp h
    rw [List.filterMap_cons, List.filterMap_cons, ih hmore, reference?_leafPiece hp]

/-- The variables of a value are those of its references, in order and with repetitions. -/
theorem variablesOf_eq_map (v : Value) : variablesOf v = v.references.map Reference.var := by
  unfold variablesOf Value.references
  rw [List.map_filterMap]
  congr 1
  funext leaf
  cases leaf <;> rfl

theorem references_eq_nil {v : Value} (h : v.containsReference = false) : v.references = [] := by
  rw [← List.map_eq_nil_iff (f := Reference.var), ← variablesOf_eq_map]
  exact variablesOf_of_not_containsReference h

/-- **The pieces of a value hold its references**, in the order in which they stand in the value,
each as often as it stands there. -/
theorem references_assignedPieces {v : Value} {pieces : List Piece}
    (h : assignedPieces v = .ok pieces) : pieces.filterMap Piece.reference? = v.references := by
  unfold assignedPieces at h
  split at h
  · cases h
    rfl
  · split at h
    · -- the blanks between the leaves are literal
      obtain ⟨separate, hseparate, rfl⟩ := Success.map_eq_ok.mp h
      rw [Piece.references_intersperse, references_leafPieces hseparate, Value.references]
    · -- the whole text is literal, and no leaf of the value is a reference
      rename_i hcontains
      obtain ⟨s, -, rfl⟩ := Success.map_eq_ok.mp h
      rw [references_eq_nil (Bool.eq_false_iff.mpr hcontains)]
      rfl

/-- An assignment that comes about is made of pieces. -/
theorem exists_pieces_of_assignment {var line : String} {v : Value}
    (h : assignment var v = .ok line) :
    ∃ pieces, assignedPieces v = .ok pieces ∧ line = var ++ "=" ++ Piece.assemble pieces := by
  obtain ⟨s, hs, hline⟩ := Success.bind_eq_ok.mp h
  injection hline with hline
  subst line
  rw [assignedWord_eq_assemble] at hs
  obtain ⟨pieces, hpieces, rfl⟩ := Success.map_eq_ok.mp hs
  exact ⟨pieces, hpieces, rfl⟩

end Shell

end ShellFlow
