import ShellFlow.Proofs.Json.PlainData
import ShellFlow.Proofs.Shell.Words
import ShellFlow.Text.ControlSequence

/-!
# The characters of JSON text

JSON text holds newlines, if it is indented, and otherwise no control characters: those in its texts
are written in other words. So it also holds no control sequence that a terminal would obey.

* **`isPrinted_renderAt`** — the characters of the text of plain data.
* **`withoutSequences_render`** — the text is the same with its control sequences taken out.
-/

namespace ShellFlow.Json

/-- A newline, or no control character. -/
def isPrinted (c : Char) : Bool := c = '\n' || 32 ≤ c.toNat

def IsPrintedText (s : String) : Prop := ∀ c ∈ s.toList, isPrinted c = true

section Texts

variable {s s' : String}

/-- Whether a closed text is printed can be computed. -/
theorem isPrintedText_of_all (h : s.toList.all isPrinted = true) : IsPrintedText s :=
  List.all_eq_true.mp h

theorem IsPrintedText.append (h : IsPrintedText s) (h' : IsPrintedText s') :
    IsPrintedText (s ++ s') := by
  intro c hc
  rw [String.toList_append, List.mem_append] at hc
  exact hc.elim (h c) (h' c)

/-- Printed texts can be put together with a printed separator, by induction on the texts. -/
theorem IsPrintedText.intercalate {texts : List String} (h : IsPrintedText s)
    (htexts : ∀ text ∈ texts, IsPrintedText text) : IsPrintedText (s.intercalate texts) := by
  rw [IsPrintedText, String.toList_intercalate]
  refine Shell.forall_mem_intercalate h fun cs hcs => ?_
  obtain ⟨text, htext, rfl⟩ := List.mem_map.mp hcs
  exact htexts text htext

/-- What a shell takes as it is needs no escape in JSON either. -/
theorem isPrintedText_of_isSafe (h : ∀ c ∈ s.toList, Shell.isSafe c = true) : IsPrintedText s := by
  intro c hc
  have hsafe := h c hc
  have hcontrol : ∀ n < 32, Shell.isSafe (Char.ofNat n) = false := by decide
  by_contra hnot
  have hlow : c.toNat < 32 := by
    simp only [isPrinted, Bool.or_eq_true, decide_eq_true_eq, not_or] at hnot
    omega
  rw [← Char.ofNat_toNat c, hcontrol c.toNat hlow] at hsafe
  cases hsafe

/-- Whatever the character is, what stands for it in a text is printed: control characters are
written with a backslash, and this is the case that keeps control sequences out. -/
theorem isPrinted_escapeChar (c : Char) : ∀ d ∈ escapeChar c, isPrinted d = true := by
  by_cases hlow : c.toNat < 32
  · -- the control characters one by one
    have hcontrol : ∀ n < 32, (escapeChar (Char.ofNat n)).all isPrinted = true := by decide
    rw [← Char.ofNat_toNat c]
    exact List.all_eq_true.mp (hcontrol c.toNat hlow)
  · have hc : isPrinted c = true := by
      simp only [isPrinted, Bool.or_eq_true, decide_eq_true_eq]
      omega
    unfold escapeChar
    split_ifs
    · exact List.forall_mem_cons.mpr ⟨by decide, List.forall_mem_singleton.mpr hc⟩
    all_goals first
      | exact List.all_eq_true.mp (by decide)
      | exact List.forall_mem_singleton.mpr hc

/-- A text in quotes is printed, whatever it holds. -/
theorem isPrintedText_quoted (s : String) : IsPrintedText (quoted s) := by
  intro c hc
  rw [quoted, String.toList_ofList, List.mem_cons, List.mem_append, List.mem_flatMap] at hc
  rcases hc with rfl | ⟨d, -, hc⟩ | hc
  · decide
  · exact isPrinted_escapeChar d c hc
  · rw [List.mem_singleton.mp hc]
    decide

end Texts

/-! ## Plain data -/

theorem renderItems_eq_map (style : Style) (depth : Nat) (items : List Json) :
    renderItems style depth items = items.map (renderAt style depth) := by
  induction items with
  | nil => rfl
  | cons item rest ih => rw [renderItems, ih, List.map_cons]

/-- The fields of an object are written one by one, each after its name. -/
theorem renderFields_eq_map (style : Style) (depth : Nat) (fields : List (String × Json)) :
    renderFields style depth fields =
      fields.map fun f => quoted f.1 ++ style.colon ++ renderAt style depth f.2 := by
  induction fields with
  | nil => rfl
  | cons f rest ih =>
    obtain ⟨key, value⟩ := f
    rw [renderFields, ih, List.map_cons]

/-- What sets the parts apart. -/
structure Style.IsPrinted (style : Style) : Prop where
  lineBreak (depth : Nat) : IsPrintedText (style.lineBreak depth)
  colon : IsPrintedText style.colon

/-- The separators of both styles are printed. -/
theorem Style.isPrinted_ofWidth (indent : Option Nat) : (Style.ofWidth indent).IsPrinted := by
  cases indent with
  | none =>
    have hnothing : IsPrintedText "" := isPrintedText_of_all (by decide)
    have hcolon : IsPrintedText ":" := isPrintedText_of_all (by decide)
    exact ⟨fun _ => hnothing, hcolon⟩
  | some width =>
    have hcolon : IsPrintedText ": " := isPrintedText_of_all (by decide)
    refine ⟨fun depth c hc => ?_, hcolon⟩
    rw [Style.ofWidth, Style.indented, String.toList_ofList, List.mem_cons] at hc
    rcases hc with rfl | hc
    · decide
    · rw [List.eq_of_mem_replicate hc]
      decide

/-- Parts between two brackets are printed if the parts and the brackets are. -/
theorem isPrintedText_enclose {style : Style} (hstyle : style.IsPrinted) (depth : Nat)
    {opening closing : String} (hopening : IsPrintedText opening) (hclosing : IsPrintedText closing)
    {parts : List String} (hparts : ∀ part ∈ parts, IsPrintedText part) :
    IsPrintedText (enclose style depth opening closing parts) := by
  unfold enclose
  split
  · exact hopening.append hclosing
  · have hcomma : IsPrintedText "," := List.all_eq_true.mp (by decide)
    refine ((hopening.append (hcomma.intercalate fun text htext => ?_)).append
      (hstyle.lineBreak depth)).append hclosing
    obtain ⟨part, hpart, rfl⟩ := List.mem_map.mp htext
    exact (hstyle.lineBreak (depth + 1)).append (hparts part hpart)

/-- Induction on what is in a container. -/
theorem isPrinted_renderAt {style : Style} (hstyle : style.IsPrinted) (j : Json) :
    ∀ depth, IsPrintedText (j.renderAt style depth) := by
  induction j using containerInduction with
  | array items ih =>
    intro depth
    rw [renderAt, renderItems_eq_map]
    refine isPrintedText_enclose hstyle depth (isPrintedText_of_all (by decide))
      (isPrintedText_of_all (by decide)) fun part hpart => ?_
    obtain ⟨item, hitem, rfl⟩ := List.mem_map.mp hpart
    exact ih item hitem (depth + 1)
  | object fields ih =>
    intro depth
    rw [renderAt, renderFields_eq_map]
    refine isPrintedText_enclose hstyle depth (isPrintedText_of_all (by decide))
      (isPrintedText_of_all (by decide)) fun part hpart => ?_
    obtain ⟨f, hf, rfl⟩ := List.mem_map.mp hpart
    exact ((isPrintedText_quoted f.1).append hstyle.colon).append (ih f hf (depth + 1))
  | null =>
    intro depth
    show IsPrintedText "null"
    exact isPrintedText_of_all (by decide)
  | bool b =>
    intro depth
    cases b with
    | false =>
      show IsPrintedText "false"
      exact isPrintedText_of_all (by decide)
    | true =>
      show IsPrintedText "true"
      exact isPrintedText_of_all (by decide)
  -- numbers are made of characters that not even a shell would need quotes for
  | int i => exact fun depth => isPrintedText_of_isSafe (Shell.isSafe_of_mem_intText i)
  | float x =>
    exact fun depth => isPrintedText_of_isSafe
      (Shell.isSafe_of_mem_write (by decide) (by decide) (by decide) x)
  | text s => exact fun depth => isPrintedText_quoted s

/-- So nothing of a document is taken out where text goes to no terminal: it holds no escape
character, with which a control sequence begins. -/
theorem withoutSequences_render (indent : Option Nat) (j : Json) :
    Text.withoutSequences (j.render indent) = j.render indent := by
  have hescape : Text.escape ∉ (j.render indent).toList := by
    intro hmem
    have hprinted := isPrinted_renderAt (Style.isPrinted_ofWidth indent) j 0 _ hmem
    exact absurd hprinted (by decide)
  rw [Text.withoutSequences, Text.removeSequences_of_no_escape hescape, String.ofList_toList]

end ShellFlow.Json
