import Mathlib.Data.List.Perm.Subperm
import ShellFlow.Proofs.Matrix.Expansion

/-!
# Clashes in a matrix

The name of a job puts a dash between the names and the values of its combination, and the variable of
a dimension is made of its sanitized name. Names and values may have dashes themselves, and names that
differ may sanitize alike. So two combinations may have one name, and then the job of the first of
them is lost; and two dimensions may have one variable, and then the value of the first is lost.

* **`jobName_eq`** — the name of a job is that of the matrix with a suffix.
* **`suffix_eq_iff`** — when two combinations have one suffix.
* **`not_runsInto_of_noneContinues`** — no two have one if no value goes on with a dash after another.
* **`size_eq_iff`** — there is a job for every combination if and only if no two names clash.
* **`holdsOwnValues_iff`** — a job has all its values if dimensions of one variable have one value.
* **`expandJobs_clashes`** — both for the jobs of a matrix.
-/

namespace ShellFlow.Matrix

/-! ## Names with two readings

The name of a job has the texts of its values with dashes in between, and a text may have dashes as
well. -/

/-- What a combination adds to the name of its job. -/
def suffix : Combination → String
  | [] => ""
  | (key, value) :: rest => "-" ++ key ++ "-" ++ value.display ++ suffix rest

/-- The values of a combination as they stand in the name. -/
def texts (c : Combination) : List String := c.map fun e => e.2.display

/-- Two combinations have one suffix and different values. In the first dimension in which they differ
the value of the second goes on after that of the first, with what begins the rest of the suffix of
the first. -/
inductive RunsInto : Combination → Combination → Prop
  | here {key more : String} {v v' : Value} {rest rest' : Combination} :
      more ≠ "" → v'.display = v.display ++ more → suffix rest = more ++ suffix rest' →
      RunsInto ((key, v) :: rest) ((key, v') :: rest')
  | later {key : String} {v v' : Value} {rest rest' : Combination} :
      v.display = v'.display → RunsInto rest rest' →
      RunsInto ((key, v) :: rest) ((key, v') :: rest')

/-- The name of a job is the name of the matrix with the suffix of the combination. -/
theorem jobName_eq (name : String) (c : Combination) : jobName name c = name ++ suffix c := by
  unfold jobName
  induction c generalizing name with
  | nil => simp [suffix]
  | cons e rest ih =>
    rw [List.map_cons, String.intercalate_cons_cons, ih, suffix]
    simp only [String.append_assoc]

/-- Two jobs of a matrix have one name if their combinations have one suffix. -/
theorem jobName_eq_iff {name : String} {c c' : Combination} :
    jobName name c = jobName name c' ↔ suffix c = suffix c' := by
  rw [jobName_eq, jobName_eq, String.append_right_inj]

/-- If two texts put together give the same as two others, one of the first parts goes on after the
other. -/
theorem append_eq_append {a b c d : String} (h : a ++ b = c ++ d) :
    (∃ more, c = a ++ more ∧ b = more ++ d) ∨ ∃ more, a = c ++ more ∧ d = more ++ b := by
  rw [← String.toList_inj, String.toList_append, String.toList_append] at h
  rcases List.append_eq_append_iff.mp h with ⟨more, hc, hb⟩ | ⟨more, ha, hd⟩
  · refine Or.inl ⟨String.ofList more, String.toList_inj.mp ?_, String.toList_inj.mp ?_⟩
    · simp [hc]
    · simp [hb]
  · refine Or.inr ⟨String.ofList more, String.toList_inj.mp ?_, String.toList_inj.mp ?_⟩
    · simp [ha]
    · simp [hd]

theorem suffix_cons (key : String) (v : Value) (rest : Combination) :
    suffix ((key, v) :: rest) = "-" ++ key ++ "-" ++ (v.display ++ suffix rest) := by
  rw [suffix, String.append_assoc]

/-- In the first dimension the key is the same for both, so the text from the value on decides. -/
theorem suffix_cons_eq_iff {key : String} {v v' : Value} {rest rest' : Combination} :
    suffix ((key, v) :: rest) = suffix ((key, v') :: rest') ↔
      v.display ++ suffix rest = v'.display ++ suffix rest' := by
  rw [suffix_cons, suffix_cons, String.append_right_inj]

/-- If a combination runs into another, they have one suffix. -/
theorem RunsInto.suffix_eq {c c' : Combination} (h : RunsInto c c') : suffix c = suffix c' := by
  induction h with
  | here _ hdisplay hrest => rw [suffix_cons_eq_iff, hdisplay, hrest, String.append_assoc]
  | later hdisplay _ ih => rw [suffix_cons_eq_iff, hdisplay, ih]

/-- If a combination runs into another, their values differ as texts. So this way of having one
suffix is another than having the same values. -/
theorem RunsInto.texts_ne {c c' : Combination} (h : RunsInto c c') : texts c ≠ texts c' := by
  intro htexts
  induction h with
  | @here _ more v v' _ _ hmore hdisplay _ =>
    have hsame : v.display = v'.display := (List.cons.inj htexts).1
    rw [← hsame] at hdisplay
    exact hmore (String.append_right_inj v.display |>.mp (by rw [← hdisplay, String.append_empty]))
  | later _ _ ih => exact ih (List.cons.inj htexts).2

/-- Two combinations of the same dimensions have one suffix if the values are the same as texts, or if
one of them runs into the other. Induction on the dimensions. -/
theorem suffix_eq_iff {dims : Dimensions} {is is' : List Nat} {c c' : Combination}
    (hc : Picks dims is c) (hc' : Picks dims is' c') :
    suffix c = suffix c' ↔ texts c = texts c' ∨ RunsInto c c' ∨ RunsInto c' c := by
  induction dims generalizing is is' c c' with
  | nil =>
    obtain ⟨-, rfl⟩ := picks_nil_iff.mp hc
    obtain ⟨-, rfl⟩ := picks_nil_iff.mp hc'
    exact iff_of_true rfl (Or.inl rfl)
  | cons dim dims ih =>
    obtain ⟨key, values⟩ := dim
    obtain ⟨_, v, _, rest, -, hrest, -, rfl⟩ := picks_cons_iff.mp hc
    obtain ⟨_, v', _, rest', -, hrest', -, rfl⟩ := picks_cons_iff.mp hc'
    have ih := ih hrest hrest'
    have htexts : texts ((key, v) :: rest) = texts ((key, v') :: rest') ↔
        v.display = v'.display ∧ texts rest = texts rest' := List.cons_eq_cons
    constructor
    · intro h
      -- with the same text in this dimension the rest decides
      have hsame : v.display = v'.display → suffix rest = suffix rest' →
          texts ((key, v) :: rest) = texts ((key, v') :: rest')
            ∨ RunsInto ((key, v) :: rest) ((key, v') :: rest')
            ∨ RunsInto ((key, v') :: rest') ((key, v) :: rest) := by
        intro hdisplay hsuffix
        rcases ih.mp hsuffix with htail | hruns | hruns
        · exact Or.inl (htexts.mpr ⟨hdisplay, htail⟩)
        · exact Or.inr (Or.inl (.later hdisplay hruns))
        · exact Or.inr (Or.inr (.later hdisplay.symm hruns))
      -- of the two texts one begins with the other
      rcases append_eq_append (suffix_cons_eq_iff.mp h) with
        ⟨more, hv', hsuffix⟩ | ⟨more, hv, hsuffix⟩
      · by_cases hmore : more = ""
        · rw [hmore, String.append_empty] at hv'
          rw [hmore, String.empty_append] at hsuffix
          exact hsame hv'.symm hsuffix
        · exact Or.inr (Or.inl (.here hmore hv' hsuffix))
      · by_cases hmore : more = ""
        · rw [hmore, String.append_empty] at hv
          rw [hmore, String.empty_append] at hsuffix
          exact hsame hv hsuffix.symm
        · exact Or.inr (Or.inr (.here hmore hv hsuffix))
    · rintro (h | hruns | hruns)
      · obtain ⟨hdisplay, htail⟩ := htexts.mp h
        rw [suffix_cons_eq_iff, hdisplay, ih.mpr (Or.inl htail)]
      · exact hruns.suffix_eq
      · exact hruns.suffix_eq.symm

/-! ## How many jobs there are -/

/-- In no dimension two values are the same as texts. -/
def HasDistinctTexts (dims : Dimensions) : Prop := ∀ dim ∈ dims, (dim.2.map Value.display).Nodup

/-- In no dimension the text of a value goes on with a dash after that of another. -/
def NoneContinues (dims : Dimensions) : Prop :=
  ∀ dim ∈ dims, ∀ v ∈ dim.2, ∀ v' ∈ dim.2, ∀ more, v'.display ≠ v.display ++ "-" ++ more

/-- If no dimension has equal texts, the texts of a combination say at which indices it was
picked. -/
theorem Picks.indices_eq {dims : Dimensions} {is is' : List Nat} {c c' : Combination}
    (hdims : HasDistinctTexts dims) (hc : Picks dims is c) (hc' : Picks dims is' c')
    (h : texts c = texts c') : is = is' := by
  induction hc generalizing is' c' with
  | nil => exact (picks_nil_iff.mp hc').1.symm
  | @cons key values v i rest is c hv _ ih =>
    obtain ⟨hvalues, hrest⟩ := List.forall_mem_cons.mp hdims
    obtain ⟨i', v', is', c', hv', hrest', rfl, rfl⟩ := picks_cons_iff.mp hc'
    obtain ⟨hdisplay, htexts⟩ := List.cons.inj h
    have hi : (values.map Value.display)[i]? = (values.map Value.display)[i']? := by
      rw [List.getElem?_map, List.getElem?_map, hv, hv']
      exact congrArg some hdisplay
    have hlt : i < (values.map Value.display).length := by
      rw [List.length_map]
      exact (List.getElem?_eq_some_iff.mp hv).1
    rw [(List.getElem?_inj hlt hvalues).mp hi, ih hrest hrest' htexts]

/-- Where one suffix goes on after another, it goes on with a dash, because every part of a suffix
begins with one. -/
theorem exists_dash_of_suffix {c c' : Combination} {more : String} (hmore : more ≠ "")
    (h : suffix c = more ++ suffix c') : ∃ rest, more = "-" ++ rest := by
  rw [← String.toList_inj, String.toList_append] at h
  cases hchars : more.toList with
  | nil => exact absurd (String.toList_eq_nil_iff.mp hchars) hmore
  | cons char chars =>
    rw [hchars] at h
    cases c with
    | nil => simp [suffix] at h
    | cons e rest =>
      -- a suffix that is not empty begins with a dash
      have hdash : '-' = char := by
        rw [suffix_cons] at h
        simp at h
        exact h.1
      refine ⟨String.ofList chars, String.toList_inj.mp ?_⟩
      rw [hchars, ← hdash]
      simp

/-- No combination runs into another if in no dimension a value goes on with a dash after another.
The condition looks at single dimensions and is easy to check. -/
theorem not_runsInto_of_noneContinues {dims : Dimensions} (hdims : NoneContinues dims)
    {is is' : List Nat} {c c' : Combination} (hc : Picks dims is c) (hc' : Picks dims is' c') :
    ¬ RunsInto c c' := by
  intro h
  induction hc generalizing is' c' with
  | nil => cases h
  | @cons key values v i rest is c hv _ ih =>
    obtain ⟨hvalues, hrest⟩ := List.forall_mem_cons.mp hdims
    obtain ⟨i', v', is', c', hv', hrest', rfl, rfl⟩ := picks_cons_iff.mp hc'
    cases h with
    | here hmore hdisplay hsuffix =>
      obtain ⟨tail, rfl⟩ := exists_dash_of_suffix hmore hsuffix
      refine hvalues v (List.mem_of_getElem? hv) v' (List.mem_of_getElem? hv') tail ?_
      rw [hdisplay, String.append_assoc]
    | later _ hruns => exact ih hrest hrest' hruns

variable {name : String} {template : OrderedMap String Value → Except Failure Job}
  {dims : Dimensions}

/-- The names of all combinations differ exactly if none runs into another. -/
theorem nodup_names_iff (hdims : HasDistinctTexts dims) :
    ((combinations dims).map (jobName name)).Nodup ↔
      ∀ is c is' c', Picks dims is c → Picks dims is' c' → ¬ RunsInto c c' := by
  rw [← map_snd_numbered, List.map_map, List.nodup_map_iff_inj_on (nodup_numbered dims)]
  constructor
  · intro h is c is' c' hc hc' hruns
    have heq : (is, c) = (is', c') := by
      refine h _ (mem_numbered_iff.mpr hc) _ (mem_numbered_iff.mpr hc') ?_
      exact jobName_eq_iff.mpr hruns.suffix_eq
    cases heq
    exact hruns.texts_ne rfl
  · rintro h ⟨is, c⟩ hx ⟨is', c'⟩ hy hname
    have hc := mem_numbered_iff.mp hx
    have hc' := mem_numbered_iff.mp hy
    rcases (suffix_eq_iff hc hc').mp (jobName_eq_iff.mp hname) with htexts | hruns | hruns
    · cases hc.indices_eq hdims hc' htexts
      rw [hc.unique hc']
    · exact absurd hruns (h is c is' c' hc hc')
    · exact absurd hruns (h is' c' is c hc' hc)

/-- Of two lists with the same items, one of them without repetitions, the other has as many items
exactly if it has no repetitions either. -/
theorem length_eq_iff_nodup {l l' : List String} (hl : l.Nodup) (hmem : ∀ a, a ∈ l ↔ a ∈ l') :
    l.length = l'.length ↔ l'.Nodup := by
  constructor
  · intro hlength
    have hsubperm : l.Subperm l' := hl.subperm fun a ha => (hmem a).mp ha
    exact (hsubperm.perm_of_length_le (Nat.le_of_eq hlength.symm)).nodup_iff.mp hl
  · intro hl'
    exact ((List.perm_ext_iff_of_nodup hl hl').mpr hmem).length_eq

/-- There are as many jobs as the sizes of the dimensions multiply to if and only if no combination
runs into another. -/
theorem size_eq_iff {jobs : OrderedMap String Job} (h : IsExpansion name dims template jobs)
    (hdims : HasDistinctTexts dims) :
    jobs.size = dims.foldr (fun dim n => dim.2.length * n) 1 ↔
      ∀ is c is' c', Picks dims is c → Picks dims is' c' → ¬ RunsInto c c' := by
  have hmem : ∀ key, key ∈ jobs.keys ↔ key ∈ (combinations dims).map (jobName name) := by
    intro key
    rw [h.mem_keys_iff, mem_names_iff]
  have hsize : jobs.size = jobs.keys.length := (List.length_map _).symm
  -- the names of all combinations, with repetitions, are as many as the combinations
  have hcount : ((combinations dims).map (jobName name)).length =
      dims.foldr (fun dim n => dim.2.length * n) 1 := by
    rw [List.length_map, length_combinations]
  rw [hsize, ← hcount]
  exact (length_eq_iff_nodup jobs.nodup_keys hmem).trans (nodup_names_iff hdims)

/-! ## What the variables hold -/

/-- The variable of every dimension holds the value that the combination has in it. -/
def HoldsOwnValues (c : Combination) (job : Job) : Prop :=
  ∀ e ∈ c, job.env.get? (Reference.matrix e.1).var = some (.text e.2.display)

/-- Dimensions whose names sanitize alike have values that are the same as texts. -/
def AlikeAgree (c : Combination) : Prop :=
  ∀ e ∈ c, ∀ e' ∈ c, sanitize e.1 = sanitize e'.1 → e.2.display = e'.2.display

/-- Among the dimensions that sanitize alike there is a last one. -/
theorem exists_isLastAlike {c : Combination} (hkeys : (c.map Prod.fst).Pairwise (· < ·)) {s : String}
    (h : ∃ e ∈ c, sanitize e.1 = s) : ∃ e, IsLastAlike c e ∧ sanitize e.1 = s := by
  induction c with
  | nil =>
    obtain ⟨e, he, -⟩ := h
    cases he
  | cons first rest ih =>
    rw [List.map_cons, List.pairwise_cons] at hkeys
    -- a later dimension has a greater name, so the first one counts only if no other is alike
    by_cases hrest : ∃ e ∈ rest, sanitize e.1 = s
    · obtain ⟨e, ⟨he, hlast⟩, hs⟩ := ih hkeys.2 hrest
      refine ⟨e, ⟨List.mem_cons_of_mem _ he, List.forall_mem_cons.mpr ⟨fun _ => ?_, hlast⟩⟩, hs⟩
      have hlt : first.1 < e.1 := hkeys.1 e.1 (List.mem_map_of_mem he)
      exact fun hgt => String.lt_irrefl _ (String.lt_trans hlt hgt)
    · obtain ⟨e, he, hs⟩ := h
      rcases List.mem_cons.mp he with rfl | he
      · refine ⟨e, ⟨List.mem_cons_self, List.forall_mem_cons.mpr ⟨fun _ => ?_, ?_⟩⟩, hs⟩
        · exact String.le_refl _
        · intro e' he' halike
          exact absurd ⟨e', he', halike.trans hs⟩ hrest
      · exact absurd ⟨e, he, hs⟩ hrest

/-- The variable of several dimensions holds the value of the last of them. So a job holds all
values of its combination exactly if such dimensions agree. -/
theorem holdsOwnValues_iff {key : String} {c : Combination} {built job : Job}
    (hkeys : (c.map Prod.fst).Pairwise (· < ·)) (h : IsPlaced key c built job) :
    HoldsOwnValues c job ↔ AlikeAgree c := by
  constructor
  · intro hown e he e' he' halike
    have hvar : matrixVar e.1 = matrixVar e'.1 := matrixVar_eq_iff.mpr halike
    have hvalue : some (Value.text e.2.display) = some (.text e'.2.display) :=
      (hown e he).symm.trans ((congrArg job.env.get? hvar).trans (hown e' he'))
    exact Value.text.inj (Option.some.inj hvalue)
  · intro hagree e he
    obtain ⟨e', hlast, halike⟩ := exists_isLastAlike hkeys ⟨e, he, rfl⟩
    show job.env.get? (matrixVar e.1) = _
    rw [← matrixVar_eq_iff.mpr halike, h.value e' hlast, hagree e he e' hlast.1 halike.symm]

variable (template) in
/-- **What is lost in a matrix.** In a matrix without equal values there is a job for every
combination if and only if no combination runs into another, so in particular if no value goes on
with a dash after another. A job has the values of its combination in its variables if and only if
dimensions of one variable agree. Jobs are lost where two combinations have one name, and values
where two dimensions have one variable; in both cases the later one is kept. -/
theorem expandJobs_clashes (hname : name ≠ "") {entries : List (String × Value)}
    (hkeys : (entries.map Prod.fst).Nodup)
    (hitems : ∀ e ∈ entries, ∃ items, e.2.items = .ok items ∧ (items.map Value.display).Nodup) :
    ∃ dims, IsReadAs entries dims
      ∧ ((∀ is c, Picks dims is c → ∃ built, Gives template c (.ok built)) →
          ∃ jobs, expandJobs name entries template = .ok jobs
            ∧ (jobs.size = dims.foldr (fun dim n => dim.2.length * n) 1 ↔
                ∀ is c is' c', Picks dims is c → Picks dims is' c' → ¬ RunsInto c c')
            ∧ (NoneContinues dims → jobs.size = dims.foldr (fun dim n => dim.2.length * n) 1)
            ∧ ∀ key job, jobs.get? key = some job →
                ∃ is c built, Picks dims is c ∧ jobName name c = key ∧ Gives template c (.ok built)
                  ∧ IsPlaced key c built job ∧ (HoldsOwnValues c job ↔ AlikeAgree c)) := by
  obtain ⟨dims, hread, hrun⟩ := exists_expandJobs_eq template hname hkeys fun e he =>
    (hitems e he).imp fun _ h => h.1
  have hdistinct : HasDistinctTexts dims := by
    rintro ⟨key, items⟩ hdim
    obtain ⟨v, hv, hread⟩ := (hread.mem_iff key items).mp hdim
    obtain ⟨items', hitems', hnodup⟩ := hitems _ hv
    cases hread.symm.trans hitems'
    exact hnodup
  refine ⟨dims, hread, fun hbuilt => ?_⟩
  obtain ⟨jobs, hjobs, hexpansion⟩ := exists_isExpansion hread hrun hbuilt
  have hsize := size_eq_iff hexpansion hdistinct
  refine ⟨jobs, hjobs, hsize, fun hnone => ?_, fun key job hjob => ?_⟩
  · exact hsize.mpr fun is c is' c' hc hc' => not_runsInto_of_noneContinues hnone hc hc'
  · obtain ⟨is, c, built, hc, hkey, -, hgives, hplaced⟩ := hexpansion.job key job hjob
    exact ⟨is, c, built, hc, hkey, hgives, hplaced,
      holdsOwnValues_iff (hc.keys ▸ hread.ordered) hplaced⟩

/-! ## Two dimensions of one variable, and a value that goes on after another -/

/-- The names of both dimensions sanitize alike. -/
def partEntries : List (String × Value) :=
  [("a-b", .list [.text "1", .text "1-a_b-2"]), ("a_b", .list [.text "2-a_b-3", .text "3"])]

def partDimensions : Dimensions :=
  [("a-b", [.text "1", .text "1-a_b-2"]), ("a_b", [.text "2-a_b-3", .text "3"])]

theorem isReadAs_partEntries : IsReadAs partEntries partDimensions :=
  isReadAs_of_perm (List.Perm.refl partEntries) (by decide) rfl

/-- Of the four combinations two have one name, and no job has the value of the first dimension. -/
theorem expandJobs_clashes_parts :
    ∃ jobs, expandJobs "test" partEntries (fun _ => .ok (runJob "test" "make")) = .ok jobs
      ∧ jobs.size ≠ 2 * 2
      ∧ ∀ key job, jobs.get? key = some job → ∃ is c, Picks partDimensions is c
          ∧ jobName "test" c = key ∧ ¬ HoldsOwnValues c job := by
  have hname : "test" ≠ "" := by decide
  have hitems : ∀ e ∈ partEntries, ∃ items, e.2.items = .ok items
      ∧ (items.map Value.display).Nodup := by
    intro e he
    rcases List.mem_cons.mp he with rfl | he
    · exact ⟨_, rfl, by decide⟩
    · cases List.mem_singleton.mp he
      exact ⟨_, rfl, by decide⟩
  obtain ⟨dims, hread, hsuccess⟩ :=
    expandJobs_clashes (fun _ => .ok (runJob "test" "make")) hname (by decide) hitems
  cases hread.unique isReadAs_partEntries
  obtain ⟨jobs, hjobs, hsize, -, hvars⟩ := hsuccess fun _ _ hc =>
    ⟨_, (gives_iff (hc.keys ▸ hread.ordered)).mpr rfl⟩
  refine ⟨jobs, hjobs, fun hfull => ?_, fun key job hjob => ?_⟩
  · -- `1` and `2-a_b-3` run into `1-a_b-2` and `3`
    have hruns : RunsInto [("a-b", .text "1"), ("a_b", .text "2-a_b-3")]
        [("a-b", .text "1-a_b-2"), ("a_b", .text "3")] :=
      @RunsInto.here _ "-a_b-2" _ _ _ _ (by decide) (by decide) (by decide)
    exact hsize.mp hfull [0, 0] _ [1, 1] _ (.cons rfl (.cons rfl .nil))
      (.cons rfl (.cons rfl .nil)) hruns
  · obtain ⟨is, c, built, hc, hkey, -, -, hiff⟩ := hvars key job hjob
    refine ⟨is, c, hc, hkey, fun hown => ?_⟩
    obtain ⟨_, v, _, _, hv, hrest, -, rfl⟩ := picks_cons_iff.mp hc
    obtain ⟨_, w, _, _, hw, -, -, rfl⟩ := picks_cons_iff.mp hrest
    -- both dimensions set one variable, and no two of their values are the same
    have hne : ∀ v ∈ [Value.text "1", .text "1-a_b-2"], ∀ w ∈ [Value.text "2-a_b-3", .text "3"],
        v.display ≠ w.display := by decide
    have halike : sanitize "a-b" = sanitize "a_b" := by decide
    refine hne v (List.mem_of_getElem? hv) w (List.mem_of_getElem? hw) ?_
    exact hiff.mp hown ("a-b", v) List.mem_cons_self ("a_b", w)
      (List.mem_cons_of_mem _ List.mem_cons_self) halike

end ShellFlow.Matrix
