import ShellFlow.Proofs.Transfer.Repetition

/-!
# The order of the searched steps

The value of an env output is looked for in the variables of some steps, and the first that has one
wins. The steps that declare the output are searched from the last to the first, then come the names
that are a guess, and of what has one stem only the first is kept. Here the order is told by the
positions of the steps in the job and of the guesses in their list.

* **`firstBefore_declared_iff`**, **`firstBefore_guessed_iff`** — the order among the stems of either
  kind.
* **`isSearchOrder_searchOrder`**, **`IsSearchOrder.unique`** — the whole order, and that nothing is
  left open by it.
* **`searchOrder_of_applyAll`** — transfers do not change it, by induction on their number.
-/

namespace ShellFlow.EnvTransfer

/-- At the position stands a step with the stem that was made from an action with the output. -/
def DeclaresAt (job : Job) (output stem : String) (i : Nat) : Prop :=
  ∃ step, job.steps[i]? = some step ∧ ∃ info name, step.action = some info ∧ output ∈ info.outputs
    ∧ step.name = .text name ∧ stem = sanitize name

/-- The guess at the position has the stem. -/
def GuessesAt (transfer : EnvTransfer) (stem : String) (i : Nat) : Prop :=
  ∃ name, transfer.searchedSteps[i]? = some name ∧ stem = sanitize name

/-- The stems of the declaring steps and of the guesses, each once. -/
structure IsSearchOrder (transfer : EnvTransfer) (job : Job) (output : String)
    (searched : List String) : Prop where
  nodup : searched.Nodup
  mem_iff : ∀ stem, stem ∈ searched ↔
    IsDeclaring job output stem ∨ ∃ name ∈ transfer.searchedSteps, stem = sanitize name
  declared_guessed : ∀ p q, IsDeclaring job output p → ¬ IsDeclaring job output q → q ∈ searched →
    FirstBefore searched p q
  /-- Of two stems of declaring steps the one whose last step comes later is searched first. -/
  declared : ∀ p q, IsDeclaring job output p → IsDeclaring job output q →
    ∃ i j, IsGreatest {i | DeclaresAt job output p i} i
      ∧ IsGreatest {j | DeclaresAt job output q j} j ∧ (FirstBefore searched p q ↔ j < i)
  /-- Stems that are only guessed are searched as they come first among the guesses. -/
  guessed : ∀ p q, p ∈ searched → q ∈ searched →
    ¬ IsDeclaring job output p → ¬ IsDeclaring job output q →
      ∃ i j, IsLeast {i | GuessesAt transfer p i} i ∧ IsLeast {j | GuessesAt transfer q j} j
        ∧ (FirstBefore searched p q ↔ i < j)

variable {transfer : EnvTransfer} {job : Job} {output p q : String} {i j : Nat}

/-! ## Positions

A stem can belong to several steps, so its place in the order is told by the last of them, or by the
first of its guesses. -/

/-- The positions of the steps that declare the output are those at which their stem is read from
the list of steps. -/
theorem declaresAt_eq (job : Job) (output stem : String) :
    {i | DeclaresAt job output stem i} = {i | ReadAt (declaredStem? output) job.steps stem i} := by
  unfold DeclaresAt ReadAt
  simp only [declaredStem?_eq_some_iff]

theorem guessesAt_eq (transfer : EnvTransfer) (stem : String) :
    {i | GuessesAt transfer stem i} =
      {i | ReadAt (some ∘ sanitize) transfer.searchedSteps stem i} := by
  unfold GuessesAt ReadAt
  simp only [Function.comp_apply, Option.some.injEq, @eq_comm _ stem]

theorem exists_isGreatest_declaresAt (h : IsDeclaring job output p) :
    ∃ i, IsGreatest {i | DeclaresAt job output p i} i := by
  obtain ⟨step, hstep, hstem⟩ := h
  rw [declaresAt_eq]
  apply exists_isGreatest_readAt
  exact List.mem_filterMap.mpr ⟨step, hstep, declaredStem?_eq_some_iff.mpr hstem⟩

theorem exists_isLeast_guessesAt (h : p ∈ transfer.searchedSteps.map sanitize) :
    ∃ i, IsLeast {i | GuessesAt transfer p i} i := by
  rw [guessesAt_eq]
  apply exists_isLeast_readAt
  rw [List.filterMap_eq_map]
  exact h

/-! ## The order among the stems of one kind -/

theorem mem_searchOrder_iff :
    p ∈ transfer.searchOrder job output ↔
      IsDeclaring job output p ∨ p ∈ transfer.searchedSteps.map sanitize := by
  rw [searchOrder_eq, List.mem_eraseDups, List.mem_append, mem_declared_iff]

/-- **Of two declared stems the one declared later is searched first.** The list is read from the
back and repetitions are dropped, so it is the last declaring step of each stem that counts. -/
theorem firstBefore_declared_iff (hi : IsGreatest {i | DeclaresAt job output p i} i)
    (hj : IsGreatest {j | DeclaresAt job output q j} j) :
    FirstBefore (transfer.searchOrder job output) p q ↔ j < i := by
  have hdeclaring : p ∈ job.steps.reverse.filterMap (declaredStem? output) := by
    obtain ⟨step, hstep, hstem⟩ := hi.1
    exact mem_declared_iff.mpr ⟨step, List.mem_of_getElem? hstep, hstem⟩
  rw [declaresAt_eq] at hi hj
  rw [searchOrder_eq, firstBefore_eraseDups_iff, firstBefore_append_iff,
    ← firstBefore_filterMap_reverse_iff hi hj]
  -- `p` is among the stems of the declaring steps, so it is there that it comes first
  exact or_iff_left fun h => h.1 hdeclaring

/-- **Of two stems that are only guessed the one guessed first is searched first.** Neither is among
the stems of the declaring steps, so the order is decided in the second part of the list. -/
theorem firstBefore_guessed_iff (hp : ¬ IsDeclaring job output p) (hq : ¬ IsDeclaring job output q)
    (hi : IsLeast {i | GuessesAt transfer p i} i) (hj : IsLeast {j | GuessesAt transfer q j} j) :
    FirstBefore (transfer.searchOrder job output) p q ↔ i < j := by
  rw [← mem_declared_iff] at hp hq
  rw [guessesAt_eq] at hi hj
  rw [searchOrder_eq, firstBefore_eraseDups_iff, firstBefore_append_iff,
    ← firstBefore_filterMap_iff hi hj, List.filterMap_eq_map]
  constructor
  · rintro (h | ⟨-, -, h⟩)
    · obtain ⟨front, rest, hlist, -⟩ := h
      rw [hlist] at hp
      exact absurd (List.mem_append_right _ List.mem_cons_self) hp
    · exact h
  · exact fun h => Or.inr ⟨hp, hq, h⟩

/-! ## The whole order -/

/-- **The order in which stems are searched is the one that is told by positions.** -/
theorem isSearchOrder_searchOrder (transfer : EnvTransfer) (job : Job) (output : String) :
    IsSearchOrder transfer job output (transfer.searchOrder job output) := by
  constructor
  · rw [searchOrder_eq]
    exact nodup_eraseDups _
  · intro stem
    rw [mem_searchOrder_iff, List.mem_map]
    simp only [@eq_comm _ stem]
  · intro p q hp hq _
    exact (searchOrder_of_declares transfer hp).2 q hq
  · intro p q hp hq
    obtain ⟨i, hi⟩ := exists_isGreatest_declaresAt hp
    obtain ⟨j, hj⟩ := exists_isGreatest_declaresAt hq
    exact ⟨i, j, hi, hj, firstBefore_declared_iff hi hj⟩
  · intro p q hpmem hqmem hp hq
    obtain ⟨i, hi⟩ := exists_isLeast_guessesAt ((mem_searchOrder_iff.mp hpmem).resolve_left hp)
    obtain ⟨j, hj⟩ := exists_isLeast_guessesAt ((mem_searchOrder_iff.mp hqmem).resolve_left hq)
    exact ⟨i, j, hi, hj, firstBefore_guessed_iff hp hq hi hj⟩

/-- Which of two stems is searched first is the same in all orders. -/
theorem IsSearchOrder.firstBefore_iff {searched searched' : List String}
    (h : IsSearchOrder transfer job output searched)
    (h' : IsSearchOrder transfer job output searched') (hp : p ∈ searched) (hq : q ∈ searched) :
    FirstBefore searched p q ↔ FirstBefore searched' p q := by
  have hp' : p ∈ searched' := (h'.mem_iff p).mpr ((h.mem_iff p).mp hp)
  have hq' : q ∈ searched' := (h'.mem_iff q).mpr ((h.mem_iff q).mp hq)
  by_cases hpd : IsDeclaring job output p
  · by_cases hqd : IsDeclaring job output q
    · obtain ⟨i, j, hi, hj, hiff⟩ := h.declared p q hpd hqd
      obtain ⟨i', j', hi', hj', hiff'⟩ := h'.declared p q hpd hqd
      rw [hiff, hiff', hi.unique hi', hj.unique hj']
    · exact iff_of_true (h.declared_guessed p q hpd hqd hq) (h'.declared_guessed p q hpd hqd hq')
  · by_cases hqd : IsDeclaring job output q
    · exact iff_of_false (h.declared_guessed q p hqd hpd hp).asymm
        (h'.declared_guessed q p hqd hpd hp').asymm
    · obtain ⟨i, j, hi, hj, hiff⟩ := h.guessed p q hp hq hpd hqd
      obtain ⟨i', j', hi', hj', hiff'⟩ := h'.guessed p q hp' hq' hpd hqd
      rw [hiff, hiff', hi.unique hi', hj.unique hj']

/-- Nothing is left open: there is one such order only. Two lists without repetition that have the
same members in the same order of first occurrence are equal. -/
theorem IsSearchOrder.unique {searched searched' : List String}
    (h : IsSearchOrder transfer job output searched)
    (h' : IsSearchOrder transfer job output searched') : searched = searched' := by
  refine eq_of_firstBefore h.nodup h'.nodup (fun stem => ?_) ?_
  · rw [h.mem_iff, h'.mem_iff]
  · intro p hp q hq
    exact (h.firstBefore_iff h' hp hq).mpr

/-! ## After some transfers -/

/-- A job that went through transfers is searched as before. Induction on the transfers. -/
theorem searchOrder_of_applyAll (transfer : EnvTransfer) {transfers : List EnvTransfer}
    {w : Workflow} (hneeds : HasFixedNeeds w) :
    ∃ w', applyAll transfers w = .ok w'
      ∧ ∀ key job, w.jobs.get? key = some job → ∃ job', w'.jobs.get? key = some job'
          ∧ ∀ output, transfer.searchOrder job' output = transfer.searchOrder job output := by
  induction transfers generalizing w with
  | nil => exact ⟨w, rfl, fun key job hjob => ⟨job, hjob, fun _ => rfl⟩⟩
  | cons other rest ih =>
    obtain ⟨w', hw', hjobs⟩ := ih (hasFixedNeeds_extend hneeds)
    refine ⟨w', ?_, fun key job hjob => ?_⟩
    · rw [applyAll_cons, apply_eq_ok_iff.mpr ⟨hneeds, rfl⟩]
      exact hw'
    · have hextended : (other.extend w).jobs.get? key =
          some (other.transformJob (producerNames w.jobs) key job) := by
        rw [get?_extend, hjob]
        rfl
      obtain ⟨job', hjob', hsame⟩ := hjobs key _ hextended
      refine ⟨job', hjob', fun output => ?_⟩
      rw [hsame, searchOrder_transformJob]

/-- **In which order stems are searched.** The searched stems are those of the declaring steps, the
one with the latest step first, and behind them the guesses as they come first in their list. No
other list is in this order, and the transfers that a job goes through leave it as it is: the steps
they add were made from no action, so none of them declares an output. -/
theorem searchOrder_order (transfer : EnvTransfer) :
    (∀ job output searched,
        IsSearchOrder transfer job output searched ↔ searched = transfer.searchOrder job output)
    ∧ ∀ (transfers : List EnvTransfer) (w : Workflow), HasFixedNeeds w →
        ∃ w', applyAll transfers w = .ok w'
          ∧ ∀ key job, w.jobs.get? key = some job → ∃ job', w'.jobs.get? key = some job'
              ∧ ∀ output, transfer.searchOrder job' output = transfer.searchOrder job output := by
  refine ⟨fun job output searched => ?_, fun _ _ => searchOrder_of_applyAll transfer⟩
  constructor
  · intro h
    exact h.unique (isSearchOrder_searchOrder transfer job output)
  · rintro rfl
    exact isSearchOrder_searchOrder transfer job output

/-! ## Two steps of one stem, with another one between them -/

/-- Guesses of which one is a declaring step, and of which two have one stem. -/
def guessing : EnvTransfer := { searchedSteps := ["make-tag", "push.image", "push-image"] }

def retaggedJob : Job :=
  { relayJob "build" [] with
    steps := [(Action.oneOutputCall "build-app" "tag").step,
      (Action.oneOutputCall "make-tag" "tag").step, (Action.oneOutputCall "build_app" "tag").step] }

def retaggedWorkflow : Workflow :=
  .ofJobs (.text "retagged") (OrderedMap.ofList [("build", retaggedJob)]) ∅

/-- Two stems are declared, the first of them twice, and one is only guessed; after two transfers
they are searched in the same order. -/
theorem searchOrder_order_retagged :
    HasFixedNeeds retaggedWorkflow
    ∧ IsSearchOrder guessing retaggedJob "tag" ["build_app", "make_tag", "push_image"]
    ∧ ∃ w' job', applyAll [{}, guessing] retaggedWorkflow = .ok w'
        ∧ w'.jobs.get? "build" = some job'
        ∧ guessing.searchOrder job' "tag" = ["build_app", "make_tag", "push_image"] := by
  have hfixed : HasFixedNeeds retaggedWorkflow := by
    intro e he need hneed
    cases List.mem_singleton.mp he
    cases hneed
  have hlist : guessing.searchOrder retaggedJob "tag" = ["build_app", "make_tag", "push_image"] := by
    decide
  obtain ⟨horder, happlied⟩ := searchOrder_order guessing
  obtain ⟨w', hw', hjobs⟩ := happlied [{}, guessing] retaggedWorkflow hfixed
  obtain ⟨job', hjob', hsame⟩ := hjobs "build" retaggedJob rfl
  refine ⟨hfixed, (horder _ _ _).mpr hlist.symm, w', job', hw', hjob', ?_⟩
  rw [hsame, hlist]

end ShellFlow.EnvTransfer
