/-!
# Computations that succeed

What a success of several computations in a row says about each of them. A later proof takes a
successful run apart with these, step by step, and does not unfold how the steps are chained.
-/

namespace ShellFlow.Success

variable {ε α β : Type}

/-- A bind succeeds exactly if both of its computations do. Most facts about functions that may fail
are taken apart with this one. -/
theorem bind_eq_ok {x : Except ε α} {f : α → Except ε β} {b : β} :
    (x >>= f) = .ok b ↔ ∃ a, x = .ok a ∧ f a = .ok b := by
  cases x with
  | error e => simp [bind, Except.bind]
  | ok a => simp [bind, Except.bind]

theorem map_eq_ok {x : Except ε α} {f : α → β} {b : β} :
    x.map f = .ok b ↔ ∃ a, x = .ok a ∧ f a = b := by
  cases x with
  | error e => simp [Except.map]
  | ok a => simp [Except.map]

theorem map_eq_error {x : Except ε α} {f : α → β} {e : ε} :
    x.map f = .error e ↔ x = .error e := by
  cases x with
  | error e => simp [Except.map]
  | ok a => simp [Except.map]

theorem mapM_cons_eq_ok {f : α → Except ε β} {a : α} {l : List α} {bs : List β} :
    (a :: l).mapM f = .ok bs ↔ ∃ b rest, f a = .ok b ∧ l.mapM f = .ok rest ∧ bs = b :: rest := by
  rw [List.mapM_cons, bind_eq_ok]
  constructor
  · rintro ⟨b, hb, h⟩
    obtain ⟨rest, hrest, h⟩ := bind_eq_ok.mp h
    cases h
    exact ⟨b, rest, hb, hrest, rfl⟩
  · rintro ⟨b, rest, hb, hrest, rfl⟩
    exact ⟨b, hb, bind_eq_ok.mpr ⟨rest, hrest, rfl⟩⟩

/-- A row of computations fails as the first one that fails. -/
theorem mapM_eq_error {f : α → Except ε β} {l : List α} {e : ε} :
    l.mapM f = .error e ↔ ∃ before a after, l = before ++ a :: after
      ∧ (∀ u ∈ before, ∃ b, f u = .ok b) ∧ f a = .error e := by
  induction l with
  | nil =>
    refine iff_of_false (fun h => nomatch h) ?_
    rintro ⟨before, a, after, h, -⟩
    simp at h
  | cons first rest ih =>
    rw [List.mapM_cons]
    constructor
    · intro h
      cases hfirst : f first with
      -- the first item fails
      | error e' =>
        rw [hfirst] at h
        cases h
        exact ⟨[], first, rest, rfl, nofun, hfirst⟩
      -- the first item succeeds, so it is one of the rest that fails
      | ok b =>
        rw [hfirst] at h
        cases hrest : rest.mapM f with
        | error e' =>
          rw [hrest] at h
          cases h
          obtain ⟨before, a, after, rfl, hbefore, ha⟩ := ih.mp hrest
          exact ⟨first :: before, a, after, rfl, List.forall_mem_cons.mpr ⟨⟨b, hfirst⟩, hbefore⟩, ha⟩
        | ok bs =>
          rw [hrest] at h
          cases h
    · rintro ⟨before, a, after, hlist, hbefore, ha⟩
      cases before with
      | nil =>
        cases hlist
        rw [ha]
        rfl
      | cons u more =>
        cases hlist
        obtain ⟨⟨b, hb⟩, hmore⟩ := List.forall_mem_cons.mp hbefore
        have hrest := ih.mpr ⟨more, a, after, rfl, hmore, ha⟩
        rw [hb, hrest]
        rfl

/-- If every item succeeds with a known result, so does the list. -/
theorem mapM_eq_ok_map {f : α → Except ε β} {g : α → β} {l : List α}
    (h : ∀ a ∈ l, f a = .ok (g a)) : l.mapM f = .ok (l.map g) := by
  induction l with
  | nil => rfl
  | cons a rest ih =>
    have hrest := ih fun b hb => h b (List.mem_cons_of_mem _ hb)
    exact mapM_cons_eq_ok.mpr ⟨g a, rest.map g, h a List.mem_cons_self, hrest, rfl⟩

theorem exists_mapM_eq_ok {f : α → Except ε β} {l : List α} (h : ∀ a ∈ l, ∃ b, f a = .ok b) :
    ∃ bs, l.mapM f = .ok bs := by
  induction l with
  | nil => exact ⟨[], rfl⟩
  | cons a rest ih =>
    obtain ⟨b, hb⟩ := h a List.mem_cons_self
    obtain ⟨bs, hbs⟩ := ih fun c hc => h c (List.mem_cons_of_mem _ hc)
    exact ⟨b :: bs, mapM_cons_eq_ok.mpr ⟨b, bs, hb, hbs, rfl⟩⟩

/-- A result comes from an item, and those behind it come from the items behind it. -/
theorem mapM_eq_ok_split {f : α → Except ε β} {l : List α} {front back : List β} {b : β}
    (h : l.mapM f = .ok (front ++ b :: back)) :
    ∃ before a after, l = before ++ a :: after ∧ f a = .ok b ∧ after.mapM f = .ok back := by
  induction front generalizing l with
  | nil =>
    cases l with
    | nil => cases h
    | cons a after =>
      obtain ⟨b', rest, hb, hrest, hlist⟩ := mapM_cons_eq_ok.mp h
      cases hlist
      exact ⟨[], a, after, rfl, hb, hrest⟩
  | cons _ front ih =>
    cases l with
    | nil => cases h
    | cons first l =>
      obtain ⟨_, rest, -, hrest, hlist⟩ := mapM_cons_eq_ok.mp h
      cases hlist
      obtain ⟨before, a, after, rfl, ha, hafter⟩ := ih hrest
      exact ⟨first :: before, a, after, rfl, ha, hafter⟩

/-- A list in two pieces succeeds exactly if both pieces do, with the results in two pieces. -/
theorem mapM_append_eq_ok {f : α → Except ε β} {front back : List α} {bs : List β} :
    (front ++ back).mapM f = .ok bs ↔
      ∃ first second, front.mapM f = .ok first ∧ back.mapM f = .ok second
        ∧ bs = first ++ second := by
  rw [List.mapM_append, bind_eq_ok]
  constructor
  · rintro ⟨first, hfirst, h⟩
    obtain ⟨second, hsecond, h⟩ := bind_eq_ok.mp h
    cases h
    exact ⟨first, second, hfirst, hsecond, rfl⟩
  · rintro ⟨first, second, hfirst, hsecond, rfl⟩
    exact ⟨first, hfirst, bind_eq_ok.mpr ⟨second, hsecond, rfl⟩⟩

/-- The result of the item at a position is at the same position. -/
theorem exists_getElem?_mapM {f : α → Except ε β} {l : List α} {bs : List β} {a : α} {i : Nat}
    (h : l.mapM f = .ok bs) (ha : l[i]? = some a) : ∃ b, f a = .ok b ∧ bs[i]? = some b := by
  induction l generalizing bs i with
  | nil => simp at ha
  | cons first rest ih =>
    obtain ⟨b, more, hb, hmore, rfl⟩ := mapM_cons_eq_ok.mp h
    cases i with
    | zero =>
      cases ha
      exact ⟨b, hb, rfl⟩
    | succ i => simpa using ih hmore (by simpa using ha)

theorem exists_eq_ok_of_mapM {f : α → Except ε β} {l : List α} {bs : List β} {a : α}
    (h : l.mapM f = .ok bs) (ha : a ∈ l) : ∃ b, f a = .ok b := by
  obtain ⟨i, hi⟩ := List.getElem?_of_mem ha
  obtain ⟨b, hb, -⟩ := exists_getElem?_mapM h hi
  exact ⟨b, hb⟩

/-- What the results are read as can be read off what they were made from. -/
theorem map_eq_of_mapM {γ : Type} {f : α → Except ε β} {g : β → γ} {h : α → γ} {l : List α}
    {bs : List β} (hread : ∀ a b, f a = .ok b → g b = h a) (hbs : l.mapM f = .ok bs) :
    bs.map g = l.map h := by
  induction l generalizing bs with
  | nil =>
    cases hbs
    rfl
  | cons a rest ih =>
    obtain ⟨b, more, hb, hmore, rfl⟩ := mapM_cons_eq_ok.mp hbs
    rw [List.map_cons, List.map_cons, hread a b hb, ih hmore]

/-- One function in the place of another that succeeds at most there, with the same results. -/
theorem mapM_eq_ok_of_forall {f g : α → Except ε β} {l : List α} {bs : List β}
    (hfg : ∀ a ∈ l, ∀ b, f a = .ok b → g a = .ok b) (h : l.mapM f = .ok bs) :
    l.mapM g = .ok bs := by
  induction l generalizing bs with
  | nil => exact h
  | cons a rest ih =>
    obtain ⟨b, more, hb, hmore, rfl⟩ := mapM_cons_eq_ok.mp h
    have hrest := ih (fun c hc => hfg c (List.mem_cons_of_mem _ hc)) hmore
    exact mapM_cons_eq_ok.mpr ⟨b, more, hfg a List.mem_cons_self b hb, hrest, rfl⟩

theorem exists_of_mem_mapM {f : α → Except ε β} {l : List α} {bs : List β} {b : β}
    (h : l.mapM f = .ok bs) (hb : b ∈ bs) : ∃ a ∈ l, f a = .ok b := by
  obtain ⟨front, back, rfl⟩ := List.append_of_mem hb
  obtain ⟨before, a, after, rfl, ha, -⟩ := mapM_eq_ok_split h
  exact ⟨a, List.mem_append_right before List.mem_cons_self, ha⟩

/-- A row of computations whose results lead back to what they were made from. -/
theorem exists_mapM_eq_ok_map {f : α → Except ε β} {g : β → α} {l : List α}
    (h : ∀ a ∈ l, ∃ b, f a = .ok b ∧ g b = a) : ∃ bs, l.mapM f = .ok bs ∧ bs.map g = l := by
  induction l with
  | nil => exact ⟨[], rfl, rfl⟩
  | cons a rest ih =>
    obtain ⟨b, hb, hback⟩ := h a List.mem_cons_self
    obtain ⟨bs, hbs, hrest⟩ := ih fun c hc => h c (List.mem_cons_of_mem _ hc)
    refine ⟨b :: bs, mapM_cons_eq_ok.mpr ⟨b, bs, hb, hbs, rfl⟩, ?_⟩
    rw [List.map_cons, hback, hrest]

/-- Two rows of computations, the second on the results of the first. -/
theorem mapM_bind_eq_ok {γ : Type} {f : α → Except ε β} {g : β → Except ε γ} {l : List α}
    {cs : List γ} :
    (l.mapM fun a => f a >>= g) = .ok cs ↔ ∃ bs, l.mapM f = .ok bs ∧ bs.mapM g = .ok cs := by
  induction l generalizing cs with
  | nil =>
    constructor
    · exact fun h => ⟨[], rfl, h⟩
    · rintro ⟨bs, hbs, h⟩
      cases hbs
      exact h
  | cons a rest ih =>
    constructor
    · intro h
      obtain ⟨c, more, hc, hmore, rfl⟩ := mapM_cons_eq_ok.mp h
      obtain ⟨b, hb, hbc⟩ := bind_eq_ok.mp hc
      obtain ⟨bs, hbs, hcs⟩ := ih.mp hmore
      exact ⟨b :: bs, mapM_cons_eq_ok.mpr ⟨b, bs, hb, hbs, rfl⟩,
        mapM_cons_eq_ok.mpr ⟨c, more, hbc, hcs, rfl⟩⟩
    · rintro ⟨bs, hbs, h⟩
      obtain ⟨b, more, hb, hmore, rfl⟩ := mapM_cons_eq_ok.mp hbs
      obtain ⟨c, cs', hc, hcs', rfl⟩ := mapM_cons_eq_ok.mp h
      exact mapM_cons_eq_ok.mpr ⟨c, cs', bind_eq_ok.mpr ⟨b, hb, hc⟩, ih.mpr ⟨more, hmore, hcs'⟩, rfl⟩

/-- Reading back what was written, for all items of a list. -/
theorem mapM_map_eq_some {f : α → Option β} {g : β → α} (h : ∀ b, f (g b) = some b) (l : List β) :
    (l.map g).mapM f = some l := by
  induction l with
  | nil => rfl
  | cons b rest ih =>
    rw [List.map_cons, List.mapM_cons, h, ih]
    rfl

theorem forM_eq_ok {f : α → Except ε Unit} {l : List α} :
    l.forM f = .ok () ↔ ∀ a ∈ l, f a = .ok () := by
  induction l with
  | nil => exact iff_of_true rfl fun a ha => absurd ha List.not_mem_nil
  | cons a rest ih =>
    show (f a >>= fun _ => rest.forM f) = .ok () ↔ _
    rw [bind_eq_ok, List.forall_mem_cons, ← ih]
    constructor
    · rintro ⟨_, ha, hrest⟩
      exact ⟨ha, hrest⟩
    · rintro ⟨ha, hrest⟩
      exact ⟨(), ha, hrest⟩

end ShellFlow.Success
