import ShellFlow.Failure.Fields
import ShellFlow.JobTemplate
import ShellFlow.Validation

/-!
# Objects

Anything that the code of a workflow file can hold in a variable. Nothing is said there about what
may stand where, and steps and jobs are only looked at when something is done with them. Until then
any object may stand in their place; who looks at it misses an operation that it does not have.

A job or a workflow in which something else stands among the steps or jobs is called mixed.

## Main statements

* `leadingSteps_map`: a list of steps and nothing else is read as it is.
* `plain?_ofList`, `plain?_ofTuple`: a list or tuple of values is itself a value.
-/

namespace ShellFlow

/-- Anything that a variable can hold. -/
inductive Object where
  | value (v : Value)
  | type (t : InputType)
  | action (a : Action)
  | step (s : Step)
  /-- A job template; the mark tells it apart from others. What `steps` lists are its fixed steps if
  they are not all steps. -/
  | template (mark : Nat) (t : JobTemplate) (steps : List Object)
  | job (j : Job)
  /-- A job with something else among its steps, all of which are listed apart. -/
  | mixedJob (j : Job) (steps : List Object)
  | workflow (w : Workflow)
  /-- A workflow with something else among its jobs. -/
  | mixedWorkflow (name : Label) (jobs : List (Value × Object)) (env : OrderedMap String Value)
  | mapping (entries : List (Value × Object))
  | list (items : List Object)
  | tuple (items : List Object)
  /-- An instance of a structure, with its mark. -/
  | struct (mark : Nat) (kind : String) (fields : List (String × Object))
  /-- A function, of which nothing is known. -/
  | function
  /-- The good outcome of a check, with what was checked. -/
  | accepted (checked : Object)
  /-- The bad outcome of a check. -/
  | rejected (title : String) (jobName : Label) (issues : List Failure)
  /-- A failure that was not raised; the mark tells it apart from others. -/
  | failure (mark : Nat) (e : Failure)

namespace Object

instance : Inhabited Object := ⟨.value .null⟩

def kindName : Object → String
  | .value v => v.kindName
  | .type t =>
    match t.stray with
    | none => "TypeDescriptor"
    | some s => s.kindName
  | .action _ => "ActionSpec"
  | .step _ => "Step"
  | .template .. => "JobSpec"
  | .job _ | .mixedJob .. => "Job"
  | .workflow _ | .mixedWorkflow .. => "Workflow"
  | .mapping _ => "dict"
  | .list _ => "list"
  | .tuple _ => "tuple"
  | .struct _ kind _ => kind
  | .function => "function"
  | .accepted _ | .rejected .. => "ValidationResult"
  | .failure _ e => e.title

/-- The failure of asking an object for an operation that it does not have. -/
def lacks {α : Type} (o : Object) (operation : String) : Except Failure α :=
  .error (.missingOperation o.kindName operation)

/-- The failure of an object of a kind with which nothing can be done; `complaint` follows the name
of the kind. -/
def refuse {α : Type} (o : Object) (complaint : String) : Except Failure α :=
  .error (.unsuitable ("'" ++ o.kindName ++ "' object is not " ++ complaint))

/-! ## Objects and values -/

def plain? : Object → Option Value
  | .value v => some v
  | _ => none

/-- The value that an object is, or a value of which nothing is known in its place. -/
def asValue (o : Object) : Value := o.plain?.getD (.object 0 o.kindName)

/-- A list of objects; a list of values is a value. -/
def ofList (items : List Object) : Object :=
  match items.mapM plain? with
  | some values => .value (.list values)
  | none => .list items

/-- A tuple of objects; a tuple of values is a value. -/
def ofTuple (items : List Object) : Object :=
  match items.mapM plain? with
  | some values => .value (.tuple values)
  | none => .tuple items

def plainEntry? {α : Type} (e : α × Object) : Option (α × Value) :=
  e.2.plain?.map fun v => (e.1, v)

/-- A mapping to objects; a mapping to values is a value. -/
def ofMapping (entries : List (Value × Object)) : Object :=
  match entries.mapM plainEntry? with
  | some entries => .value (.mapping entries)
  | none => .mapping entries

/-- An instance of a structure; one with values only is a value. -/
def ofStruct (mark : Nat) (kind : String) (fields : List (String × Object)) : Object :=
  match fields.mapM plainEntry? with
  | some fields => .value (.struct mark kind fields)
  | none => .struct mark kind fields

/-- The outcome of a check. -/
def ofVerdict : Verdict → Object
  | .accepted w => .accepted (.workflow w)
  | .rejected title name issues => .rejected title name issues

theorem mapM_plain? (values : List Value) : (values.map .value).mapM plain? = some values := by
  induction values with
  | nil => rfl
  | cons v rest ih => simp [plain?, ih]

theorem plain?_ofList (values : List Value) :
    (ofList (values.map .value)).plain? = some (.list values) := by
  simp only [ofList, mapM_plain?]
  rfl

theorem plain?_ofTuple (values : List Value) :
    (ofTuple (values.map .value)).plain? = some (.tuple values) := by
  simp only [ofTuple, mapM_plain?]
  rfl

/-! ## Kinds of objects -/

/-- True of workflows, mixed ones among them. -/
def isWorkflow : Object → Bool
  | .workflow _ | .mixedWorkflow .. => true
  | _ => false

/-- True of jobs, mixed ones among them. -/
def isJob : Object → Bool
  | .job _ | .mixedJob .. => true
  | _ => false

/-- True of the absent value. -/
def isNull (o : Object) : Bool := o.asValue.isNull

/-- Whether an object counts as true: what is empty or absent does not. -/
def isTruthy : Object → Bool
  | .value v => v.isTruthy
  | .mapping entries => !entries.isEmpty
  | .list items | .tuple items => !items.isEmpty
  | .workflow w => w.jobs.size != 0
  | .mixedWorkflow _ jobs _ => !jobs.isEmpty
  | _ => true

/-! ## Steps among objects -/

/-- The steps before the first object that is none, and that object. -/
def leadingSteps : List Object → List Step × Option Object
  | [] => ([], none)
  | .step s :: rest => (s :: (leadingSteps rest).1, (leadingSteps rest).2)
  | o :: _ => ([], some o)

theorem leadingSteps_map (steps : List Step) : leadingSteps (steps.map .step) = (steps, none) := by
  induction steps with
  | nil => rfl
  | cons s rest ih => simp [leadingSteps, ih]

/-! ## Equality -/

mutual

/-- True of two objects that are the same inside of others. -/
def same : Object → Object → Bool
  | .value a, .value b => a.same b
  | .type a, .type b => a.eqv b
  | .action a, .action b => a.eqv b
  | .step a, .step b => a.eqv b
  | .template m a xs, .template n b ys =>
    -- templates of one mark have the same steps
    if m == n then a.eqvButSteps b else a.eqv b && sameItems xs ys
  | .job a, .job b => a.eqv b
  | .mixedJob a xs, .mixedJob b ys => a.eqv b && sameItems xs ys
  | .workflow a, .workflow b => a.eqv b
  | .mixedWorkflow a xs env, .mixedWorkflow b ys env' =>
    a.same b && env.sameBy Value.same env' && xs.length == ys.length && sameEntries xs ys
  | .mapping xs, .mapping ys => xs.length == ys.length && sameEntries xs ys
  | .list xs, .list ys => sameItems xs ys
  | .tuple xs, .tuple ys => sameItems xs ys
  | .struct m _ xs, .struct n _ ys => m == n && sameFields xs ys
  | .accepted a, .accepted b => same a b
  | .rejected title name issues, .rejected title' name' issues' =>
    title == title' && name.same name' && Failure.sameIssues issues issues'
  | .failure m a, .failure n b => m == n || a.same b
  | _, _ => false
termination_by structural x => x

/-- Sameness of two lists, object by object. -/
def sameItems : List Object → List Object → Bool
  | [], [] => true
  | x :: xs, y :: ys => same x y && sameItems xs ys
  | _, _ => false
termination_by structural xs => xs

/-- True if every entry of the first mapping has the same one in the second. -/
def sameEntries : List (Value × Object) → List (Value × Object) → Bool
  | [], _ => true
  | (k, o) :: rest, ys => (ys.any fun y => k.same y.1 && same o y.2) && sameEntries rest ys
termination_by structural xs => xs

/-- Sameness of the fields of two instances of one structure. -/
def sameFields : List (String × Object) → List (String × Object) → Bool
  | [], [] => true
  | (n, x) :: xs, (m, y) :: ys => n == m && same x y && sameFields xs ys
  | _, _ => false
termination_by structural xs => xs

end

/-- Equality of two objects: like `same`, but a bare value that is no number equals nothing. -/
def eqv : Object → Object → Bool
  | .value a, .value b => a.eqv b
  | a, b => same a b

end Object

end ShellFlow
