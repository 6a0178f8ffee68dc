import ShellFlow.Job
import ShellFlow.Label

/-!
# Matrix jobs

One job for every combination of the values of some dimensions. The dimensions are taken in the
order of their names and the last of them varies fastest. Each job is named for its combination and
finds the values in its environment. A dimension that is not named by a text has no variable, so
that no job comes about.

## Main statements

* `length_combinations`: there are as many combinations as the sizes of the dimensions multiply to.
-/

namespace ShellFlow.Matrix

/-- A list of values for each dimension. -/
abbrev Dimensions := List (String × List Value)

abbrev Combination := List (String × Value)

/-- All combinations, the last dimension varying fastest. -/
def combinations : Dimensions → List Combination
  | [] => [[]]
  | (key, values) :: rest =>
    values.flatMap fun value =>
      (combinations rest).map fun combination => (key, value) :: combination

/-- The dimensions in the order of their names. -/
def sorted {α : Type} (dimensions : List (String × α)) : List (String × α) :=
  dimensions.mergeSort fun a b => decide (a.1 ≤ b.1)

def jobName (name : String) (combination : Combination) : String :=
  "-".intercalate (name :: combination.map fun e => e.1 ++ "-" ++ e.2.display)

/-- The variables in which a job finds the values of its combination. -/
def vars (combination : Combination) : OrderedMap String Value :=
  OrderedMap.ofList (combination.map fun e => (matrixVar e.1, .text e.2.display))

/-- The job of a template for a combination, under its name and with its variables. -/
def place (name : String) (combination : Combination) (job : Job) : Job :=
  { job with
    name := .text name
    env := job.env.insertAll (vars combination) }

/-- How the jobs of a matrix come about; what is built in their place may be of any kind. -/
structure Builder (α : Type) where
  /-- Builds the job of a combination. -/
  template : OrderedMap String Value → Except Failure α
  /-- Refuses what has no environment to put variables into. -/
  checkEnv : α → Except Failure Unit
  /-- Gives a job the name and the variables of its combination. -/
  place : String → Combination → α → Except Failure α

/-- The builder of a template that builds jobs. -/
def Builder.ofJobs (template : OrderedMap String Value → Except Failure Job) : Builder Job where
  template := template
  checkEnv := fun _ => .ok ()
  place := fun name combination job => .ok (Matrix.place name combination job)

variable {α : Type}

/-- Builds the jobs of the combinations in order; of two with one name the later one counts. -/
def build (builder : Builder α) (name : String) :
    List Combination → OrderedMap String α → Except Failure (OrderedMap String α)
  | [], jobs => .ok jobs
  | combination :: rest, jobs => do
    let key := jobName name combination
    let job ← builder.template (OrderedMap.ofList combination)
    let job ← builder.place key combination job
    build builder name rest (jobs.insert key job)

def itemsOf : List (String × Value) → Except Failure Dimensions
  | [] => .ok []
  | (key, value) :: rest => do
    let items ← value.items
    .ok ((key, items) :: (← itemsOf rest))

/-- The dimensions of a mapping whose keys are all texts. -/
def named? (entries : List (Value × Value)) : Option (List (String × Value)) :=
  entries.mapM fun e => e.1.text?.map fun key => (key, e.2)

/-- What is given as the template of a matrix. -/
inductive Template (α : Type) where
  | function (builder : Builder α)
  | other (v : Value)

/-! ## Dimensions without names -/

def valueAt (entries : List (Value × Value)) (key : Value) : Value :=
  ((entries.find? fun e => key.same e.1).map Prod.snd).getD .null

/-- What comes of dimensions that are not all named by texts: nothing if there is no combination, or
else a failure, which is that of the first job or that of its variables. -/
def expandUnnamed (builder : Builder α) (entries : List (Value × Value)) :
    Except Failure (OrderedMap String α) := do
  match Value.sort (entries.map Prod.fst) with
  | .error e => .error (.unsuitable e.message)
  | .ok keys =>
    let items ← keys.mapM fun key => (valueAt entries key).items
    if items.any List.isEmpty then .ok ∅
    else
      let job ← builder.template ∅
      builder.checkEnv job
      let _ ← keys.mapM Value.variablePart
      .ok ∅

/-! ## Expansion -/

/-- The jobs of all combinations of the values of a matrix. -/
def expand (name : String) (matrix : Value) (template : Template α) :
    Except Failure (OrderedMap String α) :=
  if name.isEmpty then .error (.invalidArgument "Job name cannot be empty")
  else
    match matrix, template with
    | .mapping entries, .function builder =>
      match named? entries with
      | some entries => do
        -- all dimensions are read before the first job is built
        let dimensions ← itemsOf (sorted entries)
        build builder name (combinations dimensions) ∅
      | none => expandUnnamed builder entries
    | .mapping _, .other _ =>
      .error (.invalidArgument "template must be a function that receives matrix vars")
    | _, _ => .error (.invalidArgument "matrix must be a mapping of dimension -> values")

theorem length_combinations (dimensions : Dimensions) :
    (combinations dimensions).length = dimensions.foldr (fun e n => e.2.length * n) 1 := by
  induction dimensions with
  | nil => rfl
  | cons e rest ih =>
    obtain ⟨key, values⟩ := e
    simp only [combinations, List.length_flatMap, List.length_map, ih, List.foldr_cons,
      List.map_const', List.sum_replicate_nat]

end ShellFlow.Matrix
