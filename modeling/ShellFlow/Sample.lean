import ShellFlow.EnvTransfer
import ShellFlow.JobTemplate
import ShellFlow.Validation
import ShellFlow.WorkflowFile

/-!
# A sample workflow

Two jobs, one of which builds something and hands the name of what it built to the other. It is the
workflow file of the program itself, and an example of how actions, job templates and extensions fit
together.
-/

namespace ShellFlow.Sample

/-- Builds a version and puts out its name. -/
def buildApp : Except Failure Action :=
  Action.define (.text "build-app") (.text "OUTPUT_buildId=\"build-$INPUT_version\"\n")
    (OrderedMap.ofList [("version", InputType.string)]) (.ofTexts ["buildId"]) (.list [])
    (.text "Build one version")

/-- Prints the name of what was built. -/
def showBuild : Except Failure Action :=
  Action.define (.text "show-build") (.text "echo \"$INPUT_buildId\"\n")
    (OrderedMap.ofList [("buildId", InputType.string)])

def build : Except Failure Job := do
  let step ← (← buildApp).call (some (OrderedMap.ofList [("version", .text "1.0")])) ∅
  let template ← JobTemplate.define { name := .text "build", steps := .fixed [step] }
    { envOutputs := .ofTexts ["buildId"] }
  template.call none (OrderedMap.ofList [("executor", .text "local")])

/-- The job that takes over what the other has built. -/
def deploy : Except Failure Job := do
  let buildId := Value.reference (.jobOutput "build" "buildId")
  let step ← (← showBuild).call (some (OrderedMap.ofList [("buildId", buildId)])) ∅
  let template ←
    JobTemplate.define { name := .text "deploy", steps := .fixed [step] }
      { needs := .ofTexts ["build"] }
  template.call none (OrderedMap.ofList [("executor", .text "local")])

/-- Both jobs, checked and connected. -/
def workflow : Traced Workflow := do
  let build ← Traced.ofExcept build
  let deploy ← Traced.ofExcept deploy
  Workflow.make (.text "sample") (some (Jobs.ofList [build, deploy]))
    [Validation.fullExtension, ({} : EnvTransfer).asExtension] ∅

/-- The workflow file that defines the workflow. -/
def file : FileContent :=
  .program fun _ =>
    Traced.ok (OrderedMap.ofList
      [("workflow", .function fun _ => workflow.bind fun w => Traced.ok (.workflow w))])

/-- A directory that holds nothing but the workflow file of the given name. -/
def workspace (name : String) : Workspace where
  here := ["project"]
  files := OrderedMap.ofList [((Path.ofText name).resolve ["project"], file)]

end ShellFlow.Sample
