import ShellFlow.Failure

/-!
# Traced computations

A computation that may fail and that leaves debug text behind, whether it fails or not. Whether the
text is shown can be changed on the way, so this is part of what is left behind.

## Main statements

* `bind_assoc`, `ok_bind`: the traces of two computations in a row are joined in order.
-/

namespace ShellFlow

/-- One thing that a computation leaves behind. -/
inductive TraceEntry where
  /-- A line of debug text. -/
  | line (text : String)
  /-- From here on debug text is shown, or not. -/
  | shown (shows : Bool)
  deriving DecidableEq, Repr

namespace TraceEntry

/-- The lines that are shown; `shows` says whether debug text is shown at the beginning. -/
def visible (shows : Bool) : List TraceEntry → List String
  | [] => []
  | .line text :: rest => if shows then text :: visible shows rest else visible shows rest
  | .shown b :: rest => visible b rest

/-- Whether debug text is shown at the end. -/
def showsAfter (shows : Bool) : List TraceEntry → Bool
  | [] => shows
  | .line _ :: rest => showsAfter shows rest
  | .shown b :: rest => showsAfter b rest

end TraceEntry

/-- The trace of a computation, and its result or failure. -/
structure Traced (α : Type) where
  trace : List TraceEntry
  result : Except Failure α

namespace Traced

variable {α β γ : Type}

/-- A result without a trace. -/
def ok (a : α) : Traced α := ⟨[], .ok a⟩

def fail (e : Failure) : Traced α := ⟨[], .error e⟩

/-- A result or failure without a trace. -/
def ofExcept (r : Except Failure α) : Traced α := ⟨[], r⟩

/-- One line of debug text. -/
def log (line : String) : Traced Unit := ⟨[.line line], .ok ()⟩

/-- Goes on with the result; a failure ends the computation. -/
def bind (x : Traced α) (f : α → Traced β) : Traced β :=
  match x.result with
  | .ok a => ⟨x.trace ++ (f a).trace, (f a).result⟩
  | .error e => ⟨x.trace, .error e⟩

instance : Monad Traced where
  pure := ok
  bind := bind

theorem ok_bind (a : α) (f : α → Traced β) : (ok a).bind f = f a := rfl

theorem result_bind (x : Traced α) (f : α → Traced β) :
    (x.bind f).result = x.result.bind fun a => (f a).result := by
  unfold bind
  cases x.result <;> rfl

theorem bind_assoc (x : Traced α) (f : α → Traced β) (g : β → Traced γ) :
    (x.bind f).bind g = x.bind fun a => (f a).bind g := by
  cases x with
  | mk trace result =>
    cases result with
    | error e => rfl
    | ok a =>
      simp only [bind]
      cases (f a).result <;> simp

end Traced

end ShellFlow
