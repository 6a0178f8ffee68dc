import ShellFlow.Reference

/-!
# Names of generated variables

The variables of step outputs, job outputs and matrix dimensions are shell identifiers whatever the
names are that they are made of: the front of the name is fixed and the rest is sanitized. The name
of an environment variable is taken as it is, so it is one only if it was given as one.
-/

namespace ShellFlow

/-- An identifier can be continued by identifier characters. -/
theorem isIdentifier_append {s t : String} (hs : isIdentifier s = true)
    (ht : ∀ c ∈ t.toList, isIdentChar c = true) : isIdentifier (s ++ t) = true := by
  obtain ⟨c, rest, hlist, hc, hrest⟩ := (isIdentifier_iff s).mp hs
  refine (isIdentifier_iff (s ++ t)).mpr ⟨c, rest ++ t.toList, ?_, hc, ?_⟩
  · rw [String.toList_append, hlist, List.cons_append]
  · exact List.forall_mem_append.mpr ⟨hrest, ht⟩

/-- An identifier stays one with a sanitized name behind it. The names of all variables are built
this way: a fixed prefix first, so that a name may begin with a digit. -/
theorem isIdentifier_append_sanitize {s : String} (hs : isIdentifier s = true) (name : String) :
    isIdentifier (s ++ sanitize name) = true :=
  isIdentifier_append hs (isIdentChar_of_mem_sanitize name)

theorem isIdentifier_append_underscore {s : String} (hs : isIdentifier s = true) :
    isIdentifier (s ++ "_") = true := by
  have hchar : isIdentChar '_' = true := by decide
  exact isIdentifier_append hs (by simpa using hchar)

/-- The variable of a step output is an identifier, whatever the names are. -/
theorem isIdentifier_stepOutputVar (step output : String) :
    isIdentifier (stepOutputVar step output) = true := by
  have hfront : isIdentifier "STEP_OUTPUT_" = true := by decide
  exact isIdentifier_append_sanitize
    (isIdentifier_append_underscore (isIdentifier_append_sanitize hfront step)) output

theorem isIdentifier_jobOutputVar (job output : String) :
    isIdentifier (jobOutputVar job output) = true := by
  have hfront : isIdentifier "JOB_OUTPUT_" = true := by decide
  exact isIdentifier_append_sanitize
    (isIdentifier_append_underscore (isIdentifier_append_sanitize hfront job)) output

theorem isIdentifier_matrixVar (key : String) : isIdentifier (matrixVar key) = true := by
  have hfront : isIdentifier "MATRIX_" = true := by decide
  exact isIdentifier_append_sanitize hfront key

/-- The variable of a reference is an identifier, unless it is an environment variable with a name
that is none. -/
theorem isIdentifier_var {r : Reference} (h : ∀ name, r = .envVar name → isIdentifier name = true) :
    isIdentifier r.var = true := by
  cases r with
  | stepOutput step output => exact isIdentifier_stepOutputVar step output
  | envVar name => exact h name rfl
  | matrix key => exact isIdentifier_matrixVar key
  | jobOutput job output => exact isIdentifier_jobOutputVar job output

end ShellFlow
