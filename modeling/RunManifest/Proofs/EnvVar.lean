import RunManifest.Command
import RunManifest.Proofs.Outcomes

/-!
# Written assignments

A text is read as a variable exactly if it is an assignment to a key, which is not empty and ends
at the first `=`.
-/

namespace RunManifest.EnvVar

variable {envVar : EnvVar} {text : Text} {error : ValidationError} {fault : Fault}

/-- The key of a variable can be told from the value when the variable is written. -/
structure IsAssignable (envVar : EnvVar) : Prop where
  present : envVar.key ≠ []
  whole : '=' ∉ envVar.key

/-- What is wrong with a text that is no assignment. -/
inductive Fails : Text → Fault → Prop
  | empty : Fails [] (.emptyText "envVarText".toList)
  | withoutMark {text : Text} (present : text ≠ []) (noMark : '=' ∉ text) :
      Fails text (.assignmentWithoutMark text)
  | withoutKey (value : Text) : Fails ('=' :: value) (.assignmentWithoutKey ('=' :: value))

theorem parse_assignment (assignable : envVar.IsAssignable) :
    parse envVar.assignment = .ok envVar := by
  have cut : Text.splitOnce '=' envVar.assignment = some (envVar.key, envVar.value) :=
    Text.splitOnce_eq_some_iff.mpr ⟨rfl, assignable.whole⟩
  rw [parse, cut]
  · cases key : envVar.key with
    | nil =>
        exact absurd key assignable.present
    | cons first rest =>
        simp only [← key]
  · simp [assignment]

theorem parse_of_fails (fails : Fails text fault) : parse text = .error ⟨operation, fault⟩ := by
  cases fails with
  | empty =>
      rfl
  | withoutMark present noMark =>
      rw [parse, Text.splitOnce_eq_none_iff.mpr noMark]
      exact present
  | withoutKey value =>
      rfl

/-- Every text is an assignment or has a fault. -/
theorem assignable_or_fails (text : Text) :
    (∃ envVar : EnvVar, envVar.IsAssignable ∧ envVar.assignment = text) ∨
      ∃ fault, Fails text fault := by
  cases cut : Text.splitOnce '=' text with
  | none =>
      have noMark := Text.splitOnce_eq_none_iff.mp cut
      by_cases present : text = []
      · subst present
        exact .inr ⟨_, .empty⟩
      · exact .inr ⟨_, .withoutMark present noMark⟩
  | some parts =>
      obtain ⟨key, value⟩ := parts
      obtain ⟨rfl, whole⟩ := Text.splitOnce_eq_some_iff.mp cut
      cases key with
      | nil =>
          exact .inr ⟨_, .withoutKey value⟩
      | cons first rest =>
          exact .inl ⟨⟨first :: rest, value⟩, ⟨List.cons_ne_nil _ _, whole⟩, rfl⟩

theorem parse_outcomes (text : Text) :
    (∀ {envVar}, parse text = .ok envVar ↔ envVar.IsAssignable ∧ envVar.assignment = text) ∧
      ∀ {error}, parse text = .error error ↔
        ∃ fault, Fails text fault ∧ error = ⟨operation, fault⟩ := by
  apply Outcomes.iff_of_total
  · intro envVar assigned
    rw [← assigned.2]
    exact parse_assignment assigned.1
  · intro error failed
    obtain ⟨fault, fails, rfl⟩ := failed
    exact parse_of_fails fails
  · rcases assignable_or_fails text with assigned | ⟨fault, fails⟩
    · exact .inl assigned
    · exact .inr ⟨_, fault, fails, rfl⟩

theorem parse_eq_ok_iff :
    parse text = .ok envVar ↔ envVar.IsAssignable ∧ envVar.assignment = text :=
  (parse_outcomes text).1

theorem parse_eq_error_iff :
    parse text = .error error ↔ ∃ fault, Fails text fault ∧ error = ⟨operation, fault⟩ :=
  (parse_outcomes text).2

end RunManifest.EnvVar
