import Mathlib.Data.List.Induction

/-!
# Repetitions

Dropping the repetitions from a list leaves each of its values once, in the order in which they
stand in it first.
-/

namespace RunManifest.Repetitions

variable {first second : Type} {values distinct : List first}

/-- The values of a list, each once, in the order in which they stand in it first. -/
inductive EachOnce : List first → List first → Prop
  | nil : EachOnce [] []
  | again {values distinct : List first} {value : first} (known : value ∈ values)
      (once : EachOnce values distinct) : EachOnce (values ++ [value]) distinct
  | new {values distinct : List first} {value : first} (unknown : value ∉ values)
      (once : EachOnce values distinct) : EachOnce (values ++ [value]) (distinct ++ [value])

variable [BEq first] [LawfulBEq first] [BEq second] [LawfulBEq second]

theorem eraseDups_concat (initial : List first) (item : first) :
    (initial ++ [item]).eraseDups =
      if item ∈ initial then initial.eraseDups else initial.eraseDups ++ [item] := by
  rw [List.eraseDups_append]
  by_cases known : item ∈ initial
  · simp [List.removeAll, known]
  · simp [List.removeAll, known, List.eraseDups_cons]

theorem eachOnce_iff : EachOnce values distinct ↔ values.eraseDups = distinct := by
  constructor
  · intro once
    induction once with
    | nil =>
        rfl
    | again known _ inductionHypothesis =>
        rw [eraseDups_concat, if_pos known, inductionHypothesis]
    | new unknown _ inductionHypothesis =>
        rw [eraseDups_concat, if_neg unknown, inductionHypothesis]
  · intro dropped
    subst dropped
    induction values using List.reverseRecOn with
    | nil =>
        exact .nil
    | append_singleton initial item inductionHypothesis =>
        rw [eraseDups_concat]
        by_cases known : item ∈ initial
        · rw [if_pos known]
          exact .again known inductionHypothesis
        · rw [if_neg known]
          exact .new known inductionHypothesis

/-- Values that all differ are kept when repeated ones are dropped. -/
theorem eraseDups_of_nodup {values : List first} (distinct : values.Nodup) :
    values.eraseDups = values := by
  induction values with
  | nil =>
      rfl
  | cons head tail inductionHypothesis =>
      have parts := List.nodup_cons.mp distinct
      have kept : (tail.filter fun value => !value == head) = tail := by
        apply List.filter_eq_self.mpr
        intro value member
        have differs : value ≠ head := fun same => parts.1 (same ▸ member)
        simp [differs]
      rw [List.eraseDups_cons, kept, inductionHypothesis parts.2]

/-- Choosing from a list commutes with dropping repetitions, if no result has two origins. -/
theorem filterMap_eraseDups
    {choose : first → Option second}
    (injective : ∀ {one other : first} {result : second},
      choose one = some result → choose other = some result → one = other)
    (values : List first) :
    values.eraseDups.filterMap choose = (values.filterMap choose).eraseDups := by
  induction values using List.reverseRecOn with
  | nil =>
      rfl
  | append_singleton initial item inductionHypothesis =>
      rw [eraseDups_concat, List.filterMap_append]
      cases chosen : choose item with
      | none =>
          rw [List.filterMap_cons_none chosen, List.filterMap_nil, List.append_nil,
            ← inductionHypothesis]
          split
          · rfl
          · simp [chosen]
      | some result =>
          have known : result ∈ initial.filterMap choose ↔ item ∈ initial := by
            rw [List.mem_filterMap]
            constructor
            · rintro ⟨other, member, sameResult⟩
              rw [injective chosen sameResult]
              exact member
            · intro member
              exact ⟨item, member, chosen⟩
          rw [List.filterMap_cons_some chosen, List.filterMap_nil, eraseDups_concat,
            ← inductionHypothesis]
          by_cases repeated : item ∈ initial
          · rw [if_pos repeated, if_pos (known.mpr repeated)]
          · rw [if_neg repeated, if_neg (fun member => repeated (known.mp member))]
            simp [chosen]

end RunManifest.Repetitions
