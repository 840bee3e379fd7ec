import Mathlib.Data.List.Forall2
import RunManifest.Proofs.Repetitions

/-!
# Outcomes of steps

How the outcome of a sequence of steps follows from the outcomes of the steps.  A sequence of steps
of one kind succeeds if all of them do, and the first one that fails is the one that is reported.
-/

namespace RunManifest.Outcomes

open Repetitions

variable {fault first second : Type}

theorem bind_eq_ok_iff
    {step : Except fault first} {next : first → Except fault second} {result : second} :
    step >>= next = .ok result ↔
      ∃ value, step = .ok value ∧ next value = .ok result := by
  cases step with
  | error cause =>
      simp [bind, Except.bind]
  | ok value =>
      simp [bind, Except.bind]

theorem bind_eq_error_iff
    {step : Except fault first} {next : first → Except fault second} {cause : fault} :
    step >>= next = .error cause ↔
      step = .error cause ∨ ∃ value, step = .ok value ∧ next value = .error cause := by
  cases step with
  | error other =>
      simp [bind, Except.bind]
  | ok value =>
      simp [bind, Except.bind]

/-- Where every outcome is one of those that are described, they are described exactly. -/
theorem iff_of_total
    {step : Except fault first} {Gives : first → Prop} {Fails : fault → Prop}
    (gives : ∀ {result}, Gives result → step = .ok result)
    (fails : ∀ {cause}, Fails cause → step = .error cause)
    (total : (∃ result, Gives result) ∨ ∃ cause, Fails cause) :
    (∀ {result}, step = .ok result ↔ Gives result) ∧
      ∀ {cause}, step = .error cause ↔ Fails cause := by
  constructor
  · intro result
    constructor
    · intro succeeded
      rcases total with ⟨other, given⟩ | ⟨cause, failed⟩
      · have same := (gives given).symm.trans succeeded
        cases same
        exact given
      · rw [fails failed] at succeeded
        cases succeeded
    · exact gives
  · intro cause
    constructor
    · intro refused
      rcases total with ⟨result, given⟩ | ⟨other, failed⟩
      · rw [gives given] at refused
        cases refused
      · have same := (fails failed).symm.trans refused
        cases same
        exact failed
    · exact fails

/-- Telling a fault in other words changes nothing of a success. -/
theorem mapError_eq_ok_iff {other : Type}
    {step : Except fault first} {retell : fault → other} {result : first} :
    step.mapError retell = .ok result ↔ step = .ok result := by
  cases step with
  | error cause =>
      constructor
      · intro same
        cases same
      · intro same
        cases same
  | ok value =>
      constructor
      · intro same
        cases same
        rfl
      · intro same
        cases same
        rfl

theorem eq_ok_of_toOption
    {step : Except fault first} {result : first} (found : step.toOption = some result) :
    step = .ok result := by
  cases step with
  | error cause =>
      cases found
  | ok value =>
      cases found
      rfl

/-! ## Sequences of steps of one kind -/

section Sequences

variable {read : first → Except fault second} {values : List first}

theorem mapM_eq_ok_iff {results : List second} :
    values.mapM read = .ok results ↔
      List.Forall₂ (fun value result => read value = .ok result) values results := by
  induction values generalizing results with
  | nil =>
      cases results with
      | nil =>
          simp [pure, Except.pure]
      | cons result others =>
          simp [pure, Except.pure]
  | cons value rest inductionHypothesis =>
      rw [List.mapM_cons, bind_eq_ok_iff]
      simp only [bind_eq_ok_iff, inductionHypothesis, pure, Except.pure, Except.ok.injEq]
      constructor
      · rintro ⟨result, readFirst, others, readRest, rfl⟩
        exact .cons readFirst readRest
      · intro each
        cases each with
        | cons readFirst readRest =>
            exact ⟨_, readFirst, _, readRest, rfl⟩

theorem mapM_eq_error_iff {cause : fault} :
    values.mapM read = .error cause ↔
      ∃ before value behind, values = before ++ value :: behind ∧
        (∀ earlier ∈ before, ∃ result, read earlier = .ok result) ∧ read value = .error cause := by
  induction values with
  | nil =>
      simp [pure, Except.pure]
  | cons value rest inductionHypothesis =>
      rw [List.mapM_cons, bind_eq_error_iff]
      simp only [bind_eq_error_iff, inductionHypothesis, pure, Except.pure, reduceCtorEq, and_false,
        exists_false, or_false]
      constructor
      · rintro (failed | ⟨result, readFirst, before, other, behind, rfl, fine, failed⟩)
        · exact ⟨[], value, rest, rfl, by simp, failed⟩
        · exact ⟨value :: before, other, behind, rfl,
            List.forall_mem_cons.mpr ⟨⟨result, readFirst⟩, fine⟩, failed⟩
      · rintro ⟨before, other, behind, parts, fine, failed⟩
        cases before with
        | nil =>
            cases parts
            exact .inl failed
        | cons earlier others =>
            cases parts
            obtain ⟨⟨result, readFirst⟩, fineRest⟩ := List.forall_mem_cons.mp fine
            exact .inr ⟨result, readFirst, others, other, behind, rfl, fineRest, failed⟩

theorem exists_mapM_eq_ok_iff :
    (∃ results, values.mapM read = .ok results) ↔
      ∀ value ∈ values, ∃ result, read value = .ok result := by
  simp only [mapM_eq_ok_iff]
  induction values with
  | nil =>
      simp
  | cons value rest inductionHypothesis =>
      rw [List.forall_mem_cons, ← inductionHypothesis]
      constructor
      · rintro ⟨results, each⟩
        cases each with
        | cons readFirst readRest =>
            exact ⟨⟨_, readFirst⟩, _, readRest⟩
      · rintro ⟨⟨result, readFirst⟩, others, readRest⟩
        exact ⟨_, .cons readFirst readRest⟩

/-- Values that are the written forms of results, one by one, are all the written forms. -/
theorem forall₂_written_iff {write : second → first} {Fits : second → Prop}
    {results : List second} :
    List.Forall₂ (fun value result => Fits result ∧ write result = value) values results ↔
      values = results.map write ∧ ∀ result ∈ results, Fits result := by
  induction results generalizing values with
  | nil =>
      simp
  | cons result others inductionHypothesis =>
      cases values with
      | nil =>
          simp
      | cons value rest =>
          rw [List.forall₂_cons, inductionHypothesis, List.map_cons, List.cons_eq_cons,
            List.forall_mem_cons, eq_comm (a := value), and_comm (a := Fits result),
            and_and_and_comm]

/-- Reading written values one after the other gives the values, if each is read back. -/
theorem mapM_map_eq_ok {write : second → first} {results : List second}
    (readBack : ∀ result ∈ results, read (write result) = .ok result) :
    (results.map write).mapM read = .ok results := by
  rw [mapM_eq_ok_iff, List.forall₂_map_left_iff, List.forall₂_same]
  exact readBack

end Sequences

/-- Values that all differ are read back from their written forms even if repeated forms are dropped
first: different values that are read back have different forms. -/
theorem mapM_eraseDups_map_eq_ok [BEq second] [LawfulBEq second]
    {write : first → second} {read : second → Except fault first} {values : List first}
    (distinct : values.Nodup) (readBack : ∀ value ∈ values, read (write value) = .ok value) :
    (values.map write).eraseDups.mapM read = .ok values := by
  have distinctForms : (values.map write).Nodup := by
    apply List.pairwise_map.mpr
    apply List.Pairwise.imp_of_mem _ distinct
    intro left right leftMember rightMember differ sameForm
    have readLeft := readBack left leftMember
    rw [sameForm, readBack right rightMember] at readLeft
    exact differ (Except.ok.inj readLeft).symm
  rw [eraseDups_of_nodup distinctForms, mapM_map_eq_ok readBack]

end RunManifest.Outcomes
