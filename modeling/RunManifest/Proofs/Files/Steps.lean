import Mathlib.Data.List.Flatten
import RunManifest.Proofs.Files.Paths

/-!
# Steps of paths

The steps of a path are its names without the dots, behind a step to the root if the path is
absolute.  What is written from the steps has the names of the path again, but for the dots, and no
byte that the path does not have.
-/

namespace RunManifest.Path

variable {path : Path}

/-- A step that is written as one part of a path. -/
structure Component.IsNamed (step : Component) : Prop where
  present : step.text ≠ []
  whole : slash ∉ step.text

theorem Component.IsNamed.relative {step : Component} (named : step.IsNamed) :
    isAbsolute step.text = false :=
  isAbsolute_of_slash_not_mem named.whole

theorem Component.IsNamed.names_text {step : Component} (named : step.IsNamed) :
    names step.text = [step.text] := by
  simp [names, pieces_of_slash_not_mem named.whole, named.present]

theorem Component.IsNamed.ne_root {step : Component} (named : step.IsNamed) :
    step ≠ .root := by
  rintro rfl
  exact named.whole List.mem_cons_self

theorem Component.IsNamed.endsWithSlash_append {step : Component} (named : step.IsNamed)
    (front : Path) :
    endsWithSlash (front ++ step.text) = false := by
  rw [endsWithSlash, List.getLast?_append, List.getLast?_eq_some_getLast named.present,
    Option.some_or, beq_eq_false_iff_ne]
  intro last
  injection last with same
  exact named.whole (same ▸ List.getLast_mem named.present)

/-- The step to the root, of an absolute path. -/
def outerSteps (path : Path) : List Component :=
  if path.isAbsolute then [.root] else []

/-- The steps of a path but the one to the root. -/
def innerSteps (path : Path) : List Component :=
  (if path.isAbsolute = false ∧ (pieces path).head? = some dot then [.current] else []) ++
    (names path).filterMap component?

theorem components_eq_outerSteps_append (path : Path) :
    components path = outerSteps path ++ innerSteps path := by
  unfold components outerSteps innerSteps
  cases path.isAbsolute with
  | true =>
      simp
  | false =>
      simp

theorem flatMap_pieces (path : Path) :
    (pieces path).flatMap (slash :: ·) = slash :: path := by
  induction path with
  | nil =>
      rfl
  | cons byte rest inductionHypothesis =>
      rw [pieces]
      split
      · rename_i separates
        rw [List.flatMap_cons, inductionHypothesis, separates]
        rfl
      · split
        · rename_i noPieces
          exact absurd noPieces (pieces_ne_nil rest)
        · rename_i first others restPieces
          rw [restPieces, List.flatMap_cons, List.cons_append] at inductionHypothesis
          injection inductionHypothesis with _ sameRest
          rw [List.flatMap_cons, List.cons_append, List.cons_append, sameRest]

theorem slash_not_mem_of_mem_pieces {part : Bytes} (member : part ∈ pieces path) :
    slash ∉ part := by
  induction path generalizing part with
  | nil =>
      rw [pieces, List.mem_singleton] at member
      rw [member]
      exact List.not_mem_nil
  | cons byte rest inductionHypothesis =>
      rw [pieces] at member
      split at member
      · rcases List.mem_cons.mp member with rfl | later
        · exact List.not_mem_nil
        · exact inductionHypothesis later
      · rename_i different
        split at member
        · rename_i noPieces
          exact absurd noPieces (pieces_ne_nil rest)
        · rename_i first others restPieces
          have wholeParts : ∀ part ∈ first :: others, slash ∉ part := by
            rw [← restPieces]
            exact fun _ => inductionHypothesis
          rcases List.mem_cons.mp member with rfl | later
          · rw [List.mem_cons, not_or]
            exact ⟨Ne.symm different, wholeParts first List.mem_cons_self⟩
          · exact wholeParts part (List.mem_cons_of_mem first later)

/-- The steps of names are written like the names, but for dots. -/
theorem map_text_filterMap_component? (parts : List Bytes) :
    (parts.filterMap component?).map Component.text = parts.filter fun part => part ≠ dot := by
  induction parts with
  | nil =>
      rfl
  | cons part rest inductionHypothesis =>
      by_cases isDot : part = dot
      · have noStep : component? part = none := if_pos isDot
        rw [List.filterMap_cons_none noStep, inductionHypothesis,
          List.filter_cons_of_neg (by simpa using isDot)]
      · have step : ∃ step, component? part = some step ∧ step.text = part := by
          unfold component?
          rw [if_neg isDot]
          split
          · rename_i isDotDot
            exact ⟨.parent, rfl, isDotDot.symm⟩
          · exact ⟨.normal part, rfl, rfl⟩
        obtain ⟨step, stepEq, textEq⟩ := step
        rw [List.filterMap_cons_some stepEq, List.map_cons, textEq, inductionHypothesis,
          List.filter_cons_of_pos (by simpa using isDot)]

theorem filter_map_text_innerSteps (path : Path) :
    ((innerSteps path).map Component.text).filter (fun part => part ≠ dot) =
      (names path).filter fun part => part ≠ dot := by
  have noDot :
      ((if path.isAbsolute = false ∧ (pieces path).head? = some dot then
        [Component.current] else []).map Component.text).filter (fun part => part ≠ dot) = [] := by
    split <;> rfl
  rw [innerSteps, List.map_append, List.filter_append, noDot, List.nil_append,
    map_text_filterMap_component?, List.filter_filter]
  simp

theorem map_text_innerSteps_sublist (path : Path) :
    ((innerSteps path).map Component.text).Sublist (pieces path) := by
  have ofParts (parts : List Bytes) :
      (((parts.filter fun part => part ≠ []).filterMap component?).map Component.text).Sublist
        parts := by
    rw [map_text_filterMap_component?]
    exact List.filter_sublist.trans List.filter_sublist
  unfold innerSteps names
  split
  · rename_i startsWithDot
    obtain ⟨rest, piecesEq⟩ := List.head?_eq_some_iff.mp startsWithDot.2
    rw [piecesEq, List.filter_cons_of_pos (by decide), List.filterMap_cons_none (by decide)]
    exact (ofParts rest).cons_cons dot
  · exact ofParts (pieces path)

theorem isNamed_of_mem_innerSteps {step : Component} (member : step ∈ innerSteps path) :
    step.IsNamed := by
  have inPieces : step.text ∈ pieces path :=
    (map_text_innerSteps_sublist path).subset (List.mem_map_of_mem member)
  refine ⟨?_, slash_not_mem_of_mem_pieces inPieces⟩
  rw [innerSteps, List.mem_append] at member
  rcases member with first | named
  · split at first
    · rw [List.mem_singleton.mp first]
      decide
    · cases first
  · have textMember : step.text ∈ (names path).filter fun part => part ≠ dot := by
      rw [← map_text_filterMap_component?]
      exact List.mem_map_of_mem named
    have inNames : step.text ∈ names path := (List.mem_filter.mp textMember).1
    simpa using (List.mem_filter.mp inNames).2

/-! ## Paths written from their steps -/

theorem sublist_join (base : Path) {path : Path} (relative : path.isAbsolute = false) :
    base.Sublist (join base path) := by
  rw [join, if_neg (by simp [relative])]
  split
  · exact List.sublist_append_left base path
  · exact List.sublist_append_left base (slash :: path)

theorem isAbsolute_join_of_relative (base : Path) {path : Path}
    (relative : path.isAbsolute = false) :
    (join base path).isAbsolute = base.isAbsolute := by
  by_cases present : base = []
  · subst present
    rw [join, if_neg (by simp [relative]), if_pos (.inl rfl), List.nil_append, relative]
    rfl
  · exact isAbsolute_join_of_ne_nil present relative

theorem ofComponents_append_singleton (steps : List Component) (step : Component) :
    ofComponents (steps ++ [step]) = join (ofComponents steps) step.text := by
  rw [ofComponents, List.foldl_append]
  rfl

theorem foldl_join_eq_append {start : Path} {steps : List Component}
    (named : ∀ step ∈ steps, step.IsNamed) (present : start ≠ [])
    (noSeparator : start.endsWithSlash = false) :
    steps.foldl (fun path step => join path step.text) start =
      start ++ steps.flatMap fun step => slash :: step.text := by
  induction steps generalizing start with
  | nil =>
      simp
  | cons step rest inductionHypothesis =>
      have parts := List.forall_mem_cons.mp named
      have joined : join start step.text = start ++ slash :: step.text := by
        rw [join, if_neg (by simp [parts.1.relative]), if_neg (by simp [present, noSeparator])]
      have ends : endsWithSlash (start ++ slash :: step.text) = false := by
        rw [List.append_cons]
        exact parts.1.endsWithSlash_append (start ++ [slash])
      rw [List.foldl_cons, joined, inductionHypothesis parts.2 (by simp) ends, List.flatMap_cons,
        List.append_assoc]

theorem ofComponents_outerSteps_append (path : Path) (steps : List Component) :
    ofComponents (outerSteps path ++ steps) =
      steps.foldl (fun path step => join path step.text)
        (if path.isAbsolute then [slash] else []) := by
  rw [ofComponents, List.foldl_append]
  unfold outerSteps
  split <;> rfl

theorem names_foldl_join {start : Path} {steps : List Component}
    (named : ∀ step ∈ steps, step.IsNamed) :
    names (steps.foldl (fun path step => join path step.text) start) =
      names start ++ steps.map Component.text := by
  induction steps generalizing start with
  | nil =>
      simp
  | cons step rest inductionHypothesis =>
      have parts := List.forall_mem_cons.mp named
      rw [List.foldl_cons, inductionHypothesis parts.2, names_join start parts.1.relative,
        parts.1.names_text, List.append_assoc, List.singleton_append, List.map_cons]

theorem names_ofComponents (path : Path) {steps : List Component}
    (named : ∀ step ∈ steps, step.IsNamed) :
    names (ofComponents (outerSteps path ++ steps)) = steps.map Component.text := by
  rw [ofComponents_outerSteps_append, names_foldl_join named]
  split <;> rfl

theorem ofComponents_ne_nil (path : Path) {steps : List Component}
    (named : ∀ step ∈ steps, step.IsNamed) (present : steps ≠ []) :
    ofComponents (outerSteps path ++ steps) ≠ [] := by
  intro empty
  have names := names_ofComponents path named
  rw [empty] at names
  exact present (List.map_eq_nil_iff.mp names.symm)

/-- The steps of a path are written one after the other with a separator before each.  In a relative
path the first separator is left out. -/
theorem ofComponents_eq_flatMap {first : Component} {rest : List Component}
    (named : ∀ step ∈ first :: rest, step.IsNamed) :
    (path.isAbsolute = true →
      ofComponents (outerSteps path ++ first :: rest) =
        (first :: rest).flatMap fun step => slash :: step.text) ∧
    (path.isAbsolute = false →
      slash :: ofComponents (outerSteps path ++ first :: rest) =
        (first :: rest).flatMap fun step => slash :: step.text) := by
  have parts := List.forall_mem_cons.mp named
  rw [ofComponents_outerSteps_append, List.foldl_cons, List.flatMap_cons]
  constructor
  · intro absolute
    have joined : join [slash] first.text = [slash] ++ first.text := by
      rw [join, if_neg (by simp [parts.1.relative]), if_pos (.inr rfl)]
    rw [if_pos absolute, joined,
      foldl_join_eq_append parts.2 (by simp) (parts.1.endsWithSlash_append [slash])]
    rfl
  · intro relative
    have joined : join [] first.text = first.text := by
      rw [join, if_neg (by simp [parts.1.relative]), if_pos (.inl rfl), List.nil_append]
    rw [if_neg (by simp [relative]), joined,
      foldl_join_eq_append parts.2 parts.1.present (parts.1.endsWithSlash_append [])]
    rfl

/-- What is written from the steps of a path has no more bytes than the path. -/
theorem ofComponents_components_sublist (path : Path) :
    (ofComponents (components path)).Sublist path := by
  have texts := map_text_innerSteps_sublist path
  have named : ∀ step ∈ innerSteps path, step.IsNamed := fun _ => isNamed_of_mem_innerSteps
  rw [components_eq_outerSteps_append]
  cases stepsEq : innerSteps path with
  | nil =>
      rw [ofComponents_outerSteps_append, List.foldl_nil]
      split
      · rename_i absolute
        obtain ⟨rest, rfl⟩ := List.head?_eq_some_iff.mp (beq_iff_eq.mp absolute)
        exact (List.nil_sublist rest).cons_cons slash
      · exact List.nil_sublist path
  | cons first rest =>
      rw [stepsEq] at texts named
      cases absolute : path.isAbsolute with
      | true =>
          obtain ⟨behind, rfl⟩ := List.head?_eq_some_iff.mp (beq_iff_eq.mp absolute)
          rw [(ofComponents_eq_flatMap named).1 absolute]
          -- The part before the first separator is empty, and no step is written so.
          have inBehind : ((first :: rest).map Component.text).Sublist (pieces behind) := by
            rw [pieces, if_pos rfl] at texts
            rcases List.sublist_cons_iff.mp texts with later | ⟨_, same, _⟩
            · exact later
            · injection same with noText _
              exact absurd noText (named first List.mem_cons_self).present
          have inPath := inBehind.flatMap fun part => slash :: part
          rw [flatMap_pieces, List.flatMap_map] at inPath
          exact inPath
      | false =>
          have inPath := texts.flatMap fun part => slash :: part
          rw [flatMap_pieces, List.flatMap_map,
            ← (ofComponents_eq_flatMap named).2 absolute] at inPath
          exact List.cons_sublist_cons.mp inPath

theorem isAbsolute_ofComponents (path : Path) {steps : List Component}
    (named : ∀ step ∈ steps, step.IsNamed) :
    isAbsolute (ofComponents (outerSteps path ++ steps)) = path.isAbsolute := by
  cases absolute : path.isAbsolute with
  | true =>
      rw [ofComponents_outerSteps_append, if_pos absolute]
      exact isAbsolute_foldl_join rfl steps
  | false =>
      cases steps with
      | nil =>
          rw [ofComponents_outerSteps_append, if_neg (by simp [absolute])]
          rfl
      | cons first rest =>
          have written := (ofComponents_eq_flatMap named).2 absolute
          rw [List.flatMap_cons, List.cons_append] at written
          injection written with _ written
          have firstNamed := named first List.mem_cons_self
          rw [written, isAbsolute, List.head?_append, List.head?_eq_some_head firstNamed.present,
            Option.some_or, beq_eq_false_iff_ne]
          intro same
          injection same with same
          exact firstNamed.whole (same ▸ List.head_mem firstNamed.present)

end RunManifest.Path
