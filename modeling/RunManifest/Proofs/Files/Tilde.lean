import RunManifest.Proofs.Files.Steps

/-!
# Paths that begin with a tilde

What follows a leading `~` of a path has the steps that follow the step of this name, and it never
is an absolute path, however many separators and dots stand behind the `~`.
-/

namespace RunManifest.Path

variable {path first : Path} {parts others : List Bytes} {steps : List Component}

theorem pieces_ofPieces (whole : ∀ part ∈ parts, slash ∉ part) (present : parts ≠ []) :
    pieces (ofPieces parts) = parts := by
  induction parts with
  | nil =>
      exact absurd rfl present
  | cons first rest inductionHypothesis =>
      obtain ⟨firstWhole, restWhole⟩ := List.forall_mem_cons.mp whole
      cases rest with
      | nil =>
          have single : ofPieces [first] = first := by
            simp [ofPieces, List.intercalate]
          rw [single, pieces_of_slash_not_mem firstWhole]
      | cons second others =>
          have split : ofPieces (first :: second :: others) =
              first ++ slash :: ofPieces (second :: others) := by
            simp [ofPieces, List.intercalate]
          rw [split, pieces_append_slash, pieces_of_slash_not_mem firstWhole,
            inductionHypothesis restWhole (by simp), List.singleton_append]

theorem names_ofPieces (whole : ∀ part ∈ parts, slash ∉ part) :
    names (ofPieces parts) = parts.filter fun part => part ≠ [] := by
  cases parts with
  | nil =>
      rfl
  | cons first rest =>
      rw [names, pieces_ofPieces whole (by simp)]

/-- The first piece of a path is empty if the path is absolute, or has no piece at all. -/
theorem head?_pieces_eq_nil_iff :
    (pieces path).head? = some [] ↔ path = [] ∨ path.isAbsolute = true := by
  cases path with
  | nil =>
      simp [pieces]
  | cons byte rest =>
      by_cases separates : byte = slash
      · simp [pieces, isAbsolute, separates]
      · rw [pieces, if_neg separates]
        have relative : isAbsolute (byte :: rest) = false := by
          simp [isAbsolute, separates]
        cases restPieces : pieces rest with
        | nil =>
            exact absurd restPieces (pieces_ne_nil rest)
        | cons first others =>
            simp [relative]

theorem isAbsolute_of_pieces (split : pieces path = first :: others) (present : first ≠ []) :
    path.isAbsolute = false := by
  rw [Bool.eq_false_iff]
  intro absolute
  have noFirst := head?_pieces_eq_nil_iff.mpr (.inr absolute)
  rw [split] at noFirst
  exact present (Option.some.inj noFirst)

/-- The step of a part of a path, if it is one. -/
def stepOf? (part : Bytes) : Option Component :=
  if part = [] then none else component? part

theorem stepOf?_of_isIdle {part : Bytes} (idle : isIdle part = true) : stepOf? part = none := by
  rw [isIdle, Bool.or_eq_true, decide_eq_true_eq, decide_eq_true_eq] at idle
  rcases idle with rfl | rfl
  · rfl
  · rfl

theorem filterMap_component?_filter (parts : List Bytes) :
    (parts.filter fun part => part ≠ []).filterMap component? = parts.filterMap stepOf? := by
  rw [List.filterMap_filter]
  congr 1
  funext part
  by_cases empty : part = []
  · simp [stepOf?, empty]
  · simp [stepOf?, empty]

/-- The parts without the idle ones at their two ends. -/
def trimIdle (parts : List Bytes) : List Bytes :=
  ((parts.dropWhile isIdle).reverse.dropWhile isIdle).reverse

theorem filterMap_stepOf?_dropWhile (parts : List Bytes) :
    (parts.dropWhile isIdle).filterMap stepOf? = parts.filterMap stepOf? := by
  induction parts with
  | nil =>
      rfl
  | cons part rest inductionHypothesis =>
      by_cases idle : isIdle part = true
      · rw [List.dropWhile_cons_of_pos idle, inductionHypothesis,
          List.filterMap_cons_none (stepOf?_of_isIdle idle)]
      · rw [List.dropWhile_cons_of_neg idle]

theorem filterMap_stepOf?_trimIdle (parts : List Bytes) :
    (trimIdle parts).filterMap stepOf? = parts.filterMap stepOf? := by
  rw [trimIdle, List.filterMap_reverse, filterMap_stepOf?_dropWhile, ← List.filterMap_reverse,
    List.reverse_reverse, filterMap_stepOf?_dropWhile]

theorem isPrefix_trimIdle (parts : List Bytes) : trimIdle parts <+: parts.dropWhile isIdle := by
  rw [trimIdle, ← List.reverse_suffix, List.reverse_reverse]
  exact List.dropWhile_suffix isIdle

theorem mem_of_mem_trimIdle {part : Bytes} (member : part ∈ trimIdle parts) : part ∈ parts :=
  (List.dropWhile_suffix isIdle).subset ((isPrefix_trimIdle parts).subset member)

theorem isIdle_head_trimIdle (begins : (trimIdle parts).head? = some first) :
    isIdle first = false := by
  obtain ⟨dropped, whole⟩ := isPrefix_trimIdle parts
  have stays := List.head?_dropWhile_not isIdle parts
  rw [← whole, List.head?_append, begins, Option.some_or] at stays
  simpa using stays

/-- The steps of a path whose first piece is a step. -/
theorem components_of_pieces {step : Component} (split : pieces path = first :: others)
    (present : first ≠ []) (isStep : component? first = some step) :
    components path = step :: others.filterMap stepOf? := by
  have notDot : (pieces path).head? ≠ some dot := by
    rw [split]
    intro same
    cases same
    cases isStep
  rw [components, isAbsolute_of_pieces split present, if_neg Bool.false_ne_true, if_neg notDot,
    names, split, List.filter_cons_of_pos (by simpa using present),
    List.filterMap_cons_some isStep, filterMap_component?_filter, List.nil_append]

/-! ## Behind a tilde -/

def tilde : Bytes := ofText ['~']

theorem components_of_tilde (split : pieces path = tilde :: others) :
    components path = .normal tilde :: others.filterMap stepOf? :=
  components_of_pieces split (by decide) rfl

/-- A path whose first step is the one of this name begins with a tilde. -/
theorem exists_pieces_of_head?_components
    (begins : path.components.head? = some (.normal tilde)) :
    ∃ others, pieces path = tilde :: others := by
  cases split : pieces path with
  | nil =>
      exact absurd split (pieces_ne_nil path)
  | cons first others =>
      by_cases empty : first = []
      · rcases head?_pieces_eq_nil_iff.mp (by rw [split, empty]; rfl) with rfl | absolute
        · cases begins
        · rw [components, absolute] at begins
          cases begins
      · by_cases isDot : first = dot
        · rw [components, isAbsolute_of_pieces split empty, if_neg Bool.false_ne_true, split, isDot]
            at begins
          cases begins
        · by_cases up : first = dotDot
          · have isStep : component? first = some .parent := by
              rw [component?, if_neg isDot, if_pos up]
            rw [components_of_pieces split empty isStep] at begins
            cases begins
          · have isStep : component? first = some (.normal first) := by
              rw [component?, if_neg isDot, if_neg up]
            rw [components_of_pieces split empty isStep] at begins
            cases begins
            exact ⟨others, rfl⟩

/-- Without idle parts at its front a path is relative and begins with no dot. -/
theorem relative_ofPieces_trimIdle (whole : ∀ part ∈ trimIdle parts, slash ∉ part) :
    (ofPieces (trimIdle parts)).isAbsolute = false ∧
      (pieces (ofPieces (trimIdle parts))).head? ≠ some dot := by
  cases trimmed : trimIdle parts with
  | nil =>
      exact ⟨rfl, by decide⟩
  | cons first rest =>
      have busy : isIdle first = false := isIdle_head_trimIdle (by rw [trimmed]; rfl)
      rw [isIdle, Bool.or_eq_false_iff, decide_eq_false_iff_not, decide_eq_false_iff_not] at busy
      rw [trimmed] at whole
      have split := pieces_ofPieces whole (by simp)
      refine ⟨isAbsolute_of_pieces split busy.1, ?_⟩
      rw [split]
      exact fun same => busy.2 (Option.some.inj same)

/-- What is left behind a tilde is a relative path with the steps that are left. -/
theorem exists_afterTilde? (leads : path.components = .normal tilde :: steps) :
    ∃ rest, afterTilde? path = some rest ∧ rest.isAbsolute = false ∧
      (pieces rest).head? ≠ some dot ∧ (names rest).filterMap component? = steps := by
  obtain ⟨others, split⟩ := exists_pieces_of_head?_components (by rw [leads]; rfl)
  have left : afterTilde? path = some (ofPieces (trimIdle others)) := by
    rw [afterTilde?, split]
    exact if_pos rfl
  have whole : ∀ part ∈ trimIdle others, slash ∉ part := by
    intro part member
    have isPiece : part ∈ pieces path := by
      rw [split]
      exact List.mem_cons_of_mem tilde (mem_of_mem_trimIdle member)
    exact slash_not_mem_of_mem_pieces isPiece
  obtain ⟨relative, notDot⟩ := relative_ofPieces_trimIdle whole
  refine ⟨_, left, relative, notDot, ?_⟩
  rw [names_ofPieces whole, filterMap_component?_filter, filterMap_stepOf?_trimIdle]
  rw [components_of_tilde split] at leads
  exact (List.cons.inj leads).2

theorem afterTilde?_eq_none (other : path.components.head? ≠ some (.normal tilde)) :
    afterTilde? path = none := by
  rw [afterTilde?]
  cases split : pieces path with
  | nil =>
      rfl
  | cons first others =>
      refine if_neg ?_
      rintro rfl
      exact other (by rw [components_of_tilde split]; rfl)

end RunManifest.Path
