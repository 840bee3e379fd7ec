import RunManifest.Files.Path

/-!
# Names of joined paths

Joining puts the names of a relative path behind those of the path it starts from, whichever
separators the two are written with.  A path that ends with a name of its own can be followed up
to that name, which is where files and directories are made and removed.
-/

namespace RunManifest.Path

theorem pieces_ne_nil (path : Path) :
    pieces path ≠ [] := by
  cases path with
  | nil =>
      simp [pieces]
  | cons byte rest =>
      rw [pieces]
      split
      · simp
      · split <;> simp

theorem pieces_append_slash (front back : Path) :
    pieces (front ++ slash :: back) = pieces front ++ pieces back := by
  induction front with
  | nil =>
      simp [pieces]
  | cons byte rest inductionHypothesis =>
      rw [List.cons_append, pieces, pieces, inductionHypothesis]
      by_cases separates : byte = slash
      · simp [separates]
      · simp only [separates, if_false]
        cases restPieces : pieces rest with
        | nil =>
            exact absurd restPieces (pieces_ne_nil rest)
        | cons first others =>
            rfl

theorem names_append_slash (front back : Path) :
    names (front ++ slash :: back) = names front ++ names back := by
  simp only [names, pieces_append_slash, List.filter_append]

theorem pieces_of_slash_not_mem
    {path : Path} (whole : slash ∉ path) :
    pieces path = [path] := by
  induction path with
  | nil =>
      rfl
  | cons byte rest inductionHypothesis =>
      rw [List.mem_cons, not_or] at whole
      rw [pieces, if_neg (Ne.symm whole.1), inductionHypothesis whole.2]

theorem isAbsolute_of_slash_not_mem
    {path : Path} (whole : slash ∉ path) :
    path.isAbsolute = false := by
  cases path with
  | nil =>
      rfl
  | cons byte rest =>
      have different : byte ≠ slash := fun same => whole (same ▸ List.mem_cons_self)
      simp [isAbsolute, different]

/-- A name that an entry of a directory can have: it is one part of a path, and not one of `.` and
`..`. -/
structure IsEntryName (name : Bytes) : Prop where
  present : name ≠ []
  whole : slash ∉ name
  notDot : name ≠ dot
  notDotDot : name ≠ dotDot

namespace IsEntryName

variable {name : Bytes}

theorem relative (entry : IsEntryName name) : isAbsolute name = false :=
  isAbsolute_of_slash_not_mem entry.whole

theorem names_eq (entry : IsEntryName name) : names name = [name] := by
  simp [names, pieces_of_slash_not_mem entry.whole, entry.present]

theorem head?_pieces_ne_dot (entry : IsEntryName name) : (pieces name).head? ≠ some dot := by
  rw [pieces_of_slash_not_mem entry.whole]
  simpa using entry.notDot

theorem component?_eq (entry : IsEntryName name) : component? name = some (.normal name) := by
  rw [component?, if_neg entry.notDot, if_neg entry.notDotDot]

theorem components_eq (entry : IsEntryName name) : components name = [.normal name] := by
  rw [components, entry.relative, if_neg Bool.false_ne_true, if_neg entry.head?_pieces_ne_dot,
    entry.names_eq, List.filterMap_cons_some entry.component?_eq]
  rfl

end IsEntryName

theorem exists_eq_append_slash
    {path : Path} (ends : path.endsWithSlash = true) :
    ∃ front, path = front ++ [slash] := by
  rw [endsWithSlash, beq_iff_eq] at ends
  exact List.getLast?_eq_some_iff.mp ends

theorem names_join
    (base : Path) {path : Path} (relative : path.isAbsolute = false) :
    names (join base path) = names base ++ names path := by
  rw [join, if_neg (by simp [relative])]
  split
  · rename_i bare
    rcases bare with empty | ends
    · subst empty
      rfl
    · obtain ⟨front, rfl⟩ := exists_eq_append_slash ends
      rw [List.append_assoc, List.singleton_append, names_append_slash,
        names_append_slash]
      simp [names, pieces]
  · exact names_append_slash base path

/-- What joining puts before a relative path depends only on the path it starts from. -/
theorem exists_join_eq_append (base : Path) :
    ∃ front, ∀ path : Path, path.isAbsolute = false → join base path = front ++ path := by
  by_cases bare : base = [] ∨ base.endsWithSlash = true
  · refine ⟨base, ?_⟩
    intro path relative
    rw [join, if_neg (by simp [relative]), if_pos bare]
  · refine ⟨base ++ [slash], ?_⟩
    intro path relative
    rw [join, if_neg (by simp [relative]), if_neg bare, List.append_assoc,
      List.singleton_append]

theorem endsWithSlash_join
    (base : Path) {path : Path}
    (relative : path.isAbsolute = false) (present : path ≠ []) :
    (join base path).endsWithSlash = path.endsWithSlash := by
  obtain ⟨front, joined⟩ := exists_join_eq_append base
  rw [joined path relative, endsWithSlash, endsWithSlash, List.getLast?_append,
    List.getLast?_eq_some_getLast present, Option.some_or]

/-- Different relative paths lead to different paths from one path. -/
theorem join_right_injective
    {base first second : Path}
    (firstRelative : first.isAbsolute = false) (secondRelative : second.isAbsolute = false)
    (same : join base first = join base second) :
    first = second := by
  obtain ⟨front, joined⟩ := exists_join_eq_append base
  rw [joined first firstRelative, joined second secondRelative] at same
  exact List.append_cancel_left same

/-! ## Steps of joined paths -/

theorem head?_pieces_append_slash (front back : Path) :
    (pieces (front ++ slash :: back)).head? = (pieces front).head? := by
  rw [pieces_append_slash, List.head?_append, List.head?_eq_some_head (pieces_ne_nil front),
    Option.some_or]

theorem head?_pieces_join
    {base path : Path} (present : base ≠ []) (relative : path.isAbsolute = false) :
    (pieces (join base path)).head? = (pieces base).head? := by
  rw [join, if_neg (by simp [relative])]
  split
  · rename_i bare
    have ends : base.endsWithSlash = true := bare.resolve_left present
    obtain ⟨front, rfl⟩ := exists_eq_append_slash ends
    rw [List.append_assoc, List.singleton_append, head?_pieces_append_slash,
      head?_pieces_append_slash]
  · exact head?_pieces_append_slash base path

theorem isAbsolute_join_of_ne_nil
    {base path : Path} (present : base ≠ []) (relative : path.isAbsolute = false) :
    (join base path).isAbsolute = base.isAbsolute := by
  rw [join, if_neg (by simp [relative])]
  have first := List.head?_eq_some_head present
  split
  · rw [isAbsolute, isAbsolute, List.head?_append, first, Option.some_or]
  · rw [isAbsolute, isAbsolute, List.head?_append, first, Option.some_or]

/-- Joining puts the steps of a relative path behind those of the path it starts from.  A dot that
the relative path starts with would only count if nothing stood before it. -/
theorem components_join
    (base : Path) {path : Path}
    (relative : path.isAbsolute = false) (notDot : (pieces path).head? ≠ some dot) :
    components (join base path) = components base ++ (names path).filterMap component? := by
  unfold components
  rw [names_join base relative, List.filterMap_append, ← List.append_assoc]
  congr 2
  by_cases empty : base = []
  · subst empty
    have joined : join [] path = path := by
      rw [join, if_neg (by simp [relative]), if_pos (.inl rfl), List.nil_append]
    rw [joined, relative, if_neg Bool.false_ne_true, if_neg notDot]
    rfl
  · rw [isAbsolute_join_of_ne_nil empty relative, head?_pieces_join empty relative]

theorem IsEntryName.components_join {name : Bytes} (entry : IsEntryName name) (base : Path) :
    components (join base name) = components base ++ [.normal name] := by
  rw [Path.components_join base entry.relative entry.head?_pieces_ne_dot, entry.names_eq,
    List.filterMap_cons_some entry.component?_eq, List.filterMap_nil]

theorem isAbsolute_join {base : Path} (absolute : base.isAbsolute = true) (path : Path) :
    (join base path).isAbsolute = true := by
  cases base with
  | nil =>
      cases absolute
  | cons byte rest =>
      have first : byte = slash := by
        simpa [isAbsolute] using absolute
      by_cases absolutePath : path.isAbsolute = true
      · rw [join, if_pos absolutePath, absolutePath]
      · rw [join, if_neg absolutePath]
        split
        · simp [isAbsolute, first]
        · simp [isAbsolute, first]

theorem isAbsolute_foldl_join
    {start : Path} (absolute : start.isAbsolute = true) (steps : List Component) :
    (steps.foldl (fun prior step => join prior step.text) start).isAbsolute = true := by
  induction steps generalizing start with
  | nil =>
      exact absolute
  | cons step rest inductionHypothesis =>
      exact inductionHypothesis (isAbsolute_join absolute step.text)

theorem isAbsolute_absoluteFrom
    {directory path : Path}
    (absolute : path.isAbsolute = true ∨ directory.isAbsolute = true) :
    (absoluteFrom directory path).isAbsolute = true := by
  unfold absoluteFrom
  extract_lets steps start whole
  have startAbsolute : isAbsolute start = true := by
    rcases absolute with absolutePath | absoluteDirectory
    · simp only [start, if_pos absolutePath]
      split
      · rfl
      · rfl
    · simp only [start]
      split
      · split
        · rfl
        · rfl
      · exact absoluteDirectory
  have wholeAbsolute : isAbsolute whole = true := isAbsolute_foldl_join startAbsolute steps
  split
  · exact isAbsolute_join wholeAbsolute []
  · exact wholeAbsolute

/-- The last part of a path is a name of its own, not one of `.` and `..`, and no separator stands
behind it.  The names before it lead to the directory that holds it. -/
structure EndsWithName (path : Path) (before : List Bytes) (name : Bytes) : Prop where
  names_eq : names path = before ++ [name]
  noSeparator : path.endsWithSlash = false
  notDot : name ≠ dot
  notDotDot : name ≠ dotDot

theorem EndsWithName.join
    (base : Path) {name : Bytes}
    (present : name ≠ []) (whole : slash ∉ name) (notDot : name ≠ dot) (notDotDot : name ≠ dotDot) :
    EndsWithName (Path.join base name) (names base) name := by
  have entry : IsEntryName name := ⟨present, whole, notDot, notDotDot⟩
  refine ⟨?_, ?_, notDot, notDotDot⟩
  · rw [names_join base entry.relative, entry.names_eq]
  · rw [endsWithSlash_join base entry.relative present, endsWithSlash, beq_eq_false_iff_ne]
    intro last
    exact whole (List.mem_of_getLast? last)

/-- An absolute path in which every name is that of an entry. -/
structure IsPlain (path : Path) : Prop where
  absolute : path.isAbsolute = true
  named : ∀ name ∈ names path, name ≠ dot ∧ name ≠ dotDot

theorem IsPlain.join {base : Path} {name : Bytes} (plain : IsPlain base)
    (entry : IsEntryName name) : IsPlain (Path.join base name) where
  absolute := isAbsolute_join plain.absolute name
  named := by
    rw [names_join base entry.relative, entry.names_eq]
    intro part member
    rcases List.mem_append.mp member with inBase | last
    · exact plain.named part inBase
    · rw [List.mem_singleton.mp last]
      exact ⟨entry.notDot, entry.notDotDot⟩

end RunManifest.Path
