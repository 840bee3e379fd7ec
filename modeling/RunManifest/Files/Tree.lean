import RunManifest.Files.Path
import Std.Data.ExtTreeMap

/-!
File trees: which files and directories there are, and what the files hold.

A tree is a finite map from locations to entries in which everything stands in a directory. Trees
that hold the same are equal (`ext_get?`). `put`, `removeAll` and `removeBelow` are the only changes;
`get?_put`, `get?_removeAll` and `get?_removeBelow` say what they do to the view `get?`.
-/

namespace RunManifest

/-- Why the system refuses. -/
inductive SystemError
  | notFound
  | permissionDenied
  | busy
  | alreadyExists
  | notADirectory
  | isADirectory
  | invalidArgument
  | nameTooLong
  | directoryNotEmpty
  | zeroByte
  | emptyPath
  | wholeTree
  | invalidText (description : Text)
deriving DecidableEq, Repr

namespace SystemError

def message : SystemError → Text
  | notFound => "No such file or directory (os error 2)".toList
  | permissionDenied => "Permission denied (os error 13)".toList
  | busy => "Device or resource busy (os error 16)".toList
  | alreadyExists => "File exists (os error 17)".toList
  | notADirectory => "Not a directory (os error 20)".toList
  | isADirectory => "Is a directory (os error 21)".toList
  | invalidArgument => "Invalid argument (os error 22)".toList
  | nameTooLong => "File name too long (os error 36)".toList
  | directoryNotEmpty => "Directory not empty (os error 39)".toList
  | zeroByte => "file name contained an unexpected NUL byte".toList
  | emptyPath => "cannot make an empty path absolute".toList
  | wholeTree => "failed to create whole tree".toList
  | invalidText description => description

end SystemError

/-- What the program may do with a file. One that it cannot read it cannot write either. -/
inductive Access
  | full
  | readOnly (refusal : SystemError)
  | closed (refusal : SystemError)
deriving DecidableEq, Repr

/-- A file. One that the program has written is open to it. -/
structure File where
  content : Bytes
  access : Access := .full
deriving DecidableEq, Repr

namespace File

instance : Coe Bytes File where
  coe content := { content }

instance : Coe File Bytes where
  coe := content

def readRefusal? (file : File) : Option SystemError :=
  match file.access with
  | .full => none
  | .readOnly _ => none
  | .closed refusal => some refusal

def writeRefusal? (file : File) : Option SystemError :=
  match file.access with
  | .full => none
  | .readOnly refusal => some refusal
  | .closed refusal => some refusal

end File

/-- What can stand at a place of a file tree. -/
inductive Entry
  | file (file : File)
  | directory
deriving DecidableEq, Repr

/-- Why what stands at a place cannot be written as a file, if it cannot. -/
def Entry.writeRefusal? : Entry → Option SystemError
  | .file stored => stored.writeRefusal?
  | .directory => some .isADirectory

/-- A place in a file tree: the names on the way to it, from the innermost outwards. The root is
the empty list, and the directory above a place is the tail of it. -/
abbrev Location := List Bytes

namespace Location

def path (location : Location) : Path :=
  Path.slash :: Path.ofPieces location.reverse

end Location

/-- A file tree. -/
structure FileTree where
  entries : Std.ExtTreeMap Location Entry
  root : entries[([] : Location)]? = some .directory
  inDirectory :
    ∀ (name : Bytes) (parent : Location),
      entries[name :: parent]? ≠ none → entries[parent]? = some .directory

namespace FileTree

def get? (tree : FileTree) (location : Location) : Option Entry :=
  tree.entries[location]?

@[simp]
theorem get?_root (tree : FileTree) :
    tree.get? [] = some .directory :=
  tree.root

theorem get?_parent
    {tree : FileTree} {name : Bytes} {parent : Location}
    (present : tree.get? (name :: parent) ≠ none) :
    tree.get? parent = some .directory :=
  tree.inDirectory name parent present

theorem ext_get?
    {first second : FileTree}
    (same : ∀ location, first.get? location = second.get? location) :
    first = second := by
  obtain ⟨firstEntries, firstRoot, firstInside⟩ := first
  obtain ⟨secondEntries, secondRoot, secondInside⟩ := second
  have : firstEntries = secondEntries := Std.ExtTreeMap.ext_getElem? same
  subst this
  rfl

theorem get?_of_suffix
    {tree : FileTree} {outer inner : Location}
    (present : tree.get? inner ≠ none) (within : outer <:+ inner) (different : outer ≠ inner) :
    tree.get? outer = some .directory := by
  induction inner with
  | nil =>
      exact absurd (List.suffix_nil.mp within) different
  | cons name parent inductionHypothesis =>
      have parentDirectory := get?_parent present
      rcases List.suffix_cons_iff.mp within with equal | deeper
      · exact absurd equal different
      · by_cases equal : outer = parent
        · rw [equal, parentDirectory]
        · exact inductionHypothesis (by simp [parentDirectory]) deeper equal

/-! ## Changes -/

/-- A place for an entry: a name in a directory of the tree. -/
structure Slot (tree : FileTree) where
  parent : Location
  name : Bytes
  inside : tree.get? parent = some .directory

def Slot.location {tree : FileTree} (slot : Slot tree) : Location :=
  slot.name :: slot.parent

/-- The tree with an entry at a place, which must not be a directory unless the entry is one. -/
def put
    (tree : FileTree) (slot : Slot tree) (entry : Entry)
    (fits : entry = .directory ∨ tree.get? slot.location ≠ some .directory) :
    FileTree where
  entries := tree.entries.insert slot.location entry
  root := by
    simp [Std.ExtTreeMap.getElem?_insert, Slot.location, tree.root]
  inDirectory := by
    intro name parent present
    have inside := slot.inside
    have inDirectory := tree.inDirectory
    simp only [get?] at inside fits
    simp only [Std.ExtTreeMap.getElem?_insert, Std.LawfulEqCmp.compare_eq_iff_eq] at present ⊢
    grind [Slot.location]

/-- The tree without an entry and everything below it. -/
def removeAll (tree : FileTree) (name : Bytes) (parent : Location) : FileTree where
  entries := tree.entries.filter fun location _ => !(name :: parent).isSuffixOf location
  root := by
    simp [tree.root]
  inDirectory := by
    intro inner outer present
    simp only [Std.ExtTreeMap.getElem?_filter', ne_eq, Option.filter_eq_none_iff,
      Option.filter_eq_some_iff, Bool.not_eq_true'] at present ⊢
    have found : tree.entries[inner :: outer]? ≠ none := by
      intro absent
      simp [absent] at present
    refine ⟨tree.inDirectory inner outer found, ?_⟩
    grind

/-- The tree without everything below a location. -/
def removeBelow (tree : FileTree) (outer : Location) : FileTree where
  entries := tree.entries.filter fun location _ =>
    location = outer || !outer.isSuffixOf location
  root := by
    simp [tree.root]
    grind
  inDirectory := by
    intro inner parent present
    simp only [Std.ExtTreeMap.getElem?_filter', ne_eq, Option.filter_eq_none_iff,
      Option.filter_eq_some_iff] at present ⊢
    have found : tree.entries[inner :: parent]? ≠ none := by
      intro absent
      simp [absent] at present
    refine ⟨tree.inDirectory inner parent found, ?_⟩
    have shorter : outer <:+ parent → outer ≠ inner :: parent := by
      rintro within rfl
      exact absurd within.length_le (by simp)
    grind

theorem get?_put
    {tree : FileTree} {slot : Slot tree} {entry : Entry}
    (fits : entry = .directory ∨ tree.get? slot.location ≠ some .directory)
    (location : Location) :
    (tree.put slot entry fits).get? location =
      if location = slot.location then some entry else tree.get? location := by
  simp only [get?, put, Std.ExtTreeMap.getElem?_insert, Std.LawfulEqCmp.compare_eq_iff_eq]
  grind

theorem get?_removeAll
    (tree : FileTree) (name : Bytes) (parent location : Location) :
    (tree.removeAll name parent).get? location =
      if (name :: parent) <:+ location then none else tree.get? location := by
  simp only [get?, removeAll, Std.ExtTreeMap.getElem?_filter', ← List.isSuffixOf_iff_suffix]
  cases tree.entries[location]? with
  | none => simp
  | some entry =>
      simp only [Option.filter]
      grind

theorem get?_removeBelow
    (tree : FileTree) (outer location : Location) :
    (tree.removeBelow outer).get? location =
      if outer <:+ location ∧ location ≠ outer then none else tree.get? location := by
  simp only [get?, removeBelow, Std.ExtTreeMap.getElem?_filter', ← List.isSuffixOf_iff_suffix]
  cases tree.entries[location]? with
  | none => simp
  | some entry =>
      simp only [Option.filter]
      grind

def empty : FileTree where
  entries := Std.ExtTreeMap.insert ∅ [] .directory
  root := by simp
  inDirectory := by
    intro name parent present
    simp at present

def isVacant (tree : FileTree) (location : Location) : Bool :=
  tree.entries.keys.all fun other => other = [] || other.tail ≠ location

theorem isVacant_iff
    {tree : FileTree} {location : Location} :
    tree.isVacant location = true ↔ ∀ name, tree.get? (name :: location) = none := by
  simp only [isVacant, List.all_eq_true, Std.ExtTreeMap.mem_keys, get?, Bool.or_eq_true,
    decide_eq_true_eq, Std.ExtTreeMap.mem_iff_isSome_getElem?]
  constructor
  · intro vacant name
    cases found : tree.entries[name :: location]? with
    | none => rfl
    | some entry => simpa using vacant (name :: location) (by simp [found])
  · intro absent other present
    cases other with
    | nil => simp
    | cons name parent =>
        right
        rintro rfl
        have nothing := absent name
        simp only [List.tail_cons] at nothing
        simp [nothing] at present

/-- The entries of a tree except the root. -/
def toList (tree : FileTree) : List (Location × Entry) :=
  tree.entries.toList.filter fun entry => entry.1 ≠ []

end FileTree

end RunManifest
