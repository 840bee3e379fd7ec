import RunManifest.Text.Utf8

/-!
Paths: byte strings in which `/` separates names.

A path is kept as it is written. What it means is told by `components`, the sequence of its steps;
`join`, `parents`, `afterTilde?` and `absolute` work on the written form and say in their laws what
they do to the steps.
-/

namespace RunManifest

abbrev Path := Bytes

namespace Path

def slash : UInt8 := 0x2F

def dot : Bytes := [0x2E]

def dotDot : Bytes := [0x2E, 0x2E]

def ofText (text : Text) : Path :=
  Utf8.encode text

def isAbsolute (path : Path) : Bool :=
  path.head? == some slash

/-- Does a path end with a separator, so that it can only lead to a directory? -/
def endsWithSlash (path : Path) : Bool :=
  path.getLast? == some slash

/-! ## Pieces and components -/

/-- The parts of a path between its separators; some may be empty. -/
def pieces : Path → List Bytes
  | [] => [[]]
  | byte :: rest =>
      if byte = slash then
        [] :: pieces rest
      else
        match pieces rest with
        | [] => [[byte]]
        | first :: others => (byte :: first) :: others

def ofPieces (parts : List Bytes) : Path :=
  [slash].intercalate parts

/-- The names of a path: its parts that are not empty. -/
def names (path : Path) : List Bytes :=
  (pieces path).filter fun part => part ≠ []

/-- A step of a path. -/
inductive Component
  | root
  | current
  | parent
  | normal (name : Bytes)
deriving DecidableEq, Repr

/-- The step of a name, if it is one. -/
def component? (name : Bytes) : Option Component :=
  if name = dot then none
  else if name = dotDot then some .parent
  else some (.normal name)

def components (path : Path) : List Component :=
  let start : List Component :=
    if path.isAbsolute then [.root]
    else if (pieces path).head? = some dot then [.current]
    else []
  start ++ (names path).filterMap component?

/-- The path that leads from `base` along `path`. An absolute path stays as it is. -/
def join (base path : Path) : Path :=
  if path.isAbsolute then path
  else if base = [] ∨ base.endsWithSlash then base ++ path
  else base ++ slash :: path

def Component.text : Component → Path
  | root => [slash]
  | current => dot
  | parent => dotDot
  | normal name => name

def ofComponents (steps : List Component) : Path :=
  steps.foldl (fun path step => join path step.text) []

/-- The paths to the directories that lead to the end of some steps, the innermost first. The steps
are given from the last to the first. -/
def parentsOf : List Component → List Path
  | [] => []
  | [.root] => []
  | _ :: before => ofComponents before.reverse :: parentsOf before

def parents (path : Path) : List Path :=
  parentsOf (components path).reverse

def isIdle (part : Bytes) : Bool :=
  part = [] || part = dot

/-- What follows a leading `~` of a path, without separators and dots at its two ends. -/
def afterTilde? (path : Path) : Option Path :=
  match pieces path with
  | [] => none
  | first :: others =>
      if first = ofText ['~'] then
        let trimmed := ((others.dropWhile isIdle).reverse.dropWhile isIdle).reverse
        some (ofPieces trimmed)
      else
        none

/-- The absolute form of a path that is not empty, seen from an absolute directory: doubled
separators and dots disappear, but steps to the directory above stay, as do two separators at the
beginning and one at the end. -/
def absoluteFrom (directory path : Path) : Path :=
  let steps := (components path).filter fun step => step ≠ .current ∧ step ≠ .root
  let start :=
    if path.isAbsolute then
      if path.take 2 = [slash, slash] ∧ path.take 3 ≠ [slash, slash, slash] then [slash, slash]
      else [slash]
    else
      directory
  let whole := steps.foldl (fun prior step => join prior step.text) start
  if path.endsWithSlash then join whole [] else whole

/-- The text of a path, if it is one. -/
def toText? (path : Path) : Option Text :=
  (Utf8.decode path).toOption

def shown (path : Path) : Text :=
  Utf8.decodeLossy path

end Path

end RunManifest
