import RunManifest.Files.Tree

/-!
What the system does with paths on a file tree: finding, reading, writing, making and removing.

A path is followed name by name from the root or from the directory in which relative paths start.
An operation that fails leaves the tree as it is; only `makeDirectories` and `remove`, which change
several entries, can fail after part of their work.

A path leads to a place: a location of the tree, or a directory that has been removed while somebody
still stands in it. Such a directory is empty and stays so, whatever is made at its location
afterwards, but the way up from it leads on to the directories that are left.
-/

namespace RunManifest

/-- A place to which a path leads. -/
structure Place where
  location : Location
  /-- How many directories on the way to the location have been removed, from the innermost one
  outwards. Without any, the place is what stands at the location. -/
  removed : Nat := 0
deriving DecidableEq, Repr

namespace Place

def root : Place where
  location := []

def lost : Place where
  location := [[]]
  removed := 1

def isRemoved (place : Place) : Bool :=
  0 < place.removed

/-- The directory above a place. The root is above itself. -/
def above (place : Place) : Place where
  location := place.location.tail
  removed := place.removed - 1

def missingLevels (tree : FileTree) : Location → Nat
  | [] => 0
  | name :: parent =>
      if tree.get? (name :: parent) = some .directory then 0
      else missingLevels tree parent + 1

/-- What has become of a directory now that the tree is what it is. A directory that has been
removed stays so. -/
def settle (place : Place) (tree : FileTree) : Place where
  location := place.location
  removed := place.removed + missingLevels tree (place.location.drop place.removed)

end Place

namespace FileTree

/-- What stands at a place. A removed directory still is a directory for those who stand in it. -/
def entryAt? (tree : FileTree) (place : Place) : Option Entry :=
  if place.isRemoved then some .directory else tree.get? place.location

def nameLimit : Nat := 255

/-- The place to which a name leads from a place, which must be a directory. -/
def enter (tree : FileTree) (here : Place) (name : Bytes) : Except SystemError Place :=
  match tree.entryAt? here with
  | none => .error .notFound
  | some (.file _) => .error .notADirectory
  | some .directory =>
      if name = Path.dot then .ok here
      else if name = Path.dotDot then .ok here.above
      else if here.isRemoved then .error .notFound
      else if nameLimit < name.length then .error .nameTooLong
      else if tree.get? (name :: here.location) = none then .error .notFound
      else .ok ⟨name :: here.location, 0⟩

def walk (tree : FileTree) (here : Place) (names : List Bytes) : Except SystemError Place :=
  names.foldlM (enter tree) here

end FileTree

abbrev Base := Place

namespace FileTree

def pathLimit : Nat := 4096

def startOf (base : Base) (path : Path) : Except SystemError Place :=
  if 0 ∈ path then .error .zeroByte
  else if path = [] then .error .notFound
  else if pathLimit ≤ path.length then .error .nameTooLong
  else if Path.isAbsolute path then .ok .root
  else .ok base

/-- The place to which a path leads. A separator at its end asks for a directory. -/
def locate (tree : FileTree) (base : Base) (path : Path) : Except SystemError Place := do
  let start ← startOf base path
  tree.walk start (Path.names path ++ if Path.endsWithSlash path then [Path.dot] else [])

def lookup? (tree : FileTree) (base : Base) (path : Path) : Option Entry :=
  match tree.locate base path with
  | .ok place => tree.entryAt? place
  | .error _ => none

def exists? (tree : FileTree) (base : Base) (path : Path) : Bool :=
  (tree.lookup? base path).isSome

def isDirectory (tree : FileTree) (base : Base) (path : Path) : Bool :=
  tree.lookup? base path == some .directory

def isFile (tree : FileTree) (base : Base) (path : Path) : Bool :=
  match tree.lookup? base path with
  | some (.file _) => true
  | _ => false

/-- What the last name of a path stands for. -/
inductive Target (tree : FileTree)
  | unnamed
  | nowhere
  | slot (slot : Slot tree)

/-- What the last name of a path stands for. Everything before it has to exist. -/
def target (tree : FileTree) (base : Base) (path : Path) : Except SystemError (Target tree) := do
  let start ← startOf base path
  match (Path.names path).reverse with
  | [] => return .unnamed
  | name :: before =>
      let here ← tree.walk start before.reverse
      let isUnnamed : Bool := name = Path.dot ∨ name = Path.dotDot
      if here.isRemoved then
        return if isUnnamed then .unnamed else .nowhere
      else if inside : tree.get? here.location = some .directory then
        return if isUnnamed then .unnamed else .slot ⟨here.location, name, inside⟩
      else
        throw .notADirectory

def readFile (tree : FileTree) (base : Base) (path : Path) : Except SystemError Bytes := do
  let place ← tree.locate base path
  match tree.entryAt? place with
  | some (.file file) =>
      match file.readRefusal? with
      | some refusal => throw refusal
      | none => return file.content
  | some .directory => throw .isADirectory
  | none => throw .notFound

/-- Puts a file at a path. A file that stands there has to be open to the program, and the directory
in which it stands has to exist. -/
def storeFile (tree : FileTree) (base : Base) (path : Path) (file : File) :
    Except SystemError FileTree := do
  match ← tree.target base path with
  | .unnamed => throw .isADirectory
  | .nowhere => throw (if Path.endsWithSlash path then .isADirectory else .notFound)
  | .slot slot =>
      if Path.endsWithSlash path then
        throw .isADirectory
      else if nameLimit < slot.name.length then
        throw .nameTooLong
      else if occupied : tree.get? slot.location = some .directory then
        throw .isADirectory
      else
        match (tree.get? slot.location).bind Entry.writeRefusal? with
        | some refusal => throw refusal
        | none => return tree.put slot (.file file) (.inr occupied)

/-- Gives the file at a path a content. It is refused before the file is opened or not at all. -/
def writeFile (tree : FileTree) (base : Base) (path : Path) (content : Bytes) :
    Except SystemError FileTree :=
  tree.storeFile base path content

def removeFile (tree : FileTree) (base : Base) (path : Path) : Except SystemError FileTree := do
  match ← tree.target base path with
  | .unnamed => throw .isADirectory
  | .nowhere => throw .notFound
  | .slot slot =>
      if nameLimit < slot.name.length then
        throw .nameTooLong
      else
        match tree.get? slot.location with
        | none => throw .notFound
        | some .directory => throw .isADirectory
        | some (.file _) =>
            if Path.endsWithSlash path then throw .notADirectory
            else return tree.removeAll slot.name slot.parent

/-! ## Directories -/

def makeDirectory (tree : FileTree) (base : Base) (path : Path) :
    Except SystemError FileTree := do
  match ← tree.target base path with
  | .unnamed => throw .alreadyExists
  | .nowhere => throw .notFound
  | .slot slot =>
      if nameLimit < slot.name.length then
        throw .nameTooLong
      else if tree.get? slot.location = none then
        return tree.put slot .directory (.inl rfl)
      else
        throw .alreadyExists

/-- A directory that could not be made is fine if it is there. -/
def acceptDirectory (tree : FileTree) (base : Base) (path : Path) (error : SystemError) :
    Except SystemError Unit :=
  if tree.isDirectory base path then .ok () else .error error

/-- Makes the directory at the first path, and before it those at the others as far as they are
missing. The others lead to the first one and go from the innermost outwards. -/
def makeWithParents (tree : FileTree) (base : Base) :
    List Path → FileTree × Except SystemError Unit
  | [] => (tree, .error .wholeTree)
  | path :: parents =>
      if path = [] then
        (tree, .ok ())
      else
        match tree.makeDirectory base path with
        | .ok made => (made, .ok ())
        | .error .notFound =>
            match tree.makeWithParents base parents with
            | (prepared, .error error) => (prepared, .error error)
            | (prepared, .ok ()) =>
                match prepared.makeDirectory base path with
                | .ok made => (made, .ok ())
                | .error error => (prepared, prepared.acceptDirectory base path error)
        | .error error => (tree, tree.acceptDirectory base path error)

def makeDirectories (tree : FileTree) (base : Base) (path : Path) :
    FileTree × Except SystemError Unit :=
  tree.makeWithParents base (path :: Path.parents path)

/-- Removes the directory at a path, which must be empty. -/
def removeDirectory (tree : FileTree) (base : Base) (path : Path) :
    Except SystemError FileTree := do
  match ← tree.target base path with
  | .unnamed =>
      throw <|
        match (Path.names path).getLast? with
        | none => .busy
        | some name => if name = Path.dot then .invalidArgument else .directoryNotEmpty
  | .nowhere => throw .notFound
  | .slot slot =>
      if nameLimit < slot.name.length then
        throw .nameTooLong
      else
        match tree.get? slot.location with
        | none => throw .notFound
        | some (.file _) => throw .notADirectory
        | some .directory =>
            if tree.isVacant slot.location then
              return tree.removeAll slot.name slot.parent
            else
              throw .directoryNotEmpty

/-- Removes what is in the directory at a path and, if that can be done, the directory. What is in
it is gone even if it stays. The way to it may be gone as well, and then so is the directory. -/
def removeTree (tree : FileTree) (base : Base) (path : Path) (place : Place) :
    FileTree × Except SystemError Unit :=
  let emptied := if place.isRemoved then tree else tree.removeBelow place.location
  match emptied.removeDirectory (base.settle emptied) path with
  | .ok cleared => (cleared, .ok ())
  | .error .notFound => (emptied, .ok ())
  | .error error => (emptied, .error error)

def remove (tree : FileTree) (base : Base) (path : Path) :
    FileTree × Except SystemError Unit :=
  match tree.locate base path with
  | .error error => (tree, .error error)
  | .ok place =>
      if tree.entryAt? place = some .directory then
        tree.removeTree base path place
      else
        match tree.removeFile base path with
        | .ok removed => (removed, .ok ())
        | .error error => (tree, .error error)

end FileTree

end RunManifest
