import RunManifest.Yaml.Token

/-!
Nodes of documents that have been read, and the reader that makes them from tokens.

Anchors are numbered by the count of different names met before them. A name that is set again
takes a new number, and an alias stands for the last node with its number.
-/

namespace RunManifest.Yaml

/-- What is said of a node before it: the number of its anchor and its tag. -/
structure Properties where
  anchor? : Option Nat := none
  tag? : Option Bytes := none
deriving DecidableEq, Repr

/-- A node of a document that has been read. -/
inductive Node
  | scalar (properties : Properties) (content : Text) (isPlain : Bool)
  | sequence (properties : Properties) (items : List Node)
  | mapping (properties : Properties) (fields : List (Node × Node))
  | reference (number : Nat)

namespace Node

def nothing : Node :=
  .scalar {} [] true

def properties : Node → Properties
  | scalar properties _ _ => properties
  | sequence properties _ => properties
  | mapping properties _ => properties
  | reference _ => {}

/-- A node under the number of its anchor, if it has one. -/
def underAnchor (node : Node) : List (Nat × Node) :=
  match node.properties.anchor? with
  | none => []
  | some number => [(number, node)]

mutual

def anchored : Node → List (Nat × Node)
  | scalar properties content isPlain => underAnchor (.scalar properties content isPlain)
  | reference _ => []
  | sequence properties items =>
      underAnchor (.sequence properties items) ++ anchoredItems items
  | mapping properties fields =>
      underAnchor (.mapping properties fields) ++ anchoredFields fields

def anchoredItems : List Node → List (Nat × Node)
  | [] => []
  | item :: rest => anchored item ++ anchoredItems rest

def anchoredFields : List (Node × Node) → List (Nat × Node)
  | [] => []
  | (key, value) :: rest => anchored key ++ anchored value ++ anchoredFields rest

end

end Node

abbrev Handles := List (Text × Bytes)

def standardHandles : Handles :=
  [("!".toList, Utf8.encode "!".toList),
    ("!!".toList, Utf8.encode "tag:yaml.org,2002:".toList)]

/-- A reader of nodes: the tokens that are left and the numbers of the anchors so far. -/
structure NodeReader where
  tokens : List Token
  anchors : List (Text × Nat)

namespace NodeReader

def moveTo (reader : NodeReader) (tokens : List Token) : NodeReader :=
  { reader with tokens }

def tagOf (handles : Handles) (form : TagForm) : Except SyntaxFault Bytes :=
  if form.handle = [] then
    .ok form.suffix
  else
    match handles.lookup form.handle with
    | none => .error .badTag
    | some start => .ok (start ++ form.suffix)

/-- The name of an anchor and a tag at the beginning of tokens, in either order, and the tokens
after them. -/
def propertyTokens : List Token → Option Text × Option TagForm × List Token
  | .anchor name :: .tag form :: rest => (some name, some form, rest)
  | .tag form :: .anchor name :: rest => (some name, some form, rest)
  | .anchor name :: rest => (some name, none, rest)
  | .tag form :: rest => (none, some form, rest)
  | tokens => (none, none, tokens)

theorem length_propertyTokens_le (tokens : List Token) :
    (propertyTokens tokens).2.2.length ≤ tokens.length := by
  unfold propertyTokens
  split <;> simp <;> omega

def numbered (anchors : List (Text × Nat)) (name : Text) : List (Text × Nat) :=
  (name, anchors.length) :: anchors.filter fun entry => entry.1 ≠ name

def declare (reader : NodeReader) (handles : Handles) (name? : Option Text)
    (form? : Option TagForm) : Except SyntaxFault (Properties × List (Text × Nat)) := do
  let tag? ← form?.mapM (tagOf handles)
  match name? with
  | none => return ({ tag? }, reader.anchors)
  | some name =>
      return ({ anchor? := some reader.anchors.length, tag? }, numbered reader.anchors name)

def isMissing (tokens ends : List Token) : Bool :=
  tokens.head?.any fun token => token ∈ ends

def bareNode (properties : Properties) (reader : NodeReader) :
    Except SyntaxFault (Node × NodeReader) :=
  if properties = {} then .error .unexpectedToken
  else .ok (.scalar properties [] true, reader)

def itemEnds : List Token := [.entry, .blockEnd]

/-- The tokens that end an item of a sequence without indentation of its own. -/
def looseItemEnds : List Token := [.entry, .key, .value, .blockEnd]

def fieldEnds : List Token := [.key, .value, .blockEnd]

def flowItemEnds : List Token := [.comma, .flowSequenceEnd]

def flowFieldEnds : List Token := [.comma, .flowMappingEnd]

def afterComma (isFirst : Bool) (tokens : List Token) :
    Except SyntaxFault { rest : List Token // rest.length ≤ tokens.length } :=
  if isFirst then
    .ok ⟨tokens, Nat.le_refl _⟩
  else
    match tokens with
    | .comma :: rest => .ok ⟨rest, by simp⟩
    | _ => .error .unexpectedToken

/-- What was read of a collection, which has to be something: its reader must have moved on. -/
def progress {Part : Type} (reader : NodeReader) (read : Part × NodeReader) :
    Except SyntaxFault
      { read : Part × NodeReader // read.2.tokens.length < reader.tokens.length } :=
  if shorter : read.2.tokens.length < reader.tokens.length then .ok ⟨read, shorter⟩
  else .error .unexpectedToken

mutual

/-- The node that comes next. Collections told by their indentation may only stand outside of
brackets, and sequences without indentation of their own only in mappings. -/
def node (handles : Handles) (inBlock inMapping : Bool) (reader : NodeReader) :
    Except SyntaxFault (Node × NodeReader) :=
  match reader.tokens with
  | .reference name :: rest =>
      match reader.anchors.lookup name with
      | none => .error .unknownAnchor
      | some number => .ok (.reference number, reader.moveTo rest)
  | _ => do
      let (name?, form?, _) := propertyTokens reader.tokens
      let (properties, anchors) ← reader.declare handles name? form?
      have _shorter := length_propertyTokens_le reader.tokens
      match _more : (propertyTokens reader.tokens).2.2 with
      | .scalar content isPlain :: rest =>
          return (.scalar properties content isPlain, ⟨rest, anchors⟩)
      | .flowSequenceStart :: rest =>
          let (items, last) ← flowItems handles true ⟨rest, anchors⟩
          return (.sequence properties items, last)
      | .flowMappingStart :: rest =>
          let (fields, last) ← flowFields handles true ⟨rest, anchors⟩
          return (.mapping properties fields, last)
      | .entry :: rest =>
          if inMapping then
            let (items, last) ← blockItems handles true ⟨.entry :: rest, anchors⟩
            return (.sequence properties items, last)
          else
            bareNode properties ⟨.entry :: rest, anchors⟩
      | .blockSequenceStart :: rest =>
          if inBlock then
            let (items, last) ← blockItems handles false ⟨rest, anchors⟩
            return (.sequence properties items, last)
          else
            bareNode properties ⟨.blockSequenceStart :: rest, anchors⟩
      | .blockMappingStart :: rest =>
          if inBlock then
            let (fields, last) ← blockFields handles ⟨rest, anchors⟩
            return (.mapping properties fields, last)
          else
            bareNode properties ⟨.blockMappingStart :: rest, anchors⟩
      | rest => bareNode properties ⟨rest, anchors⟩
termination_by 3 * reader.tokens.length + 1
decreasing_by all_goals grind

/-- The items of a sequence told by its indentation, up to its end. A loose sequence, which has no
indentation of its own, ends before the first token that is no dash. -/
def blockItems (handles : Handles) (isLoose : Bool) (reader : NodeReader) :
    Except SyntaxFault (List Node × NodeReader) := do
  match _more : reader.tokens with
  | .entry :: rest =>
      let ⟨(item, next), _⟩ ← progress reader <| ←
        if isMissing rest (if isLoose then looseItemEnds else itemEnds) then
          pure (.nothing, reader.moveTo rest)
        else
          node handles true false (reader.moveTo rest)
      let (items, last) ← blockItems handles isLoose next
      return (item :: items, last)
  | .blockEnd :: rest => return ([], if isLoose then reader else reader.moveTo rest)
  | _ => if isLoose then return ([], reader) else throw .unexpectedToken
termination_by 3 * reader.tokens.length
decreasing_by all_goals grind [moveTo]

def blockFields (handles : Handles) (reader : NodeReader) :
    Except SyntaxFault (List (Node × Node) × NodeReader) := do
  match _more : reader.tokens with
  | .key :: rest =>
      let ⟨(key, afterKey), _⟩ ← progress reader <| ←
        if isMissing rest fieldEnds then
          pure (.nothing, reader.moveTo rest)
        else
          node handles true true (reader.moveTo rest)
      let ⟨(value, next), _⟩ ← progress reader <| ←
        fieldValue handles true fieldEnds afterKey
      let (fields, last) ← blockFields handles next
      return ((key, value) :: fields, last)
  | .blockEnd :: rest => return ([], reader.moveTo rest)
  | _ => throw .unexpectedToken
termination_by 3 * reader.tokens.length
decreasing_by all_goals grind [moveTo]

def fieldValue (handles : Handles) (inBlock : Bool) (ends : List Token) (reader : NodeReader) :
    Except SyntaxFault (Node × NodeReader) :=
  match _more : reader.tokens with
  | .value :: rest =>
      if isMissing rest ends then
        .ok (.nothing, reader.moveTo rest)
      else
        node handles inBlock inBlock (reader.moveTo rest)
  | _ => .ok (.nothing, reader)
termination_by 3 * reader.tokens.length
decreasing_by all_goals grind [moveTo]

/-- The items of a sequence between square brackets, up to its end. A key makes an item that is a
mapping with one field. After a key for which nothing is written, one more token is passed over. -/
def flowItems (handles : Handles) (isFirst : Bool) (reader : NodeReader) :
    Except SyntaxFault (List Node × NodeReader) := do
  match reader.tokens with
  | .flowSequenceEnd :: rest => return ([], reader.moveTo rest)
  | _ =>
      let ⟨tokens, _⟩ ← afterComma isFirst reader.tokens
      match _more : tokens with
      | .flowSequenceEnd :: rest => return ([], reader.moveTo rest)
      | .key :: rest =>
          let ⟨(key, afterKey), _⟩ ← progress reader <| ←
            if isMissing rest (.value :: flowItemEnds) then
              pure (.nothing, reader.moveTo rest.tail)
            else
              node handles false false (reader.moveTo rest)
          let ⟨(value, next), _⟩ ← progress reader <| ←
            fieldValue handles false flowItemEnds afterKey
          let (items, last) ← flowItems handles false next
          return (.mapping {} [(key, value)] :: items, last)
      | _ =>
          let ⟨(item, next), _⟩ ← progress reader <| ←
            node handles false false (reader.moveTo tokens)
          let (items, last) ← flowItems handles false next
          return (item :: items, last)
termination_by 3 * reader.tokens.length + 2
decreasing_by all_goals grind [moveTo]

def flowFields (handles : Handles) (isFirst : Bool) (reader : NodeReader) :
    Except SyntaxFault (List (Node × Node) × NodeReader) := do
  match reader.tokens with
  | .flowMappingEnd :: rest => return ([], reader.moveTo rest)
  | _ =>
      let ⟨tokens, _⟩ ← afterComma isFirst reader.tokens
      match _more : tokens with
      | .flowMappingEnd :: rest => return ([], reader.moveTo rest)
      | .key :: rest =>
          let ⟨(key, afterKey), _⟩ ← progress reader <| ←
            if isMissing rest (.value :: flowFieldEnds) then
              pure (.nothing, reader.moveTo rest)
            else
              node handles false false (reader.moveTo rest)
          let ⟨(value, next), _⟩ ← progress reader <| ←
            fieldValue handles false flowFieldEnds afterKey
          let (fields, last) ← flowFields handles false next
          return ((key, value) :: fields, last)
      | _ =>
          let ⟨(key, next), _⟩ ← progress reader <| ←
            node handles false false (reader.moveTo tokens)
          let (fields, last) ← flowFields handles false next
          return ((key, .nothing) :: fields, last)
termination_by 3 * reader.tokens.length + 2
decreasing_by all_goals grind [moveTo]

end

end NodeReader

/-- A document: its outermost node and the nodes with anchors. -/
structure Document where
  root : Node
  anchored : List (Nat × Node)

namespace Document

def resolve (document : Document) (node : Node) : Node :=
  match node with
  | .reference number => (document.anchored.reverse.lookup number).getD node
  | _ => node

def directives : List Token → List Directive × List Token
  | .directive value :: rest => (value :: (directives rest).1, (directives rest).2)
  | tokens => ([], tokens)

/-- Checks directives and gives the handles that they declare. Every handle and the version may be
told once, and the version has to be 1.1 or 1.2. -/
def declared (hasVersion : Bool) (handles : Handles) :
    List Directive → Except SyntaxFault Handles
  | [] => .ok handles
  | .version major minor :: rest =>
      if !hasVersion && major == 1 && (minor == 1 || minor == 2) then
        declared true handles rest
      else
        .error .badDirective
  | .tag handle start :: rest =>
      if (handles.lookup handle).isSome then .error .badDirective
      else declared hasVersion (handles ++ [(handle, start)]) rest

/-! ## Reading -/

def lacksContent : List Token → Bool
  | [] => true
  | .directive _ :: _ => true
  | .documentStart :: _ => true
  | .documentEnd :: _ => true
  | _ => false

def content (handles : Handles) (tokens : List Token) : Except SyntaxFault (Node × List Token) :=
  (NodeReader.node handles true false ⟨tokens, []⟩).map fun read => (read.1, read.2.tokens)

/-- The outermost node of the first document, and the tokens after it. A document with directives
has to be begun by its mark; nothing need follow the mark. -/
def first (tokens : List Token) : Except SyntaxFault (Node × List Token) := do
  match directives tokens with
  | (found, .documentStart :: rest) =>
      let handles ← declared false [] found
      if lacksContent rest then return (.nothing, rest)
      else content (handles ++ standardHandles) rest
  | ([], tokens) => content standardHandles tokens
  | _ => throw .unexpectedToken

/-- The document of a text, if it holds one. -/
def read? (text : Text) : Except SyntaxFault (Option Document) := do
  match ← tokens text with
  | [] => return none
  | found =>
      let (root, rest) ← first found
      if rest.all (· == .documentEnd) then
        return some { root, anchored := root.anchored }
      else
        throw .severalDocuments

end Document

end RunManifest.Yaml
