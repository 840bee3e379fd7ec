import RunManifest.Manifest
import RunManifest.Yaml.Document

/-!
Settings: where files are written, which protocol a port has by default, and which schemas the
documents follow. They are read from a document in which every field may be missing.
-/

namespace RunManifest

structure Settings where
  outputDirectory? : Option Text := none
  defaultProtocol : Protocol := .tcp
  schema : SchemaVersions := {}
deriving DecidableEq, Repr

inductive SettingsFault
  | syntaxFault (fault : Yaml.SyntaxFault)
  | unexpectedNode (expected : Text)
  | repeatedField (name : Text)
deriving DecidableEq, Repr

namespace SettingsFault

def message : SettingsFault → Text
  | syntaxFault fault => fault.message
  | unexpectedNode expected => "expected ".toList ++ expected
  | repeatedField name => "repeated field ".toList ++ name

end SettingsFault

namespace Settings

open Yaml

/-- The text of a scalar. Its style and its tag do not matter. -/
def textOf (document : Document) (node : Node) : Except SettingsFault Text :=
  match document.resolve node with
  | .scalar _ content _ => .ok content
  | _ => .error (.unexpectedNode "a text".toList)

def nullTag : Bytes :=
  Utf8.encode "tag:yaml.org,2002:null".toList

/-- The text of a scalar, or none for a plain scalar that is empty or spells null. A plain scalar
with a tag is a text, unless the tag is that of null: then it has to spell null. -/
def textOrNull (document : Document) (node : Node) : Except SettingsFault (Option Text) :=
  match document.resolve node with
  | .scalar properties content true =>
      if properties.tag? = some nullTag then
        if nullTexts.contains content then .ok none
        else .error (.unexpectedNode "null".toList)
      else if properties.tag? = none ∧ (content = [] ∨ nullTexts.contains content) then
        .ok none
      else
        .ok (some content)
  | other => (textOf document other).map some

def protocolNamed (name : Text) : Except SettingsFault Protocol :=
  if name = Protocol.tcp.name then .ok .tcp
  else if name = Protocol.udp.name then .ok .udp
  else .error (.unexpectedNode "TCP or UDP".toList)

/-- The name in a tag that begins with an exclamation mark, which is the mark itself if nothing
follows it. -/
def variantName? (tag : Bytes) : Option Text :=
  match tag with
  | [] => none
  | mark :: rest =>
      if mark = 0x21 then (Utf8.decode (if rest = [] then [mark] else rest)).toOption
      else none

/-- The protocol that a scalar names, either by its text or by its tag. A scalar with such a tag
must hold nothing else. -/
def protocolOf (document : Document) (node : Node) : Except SettingsFault Protocol :=
  match document.resolve node with
  | .scalar properties content isPlain =>
      match properties.tag?.bind variantName? with
      | none => protocolNamed content
      | some name =>
          if isPlain ∧ (content = [] ∨ nullTexts.contains content) then protocolNamed name
          else .error (.unexpectedNode "null".toList)
  | _ => .error (.unexpectedNode "a protocol".toList)

/-- The fields of a mapping. A scalar for which nothing is written counts as an empty mapping. -/
def fieldsOf (document : Document) (node : Node) : Except SettingsFault (List (Node × Node)) :=
  match document.resolve node with
  | .mapping _ fields => .ok fields
  | .scalar _ [] true => .ok []
  | _ => .error (.unexpectedNode "a mapping".toList)

def namedFields (document : Document) (node : Node) :
    Except SettingsFault (List (Text × Node)) := do
  (← fieldsOf document node).mapM fun field => return (← textOf document field.1, field.2)

def readField {Value : Type}
    (fields : List (Text × Node)) (name : Text) (default : Value)
    (read : Node → Except SettingsFault Value) : Except SettingsFault Value :=
  match fields.filter fun field => field.1 = name with
  | [] => .ok default
  | [field] => read field.2
  | _ => .error (.repeatedField name)

/-! ## Settings -/

def schemaOf (document : Document) (node : Node) : Except SettingsFault SchemaVersions := do
  let fields ← namedFields document node
  let standard : SchemaVersions := {}
  let version (name : String) (default : Text) :=
    readField fields name.toList default (textOf document)
  let service ← version "service_api_version" standard.service
  let deployment ← version "deployment_api_version" standard.deployment
  let pipeline ← version "pipeline_api_version" standard.pipeline
  return { service, deployment, pipeline }

/-- The settings that a document tells. Fields with other names are passed over. -/
def ofDocument (document : Document) : Except SettingsFault Settings := do
  let fields ← namedFields document document.root
  let outputDirectory? ← readField fields "output_dir".toList none (textOrNull document)
  let defaultProtocol ← readField fields "default_protocol".toList .tcp (protocolOf document)
  let schema ← readField fields "schema".toList {} (schemaOf document)
  return { outputDirectory?, defaultProtocol, schema }

/-- The settings in the text of a settings file. A text without content leaves all of them as they
are by default. -/
def parse (text : Text) : Except SettingsFault Settings :=
  if Text.trim text = [] then
    .ok {}
  else
    match Document.read? text with
    | .error fault => .error (.syntaxFault fault)
    | .ok none => .ok {}
    | .ok (some document) => ofDocument document

end Settings

end RunManifest
