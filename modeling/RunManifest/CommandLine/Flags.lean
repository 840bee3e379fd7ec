import RunManifest.CommandLine.Words

/-!
Flags and positional words of a command line.

Reading gives a list of items in the order of the words. A flag is a value flag by its spelling
(`--key=value`, `-k=value`) or by its name: the flags of `longValueFlags` and `shortValueFlags`
take the rest of their word or the next word.
-/

namespace RunManifest.CommandLine

/-- One thing that a command line says. -/
inductive Item
  | value (flag value : Text)
  | switch (flag : Text)
  | positional (word : Text)
deriving DecidableEq, Repr

def longValueFlags : List Text :=
  [ "port", "publish", "env", "name", "volume", "network", "workdir", "user", "hostname",
    "entrypoint", "env-file", "label", "memory", "restart", "platform", "cpus", "mount",
    "add-host", "expose", "log-driver", "device", "link", "dns", "cap-add", "cap-drop", "gpus",
    "pull", "shm-size", "ulimit", "stop-signal" ].map String.toList

/-- The short flags that take the rest of their word, or else the next word, as their value. -/
def shortValueFlags : List Char :=
  ['p', 'e', 'v', 'w', 'u', 'h', 'l', 'm']

/-- What a word is by its spelling alone. -/
inductive WordForm
  | terminator
  | long (body : Text)
  | assignment (flag : Char) (value : Text)
  | cluster (flags : Text)
  | plain
deriving DecidableEq, Repr

def wordForm : Text → WordForm
  | ['-', '-'] => .terminator
  | '-' :: '-' :: body => .long body
  | '-' :: flag :: '=' :: value => .assignment flag value
  | '-' :: flag :: flags => .cluster (flag :: flags)
  | _ => .plain

/-- A text without the `=` that it may begin with. -/
def dropEquals : Text → Text
  | '=' :: value => value
  | text => text

def clusterItems (next? : Option Text) : Text → List Item × Bool
  | [] => ([], false)
  | flag :: rest =>
      if flag ∈ shortValueFlags then
        match dropEquals rest, next? with
        | [], some next => ([.value [flag] next], true)
        | [], none => ([.switch [flag]], false)
        | value, _ => ([.value [flag] value], false)
      else
        let (items, taken) := clusterItems next? rest
        (.switch [flag] :: items, taken)

def items : List Text → List Item
  | [] => []
  | word :: rest =>
      match wordForm word with
      | .terminator => rest.map .positional
      | .long body =>
          match Text.splitOnce '=' body with
          | some (flag, value) => .value flag value :: items rest
          | none =>
              if body ∈ longValueFlags then
                match rest with
                | [] => [.switch body]
                | value :: others => .value body value :: items others
              else
                .switch body :: items rest
      | .assignment flag value => .value [flag] value :: items rest
      | .cluster flags =>
          match rest with
          | [] => (clusterItems none flags).1
          | next :: others =>
              let (found, taken) := clusterItems (some next) flags
              found ++ if taken then items others else items (next :: others)
      | .plain => .positional word :: items rest

/-! ## Flags -/

/-- The flags of a command line: values and switches by kind, each in the order of the words. -/
structure Flags where
  values : List (Text × Text)
  switches : List Text
  positionals : List Text
deriving DecidableEq, Repr

namespace Flags

def ofItems (items : List Item) : Flags where
  values := items.filterMap fun
    | .value flag value => some (flag, value)
    | _ => none
  switches := items.filterMap fun
    | .switch flag => some flag
    | _ => none
  positionals := items.filterMap fun
    | .positional word => some word
    | _ => none

def ofWords (words : List Text) : Flags :=
  ofItems (items words)

def ofCommandLine (text : Text) : Flags :=
  ofWords (dropInvocation (words text))

def valuesOf (flags : Flags) (names : List Text) : List Text :=
  (flags.values.filter fun entry => entry.1 ∈ names).map Prod.snd

def lastValue? (flags : Flags) (names : List Text) : Option Text :=
  (flags.valuesOf names).getLast?

/-- Was a flag given without a value? -/
def hasSwitch (flags : Flags) (names : List Text) : Bool :=
  flags.switches.any fun flag => flag ∈ names

def onValues : List Text :=
  ["true", "1", "yes", "on"].map String.toList

/-- Is a flag turned on? Its last value decides, and without one a switch turns it on. -/
def isEnabled (flags : Flags) (names : List Text) : Bool :=
  match flags.lastValue? names with
  | some value => onValues.contains (Text.toLower value)
  | none => flags.hasSwitch names

end Flags

end RunManifest.CommandLine
