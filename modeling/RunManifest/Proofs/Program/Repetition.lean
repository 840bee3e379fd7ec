import RunManifest.Proofs.Output.Overwriting
import RunManifest.Proofs.Program.Generating
import RunManifest.Proofs.Settings.Search

/-!
# Running again

A run for a command with a name of its own can be repeated: with the same arguments it writes the
same files to the same places, where they stand already.  The only way in which its own files can
make a difference is that the search for settings comes upon them, or upon a file to which a path
leads only through directories that the run has made.
-/

namespace RunManifest

open Outcomes

/-- Settings that make no difference to a run: what is read with them, what is written, and under
which directory. -/
structure Settings.Agree
    (host : Host) (given? : Option Path) (settings others : Settings) : Prop where
  defaultProtocol : others.defaultProtocol = settings.defaultProtocol
  schema : others.schema = settings.schema
  outputRoot : outputRoot host given? others = outputRoot host given? settings

namespace Surroundings

open OutputPaths

variable {around : Surroundings} {source : Arguments.SourceOptions}
variable {outputDirectory? : Option Text} {arguments : List Text} {number : Nat}
variable {settings others : Settings} {text name reference : Text} {command : ContainerCommand}
variable {root : Path} {paths : OutputPaths} {artifacts : Artifacts} {outcome : Outcome}

/-- The surroundings in which a run starts after another one: they differ in the files that it has
left and in the numbers for made-up names. -/
def after (around : Surroundings) (outcome : Outcome) (number : Nat) : Surroundings where
  host := around.host.withFiles outcome.files
  platform := around.platform
  input := around.input
  freshNumber := number

/-- A settings file on a later system is no reason for a run to go another way than the one that has
written the files: it could be found before and is neither of the two files, or what it tells makes
no difference. -/
inductive Harmless (around : Surroundings) (given? : Option Path) (settings : Settings)
    (paths : OutputPaths) (later : Host) (path : Path) : Prop
  | apart
      (stood : around.host.exists? path = true)
      (notManifest :
        later.files.locate later.base path ≠ later.files.locate later.base paths.manifest)
      (notPipeline :
        later.files.locate later.base path ≠ later.files.locate later.base paths.pipeline)
  | agrees {others : Settings}
      (told : Settings.loadFrom later path = .ok others)
      (agree : Settings.Agree around.host given? settings others)

end Surroundings

end RunManifest
