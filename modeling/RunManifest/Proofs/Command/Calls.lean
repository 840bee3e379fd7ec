import RunManifest.Command
import RunManifest.Proofs.CommandLine.Writing
import RunManifest.Proofs.Text

/-!
# Calls of a runtime

A line can begin with the call of a runtime: `sudo`, a program, its group `container` and the
command `run`, of which everything can be missing, and what stands behind the program only if the
program is there.  As much of a call as a line begins with is dropped, and nothing more, whatever
the words behind it look like.
-/

namespace RunManifest.CommandLine

variable {word text : Text} {front longer rest line : List Text}

def runtimePrograms : List Text :=
  ["docker", "podman", "docker.exe", "podman.exe"].map String.toList

/-- A word names a runtime, with or without the folder in which the program is. -/
inductive NamesRuntime : Text → Prop
  | bare {program : Text} (known : program ∈ runtimePrograms) : NamesRuntime program
  | within (folder : Text) {separator : Char} {program : Text}
      (separates : separator = '/' ∨ separator = '\\') (known : program ∈ runtimePrograms) :
      NamesRuntime (folder ++ separator :: program)

theorem not_separator_of_mem_runtimePrograms {program : Text} (known : program ∈ runtimePrograms) :
    ∀ character ∈ program, (character == '/' || character == '\\') = false := by
  have allPlain : (runtimePrograms.all fun program =>
      !program.any fun character => character == '/' || character == '\\') = true := by
    decide
  have plain := List.all_eq_true.mp allPlain program known
  simpa using plain

/-- What follows the last separator decides whether a word names a runtime. -/
theorem namesRuntime_iff_afterLast :
    NamesRuntime word ↔
      Text.afterLast (fun character => character == '/' || character == '\\') word ∈
        runtimePrograms := by
  constructor
  · intro names
    cases names with
    | bare known =>
        have whole := Text.afterLast_eq_iff.mpr
          ⟨not_separator_of_mem_runtimePrograms known, .inl rfl⟩
        rw [whole]
        exact known
    | within folder separates known =>
        have behind := Text.afterLast_eq_iff.mpr
          ⟨not_separator_of_mem_runtimePrograms known, .inr ⟨folder, _, by simpa using separates,
            rfl⟩⟩
        rw [behind]
        exact known
  · intro known
    generalize behind : Text.afterLast _ word = program at known
    obtain ⟨-, rfl | ⟨folder, separator, separates, rfl⟩⟩ := Text.afterLast_eq_iff.mp behind
    · exact .bare known
    · exact .within folder (by simpa using separates) known

theorem contains_runtimes_iff {name : Text} :
    runtimes.contains ((Text.dropSuffix? ".exe".toList name).getD name) = true ↔
      name ∈ runtimePrograms := by
  rw [List.contains_iff_mem]
  constructor
  · intro known
    have isProgram : ∀ program ∈ runtimes,
        program ∈ runtimePrograms ∧ program ++ ".exe".toList ∈ runtimePrograms := by
      decide
    cases cut : Text.dropSuffix? ".exe".toList name with
    | none =>
        rw [cut] at known
        exact (isProgram name known).1
    | some program =>
        rw [cut] at known
        rw [Text.dropSuffix?_eq_some_iff.mp cut]
        exact (isProgram program known).2
  · intro known
    have isKnown : ∀ program ∈ runtimePrograms,
        (Text.dropSuffix? ".exe".toList program).getD program ∈ runtimes := by
      decide
    exact isKnown name known

theorem isRuntime_iff : isRuntime word = true ↔ NamesRuntime word := by
  rw [isRuntime, programName, contains_runtimes_iff, namesRuntime_iff_afterLast]

def sudoWord : Text := "sudo".toList

/-- The group of commands to which `run` belongs. -/
def groupWord : Text := "container".toList

def runWord : Text := "run".toList

/-- A call of a runtime, up to its command. -/
structure Call where
  asRoot : Bool
  program : Text
  inGroup : Bool
  namesRuntime : NamesRuntime program

/-- The words of a call. -/
def Call.words (call : Call) : List Text :=
  (if call.asRoot then [sudoWord] else []) ++
    call.program :: if call.inGroup then [groupWord] else []

/-- As much of a call as a line can begin with. -/
inductive BeginsCall : List Text → Prop
  | nothing : BeginsCall []
  | asRoot : BeginsCall [sudoWord]
  | call (call : Call) : BeginsCall call.words
  | run (call : Call) : BeginsCall (call.words ++ [runWord])

theorem dropWord_self (expected : Text) (rest : List Text) :
    dropWord expected (expected :: rest) = rest := by
  rw [dropWord, if_pos rfl]

theorem dropWord_of_head?_ne {expected : Text} (other : rest.head? ≠ some expected) :
    dropWord expected rest = rest := by
  cases rest with
  | nil =>
      rfl
  | cons first others =>
      rw [dropWord, if_neg (by simpa using other)]

theorem length_dropWord_le (expected : Text) (line : List Text) :
    (dropWord expected line).length ≤ line.length := by
  cases line with
  | nil =>
      exact Nat.le_refl 0
  | cons first others =>
      rw [dropWord]
      split
      · exact Nat.le_succ _
      · exact Nat.le_refl _

/-- The words that are dropped, by their names. -/
theorem dropInvocation_eq (line : List Text) :
    dropInvocation line =
      match dropWord sudoWord line with
      | [] => []
      | program :: arguments =>
          if isRuntime program then dropWord runWord (dropWord groupWord arguments)
          else program :: arguments := rfl

theorem Call.program_ne_sudo (call : Call) : call.program ≠ sudoWord := by
  intro same
  have runs := isRuntime_iff.mpr call.namesRuntime
  rw [same] at runs
  exact absurd runs (by decide)

/-- Behind the words of a call, the group is dropped unless the call has it, and then the
command. -/
theorem dropInvocation_call (call : Call) (rest : List Text) :
    dropInvocation (call.words ++ rest) =
      dropWord runWord (if call.inGroup then rest else dropWord groupWord rest) := by
  have begins : dropWord sudoWord (call.words ++ rest) =
      call.program :: ((if call.inGroup then [groupWord] else []) ++ rest) := by
    rw [Call.words, List.append_assoc]
    split
    · exact dropWord_self sudoWord _
    · exact dropWord_of_head?_ne (by simpa using call.program_ne_sudo)
  rw [dropInvocation_eq, begins]
  simp only [isRuntime_iff.mpr call.namesRuntime, if_true]
  split
  · rw [List.singleton_append, dropWord_self]
  · rw [List.nil_append]

/-- Behind a whole call nothing more is dropped. -/
theorem dropInvocation_call_run (call : Call) (rest : List Text) :
    dropInvocation (call.words ++ runWord :: rest) = rest := by
  have noGroup : dropWord groupWord (runWord :: rest) = runWord :: rest :=
    dropWord_of_head?_ne fun same => absurd (Option.some.inj same) (by decide)
  rw [dropInvocation_call, noGroup, ite_self, dropWord_self]

/-- Without a program, only `sudo` is dropped. -/
theorem dropInvocation_of_no_program
    (noProgram : ∀ first ∈ (dropWord sudoWord line).head?, ¬NamesRuntime first) :
    dropInvocation line = dropWord sudoWord line := by
  rw [dropInvocation_eq]
  cases remaining : dropWord sudoWord line with
  | nil =>
      rfl
  | cons first others =>
      have noRuntime : ¬isRuntime first = true := by
        rw [isRuntime_iff]
        exact noProgram first (by rw [remaining]; rfl)
      simp only [if_neg noRuntime]

theorem exists_dropped (expected : Text) (line : List Text) :
    ∃ isThere : Bool, line = (if isThere then [expected] else []) ++ dropWord expected line := by
  by_cases begins : line.head? = some expected
  · obtain ⟨rest, rfl⟩ := List.head?_eq_some_iff.mp begins
    exact ⟨true, by rw [dropWord_self]; rfl⟩
  · exact ⟨false, by rw [dropWord_of_head?_ne begins]; rfl⟩

/-- What is dropped is a call, as far as the line has one. -/
theorem exists_beginsCall_append (line : List Text) :
    ∃ front, BeginsCall front ∧ line = front ++ dropInvocation line := by
  obtain ⟨asRoot, whole⟩ := exists_dropped sudoWord line
  by_cases named : ∃ first ∈ (dropWord sudoWord line).head?, NamesRuntime first
  · obtain ⟨program, first, namesRuntime⟩ := named
    obtain ⟨arguments, remaining⟩ := List.head?_eq_some_iff.mp first
    obtain ⟨inGroup, groupDropped⟩ := exists_dropped groupWord arguments
    obtain ⟨isRun, runDropped⟩ := exists_dropped runWord (dropWord groupWord arguments)
    let call : Call := ⟨asRoot, program, inGroup, namesRuntime⟩
    have left : dropInvocation line = dropWord runWord (dropWord groupWord arguments) := by
      rw [dropInvocation_eq, remaining]
      simp only [isRuntime_iff.mpr namesRuntime, if_true]
    refine ⟨call.words ++ if isRun then [runWord] else [], ?_, ?_⟩
    · cases isRun with
      | false =>
          rw [if_neg Bool.false_ne_true, List.append_nil]
          exact .call call
      | true =>
          exact .run call
    · calc line
          = (if asRoot then [sudoWord] else []) ++ program :: arguments := by
            rw [← remaining, ← whole]
        _ = call.words ++ dropWord groupWord arguments := by
            rw [Call.words, List.append_assoc, List.cons_append, ← groupDropped]
        _ = _ := by
            rw [left, List.append_assoc, ← runDropped]
  · have left : dropInvocation line = dropWord sudoWord line :=
      dropInvocation_of_no_program fun first member names => named ⟨first, member, names⟩
    refine ⟨if asRoot then [sudoWord] else [], ?_, by rw [left, ← whole]⟩
    split
    · exact .asRoot
    · exact .nothing

theorem length_dropInvocation_le_dropWord (line : List Text) :
    (dropInvocation line).length ≤ (dropWord sudoWord line).length := by
  rw [dropInvocation_eq]
  split
  · exact Nat.zero_le _
  · rename_i program arguments remaining
    rw [remaining]
    split
    · calc (dropWord runWord (dropWord groupWord arguments)).length
          ≤ (dropWord groupWord arguments).length := length_dropWord_le runWord _
        _ ≤ arguments.length := length_dropWord_le groupWord arguments
        _ ≤ (program :: arguments).length := Nat.le_succ _
    · exact Nat.le_refl _

/-- However much of a call a line begins with, all of it is dropped. -/
theorem length_dropInvocation_le (begins : BeginsCall front) (rest : List Text) :
    (dropInvocation (front ++ rest)).length ≤ rest.length := by
  cases begins with
  | nothing =>
      exact (length_dropInvocation_le_dropWord rest).trans (length_dropWord_le sudoWord rest)
  | asRoot =>
      have shorter := length_dropInvocation_le_dropWord (sudoWord :: rest)
      rwa [dropWord_self] at shorter
  | call call =>
      rw [dropInvocation_call]
      refine (length_dropWord_le runWord _).trans ?_
      split
      · exact Nat.le_refl _
      · exact length_dropWord_le groupWord rest
  | run call =>
      rw [List.append_assoc, List.singleton_append, dropInvocation_call_run]

theorem exists_longest_call (line : List Text) :
    ∃ front, BeginsCall front ∧ line = front ++ dropInvocation line ∧
      ∀ other, BeginsCall other → other <+: line → other <+: front := by
  obtain ⟨front, begins, whole⟩ := exists_beginsCall_append line
  refine ⟨front, begins, whole, ?_⟩
  rintro other otherBegins ⟨rest, otherWhole⟩
  have shorter := length_dropInvocation_le otherBegins rest
  have sameLength : front.length + (dropInvocation line).length = other.length + rest.length := by
    rw [← List.length_append, ← whole, ← otherWhole, List.length_append]
  rw [otherWhole] at shorter
  exact List.prefix_of_prefix_length_le ⟨rest, otherWhole⟩ ⟨_, whole.symm⟩ (by omega)

/-! ## Commands behind a call -/

theorem words_eq_nil_of_trim_eq_nil (blank : Text.trim text = []) : words text = [] := by
  rw [CommandLine.words, Reader.start, Reader.readAll_blanks (Text.trim_eq_nil_iff.mp blank)]
  rfl

/-- A whole call makes no difference to the command in a line. -/
theorem parse_of_call {call : Call} (called : words text = call.words ++ runWord :: rest)
    (default : Protocol) :
    ContainerCommand.parse default text = ContainerCommand.build default (Flags.ofWords rest) := by
  have present : ¬Text.trim text = [] := by
    intro blank
    rw [words_eq_nil_of_trim_eq_nil blank] at called
    exact absurd called.symm (by simp [Call.words])
  rw [ContainerCommand.parse, if_neg present, Flags.ofCommandLine, called,
    dropInvocation_call_run]

/-- A call of a runtime is dropped as far as a line has it, and nothing else.  Behind a whole call
the words are kept whatever they are, and they alone give the command. -/
theorem dropInvocation_follows_grammar :
    (∀ (call : Call) (rest : List Text),
      dropInvocation (call.words ++ runWord :: rest) = rest) ∧
    (∀ (call : Call) (rest : List Text), rest.head? ≠ some runWord →
      (call.inGroup = false → rest.head? ≠ some groupWord) →
      dropInvocation (call.words ++ rest) = rest) ∧
    (∀ rest : List Text, (∀ first ∈ rest.head?, ¬NamesRuntime first) →
      dropInvocation (sudoWord :: rest) = rest ∧
      (rest.head? ≠ some sudoWord → dropInvocation rest = rest)) ∧
    (∀ line : List Text, ∃ front, BeginsCall front ∧ line = front ++ dropInvocation line ∧
      ∀ other, BeginsCall other → other <+: line → other <+: front) ∧
    ∀ (call : Call) (text : Text) (rest : List Text), words text = call.words ++ runWord :: rest →
      Flags.ofCommandLine text = Flags.ofWords rest ∧
      ∀ default, ContainerCommand.parse default text =
        ContainerCommand.build default (Flags.ofWords rest) := by
  refine ⟨dropInvocation_call_run, ?_, ?_, exists_longest_call, ?_⟩
  · intro call rest notRun notGroup
    rw [dropInvocation_call]
    split
    · exact dropWord_of_head?_ne notRun
    · rename_i outside
      rw [dropWord_of_head?_ne (notGroup (by simpa using outside)), dropWord_of_head?_ne notRun]
  · intro rest noProgram
    constructor
    · have dropped := dropWord_self sudoWord rest
      rw [dropInvocation_of_no_program (by rwa [dropped]), dropped]
    · intro notSudo
      have kept := dropWord_of_head?_ne notSudo
      rw [dropInvocation_of_no_program (by rwa [kept]), kept]
  · intro call text rest called
    refine ⟨?_, parse_of_call called⟩
    rw [Flags.ofCommandLine, called, dropInvocation_call_run]

def fullCall : Call where
  asRoot := true
  program := "C:\\bin/podman.exe".toList
  inGroup := true
  namesRuntime := .within "C:\\bin".toList (.inl rfl) (by decide)

def shortCall : Call where
  asRoot := false
  program := "docker".toList
  inGroup := false
  namesRuntime := .bare (by decide)

def disguisedImages : List Text :=
  ["run", "container", "docker"].map String.toList

theorem dropInvocation_disguisedImages :
    dropInvocation (fullCall.words ++ runWord :: disguisedImages) = disguisedImages ∧
      dropInvocation (shortCall.words ++ [sudoWord, runWord]) = [sudoWord, runWord] ∧
      dropInvocation (sudoWord :: sudoWord :: shortCall.words) = sudoWord :: shortCall.words ∧
      ContainerCommand.parse .udp (quotedLine (fullCall.words ++ runWord :: disguisedImages)) =
        ContainerCommand.build .udp (Flags.ofWords disguisedImages) := by
  obtain ⟨afterRun, withoutRun, withoutProgram, -, inText⟩ := dropInvocation_follows_grammar
  have notRuntime : ¬NamesRuntime sudoWord := by
    rw [← isRuntime_iff]
    decide
  refine ⟨afterRun fullCall disguisedImages, ?_, ?_, ?_⟩
  · exact withoutRun shortCall _ (by decide) fun _ => by decide
  · exact (withoutProgram _ (by simpa using notRuntime)).1
  · exact (inText fullCall _ _ (words_quotedLine _)).2 .udp

end RunManifest.CommandLine
