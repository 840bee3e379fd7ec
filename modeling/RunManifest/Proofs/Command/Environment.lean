import RunManifest.Proofs.Command.Building
import RunManifest.Proofs.EnvVar

/-!
# The environment of a command

An assignment that is repeated word for word counts where it stands first.  So the value that takes
effect for a key, which is that of its last entry, is the last one that was new when it was
assigned, and not always the one that was assigned last.
-/

namespace RunManifest

/-- Nothing before a value in a list equals it, and all that comes behind it repeats something. -/
def IsLastNew {item : Type} (last : item) (items : List item) : Prop :=
  ∃ before behind,
    items = before ++ last :: behind ∧ last ∉ before ∧
      ∀ later ∈ behind, later = last ∨ later ∈ before

theorem isLastNew_concat_iff {value : Type} {last item : value} {initial : List value} :
    IsLastNew last (initial ++ [item]) ↔
      (item ∈ initial ∧ IsLastNew last initial) ∨ (item ∉ initial ∧ item = last) := by
  constructor
  · rintro ⟨before, behind, equality, fresh, repeats⟩
    rcases List.eq_nil_or_concat behind with rfl | ⟨initialBehind, final, rfl⟩
    · have ends := List.append_inj' equality rfl
      have itemEq : item = last := List.singleton_inj.mp ends.2
      rw [ends.1, itemEq]
      exact .inr ⟨fresh, rfl⟩
    · rw [List.concat_eq_append, ← List.cons_append, ← List.append_assoc] at equality
      have ends := List.append_inj' equality rfl
      have itemEq : item = final := List.singleton_inj.mp ends.2
      have itemRepeats : item = last ∨ item ∈ before := by
        apply repeats
        simp [itemEq]
      refine .inl ⟨?_, before, initialBehind, ends.1, fresh, ?_⟩
      · rw [ends.1]
        rcases itemRepeats with rfl | known
        · exact List.mem_append_right before List.mem_cons_self
        · exact List.mem_append_left _ known
      · intro later member
        apply repeats
        simp [member]
  · rintro (⟨known, before, behind, rfl, fresh, repeats⟩ | ⟨fresh, rfl⟩)
    · refine ⟨before, behind ++ [item], by simp, fresh, ?_⟩
      intro later member
      rcases List.mem_append.mp member with earlier | final
      · exact repeats later earlier
      · have laterEq : later = item := List.mem_singleton.mp final
        subst laterEq
        rcases List.mem_append.mp known with inBefore | inRest
        · exact .inr inBefore
        · rcases List.mem_cons.mp inRest with same | inBehind
          · exact .inl same
          · exact repeats later inBehind
    · exact ⟨initial, [], rfl, fresh, by simp⟩

theorem getLast?_eraseDups_eq_some_iff {value : Type} [BEq value] [LawfulBEq value]
    {last : value} {values : List value} :
    values.eraseDups.getLast? = some last ↔ IsLastNew last values := by
  induction values using List.reverseRecOn with
  | nil =>
      simp [IsLastNew]
  | append_singleton initial item inductionHypothesis =>
      rw [Repetitions.eraseDups_concat, isLastNew_concat_iff]
      by_cases known : item ∈ initial
      · simp [known, inductionHypothesis]
      · simp [known]

namespace EnvVar

/-- The value that a written assignment gives to a key, if it is one to that key. -/
def valueFor? (key text : Text) : Option Text :=
  (Text.splitOnce '=' text).bind fun parts => if parts.1 = key then some parts.2 else none

theorem valueFor?_eq_some_iff {key text value : Text} :
    valueFor? key text = some value ↔ text = key ++ '=' :: value ∧ '=' ∉ key := by
  rw [valueFor?, Option.bind_eq_some_iff, ← Text.splitOnce_eq_some_iff]
  constructor
  · rintro ⟨⟨name, given⟩, cut, sameKey⟩
    rw [cut]
    split at sameKey
    · cases sameKey
      subst key
      rfl
    · cases sameKey
  · intro cut
    exact ⟨(key, value), cut, if_pos rfl⟩

theorem splitOnce_of_parse {text : Text} {envVar : EnvVar} (read : parse text = .ok envVar) :
    Text.splitOnce '=' text = some (envVar.key, envVar.value) := by
  obtain ⟨assignable, rfl⟩ := parse_eq_ok_iff.mp read
  exact Text.splitOnce_eq_some_iff.mpr ⟨rfl, assignable.whole⟩

/-- The variables that are read from texts give a key the values that the texts assign to it. -/
theorem filterMap_valueFor?_of_mapM
    {texts : List Text} {envVars : List EnvVar}
    (read : texts.mapM parse = .ok envVars) (key : Text) :
    texts.filterMap (valueFor? key) =
      (envVars.filter fun envVar => envVar.key = key).map EnvVar.value := by
  rw [Outcomes.mapM_eq_ok_iff] at read
  induction read with
  | nil =>
      rfl
  | @cons text envVar rest others readFirst _ inductionHypothesis =>
      have cut := splitOnce_of_parse readFirst
      by_cases sameKey : envVar.key = key
      · have gives : valueFor? key text = some envVar.value := by
          simp [valueFor?, cut, sameKey]
        rw [List.filterMap_cons_some gives, inductionHypothesis,
          List.filter_cons_of_pos (by simp [sameKey]), List.map_cons]
      · have gives : valueFor? key text = none := by
          simp [valueFor?, cut, sameKey]
        rw [List.filterMap_cons_none gives, inductionHypothesis,
          List.filter_cons_of_neg (by simp [sameKey])]

end EnvVar

/-! ## What takes effect -/

namespace ContainerCommand

open CommandLine

/-- The values that the flags assign to a key, in the order of the words. -/
def assignedValues (flags : Flags) (key : Text) : List Text :=
  (flags.valuesOf envFlags).filterMap (EnvVar.valueFor? key)

/-- The values of the entries for a key, of which the last one takes effect. -/
def entryValues (envVars : List EnvVar) (key : Text) : List Text :=
  (envVars.filter fun envVar => envVar.key = key).map EnvVar.value

/-- The value that a container sees for a key. -/
def valueInEffect? (envVars : List EnvVar) (key : Text) : Option Text :=
  (entryValues envVars key).getLast?

variable {flags : Flags} {command : ContainerCommand} {default : Protocol}

theorem entryValues_of_build (built : build default flags = .ok command) (key : Text) :
    entryValues command.envVars key = (assignedValues flags key).eraseDups := by
  obtain ⟨-, given, -⟩ := build_eq_ok_iff.mp built
  rw [entryValues, ← EnvVar.filterMap_valueFor?_of_mapM given key, Repetitions.filterMap_eraseDups]
  · rfl
  · intro one other value givesOne givesOther
    have oneEq := (EnvVar.valueFor?_eq_some_iff.mp givesOne).1
    have otherEq := (EnvVar.valueFor?_eq_some_iff.mp givesOther).1
    rw [oneEq, otherEq]

/-- The value in effect for a key is the last one that was new when it was assigned, which is the
one assigned last exactly if that was new.  A key has an entry exactly if it is assigned. -/
theorem valueInEffect?_of_build (built : build default flags = .ok command) (key : Text) :
    (∀ value, valueInEffect? command.envVars key = some value ↔
      IsLastNew value (assignedValues flags key)) ∧
    (valueInEffect? command.envVars key = (assignedValues flags key).getLast? ↔
      ∀ last, (assignedValues flags key).getLast? = some last →
        IsLastNew last (assignedValues flags key)) ∧
    ((∃ envVar ∈ command.envVars, envVar.key = key) ↔ assignedValues flags key ≠ []) := by
  have entries := entryValues_of_build built key
  have inEffect : ∀ value, valueInEffect? command.envVars key = some value ↔
      IsLastNew value (assignedValues flags key) := by
    intro value
    rw [valueInEffect?, entries, getLast?_eraseDups_eq_some_iff]
  have noEntry : entryValues command.envVars key = [] ↔ assignedValues flags key = [] := by
    rw [entries]
    simp only [List.eq_nil_iff_forall_not_mem, List.mem_eraseDups]
  refine ⟨inEffect, ?_, ?_⟩
  · cases assigned : (assignedValues flags key).getLast? with
    | none =>
        have nothing := noEntry.mpr (List.getLast?_eq_none_iff.mp assigned)
        simp [valueInEffect?, nothing]
    | some last =>
        rw [inEffect]
        simp
  · rw [ne_eq, ← noEntry]
    simp [entryValues]

def wavering : List Text :=
  ["-e", "A=1", "-e", "A=2", "--env", "A=1", "nginx"].map String.toList

theorem valueInEffect?_of_wavering :
    ∃ command, build .tcp (Flags.ofWords wavering) = .ok command ∧
      valueInEffect? command.envVars "A".toList = some "2".toList ∧
      IsLastNew "2".toList (assignedValues (Flags.ofWords wavering) "A".toList) := by
  have built :
      build .tcp (Flags.ofWords wavering) =
        .ok
          { name? := none
            daemon := false
            ports := []
            envVars := [⟨"A".toList, "1".toList⟩, ⟨"A".toList, "2".toList⟩]
            image := "nginx".toList } := rfl
  have inEffect : valueInEffect? [⟨"A".toList, "1".toList⟩, ⟨"A".toList, "2".toList⟩] "A".toList =
      some "2".toList := rfl
  exact ⟨_, built, inEffect, ((valueInEffect?_of_build built "A".toList).1 _).mp inEffect⟩

theorem last_assignment_without_effect :
    ∃ command, build .tcp (Flags.ofWords wavering) = .ok command ∧
      valueInEffect? command.envVars "A".toList = some "2".toList ∧
      (assignedValues (Flags.ofWords wavering) "A".toList).getLast? = some "1".toList := by
  exact ⟨_, rfl, by decide, by decide⟩

end ContainerCommand

end RunManifest
