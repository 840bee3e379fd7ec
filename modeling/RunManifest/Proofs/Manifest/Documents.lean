import RunManifest.Proofs.Manifest.Shapes
import RunManifest.Proofs.Yaml.Lines

/-!
# The documents of a manifest

A manifest is two documents, whatever its command, its name and its schema are: one line is the
mark between them, what stands before it is the service and what stands behind it the deployment.
-/

namespace RunManifest

open Yaml

theorem feed_not_mem_portName (index : Nat) : '\n' ∉ portName index := by
  intro member
  rcases List.mem_append.mp member with inFront | inNumber
  · exact absurd inFront (by decide)
  · exact absurd (Text.isDigit_of_mem_decimal inNumber) (by decide)

theorem ServicePort.feed_suffix_afterDash (indent index : Nat) (mapping : PortMapping) :
    ['\n'] <:+ afterDash indent (ofMapping index mapping).toYaml := by
  let front : List (Text × Value) :=
    [ ("name".toList, .text (portName index)), ("port".toList, .number mapping.hostPort.toNat),
      ("protocol".toList, .text mapping.protocol.name) ]
  have target : ['\n'] <:+ afterKey indent (.text (portName index)) := by
    rw [afterKey]
    exact (feed_suffix_scalarText (feed_not_mem_portName index)).trans (List.suffix_cons ' ' _)
  have fields :=
    target.trans (afterKey_suffix_fieldsText indent front "targetPort".toList _)
  exact fields.trans (List.suffix_cons ' ' _)

theorem ServicePort.feed_suffix_afterKey (indent : Nat) (mappings : List PortMapping) :
    ['\n'] <:+ afterKey indent (.list ((mappings.mapIdx ofMapping).map toYaml)) := by
  rcases mappings.eq_nil_or_concat with rfl | ⟨front, last, rfl⟩
  · exact ⟨" []".toList, rfl⟩
  · rw [List.concat_eq_append, List.mapIdx_concat, List.map_append, List.map_singleton]
    have lastItem := ServicePort.feed_suffix_afterDash (indent + 2) front.length last
    have items := lastItem.trans (afterDash_suffix_itemsText indent
      ((front.mapIdx ofMapping).map toYaml) (ofMapping front.length last).toYaml)
    cases itemsEq : (front.mapIdx ofMapping).map toYaml with
    | nil =>
        rw [itemsEq] at items
        exact (List.suffix_append_of_suffix items).trans (List.suffix_cons '\n' _)
    | cons first others =>
        rw [itemsEq] at items
        exact (List.suffix_append_of_suffix items).trans (List.suffix_cons '\n' _)

/-- The ports are the last that is written for a service, so that no string of the user ends it. -/
theorem Service.feed_suffix_documentText
    (command : ContainerCommand) (name : Text) (schema : SchemaVersions) :
    ['\n'] <:+ documentText (ofCommand command name schema).toYaml := by
  let service := ofCommand command name schema
  let front : List (Text × Value) :=
    [ ("apiVersion".toList, .text service.apiVersion), ("kind".toList, .text service.kind),
      ("metadata".toList, service.metadata.toYaml) ]
  let specFront : List (Text × Value) :=
    [ ("clusterIP".toList, .text service.spec.clusterIP),
      ("selector".toList, service.spec.selector.toYaml) ]
  let ports := service.spec.ports.map ServicePort.toYaml
  have portsEnd : ['\n'] <:+ fieldsText 2 (specFront ++ [("ports".toList, .list ports)]) :=
    (ServicePort.feed_suffix_afterKey 2 command.ports).trans
      (afterKey_suffix_fieldsText 2 specFront "ports".toList _)
  have specEnd :
      ['\n'] <:+ afterKey 0 (.mapping (specFront ++ [("ports".toList, .list ports)])) :=
    (List.suffix_append_of_suffix portsEnd).trans (List.suffix_cons '\n' _)
  exact specEnd.trans (afterKey_suffix_fieldsText 0 front "spec".toList _)

/-! ## The mark between the documents -/

namespace Manifest

theorem flatMap_eq_intercalate {lines : List Text} (some : lines ≠ []) (mark : Char) :
    lines.flatMap (fun line => line ++ [mark]) = [mark].intercalate lines ++ [mark] := by
  induction lines with
  | nil =>
      exact absurd rfl some
  | cons line lines inductionHypothesis =>
      by_cases last : lines = []
      · subst last
        simp
      · rw [List.flatMap_cons, inductionHypothesis last, List.intercalate_cons_of_ne_nil last]
        simp

/-- The lines of a manifest are those of its service, without the last, which is empty, the mark, and
those of its deployment.  It makes no difference whether other line breaks end a line, too. -/
theorem splitOnP_text {cut : Char → Bool} {service : Text} {manifest : Manifest}
    (feed : cut '\n' = true) (breaks : ∀ character, cut character = true → isBreak character = true)
    (ended : documentText manifest.service.toYaml = service ++ ['\n']) :
    manifest.text.splitOnP cut =
      service.splitOnP cut ++ "---".toList ::
        (documentText manifest.deployment.toYaml).splitOnP cut := by
  have unbroken : "---".toList.any isBreak = false := by
    decide
  have whole : "---".toList.splitOnP cut = ["---".toList] := by
    apply List.splitOnP_eq_singleton
    intro character member
    rw [Bool.eq_false_iff]
    intro ends
    exact List.any_eq_false.mp unbroken character member (breaks character ends)
  have textEq : manifest.text =
      service ++ '\n' :: ("---".toList ++ '\n' :: documentText manifest.deployment.toYaml) := by
    rw [text, ended, separator]
    simp
  rw [textEq, List.splitOnP_append_cons _ _ feed, List.splitOnP_append_cons _ _ feed, whole,
    List.singleton_append]

/-- The lines of both documents are no marks between documents. -/
theorem not_mem_of_mem_documentMarks {cut : Char → Bool} {service line : Text}
    (command : ContainerCommand) (name : Text) (schema : SchemaVersions)
    (feed : cut '\n' = true) (breaks : ∀ character, cut character = true → isBreak character = true)
    (ended : documentText (Service.ofCommand command name schema).toYaml = service ++ ['\n'])
    (mark : line ∈ documentMarks) :
    line ∉ service.splitOnP cut ∧
      line ∉ (documentText (Deployment.ofCommand command name schema).toYaml).splitOnP cut := by
  constructor
  · have noLine := not_mem_splitOnP_documentText breaks
      (Service.fieldsFit_ofCommand command name schema) mark
    rw [ended, List.splitOnP_append_cons _ _ feed, List.mem_append, not_or] at noLine
    exact noLine.1
  · exact not_mem_splitOnP_documentText breaks
      (Deployment.fieldsFit_ofCommand command name schema) mark

/-- A manifest is two documents, cut at the only line that is a mark. -/
theorem splitOn_text (command : ContainerCommand) (name : Text) (schema : SchemaVersions) :
    let manifest := ofCommand command name schema
    let lines := manifest.text.splitOn '\n'
    lines.count "---".toList = 1 ∧ "...".toList ∉ lines ∧
      ∃ serviceLines deploymentLines,
        lines = serviceLines ++ "---".toList :: deploymentLines ∧
        serviceLines.flatMap (fun line => line ++ ['\n']) =
          documentText manifest.service.toYaml ∧
        ['\n'].intercalate deploymentLines = documentText manifest.deployment.toYaml := by
  intro manifest lines
  obtain ⟨service, ended⟩ := Service.feed_suffix_documentText command name schema
  let deploymentLines := (documentText manifest.deployment.toYaml).splitOn '\n'
  have feeds : ∀ character : Char, (character == '\n') = true → isBreak character = true := by
    intro character feed
    rw [beq_iff_eq.mp feed]
    decide
  have linesEq : lines = service.splitOn '\n' ++ "---".toList :: deploymentLines :=
    splitOnP_text rfl feeds ended.symm
  have noMark (line : Text) (mark : line ∈ documentMarks) :
      line ∉ service.splitOn '\n' ∧ line ∉ deploymentLines :=
    not_mem_of_mem_documentMarks command name schema rfl feeds ended.symm mark
  refine ⟨?_, ?_, service.splitOn '\n', deploymentLines, linesEq, ?_, ?_⟩
  · obtain ⟨noService, noDeployment⟩ := noMark "---".toList (by decide)
    rw [linesEq, List.count_append, List.count_cons_self, List.count_eq_zero.mpr noService,
      List.count_eq_zero.mpr noDeployment]
  · obtain ⟨noService, noDeployment⟩ := noMark "...".toList (by decide)
    rw [linesEq, List.mem_append, List.mem_cons, not_or, not_or]
    exact ⟨noService, by decide, noDeployment⟩
  · have nonempty : service.splitOn '\n' ≠ [] := List.splitOnP_ne_nil _ _
    rw [flatMap_eq_intercalate nonempty, List.intercalate_splitOn, ended]
    rfl
  · exact List.intercalate_splitOn '\n'

end Manifest

end RunManifest
