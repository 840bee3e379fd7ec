import RunManifest.Command
import RunManifest.Proofs.Files.Paths
import RunManifest.Proofs.Text.Encoding

/-!
# Names of containers

A name is accepted if, as a path, it is one step to an entry.  That is so for all texts but a few,
and for every name that is made up.
-/

namespace RunManifest

theorem Path.ofText_injective {first second : Text} (same : ofText first = ofText second) :
    first = second :=
  Utf8.encode_injective same

namespace Name

/-- A text that is none of the special names and holds no separator spells the name of an entry. -/
theorem isEntryName_ofText {name : Text}
    (present : name ≠ []) (noSlash : '/' ∉ name)
    (notDot : name ≠ ".".toList) (notDotDot : name ≠ "..".toList) :
    Path.IsEntryName (Path.ofText name) where
  present := fun same => present (Path.ofText_injective same)
  whole := fun member => noSlash (Utf8.mem_of_mem_encode (by decide) member)
  notDot := fun same => notDot (Path.ofText_injective same)
  notDotDot := fun same => notDotDot (Path.ofText_injective same)

theorem isComponent_iff {name : Text} :
    isComponent name = true ↔
      name ≠ [] ∧ '/' ∉ name ∧ '\\' ∉ name ∧ name ≠ ".".toList ∧ name ≠ "..".toList := by
  simp only [isComponent, Bool.and_eq_true, decide_eq_true_eq]
  constructor
  · rintro ⟨⟨oneStep, noSlash⟩, noBackslash⟩
    refine ⟨?_, noSlash, noBackslash, ?_, ?_⟩
    · rintro rfl
      exact absurd oneStep (by decide)
    · rintro rfl
      exact absurd oneStep (by decide)
    · rintro rfl
      exact absurd oneStep (by decide)
  · rintro ⟨present, noSlash, noBackslash, notDot, notDotDot⟩
    refine ⟨⟨?_, noSlash⟩, noBackslash⟩
    rw [(isEntryName_ofText present noSlash notDot notDotDot).components_eq]
    rfl

theorem isEntryName_of_isComponent {name : Text} (accepted : isComponent name = true) :
    Path.IsEntryName (Path.ofText name) := by
  obtain ⟨present, noSlash, -, notDot, notDotDot⟩ := isComponent_iff.mp accepted
  exact isEntryName_ofText present noSlash notDot notDotDot

theorem check_eq_ok_iff {operation name : Text} :
    check operation name = .ok () ↔ isComponent name = true := by
  unfold check
  by_cases accepted : isComponent name = true
  · simp [accepted]
  · simp [accepted]

theorem check_eq_error_iff {operation name : Text} {error : ValidationError} :
    check operation name = .error error ↔
      check operation name ≠ .ok () ∧ error = ⟨operation, .invalidName name⟩ := by
  unfold check
  by_cases accepted : isComponent name = true
  · simp [accepted]
  · simp [accepted, eq_comm]

/-! ## Names that are made up -/

def hexAlphabet : Text := "0123456789abcdef".toList

theorem length_hexDigits (count number : Nat) :
    (hexDigits count number).length = count := by
  induction count generalizing number with
  | zero =>
      rfl
  | succ count inductionHypothesis =>
      rw [hexDigits, List.length_append, inductionHypothesis]
      rfl

theorem mem_hexAlphabet_of_mem_hexDigits {count number : Nat} {digit : Char}
    (member : digit ∈ hexDigits count number) :
    digit ∈ hexAlphabet := by
  induction count generalizing number with
  | zero =>
      cases member
  | succ count inductionHypothesis =>
      rw [hexDigits, List.mem_append, List.mem_singleton] at member
      rcases member with earlier | rfl
      · exact inductionHypothesis earlier
      · have all : ∀ value < 16, Nat.digitChar value ∈ hexAlphabet := by
          decide
        exact all _ (Nat.mod_lt number (by decide))

/-- Is a name one that is made up: 32 digits of base sixteen behind `app-`? -/
def IsMadeUp (name : Text) : Prop :=
  ∃ digits, name = "app-".toList ++ digits ∧ digits.length = 32 ∧
    ∀ digit ∈ digits, digit ∈ hexAlphabet

theorem isMadeUp_numbered (number : Nat) :
    IsMadeUp (numbered number) :=
  ⟨hexDigits 32 number, rfl, length_hexDigits 32 number,
    fun _ member => mem_hexAlphabet_of_mem_hexDigits member⟩

theorem isComponent_of_isMadeUp {name : Text} (madeUp : IsMadeUp name) :
    isComponent name = true := by
  obtain ⟨digits, rfl, -, hexadecimal⟩ := madeUp
  have absent : ∀ character ∉ "app-".toList ++ hexAlphabet,
      character ∉ "app-".toList ++ digits := by
    intro character foreign member
    rw [List.mem_append] at foreign member
    rcases member with inFront | inDigits
    · exact foreign (.inl inFront)
    · exact foreign (.inr (hexadecimal character inDigits))
  refine isComponent_iff.mpr ⟨?_, absent _ (by decide), absent _ (by decide), ?_, ?_⟩
  · simp
  · simp
  · simp

end Name

end RunManifest
