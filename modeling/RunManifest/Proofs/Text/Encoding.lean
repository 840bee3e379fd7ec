import RunManifest.Text.Utf8

/-!
# Texts and their bytes

Bytes that are read as a text are the form of that text, and different texts have different forms.
A byte below `0x80` in the form of a text is one of its characters.
-/

namespace RunManifest.Utf8

theorem utf8EncodeChar_ofNat {code : Nat} (valid : code.isValidChar) :
    String.utf8EncodeChar (Char.ofNat code) =
      if code ≤ 0x7F then
        [UInt8.ofNat code]
      else if code ≤ 0x7FF then
        [UInt8.ofNat (code / 64 % 32 + 192), UInt8.ofNat (code % 64 + 128)]
      else if code ≤ 0xFFFF then
        [UInt8.ofNat (code / 4096 % 16 + 224), UInt8.ofNat (code / 64 % 64 + 128),
          UInt8.ofNat (code % 64 + 128)]
      else
        [UInt8.ofNat (code / 262144 % 8 + 240), UInt8.ofNat (code / 4096 % 64 + 128),
          UInt8.ofNat (code / 64 % 64 + 128), UInt8.ofNat (code % 64 + 128)] := by
  have value : (Char.ofNat code).val.toNat = code := by
    rw [Char.ofNat, dif_pos valid]
    rfl
  rw [String.utf8EncodeChar, value]

theorem ofNat_eq_byte {byte : UInt8} {number : Nat} (same : number = byte.toNat) :
    UInt8.ofNat number = byte := by
  rw [same]
  exact UInt8.ofNat_toNat

theorem encodeChar_one {byte : UInt8} (small : byte < 0x80) :
    String.utf8EncodeChar (Char.ofNat byte.toNat) = [byte] := by
  have bound : byte.toNat < 0x80 := small
  rw [utf8EncodeChar_ofNat (by left; omega), if_pos (by omega), ofNat_eq_byte rfl]

theorem encodeChar_two {lead next : UInt8}
    (leadLow : 0xC2 ≤ lead) (leadHigh : lead < 0xE0) (nextLow : 0x80 ≤ next)
    (nextHigh : next ≤ 0xBF) :
    String.utf8EncodeChar (Char.ofNat (lead.toNat % 32 * 64 + next.toNat % 64)) =
      [lead, next] := by
  have leadAtLeast : 0xC2 ≤ lead.toNat := leadLow
  have leadBelow : lead.toNat < 0xE0 := leadHigh
  have nextAtLeast : 0x80 ≤ next.toNat := nextLow
  have nextAtMost : next.toNat ≤ 0xBF := nextHigh
  rw [utf8EncodeChar_ofNat (by left; omega), if_neg (by omega), if_pos (by omega),
    ofNat_eq_byte (by omega : _ = lead.toNat), ofNat_eq_byte (by omega : _ = next.toNat)]

theorem encodeChar_three {lead second third : UInt8}
    (leadLow : 0xE0 ≤ lead) (leadHigh : lead < 0xF0)
    (secondLow : 0x80 ≤ second) (secondHigh : second ≤ 0xBF)
    (notOverlong : lead = 0xE0 → 0xA0 ≤ second) (notSurrogate : lead = 0xED → second ≤ 0x9F)
    (thirdLow : 0x80 ≤ third) (thirdHigh : third ≤ 0xBF) :
    String.utf8EncodeChar
        (Char.ofNat ((lead.toNat % 16 * 64 + second.toNat % 64) * 64 + third.toNat % 64)) =
      [lead, second, third] := by
  have leadAtLeast : 0xE0 ≤ lead.toNat := leadLow
  have leadBelow : lead.toNat < 0xF0 := leadHigh
  have secondAtLeast : 0x80 ≤ second.toNat := secondLow
  have secondAtMost : second.toNat ≤ 0xBF := secondHigh
  have thirdAtLeast : 0x80 ≤ third.toNat := thirdLow
  have thirdAtMost : third.toNat ≤ 0xBF := thirdHigh
  have longEnough : lead.toNat = 0xE0 → 0xA0 ≤ second.toNat :=
    fun same => notOverlong (UInt8.toNat_inj.mp same)
  have noSurrogate : lead.toNat = 0xED → second.toNat ≤ 0x9F :=
    fun same => notSurrogate (UInt8.toNat_inj.mp same)
  have valid :
      ((lead.toNat % 16 * 64 + second.toNat % 64) * 64 + third.toNat % 64).isValidChar := by
    unfold Nat.isValidChar
    omega
  rw [utf8EncodeChar_ofNat valid, if_neg (by omega), if_neg (by omega), if_pos (by omega),
    ofNat_eq_byte (by omega : _ = lead.toNat), ofNat_eq_byte (by omega : _ = second.toNat),
    ofNat_eq_byte (by omega : _ = third.toNat)]

theorem encodeChar_four {lead second third fourth : UInt8}
    (leadLow : 0xF0 ≤ lead) (leadHigh : lead ≤ 0xF4)
    (secondLow : 0x80 ≤ second) (secondHigh : second ≤ 0xBF)
    (notOverlong : lead = 0xF0 → 0x90 ≤ second) (inRange : lead = 0xF4 → second ≤ 0x8F)
    (thirdLow : 0x80 ≤ third) (thirdHigh : third ≤ 0xBF)
    (fourthLow : 0x80 ≤ fourth) (fourthHigh : fourth ≤ 0xBF) :
    String.utf8EncodeChar
        (Char.ofNat (((lead.toNat % 8 * 64 + second.toNat % 64) * 64 + third.toNat % 64) * 64 +
          fourth.toNat % 64)) =
      [lead, second, third, fourth] := by
  have leadAtLeast : 0xF0 ≤ lead.toNat := leadLow
  have leadAtMost : lead.toNat ≤ 0xF4 := leadHigh
  have secondAtLeast : 0x80 ≤ second.toNat := secondLow
  have secondAtMost : second.toNat ≤ 0xBF := secondHigh
  have thirdAtLeast : 0x80 ≤ third.toNat := thirdLow
  have thirdAtMost : third.toNat ≤ 0xBF := thirdHigh
  have fourthAtLeast : 0x80 ≤ fourth.toNat := fourthLow
  have fourthAtMost : fourth.toNat ≤ 0xBF := fourthHigh
  have longEnough : lead.toNat = 0xF0 → 0x90 ≤ second.toNat :=
    fun same => notOverlong (UInt8.toNat_inj.mp same)
  have smallEnough : lead.toNat = 0xF4 → second.toNat ≤ 0x8F :=
    fun same => inRange (UInt8.toNat_inj.mp same)
  have valid :
      (((lead.toNat % 8 * 64 + second.toNat % 64) * 64 + third.toNat % 64) * 64 +
        fourth.toNat % 64).isValidChar := by
    unfold Nat.isValidChar
    omega
  rw [utf8EncodeChar_ofNat valid, if_neg (by omega), if_neg (by omega), if_neg (by omega),
    ofNat_eq_byte (by omega : _ = lead.toNat), ofNat_eq_byte (by omega : _ = second.toNat),
    ofNat_eq_byte (by omega : _ = third.toNat), ofNat_eq_byte (by omega : _ = fourth.toNat)]

theorem continuation?_eq_some_cases {lead low high : UInt8} {missing : Nat}
    (begins : continuation? lead = some (missing, low, high)) :
    (missing = 1 ∧ 0xC2 ≤ lead ∧ lead < 0xE0 ∧ low = 0x80 ∧ high = 0xBF) ∨
    (missing = 2 ∧ 0xE0 ≤ lead ∧ lead < 0xF0 ∧ 0x80 ≤ low ∧ high ≤ 0xBF ∧
      (lead = 0xE0 → low = 0xA0) ∧ (lead = 0xED → high = 0x9F)) ∨
    (missing = 3 ∧ 0xF0 ≤ lead ∧ lead ≤ 0xF4 ∧ 0x80 ≤ low ∧ high ≤ 0xBF ∧
      (lead = 0xF0 → low = 0x90) ∧ (lead = 0xF4 → high = 0x8F)) := by
  unfold continuation? at begins
  split at begins
  · cases begins
  · split at begins
    · grind
    · split at begins
      · grind
      · split at begins
        · grind
        · split at begins
          · grind
          · grind

theorem textOf_character_eq_ok_iff {index : Nat} {value : Char} {rest : List Piece} {text : Text} :
    textOf index (.character value :: rest) = .ok text ↔
      ∃ others, textOf (index + value.utf8Size) rest = .ok others ∧ text = value :: others := by
  rw [textOf]
  cases textOf (index + value.utf8Size) rest with
  | error fault =>
      simp [Except.map]
  | ok others =>
      simp [Except.map, eq_comm]

/-- A form that has begun goes on with a byte of its range. -/
theorem exists_of_textOf_begun
    {had missing code index : Nat} {low high : UInt8} {bytes : Bytes} {text : Text}
    (read : textOf index (piecesFrom (some ⟨had, missing, low, high, code⟩) bytes) = .ok text) :
    ∃ byte rest, bytes = byte :: rest ∧ low ≤ byte ∧ byte ≤ high ∧
      textOf index
        (if missing = 1 then
          .character (Char.ofNat (code * 64 + byte.toNat % 64)) :: piecesFrom none rest
        else
          piecesFrom
            (some ⟨had + 1, missing - 1, 0x80, 0xBF, code * 64 + byte.toNat % 64⟩) rest) =
        .ok text := by
  cases bytes with
  | nil =>
      cases read
  | cons byte rest =>
      rw [piecesFrom] at read
      split at read
      · rename_i inRange
        exact ⟨byte, rest, rfl, inRange.1, inRange.2, read⟩
      · split at read
        · cases read
        · split at read
          · cases read
          · cases read

/-- Bytes that begin with the lead byte of a longer form begin with that form. -/
theorem exists_of_textOf_lead
    {lead low high : UInt8} {missing index : Nat} {rest : Bytes} {text : Text}
    (begins : continuation? lead = some (missing, low, high))
    (read :
      textOf index (piecesFrom (some ⟨1, missing, low, high, leadPayload lead missing⟩) rest) =
        .ok text) :
    ∃ value others behind, text = value :: others ∧
      textOf (index + value.utf8Size) (piecesFrom none behind) = .ok others ∧
      lead :: rest = String.utf8EncodeChar value ++ behind := by
  obtain ⟨second, rest, rfl, secondLow, secondHigh, readOn⟩ := exists_of_textOf_begun read
  rcases continuation?_eq_some_cases begins with
    ⟨rfl, leadLow, leadHigh, rfl, rfl⟩ |
    ⟨rfl, leadLow, leadHigh, lowBound, highBound, lowest, highest⟩ |
    ⟨rfl, leadLow, leadHigh, lowBound, highBound, lowest, highest⟩
  · rw [if_pos rfl] at readOn
    obtain ⟨others, readRest, rfl⟩ := textOf_character_eq_ok_iff.mp readOn
    have form := encodeChar_two leadLow leadHigh secondLow secondHigh
    exact ⟨_, others, rest, rfl, readRest, congrArg (· ++ rest) form.symm⟩
  · have secondAbove : 0x80 ≤ second := UInt8.le_trans lowBound secondLow
    have secondBelow : second ≤ 0xBF := UInt8.le_trans secondHigh highBound
    rw [if_neg (by decide)] at readOn
    obtain ⟨third, rest, rfl, thirdLow, thirdHigh, readOn⟩ := exists_of_textOf_begun readOn
    rw [if_pos rfl] at readOn
    obtain ⟨others, readRest, rfl⟩ := textOf_character_eq_ok_iff.mp readOn
    have form := encodeChar_three leadLow leadHigh secondAbove secondBelow
      (fun same => lowest same ▸ secondLow) (fun same => highest same ▸ secondHigh)
      thirdLow thirdHigh
    exact ⟨_, others, rest, rfl, readRest, congrArg (· ++ rest) form.symm⟩
  · have secondAbove : 0x80 ≤ second := UInt8.le_trans lowBound secondLow
    have secondBelow : second ≤ 0xBF := UInt8.le_trans secondHigh highBound
    rw [if_neg (by decide)] at readOn
    obtain ⟨third, rest, rfl, thirdLow, thirdHigh, readOn⟩ := exists_of_textOf_begun readOn
    rw [if_neg (by decide)] at readOn
    obtain ⟨fourth, rest, rfl, fourthLow, fourthHigh, readOn⟩ := exists_of_textOf_begun readOn
    rw [if_pos rfl] at readOn
    obtain ⟨others, readRest, rfl⟩ := textOf_character_eq_ok_iff.mp readOn
    have form := encodeChar_four leadLow leadHigh secondAbove secondBelow
      (fun same => lowest same ▸ secondLow) (fun same => highest same ▸ secondHigh)
      thirdLow thirdHigh fourthLow fourthHigh
    exact ⟨_, others, rest, rfl, readRest, congrArg (· ++ rest) form.symm⟩

/-- Bytes that are read as a text begin with the form of its first character. -/
theorem exists_of_textOf_cons
    {lead : UInt8} {index : Nat} {rest : Bytes} {text : Text}
    (read : textOf index (piecesFrom none (lead :: rest)) = .ok text) :
    ∃ value others behind, text = value :: others ∧
      textOf (index + value.utf8Size) (piecesFrom none behind) = .ok others ∧
      lead :: rest = String.utf8EncodeChar value ++ behind := by
  rw [piecesFrom] at read
  split at read
  · rename_i small
    obtain ⟨others, readRest, rfl⟩ := textOf_character_eq_ok_iff.mp read
    exact ⟨_, others, rest, rfl, readRest, congrArg (· ++ rest) (encodeChar_one small).symm⟩
  · split at read
    · cases read
    · rename_i begins
      exact exists_of_textOf_lead begins read

theorem encode_of_textOf
    {bytes : Bytes} {index : Nat} {text : Text}
    (read : textOf index (piecesFrom none bytes) = .ok text) :
    encode text = bytes := by
  induction length : bytes.length using Nat.strongRecOn generalizing bytes index text with
  | ind count inductionHypothesis =>
      cases bytes with
      | nil =>
          cases read
          rfl
      | cons lead rest =>
          obtain ⟨value, others, behind, rfl, readRest, split⟩ := exists_of_textOf_cons read
          have shorter : behind.length < count := by
            have present := List.length_pos_iff.mpr (String.utf8EncodeChar_ne_nil (c := value))
            rw [← length, split, List.length_append]
            omega
          have behindEq := inductionHypothesis behind.length shorter readRest rfl
          rw [encode, List.flatMap_cons, split, ← behindEq, encode]

/-- Bytes that are read as a text are its form. -/
theorem encode_of_decode {bytes : Bytes} {text : Text} (read : decode bytes = .ok text) :
    encode text = bytes :=
  encode_of_textOf read

/-! ## Forms of texts -/

theorem encode_injective {first second : Text} (same : encode first = encode second) :
    first = second := by
  have sameBytes : first.utf8Encode = second.utf8Encode := by
    rw [List.utf8Encode, List.utf8Encode]
    exact congrArg List.toByteArray same
  have read := List.utf8Decode?_utf8Encode (l := first)
  rw [sameBytes, List.utf8Decode?_utf8Encode] at read
  exact (List.toArray_inj (Option.some.inj read)).symm

/-- A byte below `0x80` in the form of a character is the form of it. -/
theorem toNat_eq_of_mem_utf8EncodeChar
    {byte : UInt8} {character : Char} (small : byte < 0x80)
    (member : byte ∈ String.utf8EncodeChar character) :
    byte.toNat = character.toNat := by
  have bound : byte.toNat < 0x80 := small
  have value : character.toNat = character.val.toNat := rfl
  rw [String.utf8EncodeChar] at member
  split at member
  · rw [List.mem_singleton] at member
    rw [member, UInt8.toNat_ofNat', value]
    omega
  · exfalso
    split at member
    · simp only [List.mem_cons, List.not_mem_nil, or_false] at member
      rcases member with rfl | rfl <;> rw [UInt8.toNat_ofNat'] at bound <;> omega
    · split at member
      · simp only [List.mem_cons, List.not_mem_nil, or_false] at member
        rcases member with rfl | rfl | rfl <;> rw [UInt8.toNat_ofNat'] at bound <;> omega
      · simp only [List.mem_cons, List.not_mem_nil, or_false] at member
        rcases member with rfl | rfl | rfl | rfl <;> rw [UInt8.toNat_ofNat'] at bound <;> omega

theorem mem_of_mem_encode
    {byte : UInt8} {text : Text} (small : byte < 0x80) (member : byte ∈ encode text) :
    Char.ofNat byte.toNat ∈ text := by
  obtain ⟨character, inText, inForm⟩ := List.mem_flatMap.mp member
  rw [toNat_eq_of_mem_utf8EncodeChar small inForm, Char.ofNat_toNat]
  exact inText

end RunManifest.Utf8
