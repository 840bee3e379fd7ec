import RunManifest.Text

/-!
Text as bytes. `encode` writes a text in UTF-8; `pieces` cuts any byte string into the characters
it holds and the parts that spell none, from which `decode` and `decodeLossy` follow.
-/

namespace RunManifest

/-- A sequence of bytes: the content of a file, or the name of one. -/
abbrev Bytes := List UInt8

namespace Utf8

def encode (text : Text) : Bytes :=
  text.flatMap String.utf8EncodeChar

/-! ## Reading -/

/-- What the next bytes of a byte string are. -/
inductive Piece
  | character (value : Char)
  | malformed (length : Nat)
  | truncated (length : Nat)
deriving DecidableEq, Repr

/-- How many bytes follow `lead` in the form of a character, and which range the first of them
must lie in: this range leaves out overlong forms, surrogates and code points that are too large. -/
def continuation? (lead : UInt8) : Option (Nat × UInt8 × UInt8) :=
  if lead < 0xC2 then none
  else if lead < 0xE0 then some (1, 0x80, 0xBF)
  else if lead = 0xE0 then some (2, 0xA0, 0xBF)
  else if lead = 0xED then some (2, 0x80, 0x9F)
  else if lead < 0xF0 then some (2, 0x80, 0xBF)
  else if lead = 0xF0 then some (3, 0x90, 0xBF)
  else if lead < 0xF4 then some (3, 0x80, 0xBF)
  else if lead = 0xF4 then some (3, 0x80, 0x8F)
  else none

/-- A form that is being read: the bytes it has had, the bytes it still needs, the range of the
next one, and the code point that its payload bits spell. -/
structure Partial where
  had : Nat
  missing : Nat
  low : UInt8
  high : UInt8
  code : Nat
deriving Repr

/-- The payload bits of a lead byte that announces `missing` more bytes. -/
def leadPayload (lead : UInt8) (missing : Nat) : Nat :=
  lead.toNat % Nat.pow 2 (6 - missing)

def piecesFrom : Option Partial → Bytes → List Piece
  | none, [] => []
  | some begun, [] => [.truncated begun.had]
  | none, byte :: rest =>
      if byte < 0x80 then
        .character (Char.ofNat byte.toNat) :: piecesFrom none rest
      else
        match continuation? byte with
        | none => .malformed 1 :: piecesFrom none rest
        | some (missing, low, high) =>
            piecesFrom (some ⟨1, missing, low, high, leadPayload byte missing⟩) rest
  | some begun, byte :: rest =>
      if begun.low ≤ byte ∧ byte ≤ begun.high then
        let code := begun.code * 64 + byte.toNat % 64
        if begun.missing = 1 then
          .character (Char.ofNat code) :: piecesFrom none rest
        else
          piecesFrom (some ⟨begun.had + 1, begun.missing - 1, 0x80, 0xBF, code⟩) rest
      else if byte < 0x80 then
        .malformed begun.had :: .character (Char.ofNat byte.toNat) :: piecesFrom none rest
      else
        match continuation? byte with
        | none => .malformed begun.had :: .malformed 1 :: piecesFrom none rest
        | some (missing, low, high) =>
            .malformed begun.had ::
              piecesFrom (some ⟨1, missing, low, high, leadPayload byte missing⟩) rest

def pieces (bytes : Bytes) : List Piece :=
  piecesFrom none bytes

/-- The first place at which a byte string is no UTF-8. -/
inductive Fault
  | malformed (index length : Nat)
  | truncated (index : Nat)
deriving DecidableEq, Repr

/-- The text that pieces starting at byte `index` spell, or the first fault among them. -/
def textOf (index : Nat) : List Piece → Except Fault Text
  | [] => .ok []
  | .character value :: rest => (textOf (index + value.utf8Size) rest).map (value :: ·)
  | .malformed length :: _ => .error (.malformed index length)
  | .truncated _ :: _ => .error (.truncated index)

def decode (bytes : Bytes) : Except Fault Text :=
  textOf 0 (pieces bytes)

def decodeLossy (bytes : Bytes) : Text :=
  (pieces bytes).map fun
    | .character value => value
    | _ => '\uFFFD'

def Fault.message : Fault → Text
  | .malformed index length =>
      "invalid utf-8 sequence of ".toList ++ Text.decimal length ++
        " bytes from index ".toList ++ Text.decimal index
  | .truncated index =>
      "incomplete utf-8 byte sequence from index ".toList ++ Text.decimal index

end Utf8

end RunManifest
