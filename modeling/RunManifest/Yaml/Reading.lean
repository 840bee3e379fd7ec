import RunManifest.Text

/-!
Which texts a reader of YAML takes for something other than a string when they are written without
quotes: null, booleans, integers and finite or special floating-point numbers.
-/

namespace RunManifest.Yaml

/-- The texts that are read as null. The empty text is read so too. -/
def nullTexts : List Text :=
  ["~", "null", "Null", "NULL"].map String.toList

def booleanTexts : List Text :=
  ["true", "True", "TRUE", "false", "False", "FALSE"].map String.toList

/-- A text of two or more digits with a leading zero, after an optional sign. It is no number, but
it is written in quotes all the same. -/
def hasLeadingZero (text : Text) : Bool :=
  let digits :=
    match text with
    | '-' :: digits => digits
    | '+' :: digits => digits
    | digits => digits
  match digits with
  | '0' :: rest => rest ≠ [] && rest.all Char.isDigit
  | _ => false

/-- The value of an unsigned numeral: decimal, or hexadecimal, octal or binary after `0x`, `0o` or
`0b`. -/
def magnitude? : Text → Option Nat
  | '0' :: 'x' :: digits => Text.numeral? 16 digits
  | '0' :: 'o' :: digits => Text.numeral? 8 digits
  | '0' :: 'b' :: digits => Text.numeral? 2 digits
  | digits => Text.numeral? 10 digits

/-- Is a text read as an integer? One without a minus sign has to be below `2 ^ 128`, and one with
it at least `-2 ^ 127`. -/
def isInteger (text : Text) : Bool :=
  !hasLeadingZero text &&
    match text with
    | '-' :: numeral => (magnitude? numeral).any fun value => value ≤ Nat.pow 2 127
    | '+' :: numeral => (magnitude? numeral).any fun value => value < Nat.pow 2 128
    | numeral => (magnitude? numeral).any fun value => value < Nat.pow 2 128

/-! ## Floating-point numbers -/

def specialFloatTexts : List Text :=
  [".inf", ".Inf", ".INF", "+.inf", "+.Inf", "+.INF", "-.inf", "-.Inf", "-.INF",
    ".nan", ".NaN", ".NAN"].map String.toList

/-- A decimal fraction: its digits without the point, and the power of ten that they count. -/
structure Fraction where
  digits : Text
  exponent : Int
deriving DecidableEq, Repr

/-- The exponent of a fraction, which is a decimal numeral with an optional sign. -/
def exponent? : Text → Option Int
  | '-' :: digits => (Text.numeral? 10 digits).map fun value => -(value : Int)
  | '+' :: digits => (Text.numeral? 10 digits).map fun value => (value : Int)
  | digits => (Text.numeral? 10 digits).map fun value => (value : Int)

/-- Reads an unsigned fraction such as `12`, `1.`, `.5` or `1.5e-3`. -/
def fraction? (text : Text) : Option Fraction :=
  let whole := text.takeWhile Char.isDigit
  let afterWhole := text.dropWhile Char.isDigit
  let (decimals, afterDecimals) :=
    match afterWhole with
    | '.' :: rest => (rest.takeWhile Char.isDigit, rest.dropWhile Char.isDigit)
    | rest => ([], rest)
  if whole = [] ∧ decimals = [] then
    none
  else
    let fraction (exponent : Int) : Fraction :=
      ⟨whole ++ decimals, exponent - decimals.length⟩
    match afterDecimals with
    | [] => some (fraction 0)
    | mark :: exponent =>
        if mark = 'e' ∨ mark = 'E' then (exponent? exponent).map fraction else none

/-- The least number that rounds to infinity as a double: half a unit above the largest one. -/
def overflowBound : Nat :=
  Nat.pow 2 1024 - Nat.pow 2 970

/-- Is a fraction below the bound at which a double overflows? The number of digits decides unless
it equals that of the bound, which has 309. -/
def Fraction.isFinite (fraction : Fraction) : Bool :=
  let digits := fraction.digits.dropWhile (· == '0')
  let size : Int := digits.length + fraction.exponent
  if digits = [] ∨ size < 309 then
    true
  else if 309 < size then
    false
  else
    match Text.numeral? 10 digits with
    | none => true
    | some value =>
        value * Nat.pow 10 fraction.exponent.toNat <
          overflowBound * Nat.pow 10 (-fraction.exponent).toNat

def isFloat (text : Text) : Bool :=
  let unsigned :=
    match text with
    | '-' :: rest => rest
    | '+' :: rest => rest
    | rest => rest
  specialFloatTexts.contains text || (fraction? unsigned).any Fraction.isFinite

/-- Would a text be read as something other than a string if it stood there without quotes, or be
mistaken for a number by a reader of an older version? -/
def needsQuotes (text : Text) : Bool :=
  text = [] || nullTexts.contains text || booleanTexts.contains text || isInteger text ||
    hasLeadingZero text || isFloat text

end RunManifest.Yaml
