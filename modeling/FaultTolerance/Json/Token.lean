import FaultTolerance.Numeric.Decimal

/-!
# Tokens of JSON text

JSON text is cut into tokens: punctuation, literals, numbers and strings.  A number keeps its exact
decimal value and whether it was written as an integer, since a setting that counts something takes
integers only.  A string may spell half of a surrogate pair, which stands for no character; such a
string is well-formed but has no content.

## Main definitions

* `Json.Numeral`: a number as written.
* `Json.Token`: tokens.
* `Json.tokens`: the tokens of a text, if it can be cut into tokens.
-/

namespace FaultTolerance
namespace Json

open Numeric

/-- A number as written: its value, and whether it has neither a point nor an exponent. -/
structure Numeral where
  value : Decimal
  integral : Bool
deriving DecidableEq, Repr

/-- The integer that a number was written as; zero has no sign as an integer. -/
def Numeral.integer (n : Numeral) : Option Int :=
  if !n.integral || (n.value.negative && n.value.digits == 0) then none
  else some (if n.value.negative then -n.value.digits else n.value.digits)

/-- A token.  The content of a string is missing when half of a surrogate pair stands alone. -/
inductive Token where
  | openObject
  | closeObject
  | openArray
  | closeArray
  | comma
  | colon
  | null
  | truth (b : Bool)
  | number (n : Numeral)
  | string (content : Option String)
deriving DecidableEq, Repr

/-! ### Numbers -/

/-- The leading decimal digits, and what follows them. -/
def digits (text : List Char) : List Char × List Char :=
  (text.takeWhile Char.isDigit, text.dropWhile Char.isDigit)

/-- The natural number that decimal digits stand for. -/
def valueOf (figures : List Char) : Nat :=
  figures.foldl (fun n c => 10 * n + (c.toNat - 48)) 0

/-- The whole part of a number: a zero on its own, or digits that start with another one. -/
def wholePart (text : List Char) : Option (List Char × List Char) :=
  match digits text with
  | ([], _) => none
  | ('0' :: _ :: _, _) => none
  | split => some split

/-- The decimal places of a number: none, or a point and at least one digit. -/
def fractionPart : List Char → Option (List Char × List Char)
  | '.' :: text =>
    match digits text with
    | ([], _) => none
    | split => some split
  | text => some ([], text)

/-- The digits of an exponent, at least one. -/
def exponentDigits
    (negative : Bool)
    (text : List Char) : Option (Int × List Char) :=
  match digits text with
  | ([], _) => none
  | (figures, rest) => some (if negative then -(valueOf figures : Int) else valueOf figures, rest)

/-- The exponent of a number after its mark, with an optional sign. -/
def exponentPart : List Char → Option (Int × List Char)
  | '-' :: text => exponentDigits true text
  | '+' :: text => exponentDigits false text
  | text => exponentDigits false text

/-- A number without its sign. -/
def unsignedNumber
    (negative : Bool)
    (text : List Char) : Option (Numeral × List Char) := do
  let (whole, text) ← wholePart text
  let (fraction, rest) ← fractionPart text
  let significand := valueOf (whole ++ fraction)
  let places : Int := fraction.length
  match rest with
  | 'e' :: text | 'E' :: text =>
    let (exponent, rest) ← exponentPart text
    return (⟨⟨negative, significand, exponent - places⟩, false⟩, rest)
  | rest => return (⟨⟨negative, significand, -places⟩, fraction.isEmpty⟩, rest)

/-! ### Strings -/

/-- A piece of a string: a character, or a surrogate that needs a partner. -/
inductive Piece where
  | char (c : Char)
  | high (unit : Nat)
  | low (unit : Nat)
deriving DecidableEq, Repr

/-- The piece spelled by a four-digit escape. -/
def Piece.ofUnit (unit : Nat) : Piece :=
  if 0xD800 ≤ unit ∧ unit < 0xDC00 then .high (unit - 0xD800)
  else if 0xDC00 ≤ unit ∧ unit < 0xE000 then .low (unit - 0xDC00)
  else .char (Char.ofNat unit)

/-- The value of a hexadecimal digit. -/
def hexDigit (c : Char) : Option Nat :=
  if '0' ≤ c ∧ c ≤ '9' then some (c.toNat - 48)
  else if 'a' ≤ c ∧ c ≤ 'f' then some (c.toNat - 87)
  else if 'A' ≤ c ∧ c ≤ 'F' then some (c.toNat - 55)
  else none

/-- The code unit that four hexadecimal digits stand for. -/
def hexUnit (a b c d : Char) : Option Nat := do
  return ((← hexDigit a) * 16 + (← hexDigit b)) * 256 + (← hexDigit c) * 16 + (← hexDigit d)

/-- The character of a one-letter escape. -/
def shortEscape : Char → Option Char
  | '"' => some '"'
  | '\\' => some '\\'
  | '/' => some '/'
  | 'b' => some '\x08'
  | 'f' => some '\x0c'
  | 'n' => some '\n'
  | 'r' => some '\r'
  | 't' => some '\t'
  | _ => none

/-- The pieces of a string up to its closing quote.  Control characters must be escaped. -/
def pieces : List Char → Option (List Piece × List Char)
  | [] => none
  | '"' :: rest => some ([], rest)
  | '\\' :: 'u' :: a :: b :: c :: d :: rest => do
    let unit ← hexUnit a b c d
    let (later, rest) ← pieces rest
    return (Piece.ofUnit unit :: later, rest)
  | '\\' :: e :: rest => do
    let c ← shortEscape e
    let (later, rest) ← pieces rest
    return (.char c :: later, rest)
  | c :: rest =>
    if c.toNat < 32 ∨ c = '\\' then none
    else do
      let (later, rest) ← pieces rest
      return (.char c :: later, rest)

/-- The characters that pieces stand for: each high surrogate is joined with the low one that
follows it. -/
def characters : List Piece → Option (List Char)
  | [] => some []
  | .char c :: later => (characters later).map (c :: ·)
  | .high h :: .low l :: later =>
    (characters later).map (Char.ofNat (0x10000 + h * 0x400 + l) :: ·)
  | .high _ :: _ => none
  | .low _ :: _ => none

/-! ### Tokens -/

/-- Whether a character may stand between tokens. -/
def isBlank (c : Char) : Bool :=
  c == ' ' || c == '\n' || c == '\t' || c == '\r'

/-- The first token of a text that does not start with a blank. -/
def firstToken : List Char → Option (Token × List Char)
  | '\x7b' :: rest => some (.openObject, rest)
  | '\x7d' :: rest => some (.closeObject, rest)
  | '[' :: rest => some (.openArray, rest)
  | ']' :: rest => some (.closeArray, rest)
  | ',' :: rest => some (.comma, rest)
  | ':' :: rest => some (.colon, rest)
  | 'n' :: 'u' :: 'l' :: 'l' :: rest => some (.null, rest)
  | 't' :: 'r' :: 'u' :: 'e' :: rest => some (.truth true, rest)
  | 'f' :: 'a' :: 'l' :: 's' :: 'e' :: rest => some (.truth false, rest)
  | '"' :: rest =>
    (pieces rest).map fun (found, rest) => (.string ((characters found).map String.ofList), rest)
  | '-' :: rest => (unsignedNumber true rest).map fun (n, rest) => (.number n, rest)
  | rest => (unsignedNumber false rest).map fun (n, rest) => (.number n, rest)

/-- The tokens of a text, at most `bound` of them. -/
def tokensWithin : (bound : Nat) → List Char → Option (List Token)
  | bound, text =>
    match text.dropWhile isBlank, bound with
    | [], _ => some []
    | _, 0 => none
    | rest, bound + 1 => do
      let (token, rest) ← firstToken rest
      return token :: (← tokensWithin bound rest)

/-- The tokens of a text; none is empty, so there are no more of them than characters. -/
def tokens (text : String) : Option (List Token) :=
  tokensWithin text.length text.toList

end Json
end FaultTolerance
