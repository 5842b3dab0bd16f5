import FaultTolerance.Text.Glyph

/-!
# Layout of inspection texts

An inspection text shows the inside of a value: a record as its name and its named fields, a
wrapped value as a name and parentheses, text in double quotes.

## Main definitions

* `Layout.quoted`: text between double quotes, with escapes.
* `Layout.record`, `Layout.wrapped`, `Layout.listed`, `Layout.optional`: the four shapes.
-/

namespace FaultTolerance
namespace Text
namespace Layout

/-- Lower-case hexadecimal digits of a code point. -/
def hexadecimal (n : Nat) : String :=
  String.ofList (Nat.toDigits 16 n)

/-- One character inside quotes: the quote, the backslash and every character without a glyph of its
own are escaped. -/
def escaped (c : Char) : String :=
  if c = '"' then "\\\""
  else if c = '\\' then "\\\\"
  else if c = '\n' then "\\n"
  else if c = '\r' then "\\r"
  else if c = '\t' then "\\t"
  else if c = '\x00' then "\\0"
  else if Glyph.hasGlyph c then c.toString
  else "\\u\x7b" ++ hexadecimal c.toNat ++ "\x7d"

/-- Text between double quotes. -/
def quoted (s : String) : String :=
  "\"" ++ String.join (s.toList.map escaped) ++ "\""

/-- A record: its name, then its fields in braces. -/
def record
    (name : String)
    (fields : List (String × String)) : String :=
  name ++ " \x7b " ++ ", ".intercalate (fields.map fun (key, value) => key ++ ": " ++ value)
    ++ " \x7d"

/-- A value wrapped by a name. -/
def wrapped
    (name : String)
    (inner : String) : String :=
  name ++ "(" ++ inner ++ ")"

/-- Values in brackets. -/
def listed (items : List String) : String :=
  "[" ++ ", ".intercalate items ++ "]"

/-- A value that may be missing. -/
def optional : Option String → String
  | none => "None"
  | some inner => wrapped "Some" inner

/-- A truth value. -/
def truth (b : Bool) : String :=
  if b then "true" else "false"

end Layout
end Text
end FaultTolerance
