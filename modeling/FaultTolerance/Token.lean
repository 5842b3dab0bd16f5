import FaultTolerance.Text.Layout

/-!
# Interrupt tokens

A token carries one flag, which is set from outside to cut short a wait and stays set until it is
cleared.
-/

namespace FaultTolerance

open Text

/-- An interrupt token. -/
structure Token where
  interrupted : Bool
deriving DecidableEq, Repr

namespace Token

/-- A token that was not interrupted. -/
def fresh : Token :=
  ⟨false⟩

/-- Set the flag. -/
def interrupt (_ : Token) : Token :=
  ⟨true⟩

/-- Clear the flag; the answer tells whether it was set. -/
def clear (t : Token) : Bool × Token :=
  (t.interrupted, fresh)

/-- The token as text. -/
def inspect (t : Token) : String :=
  Layout.record "InterruptToken" [("interrupted", Layout.truth t.interrupted)]

end Token
end FaultTolerance
