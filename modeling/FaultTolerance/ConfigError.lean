/-!
# Refused settings

A setting outside its accepted range is refused with the field's name and the reason.
-/

namespace FaultTolerance

/-- A setting that was refused, and why. -/
structure ConfigError where
  field : String
  reason : String
deriving DecidableEq, Repr

namespace ConfigError

/-- The wording of a refusal. -/
def message (e : ConfigError) : String :=
  "invalid configuration for '" ++ e.field ++ "': " ++ e.reason

end ConfigError

/-- The outcome of checking settings. -/
abbrev Checked := Except ConfigError Unit

/-- Refuse a field with a reason unless a condition holds. -/
def require
    (condition : Bool)
    (field reason : String) : Checked :=
  if condition then .ok () else .error ⟨field, reason⟩

/-- A count that must not be zero. -/
def requirePositive
    (n : Nat)
    (field : String) : Checked :=
  require (0 < n) field "must be greater than 0"

end FaultTolerance
