import FaultTolerance.CallError
import FaultTolerance.Classifier
import FaultTolerance.ConfigError
import FaultTolerance.Json.Document

/-!
# Errors in JSON

Refused settings, rejections and errors of protected calls as documents.  Each carries its wording
beside its parts.  An error that wraps another one holds it as a document of its own.

## Main definitions

* `Json.spanPair`, `Json.orNull`: small documents.
* `ConfigError.toDocument`, `Rejection.toDocument`, `CallError.toDocument`.
* `Json.ErrorForm`: how a kind of error is written, worded and inspected.
-/

namespace FaultTolerance

open Time Json

namespace Json

/-- A span as its seconds and nanoseconds. -/
def spanPair (span : Span) : Document :=
  .array [.ofNatural span.seconds, .ofNatural span.rest]

/-- A value that may be missing. -/
def orNull
    {α : Type}
    (write : α → Document) : Option α → Document
  | none => .null
  | some value => write value

/-- How a kind of error is written, worded and inspected. -/
structure ErrorForm (ε : Type) where
  document : ε → Document
  message : ε → String
  inspect : ε → String

end Json

/-- A refused setting. -/
def ConfigError.toDocument (e : ConfigError) : Document :=
  .ofFields
    [("error", .ofText "ConfigError"), ("field", .ofText e.field), ("reason", .ofText e.reason),
      ("message", .ofText e.message)]

/-- The outcome of checking settings. -/
def Json.checkedDocument : Checked → Document
  | .ok () => .ofText "ok"
  | .error e => e.toDocument

/-- A rejection. -/
def Rejection.toDocument (r : Rejection) : Document :=
  let message := ("message", Document.ofText r.message)
  match r with
  | .callNotPermitted _ phase =>
    .ofFields [("rejected", .ofText "CallNotPermitted"), message, ("state", .ofText phase.label)]
  | .bulkheadFull _ limit =>
    .ofFields [("rejected", .ofText "BulkheadFull"), message, ("limit", .ofNatural limit)]
  | .requestNotPermitted _ => .ofFields [("rejected", .ofText "RequestNotPermitted"), message]
  | .interrupted _ => .ofFields [("rejected", .ofText "Interrupted"), message]

/-- A permission given or refused. -/
def Json.permissionDocument : Except Rejection Unit → Document
  | .ok () => .ofText "ok"
  | .error r => r.toDocument

/-- Why a circuit did not move. -/
def Circuit.Refusal.toDocument : Circuit.Refusal → Document
  | .noEdge source trigger =>
    .ofFields
      [("error", .ofText "InvalidTransition"), ("from", .ofText source.inspect),
        ("event", .ofText trigger.label)]
  | .guarded condition trigger =>
    .ofFields
      [("error", .ofText "GuardFailed"), ("guard", .ofText condition),
        ("event", .ofText trigger.label)]

/-- A fault: a text, a number, or null for any other error. -/
def Fault.toDocument : Fault → Document
  | .text content => .ofText content
  | .code value => .ofNatural value
  | .other => .null

/-- An error of a protected call. -/
def CallError.toDocument
    {ε : Type}
    (inner : ErrorForm ε)
    (e : CallError ε) : Document :=
  let message := ("message", Document.ofText (e.message inner.message))
  match e with
  | .rejected r => .ofFields [("err", .ofText "Rejected"), message, ("rejection", r.toDocument)]
  | .timeout _ limit => .ofFields [("err", .ofText "Timeout"), message, ("timeout", spanPair limit)]
  | .exhausted _ attempts last =>
    .ofFields
      [("err", .ofText "RetryExhausted"), message, ("attempts", .ofNatural attempts),
        ("last", inner.document last)]
  | .execution e => .ofFields [("err", .ofText "Execution"), message, ("inner", inner.document e)]

/-- The form of a fault. -/
def Fault.form : ErrorForm Fault :=
  ⟨Fault.toDocument, Fault.message, Fault.inspect⟩

/-- The form of an error around another one. -/
def CallError.form
    {ε : Type}
    (inner : ErrorForm ε) : ErrorForm (CallError ε) :=
  ⟨toDocument inner, message inner.message, inspect inner.inspect⟩

end FaultTolerance
