import FaultTolerance.Adaptive.Basic
import FaultTolerance.Breaker.Basic
import FaultTolerance.Json.Errors
import FaultTolerance.Limiter.Basic
import FaultTolerance.Retry.Basic
import FaultTolerance.TimeLimit.Basic

/-!
# Events in JSON

An event is written with its type, the name of the protection that announced it, and fields of its
own.
-/

namespace FaultTolerance

open Json

/-- An event of a type, announced under a name. -/
def Json.eventDocument
    (name type : String)
    (fields : List (String × Document)) : Document :=
  .ofFields (("type", .ofText type) :: ("name", .ofText name) :: fields)

/-- What an event of a circuit breaker tells. -/
def Breaker.Event.fields : Breaker.Event → List (String × Document)
  | .success elapsed | .error elapsed | .ignoredError elapsed => [("elapsed", spanPair elapsed)]
  | .transition source target => [("from", .ofText source.label), ("to", .ofText target.label)]
  | .failureRateExceeded rate => [("failure_rate", .ofReal rate)]
  | .slowCallRateExceeded rate => [("slow_call_rate", .ofReal rate)]
  | .callPermitted | .notPermitted | .reset => []

/-- What an event of an adaptive bulkhead tells. -/
def Adaptive.Event.fields : Adaptive.Event → List (String × Document)
  | .callFinished verdict => [("verdict", .ofText verdict.label)]
  | .limitChanged old new => [("from", .ofNatural old), ("to", .ofNatural new)]
  | .callPermitted | .callRejected => []

/-- What an event of a retry tells. -/
def Retry.Event.fields : Retry.Event → List (String × Document)
  | .retry attempt wait => [("attempt", .ofNatural attempt), ("wait", spanPair wait)]
  | .success attempts | .error attempts => [("attempts", .ofNatural attempts)]
  | .ignoredError => []

/-- An event of a circuit breaker. -/
def Breaker.Event.toDocument
    (name : String)
    (e : Breaker.Event) : Document :=
  eventDocument name e.label e.fields

/-- An event of a rate limiter. -/
def Limiter.Event.toDocument
    (name : String)
    (e : Limiter.Event) : Document :=
  eventDocument name e.label []

/-- An event of a bulkhead. -/
def Bulkhead.Event.toDocument
    (name : String)
    (e : Bulkhead.Event) : Document :=
  eventDocument name e.label []

/-- An event of an adaptive bulkhead. -/
def Adaptive.Event.toDocument
    (name : String)
    (e : Adaptive.Event) : Document :=
  eventDocument name e.label e.fields

/-- An event of a retry. -/
def Retry.Event.toDocument
    (name : String)
    (e : Retry.Event) : Document :=
  eventDocument name e.label e.fields

/-- An event of a time limit. -/
def TimeLimit.Event.toDocument
    (name : String)
    (e : TimeLimit.Event) : Document :=
  eventDocument name e.label []

end FaultTolerance
