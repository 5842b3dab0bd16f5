import FaultTolerance.Proofs.Json.Scalar

/-!
# Settings read back

Accepted settings of every protection are read back from their documents, field by field.  A count
is a natural number here and has to fit the width of its field; everything else that a field needs
in order to be read back follows from its settings being accepted.

**Result.**
* `settings_read_back`: any choice of the fields of accepted settings, in any order and among
  unknown fields, is read as those fields with standard values elsewhere, and all of them as the
  settings themselves.
-/

namespace FaultTolerance

open Time Numeric Window Json

namespace Json

/-! ### Fields of settings

A field that is shown takes over its value and any other one keeps the value it has: both ways the
field puts one value in place. -/

section Fields

variable {α : Type} {key : String} {c : α}

theorem carry_spanField
    {get : α → Span}
    {put : Span → α → α}
    (hkeep : ∀ d, put (get d) d = d)
    (shown : Bool)
    (d : α) :
    (if shown then (spanField key get put).carry c d else d)
      = put (if shown then get c else get d) d :=
  Field.carry_of_ite (spanOf?_spanDocument _) hkeep shown d

theorem carry_countField
    {limit : Nat}
    {get : α → Nat}
    {put : Nat → α → α}
    (hle : get c ≤ limit)
    (hkeep : ∀ d, put (get d) d = d)
    (shown : Bool)
    (d : α) :
    (if shown then (countField key limit get put).carry c d else d)
      = put (if shown then get c else get d) d :=
  Field.carry_of_ite (Document.natural_ofNatural hle) hkeep shown d

theorem carry_rateField
    {get : α → Binary32}
    {put : Binary32 → α → α}
    (hfinite : (get c).isFinite = true)
    (hkeep : ∀ d, put (get d) d = d)
    (shown : Bool)
    (d : α) :
    (if shown then (rateField key get put).carry c d else d)
      = put (if shown then get c else get d) d :=
  Field.carry_of_ite (Document.real_ofReal32 hfinite) hkeep shown d

theorem carry_shapeField
    {get : α → Shape}
    {put : Shape → α → α}
    (hkeep : ∀ d, put (get d) d = d)
    (shown : Bool)
    (d : α) :
    (if shown then (shapeField key get put).carry c d else d)
      = put (if shown then get c else get d) d :=
  Field.carry_of_ite (shapeOf?_label _) hkeep shown d

end Fields

/-- An interval function of accepted settings reads back inside their object. -/
theorem intervalOf?_of_validate
    {i : Interval}
    (h : i.validate = .ok ()) :
    intervalOf? 1 (intervalDocument i) = some i :=
  intervalOf?_intervalDocument (finite_intervalParts h) (by decide)

/-- So does one that may be missing. -/
theorem optionalIntervalOf?_of_validate
    {i : Option Interval}
    (h : ∀ interval, i = some interval → interval.validate = .ok ()) :
    optionalIntervalOf? 1 (optionalIntervalDocument i) = some i := by
  cases i with
  | none => rfl
  | some interval =>
    have hread := intervalOf?_of_validate (h interval rfl)
    show (intervalOf? 1 (intervalDocument interval)).map some = some (some interval)
    rw [hread, Option.map_some]

end Json

/-! ### Circuit breaker -/

namespace Breaker.Config

/-- Settings whose counts fit the 32 bits of their fields. -/
structure InWidth (c : Breaker.Config) : Prop where
  size : c.size ≤ maxCount32
  minimum : c.minimum ≤ maxCount32
  trials : c.trials ≤ maxCount32

/-- The chosen fields of some settings, and standard values for the others. -/
def only
    (c : Breaker.Config)
    (chosen : String → Bool) : Breaker.Config where
  failureRate := if chosen "failure_rate_threshold" then c.failureRate else standard.failureRate
  slowRate := if chosen "slow_call_rate_threshold" then c.slowRate else standard.slowRate
  slowDuration :=
    if chosen "slow_call_duration_threshold" then c.slowDuration else standard.slowDuration
  shape := if chosen "sliding_window_type" then c.shape else standard.shape
  size := if chosen "sliding_window_size" then c.size else standard.size
  minimum := if chosen "minimum_number_of_calls" then c.minimum else standard.minimum
  trials :=
    if chosen "permitted_number_of_calls_in_half_open_state" then c.trials else standard.trials
  openWait := if chosen "wait_duration_in_open_state" then c.openWait else standard.openWait
  openInterval :=
    if chosen "wait_interval_in_open_state" then c.openInterval else standard.openInterval

theorem readsBack
    {c : Breaker.Config}
    (hwidth : c.InWidth)
    (haccepted : c.validate = .ok ()) :
    record.ReadsBack c.only c := by
  obtain ⟨hrates, -, -, -, -, hinterval⟩ := (validate_eq_ok_iff c).mp haccepted
  have hfailure : c.failureRate.isFinite = true := (Thresholds.isFinite_of_validate hrates).1
  have hslow : c.slowRate.isFinite = true := (Thresholds.isFinite_of_validate hrates).2
  have hopen := optionalIntervalOf?_of_validate hinterval
  refine Record.readsBack (by decide) ?_ ?_ rfl
  · simp only [record, List.forall_mem_cons]
    exact ⟨Field.legible_of (Document.real_ofReal32 hfailure),
      Field.legible_of (Document.real_ofReal32 hslow), Field.legible_of (spanOf?_spanDocument _),
      Field.legible_of (shapeOf?_label _),
      Field.legible_of (Document.natural_ofNatural hwidth.size),
      Field.legible_of (Document.natural_ofNatural hwidth.minimum),
      Field.legible_of (Document.natural_ofNatural hwidth.trials),
      Field.legible_of (spanOf?_spanDocument _), Field.legible_of hopen, by simp⟩
  · intro chosen
    simp only [Record.taking, record, List.foldl_cons, List.foldl_nil, carry_spanField,
      carry_countField, carry_rateField, carry_shapeField, Field.carry_of_ite, implies_true,
      hfailure, hslow, hopen, hwidth.size, hwidth.minimum, hwidth.trials]
    rfl

end Breaker.Config

/-! ### Rate limiter -/

namespace Limiter.Config

/-- The chosen fields of some settings, and standard values for the others. -/
def only
    (c : Limiter.Config)
    (chosen : String → Bool) : Limiter.Config where
  limit := if chosen "limit_for_period" then c.limit else standard.limit
  period := if chosen "limit_refresh_period" then c.period else standard.period
  timeout := if chosen "timeout_duration" then c.timeout else standard.timeout

theorem readsBack
    {c : Limiter.Config}
    (haccepted : c.validate = .ok ()) :
    record.ReadsBack c.only c := by
  -- An accepted limit fits its field with a bit to spare.
  have hwidth : c.limit ≤ maxCount32 := by
    have hlimit := ((validate_eq_ok_iff c).mp haccepted).1.2
    exact hlimit.trans (by decide)
  refine Record.readsBack (by decide) ?_ ?_ rfl
  · simp only [record, List.forall_mem_cons]
    exact ⟨Field.legible_of (Document.natural_ofNatural hwidth),
      Field.legible_of (spanOf?_spanDocument _), Field.legible_of (spanOf?_spanDocument _),
      by simp⟩
  · intro chosen
    simp only [Record.taking, record, List.foldl_cons, List.foldl_nil, carry_spanField,
      carry_countField, implies_true, hwidth]
    rfl

end Limiter.Config

/-! ### Bulkhead -/

namespace Bulkhead.Config

/-- Settings whose count fits the 64 bits of its field. -/
structure InWidth (c : Bulkhead.Config) : Prop where
  limit : c.limit ≤ maxCount64

/-- The chosen fields of some settings, and standard values for the others. -/
def only
    (c : Bulkhead.Config)
    (chosen : String → Bool) : Bulkhead.Config where
  limit := if chosen "max_concurrent_calls" then c.limit else standard.limit
  wait := if chosen "max_wait_duration" then c.wait else standard.wait

theorem readsBack
    {c : Bulkhead.Config}
    (hwidth : c.InWidth) :
    record.ReadsBack c.only c := by
  refine Record.readsBack (by decide) ?_ ?_ rfl
  · simp only [record, List.forall_mem_cons]
    exact ⟨Field.legible_of (Document.natural_ofNatural hwidth.limit),
      Field.legible_of (spanOf?_spanDocument _), by simp⟩
  · intro chosen
    simp only [Record.taking, record, List.foldl_cons, List.foldl_nil, carry_spanField,
      carry_countField, implies_true, hwidth.limit]
    rfl

end Bulkhead.Config

/-! ### Adaptive bulkhead -/

namespace Adaptive.Config

/-- Settings whose counts fit their fields: calls of the window in 32 bits, limits in 64. -/
structure InWidth (c : Adaptive.Config) : Prop where
  size : c.size ≤ maxCount32
  minimum : c.minimum ≤ maxCount32
  initial : c.initial ≤ maxCount64
  least : c.least ≤ maxCount64
  most : c.most ≤ maxCount64

/-- The chosen fields of some settings, and standard values for the others. -/
def only
    (c : Adaptive.Config)
    (chosen : String → Bool) : Adaptive.Config where
  failureRate := if chosen "failure_rate_threshold" then c.failureRate else standard.failureRate
  slowRate := if chosen "slow_call_rate_threshold" then c.slowRate else standard.slowRate
  slowDuration :=
    if chosen "slow_call_duration_threshold" then c.slowDuration else standard.slowDuration
  shape := if chosen "sliding_window_type" then c.shape else standard.shape
  size := if chosen "sliding_window_size" then c.size else standard.size
  minimum := if chosen "minimum_number_of_calls" then c.minimum else standard.minimum
  initial := if chosen "initial_concurrent_calls" then c.initial else standard.initial
  least := if chosen "min_concurrent_calls" then c.least else standard.least
  most := if chosen "max_concurrent_calls" then c.most else standard.most
  wait := if chosen "max_wait_duration" then c.wait else standard.wait

theorem readsBack
    {c : Adaptive.Config}
    (hwidth : c.InWidth)
    (haccepted : c.validate = .ok ()) :
    record.ReadsBack c.only c := by
  have hrates := ((validate_eq_ok_iff c).mp haccepted).1
  have hfailure : c.failureRate.isFinite = true := (Thresholds.isFinite_of_validate hrates).1
  have hslow : c.slowRate.isFinite = true := (Thresholds.isFinite_of_validate hrates).2
  refine Record.readsBack (by decide) ?_ ?_ rfl
  · simp only [record, List.forall_mem_cons]
    exact ⟨Field.legible_of (Document.real_ofReal32 hfailure),
      Field.legible_of (Document.real_ofReal32 hslow), Field.legible_of (spanOf?_spanDocument _),
      Field.legible_of (shapeOf?_label _),
      Field.legible_of (Document.natural_ofNatural hwidth.size),
      Field.legible_of (Document.natural_ofNatural hwidth.minimum),
      Field.legible_of (Document.natural_ofNatural hwidth.initial),
      Field.legible_of (Document.natural_ofNatural hwidth.least),
      Field.legible_of (Document.natural_ofNatural hwidth.most),
      Field.legible_of (spanOf?_spanDocument _), by simp⟩
  · intro chosen
    simp only [Record.taking, record, List.foldl_cons, List.foldl_nil, carry_spanField,
      carry_countField, carry_rateField, carry_shapeField, implies_true, hfailure, hslow,
      hwidth.size, hwidth.minimum, hwidth.initial, hwidth.least, hwidth.most]
    rfl

end Adaptive.Config

/-! ### Retry -/

namespace Retry.Config

/-- Settings whose count fits the 32 bits of its field. -/
structure InWidth (c : Retry.Config) : Prop where
  maxAttempts : c.maxAttempts ≤ maxCount32

/-- The chosen fields of some settings, and standard values for the others. -/
def only
    (c : Retry.Config)
    (chosen : String → Bool) : Retry.Config where
  maxAttempts := if chosen "max_attempts" then c.maxAttempts else standard.maxAttempts
  interval := if chosen "interval" then c.interval else standard.interval

theorem readsBack
    {c : Retry.Config}
    (hwidth : c.InWidth)
    (haccepted : c.validate = .ok ()) :
    record.ReadsBack c.only c := by
  rw [validate, checked_bind_eq_ok_iff] at haccepted
  have hinterval := intervalOf?_of_validate haccepted.2
  refine Record.readsBack (by decide) ?_ ?_ rfl
  · simp only [record, List.forall_mem_cons]
    exact ⟨Field.legible_of (Document.natural_ofNatural hwidth.maxAttempts), Field.legible_of hinterval,
      by simp⟩
  · intro chosen
    simp only [Record.taking, record, List.foldl_cons, List.foldl_nil, carry_countField,
      Field.carry_of_ite, implies_true, hwidth.maxAttempts, hinterval]
    rfl

end Retry.Config

/-! ### Time limit -/

namespace TimeLimit.Config

/-- The chosen fields of some settings, and standard values for the others. -/
def only
    (c : TimeLimit.Config)
    (chosen : String → Bool) : TimeLimit.Config where
  timeout := if chosen "timeout_duration" then c.timeout else standard.timeout
  cancel := if chosen "cancel_running_future" then c.cancel else standard.cancel

theorem readsBack (c : TimeLimit.Config) : record.ReadsBack c.only c := by
  have hcancel : Document.boolean (.truth c.cancel) = some c.cancel := rfl
  refine Record.readsBack (by decide) ?_ ?_ rfl
  · simp only [record, List.forall_mem_cons]
    exact ⟨Field.legible_of (spanOf?_spanDocument _), Field.legible_of hcancel, by simp⟩
  · intro chosen
    simp only [Record.taking, record, List.foldl_cons, List.foldl_nil, carry_spanField,
      Field.carry_of_ite, implies_true, hcancel]
    rfl

end TimeLimit.Config

/-! ### Every protection -/

/-- Accepted settings read back.  Whichever of their fields an object carries, in whichever order
and among whichever unknown fields, reading it succeeds and gives those fields with standard values
elsewhere; reading the document of the settings gives the settings. -/
theorem settings_read_back :
    (∀ c : Breaker.Config, c.InWidth → c.validate = .ok () →
      Breaker.Config.record.ReadsBack c.only c) ∧
    (∀ c : Limiter.Config, c.validate = .ok () → Limiter.Config.record.ReadsBack c.only c) ∧
    (∀ c : Bulkhead.Config, c.InWidth → c.validate = .ok () →
      Bulkhead.Config.record.ReadsBack c.only c) ∧
    (∀ c : Adaptive.Config, c.InWidth → c.validate = .ok () →
      Adaptive.Config.record.ReadsBack c.only c) ∧
    (∀ c : Retry.Config, c.InWidth → c.validate = .ok () →
      Retry.Config.record.ReadsBack c.only c) ∧
    (∀ c : TimeLimit.Config, c.validate = .ok () → TimeLimit.Config.record.ReadsBack c.only c) :=
  ⟨fun _ hwidth haccepted => Breaker.Config.readsBack hwidth haccepted,
    fun _ haccepted => Limiter.Config.readsBack haccepted,
    fun _ hwidth _ => Bulkhead.Config.readsBack hwidth,
    fun _ hwidth haccepted => Adaptive.Config.readsBack hwidth haccepted,
    fun _ hwidth haccepted => Retry.Config.readsBack hwidth haccepted,
    fun c _ => TimeLimit.Config.readsBack c⟩

/-- Two settings of a circuit breaker that waits at random, shown in the other order with an unknown
one between them; and the standard settings of the other protections. -/
theorem settings_read_back_random_wait :
    (Breaker.Config.record.ofDocument? (.ofFields
        [("wait_interval_in_open_state", intervalDocument (.randomized (Span.ofSeconds 1)
            (Binary.ofNat 2) (Span.ofSeconds 30) (Binary.ofNat 1))),
          ("retry_on_error", .null),
          ("failure_rate_threshold", .ofReal (Binary.ofNat 25 : Binary32))])
      = some { Breaker.Config.standard with
          failureRate := Binary.ofNat 25
          openInterval := some (.randomized (Span.ofSeconds 1) (Binary.ofNat 2)
            (Span.ofSeconds 30) (Binary.ofNat 1)) }) ∧
    Limiter.Config.record.ReadsBack Limiter.Config.standard.only Limiter.Config.standard ∧
    Bulkhead.Config.record.ReadsBack Bulkhead.Config.standard.only Bulkhead.Config.standard ∧
    Adaptive.Config.record.ReadsBack Adaptive.Config.standard.only Adaptive.Config.standard ∧
    Retry.Config.record.ReadsBack Retry.Config.standard.only Retry.Config.standard ∧
    TimeLimit.Config.record.ReadsBack TimeLimit.Config.standard.only TimeLimit.Config.standard := by
  obtain ⟨hbreaker, hlimiter, hbulkhead, hadaptive, hretry, htimeLimit⟩ := settings_read_back
  refine ⟨?_, hlimiter _ (by decide +kernel), hbulkhead _ ⟨by decide⟩ (by decide +kernel),
    hadaptive _ ⟨by decide, by decide, by decide, by decide, by decide⟩ (by decide +kernel),
    hretry _ ⟨by decide⟩ (by decide +kernel), htimeLimit _ (by decide +kernel)⟩
  let chosen (key : String) : Bool :=
    key == "failure_rate_threshold" || key == "wait_interval_in_open_state"
  have hcarried (c : Breaker.Config) : Breaker.Config.record.carried chosen c
      = [("failure_rate_threshold", .ofReal c.failureRate),
        ("wait_interval_in_open_state", optionalIntervalDocument c.openInterval)] := by
    simp [Record.carried, Breaker.Config.record, chosen, rateField, spanField, countField,
      shapeField, Field.of]
  have honly (c : Breaker.Config) : c.only chosen
      = { Breaker.Config.standard with
          failureRate := c.failureRate, openInterval := c.openInterval } := by
    simp [Breaker.Config.only, chosen]
  have hread (c : Breaker.Config) (hwidth : c.InWidth) (haccepted : c.validate = .ok ()) :
      Breaker.Config.record.ofDocument? (.ofFields
          [("wait_interval_in_open_state", optionalIntervalDocument c.openInterval),
            ("retry_on_error", .null), ("failure_rate_threshold", .ofReal c.failureRate)])
        = some { Breaker.Config.standard with
            failureRate := c.failureRate, openInterval := c.openInterval } := by
    rw [← honly c]
    refine (hbreaker c hwidth haccepted).chosen chosen _
      ⟨[("retry_on_error", .null)], by decide, ?_⟩
    rw [hcarried c]
    exact List.perm_append_singleton _ [_, _]
  simpa only [optionalIntervalDocument] using hread
    { Breaker.Config.standard with
      failureRate := Binary.ofNat 25
      openInterval := some (.randomized (Span.ofSeconds 1) (Binary.ofNat 2) (Span.ofSeconds 30)
        (Binary.ofNat 1)) }
    ⟨by decide, by decide, by decide⟩ (by decide +kernel)

end FaultTolerance
