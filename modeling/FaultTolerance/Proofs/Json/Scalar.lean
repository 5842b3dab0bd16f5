import FaultTolerance.Json.Settings
import FaultTolerance.Proofs.Json.Record
import FaultTolerance.Proofs.Numeric.Reading
import FaultTolerance.Proofs.Numeric.Value
import FaultTolerance.Proofs.Settings

/-!
# Values read back

Counts, finite values, shapes, spans and interval functions are read back from their documents.  An
interval function is only read from a sound document that is not nested too deeply, so the documents
that are written have to be measured as well.

**Results.**
* `Document.real_ofReal`: finite values read back.
* `spanOf?_spanDocument`: spans read back.
* `intervalOf?_intervalDocument`: interval functions with finite parts read back.
-/

namespace FaultTolerance
namespace Json

open Time Numeric Window

/-! ### Numbers -/

namespace Document

/-- A count within its limit reads back. -/
theorem natural_ofNatural
    {limit n : Nat}
    (hle : n ≤ limit) :
    natural limit (ofNatural n) = some n :=
  if_pos hle

/-- The numeral of a finite value reads as that value. -/
theorem toBinary_ofReal
    {f : Format}
    (hhorizon : 10 ^ (f.scale - 400) ≤ 5 ^ f.scale)
    {x : Binary f}
    (hfinite : x.isFinite = true) :
    ∃ d : Decimal, ofReal x = .number ⟨d, false⟩ ∧ d.toBinary = x := by
  cases x with
  | nan => cases hfinite
  | infinite negative => cases hfinite
  | finite negative quanta fits =>
    exact ⟨_, rfl, Decimal.toBinary_ofQuanta hhorizon negative fits⟩

/-- A finite value reads back. -/
theorem real_ofReal
    {f : Format}
    (hhorizon : 10 ^ (f.scale - 400) ≤ 5 ^ f.scale)
    {x : Binary f}
    (hfinite : x.isFinite = true) :
    real (ofReal x) = some x := by
  obtain ⟨d, hdocument, hread⟩ := toBinary_ofReal hhorizon hfinite
  simp [hdocument, real, isLongNegative, hread, hfinite]

theorem real_ofReal32
    {x : Binary32}
    (hfinite : x.isFinite = true) :
    real (ofReal x) = some x :=
  real_ofReal (by decide +kernel) hfinite

theorem real_ofReal64
    {x : Binary64}
    (hfinite : x.isFinite = true) :
    real (ofReal x) = some x :=
  real_ofReal (by decide +kernel) hfinite

/-! ### Sound documents -/

/-- The document of a finite value is sound. -/
theorem sound_ofReal
    {x : Binary64}
    (hfinite : x.isFinite = true) :
    (ofReal x).sound = true := by
  obtain ⟨d, hdocument, hread⟩ := toBinary_ofReal (by decide +kernel) hfinite
  rw [hdocument, sound, hread]
  exact hfinite

/-- The document of a finite value is a scalar. -/
theorem depth_ofReal
    {f : Format}
    (x : Binary f) :
    (ofReal x).depth = 0 := by
  cases x <;> rfl

/-- The document of a 64-bit count is sound. -/
theorem sound_ofNatural
    {n : Nat}
    (hle : n ≤ maxCount64) :
    (ofNatural n).sound = true := by
  have hbound : n ≤ 2 ^ 64 :=
    hle.trans (by decide)
  have hread : ((⟨false, n, 0⟩ : Decimal).toBinary : Binary64).isFinite = true := by
    rw [Decimal.toBinary_natural]
    exact (Binary.hasValue_ofNat hbound (by decide)).1
  exact hread

/-- An object is sound when its values are. -/
theorem sound_ofFields
    {fields : List (String × Document)}
    (hsound : ∀ field ∈ fields, field.2.sound = true) :
    (ofFields fields).sound = true := by
  induction fields with
  | nil => rfl
  | cons field fields ih =>
    rw [List.forall_mem_cons] at hsound
    have hlater : soundFields (named fields) = true := ih hsound.2
    show (true && field.2.sound && soundFields (named fields)) = true
    rw [hsound.1, hlater]
    rfl

/-- An object is nested one deeper than the deepest of its values. -/
theorem depth_ofFields_le
    {bound : Nat}
    {fields : List (String × Document)}
    (hdepth : ∀ field ∈ fields, field.2.depth ≤ bound) :
    (ofFields fields).depth ≤ bound + 1 := by
  induction fields with
  | nil => exact Nat.le_add_left 1 bound
  | cons field fields ih =>
    rw [List.forall_mem_cons] at hdepth
    have hlater : depthOfFields (named fields) + 1 ≤ bound + 1 := ih hdepth.2
    show max field.2.depth (depthOfFields (named fields)) + 1 ≤ bound + 1
    have hhead := hdepth.1
    omega

end Document

open Document

/-! ### Spans -/

/-- The seconds and nanoseconds of a span make it up again. -/
theorem spanOfParts?_self (span : Span) : spanOfParts? span.seconds span.rest = some span := by
  have hsum : span.seconds * nanosPerSecond + span.rest = span.nanos :=
    Nat.div_add_mod' span.nanos nanosPerSecond
  rw [spanOfParts?, dif_pos (hsum ▸ span.bounded)]
  exact congrArg some (Span.ext_nanos hsum)

/-- The seconds of a span fit in 64 bits. -/
theorem seconds_le (span : Span) : span.seconds ≤ maxCount64 :=
  Nat.le_of_lt_succ (Nat.div_lt_of_lt_mul (by simpa [Nat.mul_comm] using span.bounded))

/-- The nanoseconds of a span past its seconds are less than a second. -/
theorem rest_lt (span : Span) : span.rest < nanosPerSecond :=
  Nat.mod_lt _ (by decide)

/-- The span document has the parts of the span. -/
theorem ofWhole?_spanDocument (span : Span) :
    spanRecord.ofWhole? (spanDocument span) = some (span.seconds, span.rest) := by
  have hseconds : natural maxCount64 (ofNatural span.seconds) = some span.seconds :=
    natural_ofNatural (seconds_le span)
  have hrest : natural maxCount32 (ofNatural span.rest) = some span.rest :=
    natural_ofNatural ((rest_lt span).le.trans (by decide))
  have hkeys : spanRecord.keys.Nodup := by
    simp [spanRecord, Record.keys, Field.of]
  rw [spanDocument, Record.toDocument_eq, ofFields_eq]
  refine (Record.ofAllEntries?_of_shows hkeys ?_ Record.shows_carried).trans ?_
  · simp only [spanRecord, List.forall_mem_cons]
    exact ⟨Field.legible_of hseconds, Field.legible_of hrest, by simp⟩
  · simp [Record.taking, spanRecord, Field.carry, Field.of, hseconds, hrest]

/-- A pair that is there is passed on by its parts, whatever is made of them. -/
theorem bind_pair
    {α β γ : Type}
    {next : α → β → Option γ}
    {a : α}
    {b : β}
    {pair : Option (α × β)}
    (hpair : pair = some (a, b)) :
    (pair >>= fun (a, b) => next a b) = next a b := by
  rw [hpair]
  rfl

/-- A span reads back. -/
theorem spanOf?_spanDocument (span : Span) : spanOf? (spanDocument span) = some span := by
  have honly : onlySpanKeys (spanDocument span) = true := by
    simp [onlySpanKeys, spanDocument, Record.toDocument, spanRecord, Field.of]
  rw [spanOf?, honly, if_neg (by decide), ← spanOfParts?_self span]
  -- Reducing the bind in place would unfold the bound of spans.
  exact bind_pair (ofWhole?_spanDocument span)

/-- The document of a span is sound. -/
theorem sound_spanDocument (span : Span) : (spanDocument span).sound = true := by
  rw [spanDocument, Record.toDocument_eq]
  refine sound_ofFields ?_
  simp only [Record.carried, spanRecord, List.forall_mem_map]
  have hrest : span.rest ≤ maxCount64 := (rest_lt span).le.trans (by decide)
  simp [Field.of, sound_ofNatural (seconds_le span), sound_ofNatural hrest]

/-- The document of a span is a single object. -/
theorem depth_spanDocument (span : Span) : (spanDocument span).depth = 1 :=
  rfl

/-! ### Shapes -/

/-- The shape of a window reads back. -/
theorem shapeOf?_label (shape : Shape) : shapeOf? (.ofText shape.label) = some shape := by
  cases shape <;> rfl

/-! ### Interval functions -/

/-- Parts of an interval function whose numbers are finite. -/
structure IntervalParts.Finite (p : IntervalParts) : Prop where
  multiplier : p.multiplier.isFinite = true
  factor : p.factor.isFinite = true

/-- Accepted interval functions have finite parts. -/
theorem finite_intervalParts
    {i : Interval}
    (h : i.validate = .ok ()) :
    (intervalParts i).Finite := by
  cases i with
  | fixed interval => exact ⟨rfl, rfl⟩
  | exponential initial multiplier max =>
    exact ⟨Interval.isFinite_of_checkMultiplier h, rfl⟩
  | randomized initial multiplier max factor =>
    rw [Interval.validate, checked_bind_eq_ok_iff] at h
    exact ⟨Interval.isFinite_of_checkMultiplier h.1, Interval.isFinite_of_checkFactor h.2⟩

/-- The tag of an interval function reads back. -/
theorem ofTag?_label (t : IntervalType) : IntervalType.ofTag? (ofText t.label) = some t := by
  cases t <;> rfl

/-- The parts of each type of interval function have keys of their own, and none is the tag. -/
theorem nodup_type_keys (t : IntervalType) : ("type" :: t.record.keys).Nodup := by
  cases t <;> decide

/-- An interval function is written as its tag and all its parts. -/
theorem intervalDocument_eq (i : Interval) :
    intervalDocument i = ofFields (("type", ofText (intervalType i).label)
      :: (intervalType i).record.carried (fun _ => true) (intervalParts i)) := by
  simp [intervalDocument, Record.carried, ofFields, Function.comp_def]

section Parts

variable {p : IntervalParts} (hfinite : p.Finite)
include hfinite

/-- The parts of an interval function can be read back, whatever its type. -/
theorem legible_parts
    (t : IntervalType) :
    ∀ field ∈ t.record.fields, field.Legible p := by
  have hinterval : IntervalParts.intervalField.Legible p :=
    Field.legible_of (spanOf?_spanDocument p.interval)
  have hinitial : IntervalParts.initialField.Legible p :=
    Field.legible_of (spanOf?_spanDocument p.initial)
  have hmultiplier : IntervalParts.multiplierField.Legible p :=
    Field.legible_of (real_ofReal64 hfinite.multiplier)
  have hmax : IntervalParts.maxField.Legible p :=
    Field.legible_of (spanOf?_spanDocument p.max)
  have hfactor : IntervalParts.factorField.Legible p :=
    Field.legible_of (real_ofReal64 hfinite.factor)
  cases t <;> simp [IntervalType.record, *]

/-- The parts of an interval function are written as sound documents of one object at most. -/
theorem sound_parts
    (t : IntervalType) :
    ∀ field ∈ t.record.fields, (field.write p).sound = true ∧ (field.write p).depth ≤ 1 := by
  have hspan (span : Span) : (spanDocument span).sound = true ∧ (spanDocument span).depth ≤ 1 :=
    ⟨sound_spanDocument span, (depth_spanDocument span).le⟩
  have hreal {x : Binary64} (hx : x.isFinite = true) :
      (ofReal x).sound = true ∧ (ofReal x).depth ≤ 1 :=
    ⟨sound_ofReal hx, (depth_ofReal x).le.trans (Nat.zero_le 1)⟩
  cases t with
  | fixed =>
    simp only [IntervalType.record, List.forall_mem_cons]
    exact ⟨hspan _, by simp⟩
  | exponential =>
    simp only [IntervalType.record, List.forall_mem_cons]
    exact ⟨hspan _, hreal hfinite.multiplier, hspan _, by simp⟩
  | randomized =>
    simp only [IntervalType.record, List.forall_mem_cons]
    exact ⟨hspan _, hreal hfinite.multiplier, hspan _, hreal hfinite.factor, by simp⟩

end Parts

/-- The parts that were written make up the interval function again. -/
theorem build_taking
    {i : Interval}
    (hfinite : (intervalParts i).Finite) :
    (intervalType i).build ((intervalType i).record.taking (fun _ => true) (intervalParts i))
      = i := by
  have hmultiplier := real_ofReal64 hfinite.multiplier
  have hfactor := real_ofReal64 hfinite.factor
  rw [Record.taking_all]
  cases i with
  | fixed interval =>
    simp only [intervalType, IntervalType.record, List.foldl_cons, List.foldl_nil]
    rw [IntervalParts.intervalField, Field.carry_of (spanOf?_spanDocument _)]
    rfl
  | exponential initial multiplier max =>
    simp only [intervalType, IntervalType.record, List.foldl_cons, List.foldl_nil]
    rw [IntervalParts.initialField, IntervalParts.multiplierField, IntervalParts.maxField,
      Field.carry_of (spanOf?_spanDocument _), Field.carry_of hmultiplier,
      Field.carry_of (spanOf?_spanDocument _)]
    rfl
  | randomized initial multiplier max factor =>
    simp only [intervalType, IntervalType.record, List.foldl_cons, List.foldl_nil]
    rw [IntervalParts.initialField, IntervalParts.multiplierField, IntervalParts.maxField,
      IntervalParts.factorField, Field.carry_of (spanOf?_spanDocument _),
      Field.carry_of hmultiplier, Field.carry_of (spanOf?_spanDocument _), Field.carry_of hfactor]
    rfl

/-- The document of an interval function is sound, and nested two deep at most. -/
theorem sound_intervalDocument
    {i : Interval}
    (hfinite : (intervalParts i).Finite) :
    (intervalDocument i).sound = true ∧ (intervalDocument i).depth ≤ 2 := by
  have hfields : ∀ field ∈ ("type", ofText (intervalType i).label)
      :: (intervalType i).record.carried (fun _ => true) (intervalParts i),
      field.2.sound = true ∧ field.2.depth ≤ 1 := by
    simp only [List.forall_mem_cons, Record.carried, List.forall_mem_map]
    refine ⟨⟨rfl, Nat.zero_le 1⟩, fun field hfield => ?_⟩
    exact sound_parts hfinite _ field (List.mem_of_mem_filter hfield)
  rw [intervalDocument_eq]
  constructor
  · exact sound_ofFields fun field hfield => (hfields field hfield).1
  · exact depth_ofFields_le fun field hfield => (hfields field hfield).2

/-- A sound object with one tag is read as the interval function of its parts. -/
theorem intervalOf?_object
    {level : Nat}
    {entries : List (Option String × Document)}
    (hsound : (Document.object entries).sound = true)
    (hdepth : level + (Document.object entries).depth ≤ maxDepth)
    {tag : Document}
    (htag : valuesAt "type" entries = [tag])
    {t : IntervalType}
    (htype : IntervalType.ofTag? tag = some t)
    {p : IntervalParts}
    (hparts : t.record.ofAllEntries? entries = some p) :
    intervalOf? level (.object entries) = some (t.build p) := by
  simp [intervalOf?, hsound, hdepth, htag, htype, hparts]

/-- An interval function with finite parts reads back wherever its document may stand. -/
theorem intervalOf?_intervalDocument
    {i : Interval}
    (hfinite : (intervalParts i).Finite)
    {level : Nat}
    (hlevel : level + 2 ≤ maxDepth) :
    intervalOf? level (intervalDocument i) = some i := by
  obtain ⟨hsound, hdepth⟩ := sound_intervalDocument hfinite
  obtain ⟨htag, hkeys⟩ := List.nodup_cons.mp (nodup_type_keys (intervalType i))
  have hshows : (intervalType i).record.Shows (fun _ => true) (intervalParts i)
      (("type", ofText (intervalType i).label)
        :: (intervalType i).record.carried (fun _ => true) (intervalParts i)) := by
    refine ⟨[("type", ofText (intervalType i).label)], by simpa using htag, ?_⟩
    exact (List.perm_append_singleton _ _).symm
  have hothers : valuesAt "type" (named ((intervalType i).record.carried (fun _ => true)
      (intervalParts i))) = [] :=
    valuesAt_eq_nil fun field hfield heq => htag (heq ▸ Record.mem_keys_of_mem_carried hfield)
  have htagged : valuesAt "type" (named (("type", ofText (intervalType i).label)
        :: (intervalType i).record.carried (fun _ => true) (intervalParts i)))
      = [ofText (intervalType i).label] := by
    rw [← List.singleton_append, named_append, valuesAt_append, hothers, List.append_nil]
    simp [valuesAt, named]
  rw [intervalDocument_eq, ofFields_eq] at hsound hdepth ⊢
  rw [intervalOf?_object hsound (by omega) htagged (ofTag?_label _)
    (Record.ofAllEntries?_of_shows hkeys (legible_parts hfinite _) hshows), build_taking hfinite]

end Json
end FaultTolerance
