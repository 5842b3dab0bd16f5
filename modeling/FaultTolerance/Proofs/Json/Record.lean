import FaultTolerance.Json.Record
import Mathlib.Data.List.Nodup
import Mathlib.Tactic

/-!
# Records read back

A record written as an object is read back field by field.  Some of its fields may be left out, the
others may stand in any order, and fields that the record does not know may stand among them: a
field that is there has the value that was written, a field that is not has its standard value.

**Results.**
* `Record.ofEntries?_of_shows`: reading some of the fields of a record.
* `Record.ofAllEntries?_of_shows`: reading a record whose fields must all be there.
* `Record.readsBack`: both ways of reading a record whose fields can be read back.
-/

namespace FaultTolerance
namespace Json

/-! ### Values of an object -/

/-- The values that an object gives to a key do not depend on the order of its entries, but for
their own order. -/
theorem valuesAt_perm
    {entries others : List (Option String × Document)}
    (hperm : entries.Perm others)
    (key : String) :
    (valuesAt key entries).Perm (valuesAt key others) :=
  (hperm.filter _).map _

@[simp]
theorem valuesAt_append
    (key : String)
    (entries others : List (Option String × Document)) :
    valuesAt key (entries ++ others) = valuesAt key entries ++ valuesAt key others := by
  simp [valuesAt]

/-- The entries of an object with these fields. -/
def named (fields : List (String × Document)) : List (Option String × Document) :=
  fields.map fun field => (some field.1, field.2)

theorem ofFields_eq (fields : List (String × Document)) :
    Document.ofFields fields = .object (named fields) :=
  rfl

@[simp]
theorem named_append (fields others : List (String × Document)) :
    named (fields ++ others) = named fields ++ named others :=
  List.map_append

theorem named_perm
    {fields others : List (String × Document)}
    (hperm : fields.Perm others) :
    (named fields).Perm (named others) :=
  hperm.map _

theorem keysSound_named (fields : List (String × Document)) : keysSound (named fields) = true := by
  simp [keysSound, named]

/-- Fields with other keys give no value. -/
theorem valuesAt_eq_nil
    {key : String}
    {fields : List (String × Document)}
    (hother : ∀ field ∈ fields, field.1 ≠ key) :
    valuesAt key (named fields) = [] := by
  simp only [valuesAt, named, List.map_eq_nil_iff, List.filter_eq_nil_iff, List.mem_map]
  rintro _ ⟨field, hmem, rfl⟩
  simpa using hother field hmem

/-! ### Fields -/

namespace Field

variable {α β : Type}

/-- Whether every record can take over this field from `c` through its document. -/
def Legible
    (field : Field α)
    (c : α) : Prop :=
  ∀ d, (field.read (field.write c) d).isSome = true

/-- The record `d` with this field taken over from `c` through its document. -/
def carry
    (field : Field α)
    (c d : α) : α :=
  (field.read (field.write c) d).getD d

theorem Legible.read_write
    {field : Field α}
    {c : α}
    (h : field.Legible c)
    (d : α) :
    field.read (field.write c) d = some (field.carry c d) := by
  obtain ⟨e, he⟩ := Option.isSome_iff_exists.mp (h d)
  rw [carry, he, Option.getD_some]

section Of

variable
  {key : String}
  {decode : Document → Option β}
  {encode : β → Document}
  {get : α → β}
  {put : β → α → α}
  {c : α}

/-- A field is legible when its value can be read back. -/
theorem legible_of (hback : decode (encode (get c)) = some (get c)) :
    (Field.of key decode encode get put).Legible c := by
  intro d
  simp [Field.of, hback]

/-- Such a field is taken over by putting its value in place. -/
theorem carry_of
    (hback : decode (encode (get c)) = some (get c))
    (d : α) :
    (Field.of key decode encode get put).carry c d = put (get c) d := by
  simp [Field.of, carry, hback]

/-- A field left out keeps the value it has, which is as good as putting that value in place. -/
theorem carry_of_ite
    (hback : decode (encode (get c)) = some (get c))
    (hkeep : ∀ d, put (get d) d = d)
    (carried : Bool)
    (d : α) :
    (if carried then (Field.of key decode encode get put).carry c d else d)
      = put (if carried then get c else get d) d := by
  cases carried
  · exact (hkeep d).symm
  · exact carry_of hback d

end Of

/-- Among fields under different keys, the key of a field finds that field alone. -/
theorem filter_key
    {fields : List (Field α)}
    (hkeys : (fields.map Field.key).Nodup)
    {field : Field α}
    (hfield : field ∈ fields) :
    fields.filter (fun other => other.key == field.key) = [field] := by
  induction fields with
  | nil => cases hfield
  | cons head tail ih =>
    obtain ⟨hhead, htail⟩ := List.nodup_cons.mp hkeys
    rcases List.mem_cons.mp hfield with rfl | hlater
    · have hnone : tail.filter (fun other => other.key == field.key) = [] := by
        rw [List.filter_eq_nil_iff]
        intro other hother heq
        exact hhead (List.mem_map.mpr ⟨other, hother, by simpa using heq⟩)
      simp [hnone]
    · have hne : head.key ≠ field.key := by
        intro heq
        exact hhead (List.mem_map.mpr ⟨field, hlater, heq.symm⟩)
      rw [List.filter_cons_of_neg (by simpa using hne)]
      exact ih htail hlater

end Field

/-! ### Records -/

namespace Record

variable {α : Type}

/-- The keys of a record. -/
def keys (r : Record α) : List String :=
  r.fields.map Field.key

/-- The chosen fields of a record, written in order. -/
def carried
    (r : Record α)
    (chosen : String → Bool)
    (c : α) : List (String × Document) :=
  (r.fields.filter fun field => chosen field.key).map fun field => (field.key, field.write c)

/-- Fields that show the chosen ones of a record, in any order, among others that the record does
not know. -/
def Shows
    (r : Record α)
    (chosen : String → Bool)
    (c : α)
    (shown : List (String × Document)) : Prop :=
  ∃ unknown : List (String × Document),
    (∀ field ∈ unknown, field.1 ∉ r.keys) ∧ shown.Perm (r.carried chosen c ++ unknown)

/-- The standard record with the chosen fields taken over from `c` through their documents. -/
def taking
    (r : Record α)
    (chosen : String → Bool)
    (c : α) : α :=
  r.fields.foldl (fun d field => if chosen field.key then field.carry c d else d) r.standard

variable {r : Record α} {chosen : String → Bool} {c : α}

/-- A record with all its fields shows them all. -/
theorem shows_carried : r.Shows chosen c (r.carried chosen c) :=
  ⟨[], by simp, by simp⟩

theorem mem_keys_of_mem_carried
    {field : String × Document}
    (h : field ∈ r.carried chosen c) :
    field.1 ∈ r.keys := by
  obtain ⟨own, hown, rfl⟩ := List.mem_map.mp h
  exact List.mem_map.mpr ⟨own, List.mem_of_mem_filter hown, rfl⟩

/-- The document of a record has all its fields. -/
theorem toDocument_eq : r.toDocument c = .ofFields (r.carried (fun _ => true) c) := by
  simp [toDocument, carried, ofFields_eq, named, Function.comp_def]

/-- The chosen fields give one value to their own key. -/
theorem valuesAt_carried
    (hkeys : r.keys.Nodup)
    {field : Field α}
    (hfield : field ∈ r.fields) :
    valuesAt field.key (named (r.carried chosen c))
      = if chosen field.key then [field.write c] else [] := by
  have hfound : valuesAt field.key (named (r.carried chosen c))
      = ((r.fields.filter fun other => other.key == field.key).filter fun other =>
          chosen other.key).map (Field.write · c) := by
    rw [List.filter_comm]
    simp only [valuesAt, named, carried, List.map_map, List.filter_map, Function.comp_def]
    rfl
  rw [hfound, Field.filter_key hkeys hfield]
  cases hchosen : chosen field.key <;> simp [hchosen]

/-- Neither the order of the fields nor those that the record does not know change what is found
under a key. -/
theorem Shows.valuesAt_eq
    {shown : List (String × Document)}
    (h : r.Shows chosen c shown)
    (hkeys : r.keys.Nodup)
    {field : Field α}
    (hfield : field ∈ r.fields) :
    valuesAt field.key (named shown) = if chosen field.key then [field.write c] else [] := by
  obtain ⟨unknown, hunknown, hperm⟩ := h
  have hnone : valuesAt field.key (named unknown) = [] := by
    refine valuesAt_eq_nil fun entry hentry heq => hunknown entry hentry ?_
    rw [heq]
    exact List.mem_map.mpr ⟨field, hfield, rfl⟩
  have hall : valuesAt field.key (named (r.carried chosen c ++ unknown))
      = if chosen field.key then [field.write c] else [] := by
    rw [named_append, valuesAt_append, hnone, List.append_nil, valuesAt_carried hkeys hfield]
  have hfound := valuesAt_perm (named_perm hperm) field.key
  rw [hall] at hfound
  -- At most one value is found, so that its order among them is no matter.
  cases hchosen : chosen field.key with
  | false => exact List.perm_nil.mp (by simpa [hchosen] using hfound)
  | true => exact List.perm_singleton.mp (by simpa [hchosen] using hfound)

/-- Reading fields one after another takes over those that are there. -/
theorem foldlM_readField
    {entries : List (Option String × Document)}
    (fields : List (Field α))
    (d : α)
    (hlegible : ∀ field ∈ fields, field.Legible c)
    (hvalues : ∀ field ∈ fields,
      valuesAt field.key entries = if chosen field.key then [field.write c] else []) :
    fields.foldlM (readField entries) d
      = some (fields.foldl (fun d field => if chosen field.key then field.carry c d else d) d) := by
  induction fields generalizing d with
  | nil => rfl
  | cons field fields ih =>
    rw [List.forall_mem_cons] at hlegible hvalues
    have hread : readField entries d field
        = some (if chosen field.key then field.carry c d else d) := by
      rw [readField, hvalues.1]
      cases chosen field.key
      · rfl
      · exact hlegible.1.read_write d
    rw [List.foldlM_cons, hread, List.foldl_cons]
    exact ih _ hlegible.2 hvalues.2

/-- With every field chosen, all are taken over. -/
theorem taking_all :
    r.taking (fun _ => true) c = r.fields.foldl (fun d field => field.carry c d) r.standard := by
  simp [taking]

/-- Fields that show some of a record are read as those fields, and standard values elsewhere. -/
theorem ofEntries?_of_shows
    (hkeys : r.keys.Nodup)
    (hlegible : ∀ field ∈ r.fields, field.Legible c)
    {shown : List (String × Document)}
    (h : r.Shows chosen c shown) :
    r.ofEntries? (named shown) = some (r.taking chosen c) := by
  rw [ofEntries?, if_pos (keysSound_named shown)]
  exact foldlM_readField r.fields r.standard hlegible fun _ hfield => h.valuesAt_eq hkeys hfield

/-- A demanded field that is there is read as any other. -/
theorem demandField_eq
    {entries : List (Option String × Document)}
    {field : Field α}
    (hthere : valuesAt field.key entries ≠ [])
    (d : α) :
    demandField entries d field = readField entries d field := by
  rw [demandField, readField]
  cases hfound : valuesAt field.key entries with
  | nil => exact absurd hfound hthere
  | cons value later => cases later <;> rfl

/-- Demanding fields that are all there reads them one after another. -/
theorem foldlM_demandField
    {entries : List (Option String × Document)}
    (fields : List (Field α))
    (d : α)
    (hthere : ∀ field ∈ fields, valuesAt field.key entries ≠ []) :
    fields.foldlM (demandField entries) d = fields.foldlM (readField entries) d := by
  induction fields generalizing d with
  | nil => rfl
  | cons field fields ih =>
    rw [List.forall_mem_cons] at hthere
    rw [List.foldlM_cons, List.foldlM_cons, demandField_eq hthere.1]
    exact bind_congr fun e => ih e hthere.2

/-- Fields that show all of a record are read as that record. -/
theorem ofAllEntries?_of_shows
    (hkeys : r.keys.Nodup)
    (hlegible : ∀ field ∈ r.fields, field.Legible c)
    {shown : List (String × Document)}
    (h : r.Shows (fun _ => true) c shown) :
    r.ofAllEntries? (named shown) = some (r.taking (fun _ => true) c) := by
  have hthere : ∀ field ∈ r.fields, valuesAt field.key (named shown) ≠ [] := by
    intro field hfield
    rw [h.valuesAt_eq hkeys hfield]
    simp
  rw [← ofEntries?_of_shows hkeys hlegible h, ofAllEntries?, ofEntries?,
    foldlM_demandField r.fields r.standard hthere]

/-- A record that reads back.  Any choice of its fields, in any order and among any fields that the
record does not know, is read as what `only` makes of the choice, and its whole document as the
record itself. -/
structure ReadsBack
    (r : Record α)
    (only : (String → Bool) → α)
    (c : α) : Prop where
  chosen : ∀ (chosen : String → Bool) (shown : List (String × Document)),
    r.Shows chosen c shown → r.ofDocument? (.ofFields shown) = some (only chosen)
  whole : r.ofDocument? (r.toDocument c) = some c

/-- A record with legible fields under different keys reads back. -/
theorem readsBack
    {only : (String → Bool) → α}
    (hkeys : r.keys.Nodup)
    (hlegible : ∀ field ∈ r.fields, field.Legible c)
    (htaking : ∀ chosen, r.taking chosen c = only chosen)
    (hall : only (fun _ => true) = c) :
    r.ReadsBack only c where
  chosen := by
    intro chosen shown hshows
    rw [← htaking chosen]
    exact ofEntries?_of_shows hkeys hlegible hshows
  whole := by
    rw [toDocument_eq]
    refine (ofEntries?_of_shows hkeys hlegible shows_carried).trans ?_
    rw [htaking, hall]

end Record

end Json
end FaultTolerance
