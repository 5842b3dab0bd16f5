import FaultTolerance.Registry
import Mathlib.Tactic

/-!
# A registry is a map

The entries of a registry are kept in strictly ascending order of their names, so that a name stands
in it once; an insertion and a removal change what is found under their own name and under no other.

## Main definitions

* `Registry.Ascending`: the names are in strictly ascending order.

**Results.**
* `find?_insertIfAbsent`, `find?_remove`: what is found after each operation.
* `Ascending.insertIfAbsent`, `Ascending.remove`: the order is kept.
* `mem_names_iff`: the names are those under which something is found.
-/

namespace FaultTolerance
namespace Registry

variable {α : Type}

/-- The names are in strictly ascending order. -/
def Ascending (r : Registry α) : Prop :=
  r.names.Pairwise (· < ·)

/-! ### Sorted insertion -/

/-- The new name joins the others. -/
theorem mem_map_fst_insertSorted
    (name other : String)
    (i : α)
    (entries : List (String × α)) :
    other ∈ (insertSorted name i entries).map Prod.fst ↔
      other = name ∨ other ∈ entries.map Prod.fst := by
  induction entries with
  | nil => simp [insertSorted]
  | cons entry later ih =>
      obtain ⟨key, held⟩ := entry
      unfold insertSorted
      split
      · rw [List.map_cons, List.mem_cons]
      · rw [List.map_cons, List.mem_cons, ih, List.map_cons, List.mem_cons, or_left_comm]

/-- A name that was not there is put in its place. -/
theorem pairwise_insertSorted
    {name : String}
    {entries : List (String × α)}
    (i : α)
    (hsorted : (entries.map Prod.fst).Pairwise (· < ·))
    (hnew : name ∉ entries.map Prod.fst) :
    ((insertSorted name i entries).map Prod.fst).Pairwise (· < ·) := by
  induction entries with
  | nil => simp [insertSorted]
  | cons entry later ih =>
      obtain ⟨key, held⟩ := entry
      rw [List.map_cons, List.mem_cons, not_or] at hnew
      obtain ⟨hkey, hlater⟩ := hnew
      rw [List.map_cons, List.pairwise_cons] at hsorted
      obtain ⟨hfirst, hrest⟩ := hsorted
      unfold insertSorted
      split
      case isTrue hless =>
        rw [List.map_cons, List.map_cons, List.pairwise_cons, List.pairwise_cons]
        refine ⟨fun other hother => ?_, hfirst, hrest⟩
        rcases List.mem_cons.mp hother with rfl | hother
        · exact hless
        · exact String.lt_trans hless (hfirst other hother)
      case isFalse hless =>
        have hgreater : key < name :=
          String.not_le.mp fun hle => hkey (String.le_antisymm hle (String.not_lt.mp hless))
        rw [List.map_cons, List.pairwise_cons]
        refine ⟨fun other hother => ?_, ih hrest hlater⟩
        rcases (mem_map_fst_insertSorted name other i later).mp hother with rfl | hother
        · exact hgreater
        · exact hfirst other hother

/-- The first entry is found under its own name. -/
theorem lookup_cons_ite
    (key name : String)
    (held : α)
    (later : List (String × α)) :
    ((key, held) :: later).lookup name = if name = key then some held else later.lookup name := by
  by_cases hname : name = key
  · rw [if_pos hname, hname, List.lookup_cons_self]
  · rw [if_neg hname, List.lookup_cons, beq_false_of_ne hname]

/-- What is found after a name that was not there joins. -/
theorem lookup_insertSorted
    {name : String}
    {entries : List (String × α)}
    (i : α)
    (hnew : entries.lookup name = none)
    (other : String) :
    (insertSorted name i entries).lookup other =
      if other = name then some i else entries.lookup other := by
  induction entries with
  | nil => exact lookup_cons_ite name other i []
  | cons entry later ih =>
      obtain ⟨key, held⟩ := entry
      have hkey : name ≠ key := by
        rintro rfl
        rw [List.lookup_cons_self] at hnew
        cases hnew
      rw [lookup_cons_ite, if_neg hkey] at hnew
      unfold insertSorted
      split
      · exact lookup_cons_ite name other i _
      · rw [lookup_cons_ite, lookup_cons_ite, ih hnew]
        by_cases hother : other = key
        · rw [if_pos hother, if_pos hother, if_neg (hother.trans_ne hkey.symm)]
        · rw [if_neg hother, if_neg hother]

/-- What is found after a name was taken out. -/
theorem lookup_filter_ne
    (name other : String)
    (entries : List (String × α)) :
    (entries.filter fun entry => entry.1 != name).lookup other =
      if other = name then none else entries.lookup other := by
  induction entries with
  | nil => rw [List.filter_nil, List.lookup_nil, ite_self]
  | cons entry later ih =>
      obtain ⟨key, held⟩ := entry
      by_cases hkey : key = name
      · rw [List.filter_cons_of_neg (by simp [hkey]), ih, lookup_cons_ite, hkey]
        by_cases hother : other = name
        · rw [if_pos hother, if_pos hother]
        · rw [if_neg hother, if_neg hother, if_neg hother]
      · rw [List.filter_cons_of_pos (by simp [hkey]), lookup_cons_ite, lookup_cons_ite, ih]
        by_cases hother : other = key
        · rw [if_pos hother, if_pos hother, if_neg (hother.trans_ne hkey)]
        · rw [if_neg hother, if_neg hother]

/-! ### Operations -/

/-- The names are those under which something is found. -/
theorem mem_names_iff
    (r : Registry α)
    (name : String) :
    name ∈ r.names ↔ ∃ i, r.find? name = some i := by
  rw [← Option.isSome_iff_exists, find?, List.lookup_isSome_iff, names, List.mem_map]
  refine exists_congr fun entry => and_congr_right fun _ => ?_
  rw [beq_iff_eq, eq_comm]

theorem size_eq_length_names (r : Registry α) : r.size = r.names.length :=
  (List.length_map _).symm

section Insertion

variable {r : Registry α} {name : String}

/-- Nothing is created under a name that is there. -/
theorem insertIfAbsent_of_some
    {held : α}
    (h : r.find? name = some held)
    (create : Except ConfigError α) :
    r.insertIfAbsent name create = (⟨0, .ok held⟩, r) := by
  unfold insertIfAbsent
  rw [h]

/-- Under a name that is not there something is created once, and kept if that succeeds. -/
theorem insertIfAbsent_of_none
    (h : r.find? name = none)
    (create : Except ConfigError α) :
    r.insertIfAbsent name create =
      (⟨1, create⟩,
        match create with
        | .ok made => ⟨insertSorted name made r.entries⟩
        | .error _ => r) := by
  unfold insertIfAbsent
  rw [h]
  cases create <;> rfl

theorem getOrInsert_of_some
    {held : α}
    (h : r.find? name = some held)
    (create : Except ConfigError α) :
    r.getOrInsert name create = (⟨0, .ok held⟩, r) := by
  unfold getOrInsert
  rw [h]

theorem getOrInsert_of_none
    (h : r.find? name = none)
    (create : Except ConfigError α) :
    r.getOrInsert name create = r.insertIfAbsent name create := by
  unfold getOrInsert
  rw [h]

/-- A creation that fails leaves the registry as it was. -/
theorem insertIfAbsent_error
    (r : Registry α)
    (name : String)
    (e : ConfigError) :
    (r.insertIfAbsent name (.error e)).2 = r := by
  cases h : r.find? name with
  | some held => rw [insertIfAbsent_of_some h]
  | none => rw [insertIfAbsent_of_none h]

end Insertion

/-- What is found after an insertion: under its own name what it answers, if anything. -/
theorem find?_insertIfAbsent
    (r : Registry α)
    (name other : String)
    (create : Except ConfigError α) :
    (r.insertIfAbsent name create).2.find? other =
      if other = name then (r.insertIfAbsent name create).1.result.toOption else r.find? other := by
  cases h : r.find? name with
  | some held =>
      rw [insertIfAbsent_of_some h]
      by_cases hother : other = name
      · rw [if_pos hother, hother, h]
        rfl
      · rw [if_neg hother]
  | none =>
      rw [insertIfAbsent_of_none h]
      cases create with
      | ok made => exact lookup_insertSorted made h other
      | error e =>
          by_cases hother : other = name
          · rw [if_pos hother, hother]
            exact h
          · rw [if_neg hother]

theorem find?_remove
    (r : Registry α)
    (name other : String) :
    (r.remove name).2.find? other = if other = name then none else r.find? other :=
  lookup_filter_ne name other r.entries

theorem ascending_empty : (empty : Registry α).Ascending :=
  List.Pairwise.nil

section Order

variable {r : Registry α} (h : r.Ascending)
include h

theorem Ascending.insertIfAbsent
    (name : String)
    (create : Except ConfigError α) :
    (r.insertIfAbsent name create).2.Ascending := by
  cases hfound : r.find? name with
  | some held => rwa [insertIfAbsent_of_some hfound]
  | none =>
      rw [insertIfAbsent_of_none hfound]
      cases create with
      | error e => exact h
      | ok made =>
          have hnew : name ∉ r.names := by
            rw [mem_names_iff, hfound]
            rintro ⟨i, hi⟩
            cases hi
          exact pairwise_insertSorted made h hnew

theorem Ascending.remove (name : String) : (r.remove name).2.Ascending := by
  have hsub : ((r.remove name).2.names).Sublist r.names :=
    List.filter_sublist.map _
  exact h.sublist hsub

end Order

end Registry
end FaultTolerance
