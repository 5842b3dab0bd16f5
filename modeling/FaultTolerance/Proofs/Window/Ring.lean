import Mathlib.Tactic

/-!
# Rings seen from their head

A ring of slots is an array with a head that moves on and wraps around.  Seen from the head, the
slot of age `k` is the one that the head left `k` steps ago; the age of a full turn is the head
again.  Both kinds of windows keep their calls in such a ring, and what they do to it is two things:
write at the head, and move the head one slot on, which makes every slot one step older.

**Results.**
* `look_setIfInBounds`: a write at the head is seen at age zero only.
* `look_next`: moving the head on adds one to every age.
-/

namespace FaultTolerance
namespace Window
namespace Ring

/-- The index of the slot that the head left `age` steps ago. -/
def back (size head age : Nat) : Nat :=
  if age ≤ head then head - age else head + size - age

variable {size head age : Nat}

theorem back_zero : back size head 0 = head := by
  simp [back]

/-- A full turn leads back to the head. -/
theorem back_size (hhead : head < size) : back size head size = head := by
  unfold back
  split_ifs <;> omega

theorem back_lt
    (hhead : head < size)
    (hage : age ≤ size) :
    back size head age < size := by
  unfold back
  split_ifs <;> omega

/-- Within one turn only age zero is the head. -/
theorem back_ne_head
    (hpos : 0 < age)
    (hage : age < size) :
    back size head age ≠ head := by
  unfold back
  split_ifs <;> omega

/-- The next head, without the wrapping remainder. -/
theorem next_eq (hhead : head < size) :
    (head + 1) % size = if head + 1 = size then 0 else head + 1 := by
  split_ifs with hwrap
  · rw [hwrap, Nat.mod_self]
  · exact Nat.mod_eq_of_lt (by omega)

theorem next_lt (hhead : head < size) : (head + 1) % size < size :=
  Nat.mod_lt _ (by omega)

/-- Moving the head on makes every slot one step older. -/
theorem back_next
    (hhead : head < size)
    (hage : age < size) :
    back size ((head + 1) % size) (age + 1) = back size head age := by
  rw [next_eq hhead]
  unfold back
  split_ifs <;> omega

variable {α : Type} {slots : Array α}

/-- What the slot of an age holds. -/
def look
    (slots : Array α)
    (head age : Nat) : Option α :=
  slots[back slots.size head age]?

theorem look_zero : look slots head 0 = slots[head]? := by
  unfold look
  rw [back_zero]

/-- The oldest slot of a full turn is the one at the head. -/
theorem look_size (hhead : head < slots.size) : look slots head slots.size = slots[head]? := by
  unfold look
  rw [back_size hhead]

/-- A write at the head is seen at age zero only. -/
theorem look_setIfInBounds
    (hhead : head < slots.size)
    (hage : age < slots.size)
    (a : α) :
    look (slots.setIfInBounds head a) head age =
      if age = 0 then some a else look slots head age := by
  unfold look
  rw [Array.size_setIfInBounds, Array.getElem?_setIfInBounds]
  split_ifs with hsame hzero hzero
  · rfl
  · exact absurd hsame.symm (back_ne_head (by omega) hage)
  · exact absurd (by rw [hzero, back_zero]) hsame
  · rfl

/-- Moving the head on makes every slot one step older. -/
theorem look_next
    (hhead : head < slots.size)
    (hage : age < slots.size) :
    look slots ((head + 1) % slots.size) (age + 1) = look slots head age := by
  unfold look
  rw [back_next hhead hage]

/-- A fresh ring holds the same everywhere. -/
theorem look_replicate
    {n : Nat}
    (hhead : head < n)
    (hage : age ≤ n)
    (a : α) :
    look (Array.replicate n a) head age = some a := by
  unfold look
  rw [Array.getElem?_replicate, Array.size_replicate, if_pos (back_lt hhead hage)]

end Ring
end Window
end FaultTolerance
