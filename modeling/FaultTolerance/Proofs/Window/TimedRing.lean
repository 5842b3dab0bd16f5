import FaultTolerance.Proofs.Window.Calls
import FaultTolerance.Proofs.Window.Ring
import FaultTolerance.Window.Timed

/-!
# The buckets of a timed window

Seen from its head, the bucket of age `k` of a timed window stands for the second `k` seconds before
the head's.  The running tally is the sum of the buckets.  Moving the head on by some steps makes
every bucket so many steps older and leaves empty ones behind, whether or not the move goes all the
way around.

**Results.**
* `Timed.Balanced`: the running tally is the sum of the buckets; kept by every operation.
* `Timed.tallyAt_retire`, `Timed.tallyAt_moveTo`: the buckets after the head moved on.
-/

namespace FaultTolerance
namespace Window
namespace Timed

open Time

/-- The calls of the bucket of an age. -/
def tallyAt
    (w : Timed)
    (age : Nat) : Tally :=
  ((Ring.look w.ring w.head age).map Bucket.tally).getD 0

/-- The running tally is the sum of the buckets. -/
structure Balanced (w : Timed) : Prop where
  head_lt : w.head < w.ring.size
  totals : w.totals = ∑ age ∈ Finset.range w.ring.size, w.tallyAt age

/-! ### One step of the head -/

section RetireNext

variable {w : Timed} (second : Nat)

@[simp]
theorem size_retireNext : (w.retireNext second).ring.size = w.ring.size :=
  Array.size_setIfInBounds

@[simp]
theorem minimum_retireNext : (w.retireNext second).minimum = w.minimum :=
  rfl

variable (hhead : w.head < w.ring.size)
include hhead

theorem head_retireNext_lt : (w.retireNext second).head < w.ring.size :=
  Ring.next_lt hhead

/-- After a step of the head, the buckets are one step older, behind an empty one. -/
theorem look_retireNext
    {age : Nat}
    (hage : age < w.ring.size) :
    Ring.look (w.retireNext second).ring (w.retireNext second).head age =
      if age = 0 then some (Bucket.empty second)
      else Ring.look w.ring w.head (age - 1) := by
  have hset := Ring.look_setIfInBounds (Ring.next_lt hhead) hage (Bucket.empty second)
  refine hset.trans ?_
  cases age with
  | zero => rfl
  | succ age =>
      rw [if_neg (by omega), if_neg (by omega)]
      exact Ring.look_next hhead (by omega)

theorem headBucket_retireNext : (w.retireNext second).headBucket = Bucket.empty second := by
  have hzero := look_retireNext second hhead (Nat.lt_of_le_of_lt (Nat.zero_le _) hhead)
  rw [Ring.look_zero, if_pos rfl] at hzero
  unfold headBucket
  rw [Array.getD_eq_getD_getElem?, hzero]
  rfl

theorem tallyAt_retireNext
    {age : Nat}
    (hage : age < w.ring.size) :
    (w.retireNext second).tallyAt age = if age = 0 then 0 else w.tallyAt (age - 1) := by
  unfold tallyAt
  rw [look_retireNext second hhead hage]
  split_ifs <;> rfl

/-- The bucket that leaves is the oldest one. -/
theorem leaving_eq :
    (w.ring.getD ((w.head + 1) % w.ring.size) (Bucket.empty 0)).tally =
      w.tallyAt (w.ring.size - 1) := by
  have holdest : Ring.look w.ring w.head (w.ring.size - 1) =
      w.ring[(w.head + 1) % w.ring.size]? := by
    rw [← Ring.look_next hhead (by omega), Nat.sub_add_cancel (by omega),
      Ring.look_size (Ring.next_lt hhead)]
  unfold tallyAt
  rw [holdest, Array.getD_eq_getD_getElem?]
  cases w.ring[(w.head + 1) % w.ring.size]? <;> rfl

end RetireNext

/-- A step of the head keeps the running tally the sum of the buckets: the oldest one leaves both. -/
theorem Balanced.retireNext
    {w : Timed}
    (h : w.Balanced)
    (second : Nat) :
    (w.retireNext second).Balanced := by
  obtain ⟨n, hn⟩ : ∃ n, w.ring.size = n + 1 :=
    ⟨w.ring.size - 1, by have := h.head_lt; omega⟩
  refine ⟨?_, ?_⟩
  · rw [size_retireNext]
    exact head_retireNext_lt second h.head_lt
  · have hsum :
        ∑ age ∈ Finset.range (n + 1), (w.retireNext second).tallyAt age =
          ∑ age ∈ Finset.range n, w.tallyAt age := by
      rw [Finset.sum_range_succ', tallyAt_retireNext second h.head_lt (by omega), if_pos rfl,
        add_zero]
      refine Finset.sum_congr rfl fun age hage => ?_
      have hlt := Finset.mem_range.mp hage
      rw [tallyAt_retireNext second h.head_lt (by omega), if_neg (by omega),
        Nat.add_sub_cancel]
    have htotals := h.totals
    rw [hn, Finset.sum_range_succ] at htotals
    rw [size_retireNext, hn, hsum]
    show w.totals.remove (w.ring.getD ((w.head + 1) % w.ring.size) (Bucket.empty 0)).tally = _
    rw [leaving_eq h.head_lt, htotals, hn, Nat.add_sub_cancel, Tally.add_remove]

/-! ### The head moving on -/

section Retire

variable (second : Nat)

@[simp]
theorem size_retire
    (steps : Nat)
    (w : Timed) :
    (retire second steps w).ring.size = w.ring.size := by
  induction steps generalizing w with
  | zero => rfl
  | succ steps ih =>
      unfold retire
      rw [ih, size_retireNext]

@[simp]
theorem minimum_retire
    (steps : Nat)
    (w : Timed) :
    (retire second steps w).minimum = w.minimum := by
  induction steps generalizing w with
  | zero => rfl
  | succ steps ih =>
      unfold retire
      rw [ih, minimum_retireNext]

theorem Balanced.retire
    {w : Timed}
    (h : w.Balanced)
    (steps : Nat) :
    (retire second steps w).Balanced := by
  induction steps generalizing w with
  | zero => exact h
  | succ steps ih => exact ih (h.retireNext _)

/-- After `steps` steps the buckets are so many steps older, behind as many empty ones. -/
theorem tallyAt_retire
    {w : Timed}
    (hhead : w.head < w.ring.size)
    (steps : Nat)
    {age : Nat}
    (hage : age < w.ring.size) :
    (retire second steps w).tallyAt age =
      if age < steps then 0 else w.tallyAt (age - steps) := by
  induction steps generalizing w with
  | zero => rfl
  | succ steps ih =>
      unfold retire
      rw [ih (by rw [size_retireNext]; exact head_retireNext_lt _ hhead)
        (by rw [size_retireNext]; exact hage)]
      by_cases hnew : age < steps
      · rw [if_pos hnew, if_pos (by omega)]
      · rw [if_neg hnew, tallyAt_retireNext _ hhead (by omega)]
        by_cases hlast : age = steps
        · rw [if_pos (by omega), if_pos (by omega)]
        · rw [if_neg (by omega), if_neg (by omega), Nat.sub_sub]

/-- The last of at least one step leads to the second aimed at. -/
theorem second_retire
    {w : Timed}
    (hhead : w.head < w.ring.size)
    (steps : Nat) :
    (retire second (steps + 1) w).headBucket.second = second := by
  induction steps generalizing w with
  | zero =>
      unfold retire
      rw [retire_zero, headBucket_retireNext _ hhead]
      rfl
  | succ steps ih =>
      unfold retire
      exact ih (by rw [size_retireNext]; exact head_retireNext_lt _ hhead)

end Retire

/-! ### The operations of a window -/

section MoveTo

variable {w : Timed} (second : Nat)

@[simp]
theorem size_moveTo : (w.moveTo second).ring.size = w.ring.size := by
  unfold moveTo
  simp only
  split_ifs
  · rfl
  · exact size_retire _ _ _

@[simp]
theorem minimum_moveTo : (w.moveTo second).minimum = w.minimum := by
  unfold moveTo
  simp only
  split_ifs
  · rfl
  · exact minimum_retire _ _ _

theorem Balanced.moveTo (h : w.Balanced) : (w.moveTo second).Balanced := by
  unfold Timed.moveTo
  simp only
  split_ifs
  · exact h
  · exact h.retire _ _

variable (hhead : w.head < w.ring.size)
include hhead

/-- The head stands for the latest second that the window was brought to. -/
theorem second_moveTo :
    (w.moveTo second).headBucket.second = max w.headBucket.second second := by
  unfold moveTo
  simp only
  split_ifs with hback
  · omega
  · obtain ⟨steps, hsteps⟩ :
        ∃ steps, min (second - w.headBucket.second) w.ring.size = steps + 1 :=
      ⟨min (second - w.headBucket.second) w.ring.size - 1, by omega⟩
    rw [hsteps, second_retire second hhead]
    omega

/-- The buckets grow as old as the head's second has moved on; those beyond the ring are gone. -/
theorem tallyAt_moveTo
    {age : Nat}
    (hage : age < w.ring.size) :
    (w.moveTo second).tallyAt age =
      if age < max w.headBucket.second second - w.headBucket.second then 0
      else w.tallyAt (age - (max w.headBucket.second second - w.headBucket.second)) := by
  unfold moveTo
  simp only
  split_ifs with hback hnew hnew
  · omega
  · rw [show max w.headBucket.second second - w.headBucket.second = 0 by omega, Nat.sub_zero]
  · rw [tallyAt_retire second hhead _ hage, if_pos (by omega)]
  · rw [tallyAt_retire second hhead _ hage, if_neg (by omega)]
    congr 1
    omega

end MoveTo

section RecordHere

variable {w : Timed} (duration : Span) (outcome : Outcome)

@[simp]
theorem size_recordHere : (w.recordHere duration outcome).ring.size = w.ring.size :=
  Array.size_setIfInBounds

@[simp]
theorem minimum_recordHere : (w.recordHere duration outcome).minimum = w.minimum :=
  rfl

variable (hhead : w.head < w.ring.size)
include hhead

theorem look_head : Ring.look w.ring w.head 0 = some w.headBucket := by
  rw [Ring.look_zero]
  unfold headBucket
  rw [Array.getD_eq_getD_getElem?, Array.getElem?_eq_getElem hhead]
  rfl

/-- A recorded call joins the bucket at the head. -/
theorem look_recordHere
    {age : Nat}
    (hage : age < w.ring.size) :
    Ring.look (w.recordHere duration outcome).ring (w.recordHere duration outcome).head age =
      if age = 0 then some ⟨w.headBucket.second, w.headBucket.tally.add duration outcome⟩
      else Ring.look w.ring w.head age :=
  Ring.look_setIfInBounds hhead hage _

theorem second_recordHere :
    (w.recordHere duration outcome).headBucket.second = w.headBucket.second := by
  have hhead' : (w.recordHere duration outcome).head < (w.recordHere duration outcome).ring.size := by
    rw [size_recordHere]
    exact hhead
  have hlook := look_head hhead'
  rw [look_recordHere duration outcome hhead (Nat.lt_of_le_of_lt (Nat.zero_le _) hhead),
    if_pos rfl] at hlook
  rw [← Option.some.inj hlook]

theorem tallyAt_recordHere
    {age : Nat}
    (hage : age < w.ring.size) :
    (w.recordHere duration outcome).tallyAt age =
      if age = 0 then (w.tallyAt 0).add duration outcome else w.tallyAt age := by
  unfold tallyAt
  rw [look_recordHere duration outcome hhead hage, look_head hhead]
  split_ifs <;> rfl

end RecordHere

theorem Balanced.recordHere
    {w : Timed}
    (h : w.Balanced)
    (duration : Span)
    (outcome : Outcome) :
    (w.recordHere duration outcome).Balanced := by
  obtain ⟨n, hn⟩ : ∃ n, w.ring.size = n + 1 :=
    ⟨w.ring.size - 1, by have := h.head_lt; omega⟩
  refine ⟨?_, ?_⟩
  · rw [size_recordHere]
    exact h.head_lt
  · have hold :
        ∑ age ∈ Finset.range n, (w.recordHere duration outcome).tallyAt (age + 1) =
          ∑ age ∈ Finset.range n, w.tallyAt (age + 1) := by
      refine Finset.sum_congr rfl fun age hage => ?_
      have hlt := Finset.mem_range.mp hage
      rw [tallyAt_recordHere duration outcome h.head_lt (by omega), if_neg (by omega)]
    have htotals := h.totals
    rw [hn, Finset.sum_range_succ'] at htotals
    rw [size_recordHere, hn, Finset.sum_range_succ', hold,
      tallyAt_recordHere duration outcome h.head_lt (by omega), if_pos rfl]
    show w.totals.add duration outcome = _
    rw [htotals, Tally.add_eq_single_add, Tally.add_eq_single_add]
    exact add_left_comm _ _ _

/-- A ring of empty buckets. -/
theorem balanced_replicate
    {size second minimum : Nat}
    (hsize : 0 < size) :
    Balanced ⟨Array.replicate size (Bucket.empty second), 0, Tally.empty, minimum⟩ ∧
      ∀ age < size,
        tallyAt ⟨Array.replicate size (Bucket.empty second), 0, Tally.empty, minimum⟩ age = 0 := by
  have hempty :
      ∀ age < size,
        tallyAt ⟨Array.replicate size (Bucket.empty second), 0, Tally.empty, minimum⟩ age = 0 := by
    intro age hage
    unfold tallyAt
    rw [Ring.look_replicate hsize (Nat.le_of_lt hage)]
    rfl
  refine ⟨⟨by simpa using hsize, ?_⟩, hempty⟩
  rw [Array.size_replicate]
  symm
  refine Finset.sum_eq_zero fun age hage => ?_
  exact hempty age (Finset.mem_range.mp hage)

end Timed
end Window
end FaultTolerance
