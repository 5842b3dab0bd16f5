import FaultTolerance.Proofs.Limiter.Lag

/-!
# Hand-backs under a lowered limit

A permit that is handed back is added to the count that is found, and the sum is cut off at the limit
in force.  A refill never leaves more than the limit, but a limit that is lowered in the middle of a
cycle leaves the count of that cycle alone.  Until the next refill there may then be more permits than
the limit, and a permit that is handed back meanwhile takes those above the limit with it.

## Main definitions

* `Ledger.refills`: whether a move counts permits anew.
* `Ledger.peakAfter`: the greatest limit in force since the cell was last refilled.

**Results.**
* `Dated.limit_lt_available_iff`: when there are more permits than the limit.
* `Ledger.peaked_step`, `Ledger.peaked_play`: the count is bounded by the greatest limit since the
  last refill.
* `handed_back_leaves`: what a permit that is handed back leaves.
-/

namespace FaultTolerance
namespace Limiter

open Time

/-- A visitor either finds the cell as it is, or brings it to another cycle and finds no more permits
than the limit. -/
theorem freshCell_cases
    (l : Limiter)
    (now : Nat) :
    l.freshCell now = l.cell ∨
      ((l.freshCell now).cycle ≠ l.cell.cycle ∧ (l.freshCell now).permits ≤ l.timing.limit) := by
  unfold freshCell Cell.refresh
  simp only
  split_ifs with hnone
  · exact Or.inl rfl
  · refine Or.inr ⟨fun hsame => hnone ?_, min_le_right _ _⟩
    rw [← hsame]
    exact UInt32.sub_self _

/-- There are more permits than the limit exactly when no refill is pending and the cell holds more. -/
theorem Dated.limit_lt_available_iff
    {l : Limiter}
    {cycle : Nat}
    (h : l.Dated cycle)
    (now : Nat) :
    (l.timing.limit : Int) < (l.metrics now).available ↔
      ((l.timing.cycleAt now : Int) - cycle) % 2 ^ 32 = 0 ∧
        (l.timing.limit : Int) < l.cell.permits := by
  have hgap : 0 ≤ ((l.timing.cycleAt now : Int) - cycle) % 2 ^ 32 :=
    Int.emod_nonneg _ (by decide)
  rw [h.available_eq]
  unfold Timing.refill
  split_ifs with hnone
  · exact ⟨fun hmore => ⟨by omega, hmore⟩, And.right⟩
  · constructor
    · intro hmore
      exact absurd hmore (not_lt.mpr (min_le_right _ _))
    · rintro ⟨hcurrent, -⟩
      exact absurd (by rw [hcurrent]; rfl) hnone

/-- Who hands back a permit has the numbers show one more than it finds, up to the limit. -/
theorem Dated.available_restore
    {l : Limiter}
    {cycle : Nat}
    (h : l.Dated cycle)
    (now : Nat) :
    ((l.restore now).metrics now).available =
      min ((l.metrics now).available + 1) l.timing.limit := by
  have hcurrent :
      ((l.restore now).timing.cycleAt now : Int) - l.timing.cycleAt now = 0 :=
    sub_self _
  rw [(h.restored now).available_eq, hcurrent, restore_permits now h.limit_le]
  rfl

namespace Ledger

/-- Whether a move brings the cell to another cycle, and so counts its permits anew. -/
def refills
    (s : Ledger)
    (m : Nat × Move) : Bool :=
  s.brings m.2 && (s.limiter.freshCell m.1).cycle != s.limiter.cell.cycle

/-- The greatest limit in force since the cell was last refilled, when it was `peak` before a move. -/
def peakOf
    (s : Ledger)
    (peak : Nat)
    (m : Nat × Move) : Nat :=
  let limit := (s.step m).limiter.timing.limit
  if s.refills m then limit else max peak limit

/-- The greatest limit in force since the cell was last refilled, when it was `peak` before a run. -/
def peakAfter
    (s : Ledger)
    (peak : Nat) : List (Nat × Move) → Nat
  | [] => peak
  | m :: moves => (s.step m).peakAfter (s.peakOf peak m) moves

/-- Neither the limit nor the count of permits is above `peak`. -/
structure Peaked
    (l : Limiter)
    (peak : Nat) : Prop where
  limit_le : l.timing.limit ≤ peak
  permits_le : l.cell.permits ≤ peak

/-- A new limiter holds as many permits as its limit. -/
theorem Peaked.of_create
    {name : String}
    {config : Config}
    {start : Nat}
    {l : Limiter}
    (hcreate : create name config start = .ok l) :
    Peaked l l.timing.limit := by
  obtain ⟨-, htiming, hcell⟩ := create_eq_ok hcreate
  refine ⟨le_rfl, ?_⟩
  rw [htiming, hcell]

/-- What a visitor of the cell leaves is within the new peak, if it is no more than what the visitor
found or than the limit. -/
theorem Peaked.visited
    {s : Ledger}
    {peak : Nat}
    (h : Peaked s.limiter peak)
    {now : Nat}
    {move : Move}
    {c : Cell}
    (hbrings : s.brings move = true)
    (hcell :
      c.permits ≤ (s.limiter.freshCell now).permits ∨ c.permits ≤ s.limiter.timing.limit) :
    Peaked (s.limiter.setCell c)
      (if s.refills (now, move) then s.limiter.timing.limit
        else max peak s.limiter.timing.limit) := by
  obtain ⟨-, hpermits⟩ := h
  rcases freshCell_cases s.limiter now with hsame | ⟨hcycle, hfresh⟩
  · rw [hsame] at hcell
    have hnone : s.refills (now, move) = false := by
      simp [refills, hsame]
    rw [hnone]
    constructor
    · exact le_max_right _ _
    · rw [setCell_cell]
      simp only [Bool.false_eq_true, if_false]
      omega
  · have hanew : s.refills (now, move) = true := by
      simp [refills, hbrings, hcycle]
    rw [hanew]
    constructor
    · exact le_rfl
    · rw [setCell_cell]
      simp only [if_true]
      omega

/-- New settings leave the count alone. -/
theorem Peaked.changed
    {s : Ledger}
    {peak : Nat}
    (h : Peaked s.limiter peak)
    {now : Nat}
    {move : Move}
    (hbrings : s.brings move = false)
    {after : Limiter}
    (hcell : after.cell = s.limiter.cell) :
    Peaked after
      (if s.refills (now, move) then after.timing.limit else max peak after.timing.limit) := by
  obtain ⟨-, hpermits⟩ := h
  have hnone : s.refills (now, move) = false := by
    simp [refills, hbrings]
  rw [hnone]
  constructor
  · exact le_max_right _ _
  · rw [hcell]
    simp only [Bool.false_eq_true, if_false]
    omega

/-- One move keeps the count within the greatest limit since the last refill. -/
theorem peaked_step
    {s : Ledger}
    {peak : Nat}
    (h : Peaked s.limiter peak)
    (now : Nat)
    (move : Move) :
    Peaked (s.step (now, move)).limiter (s.peakOf peak (now, move)) := by
  have hmoves := movesTo_step s now move
  unfold peakOf
  generalize (s.step (now, move)).limiter = after at hmoves ⊢
  cases hmoves with
  | taken timeout =>
      refine h.visited rfl ?_
      simp only [Cell.take, minPermits]
      omega
  | refused timeout => exact h.visited rfl (Or.inl le_rfl)
  | returned hbrings =>
      exact h.visited hbrings (Or.inr (min_le_right _ _))
  | limited _ => exact h.changed rfl rfl
  | delayed timeout => exact h.changed rfl rfl
  | recycled _ => exact h.changed rfl rfl
  | unchanged hbrings _ => exact h.changed hbrings rfl

/-- Throughout a run, with any new settings and any clock readings, the count is within the greatest
limit since the last refill. -/
theorem peaked_play
    {s : Ledger}
    {peak : Nat}
    (h : Peaked s.limiter peak)
    (moves : List (Nat × Move)) :
    Peaked (s.play moves).limiter (s.peakAfter peak moves) := by
  induction moves generalizing s peak with
  | nil => exact h
  | cons m moves ih => exact ih (peaked_step h m.1 m.2)

end Ledger

/-- **Hand-backs.**  In every run with any new settings and any clock readings, let a permit that was
granted and not handed back, whether or not its caller still waits, be handed back at any reading now.
It leaves one permit more than the numbers of the limiter show at that reading, up to the limit in
force: exactly one more when they show less than the limit, as many when they show the limit, and only
the limit when they show more.  The last is the case exactly when no cycle has begun, modulo `2 ^ 32`,
between the present one and the one in which a permit was last asked for or handed back, and the cell
holds more than the limit; and then a greater limit was in force since the cell was last refilled. -/
theorem handed_back_leaves
    {name : String}
    {config : Config}
    {start : Nat}
    {l : Limiter}
    (hcreate : create name config start = .ok l)
    (moves : List (Nat × Move))
    {s : Ledger}
    (hplay : (Ledger.opened l).play moves = s)
    {ticket : Nat}
    {g : Grant}
    (hgranted : s.grants[ticket]? = some g)
    (hheld : g.returned = false)
    (r : Reading) :
    let limit : Int := s.limiter.timing.limit
    let present : Int := s.limiter.timing.cycleAt r.now
    let cycle := (Ledger.opened l).cycleAfter 0 moves
    let found := (s.limiter.metrics r.now).available
    let after := (handBack.run r s.limiter).2.1
    let left := (after.metrics r.now).available
    after = (s.step (r.now, .handBack ticket)).limiter ∧
      left = min (found + 1) limit ∧
      (left = found + 1 ↔ found < limit) ∧
      (left = found ↔ found = limit) ∧
      (left < found ↔ limit < found) ∧
      (limit < found ↔ (present - cycle) % 2 ^ 32 = 0 ∧ limit < s.limiter.cell.permits) ∧
      (limit < found → limit < (Ledger.opened l).peakAfter l.timing.limit moves) := by
  intro limit present cycle found after left
  have hdated : s.limiter.Dated cycle :=
    Ledger.dated_opened hcreate moves (congrArg Ledger.limiter hplay)
  have hmore : limit < found ↔ (present - cycle) % 2 ^ 32 = 0 ∧ limit < s.limiter.cell.permits :=
    hdated.limit_lt_available_iff r.now
  have hleft : left = min (found + 1) limit := hdated.available_restore r.now
  have hpeaked : Ledger.Peaked s.limiter ((Ledger.opened l).peakAfter l.timing.limit moves) := by
    rw [← hplay]
    exact Ledger.peaked_play (Ledger.Peaked.of_create hcreate) moves
  refine ⟨?_, hleft, by omega, by omega, by omega, hmore, ?_⟩
  · rw [Ledger.step, Ledger.handBack_of_outstanding s r.now hgranted hheld]
    rfl
  · intro habove
    exact lt_of_lt_of_le (hmore.mp habove).2 hpeaked.permits_le

/-- Three permits a millisecond, all taken, and five more promised, of which three are handed back at
once.  When the next millisecond begins one of the other two is handed back, and the limit is lowered
to one: two permits are at hand.  The last caller, which has another millisecond to wait, hands its
permit back, and one is left. -/
theorem handed_back_leaves_fewer :
    let l : Limiter := ⟨"line", ⟨3, 1000000, Span.zero, 0, 0⟩, ⟨0, 3⟩, 0⟩
    let moves : List (Nat × Move) :=
      [(0, .acquire .zero), (0, .acquire .zero), (0, .acquire .zero), (0, .acquire .max),
        (0, .acquire .max), (0, .acquire .max), (0, .acquire .max), (0, .acquire .max),
        (0, .handBack 3), (0, .handBack 4), (0, .handBack 5), (1000000, .handBack 7),
        (1000000, .changeLimit 1)]
    let s := (Ledger.opened l).play moves
    let after := (handBack.run ⟨1000000, .zero false⟩ s.limiter).2.1
    create "line" ⟨3, Span.ofMillis 1, Span.zero⟩ 0 = .ok l ∧
      (∃ g : Grant, s.grants[6]? = some g ∧ g.returned = false ∧ 1000000 < g.usable) ∧
      (s.limiter.metrics 1000000).available = 2 ∧ s.limiter.timing.limit = 1 ∧
      (after.metrics 1000000).available = 1 ∧
      (after.metrics 1000000).available < (s.limiter.metrics 1000000).available := by
  intro l moves s after
  have hcreate : create "line" ⟨3, Span.ofMillis 1, Span.zero⟩ 0 = .ok l := rfl
  have hlast : s.grants[6]?.map (fun g => (g.returned, g.usable)) = some (false, 2000000) := by
    decide +kernel
  obtain ⟨g, hgranted, hg⟩ := Option.map_eq_some_iff.mp hlast
  obtain ⟨hheld, husable⟩ := Prod.mk.inj hg
  have hfound : (s.limiter.metrics 1000000).available = 2 := by
    decide +kernel
  have hlimit : s.limiter.timing.limit = 1 := rfl
  obtain ⟨-, hleft, -, -, hfewer, -, -⟩ :=
    handed_back_leaves hcreate moves rfl hgranted hheld ⟨1000000, .zero false⟩
  have habove : (s.limiter.timing.limit : Int) < (s.limiter.metrics 1000000).available := by
    rw [hfound, hlimit]
    decide
  rw [hfound, hlimit] at hleft
  exact ⟨hcreate, ⟨g, hgranted, hheld, by rw [husable]; decide⟩, hfound, hlimit, hleft,
    hfewer.mpr habove⟩

end Limiter
end FaultTolerance
