import FaultTolerance.Proofs.Breaker.OpenPhase
import FaultTolerance.Proofs.Interval.Vanishing

/-!
# Acquisitions at the moment of opening

A breaker that opens refuses calls as long as the clock has not moved, unless its wait is zero.  The
fixed wait is never zero, as it is checked to last a millisecond.  The wait of an interval function is
not checked so, and may vanish; the breaker then becomes half-open with the next acquisition.

**Results.**
* `Config.waitAfter_eq_zero_iff`: when the wait of an opening is zero.
* `refused_at_opening_iff`: when an open breaker refuses a call at the clock reading of its opening.
-/

namespace FaultTolerance
namespace Breaker

open Time Numeric

/-- The settings give no wait at an opening: an interval function is set, and its wait vanishes. -/
def Config.OpensForNothing
    (config : Config)
    (draw : Binary64)
    (opens : Nat) : Prop :=
  ∃ interval, config.openInterval = some interval ∧ interval.Vanishes draw opens

/-- The wait of an opening is zero when that of the interval function vanishes. -/
theorem Config.waitAfter_eq_zero_iff
    {config : Config}
    {draw : Binary64}
    (hvalid : config.validate = .ok ())
    (hdraw : Interval.IsShare draw draw.value)
    (opens : Nat) :
    config.waitAfter draw opens = Span.zero ↔ config.OpensForNothing draw opens := by
  obtain ⟨-, -, -, -, hleast, haccepted⟩ := (Config.validate_eq_ok_iff config).mp hvalid
  unfold Config.waitAfter Config.OpensForNothing
  cases hinterval : config.openInterval with
  | none =>
      simp only [reduceCtorEq, false_and, exists_false, iff_false, ← Span.nanos_eq_zero_iff]
      simp only [nanosPerMilli] at hleast
      omega
  | some interval =>
      simp only [Option.some.injEq, exists_eq_left']
      exact Interval.wait_eq_zero_iff (haccepted interval hinterval) hdraw opens

/-- The turns of a run are made at its readings. -/
theorem map_reading_turns
    (b : Breaker)
    (moves : List (Reading × Move)) :
    (b.turns moves).map Turn.reading = moves.map Prod.fst := by
  induction moves generalizing b with
  | nil => rfl
  | cons m moves ih => exact congrArg (m.1 :: ·) (ih (b.step m))

theorem reading_mem_of_latestEntry
    {b : Breaker}
    {goal : Circuit.Phase}
    {moves : List (Reading × Move)}
    {entry : Turn}
    (hentry : latestEntry goal (b.history moves) = some entry) :
    entry.reading ∈ moves.map Prod.fst := by
  have hturn : entry ∈ b.turns moves :=
    List.mem_reverse.mp (List.mem_of_find?_eq_some hentry)
  rw [← map_reading_turns b moves]
  exact List.mem_map_of_mem hturn

/-- **Acquisitions at the moment of opening.**  In every run of a breaker with accepted settings after
which it is open, let a call ask for permission while the clock has not moved on since the latest entry
into the open phase.  It is refused, and nothing but the refusal is counted, exactly when the settings
give a wait for that entry's draw and for the number of openings since the breaker was last closed; that is
always so without an interval function.  Otherwise the call makes the breaker half-open and is admitted. -/
theorem refused_at_opening_iff
    {name : String}
    {config : Config}
    {classifier : Option (Classifier Fault)}
    {now : Nat}
    {b : Breaker}
    (hcreate : create name config classifier now = .ok b)
    (moves : List (Reading × Move))
    (hdraws : ∀ m ∈ moves, Interval.IsShare m.1.draw m.1.draw.value)
    (hopen : (b.play moves).phase = .open) :
    let s := b.play moves
    let log := b.history moves
    ∃ entry, latestEntry .open log = some entry ∧
      let nothing := config.OpensForNothing entry.reading.draw (openings log)
      (config.openInterval = none → ¬ nothing) ∧
        ∀ r : Reading, r.now ≤ entry.reading.now →
          (¬ nothing →
            acquire.run r s =
              (.error (.callNotPermitted name .open), { s with refused := s.refused + 1 },
                [.notPermitted])) ∧
          (nothing →
            acquire.run r s =
              (.ok (),
                { s with circuit := .halfOpen (config.trials - 1), window := config.trialWindow },
                [.transition .open .halfOpen, .callPermitted])) := by
  intro s log
  obtain ⟨hvalid, -⟩ := create_eq_ok hcreate
  have hfresh := fresh_of_create hcreate
  obtain ⟨hname, hconfig⟩ := hfresh.play moves
  change s.name = name at hname
  change s.config = config at hconfig
  have hwaiting : s.Waiting log :=
    waiting_play hfresh.circuit hfresh.opens hfresh.trials_pos moves
  obtain ⟨openedAt, wait, hcircuit⟩ := exists_open_of_phase hopen
  obtain ⟨entry, hentry, rfl, rfl⟩ := hwaiting.circuit openedAt wait hcircuit
  obtain ⟨m, hm, hreading⟩ := List.mem_map.mp (reading_mem_of_latestEntry hentry)
  have hdraw : Interval.IsShare entry.reading.draw entry.reading.draw.value :=
    hreading ▸ hdraws m hm
  refine ⟨entry, hentry, ?_⟩
  intro nothing
  have hzero : (s.config.waitAfter entry.reading.draw (openings log)).ticks = 0 ↔ nothing := by
    rw [hconfig, Span.ticks_eq_zero_iff]
    exact Config.waitAfter_eq_zero_iff hvalid hdraw (openings log)
  refine ⟨?_, fun r hr => ?_⟩
  · rintro hnone ⟨interval, hsome, -⟩
    cases hnone.symm.trans hsome
  · have hrun := acquire_of_open r (by rw [config_play]; exact hfresh.trials_pos) hcircuit
    rw [Nat.sub_eq_zero_of_le hr] at hrun
    constructor
    · intro hsome
      rw [if_pos (Nat.pos_of_ne_zero (mt hzero.mp hsome))] at hrun
      rw [← hname]
      exact hrun
    · intro hnothing
      rw [if_neg (by rw [hzero.mpr hnothing]; exact lt_irrefl 0)] at hrun
      rw [← hconfig]
      exact hrun

/-- A fixed wait of zero is accepted.  The first failure opens the breaker, and a call at the same
clock reading is admitted as a trial call. -/
theorem refused_at_opening_iff_fixed :
    let config :=
      { Config.standard with
        size := 1, minimum := 1, openInterval := some (.fixed Span.zero) }
    let b : Breaker := ⟨"fixed", config, none, .closed, config.closedWindow 0, 0, 0⟩
    let r : Reading := ⟨7, .zero false⟩
    let moves : List (Reading × Move) := [(r, .error Span.zero (.text "boom"))]
    create "fixed" config none 0 = .ok b ∧
      (∀ m ∈ moves, Interval.IsShare m.1.draw m.1.draw.value) ∧
      (b.play moves).phase = .open ∧
      latestEntry .open (b.history moves) = some ⟨b, r, .error Span.zero (.text "boom")⟩ ∧
      (acquire.run r (b.play moves)).1 = .ok () ∧
      (acquire.run r (b.play moves)).2.1.phase = .halfOpen := by
  intro config b r moves
  have hcreate : create "fixed" config none 0 = .ok b :=
    create_of_validate (by decide +kernel) ..
  have hdraws : ∀ m ∈ moves, Interval.IsShare m.1.draw m.1.draw.value := by
    intro m hm
    obtain rfl := List.mem_singleton.mp hm
    have hzero : (Binary.zero false : Binary64).HasValue 0 := Binary.hasValue_zero false
    exact ⟨Binary.hasValue_value rfl, hzero.2.ge, hzero.2.le.trans zero_le_one⟩
  have hopen : (b.play moves).phase = .open := by
    decide +kernel
  obtain ⟨entry, hentry, -, hanswer⟩ := refused_at_opening_iff hcreate moves hdraws hopen
  have hlatest :
      latestEntry .open (b.history moves) = some ⟨b, r, .error Span.zero (.text "boom")⟩ :=
    latestEntry_of_enters [] (by decide +kernel)
  cases hentry.symm.trans hlatest
  have hrun := (hanswer r le_rfl).2 ⟨.fixed Span.zero, rfl, rfl⟩
  refine ⟨hcreate, hdraws, hopen, hlatest, ?_, ?_⟩
  · rw [hrun]
  · rw [hrun]
    rfl

end Breaker
end FaultTolerance
