import FaultTolerance.Proofs.Breaker.Moves
import FaultTolerance.Proofs.Window.CountedHistory

/-!
# The half-open phase

A half-open breaker has trial permits left and a window over the trial calls that finished.  It
stays half-open only while fewer calls finished than there are trial calls, so the number of calls
in its window is always the number it was told of.

**Results.**
* `Trial`: a half-open breaker with permits left and calls finished.
* `trial_entered`: a breaker enters the phase with every permit left and no call finished.
* `Trial.record`: a finished call is the next of the finished ones, or ends the phase.
* `Trial.giveBack`: a permit given back, up to the number of trial calls.
* `Trial.admitted`, `Trial.refused`, `Trial.total_eq`: what a caller sees.
* `OnTrial`: a half-open breaker with the calls of its window; `OnTrial.acquire_eq`,
  `OnTrial.step_returned`, `OnTrial.step_outcome`, `OnTrial.step_last`: what each move does to both.
-/

namespace FaultTolerance
namespace Breaker

open Time Window

/-- A half-open breaker with trial permits left whose window shows the finished calls. -/
structure Trial
    (b : Breaker)
    (remaining finished : Nat) : Prop where
  circuit : b.circuit = .halfOpen remaining
  remaining_le : remaining ≤ b.config.trials
  finished_lt : finished < b.config.trials
  shows : ∃ w calls, b.window = .counted w ∧ w.Shows calls ∧ w.slots.size = b.config.trials ∧
    calls.length = finished

theorem Trial.phase
    {b : Breaker}
    {remaining finished : Nat}
    (h : b.Trial remaining finished) :
    b.phase = .halfOpen :=
  phase_of_circuit h.circuit

/-- The phase begins with every permit left. -/
theorem trial_entered
    {b : Breaker}
    (r : Reading)
    (htrials : 0 < b.config.trials) :
    (b.entered r .halfOpen).Trial b.config.trials 0 := by
  refine ⟨rfl, le_rfl, htrials, _, [], rfl, Counted.shows_ofSize _ _, ?_, rfl⟩
  rw [Counted.size_ofSize]
  exact max_eq_left htrials

variable {b : Breaker} {remaining finished : Nat}

/-- A permit taken. -/
theorem Trial.spend
    (h : b.Trial (remaining + 1) finished) :
    { b with circuit := .halfOpen remaining }.Trial remaining finished :=
  ⟨rfl, (Nat.le_succ remaining).trans h.remaining_le, h.finished_lt, h.shows⟩

/-- A permit given back, up to the number of trial calls. -/
theorem Trial.giveBack
    (h : b.Trial remaining finished) :
    b.giveBack.Trial (if remaining < b.config.trials then remaining + 1 else remaining) finished := by
  unfold Breaker.giveBack
  rw [h.circuit]
  show (if remaining < b.config.trials then { b with circuit := .halfOpen (remaining + 1) }
    else b).Trial _ _
  split_ifs with hmissing
  · exact ⟨rfl, hmissing, h.finished_lt, h.shows⟩
  · exact h

/-- The window of a half-open breaker counts the finished calls. -/
theorem Trial.total_eq
    (h : b.Trial remaining finished) :
    b.window.snapshot.total = finished := by
  obtain ⟨w, calls, hwindow, hshows, hsize, hlength⟩ := h.shows
  rw [hwindow]
  show w.snapshot.total = finished
  rw [hshows.snapshot_eq, List.take_of_length_le (by rw [hsize, hlength]; exact h.finished_lt.le)]
  exact hlength

/-- A half-open breaker that is told of a finished call waits for the last trial call, and judges the
calls in its window when that one has finished. -/
theorem record_of_shows
    {w : Counted}
    {calls : List Call}
    (hcircuit : b.circuit = .halfOpen remaining)
    (hwindow : b.window = .counted w)
    (hshows : w.Shows calls)
    (hsize : w.slots.size = b.config.trials)
    (hlt : calls.length < b.config.trials)
    (r : Reading)
    (elapsed : Span)
    (failed : Bool) :
    (b.record r elapsed failed).1 =
      if calls.length + 1 < b.config.trials then b.withCall r elapsed failed
      else if b.config.thresholds.evaluate
          (Snapshot.ofCalls w.minimum
            (⟨elapsed, .classify elapsed b.config.slowDuration failed⟩ :: calls)) =
          .aboveThresholds
      then (b.withCall r elapsed failed).entered r .open
      else (b.withCall r elapsed failed).entered r .closed := by
  have hsnapshot :
      (b.withCall r elapsed failed).window.snapshot =
        Snapshot.ofCalls w.minimum
          (⟨elapsed, .classify elapsed b.config.slowDuration failed⟩ :: calls) := by
    have hnext := hshows.record ⟨elapsed, .classify elapsed b.config.slowDuration failed⟩
    unfold withCall
    rw [hwindow]
    refine hnext.snapshot_eq.trans ?_
    rw [Counted.minimum_record, Counted.size_record, hsize, List.take_of_length_le]
    exact hlt
  rw [record_of_halfOpen r elapsed failed hcircuit, hsnapshot]
  simp only [apply_ite Prod.fst]
  rfl

/-- A finished call is the next of the finished ones, or ends the phase. -/
theorem Trial.record
    (h : b.Trial remaining finished)
    (r : Reading)
    (elapsed : Span)
    (failed : Bool) :
    (b.record r elapsed failed).1.Trial remaining (finished + 1) ∨
      (b.record r elapsed failed).1.phase ≠ .halfOpen := by
  obtain ⟨w, calls, hwindow, hshows, hsize, hlength⟩ := h.shows
  have hfinished := h.finished_lt
  rw [← hlength] at hfinished ⊢
  rw [record_of_shows h.circuit hwindow hshows hsize hfinished r elapsed failed]
  split_ifs with hpending habove
  · refine .inl ⟨h.circuit, h.remaining_le, hpending, ?_⟩
    unfold withCall
    rw [hwindow]
    exact ⟨_, _, rfl, hshows.record ⟨elapsed, _⟩, (Counted.size_record ..).trans hsize, rfl⟩
  · exact .inr (by simp)
  · exact .inr (by simp)

/-- With a permit left a call is admitted and spends it. -/
theorem Trial.admitted
    (h : b.Trial (remaining + 1) finished)
    (r : Reading) :
    (acquire.run r b).1 = .ok () ∧
      (acquire.run r b).2.1 = { b with circuit := .halfOpen remaining } := by
  rw [acquire_of_halfOpen r h.circuit]
  exact ⟨rfl, rfl⟩

/-- Without permits left a call is refused, and only the refusal is counted. -/
theorem Trial.refused
    (h : b.Trial 0 finished)
    (r : Reading) :
    (acquire.run r b).1 = .error (.callNotPermitted b.name .halfOpen) ∧
      (acquire.run r b).2.1 = { b with refused := b.refused + 1 } := by
  rw [acquire_of_halfOpen_zero r h.circuit]
  exact ⟨rfl, rfl⟩

/-! ### The calls of the window -/

/-- A half-open breaker with trial permits left whose window holds these calls, the latest first, and
judges them when there are as many as trial calls. -/
structure OnTrial
    (b : Breaker)
    (remaining : Nat)
    (calls : List Call) : Prop where
  circuit : b.circuit = .halfOpen remaining
  remaining_le : remaining ≤ b.config.trials
  calls_lt : calls.length < b.config.trials
  window : ∃ w, b.window = .counted w ∧ w.Shows calls ∧ w.slots.size = b.config.trials ∧
    w.minimum = b.config.trials

/-- The phase begins with an empty window. -/
theorem onTrial_of_trialWindow
    (hcircuit : b.circuit = .halfOpen remaining)
    (hremaining : remaining ≤ b.config.trials)
    (hwindow : b.window = b.config.trialWindow)
    (htrials : 0 < b.config.trials) :
    b.OnTrial remaining [] := by
  refine ⟨hcircuit, hremaining, htrials, _, hwindow, Counted.shows_ofSize _ _, ?_, ?_⟩
  · rw [Counted.size_ofSize]
    exact max_eq_left htrials
  · rw [Counted.minimum_ofSize, max_eq_left htrials, min_self]

variable {calls : List Call}

theorem OnTrial.phase
    (h : b.OnTrial remaining calls) :
    b.phase = .halfOpen :=
  phase_of_circuit h.circuit

/-- A reader sees the calls of the window. -/
theorem OnTrial.snapshot_eq
    (h : b.OnTrial remaining calls) :
    b.window.snapshot = Snapshot.ofCalls b.config.trials calls := by
  obtain ⟨w, hwindow, hshows, hsize, hminimum⟩ := h.window
  rw [hwindow]
  refine hshows.snapshot_eq.trans ?_
  rw [hsize, hminimum, List.take_of_length_le h.calls_lt.le]

/-- An acquisition takes a permit, unless none is left and it is refused. -/
theorem OnTrial.acquire_eq
    (h : b.OnTrial remaining calls)
    (r : Reading) :
    acquire.run r b =
      if remaining = 0
      then
        (.error (.callNotPermitted b.name .halfOpen), { b with refused := b.refused + 1 },
          [.notPermitted])
      else (.ok (), { b with circuit := .halfOpen (remaining - 1) }, [.callPermitted]) := by
  cases remaining with
  | zero => exact acquire_of_halfOpen_zero r h.circuit
  | succ remaining => exact acquire_of_halfOpen r h.circuit

theorem OnTrial.step_acquire
    (h : b.OnTrial remaining calls)
    (r : Reading) :
    (b.step (r, .acquire)).OnTrial (remaining - 1) calls := by
  have hstep : b.step (r, .acquire) = (acquire.run r b).2.1 := rfl
  rw [hstep, h.acquire_eq r]
  split_ifs with hzero
  · subst hzero
    exact ⟨h.circuit, h.remaining_le, h.calls_lt, h.window⟩
  · exact ⟨rfl, (Nat.sub_le ..).trans h.remaining_le, h.calls_lt, h.window⟩

/-- A permission given back is one more permit, up to the number of trial calls. -/
theorem OnTrial.step_returned
    (h : b.OnTrial remaining calls)
    {m : Move}
    (hmark : m.mark b = .returned)
    (r : Reading) :
    (b.step (r, m)).OnTrial (min (remaining + 1) b.config.trials) calls := by
  obtain ⟨events, -, hrun⟩ := run_of_returned r hmark
  have hstep : b.step (r, m) = b.giveBack :=
    congrArg (fun result => result.2.1) hrun
  have hle := h.remaining_le
  rw [hstep]
  unfold Breaker.giveBack
  rw [h.circuit]
  show (if remaining < b.config.trials then { b with circuit := .halfOpen (remaining + 1) }
    else b).OnTrial _ _
  split_ifs with hmissing
  · rw [min_eq_left hmissing]
    exact ⟨rfl, hmissing, h.calls_lt, h.window⟩
  · rw [show min (remaining + 1) b.config.trials = remaining by omega]
    exact h

/-- What a breaker makes of an outcome, by the calls of its window. -/
theorem OnTrial.step_eq
    (h : b.OnTrial remaining calls)
    {m : Move}
    {call : Call}
    (hmark : m.mark b = .outcome call)
    (r : Reading) :
    ∃ w, w.Shows (call :: calls) ∧ w.slots.size = b.config.trials ∧ w.minimum = b.config.trials ∧
      b.step (r, m) =
        if calls.length + 1 < b.config.trials then { b with window := .counted w }
        else if b.config.thresholds.evaluate (Snapshot.ofCalls b.config.trials (call :: calls)) =
            .aboveThresholds
        then { b with window := .counted w }.entered r .open
        else { b with window := .counted w }.entered r .closed := by
  obtain ⟨elapsed, failed, event, rfl, -, hrun⟩ := run_of_outcome r hmark
  obtain ⟨w, hwindow, hshows, hsize, hminimum⟩ := h.window
  have hrecord := record_of_shows h.circuit hwindow hshows hsize h.calls_lt r elapsed failed
  have htold :
      b.withCall r elapsed failed =
        { b with
          window := .counted (w.record elapsed (.classify elapsed b.config.slowDuration failed)) } := by
    unfold withCall
    rw [hwindow]
    rfl
  rw [hminimum, htold] at hrecord
  refine ⟨_, hshows.record ⟨elapsed, _⟩, (Counted.size_record ..).trans hsize, hminimum, ?_⟩
  exact (congrArg (fun result => result.2.1) hrun).trans hrecord

/-- An outcome joins the calls of the window, as long as there are fewer of them than trial calls. -/
theorem OnTrial.step_outcome
    (h : b.OnTrial remaining calls)
    {m : Move}
    {call : Call}
    (hmark : m.mark b = .outcome call)
    (hpending : (call :: calls).length ≠ b.config.trials)
    (r : Reading) :
    (b.step (r, m)).OnTrial remaining (call :: calls) := by
  have hlt : calls.length + 1 < b.config.trials :=
    lt_of_le_of_ne h.calls_lt hpending
  obtain ⟨w, hshows, hsize, hminimum, hstep⟩ := h.step_eq hmark r
  rw [hstep, if_pos hlt]
  exact ⟨h.circuit, h.remaining_le, hlt, w, rfl, hshows, hsize, hminimum⟩

/-- The last of as many outcomes as there are trial calls ends the phase: the breaker opens if they
are above the thresholds, and otherwise closes, with an empty window and a new count of openings. -/
theorem OnTrial.step_last
    (h : b.OnTrial remaining calls)
    {m : Move}
    {call : Call}
    (hmark : m.mark b = .outcome call)
    (hlast : (call :: calls).length = b.config.trials)
    (r : Reading) :
    let verdict := b.config.thresholds.evaluate (Snapshot.ofCalls b.config.trials (call :: calls))
    (verdict = .aboveThresholds → (b.step (r, m)).phase = .open) ∧
      (verdict ≠ .aboveThresholds →
        (b.step (r, m)).phase = .closed ∧
          (b.step (r, m)).window = b.config.closedWindow r.now ∧ (b.step (r, m)).opens = 0) := by
  intro verdict
  have hfull : ¬ calls.length + 1 < b.config.trials :=
    hlast.not_lt
  obtain ⟨w, -, -, -, hstep⟩ := h.step_eq hmark r
  rw [hstep, if_neg hfull]
  refine ⟨fun habove => ?_, fun hbelow => ?_⟩
  · rw [if_pos habove]
    exact phase_entered _ r .open
  · rw [if_neg hbelow]
    exact ⟨rfl, rfl, rfl⟩

theorem OnTrial.phase_ne_of_last
    (h : b.OnTrial remaining calls)
    {m : Move}
    {call : Call}
    (hmark : m.mark b = .outcome call)
    (hlast : (call :: calls).length = b.config.trials)
    (r : Reading) :
    (b.step (r, m)).phase ≠ .halfOpen := by
  obtain ⟨hopen, hclosed⟩ := h.step_last hmark hlast r
  by_cases habove : b.config.thresholds.evaluate
      (Snapshot.ofCalls b.config.trials (call :: calls)) = .aboveThresholds
  · simp [hopen habove]
  · simp [(hclosed habove).1]

end Breaker
end FaultTolerance
