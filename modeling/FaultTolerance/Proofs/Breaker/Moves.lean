import FaultTolerance.Breaker.Basic
import FaultTolerance.Proofs.Settings
import FaultTolerance.Proofs.Window.Calls

/-!
# Moves of a circuit breaker

A run of a circuit breaker is a list of its public operations, each with what its critical section
reads of the outside.  This module says once what an operation does in each phase; the laws of the
phases are derived from that.

## Main definitions

* `Move`, `Answer`, `Move.run`, `play`: runs.
* `entered`: a breaker just after it entered a phase.
* `withCall`: a breaker whose window was told of one more call.
* `Mark`: what a move reports of a call.
* `Kept`, `Fresh`: what every move leaves alone, and new breakers.

**Results.**
* `moveTo_of_ne`: a move to another phase enters it.
* `acquire_cases`: everything that asking for permission can do.
* `record_of_closed`, `record_of_halfOpen`, `record_of_silent`: finished calls, phase by phase.
-/

namespace FaultTolerance
namespace Breaker

open Time Numeric Window

/-! ### Runs -/

/-- What may be asked of a breaker. -/
inductive Move where
  | acquire
  | release
  | success (elapsed : Span)
  | error (elapsed : Span) (fault : Fault)
  | transition (goal : Circuit.Phase)
  | reset
  | metrics

/-- What a breaker answers. -/
inductive Answer where
  | permission (result : Except Rejection Unit)
  | done
  | numbers (metrics : Metrics)

/-- Whether a call was admitted. -/
def Answer.isAdmission : Answer → Bool
  | .permission (.ok _) => true
  | _ => false

/-- Whether a call was refused. -/
def Answer.isRefusal : Answer → Bool
  | .permission (.error _) => true
  | _ => false

/-- The answer, the breaker and the events after a move. -/
def Move.run
    (r : Reading)
    (b : Breaker) : Move → Answer × Breaker × List Event
  | .acquire => (Breaker.acquire.run r b).map .permission id
  | .release => (Breaker.release.run r b).map (fun _ => .done) id
  | .success elapsed => ((onSuccess elapsed).run r b).map (fun _ => .done) id
  | .error elapsed fault => ((onError elapsed fault).run r b).map (fun _ => .done) id
  | .transition goal => ((Breaker.transition goal).run r b).map (fun _ => .done) id
  | .reset => (Breaker.reset.run r b).map (fun _ => .done) id
  | .metrics => (Breaker.metrics.run r b).map .numbers id

/-- The breaker after a move. -/
def step
    (b : Breaker)
    (m : Reading × Move) : Breaker :=
  (m.2.run m.1 b).2.1

/-- The breaker after a run. -/
def play
    (b : Breaker)
    (moves : List (Reading × Move)) : Breaker :=
  moves.foldl step b

/-- A new breaker is closed and has counted nothing. -/
theorem create_eq_ok
    {name : String}
    {config : Config}
    {classifier : Option (Classifier Fault)}
    {now : Nat}
    {b : Breaker}
    (h : create name config classifier now = .ok b) :
    config.validate = .ok () ∧
      b = ⟨name, config, classifier, .closed, config.closedWindow now, 0, 0⟩ := by
  unfold create at h
  rw [checked_bind_eq_ok_iff] at h
  obtain ⟨hvalid, hcreated⟩ := h
  cases hcreated
  exact ⟨hvalid, rfl⟩

/-- Valid settings make a new breaker. -/
theorem create_of_validate
    {config : Config}
    (h : config.validate = .ok ())
    (name : String)
    (classifier : Option (Classifier Fault))
    (now : Nat) :
    create name config classifier now =
      .ok ⟨name, config, classifier, .closed, config.closedWindow now, 0, 0⟩ := by
  unfold create
  rw [h]
  rfl

/-- Accepted settings have trial calls. -/
theorem Config.trials_pos
    {config : Config}
    (h : config.validate = .ok ()) :
    0 < config.trials :=
  ((Config.validate_eq_ok_iff config).mp h).2.2.2.1

/-- A run that goes on. -/
theorem play_append
    (b : Breaker)
    (first second : List (Reading × Move)) :
    b.play (first ++ second) = (b.play first).play second :=
  List.foldl_append

/-- A run that goes on by one move. -/
theorem play_concat
    (b : Breaker)
    (moves : List (Reading × Move))
    (m : Reading × Move) :
    b.play (moves ++ [m]) = (b.play moves).step m :=
  play_append b moves [m]

/-! ### Entering a phase -/

/-- A breaker just after it entered a phase. -/
def entered
    (b : Breaker)
    (r : Reading)
    (goal : Circuit.Phase) : Breaker :=
  ({ b with circuit := .fresh goal }).enter r goal

theorem handle_toward_of_ne
    {c : Circuit}
    {goal : Circuit.Phase}
    (now : Nat)
    (h : c.phase ≠ goal) :
    c.handle now (.toward goal) = .ok (.fresh goal) := by
  cases c <;> cases goal <;>
    first
    | exact absurd rfl h
    | rfl

theorem moveTo_of_ne
    {b : Breaker}
    {goal : Circuit.Phase}
    (r : Reading)
    (h : b.phase ≠ goal) :
    b.moveTo r goal = (b.entered r goal, [.transition b.phase goal]) := by
  unfold moveTo
  rw [handle_toward_of_ne r.now h]
  rfl

section Entered

variable (b : Breaker) (r : Reading)

theorem entered_halfOpen :
    b.entered r .halfOpen =
      { b with circuit := .halfOpen b.config.trials, window := b.config.trialWindow } :=
  rfl

@[simp]
theorem phase_entered (goal : Circuit.Phase) : (b.entered r goal).phase = goal := by
  cases goal <;> rfl

end Entered

/-- Entering the phase at hand once more. -/
theorem enter_of_phase
    {b : Breaker}
    {goal : Circuit.Phase}
    (r : Reading)
    (h : b.phase = goal) :
    b.enter r goal = b.entered r goal := by
  obtain ⟨name, config, classifier, circuit, window, opens, refused⟩ := b
  subst h
  cases circuit <;> rfl

/-- A transition by hand enters its goal from every phase, and announces that unless the goal is the
phase at hand; an opening also empties the window. -/
theorem moveByHand_eq
    (b : Breaker)
    (r : Reading)
    (goal : Circuit.Phase) :
    b.moveByHand r goal =
      (if goal = .open then { b.entered r goal with window := (b.entered r goal).window.reset r.now }
        else b.entered r goal,
        if b.phase = goal then [] else [.transition b.phase goal]) := by
  have hmoved :
      (if b.phase = goal then (b.enter r goal, []) else b.moveTo r goal) =
        (b.entered r goal, if b.phase = goal then [] else [.transition b.phase goal]) := by
    split_ifs with hphase
    · rw [enter_of_phase r hphase]
    · exact moveTo_of_ne r hphase
  unfold moveByHand
  rw [hmoved]
  split_ifs <;> rfl

/-- The breaker after a transition by hand. -/
theorem moveByHand_fst
    (b : Breaker)
    (r : Reading)
    (goal : Circuit.Phase) :
    (b.moveByHand r goal).1 =
      if goal = .open then { b.entered r goal with window := (b.entered r goal).window.reset r.now }
      else b.entered r goal := by
  rw [moveByHand_eq]

@[simp]
theorem phase_moveByHand
    (b : Breaker)
    (r : Reading)
    (goal : Circuit.Phase) :
    (b.moveByHand r goal).1.phase = goal := by
  rw [moveByHand_fst]
  split_ifs <;> exact phase_entered b r goal

/-! ### Phases and their data -/

theorem phase_of_circuit
    {b : Breaker}
    {c : Circuit}
    (h : b.circuit = c) :
    b.phase = c.phase := by
  rw [phase, h]

theorem exists_open_of_phase
    {b : Breaker}
    (h : b.phase = .open) :
    ∃ openedAt wait, b.circuit = .open openedAt wait := by
  unfold phase at h
  cases hcircuit : b.circuit with
  | «open» openedAt wait => exact ⟨openedAt, wait, rfl⟩
  | closed =>
      rw [hcircuit] at h
      cases h
  | halfOpen remaining =>
      rw [hcircuit] at h
      cases h
  | disabled =>
      rw [hcircuit] at h
      cases h
  | forcedOpen =>
      rw [hcircuit] at h
      cases h

/-- Finished calls are recorded while closed and while half-open. -/
theorem circuit_of_records
    {b : Breaker}
    (h : b.phase.records = true) :
    b.circuit = .closed ∨ ∃ remaining, b.circuit = .halfOpen remaining := by
  unfold phase at h
  cases hcircuit : b.circuit with
  | closed => exact .inl rfl
  | halfOpen remaining => exact .inr ⟨remaining, rfl⟩
  | «open» openedAt wait =>
      rw [hcircuit] at h
      cases h
  | disabled =>
      rw [hcircuit] at h
      cases h
  | forcedOpen =>
      rw [hcircuit] at h
      cases h

/-! ### Asking for permission -/

/-- Only an open breaker wakes. -/
theorem wake_of_ne_open
    {b : Breaker}
    (r : Reading)
    (h : b.phase ≠ .open) :
    b.wake r = (b, []) := by
  unfold phase at h
  unfold wake
  cases hcircuit : b.circuit with
  | «open» openedAt wait =>
      rw [hcircuit] at h
      exact absurd rfl h
  | closed => rfl
  | halfOpen remaining => rfl
  | disabled => rfl
  | forcedOpen => rfl

/-- An open breaker becomes half-open once its wait has passed. -/
theorem wake_of_open
    {b : Breaker}
    {openedAt wait : Nat}
    (r : Reading)
    (h : b.circuit = .open openedAt wait) :
    b.wake r =
      if Circuit.waitElapsed r.now openedAt wait
      then (b.entered r .halfOpen, [.transition .open .halfOpen])
      else (b, []) := by
  unfold wake
  rw [h]
  cases hwait : Circuit.waitElapsed r.now openedAt wait with
  | true =>
      simp only [Circuit.handle, hwait, if_true]
      rfl
  | false => simp [Circuit.handle, hwait]

section Acquire

variable {b awake : Breaker} {moved : List Event} {remaining : Nat} (r : Reading)
include r

theorem acquire_of_take_ok
    {taken : Breaker}
    (hwake : b.wake r = (awake, moved))
    (htake : awake.take = .ok taken) :
    acquire.run r b = (.ok (), taken, moved ++ [.callPermitted]) := by
  simp [acquire, Operation.run, Operation.ofStep, hwake, htake]

theorem acquire_of_take_error
    {phase : Circuit.Phase}
    (hwake : b.wake r = (awake, moved))
    (htake : awake.take = .error phase) :
    acquire.run r b =
      (.error (.callNotPermitted b.name phase), { awake with refused := awake.refused + 1 },
        moved ++ [.notPermitted]) := by
  simp [acquire, Operation.run, Operation.ofStep, hwake, htake]

/-- A closed breaker admits every call and stays as it is. -/
theorem acquire_of_closed
    (h : b.circuit = .closed) :
    acquire.run r b = (.ok (), b, [.callPermitted]) := by
  refine acquire_of_take_ok r (wake_of_ne_open r ?_) ?_
  · simp [phase_of_circuit h, Circuit.phase]
  · rw [take, h]

/-- So does a disabled one. -/
theorem acquire_of_disabled
    (h : b.circuit = .disabled) :
    acquire.run r b = (.ok (), b, [.callPermitted]) := by
  refine acquire_of_take_ok r (wake_of_ne_open r ?_) ?_
  · simp [phase_of_circuit h, Circuit.phase]
  · rw [take, h]

/-- A breaker that is forced open refuses every call, and only the refusal is counted. -/
theorem acquire_of_forcedOpen
    (h : b.circuit = .forcedOpen) :
    acquire.run r b =
      (.error (.callNotPermitted b.name .forcedOpen), { b with refused := b.refused + 1 },
        [.notPermitted]) := by
  refine acquire_of_take_error r (wake_of_ne_open r ?_) ?_
  · simp [phase_of_circuit h, Circuit.phase]
  · rw [take, h, phase_of_circuit h]
    rfl

/-- While half-open a call is admitted and spends a permit, as long as one is left. -/
theorem acquire_of_halfOpen
    (h : b.circuit = .halfOpen (remaining + 1)) :
    acquire.run r b = (.ok (), { b with circuit := .halfOpen remaining }, [.callPermitted]) := by
  refine acquire_of_take_ok r (wake_of_ne_open r ?_) ?_
  · simp [phase_of_circuit h, Circuit.phase]
  · rw [take, h]

/-- Without permits left a call is refused, and only the refusal is counted. -/
theorem acquire_of_halfOpen_zero
    (h : b.circuit = .halfOpen 0) :
    acquire.run r b =
      (.error (.callNotPermitted b.name .halfOpen), { b with refused := b.refused + 1 },
        [.notPermitted]) := by
  refine acquire_of_take_error r (wake_of_ne_open r ?_) ?_
  · simp [phase_of_circuit h, Circuit.phase]
  · rw [take, h, phase_of_circuit h]
    rfl

/-- An open breaker refuses every call until its wait has passed; then the call is the first trial
call. -/
theorem acquire_of_open
    {openedAt wait : Nat}
    (htrials : 0 < b.config.trials)
    (h : b.circuit = .open openedAt wait) :
    acquire.run r b =
      if r.now - openedAt < wait
      then
        (.error (.callNotPermitted b.name .open), { b with refused := b.refused + 1 },
          [.notPermitted])
      else
        (.ok (),
          { b with circuit := .halfOpen (b.config.trials - 1), window := b.config.trialWindow },
          [.transition .open .halfOpen, .callPermitted]) := by
  have hwake := wake_of_open r h
  unfold Circuit.waitElapsed at hwake
  split_ifs with hwait
  · rw [decide_eq_false (Nat.not_le.mpr hwait), if_neg Bool.false_ne_true] at hwake
    refine acquire_of_take_error r hwake ?_
    rw [take, h, phase_of_circuit h]
    rfl
  · rw [decide_eq_true (Nat.not_lt.mp hwait), if_pos rfl] at hwake
    obtain ⟨remaining, hremaining⟩ : ∃ remaining, b.config.trials = remaining + 1 :=
      ⟨b.config.trials - 1, by omega⟩
    have hawake : (b.entered r .halfOpen).circuit = .halfOpen (remaining + 1) := by
      rw [entered_halfOpen, hremaining]
    refine acquire_of_take_ok r hwake ?_
    rw [take, hawake, hremaining]
    rfl

end Acquire

/-- A breaker that refuses a call at a reading: it still waits, is forced open, or has no trial call
left. -/
def Refuses
    (b : Breaker)
    (r : Reading) : Prop :=
  match b.circuit with
  | .open openedAt wait => Circuit.waitElapsed r.now openedAt wait = false
  | .halfOpen remaining => remaining = 0
  | .forcedOpen => True
  | .closed | .disabled => False

/-- Everything that asking for permission can do. -/
theorem acquire_cases
    {b : Breaker}
    (r : Reading)
    (htrials : 0 < b.config.trials) :
    (b.phase = .closed ∨ b.phase = .disabled) ∧
        acquire.run r b = (.ok (), b, [.callPermitted]) ∨
      (∃ remaining, b.circuit = .halfOpen (remaining + 1) ∧
        acquire.run r b = (.ok (), { b with circuit := .halfOpen remaining }, [.callPermitted])) ∨
      (b.phase = .open ∧
        acquire.run r b =
          (.ok (), { b.entered r .halfOpen with circuit := .halfOpen (b.config.trials - 1) },
            [.transition .open .halfOpen, .callPermitted])) ∨
      b.Refuses r ∧
        acquire.run r b =
          (.error (.callNotPermitted b.name b.phase), { b with refused := b.refused + 1 },
            [.notPermitted]) := by
  obtain ⟨c, hcircuit⟩ : ∃ c, b.circuit = c := ⟨_, rfl⟩
  rw [phase_of_circuit hcircuit]
  cases c with
  | closed => exact .inl ⟨.inl rfl, acquire_of_closed r hcircuit⟩
  | disabled => exact .inl ⟨.inr rfl, acquire_of_disabled r hcircuit⟩
  | forcedOpen =>
      refine .inr (.inr (.inr ⟨?_, acquire_of_forcedOpen r hcircuit⟩))
      rw [Refuses, hcircuit]
      trivial
  | halfOpen remaining =>
      cases remaining with
      | succ remaining => exact .inr (.inl ⟨remaining, hcircuit, acquire_of_halfOpen r hcircuit⟩)
      | zero =>
          refine .inr (.inr (.inr ⟨?_, acquire_of_halfOpen_zero r hcircuit⟩))
          rw [Refuses, hcircuit]
  | «open» openedAt wait =>
      have hrun := acquire_of_open r htrials hcircuit
      split_ifs at hrun with hwait
      · refine .inr (.inr (.inr ⟨?_, hrun⟩))
        rw [Refuses, hcircuit]
        exact decide_eq_false (Nat.not_le.mpr hwait)
      · exact .inr (.inr (.inl ⟨rfl, hrun⟩))

/-! ### Finished calls -/

/-- A breaker whose window was told of one more finished call. -/
def withCall
    (b : Breaker)
    (r : Reading)
    (elapsed : Span)
    (failed : Bool) : Breaker :=
  { b with
    window :=
      b.window.record r.now elapsed (Outcome.classify elapsed b.config.slowDuration failed) }

/-- A closed breaker has no trial call to take back. -/
theorem giveBack_of_closed
    {b : Breaker}
    (h : b.circuit = .closed) :
    b.giveBack = b := by
  unfold giveBack
  rw [h]

@[simp]
theorem phase_giveBack (b : Breaker) : b.giveBack.phase = b.phase := by
  unfold giveBack phase
  split
  · split_ifs
    · rw [‹b.circuit = _›]
      rfl
    · rfl
  · rfl

/-- A trial call taken back leaves no trace in the window. -/
@[simp]
theorem window_giveBack (b : Breaker) : b.giveBack.window = b.window := by
  unfold giveBack
  split
  · split_ifs <;> rfl
  · rfl

theorem trip_of_ne_open
    {b : Breaker}
    (r : Reading)
    (s : Snapshot)
    (h : b.phase ≠ .open) :
    b.trip r s =
      (b.entered r .open, exceeded b.config.thresholds s ++ [.transition b.phase .open]) := by
  unfold trip
  rw [moveTo_of_ne r h]

/-- The thresholds reached are announced by their rates. -/
theorem exists_rate_of_mem_exceeded
    {t : Thresholds}
    {s : Snapshot}
    {e : Event}
    (h : e ∈ exceeded t s) :
    ∃ rate, e = .failureRateExceeded rate ∨ e = .slowCallRateExceeded rate := by
  unfold exceeded at h
  rcases List.mem_append.mp h with h | h
  · split_ifs at h
    · exact ⟨_, .inl (List.mem_singleton.mp h)⟩
    · cases h
  · split_ifs at h
    · exact ⟨_, .inr (List.mem_singleton.mp h)⟩
    · cases h

section Record

variable {b : Breaker} (r : Reading) (elapsed : Span) (failed : Bool)

/-- A closed breaker opens as soon as its window is above its thresholds. -/
theorem record_of_closed
    (h : b.circuit = .closed) :
    b.record r elapsed failed =
      if b.config.thresholds.evaluate (b.withCall r elapsed failed).window.snapshot =
          .aboveThresholds
      then
        ((b.withCall r elapsed failed).entered r .open,
          exceeded b.config.thresholds (b.withCall r elapsed failed).window.snapshot ++
            [.transition .closed .open])
      else (b.withCall r elapsed failed, []) := by
  have hphase : b.phase = .closed :=
    phase_of_circuit h
  have htold : (b.withCall r elapsed failed).phase = .closed :=
    hphase
  have htrip :=
    trip_of_ne_open r (b.withCall r elapsed failed).window.snapshot
      (show (b.withCall r elapsed failed).phase ≠ .open by simp [htold])
  rw [htold] at htrip
  unfold record
  rw [hphase]
  show (if decide (b.config.thresholds.evaluate (b.withCall r elapsed failed).window.snapshot =
        .aboveThresholds) = true then
      (b.withCall r elapsed failed).trip r (b.withCall r elapsed failed).window.snapshot
    else (b.withCall r elapsed failed, [])) = _
  rw [htrip]
  simp only [decide_eq_true_eq]
  rfl

/-- A half-open breaker waits for the last trial call, and then opens or closes. -/
theorem record_of_halfOpen
    {remaining : Nat}
    (h : b.circuit = .halfOpen remaining) :
    b.record r elapsed failed =
      if (b.withCall r elapsed failed).window.snapshot.total < b.config.trials
      then (b.withCall r elapsed failed, [])
      else if b.config.thresholds.evaluate (b.withCall r elapsed failed).window.snapshot =
          .aboveThresholds
      then
        ((b.withCall r elapsed failed).entered r .open,
          exceeded b.config.thresholds (b.withCall r elapsed failed).window.snapshot ++
            [.transition .halfOpen .open])
      else ((b.withCall r elapsed failed).entered r .closed, [.transition .halfOpen .closed]) := by
  have hphase : b.phase = .halfOpen :=
    phase_of_circuit h
  have htold : (b.withCall r elapsed failed).phase = .halfOpen :=
    hphase
  have htrip :=
    trip_of_ne_open r (b.withCall r elapsed failed).window.snapshot
      (show (b.withCall r elapsed failed).phase ≠ .open by simp [htold])
  have hclose :=
    moveTo_of_ne r (show (b.withCall r elapsed failed).phase ≠ .closed by simp [htold])
  rw [htold] at htrip hclose
  unfold record
  rw [hphase]
  show (if (b.withCall r elapsed failed).window.snapshot.total < b.config.trials then
      (b.withCall r elapsed failed, [])
    else if decide (b.config.thresholds.evaluate (b.withCall r elapsed failed).window.snapshot =
        .aboveThresholds) = true then
      (b.withCall r elapsed failed).trip r (b.withCall r elapsed failed).window.snapshot
    else (b.withCall r elapsed failed).moveTo r .closed) = _
  rw [htrip, hclose]
  simp only [decide_eq_true_eq]
  rfl

/-- In the other phases a finished call leaves no trace. -/
theorem record_of_silent
    (h : b.phase.records = false) :
    b.record r elapsed failed = (b, []) := by
  unfold record
  rw [h]
  rfl

/-- A finished call leaves the phase as it is, or ends it with a transition, which is announced after
the thresholds that were reached. -/
theorem record_cases (b : Breaker) :
    (∃ window, b.record r elapsed failed = ({ b with window }, [])) ∨
      ∃ goal reached,
        b.record r elapsed failed =
          ((b.withCall r elapsed failed).entered r goal,
            reached ++ [.transition b.phase goal]) ∧
          (b.phase, goal) ∈ [(.closed, .open), (.halfOpen, .open), (.halfOpen, .closed)] ∧
          ∀ e ∈ reached, ∃ rate, e = .failureRateExceeded rate ∨ e = .slowCallRateExceeded rate := by
  cases hrecords : b.phase.records with
  | false => exact .inl ⟨b.window, record_of_silent r elapsed failed hrecords⟩
  | true =>
      rcases circuit_of_records hrecords with hcircuit | ⟨remaining, hcircuit⟩
      · rw [record_of_closed r elapsed failed hcircuit,
          show b.phase = .closed from phase_of_circuit hcircuit]
        split_ifs
        · exact .inr ⟨.open, _, rfl, by decide, fun _ => exists_rate_of_mem_exceeded⟩
        · exact .inl ⟨_, rfl⟩
      · rw [record_of_halfOpen r elapsed failed hcircuit,
          show b.phase = .halfOpen from phase_of_circuit hcircuit]
        split_ifs
        · exact .inl ⟨_, rfl⟩
        · exact .inr ⟨.open, _, rfl, by decide, fun _ => exists_rate_of_mem_exceeded⟩
        · exact .inr ⟨.closed, [], rfl, by decide, fun _ h => absurd h List.not_mem_nil⟩

end Record

/-- A finished call makes no breaker half-open. -/
theorem phase_record_ne_halfOpen
    {b : Breaker}
    (r : Reading)
    (elapsed : Span)
    (failed : Bool)
    (h : b.phase ≠ .halfOpen) :
    (b.record r elapsed failed).1.phase ≠ .halfOpen := by
  rcases record_cases r elapsed failed b with
    ⟨window, hrecord⟩ | ⟨goal, reached, hrecord, hedge, -⟩
  · rw [hrecord]
    exact h
  · rw [hrecord]
    show ((b.withCall r elapsed failed).entered r goal).phase ≠ .halfOpen
    rw [phase_entered]
    rintro rfl
    simp at hedge

/-- A failure that counts is recorded; another one only gives its permission back. -/
theorem step_error
    (b : Breaker)
    (r : Reading)
    (elapsed : Span)
    (fault : Fault) :
    b.step (r, .error elapsed fault) =
      if b.counts elapsed fault then (b.record r elapsed true).1 else b.giveBack := by
  simp only [step, Move.run, onError, Operation.run]
  split <;> rfl

/-! ### What moves report -/

/-- What a move reports of a call: how it ended, that its permission is free again, or nothing. -/
inductive Mark where
  | outcome (call : Call)
  | returned
  | nothing

/-- What a move reports to a breaker; a failure that does not count frees its permission. -/
def Move.mark (b : Breaker) : Move → Mark
  | .success elapsed => .outcome ⟨elapsed, .classify elapsed b.config.slowDuration false⟩
  | .error elapsed fault =>
    if b.counts elapsed fault then
      .outcome ⟨elapsed, .classify elapsed b.config.slowDuration true⟩
    else .returned
  | .release => .returned
  | .acquire | .transition _ | .reset | .metrics => .nothing

/-- An outcome is announced and recorded. -/
theorem run_of_outcome
    {b : Breaker}
    {m : Move}
    {call : Call}
    (r : Reading)
    (h : m.mark b = .outcome call) :
    ∃ elapsed failed event,
      call = ⟨elapsed, .classify elapsed b.config.slowDuration failed⟩ ∧
        (event = .success elapsed ∨ event = .error elapsed) ∧
        m.run r b =
          (.done, (b.record r elapsed failed).1, event :: (b.record r elapsed failed).2) := by
  cases m with
  | success elapsed =>
      cases h
      exact ⟨elapsed, false, _, rfl, .inl rfl, rfl⟩
  | error elapsed fault =>
      simp only [Move.mark] at h
      split_ifs at h with hcounts
      cases h
      refine ⟨elapsed, true, _, rfl, .inr rfl, ?_⟩
      simp [Move.run, onError, Operation.run, hcounts]
  | acquire => cases h
  | release => cases h
  | transition goal => cases h
  | reset => cases h
  | metrics => cases h

/-- A permission that is free again is given back. -/
theorem run_of_returned
    {b : Breaker}
    {m : Move}
    (r : Reading)
    (h : m.mark b = .returned) :
    ∃ events, (∀ e ∈ events, ∃ elapsed, e = .ignoredError elapsed) ∧
      m.run r b = (.done, b.giveBack, events) := by
  cases m with
  | release => exact ⟨[], fun _ hmem => absurd hmem List.not_mem_nil, rfl⟩
  | error elapsed fault =>
      simp only [Move.mark] at h
      split_ifs at h with hcounts
      refine ⟨[.ignoredError elapsed], fun e hmem => ⟨elapsed, List.mem_singleton.mp hmem⟩, ?_⟩
      simp [Move.run, onError, Operation.run, hcounts]
  | success elapsed => cases h
  | acquire => cases h
  | transition goal => cases h
  | reset => cases h
  | metrics => cases h

/-- The other moves report nothing. -/
theorem cases_of_nothing
    {b : Breaker}
    {m : Move}
    (h : m.mark b = .nothing) :
    m = .acquire ∨ m = .metrics ∨ m = .reset ∨ ∃ goal, m = .transition goal := by
  cases m with
  | acquire => exact .inl rfl
  | metrics => exact .inr (.inl rfl)
  | reset => exact .inr (.inr (.inl rfl))
  | transition goal => exact .inr (.inr (.inr ⟨goal, rfl⟩))
  | success elapsed => cases h
  | release => cases h
  | error elapsed fault =>
      simp only [Move.mark] at h
      split_ifs at h

/-- The outcome of a report, if it is one. -/
def Mark.call : Mark → Option Call
  | .outcome call => some call
  | .returned | .nothing => none

/-- Whether a report frees a permission. -/
def Mark.returns : Mark → Bool
  | .returned => true
  | .outcome _ | .nothing => false

/-! ### Running calls -/

/-- The calls that go on after one ended. -/
theorem count_eraseIdx
    {running : List Nat}
    {index stay : Nat}
    (h : running[index]? = some stay)
    (other : Nat) :
    (running.eraseIdx index).count other + (decide (stay = other)).toNat = running.count other := by
  obtain ⟨hindex, hstay⟩ := List.getElem?_eq_some_iff.mp h
  have hperm := (List.getElem_cons_eraseIdx_perm hindex).count_eq other
  rw [List.count_cons, hstay] at hperm
  rw [← hperm]
  by_cases hsame : stay = other
  · simp [hsame]
  · simp [hsame]

/-! ### What moves leave alone -/

/-- What every move leaves alone; a refusal is counted. -/
structure Kept
    (b after : Breaker)
    (refusals : Nat) : Prop where
  name : after.name = b.name
  config : after.config = b.config
  classifier : after.classifier = b.classifier
  refused : after.refused = b.refused + refusals

section Kept

variable (b : Breaker) (r : Reading)

theorem kept_refl : b.Kept b 0 :=
  ⟨rfl, rfl, rfl, rfl⟩

theorem kept_entered (goal : Circuit.Phase) : b.Kept (b.entered r goal) 0 := by
  cases goal <;> exact ⟨rfl, rfl, rfl, rfl⟩

theorem kept_giveBack : b.Kept b.giveBack 0 := by
  unfold giveBack
  split
  · split_ifs <;> exact ⟨rfl, rfl, rfl, rfl⟩
  · exact b.kept_refl

theorem kept_moveByHand (goal : Circuit.Phase) : b.Kept (b.moveByHand r goal).1 0 := by
  have hentered := b.kept_entered r goal
  rw [moveByHand_fst]
  split_ifs
  · exact ⟨hentered.name, hentered.config, hentered.classifier, hentered.refused⟩
  · exact hentered

theorem kept_record (elapsed : Span) (failed : Bool) : b.Kept (b.record r elapsed failed).1 0 := by
  rcases record_cases r elapsed failed b with ⟨window, hrecord⟩ | ⟨goal, _, hrecord, -⟩
  · rw [hrecord]
    exact ⟨rfl, rfl, rfl, rfl⟩
  · rw [hrecord]
    have hentered := (b.withCall r elapsed failed).kept_entered r goal
    exact ⟨hentered.name, hentered.config, hentered.classifier, hentered.refused⟩

theorem kept_wake : b.Kept (b.wake r).1 0 := by
  by_cases hopen : b.phase = .open
  · obtain ⟨openedAt, wait, hcircuit⟩ := exists_open_of_phase hopen
    rw [wake_of_open r hcircuit]
    split_ifs
    · exact b.kept_entered r .halfOpen
    · exact b.kept_refl
  · rw [wake_of_ne_open r hopen]
    exact b.kept_refl

theorem kept_acquire :
    b.Kept (acquire.run r b).2.1 (Answer.permission (acquire.run r b).1).isRefusal.toNat := by
  have hwake := b.kept_wake r
  cases htake : (b.wake r).1.take with
  | ok taken =>
      rw [acquire_of_take_ok r rfl htake]
      unfold take at htake
      split at htake <;> cases htake <;>
        exact ⟨hwake.name, hwake.config, hwake.classifier, hwake.refused⟩
  | error phase =>
      rw [acquire_of_take_error r rfl htake]
      exact ⟨hwake.name, hwake.config, hwake.classifier, congrArg (· + 1) hwake.refused⟩

end Kept

/-- Every move keeps the name, the settings and the classifier, and counts the refusals. -/
theorem kept_step
    (b : Breaker)
    (m : Reading × Move) :
    b.Kept (b.step m) (m.2.run m.1 b).1.isRefusal.toNat := by
  obtain ⟨r, move⟩ := m
  cases move with
  | acquire => exact b.kept_acquire r
  | release => exact b.kept_giveBack
  | success elapsed => exact b.kept_record r elapsed false
  | error elapsed fault =>
      rw [step_error]
      split_ifs
      · exact b.kept_record r elapsed true
      · exact b.kept_giveBack
  | transition goal => exact b.kept_moveByHand r goal
  | reset => exact b.kept_entered r .closed
  | metrics => exact ⟨rfl, rfl, rfl, rfl⟩

theorem kept_play
    (b : Breaker)
    (moves : List (Reading × Move)) :
    ∃ refusals, b.Kept (b.play moves) refusals := by
  induction moves using List.reverseRecOn with
  | nil => exact ⟨0, b.kept_refl⟩
  | append_singleton moves m ih =>
      obtain ⟨refusals, hkept⟩ := ih
      have hstep := (b.play moves).kept_step m
      rw [play_concat]
      exact ⟨_, hstep.name.trans hkept.name, hstep.config.trans hkept.config,
        hstep.classifier.trans hkept.classifier,
        hstep.refused.trans (by rw [hkept.refused, Nat.add_assoc])⟩

/-- The settings stay as they are. -/
@[simp]
theorem config_play
    (b : Breaker)
    (moves : List (Reading × Move)) :
    (b.play moves).config = b.config := by
  obtain ⟨_, hkept⟩ := b.kept_play moves
  exact hkept.config

/-! ### New breakers -/

/-- A new breaker with a name and settings. -/
structure Fresh
    (b : Breaker)
    (name : String)
    (config : Config) : Prop where
  name : b.name = name
  config : b.config = config
  circuit : b.circuit = .closed
  opens : b.opens = 0
  refused : b.refused = 0
  trials_pos : 0 < b.config.trials

section Fresh

variable {b : Breaker} {name : String} {config : Config}

theorem fresh_of_create
    {classifier : Option (Classifier Fault)}
    {now : Nat}
    (h : create name config classifier now = .ok b) :
    b.Fresh name config := by
  obtain ⟨hvalid, rfl⟩ := create_eq_ok h
  exact ⟨rfl, rfl, rfl, rfl, rfl, Config.trials_pos hvalid⟩

/-- A run leaves the name and the settings of a new breaker as they were. -/
theorem Fresh.play
    (h : b.Fresh name config)
    (moves : List (Reading × Move)) :
    (b.play moves).name = name ∧ (b.play moves).config = config := by
  obtain ⟨_, hkept⟩ := b.kept_play moves
  exact ⟨hkept.name.trans h.name, hkept.config.trans h.config⟩

end Fresh

end Breaker
end FaultTolerance
