import FaultTolerance.Proofs.Breaker.History
import FaultTolerance.Proofs.Window.SlidingHistory

/-!
# A breaker that is closed by hand starts afresh

A reset and a transition by hand to the closed phase leave nothing of the past but the count of
refused calls: a breaker after them goes on as one newly built at that clock reading.  The count does
not act on anything, so it stays an offset for good.  A transition by hand to any phase empties the
window, whichever of the two windows a breaker has it was.

## Main definitions

* `withRefusals`: a breaker that has refused some calls more.
* `told`: what the moves of a run answer and announce.
* `Renews`: the window of a breaker is emptied to one of the two it starts phases with.

**Results.**
* `run_withRefusals`, `told_withRefusals`: refusals counted before show as an offset.
* `Renews.step`, `Renews.play`: kept by every move and every run.
-/

namespace FaultTolerance

open Time Window

/-! ### Emptying a window -/

namespace Window.Sliding

/-- An emptied window has the shape, size and minimum of a new one. -/
theorem reset_ofShape
    (shape : Shape)
    (size minimum start now : Nat) :
    (ofShape shape size minimum start).reset now = ofShape shape size minimum now := by
  cases shape with
  | countBased =>
      show Sliding.counted (Counted.ofSize size minimum).reset = .counted (Counted.ofSize size minimum)
      unfold Counted.reset
      rw [Counted.size_ofSize, Counted.minimum_ofSize]
      rfl
  | timeBased =>
      show Sliding.timed ((Timed.ofSize size minimum (secondsOf start)).reset (secondsOf now)) = _
      unfold Timed.reset
      rw [Timed.size_ofSize]
      rfl

/-- What was recorded before does not show in an emptied window. -/
theorem reset_record
    (w : Sliding)
    (now later : Nat)
    (duration : Span)
    (outcome : Outcome) :
    (w.record now duration outcome).reset later = w.reset later := by
  cases w with
  | counted w =>
      show Sliding.counted (w.record duration outcome).reset = .counted w.reset
      unfold Counted.reset
      rw [Counted.size_record, Counted.minimum_record]
  | timed w =>
      show Sliding.timed ((w.record (secondsOf now) duration outcome).reset (secondsOf later)) =
        .timed (w.reset (secondsOf later))
      have hsize := Timed.size_step w (.record (secondsOf now) ⟨duration, outcome⟩)
      have hminimum := Timed.minimum_step w (.record (secondsOf now) ⟨duration, outcome⟩)
      unfold Timed.step at hsize hminimum
      unfold Timed.reset
      rw [hsize, hminimum]

theorem reset_catchUp
    (w : Sliding)
    (now later : Nat) :
    (w.catchUp now).reset later = w.reset later := by
  cases w with
  | counted w => rfl
  | timed w =>
      show Sliding.timed ((w.moveTo (secondsOf now)).reset (secondsOf later)) =
        .timed (w.reset (secondsOf later))
      unfold Timed.reset
      rw [Timed.size_moveTo, Timed.minimum_moveTo]

theorem reset_reset
    (w : Sliding)
    (now later : Nat) :
    (w.reset now).reset later = w.reset later := by
  cases w with
  | counted w =>
      show Sliding.counted w.reset.reset = .counted w.reset
      unfold Counted.reset
      rw [Array.size_replicate]
  | timed w =>
      show Sliding.timed ((w.reset (secondsOf now)).reset (secondsOf later)) =
        .timed (w.reset (secondsOf later))
      unfold Timed.reset
      rw [Array.size_replicate]

/-- A new window shows no calls at any later reading. -/
theorem snapshot_ofShape
    {size : Nat}
    (hsize : 0 < size)
    (shape : Shape)
    (minimum start now : Nat) :
    ((ofShape shape size minimum start).catchUp now).snapshot =
      Snapshot.ofCalls (shape.floor size minimum) [] := by
  have hshows := (shows_ofShape hsize minimum start shape).catchUp now
  have hnone (latest : Nat) : shape.held size latest [] = [] := by
    cases shape with
    | countBased => exact List.take_nil
    | timeBased => rfl
  rw [hshows.snapshot_eq, hnone]

end Window.Sliding

namespace Breaker

/-! ### Refusals counted before -/

/-- A breaker that has refused some calls more. -/
def withRefusals
    (b : Breaker)
    (n : Nat) : Breaker :=
  { b with refused := b.refused + n }

/-- An answer of a breaker that has refused some calls more: only its numbers tell. -/
def Answer.withRefusals
    (n : Nat) : Answer → Answer
  | .numbers m => .numbers { m with refused := m.refused + n }
  | .permission result => .permission result
  | .done => .done

section Refusals

variable (b : Breaker) (n : Nat) (r : Reading)

theorem circuit_withRefusals : (b.withRefusals n).circuit = b.circuit :=
  rfl

theorem moveByHand_withRefusals (goal : Circuit.Phase) :
    (b.withRefusals n).moveByHand r goal =
      ((b.moveByHand r goal).1.withRefusals n, (b.moveByHand r goal).2) := by
  rw [moveByHand_eq, moveByHand_eq]
  cases goal <;> rfl

theorem wake_withRefusals :
    (b.withRefusals n).wake r = ((b.wake r).1.withRefusals n, (b.wake r).2) := by
  unfold wake
  rw [circuit_withRefusals]
  cases b.circuit.handle r.now .attemptReset <;> rfl

theorem take_withRefusals :
    (b.withRefusals n).take = b.take.map (·.withRefusals n) := by
  unfold take
  rw [circuit_withRefusals]
  rcases b.circuit with _ | ⟨openedAt, wait⟩ | ⟨_ | remaining⟩ | _ | _ <;> rfl

theorem giveBack_withRefusals : (b.withRefusals n).giveBack = b.giveBack.withRefusals n := by
  obtain ⟨name, config, classifier, circuit, window, opens, refused⟩ := b
  cases circuit with
  | halfOpen remaining =>
      unfold giveBack withRefusals
      dsimp only
      split_ifs <;> rfl
  | closed => rfl
  | «open» openedAt wait => rfl
  | disabled => rfl
  | forcedOpen => rfl

theorem acquire_withRefusals :
    acquire.run r (b.withRefusals n) =
      ((acquire.run r b).1, (acquire.run r b).2.1.withRefusals n, (acquire.run r b).2.2) := by
  obtain ⟨awake, moved, hwake⟩ : ∃ awake moved, b.wake r = (awake, moved) := ⟨_, _, rfl⟩
  have hwake' := b.wake_withRefusals n r
  rw [hwake] at hwake'
  have htake' := awake.take_withRefusals n
  cases htake : awake.take with
  | ok taken =>
      rw [htake] at htake'
      rw [acquire_of_take_ok r hwake' htake', acquire_of_take_ok r hwake htake]
  | error phase =>
      rw [htake] at htake'
      rw [acquire_of_take_error r hwake' htake', acquire_of_take_error r hwake htake]
      have hrefused : awake.refused + n + 1 = awake.refused + 1 + n := by
        omega
      unfold withRefusals
      dsimp only
      rw [hrefused]

theorem record_withRefusals
    (elapsed : Span)
    (failed : Bool) :
    (b.withRefusals n).record r elapsed failed =
      ((b.record r elapsed failed).1.withRefusals n, (b.record r elapsed failed).2) := by
  cases hrecords : b.phase.records with
  | false =>
      have hrecords' : (b.withRefusals n).phase.records = false := hrecords
      rw [record_of_silent r elapsed failed hrecords, record_of_silent r elapsed failed hrecords']
  | true =>
      rcases circuit_of_records hrecords with hcircuit | ⟨remaining, hcircuit⟩
      · have hcircuit' : (b.withRefusals n).circuit = .closed := hcircuit
        rw [record_of_closed r elapsed failed hcircuit, record_of_closed r elapsed failed hcircuit']
        show (if b.config.thresholds.evaluate (b.withCall r elapsed failed).window.snapshot =
          .aboveThresholds then _ else _) = _
        split_ifs <;> rfl
      · have hcircuit' : (b.withRefusals n).circuit = .halfOpen remaining := hcircuit
        rw [record_of_halfOpen r elapsed failed hcircuit,
          record_of_halfOpen r elapsed failed hcircuit']
        show (if (b.withCall r elapsed failed).window.snapshot.total < b.config.trials then _
          else if b.config.thresholds.evaluate (b.withCall r elapsed failed).window.snapshot =
            .aboveThresholds then _ else _) = _
        split_ifs <;> rfl

end Refusals

/-- Refusals counted before show in the numbers only, and stay as they are. -/
theorem run_withRefusals
    (b : Breaker)
    (n : Nat)
    (r : Reading)
    (m : Move) :
    m.run r (b.withRefusals n) =
      ((m.run r b).1.withRefusals n, (m.run r b).2.1.withRefusals n, (m.run r b).2.2) := by
  cases m with
  | acquire =>
      unfold Move.run
      rw [acquire_withRefusals]
      rfl
  | release =>
      unfold Move.run release Operation.run Operation.ofStep
      dsimp only
      rw [giveBack_withRefusals]
      rfl
  | success elapsed =>
      unfold Move.run onSuccess Operation.run
      dsimp only
      rw [record_withRefusals]
      rfl
  | error elapsed fault =>
      have hcounts : (b.withRefusals n).counts elapsed fault = b.counts elapsed fault := rfl
      unfold Move.run onError Operation.run
      dsimp only
      rw [hcounts, record_withRefusals, giveBack_withRefusals]
      split_ifs <;> rfl
  | transition goal =>
      unfold Move.run Breaker.transition Operation.run Operation.ofStep
      dsimp only
      rw [moveByHand_withRefusals]
      rfl
  | reset => rfl
  | metrics => rfl

/-- What the moves of a run answer and announce. -/
def told
    (b : Breaker)
    (moves : List (Reading × Move)) : List (Answer × List Event) :=
  (b.turns moves).map fun t => (t.answer, t.events)

/-- A run of a breaker that has refused some calls more. -/
theorem told_withRefusals
    (b : Breaker)
    (n : Nat)
    (moves : List (Reading × Move)) :
    (b.withRefusals n).told moves =
        (b.told moves).map (fun t => (t.1.withRefusals n, t.2)) ∧
      (b.withRefusals n).play moves = (b.play moves).withRefusals n := by
  induction moves generalizing b with
  | nil => exact ⟨rfl, rfl⟩
  | cons m moves ih =>
      obtain ⟨r, m⟩ := m
      have hrun := b.run_withRefusals n r m
      have hstep : (b.withRefusals n).step (r, m) = (b.step (r, m)).withRefusals n :=
        congrArg (·.2.1) hrun
      obtain ⟨htold, hplay⟩ := ih (b.step (r, m))
      rw [← hstep] at htold hplay
      refine ⟨?_, hplay⟩
      have hfirst :
          (m.run r (b.withRefusals n)).1 = (m.run r b).1.withRefusals n ∧
            (m.run r (b.withRefusals n)).2.2 = (m.run r b).2.2 :=
        ⟨congrArg (·.1) hrun, congrArg (·.2.2) hrun⟩
      show ((m.run r (b.withRefusals n)).1, (m.run r (b.withRefusals n)).2.2) ::
          ((b.withRefusals n).step (r, m)).told moves = _
      rw [hfirst.1, hfirst.2, htold]
      rfl

/-! ### The window of a breaker, emptied -/

/-- The window of a breaker is emptied to a new window of the closed phase, or to one of the half-open
phase. -/
def Renews (b : Breaker) : Prop :=
  (∀ now, b.window.reset now = b.config.closedWindow now) ∨
    ∀ now, b.window.reset now = b.config.trialWindow

section Renews

variable {b : Breaker} (r : Reading)

/-- A window that is emptied to the same as the one before. -/
theorem Renews.of_reset_eq
    (h : b.Renews)
    {after : Breaker}
    (hconfig : after.config = b.config)
    (hreset : ∀ now, after.window.reset now = b.window.reset now) :
    after.Renews := by
  unfold Renews
  simp only [hconfig, hreset]
  exact h

/-- Every phase is entered with a new window, an emptied one, or the one at hand. -/
theorem Renews.entered
    (h : b.Renews)
    (goal : Circuit.Phase) :
    (b.entered r goal).Renews := by
  cases goal with
  | closed => exact .inl fun _ => Sliding.reset_ofShape ..
  | halfOpen =>
      refine .inr fun now => ?_
      exact Sliding.reset_ofShape .countBased b.config.trials b.config.trials r.now now
  | «open» => exact h.of_reset_eq rfl fun _ => rfl
  | disabled => exact h.of_reset_eq rfl fun _ => Sliding.reset_reset ..
  | forcedOpen => exact h.of_reset_eq rfl fun _ => Sliding.reset_reset ..

theorem Renews.moveByHand
    (h : b.Renews)
    (goal : Circuit.Phase) :
    (b.moveByHand r goal).1.Renews := by
  rw [moveByHand_fst]
  split_ifs with hopen
  · exact (h.entered r goal).of_reset_eq rfl fun _ => Sliding.reset_reset ..
  · exact h.entered r goal

theorem Renews.giveBack (h : b.Renews) : b.giveBack.Renews :=
  h.of_reset_eq b.kept_giveBack.config fun _ => by rw [window_giveBack]

theorem Renews.withCall
    (h : b.Renews)
    (elapsed : Span)
    (failed : Bool) :
    (b.withCall r elapsed failed).Renews :=
  h.of_reset_eq rfl fun _ => Sliding.reset_record ..

theorem Renews.record
    (h : b.Renews)
    (elapsed : Span)
    (failed : Bool) :
    (b.record r elapsed failed).1.Renews := by
  have htold := h.withCall r elapsed failed
  cases hrecords : b.phase.records with
  | false =>
      rw [record_of_silent r elapsed failed hrecords]
      exact h
  | true =>
      rcases circuit_of_records hrecords with hcircuit | ⟨remaining, hcircuit⟩
      · rw [record_of_closed r elapsed failed hcircuit]
        split_ifs
        · exact htold.entered r .open
        · exact htold
      · rw [record_of_halfOpen r elapsed failed hcircuit]
        split_ifs
        · exact htold
        · exact htold.entered r .open
        · exact htold.entered r .closed

theorem Renews.acquire
    (h : b.Renews)
    (htrials : 0 < b.config.trials) :
    (acquire.run r b).2.1.Renews := by
  rcases acquire_cases r htrials with ⟨-, hrun⟩ | ⟨_, -, hrun⟩ | ⟨-, hrun⟩ | ⟨-, hrun⟩
  · rw [hrun]
    exact h
  · rw [hrun]
    exact h.of_reset_eq rfl fun _ => rfl
  · rw [hrun]
    exact (h.entered r .halfOpen).of_reset_eq rfl fun _ => rfl
  · rw [hrun]
    exact h.of_reset_eq rfl fun _ => rfl

end Renews

theorem Renews.step
    {b : Breaker}
    (h : b.Renews)
    (htrials : 0 < b.config.trials)
    (m : Reading × Move) :
    (b.step m).Renews := by
  obtain ⟨r, m⟩ := m
  cases m with
  | acquire => exact h.acquire r htrials
  | release => exact h.giveBack
  | success elapsed => exact h.record r elapsed false
  | error elapsed fault =>
      rw [step_error]
      split_ifs
      · exact h.record r elapsed true
      · exact h.giveBack
  | transition goal => exact h.moveByHand r goal
  | reset => exact h.entered r .closed
  | metrics => exact h.of_reset_eq rfl fun _ => Sliding.reset_catchUp ..

theorem Renews.play
    {b : Breaker}
    (h : b.Renews)
    (htrials : 0 < b.config.trials)
    (moves : List (Reading × Move)) :
    (b.play moves).Renews := by
  induction moves using List.reverseRecOn with
  | nil => exact h
  | append_singleton moves m ih =>
      rw [play_concat]
      exact ih.step (by rwa [config_play]) m

/-- A new breaker has a new window. -/
theorem renews_of_create
    {name : String}
    {config : Config}
    {classifier : Option (Classifier Fault)}
    {start : Nat}
    {b : Breaker}
    (h : create name config classifier start = .ok b) :
    b.Renews := by
  obtain ⟨-, rfl⟩ := create_eq_ok h
  exact .inl fun _ => Sliding.reset_ofShape ..

/-- After a transition by hand the window is a new one, of the closed or of the half-open phase. -/
theorem Renews.window_transition
    {b : Breaker}
    (h : b.Renews)
    (r : Reading)
    (goal : Circuit.Phase) :
    let moved := b.step (r, .transition goal)
    moved.window = b.config.closedWindow r.now ∨ moved.window = b.config.trialWindow := by
  intro moved
  have hmoved : moved = (b.moveByHand r goal).1 := rfl
  rw [hmoved, moveByHand_fst]
  have hemptied := h.imp (· r.now) (· r.now)
  cases goal with
  | closed => exact .inl rfl
  | halfOpen => exact .inr rfl
  | «open» => exact hemptied
  | disabled => exact hemptied
  | forcedOpen => exact hemptied

/-- A breaker with a new window shows no calls at any later reading. -/
theorem snapshot_metrics_of_new_window
    {b : Breaker}
    (hvalid : b.config.validate = .ok ())
    {start : Nat}
    (h : b.window = b.config.closedWindow start ∨ b.window = b.config.trialWindow)
    (later : Reading) :
    ∃ floor, (metrics.run later b).1.snapshot = Snapshot.ofCalls floor [] := by
  obtain ⟨-, hsize, -, htrials, -⟩ := (Config.validate_eq_ok_iff b.config).mp hvalid
  show ∃ floor, (b.window.catchUp later.now).snapshot = Snapshot.ofCalls floor []
  rcases h with hwindow | hwindow
  · rw [hwindow]
    exact ⟨_, Sliding.snapshot_ofShape hsize ..⟩
  · rw [hwindow]
    exact ⟨_, Sliding.snapshot_ofShape htrials .countBased b.config.trials start later.now⟩

/-- A breaker closed by hand is a new one that has refused as many calls as the old one. -/
theorem step_closing
    (b : Breaker)
    (r : Reading)
    {m : Move}
    (hm : m = .reset ∨ m = .transition .closed) :
    b.step (r, m) =
      withRefusals ⟨b.name, b.config, b.classifier, .closed, b.config.closedWindow r.now, 0, 0⟩
        b.refused := by
  have hentered : b.step (r, m) = b.entered r .closed := by
    rcases hm with rfl | rfl
    · rfl
    · exact moveByHand_fst b r .closed
  unfold withRefusals
  rw [hentered, Nat.zero_add]
  rfl

/-- **Closing by hand forgets the past.**  Take any run of a new breaker and, after it, a reset or a
transition by hand to the closed phase.  Whatever is done from then on, at whatever clock readings and
draws, every answer and every event is that of a breaker newly built with the same settings at that
clock reading, and so is its state; only the count of refused calls goes on from where it was.  A
transition by hand to any phase, from any phase, leaves a window that is a new one and shows no calls
at any later reading; one to the half-open phase leaves all trial calls to be taken. -/
theorem closing_by_hand_forgets
    {name : String}
    {config : Config}
    {classifier : Option (Classifier Fault)}
    {start : Nat}
    {b : Breaker}
    (hcreate : create name config classifier start = .ok b)
    (past : List (Reading × Move))
    (r : Reading) :
    (∀ m, m = .reset ∨ m = .transition .closed →
      ∃ fresh, create name config classifier r.now = .ok fresh ∧ ∀ future,
        let refused := (b.play past).refused
        let renewed := (b.play past).step (r, m)
        renewed.told future =
            (fresh.told future).map (fun told => (told.1.withRefusals refused, told.2)) ∧
          renewed.play future = (fresh.play future).withRefusals refused) ∧
      ∀ goal,
        let moved := (b.play past).step (r, .transition goal)
        moved.phase = goal ∧
          (moved.window = config.closedWindow r.now ∨ moved.window = config.trialWindow) ∧
          (∀ later, ∃ floor, (metrics.run later moved).1.snapshot = Snapshot.ofCalls floor []) ∧
          (goal = .halfOpen →
            moved.circuit = .halfOpen config.trials ∧ moved.window = config.trialWindow) := by
  obtain ⟨hvalid, hb⟩ := create_eq_ok hcreate
  obtain ⟨refusals, hkept⟩ := b.kept_play past
  have hname : (b.play past).name = name := hkept.name.trans (by rw [hb])
  have hconfig : (b.play past).config = config := hkept.config.trans (by rw [hb])
  have hclassifier : (b.play past).classifier = classifier := hkept.classifier.trans (by rw [hb])
  refine ⟨fun m hm => ⟨_, create_of_validate hvalid name classifier r.now, fun future => ?_⟩,
    fun goal => ?_⟩
  · dsimp only
    rw [step_closing _ r hm, hname, hconfig, hclassifier]
    exact told_withRefusals _ _ future
  · intro moved
    have hmoved : moved.config = config :=
      ((b.play past).kept_step (r, .transition goal)).config.trans hconfig
    have hrenews := (renews_of_create hcreate).play (fresh_of_create hcreate).trials_pos past
    have hwindow := hrenews.window_transition r goal
    rw [hconfig] at hwindow
    refine ⟨phase_moveByHand _ r goal, hwindow, fun later => ?_, ?_⟩
    · rw [← hmoved] at hwindow hvalid
      exact snapshot_metrics_of_new_window hvalid hwindow later
    · rintro rfl
      have hentered : moved = (b.play past).entered r .halfOpen :=
        moveByHand_fst _ r .halfOpen
      rw [hentered, entered_halfOpen, hconfig]
      exact ⟨rfl, rfl⟩

/-- A breaker that opened, refused a call, was made half-open and let one trial call through: after a
reset it goes on as a new one, but for the one refusal, and made half-open once more it has both its
trial calls again. -/
theorem closing_by_hand_forgets_trial :
    let config :=
      { Config.standard with shape := .timeBased, size := 2, minimum := 1, trials := 2 }
    let b : Breaker := ⟨"main", config, none, .closed, config.closedWindow 0, 0, 0⟩
    let r : Reading := ⟨1200000000, .zero false⟩
    let past : List (Reading × Move) :=
      [.error Span.zero .other, .acquire, .transition .halfOpen, .acquire, .success Span.zero].map
        (r, ·)
    let later : Reading := ⟨3000000000, .zero false⟩
    let fresh : Breaker := ⟨"main", config, none, .closed, config.closedWindow later.now, 0, 0⟩
    let future : List (Reading × Move) :=
      [.metrics, .error Span.zero .other, .acquire, .metrics].map (later, ·)
    (b.play past).circuit = .halfOpen 1 ∧ (b.play past).refused = 1 ∧
      ((b.play past).step (later, .reset)).told future =
        (fresh.told future).map (fun told => (told.1.withRefusals 1, told.2)) ∧
      ((b.play past).step (later, .transition .halfOpen)).circuit = .halfOpen 2 := by
  intro config b r past later fresh future
  have hvalid : config.validate = .ok () := by
    decide +kernel
  have hcircuit : (b.play past).circuit = .halfOpen 1 := by
    decide +kernel
  have hrefused : (b.play past).refused = 1 := by
    decide +kernel
  obtain ⟨hclosing, hmoving⟩ :=
    closing_by_hand_forgets (create_of_validate hvalid "main" none 0) past later
  obtain ⟨fresh', hfresh, hlater⟩ := hclosing .reset (.inl rfl)
  obtain rfl : fresh' = fresh :=
    Except.ok.inj (hfresh.symm.trans (create_of_validate hvalid "main" none later.now))
  obtain ⟨htold, -⟩ := hlater future
  rw [hrefused] at htold
  exact ⟨hcircuit, hrefused, htold, ((hmoving .halfOpen).2.2.2 rfl).1⟩

end Breaker
end FaultTolerance
