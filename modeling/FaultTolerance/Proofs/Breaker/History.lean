import FaultTolerance.Proofs.Breaker.Moves

/-!
# Histories of a circuit breaker

The history of a run lists its moves, each with the breaker it was made on, so that everything a
caller or a subscriber saw of the run can be read off it.  A move enters a phase when it leads there
from another phase, and a move by hand also when the breaker is in that phase already.

## Main definitions

* `Turn`: a move with the breaker it was made on.
* `turns`, `history`: the turns of a run, from the first on and from the last back.
* `Turn.enters`, `latestEntry`, `sinceEntry`: entries into a phase.
* `transitions`, `verdicts`: what events tell of the phases and of the acquisitions.

**Results.**
* `Turn.stays_or_arrives`: a move stays in its phase, or enters one and announces that.
* `Turn.answer_of_report`, `Turn.enters_of_report`: reports get no answer and begin no half-open stay.
* `Turn.verdicts_events`: a move announces a verdict exactly when it is an acquisition.
-/

namespace FaultTolerance
namespace Breaker

open Time Window

/-! ### What events tell -/

/-- The transition that an event announces. -/
def Event.edge : Event → Option (Circuit.Phase × Circuit.Phase)
  | .transition source target => some (source, target)
  | _ => none

/-- Whether an event announces the verdict on an acquisition. -/
def Event.isVerdict : Event → Bool
  | .callPermitted | .notPermitted => true
  | _ => false

/-- The transitions announced by events, in order. -/
def transitions (events : List Event) : List (Circuit.Phase × Circuit.Phase) :=
  events.filterMap Event.edge

/-- The verdicts announced by events, in order. -/
def verdicts (events : List Event) : List Event :=
  events.filter Event.isVerdict

@[simp]
theorem transitions_append (first second : List Event) :
    transitions (first ++ second) = transitions first ++ transitions second :=
  List.filterMap_append

@[simp]
theorem verdicts_append (first second : List Event) :
    verdicts (first ++ second) = verdicts first ++ verdicts second :=
  List.filter_append ..

/-- Events of reports are about neither. -/
def Event.Plain (e : Event) : Prop :=
  e.edge = none ∧ e.isVerdict = false

theorem transitions_of_plain
    {events : List Event}
    (h : ∀ e ∈ events, e.Plain) :
    transitions events = [] :=
  List.filterMap_eq_nil_iff.mpr fun e hmem => (h e hmem).1

theorem verdicts_of_plain
    {events : List Event}
    (h : ∀ e ∈ events, e.Plain) :
    verdicts events = [] :=
  List.filter_eq_nil_iff.mpr fun e hmem => by simp [(h e hmem).2]

/-- The events of a finished call: its report, the thresholds reached, and the transition if the
phase ends. -/
theorem plain_of_outcome
    {elapsed : Span}
    {event : Event}
    {reached : List Event}
    (hevent : event = .success elapsed ∨ event = .error elapsed)
    (hreached :
      ∀ e ∈ reached, ∃ rate, e = .failureRateExceeded rate ∨ e = .slowCallRateExceeded rate) :
    ∀ e ∈ event :: reached, e.Plain := by
  intro e hmem
  rcases List.mem_cons.mp hmem with rfl | hmem
  · rcases hevent with rfl | rfl <;> exact ⟨rfl, rfl⟩
  · obtain ⟨rate, rfl | rfl⟩ := hreached e hmem <;> exact ⟨rfl, rfl⟩

/-! ### Turns -/

/-- A move of a run, with the breaker it was made on. -/
structure Turn where
  before : Breaker
  reading : Reading
  move : Move

/-- The phase that a move by hand leads to. -/
def Move.byHand : Move → Option Circuit.Phase
  | .transition goal => some goal
  | .reset => some .closed
  | .acquire | .release | .success _ | .error _ _ | .metrics => none

/-- A report is no move by hand. -/
theorem byHand_of_mark
    {b : Breaker}
    {m : Move}
    (h : m.mark b ≠ .nothing) :
    m.byHand = none := by
  cases m with
  | success elapsed => rfl
  | error elapsed fault => rfl
  | release => rfl
  | acquire => exact absurd rfl h
  | transition goal => exact absurd rfl h
  | reset => exact absurd rfl h
  | metrics => exact absurd rfl h

/-- The verdict announced with an answer. -/
def Answer.verdict : Answer → List Event
  | .permission (.ok _) => [.callPermitted]
  | .permission (.error _) => [.notPermitted]
  | .done | .numbers _ => []

/-- The transitions that come about without a move by hand. -/
def automatic : List (Circuit.Phase × Circuit.Phase) :=
  [(.open, .halfOpen), (.closed, .open), (.halfOpen, .open), (.halfOpen, .closed)]

namespace Turn

/-- The breaker after a turn. -/
def after (t : Turn) : Breaker :=
  t.before.step (t.reading, t.move)

/-- The answer of a turn. -/
def answer (t : Turn) : Answer :=
  (t.move.run t.reading t.before).1

/-- The events of a turn. -/
def events (t : Turn) : List Event :=
  (t.move.run t.reading t.before).2.2

/-- What a turn reported of a call. -/
def mark (t : Turn) : Mark :=
  t.move.mark t.before

/-- What a turn leaves alone. -/
theorem kept (t : Turn) : t.before.Kept t.after t.answer.isRefusal.toNat :=
  kept_step t.before (t.reading, t.move)

/-- Whether a turn enters a phase. -/
def enters
    (goal : Circuit.Phase)
    (t : Turn) : Bool :=
  decide (t.after.phase = goal) &&
    (decide (t.before.phase ≠ goal) || decide (t.move.byHand = some goal))

/-- A turn that stays in its phase. -/
structure Stays (t : Turn) : Prop where
  byHand : t.move.byHand = none
  phase : t.after.phase = t.before.phase
  opens : t.after.opens = t.before.opens
  circuit : t.before.phase ≠ .halfOpen → t.after.circuit = t.before.circuit
  silent : transitions t.events = []

/-- A turn that enters a phase, by hand or along an automatic transition.  Only a change of phase is
announced, and an acquisition that makes the breaker half-open takes a trial permit. -/
structure Arrives
    (t : Turn)
    (goal : Circuit.Phase) : Prop where
  way : t.move.byHand = some goal ∨ t.move.byHand = none ∧ (t.before.phase, goal) ∈ automatic
  phase : t.after.phase = goal
  opens : t.after.opens = (t.before.entered t.reading goal).opens
  circuit : goal = .open → t.after.circuit = (t.before.entered t.reading .open).circuit
  trials : goal = .halfOpen →
    t.after.circuit = .halfOpen (t.before.config.trials - t.answer.isAdmission.toNat) ∧
      t.after.window = t.before.config.trialWindow
  announced :
    transitions t.events = if t.before.phase = goal then [] else [(t.before.phase, goal)]

variable {t : Turn} {goal : Circuit.Phase}

theorem ne_of_mem_automatic
    {source target : Circuit.Phase}
    (h : (source, target) ∈ automatic) :
    source ≠ target := by
  rintro rfl
  cases source <;> simp [automatic] at h

/-- A turn that stays in its phase enters none. -/
theorem Stays.enters
    (h : t.Stays)
    (goal : Circuit.Phase) :
    t.enters goal = false := by
  unfold Turn.enters
  rw [h.byHand, h.phase]
  by_cases hgoal : t.before.phase = goal <;> simp [hgoal]

/-- A turn enters the one phase it arrives in. -/
theorem Arrives.enters
    (h : t.Arrives goal)
    (other : Circuit.Phase) :
    t.enters other = decide (other = goal) := by
  unfold Turn.enters
  rw [h.phase]
  by_cases hother : goal = other
  · subst hother
    rcases h.way with hway | ⟨-, hedge⟩
    · simp [hway]
    · simp [ne_of_mem_automatic hedge]
  · simp [hother, Ne.symm hother]

section Cases

variable {b : Breaker} {r : Reading}

/-- A report of an outcome is recorded, which may end the phase. -/
theorem stays_or_arrives_of_outcome
    {m : Move}
    {call : Call}
    (h : m.mark b = .outcome call) :
    Stays ⟨b, r, m⟩ ∨ ∃ goal, Arrives ⟨b, r, m⟩ goal := by
  obtain ⟨elapsed, failed, event, -, hevent, hrun⟩ := run_of_outcome r h
  have hhand : m.byHand = none :=
    byHand_of_mark (by rw [h]; simp)
  have hafter : after ⟨b, r, m⟩ = (b.record r elapsed failed).1 :=
    congrArg (fun result => result.2.1) hrun
  have hevents : events ⟨b, r, m⟩ = event :: (b.record r elapsed failed).2 :=
    congrArg (fun result => result.2.2) hrun
  rcases record_cases r elapsed failed b with
    ⟨window, hrecord⟩ | ⟨goal, reached, hrecord, hedge, hreached⟩
  · rw [hrecord] at hafter hevents
    refine .inl ⟨hhand, ?_, ?_, fun _ => ?_, ?_⟩
    · rw [hafter]
      rfl
    · rw [hafter]
    · rw [hafter]
    · rw [hevents]
      exact transitions_of_plain (plain_of_outcome hevent fun _ h => absurd h List.not_mem_nil)
  · rw [hrecord] at hafter hevents
    have hmem : (b.phase, goal) ∈ automatic :=
      List.mem_cons_of_mem _ hedge
    refine .inr ⟨goal, .inr ⟨hhand, hmem⟩, ?_, ?_, ?_, ?_, ?_⟩
    · rw [hafter]
      exact phase_entered _ r goal
    · rw [hafter]
      cases goal <;> rfl
    · rintro rfl
      rw [hafter]
      rfl
    · rintro rfl
      simp at hedge
    · rw [if_neg (ne_of_mem_automatic hmem), hevents, ← List.cons_append, transitions_append,
        transitions_of_plain (plain_of_outcome hevent hreached)]
      rfl

/-- A permission given back leaves the phase as it is. -/
theorem stays_of_returned
    {m : Move}
    (h : m.mark b = .returned) :
    Stays ⟨b, r, m⟩ := by
  obtain ⟨events, hevents, hrun⟩ := run_of_returned r h
  have hhand : m.byHand = none :=
    byHand_of_mark (by rw [h]; simp)
  have hafter : after ⟨b, r, m⟩ = b.giveBack :=
    congrArg (fun result => result.2.1) hrun
  have hannounced : Turn.events ⟨b, r, m⟩ = events :=
    congrArg (fun result => result.2.2) hrun
  refine ⟨hhand, ?_, ?_, fun hphase => ?_, ?_⟩
  · rw [hafter]
    exact phase_giveBack b
  · rw [hafter]
    unfold giveBack
    split
    · split_ifs <;> rfl
    · rfl
  · rw [hafter]
    unfold giveBack
    split
    · exact absurd (phase_of_circuit ‹_›) hphase
    · rfl
  · rw [hannounced]
    refine transitions_of_plain fun e hmem => ?_
    obtain ⟨elapsed, rfl⟩ := hevents e hmem
    exact ⟨rfl, rfl⟩

/-- An acquisition stays in its phase unless the wait of an open breaker is over. -/
theorem stays_or_arrives_of_acquire
    (htrials : 0 < b.config.trials) :
    Stays ⟨b, r, .acquire⟩ ∨ Arrives ⟨b, r, .acquire⟩ .halfOpen := by
  have hafter : after ⟨b, r, .acquire⟩ = (acquire.run r b).2.1 := rfl
  have hevents : events ⟨b, r, .acquire⟩ = (acquire.run r b).2.2 := rfl
  rcases acquire_cases r htrials with
    ⟨-, hrun⟩ | ⟨remaining, hcircuit, hrun⟩ | ⟨hopen, hrun⟩ | ⟨-, hrun⟩
  · rw [hrun] at hafter hevents
    refine .inl ⟨rfl, ?_, ?_, fun _ => ?_, ?_⟩
    · rw [hafter]
    · rw [hafter]
    · rw [hafter]
    · rw [hevents]
      rfl
  · rw [hrun] at hafter hevents
    refine .inl ⟨rfl, ?_, ?_, fun hphase => ?_, ?_⟩
    · rw [hafter]
      exact (phase_of_circuit hcircuit).symm
    · rw [hafter]
    · exact absurd (phase_of_circuit hcircuit) hphase
    · rw [hevents]
      rfl
  · rw [hrun] at hafter hevents
    refine .inr ⟨.inr ⟨rfl, ?_⟩, ?_, ?_, fun h => (by cases h), fun _ => ?_, ?_⟩
    · show (b.phase, Circuit.Phase.halfOpen) ∈ automatic
      rw [hopen]
      decide
    · rw [hafter]
      rfl
    · rw [hafter]
    · rw [hafter]
      unfold answer
      show _ = Circuit.halfOpen
        (b.config.trials - (Answer.permission (acquire.run r b).1).isAdmission.toNat) ∧ _
      rw [hrun]
      exact ⟨rfl, rfl⟩
    · rw [hevents]
      show [_] = if b.phase = .halfOpen then [] else [(b.phase, Circuit.Phase.halfOpen)]
      rw [hopen]
      rfl
  · rw [hrun] at hafter hevents
    refine .inl ⟨rfl, ?_, ?_, fun _ => ?_, ?_⟩
    · rw [hafter]
      rfl
    · rw [hafter]
    · rw [hafter]
    · rw [hevents]
      rfl

/-- A transition by hand arrives in its goal. -/
theorem arrives_of_transition (goal : Circuit.Phase) : Arrives ⟨b, r, .transition goal⟩ goal := by
  have hafter : after ⟨b, r, .transition goal⟩ = (b.moveByHand r goal).1 := rfl
  have hevents : events ⟨b, r, .transition goal⟩ = (b.moveByHand r goal).2 := rfl
  refine ⟨.inl rfl, ?_, ?_, ?_, ?_, ?_⟩
  · rw [hafter]
    exact phase_moveByHand b r goal
  · rw [hafter, moveByHand_fst]
    split_ifs <;> rfl
  · rintro rfl
    rw [hafter, moveByHand_fst]
    rfl
  · rintro rfl
    rw [hafter, moveByHand_fst]
    exact ⟨rfl, rfl⟩
  · rw [hevents, moveByHand_eq]
    dsimp only
    split_ifs <;> rfl

theorem arrives_of_reset : Arrives ⟨b, r, .reset⟩ .closed := by
  refine ⟨.inl rfl, rfl, rfl, fun h => (by cases h), fun h => (by cases h), ?_⟩
  show transitions ((if b.phase = .closed then [] else [.transition b.phase .closed]) ++ [.reset]) =
    if b.phase = .closed then [] else [(b.phase, Circuit.Phase.closed)]
  split_ifs <;> rfl

end Cases

/-- A move stays in its phase, or enters one and announces that. -/
theorem stays_or_arrives
    (t : Turn)
    (htrials : 0 < t.before.config.trials) :
    t.Stays ∨ ∃ goal, t.Arrives goal := by
  obtain ⟨b, r, m⟩ := t
  cases hmark : m.mark b with
  | outcome call => exact stays_or_arrives_of_outcome hmark
  | returned => exact .inl (stays_of_returned hmark)
  | nothing =>
      rcases cases_of_nothing hmark with rfl | rfl | rfl | ⟨goal, rfl⟩
      · exact (stays_or_arrives_of_acquire htrials).imp_right fun h => ⟨.halfOpen, h⟩
      · exact .inl ⟨rfl, rfl, rfl, fun _ => rfl, rfl⟩
      · exact .inr ⟨.closed, arrives_of_reset⟩
      · exact .inr ⟨goal, arrives_of_transition goal⟩

/-- A report gets no answer but that it was taken. -/
theorem answer_of_report
    {t : Turn}
    (h : t.mark ≠ .nothing) :
    t.answer = .done := by
  obtain ⟨b, r, m⟩ := t
  cases hmark : m.mark b with
  | outcome call =>
      obtain ⟨_, _, _, -, -, hrun⟩ := run_of_outcome r hmark
      exact congrArg Prod.fst hrun
  | returned =>
      obtain ⟨_, -, hrun⟩ := run_of_returned r hmark
      exact congrArg Prod.fst hrun
  | nothing => exact absurd hmark h

/-- A report begins no half-open stay. -/
theorem enters_of_report
    {t : Turn}
    (h : t.mark ≠ .nothing) :
    t.enters .halfOpen = false := by
  obtain ⟨b, r, m⟩ := t
  have hphase : b.phase ≠ .halfOpen → (after ⟨b, r, m⟩).phase ≠ .halfOpen := by
    intro hne
    cases hmark : m.mark b with
    | outcome call =>
        obtain ⟨elapsed, failed, _, -, -, hrun⟩ := run_of_outcome r hmark
        rw [show after ⟨b, r, m⟩ = (b.record r elapsed failed).1 from
          congrArg (fun result => result.2.1) hrun]
        exact phase_record_ne_halfOpen r elapsed failed hne
    | returned =>
        obtain ⟨_, -, hrun⟩ := run_of_returned r hmark
        rw [show after ⟨b, r, m⟩ = b.giveBack from congrArg (fun result => result.2.1) hrun,
          phase_giveBack]
        exact hne
    | nothing => exact absurd hmark h
  unfold enters
  rw [byHand_of_mark h]
  by_cases hhalf : b.phase = .halfOpen
  · simp [hhalf]
  · simp [hphase hhalf]

/-- A move announces a verdict exactly when it is an acquisition. -/
theorem verdicts_events
    (t : Turn)
    (htrials : 0 < t.before.config.trials) :
    verdicts t.events = t.answer.verdict := by
  obtain ⟨b, r, m⟩ := t
  unfold events answer
  cases hmark : m.mark b with
  | outcome call =>
      obtain ⟨elapsed, failed, event, -, hevent, hrun⟩ := run_of_outcome r hmark
      rw [hrun]
      rcases record_cases r elapsed failed b with
        ⟨window, hrecord⟩ | ⟨goal, reached, hrecord, -, hreached⟩
      · rw [hrecord]
        exact verdicts_of_plain (plain_of_outcome hevent fun _ h => absurd h List.not_mem_nil)
      · rw [hrecord]
        show verdicts (event :: (reached ++ [.transition b.phase goal])) = []
        rw [← List.cons_append, verdicts_append,
          verdicts_of_plain (plain_of_outcome hevent hreached)]
        rfl
  | returned =>
      obtain ⟨events, hevents, hrun⟩ := run_of_returned r hmark
      rw [hrun]
      refine verdicts_of_plain fun e hmem => ?_
      obtain ⟨elapsed, rfl⟩ := hevents e hmem
      exact ⟨rfl, rfl⟩
  | nothing =>
      rcases cases_of_nothing hmark with rfl | rfl | rfl | ⟨goal, rfl⟩
      · show verdicts (acquire.run r b).2.2 = (Answer.permission (acquire.run r b).1).verdict
        rcases acquire_cases r htrials with
          ⟨-, hrun⟩ | ⟨remaining, -, hrun⟩ | ⟨-, hrun⟩ | ⟨-, hrun⟩ <;> rw [hrun] <;> rfl
      · rfl
      · show verdicts ((if b.phase = .closed then [] else [.transition b.phase .closed]) ++
          [.reset]) = []
        split_ifs <;> rfl
      · show verdicts (b.moveByHand r goal).2 = []
        rw [moveByHand_eq]
        dsimp only
        split_ifs <;> rfl

end Turn

/-! ### Histories -/

/-- The turns of a run. -/
def turns (b : Breaker) : List (Reading × Move) → List Turn
  | [] => []
  | m :: moves => ⟨b, m.1, m.2⟩ :: (b.step m).turns moves

/-- The turns of a run, the latest first. -/
def history
    (b : Breaker)
    (moves : List (Reading × Move)) : List Turn :=
  (b.turns moves).reverse

/-- The events of a run. -/
def announced
    (b : Breaker)
    (moves : List (Reading × Move)) : List Event :=
  (b.turns moves).flatMap Turn.events

theorem turns_append
    (b : Breaker)
    (first second : List (Reading × Move)) :
    b.turns (first ++ second) = b.turns first ++ (b.play first).turns second := by
  induction first generalizing b with
  | nil => rfl
  | cons m first ih => exact congrArg _ (ih (b.step m))

theorem history_concat
    (b : Breaker)
    (moves : List (Reading × Move))
    (m : Reading × Move) :
    b.history (moves ++ [m]) = ⟨b.play moves, m.1, m.2⟩ :: b.history moves := by
  unfold history
  rw [turns_append, List.reverse_append]
  rfl

theorem announced_append
    (b : Breaker)
    (first second : List (Reading × Move)) :
    b.announced (first ++ second) = b.announced first ++ (b.play first).announced second := by
  unfold announced
  rw [turns_append, List.flatMap_append]

/-- The latest entry into a phase of a history, if there is one. -/
def latestEntry
    (goal : Circuit.Phase)
    (log : List Turn) : Option Turn :=
  log.find? (Turn.enters goal)

/-- The turns of a history since the latest entry into a phase, the latest first; all of them if
there is none. -/
def sinceEntry
    (goal : Circuit.Phase)
    (log : List Turn) : List Turn :=
  log.takeWhile fun t => !t.enters goal

section Entries

variable {goal : Circuit.Phase} {t : Turn} (log : List Turn)

theorem latestEntry_of_enters (h : t.enters goal = true) :
    latestEntry goal (t :: log) = some t :=
  List.find?_cons_of_pos h

theorem latestEntry_of_not_enters (h : t.enters goal = false) :
    latestEntry goal (t :: log) = latestEntry goal log :=
  List.find?_cons_of_neg (by simp [h])

theorem sinceEntry_of_enters (h : t.enters goal = true) :
    sinceEntry goal (t :: log) = [] :=
  List.takeWhile_cons_of_neg (by simp [h])

theorem sinceEntry_of_not_enters (h : t.enters goal = false) :
    sinceEntry goal (t :: log) = t :: sinceEntry goal log :=
  List.takeWhile_cons_of_pos (by simp [h])

end Entries

end Breaker
end FaultTolerance
