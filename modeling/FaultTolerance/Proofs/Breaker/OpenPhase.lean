import FaultTolerance.Proofs.Breaker.History

/-!
# The open phase

An open breaker waits from the clock reading of its latest opening on.  How long it waits may depend
on the number of openings since it was last closed, whatever phases lie in between.  Until the wait
is over every call is refused; then the next call makes the breaker half-open, as the first trial
call.

**Results.**
* `Waiting`: what the series of openings and the wait are by the history; kept by every turn.
* `waiting_play`: so it is after every run.
-/

namespace FaultTolerance
namespace Breaker

open Time Numeric Window

/-- The openings since a breaker was last closed, as far as they are told apart. -/
def openings (log : List Turn) : Nat :=
  min ((sinceEntry .closed log).countP (Turn.enters .open)) maxOpens

/-- A breaker that has counted its openings, and that waits since the latest of them if it is open. -/
structure Waiting
    (b : Breaker)
    (log : List Turn) : Prop where
  opens : b.opens = openings log
  circuit : ∀ openedAt wait, b.circuit = .open openedAt wait →
    ∃ entry, latestEntry .open log = some entry ∧
      openedAt = entry.reading.now ∧
        wait = (b.config.waitAfter entry.reading.draw (openings log)).ticks

section Openings

variable {t : Turn} {goal : Circuit.Phase} (log : List Turn)

theorem openings_of_stays (h : t.Stays) :
    openings (t :: log) = openings log := by
  unfold openings
  rw [sinceEntry_of_not_enters log (h.enters .closed), List.countP_cons_of_neg]
  simp [h.enters .open]

/-- Entering the closed phase ends the series of openings, and an opening is one more in it. -/
theorem openings_of_arrives (h : t.Arrives goal) :
    openings (t :: log) =
      match goal with
      | .closed => 0
      | .open => min (openings log + 1) maxOpens
      | .halfOpen | .disabled | .forcedOpen => openings log := by
  unfold openings
  cases goal with
  | closed =>
      rw [sinceEntry_of_enters log (h.enters .closed)]
      rfl
  | «open» =>
      rw [sinceEntry_of_not_enters log (h.enters .closed), List.countP_cons_of_pos (h.enters .open)]
      dsimp only
      omega
  | halfOpen =>
      rw [sinceEntry_of_not_enters log (h.enters .closed), List.countP_cons_of_neg]
      simp [h.enters .open]
  | disabled =>
      rw [sinceEntry_of_not_enters log (h.enters .closed), List.countP_cons_of_neg]
      simp [h.enters .open]
  | forcedOpen =>
      rw [sinceEntry_of_not_enters log (h.enters .closed), List.countP_cons_of_neg]
      simp [h.enters .open]

end Openings

/-- A breaker that does not become open keeps what it waits for. -/
theorem Waiting.of_stays
    {t : Turn}
    {log : List Turn}
    (h : t.before.Waiting log)
    (hstays : t.Stays) :
    t.after.Waiting (t :: log) := by
  refine ⟨?_, fun openedAt wait hcircuit => ?_⟩
  · rw [openings_of_stays log hstays, hstays.opens, h.opens]
  · have hopen : t.before.phase = .open :=
      hstays.phase.symm.trans (phase_of_circuit hcircuit)
    rw [hstays.circuit (by simp [hopen])] at hcircuit
    obtain ⟨entry, hentry, hat, hwait⟩ := h.circuit openedAt wait hcircuit
    refine ⟨entry, ?_, hat, ?_⟩
    · rw [latestEntry_of_not_enters log (hstays.enters .open), hentry]
    · rw [openings_of_stays log hstays, hwait, t.kept.config]

/-- An opening begins a wait, and another entry ends it. -/
theorem Waiting.of_arrives
    {t : Turn}
    {log : List Turn}
    {goal : Circuit.Phase}
    (h : t.before.Waiting log)
    (harrives : t.Arrives goal) :
    t.after.Waiting (t :: log) := by
  have hopens : t.after.opens = openings (t :: log) := by
    rw [openings_of_arrives log harrives, harrives.opens, ← h.opens]
    cases goal <;> rfl
  refine ⟨hopens, fun openedAt wait hcircuit => ?_⟩
  have hgoal : goal = .open :=
    harrives.phase.symm.trans (phase_of_circuit hcircuit)
  subst hgoal
  refine ⟨t, latestEntry_of_enters log (harrives.enters .open), ?_⟩
  rw [← hopens, harrives.opens]
  rw [harrives.circuit rfl] at hcircuit
  cases hcircuit
  refine ⟨rfl, ?_⟩
  rw [t.kept.config]
  rfl

/-- Every run keeps the count of the openings and the wait of the latest one. -/
theorem waiting_play
    {b : Breaker}
    (hclosed : b.circuit = .closed)
    (hopens : b.opens = 0)
    (htrials : 0 < b.config.trials)
    (moves : List (Reading × Move)) :
    (b.play moves).Waiting (b.history moves) := by
  induction moves using List.reverseRecOn with
  | nil =>
      refine ⟨hopens, fun openedAt wait hcircuit => ?_⟩
      cases hclosed.symm.trans hcircuit
  | append_singleton moves m ih =>
      rw [play_concat, history_concat]
      let t : Turn := ⟨b.play moves, m.1, m.2⟩
      rcases t.stays_or_arrives (by simpa [t] using htrials) with hstays | ⟨goal, harrives⟩
      · exact ih.of_stays hstays
      · exact ih.of_arrives harrives

/-- An open breaker opened at the clock reading of its latest entry into the phase, and waits for the
span in force after that many openings since it was last closed.  Until then a call is refused, and
nothing but the refusal is counted; afterwards the call makes the breaker half-open and is admitted
as the first trial call. -/
theorem open_since_latest_entry
    {name : String}
    {config : Config}
    {classifier : Option (Classifier Fault)}
    {now : Nat}
    {b : Breaker}
    (hcreate : create name config classifier now = .ok b)
    (moves : List (Reading × Move))
    (hopen : (b.play moves).phase = .open) :
    let s := b.play moves
    let log := b.history moves
    ∃ entry, latestEntry .open log = some entry ∧
      let count := min ((sinceEntry .closed log).countP (Turn.enters .open)) maxOpens
      let wait :=
        match config.openInterval with
        | none => config.openWait.ticks
        | some interval => (interval.wait entry.reading.draw count).ticks
      s.circuit = .open entry.reading.now wait ∧
        ∀ r : Reading,
          acquire.run r s =
            if r.now - entry.reading.now < wait
            then
              (.error (.callNotPermitted name .open), { s with refused := s.refused + 1 },
                [.notPermitted])
            else
              (.ok (),
                { s with circuit := .halfOpen (config.trials - 1), window := config.trialWindow },
                [.transition .open .halfOpen, .callPermitted]) := by
  intro s log
  have hfresh := fresh_of_create hcreate
  obtain ⟨hname, hconfig⟩ := hfresh.play moves
  change s.name = name at hname
  change s.config = config at hconfig
  have hwaiting : s.Waiting log :=
    waiting_play hfresh.circuit hfresh.opens hfresh.trials_pos moves
  obtain ⟨openedAt, wait, hcircuit⟩ := exists_open_of_phase hopen
  obtain ⟨entry, hentry, rfl, hwait⟩ := hwaiting.circuit openedAt wait hcircuit
  have hspan :
      wait =
        match config.openInterval with
        | none => config.openWait.ticks
        | some interval => (interval.wait entry.reading.draw (openings log)).ticks := by
    rw [hwait, hconfig]
    unfold Config.waitAfter
    cases config.openInterval <;> rfl
  refine ⟨entry, hentry, ?_, fun r => ?_⟩
  · rw [hcircuit, hspan]
    rfl
  · have hrun := acquire_of_open r (by rw [config_play]; exact hfresh.trials_pos) hcircuit
    refine hrun.trans ?_
    rw [hname, hconfig, hspan]
    rfl

/-- Three openings by hand with a disabled stay in between: the wait has doubled twice, and runs from
the third one. -/
theorem open_since_latest_entry_third :
    let interval := .exponential (Span.ofSeconds 1) (Binary.ofNat 2) (Span.ofSeconds 60)
    let config := { Config.standard with openInterval := some interval }
    let b : Breaker := ⟨"third", config, none, .closed, config.closedWindow 0, 0, 0⟩
    let r (now : Nat) : Reading := ⟨now, .zero false⟩
    let moves : List (Reading × Move) :=
      [(r 0, .transition .open), (r 5, .transition .disabled), (r 7, .transition .open),
        (r 9, .transition .open)]
    create "third" config none 0 = .ok b ∧ (b.play moves).phase = .open ∧
      (b.play moves).circuit = .open 9 4000000000 ∧
        (acquire.run (r 4000000008) (b.play moves)).1 =
          .error (.callNotPermitted "third" .open) ∧
        (acquire.run (r 4000000009) (b.play moves)).1 = .ok () := by
  intro interval config b r moves
  have hcreate : create "third" config none 0 = .ok b :=
    create_of_validate (by decide +kernel) ..
  have hopen : (b.play moves).phase = .open := by
    decide +kernel
  obtain ⟨entry, hentry, hcircuit, hrun⟩ := open_since_latest_entry hcreate moves hopen
  have hlatest :
      latestEntry .open (b.history moves) =
        some ⟨b.play (moves.take 3), r 9, .transition .open⟩ :=
    rfl
  cases hentry.symm.trans hlatest
  have hwait :
      (interval.wait (r 9).draw
        (min ((sinceEntry .closed (b.history moves)).countP (Turn.enters .open)) maxOpens)).ticks =
          4000000000 := by
    decide +kernel
  change ∀ r : Reading, acquire.run r _ = if r.now - 9 < (interval.wait _ _).ticks then _ else _
    at hrun
  simp only [hwait] at hrun
  refine ⟨hcreate, hopen, hcircuit.trans (congrArg _ hwait), ?_, ?_⟩
  · rw [hrun, if_pos (by decide)]
  · rw [hrun, if_neg (by decide)]

end Breaker
end FaultTolerance
