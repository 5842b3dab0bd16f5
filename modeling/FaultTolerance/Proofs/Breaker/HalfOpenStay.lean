import FaultTolerance.Proofs.Breaker.HalfOpenPhase
import FaultTolerance.Proofs.Breaker.History

/-!
# A half-open stay by its history

A half-open stay lasts from the latest entry into the phase on.  Its window holds the outcomes that
were reported since then, whatever else happened, and its permits are those it began with, one less
for each admitted call and one more for each permission given back.

**Results.**
* `Turn.begins_or_goes_on`: a turn begins a stay, or goes on with the one at hand.
* `Staying`: what the window and the permits are by the history; kept by every turn.
* `staying_play`: so it is after every run.
* `OnTrial.leaves_iff`: when a stay ends without a move by hand.
-/

namespace FaultTolerance
namespace Breaker

open Time Window

namespace Turn

/-- The outcome that a turn reported, if any. -/
def outcome (t : Turn) : Option Call :=
  t.mark.call

/-- The trial permits after a turn of a stay: an admitted call takes one, and one that is given back
is there again, up to the number of trial calls. -/
def permitsLeft
    (trials : Nat)
    (t : Turn)
    (left : Nat) : Nat :=
  if t.answer.isAdmission then left - 1
  else
    match t.mark with
    | .returned => min (left + 1) trials
    | .outcome _ | .nothing => left

end Turn

/-- The calls reported in the stay at the end of a history, the latest first. -/
def stayCalls (log : List Turn) : List Call :=
  (sinceEntry .halfOpen log).filterMap Turn.outcome

/-- The permits left in a stay that began with an entry. -/
def stayPermits
    (trials : Nat)
    (entry : Turn)
    (log : List Turn) : Nat :=
  (sinceEntry .halfOpen log).foldr (Turn.permitsLeft trials) (entry.permitsLeft trials trials)

/-- A breaker whose window and permits, if it is half-open, are those of the present stay. -/
def Staying
    (b : Breaker)
    (log : List Turn) : Prop :=
  b.phase = .halfOpen →
    ∃ entry, latestEntry .halfOpen log = some entry ∧
      b.OnTrial (stayPermits b.config.trials entry log) (stayCalls log)

variable {t : Turn} {remaining : Nat} {calls : List Call}

/-- The permits after a turn, by what it reported. -/
theorem Turn.permitsLeft_eq
    (t : Turn)
    (trials left : Nat) :
    t.permitsLeft trials left =
      match t.mark with
      | .outcome _ => left
      | .returned => min (left + 1) trials
      | .nothing => left - t.answer.isAdmission.toNat := by
  unfold permitsLeft
  cases hmark : t.mark with
  | outcome call =>
      rw [answer_of_report (by rw [hmark]; simp)]
      rfl
  | returned =>
      rw [answer_of_report (by rw [hmark]; simp)]
      rfl
  | nothing => cases t.answer.isAdmission <;> rfl

/-- A turn within a stay: what it reported joins the window, and what it took or gave back is counted
in the permits. -/
theorem OnTrial.after
    (h : t.before.OnTrial remaining calls)
    (hstays : t.Stays) :
    t.after.OnTrial (t.permitsLeft t.before.config.trials remaining)
      (t.outcome.toList ++ calls) := by
  rw [t.permitsLeft_eq]
  unfold Turn.outcome
  obtain ⟨b, r, m⟩ := t
  cases hmark : m.mark b with
  | outcome call =>
      rw [show Turn.mark ⟨b, r, m⟩ = .outcome call from hmark]
      refine h.step_outcome hmark (fun hlast => ?_) r
      exact h.phase_ne_of_last hmark hlast r (hstays.phase.trans h.phase)
  | returned =>
      rw [show Turn.mark ⟨b, r, m⟩ = .returned from hmark]
      exact h.step_returned hmark r
  | nothing =>
      rw [show Turn.mark ⟨b, r, m⟩ = .nothing from hmark]
      rcases cases_of_nothing hmark with rfl | rfl | rfl | ⟨goal, rfl⟩
      · have hnext := h.step_acquire r
        rw [show Turn.answer ⟨b, r, .acquire⟩ = .permission (acquire.run r b).1 from rfl]
        cases remaining with
        | zero =>
            rw [acquire_of_halfOpen_zero r h.circuit]
            exact hnext
        | succ remaining =>
            rw [acquire_of_halfOpen r h.circuit]
            exact hnext
      · obtain ⟨w, hwindow, hshows⟩ := h.window
        refine ⟨h.circuit, h.remaining_le, h.calls_lt, w, ?_, hshows⟩
        show b.window.catchUp r.now = _
        rw [hwindow]
        rfl
      · cases hstays.byHand
      · cases hstays.byHand

/-- A turn that begins a stay. -/
theorem onTrial_of_arrives
    (h : t.Arrives .halfOpen)
    (htrials : 0 < t.before.config.trials) :
    t.after.OnTrial (t.permitsLeft t.before.config.trials t.before.config.trials) [] := by
  obtain ⟨hcircuit, hwindow⟩ := h.trials rfl
  have hpermits :
      t.permitsLeft t.before.config.trials t.before.config.trials =
        t.before.config.trials - t.answer.isAdmission.toNat := by
    unfold Turn.permitsLeft
    cases t.answer.isAdmission with
    | true => rfl
    | false => cases t.mark <;> simp
  rw [← hpermits] at hcircuit
  refine onTrial_of_trialWindow hcircuit ?_ ?_ ?_
  · rw [t.kept.config, hpermits]
    exact Nat.sub_le ..
  · rw [hwindow, t.kept.config]
  · rwa [t.kept.config]

/-- A turn begins a stay, or goes on with the one at hand unless it leaves the phase. -/
theorem Turn.begins_or_goes_on
    (t : Turn)
    (htrials : 0 < t.before.config.trials) :
    t.enters .halfOpen = true ∧
        t.after.OnTrial (t.permitsLeft t.before.config.trials t.before.config.trials) [] ∨
      t.enters .halfOpen = false ∧
        (t.after.phase = .halfOpen →
          t.before.phase = .halfOpen ∧
            ∀ {remaining calls}, t.before.OnTrial remaining calls →
              t.after.OnTrial (t.permitsLeft t.before.config.trials remaining)
                (t.outcome.toList ++ calls)) := by
  rcases t.stays_or_arrives htrials with hstays | ⟨goal, harrives⟩
  · refine .inr ⟨hstays.enters .halfOpen, fun hphase => ⟨hstays.phase.symm.trans hphase, ?_⟩⟩
    exact fun htrial => htrial.after hstays
  · by_cases hgoal : goal = .halfOpen
    · subst hgoal
      exact .inl ⟨harrives.enters .halfOpen, onTrial_of_arrives harrives htrials⟩
    · refine .inr ⟨?_, fun hphase => absurd (harrives.phase.symm.trans hphase) hgoal⟩
      rw [harrives.enters]
      exact decide_eq_false (Ne.symm hgoal)

/-- Every turn keeps the window and the permits in line with the history. -/
theorem Staying.after
    {log : List Turn}
    (h : t.before.Staying log)
    (htrials : 0 < t.before.config.trials) :
    t.after.Staying (t :: log) := by
  intro hphase
  rw [t.kept.config]
  unfold stayPermits stayCalls
  rcases t.begins_or_goes_on htrials with ⟨henters, hbegins⟩ | ⟨henters, hgoes⟩
  · refine ⟨t, latestEntry_of_enters log henters, ?_⟩
    rw [sinceEntry_of_enters log henters]
    exact hbegins
  · obtain ⟨hbefore, hon⟩ := hgoes hphase
    obtain ⟨entry, hentry, htrial⟩ := h hbefore
    have hnext := hon htrial
    refine ⟨entry, (latestEntry_of_not_enters log henters).trans hentry, ?_⟩
    rw [sinceEntry_of_not_enters log henters]
    cases houtcome : t.outcome with
    | none =>
        rw [houtcome] at hnext
        rwa [List.filterMap_cons_none houtcome]
    | some call =>
        rw [houtcome] at hnext
        rwa [List.filterMap_cons_some houtcome]

/-- Every run leaves the window and the permits of its breaker in line with the history. -/
theorem staying_play
    {b : Breaker}
    (hclosed : b.circuit = .closed)
    (htrials : 0 < b.config.trials)
    (moves : List (Reading × Move)) :
    (b.play moves).Staying (b.history moves) := by
  induction moves using List.reverseRecOn with
  | nil =>
      intro hphase
      cases (phase_of_circuit hclosed).symm.trans hphase
  | append_singleton moves m ih =>
      rw [play_concat, history_concat]
      let t : Turn := ⟨b.play moves, m.1, m.2⟩
      exact ih.after (t := t) (by simpa [t] using htrials)

/-- Without a move by hand a stay ends with the last of as many outcomes as there are trial calls, and
not before. -/
theorem OnTrial.leaves_iff
    {b : Breaker}
    (h : b.OnTrial remaining calls)
    (m : Reading × Move)
    (hhand : m.2.byHand = none) :
    (b.step m).phase ≠ .halfOpen ↔
      ∃ call, m.2.mark b = .outcome call ∧ (call :: calls).length = b.config.trials := by
  obtain ⟨r, m⟩ := m
  constructor
  · intro hleaves
    cases hmark : m.mark b with
    | outcome call =>
        refine ⟨call, rfl, ?_⟩
        by_contra hpending
        exact hleaves (h.step_outcome hmark hpending r).phase
    | returned => exact absurd (h.step_returned hmark r).phase hleaves
    | nothing =>
        rcases cases_of_nothing hmark with rfl | rfl | rfl | ⟨goal, rfl⟩
        · exact absurd (h.step_acquire r).phase hleaves
        · exact absurd h.phase hleaves
        · cases hhand
        · cases hhand
  · rintro ⟨call, hmark, hlast⟩
    exact h.phase_ne_of_last hmark hlast r

/-- In a half-open stay the window holds exactly the outcomes reported since the latest entry into
the phase, and they are fewer than the trial calls; the permits left are those of the entry, one
less for each admitted call and one more, up to the number of trial calls, for each permission given
back.  A call is refused exactly when none is left.  Without a move by hand the stay ends with the
outcome that fills the window: the breaker opens if the outcomes are above the thresholds and
otherwise closes, with an empty window and no openings counted. -/
theorem halfOpen_since_latest_entry
    {name : String}
    {config : Config}
    {classifier : Option (Classifier Fault)}
    {now : Nat}
    {b : Breaker}
    (hcreate : create name config classifier now = .ok b)
    (moves : List (Reading × Move))
    (hhalf : (b.play moves).phase = .halfOpen) :
    let s := b.play moves
    let since := sinceEntry .halfOpen (b.history moves)
    let calls := since.filterMap Turn.outcome
    let n := config.trials
    ∃ entry, latestEntry .halfOpen (b.history moves) = some entry ∧
      let left := since.foldr (Turn.permitsLeft n) (entry.permitsLeft n n)
      (∃ w, s.window = .counted w ∧ w.Shows calls ∧ w.capacity = n) ∧
        s.window.snapshot = Snapshot.ofCalls n calls ∧
        calls.length < n ∧
        s.circuit = .halfOpen left ∧
        (∀ r,
          acquire.run r s =
            if left = 0
            then
              (.error (.callNotPermitted name .halfOpen), { s with refused := s.refused + 1 },
                [.notPermitted])
            else (.ok (), { s with circuit := .halfOpen (left - 1) }, [.callPermitted])) ∧
        (∀ m : Reading × Move, m.2.byHand = none →
          ((s.step m).phase ≠ .halfOpen ↔
            ∃ call, m.2.mark s = .outcome call ∧ (call :: calls).length = n)) ∧
        ∀ (r : Reading) (m : Move) (call : Call),
          m.mark s = .outcome call → (call :: calls).length = n →
            let verdict := config.thresholds.evaluate (Snapshot.ofCalls n (call :: calls))
            (verdict = .aboveThresholds → (s.step (r, m)).phase = .open) ∧
              (verdict ≠ .aboveThresholds →
                (s.step (r, m)).phase = .closed ∧
                  (s.step (r, m)).window = config.closedWindow r.now ∧
                    (s.step (r, m)).opens = 0) := by
  intro s since calls n
  have hfresh := fresh_of_create hcreate
  obtain ⟨hname, hconfig⟩ := hfresh.play moves
  change s.name = name at hname
  change s.config = config at hconfig
  obtain ⟨entry, hentry, hstay⟩ := staying_play hfresh.circuit hfresh.trials_pos moves hhalf
  have htrial : s.OnTrial (since.foldr (Turn.permitsLeft n) (entry.permitsLeft n n)) calls := by
    rwa [show (b.play moves).config = config from hconfig] at hstay
  refine ⟨entry, hentry, ?_, ?_, ?_, htrial.circuit, fun r => ?_, fun m hhand => ?_,
    fun r m call hmark hlast => ?_⟩
  · obtain ⟨w, hwindow, hshows, hsize, -⟩ := htrial.window
    exact ⟨w, hwindow, hshows, hsize.trans (by rw [hconfig])⟩
  · rw [htrial.snapshot_eq, hconfig]
  · have hlt := htrial.calls_lt
    rwa [hconfig] at hlt
  · refine (htrial.acquire_eq r).trans ?_
    rw [hname]
  · rw [htrial.leaves_iff m hhand, hconfig]
  · have hends := htrial.step_last hmark (hlast.trans (by rw [hconfig])) r
    rwa [hconfig] at hends

/-- Two trial calls, the first of which found the wait over: one failed, so that no further call is
admitted and the breaker opens with the success of the other. -/
theorem halfOpen_since_latest_entry_two :
    let config := { Config.standard with trials := 2 }
    let b : Breaker := ⟨"two", config, none, .closed, config.closedWindow 0, 0, 0⟩
    let r (now : Nat) : Reading := ⟨now, .zero false⟩
    let moves : List (Reading × Move) :=
      [(r 0, .transition .open), (r 60000000000, .acquire), (r 60000000001, .acquire),
        (r 60000000002, .error Span.zero .other)]
    create "two" config none 0 = .ok b ∧ (b.play moves).phase = .halfOpen ∧
      (acquire.run (r 60000000003) (b.play moves)).1 =
        .error (.callNotPermitted "two" .halfOpen) ∧
      ((b.play moves).step (r 60000000004, .success Span.zero)).phase = .open := by
  intro config b r moves
  have hcreate : create "two" config none 0 = .ok b :=
    create_of_validate (by decide +kernel) ..
  have hhalf : (b.play moves).phase = .halfOpen := by
    decide +kernel
  obtain ⟨entry, -, -, -, -, hcircuit, hacquire, -, hends⟩ :=
    halfOpen_since_latest_entry hcreate moves hhalf
  have hspent : (b.play moves).circuit = .halfOpen 0 := by
    decide +kernel
  have hleft := Circuit.halfOpen.inj (hcircuit.symm.trans hspent)
  have hopen := (hends (r 60000000004) (.success Span.zero) _ rfl (by decide +kernel)).1
  refine ⟨hcreate, hhalf, ?_, hopen (by decide +kernel)⟩
  rw [hacquire, if_pos hleft]

end Breaker
end FaultTolerance
