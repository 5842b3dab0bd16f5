import FaultTolerance.Breaker.Call
import FaultTolerance.Proofs.Breaker.ClosedPhase
import FaultTolerance.Proofs.Breaker.HalfOpenPhase

/-!
# Calls through a breaker and the trial permits they hold

Protected calls start, run for a while and then either report how they ended or are lost: a call that
crashed and one whose work was dropped report nothing.  Calls overlap in any order, and transitions
by hand come in between.  The calls are told apart by the stay in the half-open phase in which they
started, numbered from one.

In a half-open stay the trial permits are accounted for: each is still there, held by a running trial
call, used by an outcome in the window, or lost with its call.  Nothing brings a lost permit back,
so a stay ends up without permits, and for good, exactly when enough of its calls were lost.

## Main definitions

* `Traffic`, `Traffic.Move`, `Traffic.play`: a breaker with its running calls, and runs.
* `Traffic.Booked`: the account of the trial permits.

**Results.**
* `Traffic.Booked.step`, `Traffic.Booked.play`: the account is kept by every move and every run.
* `Traffic.play_attempts`, `Traffic.play_losses`: without permits no attempt succeeds, and every lost
  call takes a permit with it.

So the next call is admitted, while none is running, exactly when finished and lost calls leave a
permit over.
-/

namespace FaultTolerance
namespace Breaker

open Time Window

/-- A breaker with the calls that run through it.

A running call is known by the stay in which it started, the number of half-open stays entered by
then.  Of the present stay we keep how many of its trial calls were lost, and the surplus that calls
from before the stay bring into its account: their reports that leave a mark, less the reports of
trial calls that leave none. -/
structure Traffic where
  breaker : Breaker
  running : List Nat
  stay : Nat
  lost : Nat
  surplus : Nat

namespace Traffic

/-- What happens to the calls through a breaker. -/
inductive Move where
  | start
  | finish (index : Nat) (elapsed : Span) (result : Except Fault Unit)
  | abandon (index : Nat)
  | transition (goal : Circuit.Phase)
  | reset

/-- A breaker through which no call runs. -/
def opened (b : Breaker) : Traffic :=
  ⟨b, [], 0, 0, 0⟩

/-- A new half-open stay begins with an empty account. -/
def arrive
    (t : Traffic)
    (after : Breaker) : Traffic :=
  { t with breaker := after, stay := t.stay + 1, lost := 0, surplus := 0 }

/-- The traffic after its breaker was asked for permission, which may begin a new stay. -/
def asked
    (t : Traffic)
    (after : Breaker) : Traffic :=
  if t.breaker.phase = .open ∧ after.phase = .halfOpen then t.arrive after
  else { t with breaker := after }

/-- One more running call. -/
def addCall (t : Traffic) : Traffic :=
  { t with running := t.stay :: t.running }

/-- A call asks for permission, and runs if it is admitted. -/
def start
    (t : Traffic)
    (r : Reading) : Traffic :=
  match (acquire.run r t.breaker).1 with
  | .ok () => (t.asked (acquire.run r t.breaker).2.1).addCall
  | .error _ => t.asked (acquire.run r t.breaker).2.1

/-- Whether the outcome of a call is recorded by a breaker that records. -/
def outcomeCounts
    (b : Breaker)
    (elapsed : Span) : Except Fault Unit → Bool
  | .ok _ => true
  | .error fault => b.counts elapsed fault

/-- Whether a report leaves a mark on a half-open breaker: its outcome is recorded, or it brings back
a permit that was missing. -/
def leavesMark
    (b : Breaker)
    (elapsed : Span)
    (result : Except Fault Unit) : Bool :=
  outcomeCounts b elapsed result || decide (b.circuit ≠ .halfOpen b.config.trials)

/-- A running call ends and reports how. -/
def finish
    (t : Traffic)
    (r : Reading)
    (index : Nat)
    (elapsed : Span)
    (result : Except Fault Unit) : Traffic :=
  match t.running[index]? with
  | none => t
  | some stay =>
    { t with
      breaker := ((report elapsed result).run r t.breaker).2.1
      running := t.running.eraseIdx index
      surplus :=
        t.surplus + (leavesMark t.breaker elapsed result).toNat - (decide (stay = t.stay)).toNat }

/-- A running call ends and reports nothing. -/
def abandon
    (t : Traffic)
    (index : Nat) : Traffic :=
  match t.running[index]? with
  | none => t
  | some stay =>
    { t with
      running := t.running.eraseIdx index
      lost := t.lost + (decide (stay = t.stay)).toNat }

/-- The traffic after a move. -/
def step
    (t : Traffic)
    (m : Reading × Move) : Traffic :=
  match m.2 with
  | .start => t.start m.1
  | .finish index elapsed result => t.finish m.1 index elapsed result
  | .abandon index => t.abandon index
  | .transition goal =>
    let after := ((transition goal).run m.1 t.breaker).2.1
    if goal = .halfOpen then t.arrive after else { t with breaker := after }
  | .reset => { t with breaker := (Breaker.reset.run m.1 t.breaker).2.1 }

/-- The traffic after a run. -/
def play
    (t : Traffic)
    (moves : List (Reading × Move)) : Traffic :=
  moves.foldl step t

/-! ### The account of the trial permits -/

/-- The account of the trial permits of a half-open stay. -/
structure Booked (t : Traffic) : Prop where
  trials_pos : 0 < t.breaker.config.trials
  stay_le : ∀ stay ∈ t.running, stay ≤ t.stay
  account : t.breaker.phase = .halfOpen →
    ∃ remaining finished, t.breaker.Trial remaining finished ∧
      remaining + t.running.count t.stay + finished + t.lost =
        t.breaker.config.trials + t.surplus

variable {t : Traffic}

/-- A report records the outcome of its call, or gives the permit back. -/
theorem run_report
    (b : Breaker)
    (r : Reading)
    (elapsed : Span)
    (result : Except Fault Unit) :
    ∃ failed, ((report elapsed result).run r b).2.1 =
      if outcomeCounts b elapsed result then (b.record r elapsed failed).1 else b.giveBack := by
  cases result with
  | ok value => exact ⟨false, rfl⟩
  | error fault => exact ⟨true, step_error b r elapsed fault⟩

theorem config_report
    (b : Breaker)
    (r : Reading)
    (elapsed : Span)
    (result : Except Fault Unit) :
    ((report elapsed result).run r b).2.1.config = b.config := by
  obtain ⟨failed, hreport⟩ := run_report b r elapsed result
  rw [hreport]
  split_ifs
  · exact (b.kept_record r elapsed failed).config
  · exact b.kept_giveBack.config

/-- A report makes no breaker half-open. -/
theorem phase_report_ne_halfOpen
    {b : Breaker}
    (r : Reading)
    (elapsed : Span)
    (result : Except Fault Unit)
    (h : b.phase ≠ .halfOpen) :
    ((report elapsed result).run r b).2.1.phase ≠ .halfOpen := by
  obtain ⟨failed, hreport⟩ := run_report b r elapsed result
  rw [hreport]
  split_ifs
  · exact phase_record_ne_halfOpen r elapsed failed h
  · rwa [phase_giveBack]

/-- A report leaves a mark unless every permit is there. -/
theorem leavesMark_or_full
    {b : Breaker}
    {remaining finished : Nat}
    (h : b.Trial remaining finished)
    (elapsed : Span)
    (result : Except Fault Unit) :
    leavesMark b elapsed result = true ∨ remaining = b.config.trials := by
  by_cases hfull : remaining = b.config.trials
  · exact .inr hfull
  · have hmissing : b.circuit ≠ .halfOpen b.config.trials := by
      rw [h.circuit]
      simpa using hfull
    unfold leavesMark
    rw [decide_eq_true hmissing, Bool.or_true]
    exact .inl rfl

/-- A report to a half-open breaker ends the phase, or adds its mark to the permits left and the
finished calls. -/
theorem trial_report
    {b : Breaker}
    {remaining finished : Nat}
    (h : b.Trial remaining finished)
    (r : Reading)
    (elapsed : Span)
    (result : Except Fault Unit) :
    ((report elapsed result).run r b).2.1.phase ≠ .halfOpen ∨
      ∃ left done, ((report elapsed result).run r b).2.1.Trial left done ∧
        left + done = remaining + finished + (leavesMark b elapsed result).toNat := by
  obtain ⟨failed, hreport⟩ := run_report b r elapsed result
  rw [hreport]
  unfold leavesMark
  cases hcounts : outcomeCounts b elapsed result with
  | true =>
      simp only [if_true, Bool.true_or, Bool.toNat_true]
      rcases h.record r elapsed failed with hnext | hends
      · exact .inr ⟨remaining, finished + 1, hnext, by omega⟩
      · exact .inl hends
  | false =>
      simp only [Bool.false_eq_true, if_false, Bool.false_or]
      refine .inr ⟨_, finished, h.giveBack, ?_⟩
      have hle := h.remaining_le
      rw [h.circuit]
      split_ifs with hmissing
      · have hmark : Circuit.halfOpen remaining ≠ .halfOpen b.config.trials := by
          simpa using hmissing.ne
        rw [decide_eq_true hmark, Bool.toNat_true]
        omega
      · have hfull : remaining = b.config.trials := by
          omega
        rw [decide_eq_false (by simpa using hfull), Bool.toNat_false]
        omega

/-- A breaker that is not half-open has nothing in the account. -/
theorem booked_of_ne_halfOpen
    (htrials : 0 < t.breaker.config.trials)
    (hstay : ∀ stay ∈ t.running, stay ≤ t.stay)
    (hphase : t.breaker.phase ≠ .halfOpen) :
    t.Booked :=
  ⟨htrials, hstay, fun h => absurd h hphase⟩

/-- A new stay begins with an account in order. -/
theorem Booked.arrive
    (h : t.Booked)
    (r : Reading) :
    (t.arrive (t.breaker.entered r .halfOpen)).Booked := by
  -- Every running call started in an earlier stay.
  have hcount : t.running.count (t.stay + 1) = 0 := by
    refine List.count_eq_zero.mpr fun hmem => ?_
    have hle := h.stay_le _ hmem
    omega
  refine ⟨h.trials_pos, fun stay hmem => (h.stay_le stay hmem).trans (Nat.le_succ _), fun _ => ?_⟩
  refine ⟨_, 0, trial_entered r h.trials_pos, ?_⟩
  show t.breaker.config.trials + t.running.count (t.stay + 1) + 0 + 0 = t.breaker.config.trials + 0
  omega

theorem Booked.stay_le_addCall
    (h : t.Booked) :
    ∀ stay ∈ t.addCall.running, stay ≤ t.addCall.stay := by
  intro stay hmem
  rcases List.mem_cons.mp hmem with rfl | hmem
  · exact le_rfl
  · exact h.stay_le stay hmem

/-- A call that starts in a stay takes the place of the permit it spends. -/
theorem Booked.spend
    (h : t.Booked)
    {remaining : Nat}
    (hcircuit : t.breaker.circuit = .halfOpen (remaining + 1)) :
    { t.addCall with breaker := { t.breaker with circuit := .halfOpen remaining } }.Booked := by
  have hphase : t.breaker.phase = .halfOpen :=
    phase_of_circuit hcircuit
  obtain ⟨_, finished, htrial, haccount⟩ := h.account hphase
  have hremaining := htrial.circuit
  rw [hcircuit] at hremaining
  cases hremaining
  refine ⟨h.trials_pos, h.stay_le_addCall, fun _ => ⟨remaining, finished, htrial.spend, ?_⟩⟩
  show remaining + (t.stay :: t.running).count t.stay + finished + t.lost =
    t.breaker.config.trials + t.surplus
  rw [List.count_cons_self]
  omega

theorem asked_of_ne_open
    (h : t.breaker.phase ≠ .open)
    (after : Breaker) :
    t.asked after = { t with breaker := after } :=
  if_neg fun hwoke => h hwoke.1

theorem Booked.start
    (h : t.Booked)
    (r : Reading) :
    (t.start r).Booked := by
  unfold Traffic.start
  rcases acquire_cases r h.trials_pos with
    ⟨hphase, hrun⟩ | ⟨remaining, hcircuit, hrun⟩ | ⟨hopen, hrun⟩ | ⟨-, hrun⟩
  · have hne : t.breaker.phase ≠ .open ∧ t.breaker.phase ≠ .halfOpen := by
      rcases hphase with hphase | hphase <;> simp [hphase]
    rw [hrun]
    show (t.asked t.breaker).addCall.Booked
    rw [asked_of_ne_open hne.1]
    exact booked_of_ne_halfOpen h.trials_pos h.stay_le_addCall hne.2
  · have hne : t.breaker.phase ≠ .open := by
      simp [phase_of_circuit hcircuit, Circuit.phase]
    rw [hrun]
    show (t.asked { t.breaker with circuit := .halfOpen remaining }).addCall.Booked
    rw [asked_of_ne_open hne]
    exact h.spend hcircuit
  · have hcircuit :
        (t.arrive (t.breaker.entered r .halfOpen)).breaker.circuit =
          .halfOpen (t.breaker.config.trials - 1 + 1) := by
      rw [Nat.sub_add_cancel h.trials_pos]
      rfl
    rw [hrun]
    show (t.asked { t.breaker.entered r .halfOpen with
      circuit := .halfOpen (t.breaker.config.trials - 1) }).addCall.Booked
    rw [asked, if_pos ⟨hopen, rfl⟩]
    exact (h.arrive r).spend hcircuit
  · have hne : ¬ (t.breaker.phase = .open ∧
        Breaker.phase { t.breaker with refused := t.breaker.refused + 1 } = .halfOpen) := by
      rintro ⟨hopen, hhalf⟩
      cases hopen.symm.trans hhalf
    rw [hrun]
    show (t.asked { t.breaker with refused := t.breaker.refused + 1 }).Booked
    rw [asked, if_neg hne]
    refine ⟨h.trials_pos, h.stay_le, fun hphase => ?_⟩
    obtain ⟨remaining, finished, htrial, haccount⟩ := h.account hphase
    exact ⟨remaining, finished,
      ⟨htrial.circuit, htrial.remaining_le, htrial.finished_lt, htrial.shows⟩, haccount⟩

theorem Booked.finish
    (h : t.Booked)
    (r : Reading)
    (index : Nat)
    (elapsed : Span)
    (result : Except Fault Unit) :
    (t.finish r index elapsed result).Booked := by
  unfold Traffic.finish
  cases hcall : t.running[index]? with
  | none => exact h
  | some stay =>
      have hcount := count_eraseIdx hcall t.stay
      refine ⟨?_, fun other hmem => h.stay_le other (List.mem_of_mem_eraseIdx hmem), ?_⟩
      · rw [config_report]
        exact h.trials_pos
      · intro hphase
        by_cases hhalf : t.breaker.phase = .halfOpen
        · obtain ⟨remaining, finished, htrial, haccount⟩ := h.account hhalf
          rcases trial_report htrial r elapsed result with hends | ⟨left, done, hnext, hsum⟩
          · exact absurd hphase hends
          · refine ⟨left, done, hnext, ?_⟩
            have hown := Bool.toNat_le (decide (stay = t.stay))
            show left + (t.running.eraseIdx index).count t.stay + done + t.lost =
              ((report elapsed result).run r t.breaker).2.1.config.trials +
                (t.surplus + (leavesMark t.breaker elapsed result).toNat -
                  (decide (stay = t.stay)).toNat)
            rw [config_report]
            -- A trial call without a mark was held against a full set of permits, so some surplus
            -- made up for it and can be taken down.
            rcases leavesMark_or_full htrial elapsed result with hmark | hfull
            · rw [hmark, Bool.toNat_true] at hsum ⊢
              omega
            · omega
        · exact absurd hphase (phase_report_ne_halfOpen r elapsed result hhalf)

theorem Booked.abandon
    (h : t.Booked)
    (index : Nat) :
    (t.abandon index).Booked := by
  unfold Traffic.abandon
  cases hcall : t.running[index]? with
  | none => exact h
  | some stay =>
      have hcount := count_eraseIdx hcall t.stay
      refine ⟨h.trials_pos, fun other hmem => h.stay_le other (List.mem_of_mem_eraseIdx hmem),
        fun hphase => ?_⟩
      obtain ⟨remaining, finished, htrial, haccount⟩ := h.account hphase
      refine ⟨remaining, finished, htrial, ?_⟩
      show remaining + (t.running.eraseIdx index).count t.stay + finished +
        (t.lost + (decide (stay = t.stay)).toNat) = t.breaker.config.trials + t.surplus
      omega

theorem Booked.step
    (h : t.Booked)
    (m : Reading × Move) :
    (t.step m).Booked := by
  obtain ⟨r, move⟩ := m
  cases move with
  | start => exact h.start r
  | finish index elapsed result => exact h.finish r index elapsed result
  | abandon index => exact h.abandon index
  | transition goal =>
      show (if goal = .halfOpen then t.arrive (t.breaker.moveByHand r goal).1
        else { t with breaker := (t.breaker.moveByHand r goal).1 }).Booked
      split_ifs with hgoal
      · rw [hgoal, moveByHand_fst, if_neg (by simp)]
        exact h.arrive r
      · refine booked_of_ne_halfOpen ?_ h.stay_le ?_
        · rw [(t.breaker.kept_moveByHand r goal).config]
          exact h.trials_pos
        · rwa [phase_moveByHand]
  | reset =>
      refine booked_of_ne_halfOpen h.trials_pos h.stay_le ?_
      exact fun hphase => by cases hphase

/-- Every run keeps the account. -/
theorem Booked.play
    (h : t.Booked)
    (moves : List (Reading × Move)) :
    (t.play moves).Booked := by
  induction moves generalizing t with
  | nil => exact h
  | cons m moves ih => exact ih (h.step m)

@[simp]
theorem breaker_asked
    (t : Traffic)
    (after : Breaker) :
    (t.asked after).breaker = after := by
  unfold asked
  split_ifs <;> rfl

@[simp]
theorem running_asked
    (t : Traffic)
    (after : Breaker) :
    (t.asked after).running = t.running := by
  unfold asked
  split_ifs <;> rfl

@[simp]
theorem breaker_start
    (t : Traffic)
    (r : Reading) :
    (t.start r).breaker = (acquire.run r t.breaker).2.1 := by
  unfold start
  split
  · exact breaker_asked t _
  · exact breaker_asked t _

theorem running_start_ok
    {r : Reading}
    (h : (acquire.run r t.breaker).1 = .ok ()) :
    ∃ stay, (t.start r).running = stay :: t.running := by
  unfold start
  rw [h]
  exact ⟨_, congrArg _ (running_asked t _)⟩

theorem running_start_error
    {r : Reading}
    {rejection : Rejection}
    (h : (acquire.run r t.breaker).1 = .error rejection) :
    (t.start r).running = t.running := by
  unfold start
  rw [h]
  exact running_asked t _

/-- The settings of the breaker stay as they are. -/
@[simp]
theorem config_step
    (t : Traffic)
    (m : Reading × Move) :
    (t.step m).breaker.config = t.breaker.config := by
  obtain ⟨r, move⟩ := m
  cases move with
  | start =>
      show (t.start r).breaker.config = _
      rw [breaker_start, (t.breaker.kept_acquire r).config]
  | finish index elapsed result =>
      show (t.finish r index elapsed result).breaker.config = _
      unfold finish
      split
      · rfl
      · exact config_report t.breaker r elapsed result
  | abandon index =>
      show (t.abandon index).breaker.config = _
      unfold abandon
      split <;> rfl
  | transition goal =>
      have hmoved := (t.breaker.kept_moveByHand r goal).config
      show (if goal = .halfOpen then t.arrive (t.breaker.moveByHand r goal).1
        else { t with breaker := (t.breaker.moveByHand r goal).1 }).breaker.config = _
      split_ifs <;> exact hmoved
  | reset => rfl

@[simp]
theorem config_play
    (t : Traffic)
    (moves : List (Reading × Move)) :
    (t.play moves).breaker.config = t.breaker.config := by
  induction moves generalizing t with
  | nil => rfl
  | cons m moves ih => exact (ih (t.step m)).trans (config_step t m)

/-! ### Lost permits -/

variable {remaining finished : Nat}

/-- With a permit left a call starts. -/
theorem start_of_trial
    (h : t.breaker.Trial (remaining + 1) finished)
    (r : Reading) :
    t.start r = { t.addCall with breaker := { t.breaker with circuit := .halfOpen remaining } } := by
  have hne : t.breaker.phase ≠ .open := by
    simp [h.phase]
  obtain ⟨hanswer, hafter⟩ := h.admitted r
  unfold start
  rw [hanswer, hafter]
  show (t.asked { t.breaker with circuit := .halfOpen remaining }).addCall = _
  rw [asked_of_ne_open hne]
  rfl

/-- Without one no call does. -/
theorem start_of_trial_zero
    (h : t.breaker.Trial 0 finished)
    (r : Reading) :
    t.start r = { t with breaker := { t.breaker with refused := t.breaker.refused + 1 } } := by
  have hne : t.breaker.phase ≠ .open := by
    simp [h.phase]
  obtain ⟨hanswer, hafter⟩ := h.refused r
  unfold start
  rw [hanswer, hafter]
  show t.asked { t.breaker with refused := t.breaker.refused + 1 } = _
  rw [asked_of_ne_open hne]

/-- Calls tried one after the other. -/
def attempts (readings : List Reading) : List (Reading × Move) :=
  readings.map fun r => (r, .start)

/-- Calls that start and are lost, one after the other. -/
def losses
    (r : Reading)
    (n : Nat) : List (Reading × Move) :=
  (List.replicate n [(r, Move.start), (r, .abandon 0)]).flatten

/-- Without permits left no attempt ever succeeds. -/
theorem play_attempts
    (h : t.breaker.Trial 0 finished)
    (readings : List Reading) :
    (t.play (attempts readings)).breaker.Trial 0 finished ∧
      (t.play (attempts readings)).running = t.running := by
  induction readings generalizing t with
  | nil => exact ⟨h, rfl⟩
  | cons r readings ih =>
      have hnext : (t.start r).breaker.Trial 0 finished := by
        rw [start_of_trial_zero h r]
        exact ⟨h.circuit, h.remaining_le, h.finished_lt, h.shows⟩
      have hrunning : (t.start r).running = t.running := by
        rw [start_of_trial_zero h r]
      exact hrunning ▸ ih hnext

/-- Every lost call takes a permit with it. -/
theorem play_losses
    (h : t.breaker.Trial remaining finished)
    (r : Reading) :
    (t.play (losses r remaining)).breaker.Trial 0 finished ∧
      (t.play (losses r remaining)).running = t.running := by
  induction remaining generalizing t with
  | zero => exact ⟨h, rfl⟩
  | succ remaining ih =>
      have hnext : ((t.start r).abandon 0).breaker.Trial remaining finished := by
        rw [start_of_trial h r]
        exact h.spend
      have hrunning : ((t.start r).abandon 0).running = t.running := by
        rw [start_of_trial h r]
        rfl
      exact hrunning ▸ ih hnext

theorem booked_opened
    {b : Breaker}
    (htrials : 0 < b.config.trials)
    (hphase : b.phase ≠ .halfOpen) :
    (opened b).Booked :=
  booked_of_ne_halfOpen htrials (fun _ hmem => by cases hmem) hphase

/-- With no call running in a half-open stay, the permits left are those neither used nor lost. -/
theorem Booked.quiet
    (h : t.Booked)
    (hhalf : t.breaker.phase = .halfOpen)
    (hquiet : t.running = []) :
    ∃ remaining, t.breaker.Trial remaining t.breaker.window.snapshot.total ∧
      remaining + (t.breaker.window.snapshot.total + t.lost) =
        t.breaker.config.trials + t.surplus := by
  obtain ⟨remaining, finished, htrial, haccount⟩ := h.account hhalf
  rw [htrial.total_eq]
  rw [hquiet, List.count_nil] at haccount
  exact ⟨remaining, htrial, by omega⟩

theorem refused_of_trial_zero
    {b : Breaker}
    (h : b.Trial 0 finished)
    (r : Reading) :
    (acquire.run r b).1 ≠ .ok () := by
  rw [(h.refused r).1]
  simp

/-- With no call running in a half-open stay, the next call is admitted exactly when the finished and
the lost calls are fewer than the trial calls and the surplus together.

So a stay that lost no call admits the next one; one without permits left refuses every further call,
however many are tried; and from every stay some lost calls lead there. -/
theorem next_call_admitted_iff
    {name : String}
    {config : Config}
    {classifier : Option (Classifier Fault)}
    {now : Nat}
    {b : Breaker}
    (hcreate : create name config classifier now = .ok b)
    (moves : List (Reading × Move))
    (hhalf : ((opened b).play moves).breaker.phase = .halfOpen)
    (hquiet : ((opened b).play moves).running = []) :
    let t := (opened b).play moves
    let used := t.breaker.window.snapshot.total + t.lost
    (∀ r, (acquire.run r t.breaker).1 = .ok () ↔ used < config.trials + t.surplus) ∧
      (t.lost ≤ t.surplus → used < config.trials + t.surplus) ∧
      (¬ used < config.trials + t.surplus →
        ∀ readings,
          (t.play (attempts readings)).breaker.phase = .halfOpen ∧
            (t.play (attempts readings)).running = [] ∧
              ∀ r, (acquire.run r (t.play (attempts readings)).breaker).1 ≠ .ok ()) ∧
      ∀ r', ∃ n,
        (t.play (losses r' n)).breaker.phase = .halfOpen ∧
          (t.play (losses r' n)).running = [] ∧
            ∀ r, (acquire.run r (t.play (losses r' n)).breaker).1 ≠ .ok () := by
  intro t used
  obtain ⟨hvalid, hconfig, hjust⟩ := justClosed_create hcreate
  have htrials : 0 < b.config.trials := by
    rw [hconfig]
    exact ((Config.validate_eq_ok_iff config).mp hvalid).2.2.2.1
  have hclosed : b.phase ≠ .halfOpen := by
    simp [phase_of_circuit hjust.circuit, Circuit.phase]
  have hsame : t.breaker.config = config :=
    (config_play (opened b) moves).trans hconfig
  obtain ⟨remaining, htrial, haccount⟩ :=
    ((booked_opened htrials hclosed).play moves).quiet hhalf hquiet
  have hfinished := htrial.finished_lt
  change remaining + used = t.breaker.config.trials + t.surplus at haccount
  change t.breaker.window.snapshot.total < t.breaker.config.trials at hfinished
  rw [hsame] at haccount hfinished
  refine ⟨fun r => ?_, fun hlost => ?_, fun hspent readings => ?_, fun r' => ⟨remaining, ?_⟩⟩
  · cases remaining with
    | zero =>
        have hrefused := refused_of_trial_zero htrial r
        constructor
        · exact fun hadmitted => absurd hadmitted hrefused
        · omega
    | succ remaining =>
        constructor
        · omega
        · exact fun _ => (htrial.admitted r).1
  · show t.breaker.window.snapshot.total + t.lost < config.trials + t.surplus
    omega
  · have hzero : remaining = 0 := by
      omega
    subst hzero
    obtain ⟨hlater, hrunning⟩ := play_attempts htrial readings
    exact ⟨hlater.phase, hrunning.trans hquiet, refused_of_trial_zero hlater⟩
  · obtain ⟨hlater, hrunning⟩ := play_losses htrial r'
    exact ⟨hlater.phase, hrunning.trans hquiet, refused_of_trial_zero hlater⟩

/-- A single trial call that crashed: nothing runs, nothing finished, and no further call is
admitted. -/
theorem next_call_admitted_iff_crashed :
    let config := { Config.standard with trials := 1 }
    let b : Breaker := ⟨"one", config, none, .closed, config.closedWindow 0, 0, 0⟩
    let r : Reading := ⟨0, .zero false⟩
    let t := (opened b).play [(r, .transition .halfOpen), (r, .start), (r, .abandon 0)]
    create "one" config none 0 = .ok b ∧ t.breaker.phase = .halfOpen ∧ t.running = [] ∧
      (acquire.run r t.breaker).1 ≠ .ok () := by
  intro config b r t
  have hvalid : config.validate = .ok () := by
    decide +kernel
  have hcreate : create "one" config none 0 = .ok b := by
    unfold create
    rw [hvalid]
    rfl
  have hhalf : t.breaker.phase = .halfOpen := by
    decide +kernel
  have hquiet : t.running = [] := by
    decide +kernel
  have hadmitted := (next_call_admitted_iff hcreate _ hhalf hquiet).1 r
  refine ⟨hcreate, hhalf, hquiet, fun hok => ?_⟩
  exact absurd (hadmitted.mp hok) (by decide +kernel)

end Traffic
end Breaker
end FaultTolerance
