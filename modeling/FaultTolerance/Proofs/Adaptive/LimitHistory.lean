import FaultTolerance.Proofs.Bulkhead.Acquisitions
import FaultTolerance.Proofs.Settings
import FaultTolerance.Proofs.Window.Arithmetic

/-!
# The limits of an adaptive bulkhead

The limit of an adaptive bulkhead is settled by the verdicts on its finished calls, and a verdict by
the calls that were reported: whatever else happens to the bulkhead, the limit is where the policy has
led it from one verdict to the next, held within the bounds.  A verdict is the evaluation of the window
with the reported call in it; as long as the counters of the window can hold its calls, this is the
judgement on the calls of the history.

## Main definitions

* `Move`, `play`: what can happen to an adaptive bulkhead, and runs of it.
* `verdicts`, `announced`, `holding`: what is answered and announced in a run, and the permits held.
* `Config.evaluations`: the verdicts, from the snapshots of the window.
* `Config.judgements`: the verdicts, from the history of reports.
* `CountsWithin`: runs whose reports are counted within the counters of the window.
* `Config.steps`: the limits that the policy leads to.
* `Follows`: what is known of a bulkhead after a run.

**Results.**
* `exists_complete`, `Follows.complete`: what a report does.
* `Follows.limit_play`, `Follows.changes_eq`: the limit of a run, and the changes that are announced.
* `Follows.evaluations_eq`, `Follows.verdicts_eq`: the verdicts of a run.
* `Follows.countsWithin_iff`: when the reports of a run can be counted.
-/

namespace FaultTolerance
namespace Adaptive

open Time Window

/-! ### Runs -/

/-- What can happen to an adaptive bulkhead: a caller looks for a free permit, the permit of a call
that did not run returns, a finished call is reported, or the numbers are read. -/
inductive Move where
  | look
  | release
  | complete (elapsed : Span) (failed : Bool)
  | metrics

/-- What a move answers if it is a report, what it leaves, and what it announces. -/
def Move.run
    (r : Reading)
    (a : Adaptive) : Move → List Verdict × Adaptive × List Event
  | .look => ([], { a with pool := a.pool.tryTake.2 }, [])
  | .release => ([], (Adaptive.release.run r a).2)
  | .complete elapsed failed =>
    let (verdict, reported) := (Adaptive.complete elapsed failed).run r a
    ([verdict], reported)
  | .metrics => ([], (Adaptive.metrics.run r a).2)

/-- The permits held after a move: one more if a permit was granted, and one less if one returned. -/
def Move.holding
    (a : Adaptive)
    (held : Nat) : Move → Nat
  | .look => if a.pool.tryTake.1 then held + 1 else held
  | .release | .complete _ _ => held - 1
  | .metrics => held

/-- The bulkhead after a move. -/
def step
    (a : Adaptive)
    (m : Reading × Move) : Adaptive :=
  (m.2.run m.1 a).2.1

/-- The bulkhead after a run. -/
def play
    (a : Adaptive)
    (moves : List (Reading × Move)) : Adaptive :=
  moves.foldl step a

/-- The verdicts that the reports of a run answer. -/
def verdicts
    (a : Adaptive) : List (Reading × Move) → List Verdict
  | [] => []
  | m :: moves => (m.2.run m.1 a).1 ++ (a.step m).verdicts moves

/-- What is announced in a run. -/
def announced
    (a : Adaptive) : List (Reading × Move) → List Event
  | [] => []
  | m :: moves => (m.2.run m.1 a).2.2 ++ (a.step m).announced moves

/-- The permits held after a run. -/
def holding
    (a : Adaptive)
    (held : Nat) : List (Reading × Move) → Nat
  | [] => held
  | m :: moves => (a.step m).holding (m.2.holding a held) moves

/-- Every call that is reported in a run is counted within the counters of the window. -/
def CountsWithin
    (a : Adaptive)
    (moves : List (Reading × Move)) : Prop :=
  ∀ past r elapsed failed, past ++ [(r, .complete elapsed failed)] <+: moves →
    (a.play past).window.AddsWithin r.now
      ⟨elapsed, Outcome.classify elapsed a.config.slowDuration failed⟩

/-- The change of the limit that an event tells. -/
def Event.change : Event → Option (Nat × Nat)
  | .limitChanged old new => some (old, new)
  | _ => none

/-- The verdict that an event tells. -/
def Event.verdict : Event → Option Verdict
  | .callFinished verdict => some verdict
  | _ => none

theorem play_cons
    (a : Adaptive)
    (m : Reading × Move)
    (moves : List (Reading × Move)) :
    a.play (m :: moves) = (a.step m).play moves :=
  rfl

theorem play_append
    (a : Adaptive)
    (first second : List (Reading × Move)) :
    a.play (first ++ second) = (a.play first).play second :=
  List.foldl_append

theorem verdicts_append
    (a : Adaptive)
    (first second : List (Reading × Move)) :
    a.verdicts (first ++ second) = a.verdicts first ++ (a.play first).verdicts second := by
  induction first generalizing a with
  | nil => rfl
  | cons m moves ih => rw [List.cons_append, verdicts, verdicts, ih, List.append_assoc, play_cons]

theorem announced_append
    (a : Adaptive)
    (first second : List (Reading × Move)) :
    a.announced (first ++ second) = a.announced first ++ (a.play first).announced second := by
  induction first generalizing a with
  | nil => rfl
  | cons m moves ih =>
      rw [List.cons_append, announced, announced, ih, List.append_assoc, play_cons]

/-! ### What the reports tell -/

namespace Config

variable (c : Config)

/-- The history of reports after a move. -/
def told
    (h : Timed.History) : Reading × Move → Timed.History
  | (r, .complete elapsed failed) =>
    h.step (.record (secondsOf r.now) ⟨elapsed, Outcome.classify elapsed c.slowDuration failed⟩)
  | (r, .metrics) => h.step (.read (secondsOf r.now))
  | _ => h

/-- The verdicts that a window leads to in a run: after each report, the evaluation of its snapshot with
the reported call in it. -/
def evaluations
    (w : Sliding) : List (Reading × Move) → List Verdict
  | [] => []
  | (r, .complete elapsed failed) :: moves =>
    let later := w.record r.now elapsed (Outcome.classify elapsed c.slowDuration failed)
    c.thresholds.evaluate later.snapshot :: evaluations later moves
  | (r, .metrics) :: moves => evaluations (w.catchUp r.now) moves
  | (_, .look) :: moves | (_, .release) :: moves => evaluations w moves

/-- The judgement on the calls that a window holds after a history of reports. -/
def judgement (h : Timed.History) : Verdict :=
  c.thresholds.evaluate
    (Snapshot.ofCalls (c.shape.floor c.size c.minimum) (c.shape.held c.size h.latest h.filed))

/-- The judgements of a run: after each report, one on the calls reported so far. -/
def judgements
    (h : Timed.History) : List (Reading × Move) → List Verdict
  | [] => []
  | m :: moves =>
    let later := c.told h m
    match m.2 with
    | .complete _ _ => c.judgement later :: judgements later moves
    | _ => judgements later moves

/-- Where a policy leads the limit on one verdict, which is numbered. -/
def follow
    (policy : LimitPolicy)
    (current : Nat)
    (verdict : Verdict × Nat) : Nat :=
  c.clamp (policy.next verdict.2 current verdict.1)

/-- The steps that the limit takes, from each value to the next one. -/
def steps
    (policy : LimitPolicy)
    (current : Nat) : List (Verdict × Nat) → List (Nat × Nat)
  | [] => []
  | verdict :: later =>
    (current, c.follow policy current verdict) ::
      steps policy (c.follow policy current verdict) later

/-- A policy that does not look at how often it was asked leads the limit by the verdicts alone. -/
theorem foldl_follow_of_next
    {policy : LimitPolicy}
    {pick : Nat → Verdict → Nat}
    (hpick : policy.next = fun _ => pick)
    (verdicts : List Verdict)
    (current : Nat) :
    verdicts.zipIdx.foldl (c.follow policy) current =
      verdicts.foldl (fun current verdict => c.clamp (pick current verdict)) current := by
  have hfollow :
      c.follow policy = fun current verdict => c.clamp (pick current verdict.1) := by
    unfold follow
    rw [hpick]
  conv_rhs => rw [← List.zipIdx_map_fst 0 verdicts, List.foldl_map]
  rw [hfollow]

/-- The steps that change the limit lead from its first value to its last one, each from where the
one before it ended. -/
theorem cons_map_changes
    (policy : LimitPolicy)
    (current : Nat)
    (verdicts : List (Verdict × Nat)) :
    let changes := (c.steps policy current verdicts).filter fun step => step.1 ≠ step.2
    current :: changes.map Prod.snd =
      changes.map Prod.fst ++ [verdicts.foldl (c.follow policy) current] := by
  induction verdicts generalizing current with
  | nil => rfl
  | cons verdict later ih =>
      have hlater := ih (c.follow policy current verdict)
      dsimp only at hlater ⊢
      rw [steps, List.foldl_cons]
      by_cases hsame : current = c.follow policy current verdict
      · rw [List.filter_cons_of_neg (by simpa using hsame)]
        rwa [← hsame] at hlater ⊢
      · rw [List.filter_cons_of_pos (by simpa using hsame), List.map_cons, List.map_cons,
          List.cons_append, hlater]

theorem judgements_cons
    (h : Timed.History)
    (m : Reading × Move)
    (moves : List (Reading × Move)) :
    c.judgements h (m :: moves) = c.judgements h [m] ++ c.judgements (c.told h m) moves := by
  obtain ⟨r, m⟩ := m
  cases m <;> rfl

theorem steps_append
    (policy : LimitPolicy)
    (current : Nat)
    (first second : List (Verdict × Nat)) :
    c.steps policy current (first ++ second) =
      c.steps policy current first ++
        c.steps policy (first.foldl (c.follow policy) current) second := by
  induction first generalizing current with
  | nil => rfl
  | cons verdict later ih => rw [List.cons_append, steps, steps, ih, List.cons_append, List.foldl_cons]

variable {c} (hvalid : c.validate = .ok ())
include hvalid

/-- With accepted settings a limit is held within the bounds. -/
theorem clamp_bounds (limit : Nat) :
    (c.least ≤ c.clamp limit ∧ c.clamp limit ≤ c.most) ∧ 0 < c.clamp limit := by
  obtain ⟨-, -, -, hleast, hmost, -, -⟩ := (validate_eq_ok_iff c).mp hvalid
  unfold clamp
  omega

end Config

/-! ### What a move does -/

/-- What is known of a bulkhead after a run: its settings and its policy, how many judgements there
were, the permits held, and that its window shows the history of reports. -/
structure Follows
    (c : Config)
    (policy : LimitPolicy)
    (h : Timed.History)
    (judged held : Nat)
    (a : Adaptive) : Prop where
  config : a.config = c
  policy : a.policy = policy
  judged : a.judged = judged
  bounds : c.least ≤ a.pool.limit ∧ a.pool.limit ≤ c.most
  inUse : a.pool.inUse = held
  window :
    Sliding.Shows c.size (c.shape.floor c.size c.minimum) h.latest h.filed c.shape a.window

/-- A new bulkhead has its initial limit, and nothing was reported to it. -/
theorem follows_of_create
    {name : String}
    {c : Config}
    {policy : LimitPolicy}
    {now : Nat}
    {a : Adaptive}
    (hcreate : create name c policy now = .ok a) :
    c.validate = .ok () ∧ a.pool.limit = c.initial ∧
      Follows c policy ⟨secondsOf now, []⟩ 0 0 a := by
  unfold create at hcreate
  rw [checked_bind_eq_ok_iff] at hcreate
  obtain ⟨hvalid, hcreated⟩ := hcreate
  obtain ⟨-, hsize, -, hleast, -, hbounds⟩ := (Config.validate_eq_ok_iff c).mp hvalid
  have hinitial : (⟨c.initial, c.wait⟩ : Bulkhead.Config).validate = .ok () :=
    (Bulkhead.Config.validate_eq_ok_iff _).mpr (lt_of_lt_of_le hleast hbounds.1)
  unfold Bulkhead.create at hcreated
  rw [hinitial] at hcreated
  cases hcreated
  refine ⟨hvalid, rfl, rfl, rfl, rfl, hbounds, rfl, ?_⟩
  exact Sliding.shows_ofShape hsize c.minimum now c.shape

section Moves

variable {c : Config} {policy : LimitPolicy} {h : Timed.History} {judged held : Nat}
variable {a : Adaptive}

/-- The policy's pick is applied: the limit moves there, and a change is announced. -/
theorem adjust_eq
    (hvalid : a.config.validate = .ok ())
    (verdict : Verdict) :
    let next := a.config.follow a.policy a.pool.limit (verdict, a.judged)
    ∃ pool, pool.limit = next ∧ pool.inUse = a.pool.inUse ∧
      a.adjust verdict =
        ({ a with judged := a.judged + 1, pool },
          if next = a.pool.limit then [] else [.limitChanged a.pool.limit next]) := by
  intro next
  have hpositive : 0 < next := (Config.clamp_bounds hvalid _).2
  have haccepted : (⟨next, a.config.wait⟩ : Bulkhead.Config).validate = .ok () :=
    (Bulkhead.Config.validate_eq_ok_iff _).mpr hpositive
  by_cases hsame : next = a.pool.limit
  · refine ⟨a.pool, hsame.symm, rfl, ?_⟩
    rw [if_pos hsame]
    exact if_pos hsame
  · refine ⟨{ a.pool with limit := next, wait := a.config.wait }, rfl, rfl, ?_⟩
    have hchanged :
        a.pool.withConfig ⟨next, a.config.wait⟩ =
          (.ok (), { a.pool with limit := next, wait := a.config.wait }) := by
      unfold Bulkhead.withConfig
      rw [haccepted]
    have hnext : a.config.clamp (a.policy.next a.judged a.pool.limit verdict) = next := rfl
    unfold adjust
    dsimp only
    rw [hnext, if_neg hsame, if_neg hsame, hchanged]

/-- A report: the window is judged with the reported call in it, the permit returns, and the limit
moves to where the policy leads it. -/
theorem exists_complete
    (hvalid : a.config.validate = .ok ())
    (r : Reading)
    (elapsed : Span)
    (failed : Bool) :
    let outcome := Outcome.classify elapsed a.config.slowDuration failed
    let window := a.window.record r.now elapsed outcome
    let verdict := a.config.thresholds.evaluate window.snapshot
    let next := a.config.follow a.policy a.pool.limit (verdict, a.judged)
    ∃ pool, pool.limit = next ∧ pool.inUse = a.pool.inUse - 1 ∧
      (complete elapsed failed).run r a =
        (verdict, { a with window, judged := a.judged + 1, pool }, .callFinished verdict ::
          if next = a.pool.limit then [] else [.limitChanged a.pool.limit next]) := by
  intro outcome window verdict next
  obtain ⟨pool, hlimit, hinUse, hadjust⟩ :=
    adjust_eq (a := { a with window, pool := a.pool.giveBack }) hvalid verdict
  refine ⟨pool, hlimit, hinUse, ?_⟩
  show (verdict, (adjust _ verdict).1, Event.callFinished verdict :: (adjust _ verdict).2) = _
  rw [hadjust]
  rfl

/-- A report adds to the history of reports, and its verdict is the judgement on it. -/
theorem Follows.complete
    (hfollows : Follows c policy h judged held a)
    (hvalid : c.validate = .ok ())
    (r : Reading)
    (elapsed : Span)
    (failed : Bool) :
    let later := c.told h (r, .complete elapsed failed)
    let verdict := c.judgement later
    let next := c.follow policy a.pool.limit (verdict, judged)
    ∃ after,
      (complete elapsed failed).run r a =
          (verdict, after, .callFinished verdict ::
            if next = a.pool.limit then [] else [.limitChanged a.pool.limit next]) ∧
        after.pool.limit = next ∧ Follows c policy later (judged + 1) (held - 1) after := by
  intro later verdict next
  obtain ⟨rfl, rfl, rfl, hbounds, rfl, hwindow⟩ := hfollows
  have hrecorded :=
    hwindow.record r.now ⟨elapsed, Outcome.classify elapsed a.config.slowDuration failed⟩
  obtain ⟨pool, hlimit, hinUse, hrun⟩ := exists_complete hvalid r elapsed failed
  rw [hrecorded.snapshot_eq] at hlimit hrun
  refine ⟨_, hrun, hlimit, rfl, rfl, rfl, ?_, hinUse, hrecorded⟩
  exact hlimit ▸ (Config.clamp_bounds hvalid _).1

/-- A move keeps what is known of a bulkhead. -/
theorem Follows.step
    (hfollows : Follows c policy h judged held a)
    (hvalid : c.validate = .ok ())
    (m : Reading × Move) :
    Follows c policy (c.told h m) (judged + (c.judgements h [m]).length) (m.2.holding a held)
      (a.step m) := by
  obtain ⟨r, m⟩ := m
  cases m with
  | complete elapsed failed =>
      obtain ⟨after, hrun, -, hlater⟩ := hfollows.complete hvalid r elapsed failed
      have hstep : a.step (r, .complete elapsed failed) = after := congrArg (·.2.1) hrun
      exact hstep ▸ hlater
  | look =>
      obtain ⟨hconfig, hpolicy, hjudged, hbounds, hinUse, hwindow⟩ := hfollows
      have hstep : a.step (r, .look) = { a with pool := a.pool.tryTake.2 } := rfl
      unfold Move.holding
      rw [hstep]
      rcases Nat.lt_or_ge a.pool.inUse a.pool.limit with hfree | hfull
      · rw [Bulkhead.tryTake_of_lt hfree]
        exact ⟨hconfig, hpolicy, hjudged, hbounds, congrArg (· + 1) hinUse, hwindow⟩
      · rw [Bulkhead.tryTake_of_le hfull]
        exact ⟨hconfig, hpolicy, hjudged, hbounds, hinUse, hwindow⟩
  | release =>
      obtain ⟨hconfig, hpolicy, hjudged, hbounds, hinUse, hwindow⟩ := hfollows
      exact ⟨hconfig, hpolicy, hjudged, hbounds, congrArg (· - 1) hinUse, hwindow⟩
  | metrics =>
      obtain ⟨hconfig, hpolicy, hjudged, hbounds, hinUse, hwindow⟩ := hfollows
      exact ⟨hconfig, hpolicy, hjudged, hbounds, hinUse, hwindow.catchUp r.now⟩

/-- Looking for a permit, granted or not, does not move the limit. -/
theorem limit_tryTake (b : Bulkhead) : b.tryTake.2.limit = b.limit := by
  unfold Bulkhead.tryTake
  split_ifs
  · rfl
  · rfl

/-- A move answers the judgement on the history, if it is a report; it leads the limit where the
policy does on that verdict, and announces the verdict and the step if that is a change. -/
theorem Follows.judged_step
    (hfollows : Follows c policy h judged held a)
    (hvalid : c.validate = .ok ())
    (m : Reading × Move) :
    let verdicts := c.judgements h [m]
    let events := (m.2.run m.1 a).2.2
    (m.2.run m.1 a).1 = verdicts ∧
      (a.step m).pool.limit = (verdicts.zipIdx judged).foldl (c.follow policy) a.pool.limit ∧
      events.filterMap Event.verdict = verdicts ∧
      events.filterMap Event.change =
        (c.steps policy a.pool.limit (verdicts.zipIdx judged)).filter fun step =>
          step.1 ≠ step.2 := by
  obtain ⟨r, m⟩ := m
  cases m with
  | look => exact ⟨rfl, limit_tryTake a.pool, rfl, rfl⟩
  | release => exact ⟨rfl, rfl, rfl, rfl⟩
  | metrics => exact ⟨rfl, rfl, rfl, rfl⟩
  | complete elapsed failed =>
      intro verdicts events
      obtain ⟨after, hrun, hlimit, -⟩ := hfollows.complete hvalid r elapsed failed
      let next := c.follow policy a.pool.limit
        (c.judgement (c.told h (r, .complete elapsed failed)), judged)
      have hmove : (Move.complete elapsed failed).run r a = (verdicts, after, _) :=
        congrArg (fun reported => ([reported.1], reported.2)) hrun
      have hevents : events = _ := congrArg (·.2.2) hmove
      refine ⟨congrArg (·.1) hmove, (congrArg (·.2.1.pool.limit) hmove).trans hlimit, ?_⟩
      have hsteps :
          c.steps policy a.pool.limit (verdicts.zipIdx judged) = [(a.pool.limit, next)] :=
        rfl
      rw [hevents, hsteps]
      by_cases hsame : next = a.pool.limit
      · rw [if_pos hsame, List.filter_cons_of_neg (by simpa using hsame.symm)]
        exact ⟨rfl, rfl⟩
      · rw [if_neg hsame, List.filter_cons_of_pos (by simpa using Ne.symm hsame)]
        exact ⟨rfl, rfl⟩

/-! ### What a run does -/

section Runs

variable (hfollows : Follows c policy h judged held a) (hvalid : c.validate = .ok ())
variable (moves : List (Reading × Move))
include hfollows hvalid

theorem Follows.play :
    Follows c policy (moves.foldl c.told h) (judged + (c.judgements h moves).length)
      (a.holding held moves) (a.play moves) := by
  induction moves generalizing a h judged held with
  | nil => exact hfollows
  | cons m moves ih =>
      rw [c.judgements_cons, List.length_append, ← Nat.add_assoc]
      exact ih (hfollows.step hvalid m)

/-- The verdicts of a run are the evaluations of the window. -/
theorem Follows.evaluations_eq : a.verdicts moves = c.evaluations a.window moves := by
  induction moves generalizing a h judged held with
  | nil => rfl
  | cons m moves ih =>
      have hlater := ih (hfollows.step hvalid m)
      obtain ⟨r, m⟩ := m
      cases m with
      | complete elapsed failed =>
          obtain ⟨pool, -, -, hrun⟩ := exists_complete (hfollows.config ▸ hvalid) r elapsed failed
          rw [hfollows.config] at hrun
          let later := a.window.record r.now elapsed (Outcome.classify elapsed c.slowDuration failed)
          have hverdict :
              ((Move.complete elapsed failed).run r a).1 = [c.thresholds.evaluate later.snapshot] :=
            congrArg (fun report : Verdict × Adaptive × List Event => [report.1]) hrun
          have hwindow : (a.step (r, .complete elapsed failed)).window = later :=
            congrArg (fun report => report.2.1.window) hrun
          rw [verdicts, hverdict, hlater, hwindow]
          rfl
      | look => exact hlater
      | release => exact hlater
      | metrics => exact hlater

/-- The reports of a run are counted within the counters exactly if the window never holds more calls
than can be counted, the reported one included. -/
theorem Follows.countsWithin_iff (hwidth : c.size ≤ maxCount) :
    a.CountsWithin moves ↔
      ∀ past r elapsed failed, past ++ [(r, .complete elapsed failed)] <+: moves →
        c.shape.crowd c.size (c.told (past.foldl c.told h) (r, .complete elapsed failed)) ≤
          maxCount := by
  have hiff (past : List (Reading × Move)) (r : Reading) (elapsed : Span) (failed : Bool) :
      (a.play past).window.AddsWithin r.now
          ⟨elapsed, Outcome.classify elapsed a.config.slowDuration failed⟩ ↔
        c.shape.crowd c.size (c.told (past.foldl c.told h) (r, .complete elapsed failed)) ≤
          maxCount := by
    rw [hfollows.config]
    exact (hfollows.play hvalid past).window.addsWithin_iff hwidth r.now _
  constructor
  · intro hcounts past r elapsed failed hbegins
    exact (hiff past r elapsed failed).mp (hcounts past r elapsed failed hbegins)
  · intro hheld past r elapsed failed hbegins
    exact (hiff past r elapsed failed).mpr (hheld past r elapsed failed hbegins)

/-- The verdicts of a run are the judgements on the history of its reports. -/
theorem Follows.verdicts_eq : a.verdicts moves = c.judgements h moves := by
  induction moves generalizing a h judged held with
  | nil => rfl
  | cons m moves ih =>
      rw [verdicts, c.judgements_cons, ih (hfollows.step hvalid m),
        (hfollows.judged_step hvalid m).1]

/-- The limit of a run is where the policy leads it from one verdict to the next. -/
theorem Follows.limit_play :
    (a.play moves).pool.limit =
      ((a.verdicts moves).zipIdx judged).foldl (c.follow policy) a.pool.limit := by
  induction moves generalizing a h judged held with
  | nil => rfl
  | cons m moves ih =>
      obtain ⟨hverdicts, hlimit, -⟩ := hfollows.judged_step hvalid m
      rw [play_cons, ih (hfollows.step hvalid m), hlimit, verdicts, hverdicts, List.zipIdx_append,
        List.foldl_append]

/-- Every verdict of a run is announced. -/
theorem Follows.finished_eq :
    (a.announced moves).filterMap Event.verdict = a.verdicts moves := by
  induction moves generalizing a h judged held with
  | nil => rfl
  | cons m moves ih =>
      obtain ⟨hverdicts, -, hfinished, -⟩ := hfollows.judged_step hvalid m
      rw [announced, List.filterMap_append, ih (hfollows.step hvalid m), hfinished, verdicts,
        hverdicts]

/-- The changes that are announced in a run are the steps that change the limit. -/
theorem Follows.changes_eq :
    (a.announced moves).filterMap Event.change =
      (c.steps policy a.pool.limit ((a.verdicts moves).zipIdx judged)).filter fun step =>
        step.1 ≠ step.2 := by
  induction moves generalizing a h judged held with
  | nil => rfl
  | cons m moves ih =>
      obtain ⟨hverdicts, hlimit, -, hchanges⟩ := hfollows.judged_step hvalid m
      rw [announced, List.filterMap_append, ih (hfollows.step hvalid m), hchanges, verdicts,
        hverdicts, List.zipIdx_append, c.steps_append, List.filter_append, hlimit]

end Runs
end Moves
end Adaptive
end FaultTolerance
