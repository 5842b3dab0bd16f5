import FaultTolerance.Proofs.Breaker.HalfOpenStay

/-!
# Calls that outlive the stay they were admitted in

Calls overlap, so a call may end in another stay than the one it was admitted in.  A breaker does not
tell by whom a report is made: in a half-open stay a report counts like that of a trial call, whenever
its call was admitted.  So outcomes of earlier calls take part in the decision, and permissions that
earlier calls give back let further trial calls run.

## Main definitions

* `Roster`, `Roster.Move`, `Roster.play`: a breaker with its running calls, each with the stay in which
  it was admitted, and with the reports of the present stay.
* `Roster.Balanced`: permits, running trial calls and outcomes of trial calls against the trial calls
  and what earlier calls gave back.

**Results.**
* `Roster.Balanced.step`, `Roster.Balanced.play`: the balance is kept by every move and every run.
-/

namespace FaultTolerance
namespace Breaker

open Time Window

/-- How a running call ends: it reports an outcome, gives its permission back, or is lost. -/
inductive Ending where
  | success (elapsed : Span)
  | error (elapsed : Span) (fault : Fault)
  | release
  | lost

/-- The report of a call that ends. -/
def Ending.report : Ending → Option Move
  | .success elapsed => some (.success elapsed)
  | .error elapsed fault => some (.error elapsed fault)
  | .release => some .release
  | .lost => none

/-- A breaker with the calls that run through it, each known by the stay in which it was admitted, the
number of half-open stays entered by then; and the reports of the present stay, the latest first, each
with the stay of its call. -/
structure Roster where
  breaker : Breaker
  stay : Nat
  running : List Nat
  told : List (Nat × Mark)

namespace Roster

/-- What happens to the calls through a breaker. -/
inductive Move where
  | start
  | finish (index : Nat) (ending : Ending)
  | transition (goal : Circuit.Phase)
  | reset
  | metrics

/-- A breaker through which no call runs. -/
def opened (b : Breaker) : Roster :=
  ⟨b, 0, [], []⟩

/-- The roster after a move of its breaker; in a new half-open stay nothing was reported yet. -/
def turned
    (t : Roster)
    (r : Reading)
    (m : Breaker.Move) : Roster :=
  let turn : Turn := ⟨t.breaker, r, m⟩
  if turn.enters .halfOpen then { t with breaker := turn.after, stay := t.stay + 1, told := [] }
  else { t with breaker := turn.after }

/-- A report of a call that was admitted in a stay. -/
def tell
    (t : Roster)
    (stay : Nat)
    (mark : Mark) : Roster :=
  { t with told := (stay, mark) :: t.told }

/-- A call asks for permission, and runs if it is admitted. -/
def start
    (t : Roster)
    (r : Reading) : Roster :=
  let next := t.turned r .acquire
  if (Turn.answer ⟨t.breaker, r, .acquire⟩).isAdmission
  then { next with running := next.stay :: next.running }
  else next

/-- A running call ends. -/
def finish
    (t : Roster)
    (r : Reading)
    (index : Nat)
    (ending : Ending) : Roster :=
  match t.running[index]? with
  | none => t
  | some stay =>
    let rest := { t with running := t.running.eraseIdx index }
    match ending.report with
    | none => rest
    | some m => (rest.turned r m).tell stay (m.mark t.breaker)

/-- The roster after a move. -/
def step
    (t : Roster)
    (m : Reading × Move) : Roster :=
  match m.2 with
  | .start => t.start m.1
  | .finish index ending => t.finish m.1 index ending
  | .transition goal => t.turned m.1 (.transition goal)
  | .reset => t.turned m.1 .reset
  | .metrics => t.turned m.1 .metrics

/-- The roster after a run. -/
def play
    (t : Roster)
    (moves : List (Reading × Move)) : Roster :=
  moves.foldl step t

/-- The outcomes reported in the present stay, the latest first. -/
def outcomes (t : Roster) : List Call :=
  t.told.filterMap (·.2.call)

/-- The trial calls that run. -/
def inFlight (t : Roster) : Nat :=
  t.running.count t.stay

/-- How many of the outcomes are of trial calls. -/
def ownOutcomes (t : Roster) : Nat :=
  t.told.countP fun p => decide (p.1 = t.stay) && p.2.call.isSome

/-- How often a call from before the present stay gave its permission back. -/
def lateReturns (t : Roster) : Nat :=
  t.told.countP fun p => decide (p.1 ≠ t.stay) && p.2.returns

/-! ### The balance of the permits -/

/-- The trial permits of a half-open stay: those left, those held by running trial calls and those used
for their outcomes are at most the trial calls and the permits that earlier calls brought in. -/
structure Balanced (t : Roster) : Prop where
  trials_pos : 0 < t.breaker.config.trials
  stay_le : ∀ stay ∈ t.running, stay ≤ t.stay
  account : t.breaker.phase = .halfOpen →
    ∃ left, t.breaker.OnTrial left t.outcomes ∧
      left + t.inFlight + t.ownOutcomes ≤ t.breaker.config.trials + t.lateReturns

variable {t : Roster}

theorem turned_of_enters
    {r : Reading}
    {m : Breaker.Move}
    (h : Turn.enters .halfOpen ⟨t.breaker, r, m⟩ = true) :
    t.turned r m = { t with breaker := t.breaker.step (r, m), stay := t.stay + 1, told := [] } :=
  if_pos h

theorem turned_of_not_enters
    {r : Reading}
    {m : Breaker.Move}
    (h : Turn.enters .halfOpen ⟨t.breaker, r, m⟩ = false) :
    t.turned r m = { t with breaker := t.breaker.step (r, m) } :=
  if_neg (by simp [h])

/-- A call is admitted in a stay only with a permit left. -/
theorem admission_le
    {b : Breaker}
    {left : Nat}
    {calls : List Call}
    (h : b.OnTrial left calls)
    (r : Reading)
    {m : Breaker.Move}
    (hmark : m.mark b = .nothing) :
    (Turn.answer ⟨b, r, m⟩).isAdmission.toNat ≤ left := by
  rcases cases_of_nothing hmark with rfl | rfl | rfl | ⟨goal, rfl⟩
  · show (Answer.permission (acquire.run r b).1).isAdmission.toNat ≤ left
    rw [h.acquire_eq r]
    split_ifs with hzero
    · exact Nat.zero_le left
    · exact Nat.one_le_iff_ne_zero.mpr hzero
  · exact Nat.zero_le left
  · exact Nat.zero_le left
  · exact Nat.zero_le left

/-- What one more report adds to the outcomes and to the balance. -/
theorem outcomes_tell
    (t : Roster)
    (stay : Nat)
    (mark : Mark) :
    (t.tell stay mark).outcomes = mark.call.toList ++ t.outcomes := by
  unfold outcomes tell
  cases mark <;> rfl

theorem ownOutcomes_tell
    (t : Roster)
    (stay : Nat)
    (mark : Mark) :
    (t.tell stay mark).ownOutcomes =
      t.ownOutcomes + (decide (stay = t.stay) && mark.call.isSome).toNat := by
  unfold ownOutcomes tell
  rw [List.countP_cons]
  cases decide (stay = t.stay) && mark.call.isSome <;> rfl

theorem lateReturns_tell
    (t : Roster)
    (stay : Nat)
    (mark : Mark) :
    (t.tell stay mark).lateReturns =
      t.lateReturns + (decide (stay ≠ t.stay) && mark.returns).toNat := by
  unfold lateReturns tell
  rw [List.countP_cons]
  cases decide (stay ≠ t.stay) && mark.returns <;> rfl

/-- After a move that reports nothing the balance is short of the permit that the move took. -/
theorem Balanced.turned
    (h : t.Balanced)
    (r : Reading)
    {m : Breaker.Move}
    (hmark : m.mark t.breaker = .nothing) :
    let next := t.turned r m
    let taken := (Turn.answer ⟨t.breaker, r, m⟩).isAdmission.toNat
    0 < next.breaker.config.trials ∧ (∀ stay ∈ next.running, stay ≤ next.stay) ∧
      (next.breaker.phase = .halfOpen →
        ∃ left, next.breaker.OnTrial left next.outcomes ∧
          left + (next.inFlight + taken) + next.ownOutcomes ≤
            next.breaker.config.trials + next.lateReturns) := by
  intro next taken
  let turn : Turn := ⟨t.breaker, r, m⟩
  have htrials : 0 < turn.before.config.trials :=
    h.trials_pos
  have hconfig : turn.after.config = t.breaker.config :=
    turn.kept.config
  have hpermits (left : Nat) :
      turn.permitsLeft t.breaker.config.trials left = left - taken := by
    rw [turn.permitsLeft_eq, show turn.mark = .nothing from hmark]
  rcases turn.begins_or_goes_on htrials with ⟨henters, hbegins⟩ | ⟨henters, hgoes⟩
  · have hnext : next = { t with breaker := turn.after, stay := t.stay + 1, told := [] } :=
      turned_of_enters henters
    -- Every running call was admitted in an earlier stay.
    have hcount : t.running.count (t.stay + 1) = 0 := by
      refine List.count_eq_zero.mpr fun hmem => ?_
      have hle := h.stay_le _ hmem
      omega
    rw [hnext]
    refine ⟨hconfig ▸ htrials, fun stay hmem => (h.stay_le stay hmem).trans (Nat.le_succ _),
      fun _ => ⟨_, hbegins, ?_⟩⟩
    show turn.permitsLeft t.breaker.config.trials t.breaker.config.trials +
      (t.running.count (t.stay + 1) + taken) + 0 ≤ turn.after.config.trials + 0
    have htaken : taken ≤ 1 :=
      Bool.toNat_le _
    rw [hpermits, hcount, hconfig]
    have := h.trials_pos
    omega
  · have hnext : next = { t with breaker := turn.after } :=
      turned_of_not_enters henters
    rw [hnext]
    refine ⟨hconfig ▸ htrials, h.stay_le, fun hphase => ?_⟩
    obtain ⟨hbefore, hon⟩ := hgoes hphase
    obtain ⟨left, htrial, haccount⟩ := h.account hbefore
    have htaken : taken ≤ left :=
      admission_le htrial r hmark
    have houtcome : turn.outcome = none :=
      congrArg Mark.call hmark
    have hafter := hon htrial
    rw [houtcome] at hafter
    refine ⟨_, hafter, ?_⟩
    show turn.permitsLeft t.breaker.config.trials left + (t.inFlight + taken) + t.ownOutcomes ≤
      turn.after.config.trials + t.lateReturns
    rw [hpermits, hconfig]
    omega

/-- A move that takes no permission and reports nothing keeps the balance. -/
theorem Balanced.moved
    (h : t.Balanced)
    (r : Reading)
    {m : Breaker.Move}
    (hmark : m.mark t.breaker = .nothing)
    (hanswer : (Turn.answer ⟨t.breaker, r, m⟩).isAdmission = false) :
    (t.turned r m).Balanced := by
  obtain ⟨htrials, hstay, haccount⟩ := h.turned r hmark
  rw [hanswer] at haccount
  exact ⟨htrials, hstay, haccount⟩

/-- A call that starts in a stay takes the place of the permit it spends. -/
theorem Balanced.start
    (h : t.Balanced)
    (r : Reading) :
    (t.start r).Balanced := by
  obtain ⟨htrials, hstay, haccount⟩ := h.turned r (m := .acquire) rfl
  unfold Roster.start
  dsimp only
  split_ifs with hadmitted
  · rw [hadmitted] at haccount
    refine ⟨htrials, fun stay hmem => ?_, fun hphase => ?_⟩
    · rcases List.mem_cons.mp hmem with rfl | hmem
      · exact le_rfl
      · exact hstay stay hmem
    · obtain ⟨left, htrial, hle⟩ := haccount hphase
      refine ⟨left, htrial, ?_⟩
      show left + ((t.turned r .acquire).stay :: (t.turned r .acquire).running).count
        (t.turned r .acquire).stay + (t.turned r .acquire).ownOutcomes ≤ _
      rw [List.count_cons_self]
      exact hle
  · exact h.moved r rfl (Bool.eq_false_of_not_eq_true hadmitted)

/-- The end of a call is a report, or nothing at all. -/
theorem mark_of_report
    {ending : Ending}
    {m : Breaker.Move}
    (b : Breaker)
    (h : ending.report = some m) :
    m.mark b ≠ .nothing := by
  cases ending with
  | success elapsed =>
      cases h
      simp [Breaker.Move.mark]
  | error elapsed fault =>
      cases h
      simp only [Breaker.Move.mark]
      split_ifs <;> simp
  | release =>
      cases h
      simp [Breaker.Move.mark]
  | lost => cases h

/-- A running call that reports how it ended. -/
theorem finish_of_report
    {index stay : Nat}
    {ending : Ending}
    {m : Breaker.Move}
    (hcall : t.running[index]? = some stay)
    (hreport : ending.report = some m)
    (r : Reading) :
    t.finish r index ending =
      { t with
        breaker := t.breaker.step (r, m)
        running := t.running.eraseIdx index }.tell stay (m.mark t.breaker) := by
  let turn : Turn := ⟨t.breaker, r, m⟩
  have hmark : turn.mark ≠ .nothing :=
    mark_of_report t.breaker hreport
  have hturned :=
    turned_of_not_enters (t := { t with running := t.running.eraseIdx index })
      (Turn.enters_of_report hmark)
  unfold finish
  rw [hcall]
  dsimp only
  rw [hreport]
  dsimp only
  rw [hturned]

/-- A report of a trial call turns its permit into an outcome or frees it; one of an earlier call brings
in at most one permit. -/
theorem account_of_report
    {turn : Turn}
    {left running count own late stay now trials : Nat}
    (hcount : running + (decide (stay = now)).toNat = count)
    (hmark : turn.mark ≠ .nothing)
    (haccount : left + count + own ≤ trials + late) :
    turn.permitsLeft trials left + running +
        (own + (decide (stay = now) && turn.mark.call.isSome).toNat) ≤
      trials + (late + (decide (stay ≠ now) && turn.mark.returns).toNat) := by
  rw [turn.permitsLeft_eq]
  cases hmarked : turn.mark with
  | outcome call =>
      show left + running + (own + (decide (stay = now) && true).toNat) ≤
        trials + (late + (decide (stay ≠ now) && false).toNat)
      rw [Bool.and_true, Bool.and_false, Bool.toNat_false]
      omega
  | returned =>
      have hsplit : (decide (stay = now)).toNat + (decide (stay ≠ now)).toNat = 1 := by
        by_cases hnow : stay = now <;> simp [hnow]
      show min (left + 1) trials + running + (own + (decide (stay = now) && false).toNat) ≤
        trials + (late + (decide (stay ≠ now) && true).toNat)
      rw [Bool.and_true, Bool.and_false, Bool.toNat_false]
      omega
  | nothing => exact absurd hmarked hmark

theorem Balanced.finish
    (h : t.Balanced)
    (r : Reading)
    (index : Nat)
    (ending : Ending) :
    (t.finish r index ending).Balanced := by
  cases hcall : t.running[index]? with
  | none =>
      unfold Roster.finish
      rw [hcall]
      exact h
  | some stay =>
      have hcount := count_eraseIdx hcall t.stay
      have hstay : ∀ other ∈ t.running.eraseIdx index, other ≤ t.stay :=
        fun other hmem => h.stay_le other (List.mem_of_mem_eraseIdx hmem)
      cases hreport : ending.report with
      | none =>
          unfold Roster.finish
          rw [hcall]
          dsimp only
          rw [hreport]
          refine ⟨h.trials_pos, hstay, fun hphase => ?_⟩
          obtain ⟨left, htrial, haccount⟩ := h.account hphase
          refine ⟨left, htrial, ?_⟩
          unfold inFlight at haccount
          show left + (t.running.eraseIdx index).count t.stay + t.ownOutcomes ≤
            t.breaker.config.trials + t.lateReturns
          omega
      | some m =>
          rw [finish_of_report hcall hreport r]
          let turn : Turn := ⟨t.breaker, r, m⟩
          have hconfig : turn.after.config = t.breaker.config :=
            turn.kept.config
          have hmark : turn.mark ≠ .nothing :=
            mark_of_report t.breaker hreport
          refine ⟨hconfig ▸ h.trials_pos, hstay, fun hphase => ?_⟩
          rcases turn.begins_or_goes_on h.trials_pos with ⟨henters, -⟩ | ⟨-, hgoes⟩
          · cases henters.symm.trans (Turn.enters_of_report hmark)
          · obtain ⟨hbefore, hon⟩ := hgoes hphase
            obtain ⟨left, htrial, haccount⟩ := h.account hbefore
            refine ⟨turn.permitsLeft t.breaker.config.trials left, ?_, ?_⟩
            · rw [outcomes_tell]
              exact hon htrial
            · rw [ownOutcomes_tell, lateReturns_tell]
              refine (account_of_report hcount hmark haccount).trans_eq ?_
              exact congrArg (fun config => config.trials + _) hconfig.symm

theorem Balanced.step
    (h : t.Balanced)
    (m : Reading × Move) :
    (t.step m).Balanced := by
  obtain ⟨r, move⟩ := m
  cases move with
  | start => exact h.start r
  | finish index ending => exact h.finish r index ending
  | transition goal => exact h.moved r (m := .transition goal) rfl rfl
  | reset => exact h.moved r (m := .reset) rfl rfl
  | metrics => exact h.moved r (m := .metrics) rfl rfl

/-- Every run keeps the balance. -/
theorem Balanced.play
    (h : t.Balanced)
    (moves : List (Reading × Move)) :
    (t.play moves).Balanced := by
  induction moves generalizing t with
  | nil => exact h
  | cons m moves ih => exact ih (h.step m)

/-- A breaker that is not half-open has nothing in the balance. -/
theorem balanced_opened
    {b : Breaker}
    (htrials : 0 < b.config.trials)
    (hphase : b.phase ≠ .halfOpen) :
    (opened b).Balanced :=
  ⟨htrials, fun _ hmem => absurd hmem List.not_mem_nil, fun h => absurd h hphase⟩

/-! ### The settings -/

theorem config_turned
    (t : Roster)
    (r : Reading)
    (m : Breaker.Move) :
    (t.turned r m).breaker.config = t.breaker.config := by
  unfold Roster.turned
  dsimp only
  split_ifs <;> exact (t.breaker.kept_step (r, m)).config

/-- The settings of the breaker stay as they are. -/
@[simp]
theorem config_step
    (t : Roster)
    (m : Reading × Move) :
    (t.step m).breaker.config = t.breaker.config := by
  obtain ⟨r, move⟩ := m
  cases move with
  | start =>
      show (t.start r).breaker.config = _
      unfold start
      dsimp only
      split_ifs <;> exact t.config_turned r .acquire
  | finish index ending =>
      show (t.finish r index ending).breaker.config = _
      unfold finish
      split
      · rfl
      · dsimp only
        split
        · rfl
        · exact config_turned _ r _
  | transition goal => exact t.config_turned r (.transition goal)
  | reset => exact t.config_turned r .reset
  | metrics => exact t.config_turned r .metrics

@[simp]
theorem config_play
    (t : Roster)
    (moves : List (Reading × Move)) :
    (t.play moves).breaker.config = t.breaker.config := by
  induction moves generalizing t with
  | nil => rfl
  | cons m moves ih => exact (ih (t.step m)).trans (t.config_step m)

/-! ### Reports of calls from any stay -/

/-- When every report of the stay is of a trial call, so is every outcome, and no permit came in. -/
theorem own_of_told
    (h : ∀ report ∈ t.told, report.1 = t.stay) :
    t.ownOutcomes = t.outcomes.length ∧ t.lateReturns = 0 := by
  unfold ownOutcomes outcomes lateReturns
  rw [List.length_filterMap_eq_countP]
  constructor
  · refine List.countP_congr fun report hmem => ?_
    simp [h report hmem]
  · refine List.countP_eq_zero.mpr fun report hmem => ?_
    simp [h report hmem]

/-- What the report of a running call does to a half-open breaker, whenever the call was admitted. -/
theorem finish_of_onTrial
    {left index stay : Nat}
    {ending : Ending}
    {m : Breaker.Move}
    (h : t.breaker.OnTrial left t.outcomes)
    (hcall : t.running[index]? = some stay)
    (hreport : ending.report = some m)
    (r : Reading) :
    let next := (t.finish r index ending).breaker
    let n := t.breaker.config.trials
    next.config = t.breaker.config ∧
      (∀ call, m.mark t.breaker = .outcome call →
        (t.outcomes.length + 1 < n → next.OnTrial left (call :: t.outcomes)) ∧
          (t.outcomes.length + 1 = n →
            next.phase =
              if t.breaker.config.thresholds.evaluate (Snapshot.ofCalls n (call :: t.outcomes)) =
                .aboveThresholds
              then .open
              else .closed)) ∧
      (m.mark t.breaker = .returned →
        next.window = t.breaker.window ∧ next.OnTrial (min (left + 1) n) t.outcomes) := by
  have hnext : (t.finish r index ending).breaker = t.breaker.step (r, m) := by
    rw [finish_of_report hcall hreport r]
    rfl
  intro next n
  rw [show next = t.breaker.step (r, m) from hnext]
  refine ⟨(t.breaker.kept_step (r, m)).config, fun call hmark => ⟨fun hpending => ?_, fun hlast => ?_⟩,
    fun hmark => ⟨?_, h.step_returned hmark r⟩⟩
  · exact h.step_outcome hmark hpending.ne r
  · obtain ⟨hopens, hcloses⟩ := h.step_last hmark hlast r
    split_ifs with habove
    · exact hopens habove
    · exact (hcloses habove).1
  · obtain ⟨_, -, hrun⟩ := run_of_returned r hmark
    rw [show t.breaker.step (r, m) = t.breaker.giveBack from
      congrArg (fun result => result.2.1) hrun, window_giveBack]

/-- In a half-open stay the window holds the outcomes reported since the stay began, and they are fewer
than the trial calls.  Whenever a running call was admitted, its outcome joins the window, or decides
the stay as the last one, and leaves the permits as they are; its permission given back leaves the
window as it is and is one more permit, up to the number of trial calls.  So permits, running trial
calls and outcomes of trial calls are at most the trial calls and the permissions that earlier calls
gave back, and at most the trial calls if no earlier call reported. -/
theorem reports_count_whichever_stay
    {name : String}
    {config : Config}
    {classifier : Option (Classifier Fault)}
    {now : Nat}
    {b : Breaker}
    (hcreate : create name config classifier now = .ok b)
    (moves : List (Reading × Move))
    (hhalf : ((opened b).play moves).breaker.phase = .halfOpen) :
    let t := (opened b).play moves
    let n := config.trials
    ∃ left,
      t.breaker.circuit = .halfOpen left ∧
        t.breaker.window.snapshot = Snapshot.ofCalls n t.outcomes ∧
        t.outcomes.length < n ∧
        (∀ (r : Reading) (index stay : Nat) (ending : Ending) (m : Breaker.Move),
          t.running[index]? = some stay → ending.report = some m →
            let next := (t.finish r index ending).breaker
            (∀ call, m.mark t.breaker = .outcome call →
              let seen := Snapshot.ofCalls n (call :: t.outcomes)
              (t.outcomes.length + 1 < n →
                next.window.snapshot = seen ∧ next.circuit = .halfOpen left) ∧
                (t.outcomes.length + 1 = n →
                  next.phase =
                    if config.thresholds.evaluate seen = .aboveThresholds then .open
                    else .closed)) ∧
              (m.mark t.breaker = .returned →
                next.window = t.breaker.window ∧ next.circuit = .halfOpen (min (left + 1) n))) ∧
        left + t.inFlight + t.ownOutcomes ≤ n + t.lateReturns ∧
        ((∀ report ∈ t.told, report.1 = t.stay) →
          t.ownOutcomes = t.outcomes.length ∧ left + t.inFlight + t.outcomes.length ≤ n) := by
  intro t n
  have hfresh := fresh_of_create hcreate
  have hclosed : b.phase ≠ .halfOpen := by
    simp [phase_of_circuit hfresh.circuit, Circuit.phase]
  have hconfig : t.breaker.config = config :=
    (config_play (opened b) moves).trans hfresh.config
  obtain ⟨left, htrial, haccount⟩ :=
    ((balanced_opened hfresh.trials_pos hclosed).play moves).account hhalf
  change left + t.inFlight + t.ownOutcomes ≤ t.breaker.config.trials + t.lateReturns at haccount
  change t.breaker.OnTrial left t.outcomes at htrial
  rw [hconfig] at haccount
  refine ⟨left, htrial.circuit, ?_, ?_, fun r index stay ending m hcall hreport => ?_, haccount,
    fun hown => ?_⟩
  · rw [htrial.snapshot_eq, hconfig]
  · have hlt := htrial.calls_lt
    rwa [hconfig] at hlt
  · obtain ⟨hsame, hrecorded, hreturned⟩ := finish_of_onTrial htrial hcall hreport r
    rw [hconfig] at hsame hrecorded hreturned
    refine ⟨fun call hmark => ⟨fun hpending => ?_, ?_⟩, fun hmark => ?_⟩
    · have hlater := (hrecorded call hmark).1 hpending
      exact ⟨by rw [hlater.snapshot_eq, hsame], hlater.circuit⟩
    · exact (hrecorded call hmark).2
    · obtain ⟨hwindow, hlater⟩ := hreturned hmark
      exact ⟨hwindow, hlater.circuit⟩
  · obtain ⟨houtcomes, hreturns⟩ := own_of_told hown
    rw [hreturns, houtcomes] at haccount
    exact ⟨houtcomes, haccount⟩

/-- Two trial calls run, and one more since an earlier call gave its permission back; the outcome of
another earlier call joins the window. -/
theorem reports_count_whichever_stay_early :
    let config := { Config.standard with trials := 2 }
    let b : Breaker := ⟨"early", config, none, .closed, config.closedWindow 0, 0, 0⟩
    let r : Reading := ⟨0, .zero false⟩
    let moves : List (Reading × Move) :=
      [(r, .start), (r, .start), (r, .transition .halfOpen), (r, .start), (r, .start),
        (r, .finish 2 .release), (r, .start)]
    let t := (opened b).play moves
    create "early" config none 0 = .ok b ∧ t.breaker.phase = .halfOpen ∧ t.running = [1, 1, 1, 0] ∧
      t.stay = 1 ∧ t.inFlight ≤ config.trials + t.lateReturns ∧
        ∃ call,
          (t.finish r 3 (.success Span.zero)).breaker.window.snapshot =
            Snapshot.ofCalls config.trials [call] := by
  intro config b r moves t
  have hcreate : create "early" config none 0 = .ok b :=
    create_of_validate (by decide +kernel) ..
  have hhalf : t.breaker.phase = .halfOpen := by
    decide +kernel
  have hrunning : t.running = [1, 1, 1, 0] := by
    decide +kernel
  have houtcomes : t.outcomes.length = 0 := by
    decide +kernel
  obtain ⟨left, -, -, -, hreports, haccount, -⟩ :=
    reports_count_whichever_stay hcreate moves hhalf
  have hcall : t.running[3]? = some 0 := by
    rw [hrunning]
    rfl
  obtain ⟨hrecorded, -⟩ := hreports r 3 0 (.success Span.zero) (.success Span.zero) hcall rfl
  obtain ⟨hpending, -⟩ := hrecorded _ rfl
  obtain ⟨hsnapshot, -⟩ := hpending (by rw [houtcomes]; decide)
  rw [List.length_eq_zero_iff.mp houtcomes] at hsnapshot
  refine ⟨hcreate, hhalf, hrunning, by decide +kernel, ?_, ?_⟩
  · exact (Nat.le_add_left ..).trans ((Nat.le_add_right ..).trans haccount)
  · dsimp only [t]
    exact ⟨_, hsnapshot⟩

/-- Reports are not kept to the stay of their call: two calls that were admitted while the breaker was
closed fill the window of the half-open stay and close the breaker before any trial call has started,
and with a permission given back by one of them three trial calls run where two are permitted. -/
theorem early_calls_decide :
    let config := { Config.standard with trials := 2 }
    let b : Breaker := ⟨"early", config, none, .closed, config.closedWindow 0, 0, 0⟩
    let r : Reading := ⟨0, .zero false⟩
    let t := (opened b).play [(r, .start), (r, .start), (r, .transition .halfOpen)]
    let first := t.play [(r, .finish 0 (.success Span.zero))]
    let second := first.play [(r, .finish 0 (.success Span.zero))]
    let crowded := t.play [(r, .start), (r, .start), (r, .finish 2 .release), (r, .start)]
    create "early" config none 0 = .ok b ∧
      (t.breaker.phase = .halfOpen ∧ t.stay = 1 ∧ t.running = [0, 0] ∧
        t.breaker.window.snapshot.total = 0) ∧
      (first.breaker.phase = .halfOpen ∧ first.breaker.window.snapshot.total = 1) ∧
      second.breaker.phase = .closed ∧
      crowded.breaker.phase = .halfOpen ∧ crowded.stay = 1 ∧ crowded.running = [1, 1, 1, 0] := by
  intro config b r t first second crowded
  have hcreate : create "early" config none 0 = .ok b :=
    create_of_validate (by decide +kernel) ..
  exact ⟨hcreate, by decide +kernel, by decide +kernel, by decide +kernel, by decide +kernel⟩

end Roster
end Breaker
end FaultTolerance
