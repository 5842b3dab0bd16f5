import FaultTolerance.Proofs.Retry.Reference

/-!
# The counters of a retry

A retry counts the executions that ended: one counter goes up by one when an execution ends, and none
at any other time.  Executions interleave freely, and one may be abandoned, interrupted or crash at
any time; it is then never counted.  The counters of successes are moved by the values that are
answered and not selected for another attempt.  An error that does not count is a failure at once,
however many attempts were made.  Apart from that the counters tell whether there was more than one.

## Main definitions

* `Counter`, `Metrics.count`: one of the four counters, and one more on it.
* `Execution`, `Ending`, `Tells`: an execution, its end, and what the counter that it moves tells of it.
* `Book`, `Move`, `Book.play`: a retry with the executions that were started, and its runs.
* `Hosts`, `Counts`: calls and waits that may run executions, in a world that counts the calls.

**Results.**
* `decide_cases`: what an attempt does to the counters.
* `Book.Told.step`, `Book.Told.play`: every execution that ended is counted once.
* `Hosts.leaves_execute`: a whole execution at a site is a run, also when it halts.
* `Hosts.extends_execute`: executions may be run inside one another.
* `counters_tell`: the counters after every run.
-/

namespace FaultTolerance
namespace Retry

open Time

variable {ω ε τ : Type}

/-! ### Counters -/

/-- One of the four counters. -/
inductive Counter where
  | succeededAtOnce
  | succeededLater
  | failedAtOnce
  | failedLater
deriving DecidableEq

namespace Counter

/-- Whether a counter counts successes. -/
def isSuccess : Counter → Bool
  | .succeededAtOnce | .succeededLater => true
  | .failedAtOnce | .failedLater => false

/-- Whether a counter counts executions with more than one attempt. -/
def isLater : Counter → Bool
  | .succeededLater | .failedLater => true
  | .succeededAtOnce | .failedAtOnce => false

/-- The number on a counter. -/
def read
    (m : Metrics) : Counter → Nat
  | .succeededAtOnce => m.succeededAtOnce
  | .succeededLater => m.succeededLater
  | .failedAtOnce => m.failedAtOnce
  | .failedLater => m.failedLater

end Counter

/-- One more on a counter. -/
def Metrics.count
    (m : Metrics) : Counter → Metrics
  | .succeededAtOnce => { m with succeededAtOnce := m.succeededAtOnce + 1 }
  | .succeededLater => { m with succeededLater := m.succeededLater + 1 }
  | .failedAtOnce => { m with failedAtOnce := m.failedAtOnce + 1 }
  | .failedLater => { m with failedLater := m.failedLater + 1 }

theorem read_count
    (m : Metrics)
    (moved counter : Counter) :
    counter.read (m.count moved) = counter.read m + if moved = counter then 1 else 0 := by
  cases moved <;> cases counter <;> rfl

theorem read_none (counter : Counter) : counter.read Metrics.none = 0 := by
  cases counter <;> rfl

/-! ### Executions -/

/-- How an execution ended: the time that its last attempt took, the outcome of that attempt, and the
answer. -/
structure Ending (ε τ : Type) where
  spent : Span
  outcome : Except ε τ
  answer : Except (CallError ε) τ

/-- An execution: the calls it has made, and its end, if it ended with an answer. -/
structure Execution (ε τ : Type) where
  calls : Nat
  ending : Option (Ending ε τ)

/-- The last outcome is an error that does not count. -/
def Ending.Ignored
    (p : Retry ε τ)
    (calls : Nat)
    (x : Ending ε τ) : Prop :=
  ∃ e, x.outcome = .error e ∧ p.Settles calls x.spent (.error e)

/-- What the counter that an execution moved tells of it. -/
structure Tells
    (p : Retry ε τ)
    (calls : Nat)
    (x : Ending ε τ)
    (counter : Counter) : Prop where
  success : counter.isSuccess = true ↔
    ∃ v, x.answer = .ok v ∧ ∀ selects, p.policy.onResult = some selects → selects v = false
  ignored : x.Ignored p calls → counter = .failedAtOnce
  later : ¬ x.Ignored p calls → counter.isSuccess = true ∨ 1 < p.config.maxAttempts →
    (counter.isLater = true ↔ 1 < calls)

/-- The counter that an execution moves at its end. -/
def Ending.counter
    (p : Retry ε τ)
    (calls : Nat)
    (x : Ending ε τ) : Counter :=
  if p.worthRetrying calls x.spent x.outcome then .failedLater
  else
    match x.outcome with
    | .ok _ => if calls = 1 then .succeededAtOnce else .succeededLater
    | .error _ => .failedAtOnce

section Decide

variable {p : Retry ε τ} {calls : Nat} {spent : Span} {outcome : Except ε τ}

theorem counter_of_settles_ok
    {v : τ}
    (h : p.Settles calls spent (.ok v))
    (answer : Except (CallError ε) τ) :
    Ending.counter p calls ⟨spent, .ok v, answer⟩ =
      if calls = 1 then .succeededAtOnce else .succeededLater := by
  unfold Ending.counter
  rw [(worthRetrying_eq_false_iff ..).mpr h]
  rfl

theorem counter_of_settles_error
    {e : ε}
    (h : p.Settles calls spent (.error e))
    (answer : Except (CallError ε) τ) :
    Ending.counter p calls ⟨spent, .error e, answer⟩ = .failedAtOnce := by
  unfold Ending.counter
  rw [(worthRetrying_eq_false_iff ..).mpr h]
  rfl

theorem counter_of_not_settles
    (h : ¬ p.Settles calls spent outcome)
    (answer : Except (CallError ε) τ) :
    Ending.counter p calls ⟨spent, outcome, answer⟩ = .failedLater := by
  unfold Ending.counter
  rw [worthRetrying_of_not_settles h]
  rfl

/-- A settled value is a success, at once or later. -/
theorem tells_of_settles_ok
    {v : τ}
    (h : p.Settles calls spent (.ok v))
    (hcalls : 0 < calls) :
    Tells p calls ⟨spent, .ok v, .ok v⟩ (if calls = 1 then .succeededAtOnce else .succeededLater) := by
  have hunselected : ∀ selects, p.policy.onResult = some selects → selects v = false := by
    cases h with
    | value _ hunselected => exact hunselected
  refine ⟨?_, ?_, fun _ _ => ?_⟩
  · refine iff_of_true ?_ ⟨v, rfl, hunselected⟩
    split_ifs <;> rfl
  · rintro ⟨e, houtcome, -⟩
    cases houtcome
  · split_ifs with hone
    · simp [Counter.isLater, hone]
    · simp only [Counter.isLater, true_iff]
      omega

/-- An error that does not count is a failure at once. -/
theorem tells_of_settles_error
    {e : ε}
    (h : p.Settles calls spent (.error e)) :
    Tells p calls ⟨spent, .error e, .error (.execution e)⟩ .failedAtOnce := by
  refine ⟨?_, fun _ => rfl, fun hcounted => absurd ⟨e, rfl, h⟩ hcounted⟩
  simp [Counter.isSuccess]

/-- An execution without attempts left is a failure. -/
theorem tells_of_exhausted
    (h : ¬ p.Settles calls spent outcome)
    (hmax : p.config.maxAttempts ≤ calls)
    {answer : Except (CallError ε) τ}
    (hanswer : ∀ v, answer = .ok v → outcome = .ok v) :
    Tells p calls ⟨spent, outcome, answer⟩ .failedLater := by
  refine ⟨?_, ?_, fun _ hseveral => ?_⟩
  · refine iff_of_false nofun ?_
    rintro ⟨v, hv, hunselected⟩
    obtain rfl := hanswer v hv
    exact h (.value v hunselected)
  · rintro ⟨e, houtcome, hsettles⟩
    dsimp only at houtcome
    subst houtcome
    exact absurd hsettles h
  · have hmore : 1 < p.config.maxAttempts := hseveral.resolve_left nofun
    exact iff_of_true rfl (lt_of_lt_of_le hmore hmax)

/-- An attempt either ends an execution, and moves the one counter that tells of it, or leaves the
counters alone. -/
theorem decide_cases
    (p : Retry ε τ)
    (hcalls : 0 < calls)
    (spent : Span)
    (outcome : Except ε τ)
    (r : Reading) :
    (∃ answer closing,
      let x : Ending ε τ := ⟨spent, outcome, answer⟩
      (decide calls spent outcome).run r p =
          (.done answer, { p with metrics := p.metrics.count (x.counter p calls) }, closing) ∧
        Tells p calls x (x.counter p calls))
      ∨
    (calls < p.config.maxAttempts ∧
      ∃ span retried, (decide calls spent outcome).run r p = (.wait span, p, retried)) := by
  by_cases hsettles : p.Settles calls spent outcome
  · left
    rw [decide_of_settles hsettles]
    cases outcome with
    | ok v =>
        refine ⟨.ok v, if calls = 1 then [] else [.success calls], ?_⟩
        dsimp only
        rw [counter_of_settles_ok hsettles]
        refine ⟨?_, tells_of_settles_ok hsettles hcalls⟩
        unfold settle
        dsimp only
        split_ifs <;> rfl
    | error e =>
        refine ⟨.error (.execution e), [.ignoredError], ?_⟩
        dsimp only
        rw [counter_of_settles_error hsettles]
        exact ⟨rfl, tells_of_settles_error hsettles⟩
  · rcases Nat.lt_or_ge calls p.config.maxAttempts with hleft | hmax
    · exact .inr ⟨hleft, _, _, decide_of_attempts hsettles hleft r⟩
    · left
      rw [decide_of_no_attempts hsettles hmax]
      cases outcome with
      | ok v =>
          refine ⟨.ok v, [.error calls], ?_⟩
          dsimp only
          rw [counter_of_not_settles hsettles]
          exact ⟨rfl, tells_of_exhausted hsettles hmax fun _ hv => congrArg _ (Except.ok.inj hv)⟩
      | error e =>
          refine ⟨.error (.exhausted p.name calls e), [.error calls], ?_⟩
          dsimp only
          rw [counter_of_not_settles hsettles]
          exact ⟨rfl, tells_of_exhausted hsettles hmax nofun⟩

end Decide

/-! ### Runs -/

/-- A new retry has counted nothing. -/
theorem metrics_of_create
    {name : String}
    {config : Config}
    {policy : Policy ε τ}
    {p : Retry ε τ}
    (h : create name config policy = .ok p) :
    p.metrics = Metrics.none := by
  unfold create at h
  cases hvalid : config.validate with
  | error e =>
      rw [hvalid] at h
      nomatch h
  | ok _ =>
      rw [hvalid] at h
      rw [← Except.ok.inj h]

/-- A retry with the executions that were started, in their order. -/
structure Book (ε τ : Type) where
  retry : Retry ε τ
  executions : List (Execution ε τ)

/-- What may happen to a retry: an execution is started, or an attempt of one is over.  A ticket is the
number of an execution, counted from zero. -/
inductive Move (ε τ : Type) where
  | start
  | attempt (ticket : Nat) (spent : Span) (outcome : Except ε τ)

namespace Book

/-- A retry that has run nothing. -/
def opened (p : Retry ε τ) : Book ε τ :=
  ⟨p, []⟩

/-- An attempt of an execution is over; an execution that ended makes no other one. -/
def attempt
    (s : Book ε τ)
    (r : Reading)
    (ticket : Nat)
    (spent : Span)
    (outcome : Except ε τ) : Book ε τ :=
  match s.executions[ticket]? with
  | some ⟨calls, none⟩ =>
    let (next, after, _) := (decide (calls + 1) spent outcome).run r s.retry
    let ending := match next with
      | .done answer => some ⟨spent, outcome, answer⟩
      | .wait _ => none
    ⟨after, s.executions.set ticket ⟨calls + 1, ending⟩⟩
  | _ => s

/-- One move at a reading. -/
def step
    (s : Book ε τ) : Reading × Move ε τ → Book ε τ
  | (_, .start) => { s with executions := s.executions ++ [⟨0, none⟩] }
  | (r, .attempt ticket spent outcome) => s.attempt r ticket spent outcome

/-- A whole run. -/
def play
    (s : Book ε τ)
    (moves : List (Reading × Move ε τ)) : Book ε τ :=
  moves.foldl step s

theorem play_append
    (s : Book ε τ)
    (first second : List (Reading × Move ε τ)) :
    s.play (first ++ second) = (s.play first).play second :=
  List.foldl_append

/-- The executions that ended and moved a counter. -/
def counted
    (s : Book ε τ)
    (moved : Execution ε τ → Counter)
    (counter : Counter) : Nat :=
  s.executions.countP fun x => x.ending.isSome && moved x == counter

/-- What a move does: it ends an execution and moves the one counter that tells of it, or it leaves the
counters and the executions that ended alone. -/
inductive Steps
    (s : Book ε τ)
    (moved : Execution ε τ → Counter) :
    Book ε τ → Prop
  | ends (ticket calls : Nat) (x : Ending ε τ)
      (hopen : s.executions[ticket]? = some ⟨calls, none⟩)
      (htells : Tells s.retry (calls + 1) x (moved ⟨calls + 1, some x⟩)) :
      Steps s moved
        ⟨{ s.retry with metrics := s.retry.metrics.count (moved ⟨calls + 1, some x⟩) },
          s.executions.set ticket ⟨calls + 1, some x⟩⟩
  | goesOn (ticket calls : Nat) (hopen : s.executions[ticket]? = some ⟨calls, none⟩)
      (hleft : calls + 1 < s.retry.config.maxAttempts) :
      Steps s moved ⟨s.retry, s.executions.set ticket ⟨calls + 1, none⟩⟩
  | start : Steps s moved ⟨s.retry, s.executions ++ [⟨0, none⟩]⟩
  | nothing : Steps s moved s

end Book

/-- The counter that an execution moves if it ends. -/
def Execution.counter
    (p : Retry ε τ)
    (x : Execution ε τ) : Counter :=
  match x.ending with
  | some ending => ending.counter p x.calls
  | none => .failedAtOnce

/-- What is settled does not depend on the counters. -/
theorem settles_of_metrics
    {p : Retry ε τ}
    {m : Metrics}
    {calls : Nat}
    {spent : Span}
    {outcome : Except ε τ} :
    Settles { p with metrics := m } calls spent outcome ↔ p.Settles calls spent outcome := by
  rw [← worthRetrying_eq_false_iff, ← worthRetrying_eq_false_iff]
  cases outcome <;> rfl

/-- What a counter tells does not depend on the counters. -/
theorem Tells.of_metrics
    {p : Retry ε τ}
    {m : Metrics}
    {calls : Nat}
    {x : Ending ε τ}
    {counter : Counter}
    (h : Tells { p with metrics := m } calls x counter) :
    Tells p calls x counter := by
  obtain ⟨hsuccess, hignored, hlater⟩ := h
  have hsame : x.Ignored { p with metrics := m } calls ↔ x.Ignored p calls := by
    unfold Ending.Ignored
    simp only [settles_of_metrics]
  rw [hsame] at hignored hlater
  exact ⟨hsuccess, hignored, hlater⟩

theorem counter_of_metrics
    (p : Retry ε τ)
    (m : Metrics) :
    Execution.counter { p with metrics := m } = Execution.counter p := by
  funext x
  obtain ⟨calls, _ | ⟨spent, outcome, answer⟩⟩ := x
  · rfl
  · cases outcome <;> rfl

namespace Book

/-- One move ends at most one execution. -/
theorem steps_step
    (s : Book ε τ)
    (m : Reading × Move ε τ) :
    s.Steps (Execution.counter s.retry) (s.step m) := by
  obtain ⟨r, _ | ⟨ticket, spent, outcome⟩⟩ := m
  · exact .start
  · unfold step
    dsimp only
    rcases hfound : s.executions[ticket]? with _ | ⟨calls, _ | x⟩
    · simp only [attempt, hfound]
      exact .nothing
    · simp only [attempt, hfound]
      rcases decide_cases s.retry calls.succ_pos spent outcome r with
        ⟨answer, closing, hrun, htells⟩ | ⟨hleft, span, retried, hrun⟩
      · rw [hrun]
        exact .ends ticket calls ⟨spent, outcome, answer⟩ hfound htells
      · rw [hrun]
        exact .goesOn ticket calls hfound hleft
    · simp only [attempt, hfound]
      exact .nothing

/-- Every execution that ended is counted once, by the counter that tells of it. -/
structure Told
    (p : Retry ε τ)
    (s : Book ε τ) : Prop where
  kept : s.retry = { p with metrics := s.retry.metrics }
  counts : ∀ counter, counter.read s.retry.metrics = s.counted (Execution.counter p) counter
  tells : ∀ x ∈ s.executions, ∀ ending, x.ending = some ending →
    Tells p x.calls ending (x.counter p)

theorem told_opened
    {p : Retry ε τ}
    (h : p.metrics = Metrics.none) :
    Told p (opened p) where
  kept := rfl
  counts := fun counter => by
    rw [opened, h, read_none]
    rfl
  tells := fun _ h => absurd h List.not_mem_nil

/-- An execution that was open moves a counter when it ends, and none before. -/
theorem counted_set
    {s : Book ε τ}
    {retry : Retry ε τ}
    (moved : Execution ε τ → Counter)
    (counter : Counter)
    {ticket calls : Nat}
    (hopen : s.executions[ticket]? = some ⟨calls, none⟩)
    (x : Execution ε τ) :
    counted ⟨retry, s.executions.set ticket x⟩ moved counter =
      s.counted moved counter + if x.ending.isSome && moved x == counter then 1 else 0 := by
  obtain ⟨hticket, hfound⟩ := List.getElem?_eq_some_iff.mp hopen
  unfold counted
  rw [List.countP_set hticket, hfound]
  rfl

section Told

variable {p : Retry ε τ} {s : Book ε τ}

theorem Told.steps
    (h : Told p s)
    (m : Reading × Move ε τ) :
    s.Steps (Execution.counter p) (s.step m) := by
  have hsteps := s.steps_step m
  have hcounter : Execution.counter s.retry = Execution.counter p := by
    rw [h.kept]
    exact counter_of_metrics p _
  rwa [hcounter] at hsteps

/-- One move tells the truth. -/
theorem Told.step
    (h : Told p s)
    (m : Reading × Move ε τ) :
    Told p (s.step m) := by
  have hsteps := h.steps m
  obtain ⟨hkept, hcounts, htold⟩ := h
  have hset {ticket : Nat} {x : Execution ε τ}
      (htells : ∀ ending, x.ending = some ending → Tells p x.calls ending (x.counter p)) :
      ∀ y ∈ s.executions.set ticket x, ∀ ending, y.ending = some ending →
        Tells p y.calls ending (y.counter p) := by
    intro y hy
    rcases List.mem_or_eq_of_mem_set hy with hold | rfl
    · exact htold y hold
    · exact htells
  generalize s.step m = after at hsteps ⊢
  cases hsteps with
  | ends ticket calls x hopen htells =>
      rw [hkept] at htells
      refine ⟨?_, fun counter => ?_, hset fun ending hending => ?_⟩
      · rw [hkept]
      · rw [read_count, hcounts, counted_set _ _ hopen]
        simp
      · obtain rfl := Option.some.inj hending
        exact htells.of_metrics
  | goesOn ticket calls hopen =>
      refine ⟨hkept, fun counter => ?_, hset fun _ h => nomatch h⟩
      rw [hcounts, counted_set _ _ hopen]
      rfl
  | start =>
      refine ⟨hkept, fun counter => ?_, fun x hx => ?_⟩
      · rw [hcounts]
        unfold counted
        rw [List.countP_append]
        rfl
      · rcases List.mem_append.mp hx with hold | hnew
        · exact htold x hold
        · rw [List.mem_singleton.mp hnew]
          exact fun _ h => nomatch h
  | nothing => exact ⟨hkept, hcounts, htold⟩

/-- A whole run tells the truth. -/
theorem Told.play
    (h : Told p s)
    (moves : List (Reading × Move ε τ)) :
    Told p (s.play moves) := by
  induction moves generalizing s with
  | nil => exact h
  | cons m moves ih => exact ih (h.step m)

end Told

/-- A run leaves the settings of a retry alone. -/
theorem config_play
    (s : Book ε τ)
    (moves : List (Reading × Move ε τ)) :
    (s.play moves).retry.config = s.retry.config := by
  induction moves generalizing s with
  | nil => rfl
  | cons m moves ih =>
      refine (ih (s.step m)).trans ?_
      have hsteps := s.steps_step m
      generalize s.step m = after at hsteps ⊢
      cases hsteps <;> rfl

end Book

/-! ### Executions at a site -/

/-- From one world to another executions of the retry are started and run, and none that were started
before. -/
def Extends
    (site : Site ω (Retry ε τ) Event)
    (world after : ω) : Prop :=
  ∀ others : List (Execution ε τ), ∃ moves new,
    (⟨site.view world, others⟩ : Book ε τ).play moves = ⟨site.view after, others ++ new⟩

/-- A way to wait and a call that may run executions of the retry. -/
structure Hosts
    (site : Site ω (Retry ε τ) Event)
    (pause : Span → Activity ω (Except Rejection Unit))
    (body : Activity ω (Except ε τ)) : Prop where
  quiet : site.Quiet
  pause : ∀ span world, Extends site world ((pause span).runIn world).2
  body : ∀ world, Extends site world (body.runIn world).2

/-- A world that counts how often a call is made. -/
structure Counts
    (site : Site ω (Retry ε τ) Event)
    (made : ω → Nat)
    (pause : Span → Activity ω (Except Rejection Unit))
    (body : Activity ω (Except ε τ)) : Prop where
  observed : site.Observed made fun known _ => known
  pause : ∀ {span world result after},
    (pause span).runIn world = (.ok result, after) → made after = made world
  body : ∀ {world outcome after},
    body.runIn world = (.ok outcome, after) → made after = made world + 1

/-- How a run of a call ends an execution: with the answer of its last attempt, or not at all when it
is rejected while it waits or halts. -/
inductive Exits :
    Except Halt (Except (CallError ε) τ) → Option (Ending ε τ) → Prop
  | answered (x : Ending ε τ) : Exits (.ok x.answer) (some x)
  | rejected (rejection : Rejection) : Exits (.ok (.error (.rejected rejection))) none
  | halted (halt : Halt) : Exits (.error halt) none

/-- From one world to another an execution goes on, while others are started and run. -/
def Passes
    (site : Site ω (Retry ε τ) Event)
    (world after : ω)
    (x y : Execution ε τ) : Prop :=
  ∀ others rest : List (Execution ε τ), ∃ moves new,
    (⟨site.view world, others ++ x :: rest⟩ : Book ε τ).play moves =
      ⟨site.view after, others ++ y :: (rest ++ new)⟩

/-- An exit of an execution that had made some calls in a world. -/
def Leaves
    (site : Site ω (Retry ε τ) Event)
    (pause : Span → Activity ω (Except Rejection Unit))
    (body : Activity ω (Except ε τ))
    (before : Nat)
    (world : ω)
    (exit : Except Halt (Except (CallError ε) τ) × ω) : Prop :=
  ∃ calls ending,
    Passes site world exit.2 ⟨before, none⟩ ⟨calls, ending⟩ ∧ Exits exit.1 ending ∧
      ∀ x made, ending = some x → Counts site made pause body →
        made exit.2 + before = made world + calls

section Sites

variable {site : Site ω (Retry ε τ) Event}
variable {pause : Span → Activity ω (Except Rejection Unit)}
variable {body : Activity ω (Except ε τ)}

theorem Extends.of_view
    {world after : ω}
    (h : site.view after = site.view world) :
    Extends site world after := by
  intro others
  refine ⟨[], [], ?_⟩
  rw [h, List.append_nil]
  rfl

theorem Extends.config
    {world after : ω}
    (h : Extends site world after) :
    (site.view after).config = (site.view world).config := by
  obtain ⟨moves, new, hplay⟩ := h []
  have hkept := Book.config_play ⟨site.view world, []⟩ moves
  rwa [hplay] at hkept

theorem Extends.trans
    {world middle after : ω}
    (hfirst : Extends site world middle)
    (hsecond : Extends site middle after) :
    Extends site world after := by
  intro others
  obtain ⟨moves, new, hplay⟩ := hfirst others
  obtain ⟨more, newer, hlater⟩ := hsecond (others ++ new)
  refine ⟨moves ++ more, new ++ newer, ?_⟩
  rw [Book.play_append, hplay, hlater, List.append_assoc]

/-- An execution may stand still while others run. -/
theorem Extends.passes
    {world after : ω}
    (h : Extends site world after)
    (x : Execution ε τ) :
    Passes site world after x x := by
  intro others rest
  obtain ⟨moves, new, hplay⟩ := h (others ++ x :: rest)
  refine ⟨moves, new, ?_⟩
  rw [hplay, List.append_assoc]
  rfl

theorem Passes.trans
    {world middle after : ω}
    {x y z : Execution ε τ}
    (hfirst : Passes site world middle x y)
    (hsecond : Passes site middle after y z) :
    Passes site world after x z := by
  intro others rest
  obtain ⟨moves, new, hplay⟩ := hfirst others rest
  obtain ⟨more, newer, hlater⟩ := hsecond others (rest ++ new)
  refine ⟨moves ++ more, new ++ newer, ?_⟩
  rw [Book.play_append, hplay, hlater, List.append_assoc]

/-- An execution that is started goes on from there. -/
theorem Passes.started
    {world after : ω}
    {x : Execution ε τ}
    (h : Passes site world after ⟨0, none⟩ x)
    (others : List (Execution ε τ)) :
    ∃ moves new,
      (⟨site.view world, others⟩ : Book ε τ).play moves =
        ⟨site.view after, others ++ x :: new⟩ := by
  obtain ⟨moves, new, hplay⟩ := h others []
  exact ⟨(⟨0, .zero false⟩, .start) :: moves, new, hplay⟩

/-- A decision on an attempt is a move. -/
theorem passes_decide
    {world after : ω}
    {n : Nat}
    {spent : Span}
    {outcome : Except ε τ}
    {r : Reading}
    (h : site.view after = ((decide (n + 1) spent outcome).run r (site.view world)).2.1) :
    Passes site world after ⟨n, none⟩
      ⟨n + 1,
        match ((decide (n + 1) spent outcome).run r (site.view world)).1 with
        | .done answer => some ⟨spent, outcome, answer⟩
        | .wait _ => none⟩ := by
  intro others rest
  refine ⟨[(r, .attempt others.length spent outcome)], [], ?_⟩
  have hopen : (others ++ ⟨n, none⟩ :: rest)[others.length]? = some ⟨n, none⟩ := by
    simp
  rw [List.append_nil, h]
  simp only [Book.play, List.foldl_cons, List.foldl_nil, Book.step, Book.attempt, hopen]
  rw [List.set_append_right _ _ le_rfl, Nat.sub_self, List.set_cons_zero]

/-- Nothing is counted between the calls. -/
theorem Counts.perform
    {made : ω → Nat}
    (h : Counts site made pause body)
    {α : Type}
    {operation : Operation (Retry ε τ) Event α}
    {world after : ω}
    {a : α}
    (hrun : (site.perform operation).runIn world = (.ok a, after)) :
    made after = made world := by
  obtain ⟨r, last, hlast, hperformed⟩ := h.observed.perform operation world
  obtain ⟨-, rfl⟩ := Prod.mk.inj (hrun.symm.trans hlast)
  rw [hperformed.observed]
  exact List.foldl_fixed _

/-- After a call that left an execution open, a wait ends it or leads to what is next. -/
theorem Hosts.leaves_wait
    (h : Hosts site pause body)
    {n : Nat}
    {world decided : ω}
    (hpassed : Passes site world decided ⟨n, none⟩ ⟨n + 1, none⟩)
    (hmade : ∀ {made}, Counts site made pause body → made decided = made world + 1)
    (span : Span)
    {next : Activity ω (Except (CallError ε) τ)}
    (hnext : ∀ paused, Extends site decided paused →
      Leaves site pause body (n + 1) paused (next.runIn paused)) :
    Leaves site pause body n world
      ((do
        match ← pause span with
        | .error rejection => return .error (.rejected rejection)
        | .ok () => next : Activity ω (Except (CallError ε) τ)).runIn decided) := by
  have hwait := h.pause span decided
  rcases hpause : (pause span).runIn decided with ⟨halt | rejection | _, paused⟩
  · rw [hpause] at hwait
    rw [Activity.runIn_bind_error hpause]
    exact ⟨n + 1, none, hpassed.trans (hwait.passes _), .halted halt, nofun⟩
  · rw [hpause] at hwait
    rw [Activity.runIn_bind_ok hpause]
    exact ⟨n + 1, none, hpassed.trans (hwait.passes _), .rejected rejection, nofun⟩
  · rw [hpause] at hwait
    rw [Activity.runIn_bind_ok hpause]
    obtain ⟨calls, ending, hlater, hexits, hcounted⟩ := hnext paused hwait
    refine ⟨calls, ending, (hpassed.trans (hwait.passes _)).trans hlater, hexits, ?_⟩
    intro x made hended hcounts
    have hrest := hcounted x made hended hcounts
    have hwaited := hcounts.pause hpause
    have hone := hmade hcounts
    show made (next.runIn paused).2 + n = made world + calls
    omega

/-- One attempt of an execution. -/
theorem Hosts.leaves_attemptThen
    (h : Hosts site pause body)
    {n : Nat}
    {world : ω}
    {again : Except ε τ → Activity ω (Except (CallError ε) τ)}
    (hagain : ∀ outcome later, (site.view later).config = (site.view world).config →
      n + 1 < (site.view world).config.maxAttempts →
        Leaves site pause body (n + 1) later ((again outcome).runIn later)) :
    Leaves site pause body n world
      ((attemptThen site pause body (n + 1) again).runIn world) := by
  have hcall := h.body world
  unfold attemptThen
  rw [Activity.runIn_bind_ok (Site.runIn_now site world)]
  rcases hbody : body.runIn world with ⟨halt | outcome, ended⟩
  · rw [hbody] at hcall
    rw [Activity.runIn_bind_error hbody]
    exact ⟨n, none, hcall.passes _, .halted halt, nofun⟩
  · rw [hbody] at hcall
    let spent := elapsed (site.reading world).now (site.reading ended).now
    obtain ⟨r, decided, hdecide, hview⟩ := h.quiet.perform (decide (n + 1) spent outcome) ended
    have hpassed := (hcall.passes _).trans (passes_decide hview)
    -- The call was made once more, and nothing else is counted until the next one.
    have hmade {made : ω → Nat} (hcounts : Counts site made pause body) :
        made decided = made world + 1 :=
      (hcounts.perform hdecide).trans (hcounts.body hbody)
    rw [Activity.runIn_bind_ok hbody, Activity.runIn_bind_ok (Site.runIn_now site ended),
      Activity.runIn_bind_ok hdecide]
    rcases decide_cases (site.view ended) n.succ_pos spent outcome r with
      ⟨answer, closing, hrun, -⟩ | ⟨hleft, span, retried, hrun⟩
    · rw [hrun] at hpassed ⊢
      refine ⟨n + 1, _, hpassed, .answered ⟨spent, outcome, answer⟩, fun x made _ hcounts => ?_⟩
      show made decided + n = made world + (n + 1)
      rw [hmade hcounts]
      omega
    · rw [hrun] at hpassed hview ⊢
      rw [hcall.config] at hleft
      refine h.leaves_wait hpassed hmade span fun paused hwait => hagain outcome paused ?_ hleft
      rw [hwait.config, hview, hcall.config]

/-- The attempts from one on. -/
theorem Hosts.leaves_attempts
    (h : Hosts site pause body)
    (left n : Nat)
    {world : ω}
    (hmax : (site.view world).config.maxAttempts ≤ n + 1 + left) :
    Leaves site pause body n world ((attempts site pause body left (n + 1)).runIn world) := by
  induction left generalizing n world with
  | zero => exact h.leaves_attemptThen fun _ _ _ hleft => absurd hleft (by omega)
  | succ left ih =>
      refine h.leaves_attemptThen fun _ later hconfig _ => ih (n + 1) ?_
      rw [hconfig]
      omega

/-- A whole execution. -/
theorem Hosts.leaves_execute
    (h : Hosts site pause body)
    (world : ω) :
    Leaves site pause body 0 world ((execute site pause body).runIn world) := by
  have hstate : site.state.runIn world = (.ok (site.view world), world) := rfl
  unfold execute
  rw [Activity.runIn_bind_ok hstate]
  exact h.leaves_attempts _ 0 (by omega)

/-- Executions may be run inside one another. -/
theorem Hosts.extends_execute
    (h : Hosts site pause body)
    (world : ω) :
    Extends site world ((execute site pause body).runIn world).2 := by
  intro others
  obtain ⟨calls, ending, hpasses, -⟩ := h.leaves_execute world
  obtain ⟨moves, new, hplay⟩ := hpasses.started others
  exact ⟨moves, _, hplay⟩

end Sites

/-- **The counters of a retry.**  In every run of a new retry each counter is the number of executions
that ended and moved it, and what it tells of them is true: a counter of successes is moved exactly
when the answer is a value that is not selected for another attempt; an execution that ends with an
error that does not count is a failure at once, however many calls it made; and any other one, unless
it is a failure that was allowed one attempt only, is counted as one with more attempts exactly when
it made more than one call.  Every further move ends one execution and moves one counter by one, or
ends none and moves none.  What is run at a site is such a run, also when executions are run inside
one another: an execution that is neither rejected while it waits nor halts has ended with the answer
that it gives and the number of calls that it made. -/
theorem counters_tell
    {name : String}
    {config : Config}
    {policy : Policy ε τ}
    {p : Retry ε τ}
    (hcreate : create name config policy = .ok p)
    (moves : List (Reading × Move ε τ))
    {s : Book ε τ}
    (hplay : (Book.opened p).play moves = s) :
    (∃ moved : Execution ε τ → Counter,
      (∀ counter, counter.read s.retry.metrics = s.counted moved counter) ∧
        (∀ x ∈ s.executions, ∀ ending, x.ending = some ending →
          Tells p x.calls ending (moved x)) ∧
        ∀ m, s.Steps moved (s.step m)) ∧
      ∀ {ω : Type} {site : Site ω (Retry ε τ) Event}
        {pause : Span → Activity ω (Except Rejection Unit)} {body : Activity ω (Except ε τ)},
        Hosts site pause body → ∀ world, site.view world = s.retry →
          let exit := (execute site pause body).runIn world
          ∃ later calls ending new,
            s.play later = ⟨site.view exit.2, s.executions ++ ⟨calls, ending⟩ :: new⟩ ∧
              Exits exit.1 ending ∧
              ∀ x made, ending = some x → Counts site made pause body →
                made exit.2 = made world + calls := by
  have htold : Book.Told p s :=
    hplay ▸ (Book.told_opened (metrics_of_create hcreate)).play moves
  constructor
  · exact ⟨Execution.counter p, htold.counts, htold.tells, htold.steps⟩
  · intro ω site pause body hhosts world hview exit
    obtain ⟨calls, ending, hpasses, hexits, hmade⟩ := hhosts.leaves_execute world
    obtain ⟨later, new, hlater⟩ := hpasses.started s.executions
    rw [hview] at hlater
    exact ⟨later, calls, ending, new, hlater, hexits, hmade⟩

/-- Three attempts, in which values below ten and errors from five hundred on are retried.  Each call of
an execution runs another one inside, which fails at once with an error that does not count.  The first
call fails, the second brings a ten: the inner executions are two failures at once, and the outer one is
a success after two calls. -/
theorem counters_tell_nested :
    let policy : Policy Nat Nat :=
      ⟨some (Classifier.matching fun failure => Nat.ble 500 failure.error),
        some fun value => Nat.blt value 10⟩
    let p : Retry Nat Nat := ⟨"retry", Config.standard, policy, Metrics.none⟩
    let site : Site (Retry Nat Nat × List Event × Nat) (Retry Nat Nat) Event :=
      Site.heeded ⟨0, .zero false⟩
    let pause (_ : Span) : Activity (Retry Nat Nat × List Event × Nat) (Except Rejection Unit) :=
      return .ok ()
    let inner : Activity (Retry Nat Nat × List Event × Nat) (Except Nat Nat) :=
      return .error 404
    let body : Activity (Retry Nat Nat × List Event × Nat) (Except Nat Nat) := do
      let made := (← get).2.2
      let _ ← execute site pause inner
      modify fun world => (world.1, world.2.1, made + 1)
      return if made = 0 then .error 503 else .ok 10
    let exit := (execute site pause body).runIn (p, [], 0)
    create "retry" Config.standard policy = .ok p ∧
      exit.1 = .ok (.ok 10) ∧ exit.2.1.metrics = ⟨0, 1, 2, 0⟩ ∧
      ∃ later x new,
        (Book.opened p).play later = ⟨exit.2.1, ⟨2, some x⟩ :: new⟩ ∧ x.answer = .ok 10 := by
  intro policy p site pause inner body exit
  have hvalid : Config.standard.validate = .ok () := by
    decide +kernel
  have hcreate : create "retry" Config.standard policy = .ok p := by
    unfold create
    rw [hvalid]
    rfl
  have hquiet : site.Quiet := ⟨fun _ _ => rfl, fun _ _ => ⟨_, rfl, rfl⟩⟩
  have hwaits (span : Span) (world : Retry Nat Nat × List Event × Nat) :
      Extends site world ((pause span).runIn world).2 :=
    Extends.of_view rfl
  have hinner : Hosts site pause inner := ⟨hquiet, hwaits, fun _ => Extends.of_view rfl⟩
  have hbody : Hosts site pause body := by
    refine ⟨hquiet, hwaits, ?_⟩
    refine Activity.related_bind Extends.trans (fun _ => Extends.of_view rfl) fun _ => ?_
    exact Activity.related_bind Extends.trans hinner.extends_execute fun _ _ => Extends.of_view rfl
  have hcounts : Counts site (fun world => world.2.2) pause body := by
    refine ⟨⟨fun _ _ => rfl, fun _ _ => rfl, fun _ _ => ⟨_, rfl, rfl, rfl⟩⟩, ?_, ?_⟩
    · intro span world result after h
      obtain ⟨-, rfl⟩ := Prod.mk.inj h
      rfl
    · intro world outcome after h
      obtain ⟨known, _, hget, h⟩ := Activity.runIn_bind_eq_ok.mp h
      obtain ⟨hknown, -⟩ := Prod.mk.inj hget
      obtain rfl := Except.ok.inj hknown
      obtain ⟨_, ran, -, h⟩ := Activity.runIn_bind_eq_ok.mp h
      obtain ⟨-, rfl⟩ := Prod.mk.inj h
      rfl
  have hanswer : exit.1 = .ok (.ok 10) := by
    decide +kernel
  have hmetrics : exit.2.1.metrics = ⟨0, 1, 2, 0⟩ := by
    decide +kernel
  have hmade : exit.2.2.2 = 2 := by
    decide +kernel
  obtain ⟨-, hruns⟩ := counters_tell hcreate [] rfl
  obtain ⟨later, calls, ending, new, hplay, hexits, hcalls⟩ := hruns hbody (p, [], 0) rfl
  have hexits : Exits exit.1 ending := hexits
  have hcalls (x : Ending Nat Nat) (hended : ending = some x) : exit.2.2.2 = 0 + calls :=
    hcalls x _ hended hcounts
  -- The run was evaluated, and is a variable from here on.
  have hplay : (Book.opened p).play later = ⟨exit.2.1, ⟨calls, ending⟩ :: new⟩ := hplay
  clear_value exit
  rw [hmade] at hcalls
  refine ⟨hcreate, hanswer, hmetrics, later, ?_⟩
  generalize exit.1 = result at hanswer hexits
  cases hexits with
  | answered x =>
      obtain rfl : 2 = calls := (hcalls x rfl).trans (Nat.zero_add _)
      exact ⟨x, new, hplay, Except.ok.inj hanswer⟩
  | rejected => nomatch hanswer
  | halted => nomatch hanswer

/-- An error that does not count is a failure at once, though an attempt before it was retried; and an
execution that is allowed one attempt is a failure after several. -/
theorem counters_forget_calls :
    let counted : Classifier Nat := Classifier.matching fun failure => Nat.ble 500 failure.error
    let policy : Policy Nat Nat := ⟨some counted, none⟩
    let site : Site (OnToken Nat Nat) (Retry Nat Nat) Event := Site.heeded ⟨0, .zero false⟩
    let outcome (i : Nat) : Except Nat Nat := .error (if i = 1 then 503 else 404)
    let run (config : Config) :=
      (execute site OnToken.pause (OnToken.attempt outcome 9)).runIn
        (⟨"retry", config, policy, Metrics.none⟩, [], 0, false)
    let several := run Config.standard
    let single := run { Config.standard with maxAttempts := 1 }
    (Config.standard.validate = .ok () ∧ several.1 = .ok (.error (.execution 404)) ∧
        several.2.2.2.1 = 2 ∧ several.2.1.metrics = ⟨0, 0, 1, 0⟩ ∧
        ¬ (0 < several.2.1.metrics.succeededLater + several.2.1.metrics.failedLater ↔
          1 < several.2.2.2.1)) ∧
      ({ Config.standard with maxAttempts := 1 }.validate = .ok () ∧
        single.1 = .ok (.error (.exhausted "retry" 1 503)) ∧
        single.2.2.2.1 = 1 ∧ single.2.1.metrics = ⟨0, 0, 0, 1⟩ ∧
        ¬ (0 < single.2.1.metrics.succeededLater + single.2.1.metrics.failedLater ↔
          1 < single.2.2.2.1)) := by
  decide +kernel

end Retry
end FaultTolerance
