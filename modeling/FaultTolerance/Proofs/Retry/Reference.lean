import FaultTolerance.Proofs.Activity
import FaultTolerance.Proofs.Settings
import FaultTolerance.Retry.Basic

/-!
# The runs of a retry

A run is settled by the outcomes of its attempts alone: it ends at the first attempt whose outcome is
not worth another one, or at the last attempt.  How it waits in between does not matter, unless a wait
is interrupted, and then the run ends there.

## Main definitions

* `Settles`: outcomes that are not worth another attempt.
* `Script`: what each attempt brings.
* `Plays`: a call and a way to wait that follow a script.
* `Closes`: the answer and the announcements at the end of a run.
* `OnToken`: a world in which the calls and the waits share a token.

**Results.**
* `worthRetrying_eq_false_iff`: which outcomes are not retried.
* `Plays.attempts_reach`: the attempts before the last one.
* `Script.exists_isLeast_ends`: there is a last attempt.
* `execute_follows_script`: the calls, the answer and the announcements of a run.
-/

namespace FaultTolerance
namespace Retry

open Time Numeric

variable {ω ε τ : Type}

/-- Accepted settings allow an attempt. -/
theorem Config.maxAttempts_pos
    {c : Config}
    (h : c.validate = .ok ()) :
    0 < c.maxAttempts := by
  unfold Config.validate at h
  rw [checked_bind_eq_ok_iff, requirePositive_eq_ok_iff] at h
  exact h.1

/-! ### Outcomes -/

/-- The outcome of an attempt is not worth another one: a value that no predicate selects, or an error
that a classifier does not count. -/
inductive Settles
    (p : Retry ε τ)
    (attempt : Nat)
    (spent : Span) :
    Except ε τ → Prop
  | value (v : τ) (h : ∀ selects, p.policy.onResult = some selects → selects v = false) :
      Settles p attempt spent (.ok v)
  | error (e : ε) (c : Classifier ε) (hpolicy : p.policy.onError = some c)
      (h : c.counts ⟨p.name, e, spent, attempt⟩ = false) :
      Settles p attempt spent (.error e)

/-- The outcomes that are not retried. -/
theorem worthRetrying_eq_false_iff
    (p : Retry ε τ)
    (attempt : Nat)
    (spent : Span)
    (outcome : Except ε τ) :
    p.worthRetrying attempt spent outcome = false ↔ p.Settles attempt spent outcome := by
  cases outcome with
  | ok v =>
      constructor
      · intro h
        refine .value v fun selects hselects => ?_
        simpa [worthRetrying, hselects] using h
      · rintro ⟨_, h⟩
        cases hselects : p.policy.onResult with
        | none => simp [worthRetrying, hselects]
        | some selects => simpa [worthRetrying, hselects] using h selects hselects
  | error e =>
      constructor
      · intro h
        cases hpolicy : p.policy.onError with
        | none => simp [worthRetrying, Classifier.ask, hpolicy] at h
        | some c =>
            refine .error e c hpolicy ?_
            simpa [worthRetrying, Classifier.ask, hpolicy] using h
      · rintro (_ | ⟨_, c, hpolicy, h⟩)
        simpa [worthRetrying, Classifier.ask, hpolicy] using h

/-- What a run answers and announces at its last attempt: a settled outcome as it is, and any other
one because no attempt is left. -/
inductive Closes
    (p : Retry ε τ)
    (attempt : Nat)
    (spent : Span) :
    Except ε τ → Except (CallError ε) τ → List Event → Prop
  | value (v : τ) (h : p.Settles attempt spent (.ok v)) :
      Closes p attempt spent (.ok v) (.ok v) (if attempt = 1 then [] else [.success attempt])
  | ignored (e : ε) (h : p.Settles attempt spent (.error e)) :
      Closes p attempt spent (.error e) (.error (.execution e)) [.ignoredError]
  | lastValue (v : τ) (h : ¬ p.Settles attempt spent (.ok v)) :
      Closes p attempt spent (.ok v) (.ok v) [.error attempt]
  | exhausted (e : ε) (h : ¬ p.Settles attempt spent (.error e)) :
      Closes p attempt spent (.error e)
        (.error (.exhausted p.name p.config.maxAttempts e)) [.error attempt]

section Decide

variable {p : Retry ε τ} {attempt : Nat} {spent : Span} {outcome : Except ε τ}

theorem exists_closes
    (p : Retry ε τ)
    (attempt : Nat)
    (spent : Span)
    (outcome : Except ε τ) :
    ∃ answer closing, p.Closes attempt spent outcome answer closing := by
  by_cases hsettles : p.Settles attempt spent outcome
  · cases outcome with
    | ok v => exact ⟨_, _, .value v hsettles⟩
    | error e => exact ⟨_, _, .ignored e hsettles⟩
  · cases outcome with
    | ok v => exact ⟨_, _, .lastValue v hsettles⟩
    | error e => exact ⟨_, _, .exhausted e hsettles⟩

theorem worthRetrying_of_not_settles (h : ¬ p.Settles attempt spent outcome) :
    p.worthRetrying attempt spent outcome = true := by
  rwa [← worthRetrying_eq_false_iff, Bool.not_eq_false] at h

theorem decide_of_settles
    (h : p.Settles attempt spent outcome)
    (r : Reading) :
    (decide attempt spent outcome).run r p = p.settle attempt outcome := by
  have hworth := (worthRetrying_eq_false_iff ..).mpr h
  simp [decide, Operation.run, Operation.ofStep, hworth]

theorem decide_of_no_attempts
    (h : ¬ p.Settles attempt spent outcome)
    (hmax : p.config.maxAttempts ≤ attempt)
    (r : Reading) :
    (decide attempt spent outcome).run r p = p.exhaust attempt outcome := by
  have hworth := worthRetrying_of_not_settles h
  simp [decide, Operation.run, Operation.ofStep, hworth, hmax]

theorem decide_of_attempts
    (h : ¬ p.Settles attempt spent outcome)
    (hmax : attempt < p.config.maxAttempts)
    (r : Reading) :
    (decide attempt spent outcome).run r p =
      (.wait (p.config.interval.wait r.draw attempt), p,
        [.retry attempt (p.config.interval.wait r.draw attempt)]) := by
  have hworth := worthRetrying_of_not_settles h
  simp [decide, Operation.run, Operation.ofStep, hworth, Nat.not_le.mpr hmax]

/-- After its last attempt a run is closed. -/
theorem decide_of_closes
    (hlast : p.Settles attempt spent outcome ∨ attempt = p.config.maxAttempts)
    {answer : Except (CallError ε) τ}
    {closing : List Event}
    (hcloses : p.Closes attempt spent outcome answer closing)
    (r : Reading) :
    ((decide attempt spent outcome).run r p).1 = .done answer ∧
      ((decide attempt spent outcome).run r p).2.2 = closing := by
  cases hcloses with
  | value v h =>
      rw [decide_of_settles h]
      unfold settle
      split_ifs
      · exact ⟨rfl, rfl⟩
      · exact ⟨rfl, rfl⟩
  | ignored e h =>
      rw [decide_of_settles h]
      exact ⟨rfl, rfl⟩
  | lastValue v h =>
      obtain rfl := hlast.resolve_left h
      rw [decide_of_no_attempts h le_rfl]
      exact ⟨rfl, rfl⟩
  | exhausted e h =>
      obtain rfl := hlast.resolve_left h
      rw [decide_of_no_attempts h le_rfl]
      exact ⟨rfl, rfl⟩

end Decide

/-! ### Scripted runs -/

/-- What the attempts of a run bring: the outcome of each, the time that it is measured to take, and
what is drawn for the wait after it. -/
structure Script (ε τ : Type) where
  outcome : Nat → Except ε τ
  spent : Nat → Span
  draw : Nat → Binary64

namespace Script

variable (script : Script ε τ) (p : Retry ε τ)

/-- The wait after an attempt. -/
def wait (attempt : Nat) : Span :=
  p.config.interval.wait (script.draw attempt) attempt

/-- An attempt after which the run ends: its outcome is not worth another one, or it is the last of
all. -/
def Ends (attempt : Nat) : Prop :=
  p.Settles attempt (script.spent attempt) (script.outcome attempt) ∨
    attempt = p.config.maxAttempts

/-- The announcements of a number of attempts from one on, each followed by another attempt. -/
def retries (first count : Nat) : List Event :=
  (List.range' first count).map fun attempt => .retry attempt (script.wait p attempt)

theorem retries_concat (first count : Nat) :
    script.retries p first (count + 1) =
      script.retries p first count ++ [.retry (first + count) (script.wait p (first + count))] := by
  simp [retries, List.range'_concat]

/-- A run has a last attempt. -/
theorem exists_isLeast_ends (h : 0 < p.config.maxAttempts) :
    ∃ n, IsLeast {attempt | 0 < attempt ∧ script.Ends p attempt} n := by
  classical
  have hexists : ∃ attempt, 0 < attempt ∧ script.Ends p attempt :=
    ⟨p.config.maxAttempts, h, .inr rfl⟩
  exact ⟨Nat.find hexists, Nat.find_spec hexists, fun attempt hends => Nat.find_min' hexists hends⟩

end Script

/-- A call that follows a script, one attempt each time it is made, and a way to wait that is cut short
by an interrupt after some of the attempts, in the worlds that fit.  Neither touches the retry, or
announces anything. -/
structure Plays
    (site : Site ω (Retry ε τ) Event)
    (heard : ω → List Event)
    (calls : ω → Nat)
    (fits : ω → Prop)
    (script : Script ε τ)
    (interrupted : Nat → Bool)
    (pause : Span → Activity ω (Except Rejection Unit))
    (body : Activity ω (Except ε τ)) : Prop where
  attempt : ∀ world, fits world → ∃ after,
    body.runIn world = (.ok (script.outcome (calls world + 1)), after) ∧
      (site.view after = site.view world ∧ heard after = heard world ∧
        calls after = calls world + 1 ∧ fits after) ∧
      elapsed (site.reading world).now (site.reading after).now = script.spent (calls world + 1) ∧
      (site.reading after).draw = script.draw (calls world + 1)
  pause : ∀ world, fits world → ∃ after,
    (pause (script.wait (site.view world) (calls world))).runIn world =
        (.ok (if interrupted (calls world) then .error (.interrupted (site.view world).name)
          else .ok ()), after) ∧
      site.view after = site.view world ∧ heard after = heard world ∧ calls after = calls world ∧
      (interrupted (calls world) = false → fits after)

section Runs

variable {site : Site ω (Retry ε τ) Event} {heard : ω → List Event} {calls : ω → Nat}
variable {fits : ω → Prop} {script : Script ε τ} {interrupted : Nat → Bool}
variable {pause : Span → Activity ω (Except Rejection Unit)} {body : Activity ω (Except ε τ)}
variable {p : Retry ε τ} {world : ω} {attempt : Nat}

variable
  (hsite : site.Observed (fun world => (heard world, calls world, fits world))
    fun known event => (known.1 ++ [event], known.2))
  (hplays : Plays site heard calls fits script interrupted pause body)
  (hfits : fits world)
  (hview : site.view world = p)
  (hattempt : attempt = calls world + 1)
include hsite hplays hfits hview hattempt

/-- An attempt makes one call, and what follows is decided on its outcome: the end of the run, or a
wait, and another attempt unless the wait is cut short. -/
theorem Plays.decided (again : Except ε τ → Activity ω (Except (CallError ε) τ)) :
    ∃ r decided,
      let decision := (decide attempt (script.spent attempt) (script.outcome attempt)).run r p
      r.draw = script.draw attempt ∧
        (site.view decided = decision.2.1 ∧ heard decided = heard world ++ decision.2.2 ∧
          calls decided = attempt ∧ fits decided) ∧
        (∀ answer, decision.1 = .done answer →
          (attemptThen site pause body attempt again).runIn world = (.ok answer, decided)) ∧
        ∀ span result after, decision.1 = .wait span →
          (pause span).runIn decided = (.ok result, after) →
            (attemptThen site pause body attempt again).runIn world =
              match result with
              | .error rejection => (.ok (.error (.rejected rejection)), after)
              | .ok () => (again (script.outcome attempt)).runIn after := by
  subst hattempt hview
  obtain ⟨ended, hbody, ⟨hview, hheard, hcalls, hended⟩, hspent, hdraw⟩ :=
    hplays.attempt world hfits
  obtain ⟨decided, hdecide, hdone⟩ :=
    hsite.perform_at_once
      (decide (calls world + 1) (script.spent (calls world + 1)) (script.outcome (calls world + 1)))
      ended rfl
  rw [hview] at hdecide
  have hknown := hdone.observed
  rw [Site.foldl_heeded, Prod.mk.injEq, Prod.mk.injEq, hheard, hcalls, hview] at hknown
  obtain ⟨hlog, hcount, hstays⟩ := hknown
  refine ⟨site.reading ended, decided, hdraw, ⟨?_, hlog, hcount, hstays ▸ hended⟩, ?_, ?_⟩
  · rw [hdone.view, hview]
  · intro answer hanswer
    unfold attemptThen
    rw [Activity.runIn_bind_ok (Site.runIn_now site world), Activity.runIn_bind_ok hbody,
      Activity.runIn_bind_ok (Site.runIn_now site ended), hspent, Activity.runIn_bind_ok hdecide,
      hanswer]
    rfl
  · intro span result after hspan hpause
    unfold attemptThen
    rw [Activity.runIn_bind_ok (Site.runIn_now site world), Activity.runIn_bind_ok hbody,
      Activity.runIn_bind_ok (Site.runIn_now site ended), hspent, Activity.runIn_bind_ok hdecide,
      hspan]
    dsimp only
    rw [Activity.runIn_bind_ok hpause]
    cases result with
    | error rejection => rfl
    | ok _ => rfl

/-- The run ends with its last attempt. -/
theorem Plays.ends
    (hends : script.Ends p attempt)
    {answer : Except (CallError ε) τ}
    {closing : List Event}
    (hcloses : p.Closes attempt (script.spent attempt) (script.outcome attempt) answer closing)
    (again : Except ε τ → Activity ω (Except (CallError ε) τ)) :
    ∃ after,
      (attemptThen site pause body attempt again).runIn world = (.ok answer, after) ∧
        calls after = attempt ∧ heard after = heard world ++ closing := by
  obtain ⟨r, after, -, ⟨-, hheard, hcalls, -⟩, hrun, -⟩ :=
    hplays.decided hsite hfits hview hattempt again
  obtain ⟨hanswer, hclosing⟩ := decide_of_closes hends hcloses r
  exact ⟨after, hrun answer hanswer, hcalls, hclosing ▸ hheard⟩

/-- After any other attempt the run waits; an interrupt ends it there. -/
theorem Plays.waits
    (hsettles : ¬ p.Settles attempt (script.spent attempt) (script.outcome attempt))
    (hleft : attempt < p.config.maxAttempts)
    (again : Except ε τ → Activity ω (Except (CallError ε) τ)) :
    ∃ after,
      (attemptThen site pause body attempt again).runIn world =
          (if interrupted attempt then (.ok (.error (.rejected (.interrupted p.name))), after)
            else (again (script.outcome attempt)).runIn after) ∧
        site.view after = p ∧ calls after = attempt ∧
        heard after = heard world ++ [.retry attempt (script.wait p attempt)] ∧
        (interrupted attempt = false → fits after) := by
  obtain ⟨r, decided, hdraw, ⟨hkept, hheard, hcalls, hstays⟩, -, hrun⟩ :=
    hplays.decided hsite hfits hview hattempt again
  rw [decide_of_attempts hsettles hleft, hdraw] at hkept hheard hrun
  obtain ⟨after, hpause, hpaused, hsame, hcount, hgoes⟩ := hplays.pause decided hstays
  rw [hkept, hcalls] at hpause
  rw [hcalls] at hgoes
  refine ⟨after, ?_, hpaused.trans hkept, hcount.trans hcalls, hsame.trans hheard, hgoes⟩
  rw [hrun _ _ after rfl hpause]
  cases interrupted attempt with
  | false => rfl
  | true => rfl

/-- As long as attempts are retried and waits are not interrupted, the run goes on. -/
theorem Plays.attempts_reach
    (count left : Nat)
    (hleft : attempt + count + left = p.config.maxAttempts)
    (hretried : ∀ i, attempt ≤ i → i < attempt + count →
      ¬ p.Settles i (script.spent i) (script.outcome i) ∧ interrupted i = false) :
    ∃ middle,
      (attempts site pause body (count + left) attempt).runIn world =
          (attempts site pause body left (attempt + count)).runIn middle ∧
        (fits middle ∧ site.view middle = p ∧ attempt + count = calls middle + 1) ∧
        heard middle = heard world ++ script.retries p attempt count := by
  induction count generalizing attempt world with
  | zero =>
      refine ⟨world, ?_, ⟨hfits, hview, hattempt⟩, (List.append_nil _).symm⟩
      rw [Nat.zero_add, Nat.add_zero]
  | succ count ih =>
      obtain ⟨hsettles, hgoes⟩ := hretried attempt le_rfl (by omega)
      obtain ⟨waited, hrun, hkept, hcalls, hheard, hstays⟩ :=
        hplays.waits hsite hfits hview hattempt hsettles (by omega) fun _ =>
          attempts site pause body (count + left) (attempt + 1)
      obtain ⟨middle, hlater, ⟨hmiddle, hsame, hcount⟩, hlog⟩ :=
        ih (hstays hgoes) hkept (by rw [hcalls]) (by omega)
          fun i hfirst hlast => hretried i (by omega) (by omega)
      have hshift : attempt + (count + 1) = attempt + 1 + count := by
        omega
      refine ⟨middle, ?_, ⟨hmiddle, hsame, hshift ▸ hcount⟩, ?_⟩
      · rw [hshift, Nat.add_right_comm, ← hlater]
        rw [hgoes] at hrun
        exact hrun
      · rw [hlog, hheard, List.append_assoc]
        rfl

end Runs

/-- Whatever else may follow, the attempts from one on begin with it. -/
theorem exists_attempts_eq
    (site : Site ω (Retry ε τ) Event)
    (pause : Span → Activity ω (Except Rejection Unit))
    (body : Activity ω (Except ε τ))
    (left attempt : Nat) :
    ∃ again, attempts site pause body left attempt = attemptThen site pause body attempt again := by
  cases left with
  | zero => exact ⟨_, rfl⟩
  | succ left => exact ⟨_, rfl⟩

/-! ### Waiting on a token -/

/-- A world that is a retry, what it announced, the calls that were made, and whether the token is
interrupted. -/
abbrev OnToken (ε τ : Type) : Type :=
  Retry ε τ × List Event × Nat × Bool

namespace OnToken

/-- A call that interrupts the token at its `turn`-th attempt. -/
def attempt
    (outcome : Nat → Except ε τ)
    (turn : Nat) : Activity (OnToken ε τ) (Except ε τ) := do
  modify fun world =>
    (world.1, world.2.1, world.2.2.1 + 1, turn.ble (world.2.2.1 + 1))
  return outcome (← get).2.2.1

/-- Wait unless the token is interrupted. -/
def pause (_ : Span) : Activity (OnToken ε τ) (Except Rejection Unit) := do
  let world ← get
  return if world.2.2.2 then .error (.interrupted world.1.name) else .ok ()

theorem plays_attempt
    (r : Reading)
    (outcome : Nat → Except ε τ)
    (turn : Nat) :
    Plays (Site.heeded r) (·.2.1) (·.2.2.1) (fun world => world.2.2.2 = turn.ble world.2.2.1)
      ⟨outcome, fun _ => elapsed r.now r.now, fun _ => r.draw⟩ (fun i => turn.ble i) pause
      (attempt outcome turn) := by
  constructor
  · intro world _
    exact ⟨_, rfl, ⟨rfl, rfl, rfl, rfl⟩, rfl, rfl⟩
  · intro world hfits
    refine ⟨world, ?_, rfl, rfl, rfl, fun _ => hfits⟩
    show (Except.ok (if world.2.2.2 then _ else _), world) = _
    rw [hfits]
    rfl

end OnToken

/-- The outcomes of a script settle the number of attempts, the answer and the announcements of every
run that follows it, however it waits between the attempts: the last attempt is the first one whose
outcome is not worth another or that uses up the attempts, and each attempt before it is announced with
the wait after it.  A wait that is interrupted ends the run after the attempts made so far. -/
theorem execute_follows_script
    {p : Retry ε τ}
    (hvalid : p.config.validate = .ok ())
    (script : Script ε τ) :
    ∃ n answer closing,
      IsLeast {attempt | 0 < attempt ∧ script.Ends p attempt} n ∧
        p.Closes n (script.spent n) (script.outcome n) answer closing ∧
        ∀ {ω : Type} (site : Site ω (Retry ε τ) Event) (heard : ω → List Event) (calls : ω → Nat)
          (fits : ω → Prop) (interrupted : Nat → Bool)
          (pause : Span → Activity ω (Except Rejection Unit)) (body : Activity ω (Except ε τ))
          (world : ω),
          (site.Observed (fun world => (heard world, calls world, fits world))
            fun known event => (known.1 ++ [event], known.2)) →
          Plays site heard calls fits script interrupted pause body →
          fits world → site.view world = p → calls world = 0 →
            ((∀ i, 0 < i → i < n → interrupted i = false) →
              ∃ after, (execute site pause body).runIn world = (.ok answer, after) ∧
                calls after = n ∧
                heard after = heard world ++ script.retries p 1 (n - 1) ++ closing) ∧
            ∀ i, 0 < i → i < n → (∀ j, 0 < j → j < i → interrupted j = false) →
              interrupted i = true →
                ∃ after,
                  (execute site pause body).runIn world =
                      (.ok (.error (.rejected (.interrupted p.name))), after) ∧
                    calls after = i ∧ heard after = heard world ++ script.retries p 1 i := by
  have hpositive := Config.maxAttempts_pos hvalid
  obtain ⟨n, hleast⟩ := script.exists_isLeast_ends p hpositive
  obtain ⟨answer, closing, hcloses⟩ :=
    p.exists_closes n (script.spent n) (script.outcome n)
  refine ⟨n, answer, closing, hleast, hcloses, ?_⟩
  intro ω site heard calls fits interrupted pause body world hsite hplays hfits hview hcalls
  obtain ⟨⟨hfirst, hends⟩, hmin⟩ := hleast
  have hmax : n ≤ p.config.maxAttempts := hmin ⟨hpositive, .inr rfl⟩
  have hretried (i : Nat) (hi : 0 < i) (hn : i < n) :
      ¬ p.Settles i (script.spent i) (script.outcome i) :=
    fun hsettles => absurd (hmin ⟨hi, .inl hsettles⟩) (Nat.not_le.mpr hn)
  have hexecute :
      (execute site pause body).runIn world =
        (attempts site pause body (p.config.maxAttempts - 1) 1).runIn world := by
    have hstate : site.state.runIn world = (.ok (site.view world), world) := rfl
    unfold execute
    rw [Activity.runIn_bind_ok hstate, hview]
  have hone : 1 = calls world + 1 := by
    rw [hcalls]
  -- The run reaches attempt `k`, as long as none before it ends it and no wait is interrupted.
  have hreach (k : Nat) (hk : 0 < k) (hkn : k ≤ n)
      (hgoes : ∀ i, 0 < i → i < k → interrupted i = false) :
      ∃ again middle,
        (execute site pause body).runIn world =
            (attemptThen site pause body k again).runIn middle ∧
          (fits middle ∧ site.view middle = p ∧ k = calls middle + 1) ∧
          heard middle = heard world ++ script.retries p 1 (k - 1) := by
    obtain ⟨middle, hrun, ⟨hstays, hkept, hcount⟩, hheard⟩ :=
      hplays.attempts_reach hsite hfits hview hone (k - 1)
        (p.config.maxAttempts - k) (by omega)
        fun i hi hlast => ⟨hretried i hi (by omega), hgoes i hi (by omega)⟩
    obtain ⟨again, hagain⟩ :=
      exists_attempts_eq site pause body (p.config.maxAttempts - k) (1 + (k - 1))
    have hshift : 1 + (k - 1) = k := by
      omega
    have hall : k - 1 + (p.config.maxAttempts - k) = p.config.maxAttempts - 1 := by
      omega
    rw [hagain, hshift, hall, ← hexecute] at hrun
    exact ⟨again, middle, hrun, ⟨hstays, hkept, hshift ▸ hcount⟩, hheard⟩
  constructor
  · intro hgoes
    obtain ⟨again, middle, hrun, ⟨hstays, hkept, hcount⟩, hheard⟩ :=
      hreach n hfirst le_rfl hgoes
    obtain ⟨after, hlast, hmade, hlog⟩ :=
      hplays.ends hsite hstays hkept hcount hends hcloses again
    exact ⟨after, hrun.trans hlast, hmade, by rw [hlog, hheard]⟩
  · intro i hi hin hgoes hinterrupted
    obtain ⟨again, middle, hrun, ⟨hstays, hkept, hcount⟩, hheard⟩ := hreach i hi hin.le hgoes
    obtain ⟨after, hwait, -, hmade, hlog, -⟩ :=
      hplays.waits hsite hstays hkept hcount (hretried i hi hin) (lt_of_lt_of_le hin hmax) again
    rw [hinterrupted] at hwait
    refine ⟨after, hrun.trans hwait, hmade, ?_⟩
    obtain ⟨count, rfl⟩ : ∃ count, i = count + 1 := ⟨i - 1, by omega⟩
    rw [hlog, hheard, List.append_assoc, script.retries_concat, Nat.add_comm 1 count]
    rfl

/-- Three attempts, of which the second brings a value that is selected and the others errors that are
counted, exhaust the run; when the token is interrupted at the second one, the run ends with the wait
after it. -/
theorem execute_follows_script_exhausted :
    let policy : Policy Nat Nat :=
      ⟨some (Classifier.matching fun failure => Nat.ble 500 failure.error),
        some fun value => Nat.blt value 10⟩
    let p : Retry Nat Nat := ⟨"retry", Config.standard, policy, Metrics.none⟩
    let outcome (i : Nat) : Except Nat Nat := if i = 2 then .ok 3 else .error (500 + i)
    let site : Site (OnToken Nat Nat) (Retry Nat Nat) Event := Site.heeded ⟨0, .zero false⟩
    let wait := Span.ofMillis 500
    (∃ after,
      (execute site OnToken.pause (OnToken.attempt outcome 9)).runIn (p, [], 0, false) =
          (.ok (.error (.exhausted "retry" 3 503)), after) ∧
        after.2.2.1 = 3 ∧ after.2.1 = [.retry 1 wait, .retry 2 wait, .error 3]) ∧
      ∃ after,
        (execute site OnToken.pause (OnToken.attempt outcome 2)).runIn (p, [], 0, false) =
            (.ok (.error (.rejected (.interrupted "retry"))), after) ∧
          after.2.2.1 = 2 ∧ after.2.1 = [.retry 1 wait, .retry 2 wait] := by
  intro policy p outcome site wait
  let r : Reading := ⟨0, .zero false⟩
  let script : Script Nat Nat := ⟨outcome, fun _ => elapsed 0 0, fun _ => .zero false⟩
  have hretried (i : Nat) (h : i = 1 ∨ i = 2 ∨ i = 3) : ¬ p.Settles i (elapsed 0 0) (outcome i) := by
    rw [← worthRetrying_eq_false_iff, Bool.not_eq_false]
    rcases h with rfl | rfl | rfl <;> decide
  have hthird : IsLeast {attempt | 0 < attempt ∧ script.Ends p attempt} 3 := by
    refine ⟨⟨by decide, .inr rfl⟩, ?_⟩
    rintro i ⟨hi, hends⟩
    by_contra hlt
    rcases hends with hsettles | hmax
    · exact hretried i (by omega) hsettles
    · exact hlt hmax.ge
  obtain ⟨n, answer, closing, hleast, hcloses, hruns⟩ :=
    execute_follows_script (p := p) (by decide) script
  obtain rfl := hleast.unique hthird
  rcases hcloses with _ | ⟨_, h⟩ | _ | ⟨_, h⟩
  · exact absurd h (hretried 3 (by decide))
  obtain ⟨hall, -⟩ :=
    hruns site (·.2.1) (·.2.2.1) _ _ OnToken.pause (OnToken.attempt outcome 9) (p, [], 0, false)
      (Site.observed_heeded r fun rest : Nat × Bool => (rest.1, rest.2 = Nat.ble 9 rest.1))
      (OnToken.plays_attempt r outcome 9) rfl rfl rfl
  obtain ⟨-, hcut⟩ :=
    hruns site (·.2.1) (·.2.2.1) _ _ OnToken.pause (OnToken.attempt outcome 2) (p, [], 0, false)
      (Site.observed_heeded r fun rest : Nat × Bool => (rest.1, rest.2 = Nat.ble 2 rest.1))
      (OnToken.plays_attempt r outcome 2) rfl rfl rfl
  have hbelow {turn i : Nat} (h : i < turn) : turn.ble i = false :=
    Bool.eq_false_iff.mpr fun hle => absurd (Nat.le_of_ble_eq_true hle) (Nat.not_le.mpr h)
  refine ⟨hall fun i _ hi => hbelow ?_, hcut 2 (by decide) (by decide) (fun j _ hj => hbelow hj) rfl⟩
  exact hi.trans (by decide)

end Retry
end FaultTolerance
