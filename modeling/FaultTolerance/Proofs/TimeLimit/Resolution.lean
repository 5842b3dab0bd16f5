import FaultTolerance.Proofs.Activity
import FaultTolerance.TimeLimit.Race

/-!
# A race is resolved once

Whoever claims a race first decides it.  So a race stands in one of few ways: nobody has claimed it,
or the worker has, and its outcome is on its way or delivered, or the caller has at the deadline, or
the worker crashed before anybody did and the caller crashed with it.  Each move leads from one of
these to another.  However the worker goes on after the caller has ended, the end stays as it is.

## Main definitions

* `Race.ranTo`: how the worker's run ends under a schedule.
* `Race.Delivers`, `Race.Standing`: the ways in which a race can stand.
* `Ending.answer`, `Ending.events`: what the caller answers and announces at an end.
* `Race.announced`: what the caller announces under a schedule.

**Results.**
* `Race.Standing.run`: every schedule leads to one of the standings.
* `Race.Standing.ended_of_sublist`: a caller whose deadline passes comes to an end.
* `Race.events_append_announced`: the end is announced once.
* `answer_of_ended`: the answer of a blocking call is that of its end.
* `blocking_call_resolves_once`: a blocking call ends in one way only.
-/

namespace FaultTolerance
namespace TimeLimit

variable {ω ε τ γ α : Type}

/-- The end of the worker's run that a move tells. -/
def Move.ran : Move α → Option (Except String α)
  | .workerReturns value => some (.ok value)
  | .workerCrashes text => some (.error text)
  | _ => none

/-- A worker that has claimed nothing yet, after a run that ended as stated. -/
inductive Worker.Unclaimed : Option (Except String α) → Worker α → Prop
  | running : Unclaimed none .running
  | claiming (value : α) : Unclaimed (some (.ok value)) (.claiming value)
  | crashed (text : String) : Unclaimed (some (.error text)) (.crashed text)

/-- A worker that cannot decide the race any more. -/
inductive Worker.Late : Option (Except String α) → Worker α → Prop
  | unclaimed {ran : Option (Except String α)} {worker : Worker α} (h : worker.Unclaimed ran) :
      Late ran worker
  | discarded (value : α) : Late (some (.ok value)) .finished

/-- A worker that decided the race: its outcome is on its way to the channel, or in it. -/
inductive Worker.Won (value : α) : Option α → Worker α → Prop
  | underway : Won value none (.delivering value)
  | delivered : Won value (some value) .finished

/-- A caller that has not looked at the claim yet. -/
inductive Caller.Early : Caller α → Prop
  | waiting : Early .waiting
  | claiming : Early .claiming

/-- A caller that has neither ended nor claimed the race. -/
inductive Caller.Pending : Caller α → Prop
  | early {caller : Caller α} (h : caller.Early) : Pending caller
  | waitingOn : Pending .waitingOn

namespace Race

/-- How the worker's run ends under a schedule: the first end that a move tells counts. -/
def ranTo (moves : List (Move α)) : Option (Except String α) :=
  moves.findSome? Move.ran

/-- A race that the worker has won: the caller receives its outcome, or has received it. -/
inductive Delivers (value : α) : Race α → Prop
  | pending
      {channel : Option α}
      {worker : Worker α}
      {caller : Caller α}
      (hworker : worker.Won value channel)
      (hcaller : caller.Pending) :
      Delivers value ⟨true, channel, false, worker, caller⟩
  | received : Delivers value ⟨true, some value, false, .finished, .ended (.outcome value)⟩

/-- The ways in which a race can stand after the worker's run ended as stated, if it did. -/
inductive Standing (cancel : Bool) : Option (Except String α) → Race α → Prop
  | unclaimed
      {ran : Option (Except String α)}
      {worker : Worker α}
      {caller : Caller α}
      (hworker : worker.Unclaimed ran)
      (hcaller : caller.Early) :
      Standing cancel ran ⟨false, none, false, worker, caller⟩
  | crashed (text : String) :
      Standing cancel (some (.error text))
        ⟨false, none, false, .crashed text, .ended (.crashed text)⟩
  | won {race : Race α} {value : α} (h : race.Delivers value) :
      Standing cancel (some (.ok value)) race
  | timedOut
      {ran : Option (Except String α)}
      {worker : Worker α}
      (hworker : worker.Late ran) :
      Standing cancel ran ⟨true, none, cancel, worker, .ended .timedOut⟩

/-! ### Moves -/

section Moves

variable {cancel : Bool} {ran : Option (Except String α)} {race : Race α}

/-- The race after a move, which is skipped if it is not possible. -/
def next
    (cancel : Bool)
    (race : Race α)
    (m : Move α) : Race α :=
  (race.step cancel m).getD race

theorem standing_start : Standing cancel none (start : Race α) :=
  .unclaimed .running .waiting

/-- Once the worker has won, the caller can only receive its outcome. -/
theorem Delivers.next
    {value : α}
    (h : race.Delivers value)
    (m : Move α) :
    (race.next cancel m).Delivers value := by
  cases h with
  | pending hworker hcaller =>
      cases m with
      | workerDelivers =>
          cases hworker with
          | underway => exact .pending .delivered hcaller
          | delivered => exact .pending .delivered hcaller
      | deadlinePasses =>
          rcases hcaller with ⟨_ | _⟩ | _
          · exact .pending hworker (.early .claiming)
          · exact .pending hworker (.early .claiming)
          · exact .pending hworker .waitingOn
      | callerClaims =>
          rcases hcaller with ⟨_ | _⟩ | _
          · exact .pending hworker (.early .waiting)
          · exact .pending hworker .waitingOn
          · exact .pending hworker .waitingOn
      | callerReceives =>
          rcases hcaller with ⟨_ | _⟩ | _
          · cases hworker with
            | underway => exact .pending .underway (.early .waiting)
            | delivered => exact .received
          · exact .pending hworker (.early .claiming)
          · cases hworker with
            | underway => exact .pending .underway .waitingOn
            | delivered => exact .received
      | _ =>
          cases hworker with
          | underway => exact .pending .underway hcaller
          | delivered => exact .pending .delivered hcaller
  | received => cases m <;> exact .received

/-- Every move leads from one of the standings to another. -/
theorem Standing.next
    (h : Standing cancel ran race)
    (m : Move α) :
    Standing cancel (ran.or m.ran) (race.next cancel m) := by
  cases h with
  | unclaimed hworker hcaller =>
      cases m with
      | workerReturns value =>
          cases hworker with
          | running => exact .unclaimed (.claiming value) hcaller
          | claiming first => exact .unclaimed (.claiming first) hcaller
          | crashed text => exact .unclaimed (.crashed text) hcaller
      | workerCrashes text =>
          cases hworker with
          | running => exact .unclaimed (.crashed text) hcaller
          | claiming first => exact .unclaimed (.claiming first) hcaller
          | crashed first => exact .unclaimed (.crashed first) hcaller
      | workerClaims =>
          cases hworker with
          | running => exact .unclaimed .running hcaller
          | claiming value => exact .won (.pending .underway (.early hcaller))
          | crashed text => exact .unclaimed (.crashed text) hcaller
      | workerDelivers =>
          cases hworker with
          | running => exact .unclaimed .running hcaller
          | claiming value => exact .unclaimed (.claiming value) hcaller
          | crashed text => exact .unclaimed (.crashed text) hcaller
      | deadlinePasses =>
          rw [show ran.or Move.deadlinePasses.ran = ran from Option.or_none]
          cases hcaller with
          | waiting => exact .unclaimed hworker .claiming
          | claiming => exact .unclaimed hworker .claiming
      | callerReceives =>
          rw [show ran.or Move.callerReceives.ran = ran from Option.or_none]
          cases hcaller with
          | waiting =>
              cases hworker with
              | running => exact .unclaimed .running .waiting
              | claiming value => exact .unclaimed (.claiming value) .waiting
              | crashed text => exact .crashed text
          | claiming => exact .unclaimed hworker .claiming
      | callerClaims =>
          rw [show ran.or Move.callerClaims.ran = ran from Option.or_none]
          cases hcaller with
          | waiting => exact .unclaimed hworker .waiting
          | claiming => exact .timedOut (.unclaimed hworker)
  | crashed text => cases m <;> exact .crashed text
  | won h => exact .won (h.next m)
  | timedOut hworker =>
      rcases hworker with ⟨_ | value | text⟩ | value
      · cases m with
        | workerReturns value => exact .timedOut (.unclaimed (.claiming value))
        | workerCrashes text => exact .timedOut (.unclaimed (.crashed text))
        | _ => exact .timedOut (.unclaimed .running)
      · cases m with
        | workerClaims => exact .timedOut (.discarded value)
        | _ => exact .timedOut (.unclaimed (.claiming value))
      · cases m <;> exact .timedOut (.unclaimed (.crashed text))
      · cases m <;> exact .timedOut (.discarded value)

/-- A caller that has ended stays so, and leaves the token alone. -/
theorem next_of_ended
    {ending : Ending α}
    (h : race.caller = .ended ending)
    (m : Move α) :
    (race.next cancel m).caller = .ended ending ∧ (race.next cancel m).token = race.token := by
  obtain ⟨claimed, channel, token, worker, caller⟩ := race
  subst h
  cases m with
  | workerReturns value => cases worker <;> exact ⟨rfl, rfl⟩
  | workerCrashes text => cases worker <;> exact ⟨rfl, rfl⟩
  | workerClaims => cases worker <;> cases claimed <;> exact ⟨rfl, rfl⟩
  | workerDelivers => cases worker <;> exact ⟨rfl, rfl⟩
  | _ => exact ⟨rfl, rfl⟩

/-- How far a caller has come on its way past the deadline: it claims, waits for the outcome, finds
the outcome in the channel, and has ended. -/
def stage (race : Race α) : Nat :=
  match race.caller, race.channel with
  | .waiting, _ => 0
  | .claiming, _ => 1
  | .waitingOn, none => 2
  | .waitingOn, some _ => 3
  | .ended _, _ => 4

/-- The moves that bring a caller from each stage to the next one. -/
def pastDeadline : List (Move α) :=
  [.deadlinePasses, .callerClaims, .workerDelivers, .callerReceives]

/-- No move leads back. -/
theorem stage_le_next
    (race : Race α)
    (m : Move α) :
    race.stage ≤ (race.next cancel m).stage := by
  obtain ⟨claimed, channel, token, worker, caller⟩ := race
  cases m with
  | workerReturns value | workerCrashes text => cases worker <;> exact le_rfl
  | workerClaims => cases worker <;> cases claimed <;> exact le_rfl
  | workerDelivers =>
      cases worker with
      | delivering value => cases caller <;> cases channel <;> simp [next, step, stage]
      | _ => exact le_rfl
  | deadlinePasses => cases caller <;> simp [next, step, stage]
  | callerClaims => cases caller <;> cases claimed <;> cases channel <;> simp [next, step, stage]
  | callerReceives =>
      cases caller with
      | waiting => exact Nat.zero_le _
      | waitingOn =>
          cases channel with
          | some value => simp [next, step, receive, stage]
          | none => cases worker <;> simp [next, step, receive, stage]
      | _ => exact le_rfl

/-- At each stage one move leads on. -/
theorem Standing.stage_lt_next
    (h : Standing cancel ran race)
    {m : Move α}
    (hm : pastDeadline[race.stage]? = some m) :
    race.stage < (race.next cancel m).stage := by
  cases h with
  | unclaimed hworker hcaller =>
      cases hcaller with
      | waiting =>
          obtain rfl : .deadlinePasses = m := Option.some.inj hm
          exact Nat.zero_lt_one
      | claiming =>
          obtain rfl : .callerClaims = m := Option.some.inj hm
          exact Nat.one_lt_succ_succ 2
  | crashed text => cases hm
  | won h =>
      cases h with
      | pending hworker hcaller =>
          rcases hcaller with ⟨_ | _⟩ | _
          · obtain rfl : .deadlinePasses = m := Option.some.inj hm
            exact Nat.zero_lt_one
          · obtain rfl : .callerClaims = m := Option.some.inj hm
            cases hworker with
            | underway => exact Nat.one_lt_succ_succ 0
            | delivered => exact Nat.one_lt_succ_succ 1
          · cases hworker with
            | underway =>
                obtain rfl : .workerDelivers = m := Option.some.inj hm
                exact Nat.lt_succ_self 2
            | delivered =>
                obtain rfl : .callerReceives = m := Option.some.inj hm
                exact Nat.lt_succ_self 3
      | received => cases hm
  | timedOut hworker => cases hm

/-- Only a caller that has ended has come all the way. -/
theorem exists_ending_of_stage
    (h : 4 ≤ race.stage) :
    ∃ ending, race.caller = .ended ending := by
  obtain ⟨claimed, channel, token, worker, caller⟩ := race
  cases caller with
  | ended ending => exact ⟨ending, rfl⟩
  | _ => cases channel <;> simp [stage] at h

end Moves

/-! ### Schedules -/

section Schedules

variable {cancel : Bool} {ran : Option (Except String α)} {race : Race α}

theorem run_cons
    (cancel : Bool)
    (m : Move α)
    (moves : List (Move α))
    (race : Race α) :
    race.run cancel (m :: moves) = (race.next cancel m).run cancel moves :=
  rfl

theorem ranTo_cons
    (m : Move α)
    (moves : List (Move α)) :
    ranTo (m :: moves) = m.ran.or (ranTo moves) := by
  unfold ranTo
  rw [List.findSome?_cons]
  cases m.ran <;> rfl

/-- Every schedule leads to one of the standings. -/
theorem Standing.run
    (h : Standing cancel ran race)
    (moves : List (Move α)) :
    Standing cancel (ran.or (ranTo moves)) (race.run cancel moves) := by
  induction moves generalizing ran race with
  | nil =>
      rw [show ran.or (ranTo []) = ran from Option.or_none]
      exact h
  | cons m moves ih =>
      rw [run_cons, ranTo_cons, ← Option.or_assoc]
      exact ih (h.next m)

/-- Under every schedule the caller of a race that the worker has won can only receive its outcome. -/
theorem Delivers.run
    {value : α}
    (h : race.Delivers value)
    (moves : List (Move α)) :
    (race.run cancel moves).Delivers value := by
  induction moves generalizing race with
  | nil => exact h
  | cons m moves ih => exact ih (h.next m)

/-- However a schedule goes on, a caller that has ended stays so, and leaves the token alone. -/
theorem run_of_ended
    {ending : Ending α}
    (h : race.caller = .ended ending)
    (moves : List (Move α)) :
    (race.run cancel moves).caller = .ended ending ∧
      (race.run cancel moves).token = race.token := by
  induction moves generalizing race with
  | nil => exact ⟨h, rfl⟩
  | cons m moves ih =>
      obtain ⟨hcaller, htoken⟩ := next_of_ended h m
      obtain ⟨hlater, hsame⟩ := ih hcaller
      exact ⟨hlater, hsame.trans htoken⟩

/-- A schedule that goes on through the remaining stages brings the caller to its end, whatever else
happens in between. -/
theorem Standing.ended_of_sublist
    (h : Standing cancel ran race)
    {moves : List (Move α)}
    {reached : Nat}
    (hreached : reached ≤ race.stage)
    (hmoves : (pastDeadline.drop reached).Sublist moves) :
    ∃ ending, (race.run cancel moves).caller = .ended ending := by
  induction moves generalizing ran race reached with
  | nil =>
      have hlast : 4 ≤ reached := List.drop_eq_nil_iff.mp (List.sublist_nil.mp hmoves)
      exact exists_ending_of_stage (le_trans hlast hreached)
  | cons m moves ih =>
      have hkept : reached ≤ (race.next cancel m).stage := le_trans hreached (stage_le_next race m)
      rw [run_cons]
      rcases hrest : pastDeadline.drop reached with _ | ⟨first, rest⟩
      · exact ih (h.next m) hkept (hrest ▸ List.nil_sublist moves)
      · rw [hrest] at hmoves
        cases hmoves with
        | cons _ hlater => exact ih (h.next m) hkept (hrest ▸ hlater)
        | cons_cons _ hlater =>
            have hnext : pastDeadline.drop (reached + 1) = rest := by
              rw [← List.drop_drop, hrest]
              rfl
            have hon : reached + 1 ≤ (race.next cancel m).stage := by
              rcases Nat.lt_or_eq_of_le hreached with hlt | rfl
              · exact le_trans hlt (stage_le_next race m)
              · refine h.stage_lt_next ?_
                rw [← List.head?_drop, hrest]
                rfl
            exact ih (h.next m) hon (hnext ▸ hlater)

end Schedules
end Race

/-! ### Ends -/

/-- What a caller answers at the end of a race. -/
def Ending.answer
    (limit : TimeLimit) : Ending (Except ε τ) → Except Halt (Except (CallError ε) τ)
  | .outcome result => .ok (result.mapError .execution)
  | .timedOut => .ok (.error (.timeout limit.name limit.config.timeout))
  | .crashed text => .error (.crash text)
  | .lost => .error (.crash "time limiter worker exited without an outcome")

/-- What a caller announces at the end of a race: its outcome or the timeout, and nothing if it
crashes. -/
def Ending.events : Ending (Except ε τ) → List Event
  | .outcome (.ok _) => [.success]
  | .outcome (.error _) => [.error]
  | .timedOut => [.timeout]
  | .crashed _ | .lost => []

/-- What a caller has announced so far. -/
def Caller.events : Caller (Except ε τ) → List Event
  | .ended ending => ending.events
  | _ => []

namespace Race

/-- What the caller announces when a move ends it. -/
def announces
    (cancel : Bool)
    (race : Race (Except ε τ))
    (m : Move (Except ε τ)) : List Event :=
  match race.caller with
  | .ended _ => []
  | _ => (race.next cancel m).caller.events

/-- What the caller announces under a schedule. -/
def announced
    (cancel : Bool)
    (race : Race (Except ε τ)) : List (Move (Except ε τ)) → List Event
  | [] => []
  | m :: moves => race.announces cancel m ++ (race.next cancel m).announced cancel moves

theorem events_append_announces
    (cancel : Bool)
    (race : Race (Except ε τ))
    (m : Move (Except ε τ)) :
    race.caller.events ++ race.announces cancel m = (race.next cancel m).caller.events := by
  unfold announces
  cases hcaller : race.caller with
  | ended ending =>
      rw [(next_of_ended hcaller m).1]
      exact List.append_nil _
  | _ => rfl

/-- What is announced under a schedule is what the caller that it leads to has announced. -/
theorem events_append_announced
    (cancel : Bool)
    (race : Race (Except ε τ))
    (moves : List (Move (Except ε τ))) :
    race.caller.events ++ race.announced cancel moves = (race.run cancel moves).caller.events := by
  induction moves generalizing race with
  | nil => exact List.append_nil _
  | cons m moves ih =>
      unfold announced
      rw [← List.append_assoc, events_append_announces, ih, run_cons]

end Race

/-- A caller answers and announces its end, and leaves the time limit as it is. -/
theorem answer_of_ended
    {site : Site ω TimeLimit Event}
    {observe : ω → γ}
    {hear : γ → Event → γ}
    (hsite : site.Observed observe hear)
    {race : Race (Except ε τ)}
    {ending : Ending (Except ε τ)}
    (h : race.caller = .ended ending)
    (world : ω) :
    ∃ after,
      (answer site race).runIn world = (ending.answer (site.view world), after) ∧
        site.view after = site.view world ∧
        observe after = ending.events.foldl hear (observe world) := by
  unfold answer
  rw [h]
  cases ending with
  | outcome outcome =>
      obtain ⟨r, after, hrun, hdone⟩ := hsite.perform (finish outcome) world
      cases outcome with
      | ok value => exact ⟨after, hrun, hdone.view, hdone.observed⟩
      | error e => exact ⟨after, hrun, hdone.view, hdone.observed⟩
  | timedOut =>
      obtain ⟨r, after, hrun, hdone⟩ := hsite.perform expire world
      exact ⟨after, hrun, hdone.view, hdone.observed⟩
  | crashed text => exact ⟨world, rfl, rfl, rfl⟩
  | lost => exact ⟨world, rfl, rfl, rfl⟩

/-! ### Resolution -/

section Resolution

open Race

variable {cancel : Bool} {ran : Option (Except String α)} {race : Race α}

/-- A caller ends with the outcome or the crash of the worker's run, or at its deadline. -/
theorem Race.Standing.ending_cases
    (h : Standing cancel ran race)
    {ending : Ending α}
    (hended : race.caller = .ended ending) :
    (∃ value, ending = .outcome value ∧ ran = some (.ok value)) ∨
      (ending = .timedOut ∧ race.channel = none ∧ race.token = cancel) ∨
      ∃ text, ending = .crashed text ∧ ran = some (.error text) := by
  cases h with
  | unclaimed hworker hcaller =>
      subst hended
      cases hcaller
  | crashed text =>
      cases hended
      exact .inr (.inr ⟨text, rfl, rfl⟩)
  | @won _ value h =>
      cases h with
      | pending hworker hcaller =>
          subst hended
          cases hcaller with
          | early h => cases h
      | received =>
          cases hended
          exact .inl ⟨value, rfl, rfl⟩
  | timedOut hworker =>
      cases hended
      exact .inr (.inl ⟨rfl, rfl, rfl⟩)

/-- Only at the deadline, and if cancelling is set, the token is interrupted. -/
theorem Race.Standing.token_eq_true_iff
    (h : Standing cancel ran race) :
    race.token = true ↔ cancel = true ∧ race.caller = .ended .timedOut := by
  cases h with
  | unclaimed hworker hcaller => cases hcaller <;> simp
  | crashed text => simp
  | won h =>
      cases h with
      | pending hworker hcaller => rcases hcaller with ⟨_ | _⟩ | _ <;> simp
      | received => simp
  | timedOut hworker => simp

/-- A caller whose claim failed waits for a worker that has won. -/
theorem Race.Standing.delivers_of_waitingOn
    (h : Standing cancel ran race)
    (hcaller : race.caller = .waitingOn) :
    ∃ value, ran = some (.ok value) ∧ race.Delivers value := by
  cases h with
  | unclaimed hworker hearly =>
      subst hcaller
      cases hearly
  | crashed text => cases hcaller
  | @won _ value h => exact ⟨value, rfl, h⟩
  | timedOut hworker => cases hcaller

/-- It finds the outcome in the channel, or the worker is about to put it there. -/
theorem Race.Delivers.receive_cases
    {value : α}
    (h : race.Delivers value) :
    race.receive = some (.outcome value) ∨ race.receive = none ∧ race.worker = .delivering value := by
  cases h with
  | pending hworker hcaller =>
      cases hworker with
      | underway => exact .inr ⟨rfl, rfl⟩
      | delivered => exact .inl rfl
  | received => exact .inl rfl

/-- The only end of its caller is the outcome. -/
theorem Race.Delivers.ending_eq
    {value : α}
    (h : race.Delivers value)
    {ending : Ending α}
    (hended : race.caller = .ended ending) :
    ending = .outcome value := by
  cases h with
  | pending hworker hcaller =>
      subst hended
      cases hcaller with
      | early h => cases h
  | received =>
      cases hended
      rfl

end Resolution

/-- A blocking call, under every schedule of its two parties: if it ends, it ends with the outcome of
the worker's run, at its deadline, or with the worker's crash.  The end is announced once and is final;
what a late worker brings does not even reach the channel.  The token is interrupted only at the
deadline, and if cancelling is set.  A caller that claims too late finds the outcome in the channel or
waits for a worker that is about to put it there, and ends with it.  However the schedule goes on, the
call has ended once its deadline passed, the caller claimed, the worker delivered what it had claimed,
and the caller received. -/
theorem blocking_call_resolves_once
    (cancel : Bool)
    (moves : List (Move (Except ε τ))) :
    let race := Race.start.run cancel moves
    let ran := Race.ranTo moves
    (∀ ending, race.caller = .ended ending →
      ((∃ result, ending = .outcome result ∧ ran = some (.ok result)) ∨ ending = .timedOut ∨
          ∃ text, ending = .crashed text ∧ ran = some (.error text)) ∧
        (∀ later, (race.run cancel later).caller = .ended ending ∧
          (race.run cancel later).token = race.token ∧ race.announced cancel later = [] ∧
            (ending = .timedOut → (race.run cancel later).channel = none)) ∧
        ∀ {ω γ : Type} (site : Site ω TimeLimit Event) (observe : ω → γ) (hear : γ → Event → γ)
          (world : ω), site.Observed observe hear →
            ∃ after,
              (answer site race).runIn world = (ending.answer (site.view world), after) ∧
                observe after = ending.events.foldl hear (observe world)) ∧
      Race.start.announced cancel moves = race.caller.events ∧
      (race.token = true ↔ cancel = true ∧ race.caller = .ended .timedOut) ∧
      (race.caller = .waitingOn →
        ∃ result, ran = some (.ok result) ∧
          (race.receive = some (.outcome result) ∨
            race.receive = none ∧ race.worker = .delivering result) ∧
          ∀ later ending, (race.run cancel later).caller = .ended ending →
            ending = .outcome result) ∧
      ∀ later : List (Move (Except ε τ)),
        [.deadlinePasses, .callerClaims, .workerDelivers, .callerReceives].Sublist later →
          ∃ ending, (race.run cancel later).caller = .ended ending := by
  intro race ran
  have hstanding : Race.Standing cancel ran race := .run Race.standing_start moves
  refine ⟨fun ending hended => ⟨?_, fun later => ?_, fun site observe hear world hsite => ?_⟩,
    Race.events_append_announced cancel Race.start moves, hstanding.token_eq_true_iff,
    fun hcaller => ?_, fun later hlater => hstanding.ended_of_sublist (Nat.zero_le _) hlater⟩
  · rcases hstanding.ending_cases hended with houtcome | ⟨htimeout, -, -⟩ | hcrash
    · exact .inl houtcome
    · exact .inr (.inl htimeout)
    · exact .inr (.inr hcrash)
  · obtain ⟨hcaller, htoken⟩ := Race.run_of_ended hended later
    have hannounced := race.events_append_announced cancel later
    rw [hcaller, ← hended, List.append_right_eq_self] at hannounced
    refine ⟨hcaller, htoken, hannounced, ?_⟩
    rintro rfl
    rcases (hstanding.run later).ending_cases hcaller with ⟨_, h, -⟩ | ⟨-, hchannel, -⟩ | ⟨_, h, -⟩
    · cases h
    · exact hchannel
    · cases h
  · obtain ⟨after, hrun, -, hheard⟩ := answer_of_ended hsite hended world
    exact ⟨after, hrun, hheard⟩
  · obtain ⟨result, hran, hdelivers⟩ := hstanding.delivers_of_waitingOn hcaller
    exact ⟨result, hran, hdelivers.receive_cases,
      fun later ending hended => (hdelivers.run later).ending_eq hended⟩

/-- A worker that claims between its caller's deadline and its caller's claim: the caller waits on,
ends with the outcome, and announces that alone; the token is not interrupted although cancelling is
set. -/
theorem blocking_call_resolves_once_overtaken :
    let limit : TimeLimit := ⟨"call", Config.standard⟩
    let moves : List (Move (Except Unit Nat)) :=
      [.deadlinePasses, .workerReturns (.ok 7), .workerClaims, .callerClaims]
    let waiting := Race.start.run true moves
    let race := Race.start.run true (moves ++ [.workerDelivers, .callerReceives])
    waiting.caller = .waitingOn ∧
      (∃ ending, (waiting.run true
        [.deadlinePasses, .callerClaims, .workerDelivers, .callerReceives]).caller = .ended ending) ∧
      (∃ result, Race.ranTo moves = some (.ok result) ∧
        race.caller = .ended (.outcome result)) ∧
      race.token = false ∧
      ∃ after, (answer (Site.heeded ⟨0, .zero false⟩) race).runIn (limit, [], ()) =
          (.ok (.ok 7), after) ∧
        after.2.1 = [.success] := by
  intro limit moves waiting race
  have hcaller : race.caller = .ended (.outcome (.ok 7)) := rfl
  obtain ⟨-, -, -, hwaiting, hends⟩ := blocking_call_resolves_once true moves
  obtain ⟨result, hran, -, hlater⟩ := hwaiting rfl
  have hresult : .outcome (.ok 7) = Ending.outcome result :=
    hlater [.workerDelivers, .callerReceives] _ rfl
  obtain ⟨hended, -, -, -, -⟩ :=
    blocking_call_resolves_once true (moves ++ [.workerDelivers, .callerReceives])
  obtain ⟨-, -, hanswer⟩ := hended _ hcaller
  obtain ⟨after, hrun, hheard⟩ :=
    hanswer _ _ _ (limit, [], ()) (Site.observed_heeded ⟨0, .zero false⟩ id)
  exact ⟨rfl, hends _ (List.Sublist.refl _), ⟨result, hran, hresult ▸ hcaller⟩, rfl,
    after, hrun, congrArg Prod.fst hheard⟩

end TimeLimit
end FaultTolerance
