import FaultTolerance.Proofs.Adaptive.Settlement

/-!
# Callers of an adaptive bulkhead

Whatever callers do, to any depth of nesting, an adaptive bulkhead sees a run: the looks of callers
that ask for a permit, the permits that return, and the reports.  A caller that waits leaves room for
others between its looks, and a call that halts is not reported.  The permits that the run holds are
those that callers have in hand and those of the calls under way.

## Main definitions

* `Extends`: worlds reached by a run, with what is heard of it.
* `Operates`: activities built from the operations of an adaptive bulkhead, protected calls and
  anything that leaves the bulkhead alone.

**Results.**
* `Operates.extends`: an activity plays a run, also when it halts.
* `Hand.Moment.exists_play`, `Hand.Moment.exists_holding`: every moment of those who hold permits is
  reached by a run, which holds the same permits.
* `limit_follows_verdicts`: the limit, its changes and the permits left in every run.
-/

namespace FaultTolerance
namespace Adaptive

open Time Window

variable {ω α β γ ε τ : Type}

/-- What an event tells of a report; how an acquisition went is not heard. -/
def Event.reported : Event → List Event
  | .callPermitted | .callRejected => []
  | .callFinished verdict => [.callFinished verdict]
  | .limitChanged old new => [.limitChanged old new]

/-- A world reached by a run, with what is heard in between. -/
def Extends
    (site : Site ω Adaptive Event)
    (observe : ω → γ)
    (hear : γ → Event → γ)
    (world after : ω) : Prop :=
  ∃ moves,
    site.view after = (site.view world).play moves ∧
      observe after = ((site.view world).announced moves).foldl hear (observe world)

/-- Activities that reach an adaptive bulkhead through its operations only, some of them inside
protected calls, while others do so as they wait; what else they do leaves the bulkhead alone, and
nothing is heard of it. -/
inductive Operates
    (site : Site ω Adaptive Event)
    (observe : ω → γ) : {α : Type} → Activity ω α → Prop
  | acquire (patience : Bulkhead.Patience ω)
      (hinterrupted : Operates site observe patience.interrupted)
      (hpauses : ∀ pause ∈ patience.pauses, Operates site observe pause) :
      Operates site observe (Adaptive.acquire site patience)
  | release : Operates site observe (site.perform Adaptive.release)
  | complete (elapsed : Span) (failed : Bool) :
      Operates site observe (site.perform (Adaptive.complete elapsed failed))
  | metrics : Operates site observe (site.perform Adaptive.metrics)
  | inspect : Operates site observe (site.perform Adaptive.inspect)
  | call {ε τ : Type} (patience : Bulkhead.Patience ω) {body : Activity ω (Except ε τ)}
      (hinterrupted : Operates site observe patience.interrupted)
      (hpauses : ∀ pause ∈ patience.pauses, Operates site observe pause)
      (hbody : Operates site observe body) :
      Operates site observe (Adaptive.call site patience body)
  | bind {α β : Type} {first : Activity ω α} {next : α → Activity ω β}
      (hfirst : Operates site observe first) (hnext : ∀ a, Operates site observe (next a)) :
      Operates site observe (first >>= next)
  | handle {α : Type} {first : Activity ω α} {handler : Halt → Activity ω α}
      (hfirst : Operates site observe first) (hhandler : ∀ halt, Operates site observe (handler halt)) :
      Operates site observe (tryCatch first handler)
  | aside {α : Type} {activity : Activity ω α}
      (hview : ∀ world, site.view (activity.runIn world).2 = site.view world)
      (hobserve : ∀ world, observe (activity.runIn world).2 = observe world) :
      Operates site observe activity

section Extends

variable {site : Site ω Adaptive Event} {observe : ω → γ} {hear : γ → Event → γ}
variable {world middle after : ω}

theorem extends_of_same
    (hview : site.view after = site.view world)
    (hobserve : observe after = observe world) :
    Extends site observe hear world after :=
  ⟨[], hview, hobserve⟩

/-- Runs follow each other. -/
theorem Extends.trans
    (hfirst : Extends site observe hear world middle)
    (hsecond : Extends site observe hear middle after) :
    Extends site observe hear world after := by
  obtain ⟨moves, hview, hobserve⟩ := hfirst
  obtain ⟨later, hafter, hlater⟩ := hsecond
  refine ⟨moves ++ later, ?_, ?_⟩
  · rw [hafter, hview, play_append]
  · rw [hlater, hobserve, hview, announced_append, List.foldl_append]

theorem extends_of_step
    {m : Reading × Move}
    (hview : site.view after = (site.view world).step m)
    (hobserve : observe after = (m.2.run m.1 (site.view world)).2.2.foldl hear (observe world)) :
    Extends site observe hear world after := by
  refine ⟨[m], hview, ?_⟩
  rw [announced, announced, List.append_nil, hobserve]

/-- The last look of a caller is a move if it granted a permit, and nothing otherwise. -/
theorem extends_of_asked
    {result : Except Halt (Except Rejection Unit)}
    {pool : Bulkhead}
    (hasked : (site.view world).pool.Asked result pool)
    (hview : site.view after = { site.view world with pool })
    (hobserve : observe after = observe world) :
    Extends site observe hear world after := by
  cases hasked with
  | granted hfree =>
      have htake := (Bulkhead.tryTake_of_lt hfree).symm
      refine extends_of_step (m := (site.reading world, .look)) ?_ hobserve
      exact hview.trans
        (congrArg (fun taken => ({ site.view world with pool := taken.2 } : Adaptive)) htake)
  | _ => exact extends_of_same hview hobserve

/-- An operation is a run of the one move it is. -/
theorem extends_of_performed
    {operation : Operation Adaptive Event α}
    {r : Reading}
    (m : Move)
    (hmove : (operation.run r (site.view world)).2 = (m.run r (site.view world)).2)
    (hperformed : site.Performed observe hear operation r world after) :
    Extends site observe hear world after := by
  refine extends_of_step (m := (r, m)) ?_ ?_
  · rw [hperformed.view, hmove]
    rfl
  · rw [hperformed.observed, hmove]

end Extends

/-! ### Activities that play runs -/

section Callers

variable {site : Site ω Adaptive Event} {observe : ω → γ} {hear : γ → Event → γ}
variable {patience : Bulkhead.Patience ω} {world : ω}
variable (hsite : site.Observed observe hear)
include hsite

theorem extends_perform
    {operation : Operation Adaptive Event α}
    (m : Move)
    (hmove : ∀ r a, (operation.run r a).2 = (m.run r a).2)
    (world : ω) :
    Extends site observe hear world ((site.perform operation).runIn world).2 := by
  obtain ⟨r, after, hrun, hperformed⟩ := hsite.perform operation world
  rw [hrun]
  exact extends_of_performed m (hmove r _) hperformed

/-- While a caller waits, a run goes on. -/
theorem keeps_extends
    (hinterrupted : ∀ world, Extends site observe hear world (patience.interrupted.runIn world).2)
    (hpauses : ∀ pause ∈ patience.pauses, ∀ world,
      Extends site observe hear world (pause.runIn world).2) :
    patience.Keeps (poolSite site) (Extends site observe hear) where
  refl := fun _ => extends_of_same rfl rfl
  trans := Extends.trans
  look := fun world _ => extends_of_same (hsite.view_store _ world) (hsite.observe_store _ world)
  interrupted := hinterrupted
  pause := hpauses

variable (hquiet : ∀ known, hear known .callPermitted = known ∧ hear known .callRejected = known)
include hquiet

/-- A caller plays the run of those it waits for, and a look of its own if it is granted a permit. -/
theorem extends_acquire
    (hkeeps : patience.Keeps (poolSite site) (Extends site observe hear))
    (world : ω) :
    Extends site observe hear world ((acquire site patience).runIn world).2 := by
  obtain ⟨last, pool, hrelated, hasked, hview, hobserve⟩ := settles_acquire hsite hkeeps world
  refine hrelated.trans (extends_of_asked hasked hview (hobserve.trans ?_))
  -- How it went is not among the reports.
  rcases ((acquire site patience).runIn world).1 with halt | rejection | _
  · rfl
  · exact (hquiet _).2
  · exact (hquiet _).1

/-- A protected call: an acquisition, the run of its body, and a report, or the return of its permit
if the body halted. -/
theorem extends_call
    (hkeeps : patience.Keeps (poolSite site) (Extends site observe hear))
    {body : Activity ω (Except ε τ)}
    (hbody : ∀ world, Extends site observe hear world (body.runIn world).2)
    (world : ω) :
    Extends site observe hear world ((call site patience body).runIn world).2 := by
  have hrelease (world : ω) :
      Extends site observe hear world ((site.perform release).runIn world).2 :=
    extends_perform hsite .release (fun _ _ => rfl) world
  unfold call
  refine Activity.related_bind Extends.trans (extends_acquire hsite hquiet hkeeps) ?_ world
  rintro (rejection | _) entered
  · exact extends_of_same rfl rfl
  · refine Activity.related_bind Extends.trans (fun _ => extends_of_same rfl rfl) ?_ entered
    intro start
    refine Activity.related_bind Extends.trans ?_ ?_
    · refine Activity.related_tryCatch Extends.trans hbody fun halt => ?_
      exact Activity.related_bind Extends.trans hrelease fun _ _ => extends_of_same rfl rfl
    · intro result
      refine Activity.related_bind Extends.trans (fun _ => extends_of_same rfl rfl) ?_
      intro finish
      refine Activity.related_bind Extends.trans ?_ fun _ _ => extends_of_same rfl rfl
      exact extends_perform hsite (.complete _ _) fun _ _ => rfl

/-- An activity that operates an adaptive bulkhead plays a run of it, also when it halts. -/
theorem Operates.extends
    {activity : Activity ω α}
    (h : Operates site observe activity)
    (world : ω) :
    Extends site observe hear world (activity.runIn world).2 := by
  induction h generalizing world with
  | acquire patience _ _ hinterrupted hpauses =>
      exact extends_acquire hsite hquiet (keeps_extends hsite hinterrupted hpauses) world
  | release => exact extends_perform hsite .release (fun _ _ => rfl) world
  | complete elapsed failed =>
      exact extends_perform hsite (.complete elapsed failed) (fun _ _ => rfl) world
  | metrics => exact extends_perform hsite .metrics (fun _ _ => rfl) world
  | inspect => exact extends_perform hsite .metrics (fun _ _ => rfl) world
  | call patience _ _ _ hinterrupted hpauses hbody =>
      exact extends_call hsite hquiet (keeps_extends hsite hinterrupted hpauses) hbody world
  | bind _ _ hfirst hnext => exact Activity.related_bind Extends.trans hfirst hnext world
  | handle _ _ hfirst hhandler =>
      exact Activity.related_tryCatch Extends.trans hfirst hhandler world
  | aside hview hobserve => exact extends_of_same (hview world) (hobserve world)

end Callers

/-! ### What is heard of a run -/

section Reports

variable {site : Site ω Adaptive Event} {heard : ω → List Event}
variable {patience : Bulkhead.Patience ω} {world : ω}

/-- Nothing that a move announces is about an acquisition. -/
theorem flatMap_reported_run
    (m : Move)
    (r : Reading)
    (a : Adaptive) :
    (m.run r a).2.2.flatMap Event.reported = (m.run r a).2.2 := by
  cases m with
  | complete elapsed failed =>
      have hadjust (settled : Adaptive) (verdict : Verdict) :
          (settled.adjust verdict).2.flatMap Event.reported = (settled.adjust verdict).2 := by
        unfold adjust
        dsimp only
        split_ifs
        · rfl
        · split
          · rfl
          · rfl
      let settled := a.settle r elapsed failed
      exact congrArg (Event.callFinished settled.1 :: ·) (hadjust settled.2 settled.1)
  | _ => rfl

theorem flatMap_reported_announced
    (a : Adaptive)
    (moves : List (Reading × Move)) :
    (a.announced moves).flatMap Event.reported = a.announced moves := by
  induction moves generalizing a with
  | nil => rfl
  | cons m moves ih => rw [announced, List.flatMap_append, flatMap_reported_run, ih]

variable (hsite : site.Observed heard fun log e => log ++ e.reported)
include hsite

/-- Whoever hears the reports hears what is announced in the run. -/
theorem Operates.exists_play
    {activity : Activity ω α}
    (h : Operates site heard activity)
    (world : ω) :
    ∃ moves, site.view (activity.runIn world).2 = (site.view world).play moves ∧
      heard (activity.runIn world).2 = heard world ++ (site.view world).announced moves := by
  have hquiet (log : List Event) :
      log ++ Event.callPermitted.reported = log ∧ log ++ Event.callRejected.reported = log :=
    ⟨List.append_nil log, List.append_nil log⟩
  obtain ⟨moves, hview, hheard⟩ := Operates.extends hsite hquiet h world
  rw [List.foldl_append_eq_append, ← List.flatMap_def, flatMap_reported_announced] at hheard
  exact ⟨moves, hview, hheard⟩

/-- A call that answers is reported, with the time that it took and whether it failed. -/
theorem runIn_call_of_answered
    {body : Activity ω (Except ε τ)}
    {entered ended : ω}
    {result : Except ε τ}
    (hacquire : (acquire site patience).runIn world = (.ok (.ok ()), entered))
    (hbody : body.runIn entered = (.ok result, ended)) :
    let spent := elapsed (site.reading entered).now (site.reading ended).now
    ∃ r after,
      let report := (complete spent (!result.isOk)).run r (site.view ended)
      (call site patience body).runIn world = (.ok (result.mapError .execution), after) ∧
        site.view after = report.2.1 ∧ heard after = heard ended ++ report.2.2 := by
  intro spent
  obtain ⟨after, hrun, hperformed⟩ := performed_call_of_answered hsite hacquire hbody
  have hheard := hperformed.observed
  rw [List.foldl_append_eq_append, ← List.flatMap_def] at hheard
  refine ⟨site.reading ended, after, hrun, hperformed.view, hheard.trans ?_⟩
  exact congrArg (heard ended ++ ·)
    (flatMap_reported_run (.complete spent (!result.isOk)) (site.reading ended) (site.view ended))

end Reports

/-! ### Those who hold permits -/

namespace Hand

variable {site : Site ω Adaptive Event} {heard : ω → List Event} {hand : Hand site heard}
variable {start world : ω} {calls : Nat}

theorem quiet (hand : Hand site heard) : site.Quiet := by
  refine ⟨hand.observed.view_store, fun event world => ?_⟩
  obtain ⟨after, hrun, hview, -⟩ := hand.observed.announce event world
  exact ⟨after, hrun, hview⟩

/-- Keeping a permit in hand, or giving one away, is no operation of the bulkhead. -/
theorem Uses.operates
    {activity : Activity ω α}
    (h : hand.Uses activity) :
    Operates site (fun _ => ()) activity := by
  have haside {α : Type} {activity : Activity ω α}
      (hview : ∀ world, site.view (activity.runIn world).2 = site.view world) :
      Operates site (fun _ => ()) activity :=
    .aside hview fun _ => rfl
  have hkeep : Operates site (fun _ => ()) hand.keep := by
    refine haside fun world => ?_
    obtain ⟨after, hrun, hview, -⟩ := hand.keep_one world
    rw [hrun, hview]
  have hgive : Operates site (fun _ => ()) hand.give := by
    refine haside fun world => ?_
    obtain ⟨after, hrun, hview, -⟩ := hand.give_one world
    rw [hrun, hview]
  have hreturn {α : Type} {operation : Operation Adaptive Event α}
      (hoperation : Operates site (fun _ => ()) (site.perform operation)) :
      Operates site (fun _ => ()) (hand.giveBack operation) := by
    refine .bind hgive fun given => ?_
    cases given with
    | false => exact haside fun _ => rfl
    | true => exact .bind hoperation fun _ => haside fun _ => rfl
  induction h with
  | acquire patience _ _ hinterrupted hpauses =>
      refine .bind (.acquire patience hinterrupted hpauses) fun result => ?_
      rcases result with rejection | _
      · exact haside fun _ => rfl
      · exact .bind hkeep fun _ => haside fun _ => rfl
  | release => exact hreturn .release
  | complete elapsed failed => exact hreturn (.complete elapsed failed)
  | metrics => exact .metrics
  | inspect => exact .inspect
  | call patience _ _ _ hinterrupted hpauses hbody =>
      exact .call patience hinterrupted hpauses hbody
  | bind _ _ hfirst hnext => exact .bind hfirst hnext
  | handle _ _ hfirst hhandler => exact .handle hfirst hhandler
  | aside hview _ => exact haside hview

/-- Every moment is reached by a run. -/
theorem Moment.exists_play (h : hand.Moment start calls world) :
    ∃ moves, site.view world = (site.view start).play moves := by
  have hobserved := hand.quiet.observed
  have hquiet (known : Unit) : () = known ∧ () = known := ⟨rfl, rfl⟩
  have huse {α : Type} {activity : Activity ω α} (huses : hand.Uses activity) (world : ω) :
      Extends site (fun _ => ()) (fun _ _ => ()) world (activity.runIn world).2 :=
    Operates.extends hobserved hquiet huses.operates world
  suffices hreached : Extends site (fun _ => ()) (fun _ _ => ()) start world by
    obtain ⟨moves, hview, -⟩ := hreached
    exact ⟨moves, hview⟩
  induction h with
  | start => exact extends_of_same rfl rfl
  | use _ huses ih => exact ih.trans (huse huses _)
  | look _ _ ih => exact ih.trans (extends_of_same (hand.observed.view_store _ _) rfl)
  | @enter _ world after patience _ hwaits hrun ih =>
      have hkeeps : patience.Keeps (poolSite site) (Extends site (fun _ => ()) fun _ _ => ()) :=
        keeps_extends hobserved (huse hwaits.interrupted) fun pause h => huse (hwaits.pauses pause h)
      have hasked := extends_acquire hobserved hquiet hkeeps world
      rw [hrun] at hasked
      exact ih.trans hasked
  | abandon _ ih => exact ih.trans (extends_perform hobserved .release (fun _ _ => rfl) _)
  | report _ elapsed failed ih =>
      exact ih.trans (extends_perform hobserved (.complete elapsed failed) (fun _ _ => rfl) _)

/-- The permits that the run to a moment holds are those in use: those in hand, and those of the calls
under way. -/
theorem Moment.exists_holding
    {c : Config}
    {policy : LimitPolicy}
    {h : Timed.History}
    {judged : Nat}
    (hvalid : c.validate = .ok ())
    (hfollows : Follows c policy h judged 0 (site.view start))
    (hnone : hand.count start = 0)
    (hmoment : hand.Moment start calls world) :
    (site.view world).pool.inUse = hand.count world + calls ∧
      ∃ moves, site.view world = (site.view start).play moves ∧
        (site.view start).holding 0 moves = hand.count world + calls := by
  have hopened : hand.Accounted c policy 0 start :=
    ⟨hfollows.config, hfollows.policy, by rw [hfollows.inUse, hnone]⟩
  have hout : (site.view world).pool.inUse = hand.count world + calls := by
    simpa using (hmoment.accounted hvalid hopened).inUse
  obtain ⟨moves, hview⟩ := hmoment.exists_play
  have hplayed := (hfollows.play hvalid moves).inUse
  rw [← hview, hout] at hplayed
  exact ⟨hout, moves, hview, hplayed.symm⟩

end Hand

/-- In every run of a new adaptive bulkhead the limit stays within its bounds, and is where the policy
has led it, held within the bounds, from the initial limit through the verdicts on the reports so far.
Each verdict is the evaluation of the window with the reported call in it.  The reports can be counted
exactly if the window never holds more than `2 ^ 32 - 1` calls, which is always so for a counted window;
as long as they can, the verdicts are the judgements on the calls that the window ought to hold.  The
changes that are announced are the steps that change the limit, each from where the one before it ended;
the permits left are the limit less those held.

Whatever callers do is such a run.  A call that gets no permit adds nothing to what its acquisition did;
one that halts adds the return of its permit and nothing else, and one that answers adds its report.  At
every moment the permits that the run holds are those in hand and one for each call under way: a caller
is granted a permit only if its last look finds one free, which then is taken, and otherwise the look
leaves everything as it was. -/
theorem limit_follows_verdicts
    {name : String}
    {c : Config}
    {policy : LimitPolicy}
    {now : Nat}
    {a : Adaptive}
    (hcreate : create name c policy now = .ok a)
    (hwidth : c.size ≤ maxCount) :
    (∀ moves : List (Reading × Move),
      let after := a.play moves
      let verdicts := a.verdicts moves
      let changes := (a.announced moves).filterMap Event.change
      let started : Timed.History := ⟨secondsOf now, []⟩
      (c.least ≤ after.pool.limit ∧ after.pool.limit ≤ c.most) ∧
        (after.pool.limit = verdicts.zipIdx.foldl (c.follow policy) c.initial ∧
          ∀ pick : Nat → Verdict → Nat, (policy.next = fun _ => pick) →
            after.pool.limit =
              verdicts.foldl (fun current verdict => c.clamp (pick current verdict))
                c.initial) ∧
        (verdicts = c.evaluations a.window moves ∧
          (a.announced moves).filterMap Event.verdict = verdicts) ∧
        ((a.CountsWithin moves ↔
            ∀ past r elapsed failed, past ++ [(r, .complete elapsed failed)] <+: moves →
              c.shape.crowd c.size
                (c.told (past.foldl c.told started) (r, .complete elapsed failed)) ≤ maxCount) ∧
          (c.shape = .countBased → a.CountsWithin moves) ∧
          (a.CountsWithin moves → verdicts = c.judgements started moves)) ∧
        ((changes = (c.steps policy c.initial verdicts.zipIdx).filter fun step =>
            step.1 ≠ step.2) ∧
          c.initial :: changes.map Prod.snd =
            changes.map Prod.fst ++ [after.pool.limit]) ∧
        after.pool.available = after.pool.limit - a.holding 0 moves) ∧
      (∀ {ω : Type} (site : Site ω Adaptive Event) (heard : ω → List Event),
        (site.Observed heard fun log e => log ++ e.reported) →
          (∀ {α : Type} {activity : Activity ω α} (world : ω),
            Operates site heard activity → site.view world = a →
              let after := (activity.runIn world).2
              ∃ moves, site.view after = a.play moves ∧
                heard after = heard world ++ a.announced moves) ∧
          ∀ {ε τ : Type} {patience : Bulkhead.Patience ω} {body : Activity ω (Except ε τ)}
            {world entered ended : ω},
            (∀ rejection,
              (acquire site patience).runIn world = (.ok (.error rejection), entered) →
                (call site patience body).runIn world =
                  (.ok (.error (.rejected rejection)), entered)) ∧
            (∀ halt,
              (acquire site patience).runIn world = (.error halt, entered) →
                (call site patience body).runIn world = (.error halt, entered)) ∧
            ((acquire site patience).runIn world = (.ok (.ok ()), entered) →
              (∀ halt, body.runIn entered = (.error halt, ended) → ∃ after,
                (call site patience body).runIn world = (.error halt, after) ∧
                  site.view after =
                    { site.view ended with pool := (site.view ended).pool.giveBack } ∧
                  heard after = heard ended) ∧
              ∀ result, body.runIn entered = (.ok result, ended) → ∃ r after,
                let spent := elapsed (site.reading entered).now (site.reading ended).now
                let report := (complete spent (!result.isOk)).run r (site.view ended)
                (call site patience body).runIn world = (.ok (result.mapError .execution), after) ∧
                  site.view after = report.2.1 ∧ heard after = heard ended ++ report.2.2)) ∧
      ∀ {ω : Type} {site : Site ω Adaptive Event} {heard : ω → List Event}
        (hand : Hand site heard) {start : ω},
        site.view start = a → hand.count start = 0 →
          ∀ {calls : Nat} {world : ω}, hand.Moment start calls world →
            let pool := (site.view world).pool
            let out := hand.count world + calls
            (∃ moves, site.view world = a.play moves ∧ a.holding 0 moves = out) ∧
              pool.available = pool.limit - out ∧
              ∀ {patience : Bulkhead.Patience ω}, hand.Waits patience →
                let asked := (acquire site patience).runIn world
                ∃ last left, hand.Moment world 0 last ∧
                  (site.view last).pool.Asked asked.1 left ∧
                  site.view asked.2 = { site.view last with pool := left } := by
  obtain ⟨hvalid, hinitial, hfollows⟩ := follows_of_create hcreate
  refine ⟨?_, ?_, ?_⟩
  · intro moves after verdicts changes started
    have hplayed := hfollows.play hvalid moves
    have hlimit := hfollows.limit_play hvalid moves
    have hchanges := hfollows.changes_eq hvalid moves
    have hcounts := hfollows.countsWithin_iff hvalid moves hwidth
    rw [hinitial] at hlimit hchanges
    refine ⟨hplayed.bounds, ⟨hlimit, fun pick hpick => ?_⟩,
      ⟨hfollows.evaluations_eq hvalid moves, hfollows.finished_eq hvalid moves⟩,
      ⟨hcounts, fun hshape => ?_, fun _ => hfollows.verdicts_eq hvalid moves⟩, ⟨hchanges, ?_⟩, ?_⟩
    · rw [← c.foldl_follow_of_next hpick]
      exact hlimit
    · refine hcounts.mpr fun past r elapsed failed _ => ?_
      rw [hshape]
      exact (Shape.crowd_countBased_le _ _).trans hwidth
    · have hchain := c.cons_map_changes policy c.initial verdicts.zipIdx
      dsimp only at hchain
      rwa [← hchanges, ← hlimit] at hchain
    · exact congrArg (after.pool.limit - ·) hplayed.inUse
  · intro ω site heard hsite
    constructor
    · intro α activity world hoperates hview
      exact hview ▸ hoperates.exists_play hsite world
    · intro ε τ patience body world entered ended
      refine ⟨fun _ hasked => runIn_call_of_rejected hasked body,
        fun _ hasked => runIn_call_of_acquire_halted hasked body, fun hacquire => ?_⟩
      exact ⟨fun _ hbody => runIn_call_of_halted hsite hacquire hbody,
        fun _ hbody => runIn_call_of_answered hsite hacquire hbody⟩
  · intro ω site heard hand start hstart hnone calls world hmoment pool out
    subst hstart
    obtain ⟨hout, hplayed⟩ := hmoment.exists_holding hvalid hfollows hnone
    refine ⟨hplayed, congrArg (pool.limit - ·) hout, fun hwaits => ?_⟩
    obtain ⟨last, left, hlast, hasked, hafter, -⟩ := hand.settles_acquire hwaits.keeps world
    exact ⟨last, left, hlast, hasked, hafter⟩

/-- The policy that halves, on a window of four calls: the second failed call is above the thresholds
and moves the limit from eight to four, while two permits are held.  A call that crashes returns its
permit, and nothing is heard of it.  With one permit in hand, seven of eight are left. -/
theorem limit_follows_verdicts_halved :
    let c : Config :=
      { Config.standard with size := 4, minimum := 2, initial := 8, least := 2, most := 10 }
    let r : Reading := ⟨0, .zero false⟩
    let fails : Move := .complete (Span.ofMillis 1) true
    let moves := [Move.look, .look, fails, .look, .release, .look, fails, .look].map (r, ·)
    let site : Site (Adaptive × List Event × Nat) Adaptive Event := Site.heeded r
    let hand : Hand site fun world => world.2.1 := Hand.heeded r
    let patience : Bulkhead.Patience (Adaptive × List Event × Nat) := ⟨pure false, []⟩
    let crash : Activity (Adaptive × List Event × Nat) (Except Unit Unit) := throw (.crash "boom")
    let a : Adaptive :=
      ⟨"pool", c, ⟨"pool", 8, 0, Span.zero⟩, Sliding.ofShape .countBased 4 2 0, .halving, 0⟩
    let held := ((hand.acquire patience).runIn (a, [], 0)).2
    create "pool" c .halving 0 = .ok a ∧
      a.verdicts moves = [.belowMinimumCalls, .aboveThresholds] ∧
      ((a.play moves).pool.limit = 4 ∧
        (a.announced moves).filterMap Event.change = [(8, 4)]) ∧
      (a.play moves).pool.available = 2 ∧
      (∃ after,
        (call site patience crash).runIn (a, [], 0) = (.error (.crash "boom"), after) ∧
          after.1.pool = a.pool ∧ after.2.1.flatMap Event.reported = []) ∧
      held.1.pool.available = 7 := by
  intro c r fails moves site hand patience crash a held
  have hvalid : c.validate = .ok () := by
    decide +kernel
  have hcreate : create "pool" c .halving 0 = .ok a := by
    unfold create
    rw [hvalid]
    rfl
  obtain ⟨hruns, hcallers, hholders⟩ := limit_follows_verdicts hcreate (by decide)
  obtain ⟨-, ⟨hlimit, -⟩, -, ⟨-, hcounted, hverdicts⟩, ⟨hchanges, -⟩, havailable⟩ := hruns moves
  have hjudged : a.verdicts moves = [.belowMinimumCalls, .aboveThresholds] :=
    (hverdicts (hcounted rfl)).trans (by decide +kernel)
  rw [hjudged] at hlimit hchanges
  have hfour : (a.play moves).pool.limit = 4 := hlimit.trans (by decide +kernel)
  have htwo : a.holding 0 moves = 2 := by
    decide +kernel
  rw [hfour, htwo] at havailable
  have hsite : site.Observed (fun world => world.2.1.flatMap Event.reported)
      fun log e => log ++ e.reported := by
    refine ⟨fun _ _ => rfl, fun _ _ => rfl, fun e world => ⟨_, rfl, rfl, ?_⟩⟩
    exact (List.flatMap_append ..).trans (congrArg _ (List.append_nil _))
  obtain ⟨-, hcalls⟩ := hcallers site _ hsite
  let entered : Adaptive × List Event × Nat :=
    ({ a with pool := a.pool.tryTake.2 }, [.callPermitted], 0)
  have hacquire : (acquire site patience).runIn (a, [], 0) = (.ok (.ok ()), entered) := rfl
  have hbody : crash.runIn entered = (.error (.crash "boom"), entered) := rfl
  obtain ⟨-, -, hadmitted⟩ := hcalls
  obtain ⟨after, hrun, hview, hheard⟩ := (hadmitted hacquire).1 _ hbody
  have hmoment : hand.Moment (a, [], 0) 0 held :=
    .use .start
      (.acquire patience (.aside (fun _ => rfl) fun _ => rfl) fun _ h => absurd h List.not_mem_nil)
  obtain ⟨-, hseven, -⟩ := hholders hand rfl rfl hmoment
  exact ⟨hcreate, hjudged, ⟨hfour, hchanges.trans (by decide +kernel)⟩, havailable,
    ⟨after, hrun, congrArg Adaptive.pool hview, hheard⟩, hseven⟩

end Adaptive
end FaultTolerance
