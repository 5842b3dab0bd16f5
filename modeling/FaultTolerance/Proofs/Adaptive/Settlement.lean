import FaultTolerance.Proofs.Adaptive.Calls
import FaultTolerance.Proofs.Adaptive.LimitHistory

/-!
# Calls are settled once

A call through an adaptive bulkhead holds one permit while its body runs.  However the body ends the
permit returns once; a call that answers is recorded, judged and announced once besides, and one that
halts is not.  Calls nest to any depth, mixed with permits that are acquired and returned by hand, the
limit moves meanwhile, and a halt may end several calls at a time: the permits in use are always those
in hand and one for each call under way.

## Main definitions

* `Hand`: the permits that callers hold by hand, and what was heard.
* `Hand.Uses`: activities that use an adaptive bulkhead and return only what they hold.
* `Hand.Moment`: what a run of such activities leads to, with the number of calls under way.
* `Settled`: what a report makes of a bulkhead.

**Results.**
* `Hand.Uses.kept`, `Hand.Moment.accounted`: no activity loses or invents a permit, also when it halts.
* `call_settles_once`: how a call ends, at every moment of every run.
-/

namespace FaultTolerance
namespace Adaptive

open Time Window

variable {ω α β ε τ : Type} {site : Site ω Adaptive Event} {heard : ω → List Event}

/-- The permits that callers hold outside of calls, as a world keeps count of them beside what it
heard.  One can be put in hand, and be given away as long as there is one. -/
structure Hand
    (site : Site ω Adaptive Event)
    (heard : ω → List Event) where
  count : ω → Nat
  keep : Activity ω Unit
  give : Activity ω Bool
  observed : site.Observed (fun world => (heard world, count world)) fun known event =>
    (known.1 ++ [event], known.2)
  keep_one : ∀ world, ∃ after,
    keep.runIn world = (.ok (), after) ∧ site.view after = site.view world ∧
      count after = count world + 1
  give_one : ∀ world, ∃ after,
    give.runIn world = (.ok (decide (0 < count world)), after) ∧
      site.view after = site.view world ∧ count after = count world - 1

/-- Acquire a permit and keep it in hand. -/
def Hand.acquire
    (hand : Hand site heard)
    (patience : Bulkhead.Patience ω) : Activity ω (Except Rejection Unit) := do
  let result ← Adaptive.acquire site patience
  match result with
  | .ok () => hand.keep
  | .error _ => pure ()
  return result

/-- Return a permit that is in hand, if there is one, by an operation that does so. -/
def Hand.giveBack
    (hand : Hand site heard)
    (operation : Operation Adaptive Event α) : Activity ω (Option α) := do
  if ← hand.give then return some (← site.perform operation)
  return none

namespace Hand

/-- Activities that use an adaptive bulkhead through its operations and calls, while others use it as
they wait; they return only permits that are in hand.  What else they do leaves the bulkhead and the
hand alone. -/
inductive Uses (hand : Hand site heard) : {α : Type} → Activity ω α → Prop
  | acquire (patience : Bulkhead.Patience ω)
      (hinterrupted : Uses hand patience.interrupted)
      (hpauses : ∀ pause ∈ patience.pauses, Uses hand pause) :
      Uses hand (hand.acquire patience)
  | release : Uses hand (hand.giveBack Adaptive.release)
  | complete (elapsed : Span) (failed : Bool) :
      Uses hand (hand.giveBack (Adaptive.complete elapsed failed))
  | metrics : Uses hand (site.perform Adaptive.metrics)
  | inspect : Uses hand (site.perform Adaptive.inspect)
  | call {ε τ : Type} (patience : Bulkhead.Patience ω) {body : Activity ω (Except ε τ)}
      (hinterrupted : Uses hand patience.interrupted)
      (hpauses : ∀ pause ∈ patience.pauses, Uses hand pause) (hbody : Uses hand body) :
      Uses hand (Adaptive.call site patience body)
  | bind {α β : Type} {first : Activity ω α} {next : α → Activity ω β}
      (hfirst : Uses hand first) (hnext : ∀ a, Uses hand (next a)) :
      Uses hand (first >>= next)
  | handle {α : Type} {first : Activity ω α} {handler : Halt → Activity ω α}
      (hfirst : Uses hand first) (hhandler : ∀ halt, Uses hand (handler halt)) :
      Uses hand (tryCatch first handler)
  | aside {α : Type} {activity : Activity ω α}
      (hview : ∀ world, site.view (activity.runIn world).2 = site.view world)
      (hcount : ∀ world, hand.count (activity.runIn world).2 = hand.count world) :
      Uses hand activity

/-- A caller while whose waiting others use the bulkhead. -/
structure Waits
    (hand : Hand site heard)
    (patience : Bulkhead.Patience ω) : Prop where
  interrupted : hand.Uses patience.interrupted
  pauses : ∀ pause ∈ patience.pauses, hand.Uses pause

/-- What a run leads to, and how many calls are under way there. -/
inductive Moment
    (hand : Hand site heard)
    (start : ω) : Nat → ω → Prop
  | start : Moment hand start 0 start
  | use {calls : Nat} {world : ω} {α : Type} {activity : Activity ω α}
      (h : Moment hand start calls world) (huses : hand.Uses activity) :
      Moment hand start calls (activity.runIn world).2
  | look {calls : Nat} {world : ω} (h : Moment hand start calls world)
      (hfull : (site.view world).pool.limit ≤ (site.view world).pool.inUse) :
      Moment hand start calls (site.store (site.view world) world)
  | enter {calls : Nat} {world after : ω} {patience : Bulkhead.Patience ω}
      (h : Moment hand start calls world) (hwaits : hand.Waits patience)
      (hrun : (Adaptive.acquire site patience).runIn world = (.ok (.ok ()), after)) :
      Moment hand start (calls + 1) after
  | abandon {calls : Nat} {world : ω} (h : Moment hand start (calls + 1) world) :
      Moment hand start calls ((site.perform Adaptive.release).runIn world).2
  | report {calls : Nat} {world : ω} (h : Moment hand start (calls + 1) world)
      (elapsed : Span) (failed : Bool) :
      Moment hand start calls ((site.perform (Adaptive.complete elapsed failed)).runIn world).2

/-- The permits in use are those in hand and those of the calls under way; the settings and the policy
are the given ones. -/
structure Accounted
    (hand : Hand site heard)
    (c : Config)
    (policy : LimitPolicy)
    (calls : Nat)
    (world : ω) : Prop where
  config : (site.view world).config = c
  policy : (site.view world).policy = policy
  inUse : (site.view world).pool.inUse = hand.count world + calls

/-- Between two worlds nothing puts the account out of balance. -/
def Kept
    (hand : Hand site heard)
    (c : Config)
    (policy : LimitPolicy)
    (world after : ω) : Prop :=
  ∀ calls, hand.Accounted c policy calls world → hand.Accounted c policy calls after

/-- An operation that returns a permit, and leaves the settings and the policy alone. -/
def Returns
    (c : Config)
    (operation : Operation Adaptive Event α) : Prop :=
  ∀ (r : Reading) (a : Adaptive), a.config = c →
    let after := (operation.run r a).2.1
    after.config = a.config ∧ after.policy = a.policy ∧ after.pool.inUse = a.pool.inUse - 1

theorem returns_release (c : Config) : Returns c Adaptive.release :=
  fun _ _ _ => ⟨rfl, rfl, rfl⟩

theorem returns_complete
    {c : Config}
    (hvalid : c.validate = .ok ())
    (elapsed : Span)
    (failed : Bool) :
    Returns c (Adaptive.complete elapsed failed) := by
  rintro r a rfl
  obtain ⟨pool, -, hinUse, hrun⟩ := exists_complete hvalid r elapsed failed
  intro after
  have hafter : after = _ := congrArg (fun result => result.2.1) hrun
  rw [hafter]
  exact ⟨rfl, rfl, hinUse⟩

/-! ### Accounts -/

section Accounts

variable {hand : Hand site heard} {c : Config} {policy : LimitPolicy} {calls : Nat}
variable {world last after : ω}

theorem Accounted.of_same
    (h : hand.Accounted c policy calls world)
    (hview : site.view after = site.view world)
    (hcount : hand.count after = hand.count world) :
    hand.Accounted c policy calls after := by
  obtain ⟨hconfig, hpolicy, hinUse⟩ := h
  exact ⟨by rw [hview, hconfig], by rw [hview, hpolicy], by rw [hview, hcount, hinUse]⟩

theorem kept_refl (world : ω) : hand.Kept c policy world world :=
  fun _ h => h

theorem Kept.trans
    (hfirst : hand.Kept c policy world last)
    (hsecond : hand.Kept c policy last after) :
    hand.Kept c policy world after :=
  fun calls h => hsecond calls (hfirst calls h)

theorem kept_of_same
    (hview : site.view after = site.view world)
    (hcount : hand.count after = hand.count world) :
    hand.Kept c policy world after :=
  fun _ h => h.of_same hview hcount

/-- A granted permit is one more that is out. -/
theorem Accounted.granted
    (h : hand.Accounted c policy calls last)
    {pool : Bulkhead}
    (hasked : (site.view last).pool.Asked (.ok (.ok ())) pool)
    (hview : site.view after = { site.view last with pool })
    (hcount : hand.count after = hand.count last) :
    hand.Accounted c policy (calls + 1) after := by
  obtain ⟨hconfig, hpolicy, hinUse⟩ := h
  cases hasked with
  | granted hfree =>
      refine ⟨by rw [hview, ← hconfig], by rw [hview, ← hpolicy], ?_⟩
      rw [hview, hcount]
      exact congrArg (· + 1) hinUse

/-- Without a grant nothing is out that was not before. -/
theorem view_of_not_granted
    {result : Except Halt (Except Rejection Unit)}
    (hresult : result ≠ .ok (.ok ()))
    {pool : Bulkhead}
    (hasked : (site.view last).pool.Asked result pool)
    (hview : site.view after = { site.view last with pool }) :
    site.view after = site.view last := by
  cases hasked with
  | granted => exact absurd rfl hresult
  | _ => exact hview

/-- An operation that returns a permit which is out. -/
theorem Accounted.returned
    (h : hand.Accounted c policy (calls + 1) world)
    {operation : Operation Adaptive Event α}
    (hreturns : Returns c operation)
    {r : Reading}
    (hview : site.view after = (operation.run r (site.view world)).2.1)
    (hcount : hand.count after = hand.count world) :
    hand.Accounted c policy calls after := by
  obtain ⟨hconfig, hpolicy, hinUse⟩ := h
  obtain ⟨hsettings, hpicks, hless⟩ := hreturns r _ hconfig
  refine ⟨?_, ?_, ?_⟩
  · rw [hview, hsettings, hconfig]
  · rw [hview, hpicks, hpolicy]
  · rw [hview, hless, hinUse, hcount]
    rfl

/-- One more in hand is one less under way. -/
theorem Accounted.kept
    (h : hand.Accounted c policy (calls + 1) world)
    (hview : site.view after = site.view world)
    (hcount : hand.count after = hand.count world + 1) :
    hand.Accounted c policy calls after := by
  obtain ⟨hconfig, hpolicy, hinUse⟩ := h
  refine ⟨by rw [hview, hconfig], by rw [hview, hpolicy], ?_⟩
  rw [hview, hcount, hinUse, Nat.add_right_comm, Nat.add_assoc]

/-- One less in hand is one more under way. -/
theorem Accounted.given
    (h : hand.Accounted c policy calls world)
    (hview : site.view after = site.view world)
    (hcount : hand.count after + 1 = hand.count world) :
    hand.Accounted c policy (calls + 1) after := by
  obtain ⟨hconfig, hpolicy, hinUse⟩ := h
  refine ⟨by rw [hview, hconfig], by rw [hview, hpolicy], ?_⟩
  rw [hview, hinUse, ← hcount, Nat.add_right_comm, Nat.add_assoc]

end Accounts

/-! ### What an activity does -/

section Activities

variable {hand : Hand site heard} {c : Config} {policy : LimitPolicy}
variable {patience : Bulkhead.Patience ω} {world : ω}

/-- An operation is performed at once; its events are heard, and no permit changes hands. -/
theorem perform
    (hand : Hand site heard)
    (operation : Operation Adaptive Event α)
    (world : ω) :
    ∃ r after,
      (site.perform operation).runIn world =
          (.ok (operation.run r (site.view world)).1, after) ∧
        site.view after = (operation.run r (site.view world)).2.1 ∧
        hand.count after = hand.count world := by
  obtain ⟨r, after, hrun, hperformed⟩ := hand.observed.perform operation world
  have hknown := hperformed.observed
  rw [Site.foldl_heeded] at hknown
  exact ⟨r, after, hrun, hperformed.view, (Prod.mk.inj hknown).2⟩

/-- An acquisition ends with its last look, and what is heard of it is how it went. -/
theorem settles_acquire
    (hand : Hand site heard)
    {related : ω → ω → Prop}
    (hkeeps : patience.Keeps (poolSite site) related)
    (world : ω) :
    let asked := (Adaptive.acquire site patience).runIn world
    ∃ last pool, related world last ∧ (site.view last).pool.Asked asked.1 pool ∧
      site.view asked.2 = { site.view last with pool } ∧
      heard asked.2 = heard last ++ admission asked.1 ∧ hand.count asked.2 = hand.count last := by
  obtain ⟨last, pool, hrelated, hasked, hview, hknown⟩ :=
    Adaptive.settles_acquire hand.observed hkeeps world
  rw [Site.foldl_heeded] at hknown
  obtain ⟨hheard, hcount⟩ := Prod.mk.inj hknown
  exact ⟨last, pool, hrelated, hasked, hview, hheard, hcount⟩

/-- While a caller waits, the account is kept. -/
theorem keeps_of_kept
    (hinterrupted : ∀ world, hand.Kept c policy world (patience.interrupted.runIn world).2)
    (hpauses : ∀ pause ∈ patience.pauses, ∀ world,
      hand.Kept c policy world (pause.runIn world).2) :
    patience.Keeps (poolSite site) (hand.Kept c policy) where
  refl := kept_refl
  trans := Kept.trans
  look := fun world _ => by
    have hknown := hand.observed.observe_store (site.view world) world
    exact kept_of_same (hand.observed.view_store _ world) (Prod.mk.inj hknown).2
  interrupted := hinterrupted
  pause := hpauses

/-- Operations that only look. -/
theorem kept_perform
    {operation : Operation Adaptive Event α}
    (hlooks : ∀ r a, (operation.run r a).2.1.config = a.config ∧
      (operation.run r a).2.1.policy = a.policy ∧ (operation.run r a).2.1.pool = a.pool)
    (world : ω) :
    hand.Kept c policy world ((site.perform operation).runIn world).2 := by
  rintro calls ⟨hconfig, hpolicy, hinUse⟩
  obtain ⟨r, after, hrun, hview, hcount⟩ := hand.perform operation world
  obtain ⟨hsettings, hpicks, hpool⟩ := hlooks r (site.view world)
  rw [hrun]
  refine ⟨?_, ?_, ?_⟩
  · rw [hview, hsettings, hconfig]
  · rw [hview, hpicks, hpolicy]
  · rw [hview, hpool, hinUse, hcount]

/-- An acquisition whose permit is kept in hand. -/
theorem kept_acquire
    (hkeeps : patience.Keeps (poolSite site) (hand.Kept c policy))
    (world : ω) :
    hand.Kept c policy world ((hand.acquire patience).runIn world).2 := by
  obtain ⟨last, pool, hrelated, hasked, hview, -, hcount⟩ := hand.settles_acquire hkeeps world
  intro calls h
  have hbefore := hrelated calls h
  unfold Hand.acquire
  rw [Activity.runIn_bind]
  rcases hrun : (Adaptive.acquire site patience).runIn world with ⟨halt | rejection | _, ended⟩
  · rw [hrun] at hasked hview hcount
    exact hbefore.of_same (view_of_not_granted (by simp) hasked hview) hcount
  · rw [hrun] at hasked hview hcount
    exact hbefore.of_same (view_of_not_granted (by simp) hasked hview) hcount
  · rw [hrun] at hasked hview hcount
    obtain ⟨after, hkeep, hsame, hone⟩ := hand.keep_one ended
    dsimp only
    rw [Activity.runIn_bind_ok hkeep]
    exact (hbefore.granted hasked hview hcount).kept hsame hone

/-- A permit that is in hand is returned, and no other one. -/
theorem kept_giveBack
    {operation : Operation Adaptive Event α}
    (hreturns : Returns c operation)
    (world : ω) :
    hand.Kept c policy world ((hand.giveBack operation).runIn world).2 := by
  intro calls h
  obtain ⟨given, hgive, hview, hcount⟩ := hand.give_one world
  unfold Hand.giveBack
  rw [Activity.runIn_bind_ok hgive]
  by_cases hheld : 0 < hand.count world
  · obtain ⟨r, after, hrun, hreturned, hsame⟩ := hand.perform operation given
    rw [if_pos (decide_eq_true hheld), Activity.runIn_bind_ok hrun]
    exact (h.given hview (by omega)).returned hreturns hreturned hsame
  · have hnone : hand.count given = hand.count world := by
      omega
    rw [if_neg (by simpa using hheld)]
    exact h.of_same hview hnone

/-- A call returns its permit however it ends. -/
theorem kept_call
    (hvalid : c.validate = .ok ())
    (hkeeps : patience.Keeps (poolSite site) (hand.Kept c policy))
    {body : Activity ω (Except ε τ)}
    (hbody : ∀ world, hand.Kept c policy world (body.runIn world).2)
    (world : ω) :
    hand.Kept c policy world ((Adaptive.call site patience body).runIn world).2 := by
  obtain ⟨last, pool, hrelated, hasked, hview, -, hcount⟩ := hand.settles_acquire hkeeps world
  intro calls h
  have hbefore := hrelated calls h
  rcases hrun : (Adaptive.acquire site patience).runIn world with ⟨halt | rejection | _, entered⟩
  · rw [hrun] at hasked hview hcount
    rw [runIn_call_of_acquire_halted hrun]
    exact hbefore.of_same (view_of_not_granted (by simp) hasked hview) hcount
  · rw [hrun] at hasked hview hcount
    rw [runIn_call_of_rejected hrun]
    exact hbefore.of_same (view_of_not_granted (by simp) hasked hview) hcount
  · rw [hrun] at hasked hview hcount
    have hended := hbody entered _ (hbefore.granted hasked hview hcount)
    rcases hresult : body.runIn entered with ⟨halt | result, ended⟩
    · rw [hresult] at hended
      obtain ⟨after, hcall, hreturned, hknown⟩ := runIn_call_of_halted hand.observed hrun hresult
      rw [hcall]
      exact hended.returned (r := site.reading ended) (returns_release c) hreturned
        (Prod.mk.inj hknown).2
    · rw [hresult] at hended
      obtain ⟨after, hcall, hperformed⟩ := performed_call_of_answered hand.observed hrun hresult
      have hknown := hperformed.observed
      rw [Site.foldl_heeded] at hknown
      rw [hcall]
      exact hended.returned (returns_complete hvalid _ _) hperformed.view (Prod.mk.inj hknown).2

/-- No activity loses or invents a permit, also when it halts. -/
theorem Uses.kept
    (hvalid : c.validate = .ok ())
    {activity : Activity ω α}
    (h : hand.Uses activity)
    (world : ω) :
    hand.Kept c policy world (activity.runIn world).2 := by
  induction h generalizing world with
  | acquire patience _ _ hinterrupted hpauses =>
      exact kept_acquire (keeps_of_kept hinterrupted hpauses) world
  | release => exact kept_giveBack (returns_release c) world
  | complete elapsed failed => exact kept_giveBack (returns_complete hvalid elapsed failed) world
  | metrics => exact kept_perform (fun _ _ => ⟨rfl, rfl, rfl⟩) world
  | inspect => exact kept_perform (fun _ _ => ⟨rfl, rfl, rfl⟩) world
  | call patience _ _ _ hinterrupted hpauses hbody =>
      exact kept_call hvalid (keeps_of_kept hinterrupted hpauses) hbody world
  | bind _ _ hfirst hnext => exact Activity.related_bind Kept.trans hfirst hnext world
  | handle _ _ hfirst hhandler => exact Activity.related_tryCatch Kept.trans hfirst hhandler world
  | aside hview hcount => exact kept_of_same (hview world) (hcount world)

end Activities

/-! ### Moments -/

section Moments

variable {hand : Hand site heard} {c : Config} {policy : LimitPolicy}
variable {patience : Bulkhead.Patience ω} {start world : ω} {calls : Nat}

/-- At every moment the permits in use are those in hand and those of the calls under way. -/
theorem Moment.accounted
    (hvalid : c.validate = .ok ())
    (h : hand.Moment start calls world)
    {before : Nat}
    (hstart : hand.Accounted c policy before start) :
    hand.Accounted c policy (before + calls) world := by
  induction h with
  | start => exact hstart
  | use _ huses ih => exact huses.kept hvalid _ _ ih
  | @look _ world _ _ ih =>
      have hknown := hand.observed.observe_store (site.view world) world
      exact ih.of_same (hand.observed.view_store _ _) (Prod.mk.inj hknown).2
  | @enter _ world _ patience _ hwaits hrun ih =>
      have hkeeps : patience.Keeps (poolSite site) (hand.Kept c policy) :=
        keeps_of_kept (hwaits.interrupted.kept hvalid) fun pause h => (hwaits.pauses pause h).kept hvalid
      obtain ⟨last, pool, hrelated, hasked, hview, -, hcount⟩ := hand.settles_acquire hkeeps world
      rw [hrun] at hasked hview hcount
      exact (hrelated _ ih).granted hasked hview hcount
  | @abandon _ world _ ih =>
      obtain ⟨r, after, hrun, hview, hcount⟩ := hand.perform Adaptive.release world
      rw [hrun]
      exact ih.returned (r := r) (returns_release c) hview hcount
  | @report _ world _ elapsed failed ih =>
      obtain ⟨r, after, hrun, hview, hcount⟩ := hand.perform (Adaptive.complete elapsed failed) world
      rw [hrun]
      exact ih.returned (returns_complete hvalid elapsed failed) hview hcount

/-- Moments follow each other. -/
theorem Moment.trans
    {later : ω}
    {more : Nat}
    (hfirst : hand.Moment start calls world)
    (hsecond : hand.Moment world more later) :
    hand.Moment start (calls + more) later := by
  induction hsecond with
  | start => exact hfirst
  | use _ huses ih => exact ih.use huses
  | look _ hfull ih => exact ih.look hfull
  | enter _ hwaits hrun ih => exact ih.enter hwaits hrun
  | abandon _ ih => exact ih.abandon
  | report _ elapsed failed ih => exact ih.report elapsed failed

/-- While a caller waits, a run goes on. -/
theorem Waits.keeps (hwaits : hand.Waits patience) :
    patience.Keeps (poolSite site) fun world after => hand.Moment world 0 after where
  refl := fun _ => .start
  trans := Moment.trans
  look := fun _ hfull => .look .start hfull
  interrupted := fun _ => .use .start hwaits.interrupted
  pause := fun pause hpause _ => .use .start (hwaits.pauses pause hpause)

end Moments
end Hand

/-- What the report of a call makes of a bulkhead, and what is heard of it: the call is recorded and
judged, its permit returns, and the policy is asked once where the limit moves. -/
structure Settled
    (c : Config)
    (policy : LimitPolicy)
    (r : Reading)
    (spent : Span)
    (failed : Bool)
    (a after : Adaptive)
    (events : List Event) : Prop where
  window :
    after.window = a.window.record r.now spent (Outcome.classify spent c.slowDuration failed)
  judged : after.judged = a.judged + 1
  returned : after.pool.inUse = a.pool.inUse - 1
  limit :
    after.pool.limit =
      c.clamp (policy.next a.judged a.pool.limit (c.thresholds.evaluate after.window.snapshot))
  events :
    events =
      .callFinished (c.thresholds.evaluate after.window.snapshot) ::
        if after.pool.limit = a.pool.limit then []
        else [.limitChanged a.pool.limit after.pool.limit]

theorem settled_complete
    {a : Adaptive}
    (hvalid : a.config.validate = .ok ())
    (r : Reading)
    (spent : Span)
    (failed : Bool) :
    let report := (complete spent failed).run r a
    Settled a.config a.policy r spent failed a report.2.1 report.2.2 := by
  obtain ⟨pool, hlimit, hinUse, hrun⟩ := exists_complete hvalid r spent failed
  intro report
  have hreport : report = _ := hrun
  rw [hreport]
  exact ⟨rfl, rfl, hinUse, hlimit, by rw [hlimit]⟩

/-- **Calls are settled once.**  At every moment of every run of a new adaptive bulkhead the permits in
use are those in hand and one for each call under way, also after a call, however it ends.  A call that
is refused, or that halts while it waits, does not run its body: from the last look at the pool on
nothing changes, and only the refusal is heard.  A call that is admitted holds one permit more at every
moment from then on until its body ends.  When the body halts, the permit returns and nothing else
changes, and nothing is heard of it.  When the body answers, the call is reported once, with the time
that it took and whether it failed. -/
theorem call_settles_once
    {name : String}
    {c : Config}
    {policy : LimitPolicy}
    {now : Nat}
    {a : Adaptive}
    (hcreate : create name c policy now = .ok a)
    (hand : Hand site heard)
    {start : ω}
    (hstart : site.view start = a)
    (hnone : hand.count start = 0)
    {calls : Nat}
    {world : ω}
    (hmoment : hand.Moment start calls world)
    {patience : Bulkhead.Patience ω}
    (hwaits : hand.Waits patience)
    {body : Activity ω (Except ε τ)}
    (hbody : hand.Uses body) :
    let asked := (acquire site patience).runIn world
    let exit := (call site patience body).runIn world
    ((site.view world).pool.inUse = hand.count world + calls ∧
        (site.view exit.2).pool.inUse = hand.count exit.2 + calls) ∧
      ∃ last, hand.Moment world 0 last ∧
        (∀ rejection, asked.1 = .ok (.error rejection) →
          exit = (.ok (.error (.rejected rejection)), asked.2) ∧
            site.view asked.2 = site.view last ∧
            heard asked.2 = heard last ++ [.callRejected]) ∧
        (∀ halt, asked.1 = .error halt →
          exit = (.error halt, asked.2) ∧ site.view asked.2 = site.view last ∧
            heard asked.2 = heard last) ∧
        (asked.1 = .ok (.ok ()) →
          let pool := (site.view last).pool
          (pool.inUse < pool.limit ∧
            site.view asked.2 =
              { site.view last with pool := { pool with inUse := pool.inUse + 1 } } ∧
            heard asked.2 = heard last ++ [.callPermitted]) ∧
          (∀ more inner, hand.Moment asked.2 more inner →
            (site.view inner).pool.inUse = hand.count inner + (calls + 1 + more)) ∧
          (∀ halt ended, body.runIn asked.2 = (.error halt, ended) →
            let held := (site.view ended).pool
            exit.1 = .error halt ∧ 0 < held.inUse ∧
              site.view exit.2 =
                { site.view ended with pool := { held with inUse := held.inUse - 1 } } ∧
              heard exit.2 = heard ended) ∧
          ∀ result ended, body.runIn asked.2 = (.ok result, ended) →
            let spent := elapsed (site.reading asked.2).now (site.reading ended).now
            exit.1 = .ok (result.mapError .execution) ∧ 0 < (site.view ended).pool.inUse ∧
              ∃ events, heard exit.2 = heard ended ++ events ∧
                Settled c policy (site.reading ended) spent (!result.isOk) (site.view ended)
                  (site.view exit.2) events) := by
  intro asked exit
  obtain ⟨hvalid, -, hfollows⟩ := follows_of_create hcreate
  subst hstart
  have hopened : hand.Accounted c policy 0 start :=
    ⟨hfollows.config, hfollows.policy, by rw [hfollows.inUse, hnone]⟩
  have haccount {calls : Nat} {world : ω} (h : hand.Moment start calls world) :
      hand.Accounted c policy calls world := by
    simpa using h.accounted hvalid hopened
  have hexit : hand.Moment start calls exit.2 :=
    hmoment.use (.call patience hwaits.interrupted hwaits.pauses hbody)
  refine ⟨⟨(haccount hmoment).inUse, (haccount hexit).inUse⟩, ?_⟩
  obtain ⟨last, pool, hlast, hasked, hview, hheard, hcount⟩ :=
    hand.settles_acquire hwaits.keeps world
  refine ⟨last, hlast, fun rejection hrejected => ?_, fun halt hhalted => ?_, fun hgranted => ?_⟩
  · have hrun : (acquire site patience).runIn world = (.ok (.error rejection), asked.2) :=
      Prod.ext hrejected rfl
    rw [hrejected] at hasked hheard
    exact ⟨runIn_call_of_rejected hrun body, Hand.view_of_not_granted (by simp) hasked hview, hheard⟩
  · have hrun : (acquire site patience).runIn world = (.error halt, asked.2) :=
      Prod.ext hhalted rfl
    rw [hhalted] at hasked hheard
    exact ⟨runIn_call_of_acquire_halted hrun body, Hand.view_of_not_granted (by simp) hasked hview,
      hheard.trans (List.append_nil _)⟩
  · have hrun : (acquire site patience).runIn world = (.ok (.ok ()), asked.2) :=
      Prod.ext hgranted rfl
    have hentered : hand.Moment start (calls + 1) asked.2 := hmoment.enter hwaits hrun
    have hheld {ended : ω} {result : Except Halt (Except ε τ)}
        (hended : body.runIn asked.2 = (result, ended)) :
        0 < (site.view ended).pool.inUse := by
      have hused := (haccount (hentered.use hbody)).inUse
      rw [hended] at hused
      exact Nat.lt_of_lt_of_eq (by omega) hused.symm
    rw [hgranted] at hasked hheard
    refine ⟨?_, fun more inner hinner => (haccount (hentered.trans hinner)).inUse, ?_, ?_⟩
    · cases hasked with
      | granted hfree => exact ⟨hfree, hview, hheard⟩
    · intro halt ended hhalted
      obtain ⟨after, hcall, hreturned, hknown⟩ := runIn_call_of_halted hand.observed hrun hhalted
      have hafter : exit = (.error halt, after) := hcall
      rw [hafter]
      exact ⟨rfl, hheld hhalted, hreturned, (Prod.mk.inj hknown).1⟩
    · intro result ended hanswered
      obtain ⟨after, hcall, hperformed⟩ := performed_call_of_answered hand.observed hrun hanswered
      have hknown := hperformed.observed
      rw [Site.foldl_heeded] at hknown
      have hafter : exit = (.ok (result.mapError .execution), after) := hcall
      have hended := haccount (hentered.use hbody)
      rw [hanswered] at hended
      obtain ⟨rfl, rfl, -⟩ := hended
      rw [hafter]
      refine ⟨rfl, hheld hanswered, _, (Prod.mk.inj hknown).1, ?_⟩
      rw [hperformed.view]
      exact settled_complete hvalid _ _ _

/-- A world that keeps count of the permits in hand beside its bulkhead. -/
def Hand.heeded (r : Reading) :
    Hand (Site.heeded r : Site (Adaptive × List Event × Nat) Adaptive Event) fun world =>
      world.2.1 where
  count := fun world => world.2.2
  keep := modify fun world => (world.1, world.2.1, world.2.2 + 1)
  give := do
    let held := (← get).2.2
    modify fun world => (world.1, world.2.1, world.2.2 - 1)
    return decide (0 < held)
  observed := Site.observed_heeded r id
  keep_one := fun _ => ⟨_, rfl, rfl, rfl⟩
  give_one := fun _ => ⟨_, rfl, rfl, rfl⟩

/-- Three permits, one of them in hand.  A call takes the second, and a call inside takes the third and
fails, so that the policy leaves one permit while two are out.  Then the outer call crashes: its permit
returns, and nothing more is heard. -/
theorem call_settles_once_crashed :
    let c : Config :=
      { Config.standard with size := 4, minimum := 1, initial := 3, least := 1, most := 10 }
    let r : Reading := ⟨0, .zero false⟩
    let site : Site (Adaptive × List Event × Nat) Adaptive Event := Site.heeded r
    let hand : Hand site fun world => world.2.1 := Hand.heeded r
    let patience : Bulkhead.Patience (Adaptive × List Event × Nat) := ⟨pure false, []⟩
    let a : Adaptive :=
      ⟨"pool", c, ⟨"pool", 3, 0, Span.zero⟩, Sliding.ofShape .countBased 4 1 0, .halving, 0⟩
    let held := ((hand.acquire patience).runIn (a, [], 0)).2
    let fails : Activity (Adaptive × List Event × Nat) (Except Unit Unit) := return .error ()
    let body : Activity (Adaptive × List Event × Nat) (Except Unit Unit) := do
      let _ ← call site patience fails
      throw (.crash "boom")
    let exit := (call site patience body).runIn held
    create "pool" c .halving 0 = .ok a ∧
      exit.1 = .error (.crash "boom") ∧ exit.2.1.pool.inUse = 1 ∧ exit.2.1.pool.limit = 1 ∧
      exit.2.2.1 =
        [.callPermitted, .callPermitted, .callPermitted, .callFinished .aboveThresholds,
          .limitChanged 3 1] := by
  intro c r site hand patience a held fails body exit
  have hvalid : c.validate = .ok () := by
    decide +kernel
  have hcreate : create "pool" c .halving 0 = .ok a := by
    unfold create
    rw [hvalid]
    rfl
  have hwaits : hand.Waits patience :=
    ⟨.aside (fun _ => rfl) fun _ => rfl, fun pause h => absurd h List.not_mem_nil⟩
  have hheld : hand.Moment (a, [], 0) 0 held :=
    .use .start (.acquire patience hwaits.interrupted hwaits.pauses)
  have hbody : hand.Uses body :=
    .bind (.call patience hwaits.interrupted hwaits.pauses (.aside (fun _ => rfl) fun _ => rfl))
      fun _ => .aside (fun _ => rfl) fun _ => rfl
  obtain ⟨⟨-, hout⟩, last, -, -, -, hgranted⟩ :=
    call_settles_once hcreate hand rfl rfl hheld hwaits hbody
  obtain ⟨-, -, hhalted, -⟩ := hgranted rfl
  -- The run is evaluated here, and is a variable from then on.
  have hexit : exit = (call site patience body).runIn held := rfl
  have hone : hand.count exit.2 = 1 ∧ exit.2.1.pool.limit = 1 := by
    decide +kernel
  have hcrashed :
      (body.runIn ((acquire site patience).runIn held).2).1 = .error (.crash "boom") := by
    decide +kernel
  have hlog :
      (body.runIn ((acquire site patience).runIn held).2).2.2.1 =
        [.callPermitted, .callPermitted, .callPermitted, .callFinished .aboveThresholds,
          .limitChanged 3 1] := by
    decide +kernel
  clear_value exit
  rcases hrun : body.runIn ((acquire site patience).runIn held).2 with ⟨result, ended⟩
  rw [hrun] at hcrashed hlog
  obtain rfl : result = .error (.crash "boom") := hcrashed
  have hended := hhalted (.crash "boom") ended hrun
  rw [← hexit] at hended hout
  rw [hone.1] at hout
  exact ⟨hcreate, hended.1, hout, hone.2, hended.2.2.2.trans hlog⟩

end Adaptive
end FaultTolerance
