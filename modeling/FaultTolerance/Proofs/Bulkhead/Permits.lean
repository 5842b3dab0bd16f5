import FaultTolerance.Proofs.Bulkhead.Acquisitions
import FaultTolerance.Proofs.Settings

/-!
# Permits are accounted for

A permit that was granted is in the hand of a caller, as a guard or a plain grant, or belongs to a
protected call that is under way.  Whatever callers do, to any depth of nesting and in any order, the
permits in use are those in hand and one for each call under way: also while a caller waits, when an
activity halts, and when the pool is made smaller than what is out.

## Main definitions

* `Hand`: the permits that callers hold.
* `underGuard`: an activity that holds a guard while it runs.
* `Hand.Uses`: activities that use a bulkhead through its operations and return only what they hold.
* `Hand.Guards`: how an activity ends that runs another one while holding a permit.
* `Hand.Moment`: what a run of such activities leads to, with the number of calls under way.

**Results.**
* `Hand.guards_underGuard`, `Hand.guards_call`: guards and calls hold one permit, and return it on every
  exit.
* `Hand.Uses.kept`: no activity loses or invents a permit.
* `Hand.Moment.trans`, `Hand.Moment.accounted`: moments follow each other, and at every one of them
  the permits in use are those that are out.
* `permits_in_use_are_out`: who is granted a permit, and who returns one, at every moment of a run.
-/

namespace FaultTolerance
namespace Bulkhead

open Time

variable {ω ε τ α β : Type} {site : Site ω Bulkhead Event}

/-- Created bulkheads have permits, and all of them are free. -/
theorem create_eq_ok
    {name : String}
    {config : Config}
    {b : Bulkhead}
    (hcreate : create name config = .ok b) :
    0 < b.limit ∧ b.inUse = 0 := by
  unfold create at hcreate
  rw [checked_bind_eq_ok_iff] at hcreate
  obtain ⟨hvalid, hcreated⟩ := hcreate
  cases hcreated
  exact ⟨(Config.validate_eq_ok_iff config).mp hvalid, rfl⟩

/-- The permits that callers hold outside of protected calls, as a world keeps count of them.  One can
be put in hand, and be given away as long as there is one. -/
structure Hand (site : Site ω Bulkhead Event) where
  count : ω → Nat
  keep : Activity ω Unit
  give : Activity ω Bool
  observed : site.Observed count fun held _ => held
  keep_one : ∀ world, ∃ after,
    keep.runIn world = (.ok (), after) ∧ site.view after = site.view world ∧
      count after = count world + 1
  give_one : ∀ world, ∃ after,
    give.runIn world = (.ok (decide (0 < count world)), after) ∧
      site.view after = site.view world ∧ count after = count world - 1

/-- Acquire a permit and keep it in hand. -/
def Hand.acquire
    (hand : Hand site)
    (acquisition : Activity ω (Except Rejection Unit)) : Activity ω (Except Rejection Unit) := do
  let result ← acquisition
  match result with
  | .ok () => hand.keep
  | .error _ => pure ()
  return result

/-- Return a permit that is in hand, if there is one. -/
def Hand.giveBack
    (hand : Hand site)
    (operation : Operation Bulkhead Event Unit) : Activity ω Unit := do
  if ← hand.give then site.perform operation

/-- Run an activity while holding a guard, which is dropped however the activity ends. -/
def underGuard
    (site : Site ω Bulkhead Event)
    (patience : Patience ω)
    (body : Activity ω α) : Activity ω (Except Rejection α) := do
  match ← acquire site patience with
  | .error rejection => return .error rejection
  | .ok () =>
    let a ← body.orElseHalt (site.perform complete)
    site.perform complete
    return .ok a

/-- A protected call runs under a guard. -/
theorem call_eq_underGuard
    (site : Site ω Bulkhead Event)
    (patience : Patience ω)
    (body : Activity ω (Except ε τ)) :
    call site patience body = underGuard site patience body >>= fun
      | .error rejection => pure (.error (.rejected rejection))
      | .ok result => pure (result.mapError .execution) := by
  unfold call underGuard
  rw [bind_assoc]
  refine bind_congr fun result => ?_
  cases result with
  | error rejection => simp
  | ok _ => simp

namespace Hand

/-- Activities that use a bulkhead through its operations, some of them under guards, while others use
it as they wait; they return only permits that are in hand.  What else they do leaves the bulkhead and
the hand alone. -/
inductive Uses (hand : Hand site) : {α : Type} → Activity ω α → Prop
  | acquire (patience : Patience ω) (wait : Span)
      (hinterrupted : Uses hand patience.interrupted)
      (hpauses : ∀ pause ∈ patience.pauses, Uses hand pause) :
      Uses hand (hand.acquire (acquireWithin site patience wait))
  | giveBack (operation : Operation Bulkhead Event Unit)
      (h : operation = release ∨ operation = complete) :
      Uses hand (hand.giveBack operation)
  | change (config : Config) : Uses hand (site.perform (Bulkhead.change config))
  | underGuard {α : Type} (patience : Patience ω) {body : Activity ω α}
      (hinterrupted : Uses hand patience.interrupted)
      (hpauses : ∀ pause ∈ patience.pauses, Uses hand pause) (hbody : Uses hand body) :
      Uses hand (Bulkhead.underGuard site patience body)
  | bind {α β : Type} {first : Activity ω α} {next : α → Activity ω β}
      (hfirst : Uses hand first) (hnext : ∀ a, Uses hand (next a)) :
      Uses hand (first >>= next)
  | handle {α : Type} {first : Activity ω α} {handler : Halt → Activity ω α}
      (hfirst : Uses hand first) (hhandler : ∀ halt, Uses hand (handler halt)) :
      Uses hand (tryCatch first handler)
  | aside {α : Type} {activity : Activity ω α}
      (hview : ∀ world, site.view (activity.runIn world).2 = site.view world)
      (hcount : ∀ world, hand.count (activity.runIn world).2 = hand.count world) :
      Uses hand activity

/-- A caller while whose waiting others use the bulkhead. -/
structure Waits
    (hand : Hand site)
    (patience : Patience ω) : Prop where
  interrupted : hand.Uses patience.interrupted
  pauses : ∀ pause ∈ patience.pauses, hand.Uses pause

/-- What a run leads to, and how many protected calls are under way there. -/
inductive Moment
    (hand : Hand site)
    (start : ω) : Nat → ω → Prop
  | start : Moment hand start 0 start
  | use {calls : Nat} {world : ω} {α : Type} {activity : Activity ω α}
      (h : Moment hand start calls world) (huses : hand.Uses activity) :
      Moment hand start calls (activity.runIn world).2
  | look {calls : Nat} {world : ω} (h : Moment hand start calls world)
      (hfull : (site.view world).limit ≤ (site.view world).inUse) :
      Moment hand start calls (site.store (site.view world) world)
  | enter {calls : Nat} {world after : ω} {patience : Patience ω}
      (h : Moment hand start calls world) (hwaits : hand.Waits patience)
      (hrun : (Bulkhead.acquire site patience).runIn world = (.ok (.ok ()), after)) :
      Moment hand start (calls + 1) after
  | leave {calls : Nat} {world : ω} (h : Moment hand start (calls + 1) world) :
      Moment hand start calls ((site.perform complete).runIn world).2

/-- How an activity ends that runs a body while holding a permit, where `asked` is how its acquisition
ended.  With a permit the body runs in the world that the acquisition left, and the permit returns
however it ends; without one the body does not run, and nothing happens after the acquisition. -/
structure Guards
    (hand : Hand site)
    (asked : Except Halt (Except Rejection Unit) × ω)
    (body : Activity ω α)
    (refuse : Rejection → β)
    (answer : α → β)
    (ended : Except Halt β × ω) : Prop where
  granted : asked.1 = .ok (.ok ()) →
    ended.1 = (body.runIn asked.2).1.map answer ∧
      site.view ended.2 = (site.view (body.runIn asked.2).2).giveBack ∧
      hand.count ended.2 = hand.count (body.runIn asked.2).2
  refused : ∀ rejection, asked.1 = .ok (.error rejection) → ended = (.ok (refuse rejection), asked.2)
  halted : ∀ halt, asked.1 = .error halt → ended = (.error halt, asked.2)

/-- The permits in use are those in hand and those of the calls under way. -/
structure Accounted
    (hand : Hand site)
    (calls : Nat)
    (world : ω) : Prop where
  inUse : (site.view world).inUse = hand.count world + calls
  limit_pos : 0 < (site.view world).limit

/-- Between two worlds nothing puts the account out of balance. -/
def Kept
    (hand : Hand site)
    (world after : ω) : Prop :=
  ∀ calls, hand.Accounted calls world → hand.Accounted calls after

section Accounts

variable {hand : Hand site} {calls : Nat} {world last after : ω}

theorem Accounted.of_same
    (h : hand.Accounted calls world)
    (hview : site.view after = site.view world)
    (hcount : hand.count after = hand.count world) :
    hand.Accounted calls after := by
  constructor
  · rw [hview, hcount, h.inUse]
  · rw [hview]
    exact h.limit_pos

theorem kept_refl (world : ω) : hand.Kept world world :=
  fun _ h => h

theorem Kept.trans
    (hfirst : hand.Kept world last)
    (hsecond : hand.Kept last after) :
    hand.Kept world after :=
  fun calls h => hsecond calls (hfirst calls h)

theorem kept_of_same
    (hview : site.view after = site.view world)
    (hcount : hand.count after = hand.count world) :
    hand.Kept world after :=
  fun _ h => h.of_same hview hcount

/-- A granted permit is one more that is out. -/
theorem Accounted.granted
    (h : hand.Accounted calls last)
    (hasked : Asked (site.view last) (.ok (.ok ())) (site.view after))
    (hcount : hand.count after = hand.count last) :
    hand.Accounted (calls + 1) after := by
  generalize hpool : site.view after = pool at hasked
  cases hasked with
  | granted hfree =>
      constructor
      · rw [hpool, hcount, h.inUse, Nat.add_assoc]
      · rw [hpool]
        exact h.limit_pos

/-- Without a grant nothing is out that was not before. -/
theorem Accounted.not_granted
    (h : hand.Accounted calls last)
    {result : Except Halt (Except Rejection Unit)}
    (hresult : result ≠ .ok (.ok ()))
    (hasked : Asked (site.view last) result (site.view after))
    (hcount : hand.count after = hand.count last) :
    hand.Accounted calls after := by
  generalize hpool : site.view after = pool at hasked
  cases hasked with
  | granted => exact absurd rfl hresult
  | _ => exact h.of_same hpool hcount

/-- An operation that returns a permit which is out. -/
theorem Accounted.returned
    (h : hand.Accounted (calls + 1) world)
    (hview : site.view after = (site.view world).giveBack)
    (hcount : hand.count after = hand.count world) :
    hand.Accounted calls after := by
  constructor
  · rw [hview, hcount]
    exact Nat.sub_eq_of_eq_add h.inUse
  · rw [hview]
    exact h.limit_pos

/-- One more in hand is one less under way. -/
theorem Accounted.kept
    (h : hand.Accounted (calls + 1) world)
    (hview : site.view after = site.view world)
    (hcount : hand.count after = hand.count world + 1) :
    hand.Accounted calls after := by
  constructor
  · rw [hview, hcount, h.inUse, Nat.add_right_comm, Nat.add_assoc]
  · rw [hview]
    exact h.limit_pos

/-- One less in hand is one more under way. -/
theorem Accounted.given
    (h : hand.Accounted calls world)
    (hview : site.view after = site.view world)
    (hcount : hand.count after + 1 = hand.count world) :
    hand.Accounted (calls + 1) after := by
  constructor
  · rw [hview, h.inUse, ← hcount, Nat.add_right_comm, Nat.add_assoc]
  · rw [hview]
    exact h.limit_pos

end Accounts

/-! ### What an activity does -/

section Activities

variable {hand : Hand site} {patience : Patience ω} {world : ω}

/-- Returning a permit, one way or the other. -/
theorem runIn_return
    (hand : Hand site)
    {operation : Operation Bulkhead Event Unit}
    (h : operation = release ∨ operation = complete)
    (world : ω) :
    ∃ after,
      (site.perform operation).runIn world = (.ok (), after) ∧
        site.view after = (site.view world).giveBack ∧ hand.count after = hand.count world := by
  rcases h with rfl | rfl
  · obtain ⟨r, after, hrun, hdone⟩ := hand.observed.perform release world
    exact ⟨after, hrun, hdone.view, hdone.observed⟩
  · obtain ⟨r, after, hrun, hdone⟩ := hand.observed.perform complete world
    exact ⟨after, hrun, hdone.view, hdone.observed⟩

/-- Only accepted settings change the pool, and none takes a permit back. -/
theorem runIn_change
    (hand : Hand site)
    (config : Config)
    (world : ω) :
    ∃ after,
      (site.perform (Bulkhead.change config)).runIn world = (.ok config.validate, after) ∧
        site.view after = ((site.view world).withConfig config).2 ∧
        hand.count after = hand.count world := by
  obtain ⟨r, after, hrun, hdone⟩ := hand.observed.perform (Bulkhead.change config) world
  refine ⟨after, hrun.trans ?_, hdone.view, hdone.observed⟩
  have hanswer : ((site.view world).withConfig config).1 = config.validate := by
    unfold withConfig
    cases config.validate <;> rfl
  exact congrArg (fun checked => (Except.ok checked, after)) hanswer

theorem kept_change
    (hand : Hand site)
    (config : Config)
    (world : ω) :
    hand.Kept world ((site.perform (Bulkhead.change config)).runIn world).2 := by
  intro calls h
  obtain ⟨after, hrun, hview, hcount⟩ := runIn_change hand config world
  rw [hrun]
  unfold withConfig at hview
  cases hvalid : config.validate with
  | error e =>
      rw [hvalid] at hview
      exact h.of_same hview hcount
  | ok _ =>
      rw [hvalid] at hview
      constructor
      · rw [hview, hcount]
        exact h.inUse
      · rw [hview]
        exact (Config.validate_eq_ok_iff config).mp hvalid

/-- An acquisition whose permit is kept in hand. -/
theorem kept_acquire
    {acquisition : Activity ω (Except Rejection Unit)}
    (hsettles : Settles site hand.count hand.Kept world (acquisition.runIn world)) :
    hand.Kept world ((hand.acquire acquisition).runIn world).2 := by
  obtain ⟨last, hrelated, hasked, hlast⟩ := hsettles
  intro calls h
  have hbefore := hrelated calls h
  unfold Hand.acquire
  rw [Activity.runIn_bind]
  rcases hrun : acquisition.runIn world with ⟨halt | rejection | _, ended⟩
  · rw [hrun] at hasked hlast
    exact hbefore.not_granted (by simp) hasked hlast
  · rw [hrun] at hasked hlast
    exact hbefore.not_granted (by simp) hasked hlast
  · rw [hrun] at hasked hlast
    obtain ⟨after, hkeep, hview, hcount⟩ := hand.keep_one ended
    dsimp only
    rw [Activity.runIn_bind_ok hkeep]
    exact (hbefore.granted hasked hlast).kept hview hcount

/-- A permit that is in hand is returned, and no other one. -/
theorem kept_giveBack
    (hand : Hand site)
    {operation : Operation Bulkhead Event Unit}
    (hreturns : operation = release ∨ operation = complete)
    (world : ω) :
    hand.Kept world ((hand.giveBack operation).runIn world).2 := by
  intro calls h
  obtain ⟨given, hgive, hview, hcount⟩ := hand.give_one world
  unfold Hand.giveBack
  rw [Activity.runIn_bind_ok hgive]
  by_cases hheld : 0 < hand.count world
  · obtain ⟨after, hrun, hreturned, hsame⟩ := runIn_return hand hreturns given
    rw [if_pos (decide_eq_true hheld), hrun]
    exact (h.given hview (by omega)).returned hreturned hsame
  · have hnone : hand.count given = hand.count world := by
      omega
    rw [if_neg (by simpa using hheld)]
    exact h.of_same hview hnone

/-- A guard is dropped however the activity that it guards ends, and without one it does not run. -/
theorem guards_underGuard
    (hand : Hand site)
    (patience : Patience ω)
    (body : Activity ω α)
    (world : ω) :
    hand.Guards ((Bulkhead.acquire site patience).runIn world) body .error .ok
      ((Bulkhead.underGuard site patience body).runIn world) := by
  unfold Bulkhead.underGuard
  rcases hrun : (Bulkhead.acquire site patience).runIn world with ⟨halt | rejection | _, entered⟩
  · rw [Activity.runIn_bind_error hrun]
    refine ⟨nofun, nofun, fun _ h => ?_⟩
    cases h
    rfl
  · rw [Activity.runIn_bind_ok hrun]
    refine ⟨nofun, fun _ h => ?_, nofun⟩
    cases h
    rfl
  · rw [Activity.runIn_bind_ok hrun]
    refine ⟨fun _ => ?_, nofun, nofun⟩
    dsimp only
    rcases hbody : body.runIn entered with ⟨halt | a, ended⟩
    · obtain ⟨after, hreturn, hview, hcount⟩ := runIn_return hand (.inr rfl) ended
      have hhalted := Activity.runIn_orElseHalt_of_error hbody hreturn
      rw [Activity.runIn_bind_error hhalted]
      exact ⟨rfl, hview, hcount⟩
    · obtain ⟨after, hreturn, hview, hcount⟩ := runIn_return hand (.inr rfl) ended
      have hended := Activity.runIn_orElseHalt_of_ok hbody (site.perform complete)
      rw [Activity.runIn_bind_ok hended, Activity.runIn_bind_ok hreturn]
      exact ⟨rfl, hview, hcount⟩

/-- So is the permit of a protected call. -/
theorem guards_call
    (hand : Hand site)
    (patience : Patience ω)
    (body : Activity ω (Except ε τ))
    (world : ω) :
    hand.Guards ((Bulkhead.acquire site patience).runIn world) body
      (fun rejection => .error (.rejected rejection)) (fun result => result.mapError .execution)
      ((Bulkhead.call site patience body).runIn world) := by
  obtain ⟨hgranted, hrefused, hhalted⟩ := hand.guards_underGuard patience body world
  rw [call_eq_underGuard, Activity.runIn_bind]
  refine ⟨fun h => ?_, fun rejection h => ?_, fun halt h => ?_⟩
  · obtain ⟨hanswer, hview, hcount⟩ := hgranted h
    rcases hguarded : (Bulkhead.underGuard site patience body).runIn world with ⟨result, ended⟩
    rw [hguarded] at hanswer hview hcount
    dsimp only at hanswer
    subst hanswer
    rcases (body.runIn ((Bulkhead.acquire site patience).runIn world).2).1 with halt | result
    · exact ⟨rfl, hview, hcount⟩
    · exact ⟨rfl, hview, hcount⟩
  · rw [hrefused rejection h]
    rfl
  · rw [hhalted halt h]

theorem kept_underGuard
    (hsettles : Settles site hand.count hand.Kept world
      ((Bulkhead.acquire site patience).runIn world))
    {body : Activity ω α}
    (hbody : ∀ world, hand.Kept world (body.runIn world).2) :
    hand.Kept world ((Bulkhead.underGuard site patience body).runIn world).2 := by
  obtain ⟨last, hrelated, hasked, hlast⟩ := hsettles
  have hguards := hand.guards_underGuard patience body world
  intro calls h
  have hbefore := hrelated calls h
  generalize (Bulkhead.acquire site patience).runIn world = asked at hasked hlast hguards
  rcases asked with ⟨halt | rejection | _, entered⟩
  · rw [hguards.halted halt rfl]
    exact hbefore.not_granted (by simp) hasked hlast
  · rw [hguards.refused rejection rfl]
    exact hbefore.not_granted (by simp) hasked hlast
  · obtain ⟨-, hview, hcount⟩ := hguards.granted rfl
    exact (hbody entered _ (hbefore.granted hasked hlast)).returned hview hcount

/-- While a caller waits, the account is kept. -/
theorem keeps_of_kept
    (hinterrupted : ∀ world, hand.Kept world (patience.interrupted.runIn world).2)
    (hpauses : ∀ pause ∈ patience.pauses, ∀ world, hand.Kept world (pause.runIn world).2) :
    patience.Keeps site hand.Kept where
  refl := kept_refl
  trans := Kept.trans
  look := fun world _ =>
    kept_of_same (hand.observed.view_store _ world) (hand.observed.observe_store _ world)
  interrupted := hinterrupted
  pause := hpauses

/-- No activity loses or invents a permit, also when it halts. -/
theorem Uses.kept
    {activity : Activity ω α}
    (h : hand.Uses activity)
    (world : ω) :
    hand.Kept world (activity.runIn world).2 := by
  induction h generalizing world with
  | acquire patience wait _ _ hinterrupted hpauses =>
      have hkeeps := keeps_of_kept hinterrupted hpauses
      exact kept_acquire (settles_acquireWithin hand.observed hkeeps wait world)
  | giveBack operation hreturns => exact kept_giveBack hand hreturns world
  | change config => exact kept_change hand config world
  | underGuard patience _ _ _ hinterrupted hpauses hbody =>
      have hkeeps := keeps_of_kept hinterrupted hpauses
      refine kept_underGuard ?_ hbody
      exact settles_acquire hand.observed hkeeps world
  | bind _ _ hfirst hnext => exact Activity.related_bind Kept.trans hfirst hnext world
  | handle _ _ hfirst hhandler => exact Activity.related_tryCatch Kept.trans hfirst hhandler world
  | aside hview hcount => exact kept_of_same (hview world) (hcount world)

/-- An acquisition that waits as long as is set. -/
theorem Uses.acquireAsSet (hwaits : hand.Waits patience) :
    hand.Uses (hand.acquire (Bulkhead.acquire site patience)) := by
  have hset :
      hand.acquire (Bulkhead.acquire site patience) =
        site.state >>= fun b => hand.acquire (acquireWithin site patience b.wait) := by
    unfold Hand.acquire Bulkhead.acquire
    rw [bind_assoc]
  rw [hset]
  refine .bind (.aside (fun _ => rfl) fun _ => rfl) fun b => ?_
  exact .acquire patience b.wait hwaits.interrupted hwaits.pauses

/-- A protected call uses a bulkhead as its body does. -/
theorem Uses.call
    (hwaits : hand.Waits patience)
    {body : Activity ω (Except ε τ)}
    (hbody : hand.Uses body) :
    hand.Uses (Bulkhead.call site patience body) := by
  rw [call_eq_underGuard]
  refine .bind (.underGuard patience hwaits.interrupted hwaits.pauses hbody) fun result => ?_
  cases result with
  | error rejection => exact .aside (fun _ => rfl) fun _ => rfl
  | ok result => exact .aside (fun _ => rfl) fun _ => rfl

end Activities

/-! ### Moments -/

section Moments

variable {hand : Hand site} {patience : Patience ω} {start world : ω} {calls : Nat}

/-- At every moment the permits in use are those in hand and those of the calls under way. -/
theorem Moment.accounted
    (h : hand.Moment start calls world)
    (hstart : hand.Accounted 0 start) :
    hand.Accounted calls world := by
  induction h with
  | start => exact hstart
  | use _ huses ih => exact huses.kept _ _ ih
  | look _ _ ih =>
      exact ih.of_same (hand.observed.view_store _ _) (hand.observed.observe_store _ _)
  | @enter _ world _ _ _ hwaits hrun ih =>
      have hkeeps := keeps_of_kept hwaits.interrupted.kept fun pause h => (hwaits.pauses pause h).kept
      obtain ⟨last, hrelated, hasked, hlast⟩ := settles_acquire hand.observed hkeeps world
      rw [hrun] at hasked hlast
      exact (hrelated _ ih).granted hasked hlast
  | @leave _ world _ ih =>
      obtain ⟨after, hrun, hview, hcount⟩ := runIn_return hand (.inr rfl) world
      rw [hrun]
      exact ih.returned hview hcount

/-- Moments follow each other. -/
theorem Moment.trans
    {later : ω}
    {more : Nat}
    (hfirst : hand.Moment start calls world)
    (hsecond : hand.Moment world more later) :
    hand.Moment start (calls + more) later := by
  induction hsecond with
  | start => exact hfirst
  | use _ huses ih => exact ih.use huses
  | look _ hfull ih => exact ih.look hfull
  | enter _ hwaits hrun ih => exact ih.enter hwaits hrun
  | leave _ ih => exact ih.leave

/-- While a caller waits, a run goes on. -/
theorem Waits.keeps (hwaits : hand.Waits patience) :
    patience.Keeps site fun world after => hand.Moment world 0 after where
  refl := fun _ => .start
  trans := Moment.trans
  look := fun _ hfull => .look .start hfull
  interrupted := fun _ => .use .start hwaits.interrupted
  pause := fun pause hpause _ => .use .start (hwaits.pauses pause hpause)

end Moments
end Hand

/-- The permits in use are those that were granted and not returned, at every moment of every run.  An
acquisition is granted at once if fewer are out than the pool has; one that does not wait is refused
otherwise, and one that waits is granted at a moment of its wait at which fewer are out, if at all.
Whoever gets no permit changes nothing, and neither do settings that are refused; accepted settings
change the size of the pool and leave all permits with those who have them.  A guard and a protected
call ask for one permit, waiting as long as is set.  Granted it, they run their body with one more
permit out, and return that permit on every exit; refused it, or halted while they wait, they do not
run their body. -/
theorem permits_in_use_are_out
    {name : String}
    {config : Config}
    {b : Bulkhead}
    (hcreate : create name config = .ok b)
    (hand : Hand site)
    {start : ω}
    (hstart : site.view start = b)
    (hnone : hand.count start = 0)
    {calls : Nat}
    {world : ω}
    (hmoment : hand.Moment start calls world) :
    let pool := site.view world
    let out := hand.count world + calls
    (pool.inUse = out ∧ pool.available = pool.limit - out) ∧
      (∀ (patience : Patience ω) (wait : Span), hand.Waits patience →
        (out < pool.limit → ∃ after,
          (acquireWithin site patience wait).runIn world = (.ok (.ok ()), after) ∧
            site.view after = { pool with inUse := out + 1 } ∧
            hand.count after = hand.count world) ∧
          (pool.limit ≤ out → wait.nanos = 0 → ∃ after,
            (acquireWithin site patience wait).runIn world = (.ok (.error pool.full), after) ∧
              site.view after = pool ∧ hand.count after = hand.count world) ∧
          ∃ result after last,
            (acquireWithin site patience wait).runIn world = (result, after) ∧
              hand.Moment world 0 last ∧ (site.view last).inUse = hand.count last + calls ∧
              Asked (site.view last) result (site.view after) ∧
              hand.count after = hand.count last) ∧
      (∀ later : Config, ∃ after,
        (site.perform (change later)).runIn world = (.ok later.validate, after) ∧
          hand.count after = hand.count world ∧
          (later.validate = .ok () →
            site.view after = { pool with limit := later.limit, wait := later.wait }) ∧
          (later.validate ≠ .ok () → site.view after = pool)) ∧
      ∀ patience : Patience ω, hand.Waits patience →
        let asked := (acquire site patience).runIn world
        (asked = (acquireWithin site patience pool.wait).runIn world ∧
            (asked.1 = .ok (.ok ()) →
              hand.Moment start (calls + 1) asked.2 ∧
                (site.view asked.2).inUse = hand.count asked.2 + (calls + 1))) ∧
          (∀ {α : Type} (body : Activity ω α),
            let ended := (underGuard site patience body).runIn world
            hand.Guards asked body .error .ok ended ∧
              (hand.Uses body → (site.view ended.2).inUse = hand.count ended.2 + calls)) ∧
          ∀ {ε τ : Type} (body : Activity ω (Except ε τ)),
            let ended := (call site patience body).runIn world
            hand.Guards asked body (fun rejection => .error (.rejected rejection))
                (fun result => result.mapError .execution) ended ∧
              (hand.Uses body → (site.view ended.2).inUse = hand.count ended.2 + calls) := by
  intro pool out
  obtain ⟨hpositive, hfree⟩ := create_eq_ok hcreate
  subst hstart
  have hopened : hand.Accounted 0 start := ⟨by rw [hfree, hnone], hpositive⟩
  have hout : pool.inUse = out := (hmoment.accounted hopened).inUse
  refine ⟨⟨hout, congrArg (pool.limit - ·) hout⟩, ?_, ?_, ?_⟩
  · intro patience wait hwaits
    refine ⟨fun hleft => ?_, fun hfull hwait => ?_, ?_⟩
    · rw [← hout] at hleft ⊢
      exact acquireWithin_of_free hand.observed hleft patience wait
    · rw [← hout] at hfull
      exact acquireWithin_of_full hand.observed hfull patience hwait
    · obtain ⟨last, hrelated, hasked, hlast⟩ :=
        settles_acquireWithin hand.observed hwaits.keeps wait world
      have hin := ((hmoment.trans hrelated).accounted hopened).inUse
      exact ⟨_, _, last, rfl, hrelated, hin, hasked, hlast⟩
  · intro later
    obtain ⟨after, hrun, hview, hcount⟩ := hand.runIn_change later world
    unfold withConfig at hview
    refine ⟨after, hrun, hcount, fun hvalid => ?_, fun hinvalid => ?_⟩
    · rwa [hvalid] at hview
    · cases hvalid : later.validate with
      | error e => rwa [hvalid] at hview
      | ok _ => exact absurd hvalid hinvalid
  · intro patience hwaits asked
    refine ⟨⟨runIn_acquire site patience world, fun hgranted => ?_⟩, ?_, ?_⟩
    · have hentered : hand.Moment start (calls + 1) asked.2 :=
        hmoment.enter hwaits (Prod.ext hgranted rfl)
      exact ⟨hentered, (hentered.accounted hopened).inUse⟩
    · intro α body ended
      refine ⟨hand.guards_underGuard patience body world, fun hbody => ?_⟩
      have huses := Hand.Uses.underGuard patience hwaits.interrupted hwaits.pauses hbody
      exact ((hmoment.use huses).accounted hopened).inUse
    · intro ε τ body ended
      refine ⟨hand.guards_call patience body world, fun hbody => ?_⟩
      exact ((hmoment.use (.call hwaits hbody)).accounted hopened).inUse

/-- A world that keeps count of the permits in hand beside its bulkhead. -/
def Hand.heeded (r : Reading) :
    Hand (Site.heeded r : Site (Bulkhead × List Event × Nat) Bulkhead Event) where
  count := fun world => world.2.2
  keep := modify fun world => (world.1, world.2.1, world.2.2 + 1)
  give := do
    let held := (← get).2.2
    modify fun world => (world.1, world.2.1, world.2.2 - 1)
    return decide (0 < held)
  observed := ⟨fun _ _ => rfl, fun _ _ => rfl, fun _ _ => ⟨_, rfl, rfl, rfl⟩⟩
  keep_one := fun _ => ⟨_, rfl, rfl, rfl⟩
  give_one := fun _ => ⟨_, rfl, rfl, rfl⟩

/-- A pool of two permits, one of them in hand: a call takes the other one and makes the pool smaller,
so that nobody else gets one, and a call inside it does not run; and a call that crashes leaves the one
in hand. -/
theorem permits_in_use_are_out_shrunk :
    let b : Bulkhead := ⟨"pool", 2, 0, Span.zero⟩
    let site : Site (Bulkhead × List Event × Nat) Bulkhead Event := Site.heeded ⟨0, .zero false⟩
    let hand : Hand site := Hand.heeded ⟨0, .zero false⟩
    let patience : Patience (Bulkhead × List Event × Nat) := ⟨pure false, []⟩
    let held := ((hand.acquire (acquireWithin site patience Span.zero)).runIn (b, [], 0)).2
    let entered := ((acquire site patience).runIn held).2
    let shrunk := ((site.perform (change ⟨1, Span.zero⟩)).runIn entered).2
    let crash : Activity (Bulkhead × List Event × Nat) (Except Unit Unit) := throw (.crash "boom")
    (create "pool" ⟨2, Span.zero⟩ = .ok b ∧ shrunk.1.limit = 1) ∧
      (shrunk.1.inUse = 2 ∧ shrunk.1.available = 0) ∧
      (∃ after,
        (acquireWithin site patience Span.zero).runIn shrunk =
            (.ok (.error (.bulkheadFull "pool" 1)), after) ∧
          after.1 = shrunk.1) ∧
      ((call site patience crash).runIn shrunk).1 =
        .ok (.error (.rejected (.bulkheadFull "pool" 1))) ∧
      ((call site patience crash).runIn held).1 = .error (.crash "boom") ∧
      ((call site patience crash).runIn held).2.1.inUse = 1 := by
  intro b site hand patience held entered shrunk crash
  have hcreate : create "pool" ⟨2, Span.zero⟩ = .ok b := rfl
  have hwaits : hand.Waits patience :=
    ⟨.aside (fun _ => rfl) fun _ => rfl, fun pause h => absurd h List.not_mem_nil⟩
  have hheld : hand.Moment (b, [], 0) 0 held :=
    .use .start (.acquire patience Span.zero hwaits.interrupted hwaits.pauses)
  have hshrunk : hand.Moment (b, [], 0) 1 shrunk := .use (.enter hheld hwaits rfl) (.change _)
  obtain ⟨hout, hasks, -, hinside⟩ := permits_in_use_are_out hcreate hand rfl rfl hshrunk
  obtain ⟨-, hrefused, -⟩ := hasks patience Span.zero hwaits
  obtain ⟨after, hrun, hview, -⟩ := hrefused (by decide) rfl
  obtain ⟨⟨hwaited, -⟩, -, hcalls⟩ := hinside patience hwaits
  obtain ⟨hnested, -⟩ := hcalls crash
  have hfull := hnested.refused (.bulkheadFull "pool" 1) (congrArg Prod.fst (hwaited.trans hrun))
  obtain ⟨-, -, -, houtside⟩ := permits_in_use_are_out hcreate hand rfl rfl hheld
  obtain ⟨-, -, hcalls⟩ := houtside patience hwaits
  obtain ⟨hcrashed, hbalance⟩ := hcalls crash
  have hcrash : hand.Uses crash := .aside (fun _ => rfl) fun _ => rfl
  have hone : hand.count ((call site patience crash).runIn held).2 = 1 := by
    decide +kernel
  exact ⟨⟨hcreate, rfl⟩, hout, ⟨after, hrun, hview⟩, congrArg Prod.fst hfull,
    (hcrashed.granted rfl).1, (hbalance hcrash).trans hone⟩

end Bulkhead
end FaultTolerance
