import FaultTolerance.Adaptive.Basic
import FaultTolerance.Proofs.Bulkhead.Acquisitions

/-!
# Calls through an adaptive bulkhead

A caller of an adaptive bulkhead ends its acquisition with a last look at the pool, and how it went is
announced.  A call that is admitted ends with a report when its body answers, and with the return of
its permit when its body halts.

**Results.**
* `observed_poolSite`: the pool inside an adaptive bulkhead.
* `settles_acquire`: how an acquisition ends.
* `runIn_call_of_not_granted`, `runIn_call_of_halted`, `performed_call_of_answered`: how a call ends.
-/

namespace FaultTolerance
namespace Adaptive

open Time

variable {ω γ ε τ : Type}

/-- What is announced of an acquisition. -/
def admission : Except Halt (Except Rejection Unit) → List Event
  | .ok (.ok _) => [.callPermitted]
  | .ok (.error _) => [.callRejected]
  | .error _ => []

section Calls

variable {site : Site ω Adaptive Event} {observe : ω → γ} {hear : γ → Event → γ}
variable {patience : Bulkhead.Patience ω} {world : ω}

/-- A call that gets no permit does not run. -/
theorem runIn_call_of_rejected
    {rejection : Rejection}
    {asked : ω}
    (hacquire : (acquire site patience).runIn world = (.ok (.error rejection), asked))
    (body : Activity ω (Except ε τ)) :
    (call site patience body).runIn world = (.ok (.error (.rejected rejection)), asked) := by
  unfold call
  rw [Activity.runIn_bind_ok hacquire]
  rfl

/-- Neither does one that halts before it gets one. -/
theorem runIn_call_of_acquire_halted
    {halt : Halt}
    {asked : ω}
    (hacquire : (acquire site patience).runIn world = (.error halt, asked))
    (body : Activity ω (Except ε τ)) :
    (call site patience body).runIn world = (.error halt, asked) :=
  Activity.runIn_bind_error hacquire _

variable (hsite : site.Observed observe hear)
include hsite

/-- The pool of a bulkhead is reached without touching anything else of it, and unheard. -/
theorem observed_poolSite :
    (poolSite site).Observed
      (fun world => (observe world, fun pool => ({ site.view world with pool } : Adaptive)))
      fun known _ => known := by
  refine ⟨fun pool world => ?_, fun pool world => ?_, fun _ world => ⟨world, rfl, rfl, rfl⟩⟩
  · exact congrArg Adaptive.pool (hsite.view_store _ world)
  · refine Prod.ext (hsite.observe_store _ world) ?_
    funext later
    exact congrArg (fun a : Adaptive => { a with pool := later }) (hsite.view_store _ world)

/-- A caller ends with its last look at the pool and the announcement of how it went. -/
theorem settles_acquire
    {related : ω → ω → Prop}
    (hkeeps : patience.Keeps (poolSite site) related)
    (world : ω) :
    let asked := (acquire site patience).runIn world
    ∃ last pool, related world last ∧ (site.view last).pool.Asked asked.1 pool ∧
      site.view asked.2 = { site.view last with pool } ∧
      observe asked.2 = (admission asked.1).foldl hear (observe last) := by
  obtain ⟨last, hrelated, hasked, hknown⟩ :=
    Bulkhead.settles_acquire (observed_poolSite hsite) hkeeps world
  obtain ⟨hheard, hrest⟩ := Prod.mk.inj hknown
  rcases hrun : (Bulkhead.acquire (poolSite site) patience).runIn world with
    ⟨halt | rejection | _, ended⟩
  · rw [hrun] at hasked hheard hrest
    unfold acquire
    rw [Activity.runIn_bind_error hrun]
    exact ⟨last, _, hrelated, hasked, congrFun hrest _, hheard⟩
  · rw [hrun] at hasked hheard hrest
    obtain ⟨after, hannounce, hview, hafter⟩ := hsite.announce .callRejected ended
    unfold acquire
    rw [Activity.runIn_bind_ok hrun]
    dsimp only
    rw [Activity.runIn_bind_ok hannounce]
    refine ⟨last, _, hrelated, hasked, hview.trans (congrFun hrest _), ?_⟩
    exact hafter.trans (congrArg (hear · .callRejected) hheard)
  · rw [hrun] at hasked hheard hrest
    obtain ⟨after, hannounce, hview, hafter⟩ := hsite.announce .callPermitted ended
    unfold acquire
    rw [Activity.runIn_bind_ok hrun]
    dsimp only
    rw [Activity.runIn_bind_ok hannounce]
    refine ⟨last, _, hrelated, hasked, hview.trans (congrFun hrest _), ?_⟩
    exact hafter.trans (congrArg (hear · .callPermitted) hheard)

/-- A call that halts returns its permit; nothing is heard of it, and the limit stays. -/
theorem runIn_call_of_halted
    {body : Activity ω (Except ε τ)}
    {entered ended : ω}
    {halt : Halt}
    (hacquire : (acquire site patience).runIn world = (.ok (.ok ()), entered))
    (hbody : body.runIn entered = (.error halt, ended)) :
    ∃ after,
      (call site patience body).runIn world = (.error halt, after) ∧
        site.view after =
          { site.view ended with pool := (site.view ended).pool.giveBack } ∧
        observe after = observe ended := by
  obtain ⟨r, after, hrelease, hreleased⟩ := hsite.perform release ended
  refine ⟨after, ?_, hreleased.view, hreleased.observed⟩
  unfold call
  rw [Activity.runIn_bind_ok hacquire]
  dsimp only
  rw [Activity.runIn_bind_ok (Site.runIn_now site entered)]
  exact Activity.runIn_bind_error (Activity.runIn_orElseHalt_of_error hbody hrelease) _

/-- A call that answers is reported, with the time that it took and whether it failed. -/
theorem performed_call_of_answered
    {body : Activity ω (Except ε τ)}
    {entered ended : ω}
    {result : Except ε τ}
    (hacquire : (acquire site patience).runIn world = (.ok (.ok ()), entered))
    (hbody : body.runIn entered = (.ok result, ended)) :
    let spent := elapsed (site.reading entered).now (site.reading ended).now
    ∃ after,
      (call site patience body).runIn world = (.ok (result.mapError .execution), after) ∧
        site.Performed observe hear (complete spent (!result.isOk)) (site.reading ended) ended
          after := by
  intro spent
  obtain ⟨after, hcomplete, hcompleted⟩ :=
    hsite.perform_at_once (complete spent (!result.isOk)) ended rfl
  refine ⟨after, ?_, hcompleted⟩
  unfold call
  rw [Activity.runIn_bind_ok hacquire]
  dsimp only
  rw [Activity.runIn_bind_ok (Site.runIn_now site entered),
    Activity.runIn_bind_ok (Activity.runIn_orElseHalt_of_ok hbody _),
    Activity.runIn_bind_ok (Site.runIn_now site ended)]
  cases result with
  | ok value => exact Activity.runIn_bind_ok hcomplete _
  | error e => exact Activity.runIn_bind_ok hcomplete _

end Calls
end Adaptive
end FaultTolerance
