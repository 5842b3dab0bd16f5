import FaultTolerance.Limiter.Acquire
import FaultTolerance.Proofs.Activity
import FaultTolerance.Proofs.Limiter.Visits

/-!
# Callers

Whatever a caller does at a steady site, the limiter sees a run of visits: also when the caller halts,
when others operate the limiter while it waits, and when its own call does.

## Main definitions

* `Reaches`: worlds reached by a run of visits.
* `Reaching`: activities that visit a limiter and leave it alone otherwise.

**Results.**
* `Reaching.bind`, `Reaching.tryCatch`: activities in sequence and with a handler.
* `reaching_acquire`, `reaching_acquireLater`, `reaching_call`: the callers that wait.
-/

namespace FaultTolerance
namespace Limiter

open Time

variable {ω α β ε τ : Type} {site : Site ω Limiter Event}

/-- A world reached by a run of visits, each at a clock reading between its two neighbours. -/
def Reaches
    (site : Site ω Limiter Event)
    (world after : ω) : Prop :=
  ∃ visits,
    site.view after = (site.view world).passAll visits ∧
      ((site.reading world).now ::
        (visits.map Prod.fst ++ [(site.reading after).now])).Pairwise (· ≤ ·)

/-- An activity that visits the limiter and leaves it alone otherwise, also when it halts. -/
def Reaching
    (site : Site ω Limiter Event)
    (activity : Activity ω α) : Prop :=
  ∀ world, Reaches site world (activity.runIn world).2

section Reaches

variable {world middle after : ω}

theorem reaches_of_lapse (h : site.Lapse world after) : Reaches site world after :=
  ⟨[], h.view, by simp [h.now]⟩

/-- One visit at the present clock reading. -/
theorem reaches_of_pass
    {v : Visit}
    (hview : site.view after = (site.view world).pass ((site.reading world).now, v))
    (hnow : (site.reading world).now ≤ (site.reading after).now) :
    Reaches site world after :=
  ⟨[((site.reading world).now, v)], hview, by simp [hnow]⟩

/-- Runs follow each other. -/
theorem Reaches.trans
    (hfirst : Reaches site world middle)
    (hsecond : Reaches site middle after) :
    Reaches site world after := by
  obtain ⟨first, hview, hclock⟩ := hfirst
  obtain ⟨second, hafter, hlater⟩ := hsecond
  refine ⟨first ++ second, ?_, ?_⟩
  · rw [passAll_append, ← hview, hafter]
  · rw [← List.cons_append, List.pairwise_append] at hclock
    obtain ⟨hstart, -, hbefore⟩ := hclock
    obtain ⟨hmiddle, hrest⟩ := List.pairwise_cons.mp hlater
    rw [List.map_append, List.append_assoc, ← List.cons_append, List.pairwise_append]
    refine ⟨hstart, hrest, fun a ha b hb => ?_⟩
    exact le_trans (hbefore a ha _ (List.mem_singleton_self _)) (hmiddle b hb)

end Reaches

/-! ### Ways to build activities -/

theorem reaching_of_idle
    {activity : Activity ω α}
    (h : site.Idle activity) :
    Reaching site activity :=
  fun world => reaches_of_lapse (h world)

theorem reaching_pure (a : α) : Reaching site (pure a) :=
  reaching_of_idle Site.Lapse.refl

theorem reaching_throw (halt : Halt) : Reaching site (throw halt : Activity ω α) :=
  reaching_of_idle Site.Lapse.refl

theorem reaching_state : Reaching site site.state :=
  reaching_of_idle Site.Lapse.refl

/-- Activities in sequence visit one after the other. -/
theorem Reaching.bind
    {first : Activity ω α}
    {next : α → Activity ω β}
    (hfirst : Reaching site first)
    (hnext : ∀ a, Reaching site (next a)) :
    Reaching site (first >>= next) :=
  Activity.related_bind Reaches.trans hfirst hnext

/-- A handler visits after the activity that halted. -/
theorem Reaching.tryCatch
    {first : Activity ω α}
    {handler : Halt → Activity ω α}
    (hfirst : Reaching site first)
    (hhandler : ∀ halt, Reaching site (handler halt)) :
    Reaching site (tryCatch first handler) :=
  Activity.related_tryCatch Reaches.trans hfirst hhandler

theorem Reaching.ite
    {condition : Prop}
    [Decidable condition]
    {first second : Activity ω α}
    (hfirst : Reaching site first)
    (hsecond : Reaching site second) :
    Reaching site (if condition then first else second) := by
  split_ifs
  · exact hfirst
  · exact hsecond

section Steady

variable (hsite : site.Steady)
include hsite

theorem reaching_announce (event : Event) : Reaching site (site.announce event) := by
  intro world
  obtain ⟨after, hrun, hlapse⟩ := hsite.announce event world
  rw [hrun]
  exact reaches_of_lapse hlapse

/-- A section that does what a visit does. -/
theorem reaching_visit
    {step : Reading → Limiter → α × Limiter}
    (v : Visit)
    (hstep : ∀ r l, (step r l).2 = l.pass (r.now, v)) :
    Reaching site (site.visit step) := by
  intro world
  rw [Site.runIn_visit]
  refine reaches_of_pass (v := v) ?_ (hsite.now_store _ world).ge
  rw [hsite.view_store, hstep]

/-- An operation whose section does what a visit does. -/
theorem reaching_perform
    {operation : Operation Limiter Event α}
    (v : Visit)
    (hbefore : ∀ l, operation.before l = [])
    (hstep : ∀ r l, (operation.step r l).2.1 = l.pass (r.now, v)) :
    Reaching site (site.perform operation) := by
  intro world
  obtain ⟨after, hrun, hlapse⟩ := hsite.perform operation world (hbefore _)
  rw [hrun]
  refine reaches_of_pass (v := v) ?_ ?_
  · rw [hlapse.view, hsite.view_store, hstep]
  · rw [← hsite.now_store]
    exact hlapse.now

/-! ### Callers of a limiter -/

theorem reaching_reserve (timeout : Span) : Reaching site (site.perform (reserve timeout)) := by
  refine reaching_perform hsite (.claim timeout) (fun _ => rfl) fun r l => ?_
  simp only [reserve, Operation.ofStep]
  split_ifs
  · rfl
  · rfl

theorem reaching_handBack : Reaching site (site.perform handBack) :=
  reaching_perform hsite .restore (fun _ => rfl) fun _ _ => rfl

/-- While a caller blocks, others may visit. -/
theorem reaching_block
    {pause : Span → Activity ω Bool}
    (hpause : ∀ span, Reaching site (pause span))
    (nanos : Nat) :
    Reaching site (block site pause nanos) := by
  unfold block
  refine Reaching.ite (reaching_pure false) ?_
  refine (reaching_visit hsite .block fun _ _ => rfl).bind fun _ => ?_
  refine (hpause _).bind fun interrupted => ?_
  exact (reaching_visit hsite .unblock fun _ _ => rfl).bind fun _ => reaching_pure interrupted

/-- A caller that blocks until its permit is covered. -/
theorem reaching_acquire
    {pause : Span → Activity ω Bool}
    (hpause : ∀ span, Reaching site (pause span))
    (timeout : Span) :
    Reaching site (acquire site pause timeout) := by
  have hserved : Reaching site
      (do site.announce .successfulAcquire; return .ok () : Activity ω (Except Rejection Unit)) :=
    (reaching_announce hsite _).bind fun _ => reaching_pure _
  have hrefused (answer : Limiter → Except Rejection Unit) : Reaching site
      (do
        site.announce .failedAcquire
        let l ← site.state
        return answer l : Activity ω (Except Rejection Unit)) :=
    (reaching_announce hsite _).bind fun _ => reaching_state.bind fun _ => reaching_pure _
  unfold acquire
  refine (reaching_visit hsite (.claim timeout) fun _ _ => rfl).bind fun quote => .ite hserved ?_
  refine (reaching_block hsite hpause _).bind fun interrupted => .ite hserved (.ite ?_ ?_)
  · exact (reaching_handBack hsite).bind fun _ => hrefused _
  · exact hrefused _

/-- A caller that sleeps on a scheduler, and hands its permit back when it is abandoned. -/
theorem reaching_acquireLater
    {sleep : Span → Activity ω Unit}
    (hsleep : ∀ span, Reaching site (sleep span))
    (timeout : Span) :
    Reaching site (acquireLater site sleep timeout) := by
  unfold acquireLater
  refine (reaching_reserve hsite timeout).bind fun result => ?_
  cases result with
  | error rejection => exact reaching_pure _
  | ok wait =>
      refine Reaching.ite (reaching_pure _) (Reaching.bind ?_ fun _ => reaching_pure _)
      unfold Activity.orElseHalt
      refine (hsleep wait).tryCatch fun halt => ?_
      exact (reaching_handBack hsite).bind fun _ => reaching_throw halt

/-- A call whose body visits the limiter too. -/
theorem reaching_call
    {pause : Span → Activity ω Bool}
    {body : Activity ω (Except ε τ)}
    (hpause : ∀ span, Reaching site (pause span))
    (hbody : Reaching site body) :
    Reaching site (call site pause body) := by
  unfold call
  refine reaching_state.bind fun l => ?_
  refine (reaching_acquire hsite hpause _).bind fun result => ?_
  cases result with
  | error rejection => exact reaching_pure _
  | ok _ => exact hbody.bind fun _ => reaching_pure _

end Steady

end Limiter
end FaultTolerance
