import FaultTolerance.Proofs.Breaker.Nesting
import FaultTolerance.Proofs.Breaker.Traffic

/-!
# Protected calls are traffic

A protected call, as it is carried out in a world, is a start, whatever its body does, and a report
or a loss.  So an activity that uses a breaker only through such calls and through transitions by
hand, to any depth of nesting, plays moves of the traffic and leaves no call of its own running.

**Results.**
* `Drives`: an activity that plays moves and leaves the running calls as they were.
* `drives_bind`, `drives_transition`, `drives_reset`, `drives_call`: how such activities are built.
-/

namespace FaultTolerance
namespace Breaker

open Time Traffic

variable {ω α β τ : Type}

/-- An activity whose effect on the breaker of a site is that of moves of the traffic, after which
the same calls run as before; also when it halts. -/
def Drives
    (site : Site ω Breaker Event)
    (activity : Activity ω α) : Prop :=
  ∀ (world : ω) (t : Traffic), t.breaker = site.view world →
    ∃ moves, (t.play moves).breaker = site.view (activity.runIn world).2 ∧
      (t.play moves).running = t.running

theorem Traffic.play_append
    (t : Traffic)
    (first second : List (Reading × Traffic.Move)) :
    t.play (first ++ second) = (t.play first).play second :=
  List.foldl_append

section Drives

variable {site : Site ω Breaker Event}

/-- An activity that leaves the breaker alone plays nothing. -/
theorem drives_of_view
    {activity : Activity ω α}
    (h : ∀ world, site.view (activity.runIn world).2 = site.view world) :
    Drives site activity := by
  intro world t hview
  exact ⟨[], hview.trans (h world).symm, rfl⟩

/-- In sequence, the moves follow each other. -/
theorem drives_bind
    {first : Activity ω α}
    {next : α → Activity ω β}
    (hfirst : Drives site first)
    (hnext : ∀ a, Drives site (next a)) :
    Drives site (first >>= next) := by
  intro world t hview
  obtain ⟨moves, hbreaker, hrunning⟩ := hfirst world t hview
  rcases hresult : first.runIn world with ⟨answer | answer, after⟩
  · rw [hresult] at hbreaker
    rw [Activity.runIn_bind_error hresult]
    exact ⟨moves, hbreaker, hrunning⟩
  · rw [hresult] at hbreaker
    obtain ⟨later, hlater, hsame⟩ := hnext answer after (t.play moves) hbreaker
    rw [Activity.runIn_bind_ok hresult]
    refine ⟨moves ++ later, ?_, ?_⟩
    · rw [Traffic.play_append]
      exact hlater
    · rw [Traffic.play_append]
      exact hsame.trans hrunning

/-- An operation that is a move of the traffic without starting or ending a call. -/
theorem drives_perform
    (hsite : site.Quiet)
    {operation : Operation Breaker Event α}
    (move : Traffic.Move)
    (hmove : ∀ (t : Traffic) (r : Reading),
      (t.step (r, move)).breaker = (operation.run r t.breaker).2.1 ∧
        (t.step (r, move)).running = t.running) :
    Drives site (site.perform operation) := by
  intro world t hview
  obtain ⟨r, after, hrun, hafter⟩ := hsite.perform operation world
  obtain ⟨hbreaker, hrunning⟩ := hmove t r
  refine ⟨[(r, move)], ?_, hrunning⟩
  rw [hrun, hafter, ← hview]
  exact hbreaker

theorem drives_transition
    (hsite : site.Quiet)
    (goal : Circuit.Phase) :
    Drives site (site.perform (transition goal)) := by
  refine drives_perform hsite (.transition goal) fun t r => ?_
  unfold Traffic.step
  dsimp only
  split_ifs <;> exact ⟨rfl, rfl⟩

theorem drives_reset
    (hsite : site.Quiet) :
    Drives site (site.perform reset) :=
  drives_perform hsite .reset fun _ _ => ⟨rfl, rfl⟩

theorem abandon_zero
    {t : Traffic}
    {stay : Nat}
    {rest : List Nat}
    (h : t.running = stay :: rest) :
    (t.abandon 0).breaker = t.breaker ∧ (t.abandon 0).running = rest := by
  unfold Traffic.abandon
  rw [h]
  exact ⟨rfl, rfl⟩

theorem finish_zero
    {t : Traffic}
    {stay : Nat}
    {rest : List Nat}
    (h : t.running = stay :: rest)
    (r : Reading)
    (elapsed : Span)
    (result : Except Fault Unit) :
    (t.finish r 0 elapsed result).breaker = ((report elapsed result).run r t.breaker).2.1 ∧
      (t.finish r 0 elapsed result).running = rest := by
  unfold Traffic.finish
  rw [h]
  exact ⟨rfl, rfl⟩

theorem report_map
    (elapsed : Span)
    (result : Except Fault τ) :
    report elapsed (result.map fun _ => ()) = report elapsed result := by
  cases result <;> rfl

/-- A protected call: a start, the moves of its body, and a report or a loss. -/
theorem drives_call
    (hsite : site.Quiet)
    {body : Activity ω (Except Fault τ)}
    (hbody : Drives site body) :
    Drives site (call site body) := by
  intro world t hview
  obtain ⟨r, asked, hacquired, hcall⟩ := call_cases hsite.observed body world
  have hstart : (t.start r).breaker = site.view asked := by
    rw [breaker_start, hacquired.view, hview]
  rw [← hview] at hcall
  cases hanswer : (acquire.run r t.breaker).1 with
  | error rejection =>
      rw [hanswer] at hcall
      refine ⟨[(r, .start)], ?_, running_start_error hanswer⟩
      rw [hcall]
      exact hstart
  | ok _ =>
      rw [hanswer] at hcall
      obtain ⟨stay, hstay⟩ := running_start_ok hanswer
      obtain ⟨moves, hbreaker, hrunning⟩ := hbody asked (t.start r) hstart
      rw [hstay] at hrunning
      -- The call is the latest of the running ones again, whatever its body did.
      have hplays (ending : Reading × Traffic.Move) :
          t.play ((r, .start) :: (moves ++ [ending])) = ((t.start r).play moves).step ending :=
        Traffic.play_append (t.start r) moves [ending]
      rcases hresult : body.runIn asked with ⟨halt | result, ended⟩
      · rw [hresult] at hbreaker hcall
        obtain ⟨hlost, hrest⟩ := abandon_zero hrunning
        refine ⟨(r, .start) :: (moves ++ [(r, .abandon 0)]), ?_, ?_⟩
        · rw [hplays, hcall]
          exact hlost.trans hbreaker
        · rw [hplays]
          exact hrest
      · rw [hresult] at hbreaker hcall
        obtain ⟨spent, r', after, hreported, hrun⟩ := hcall
        obtain ⟨hdone, hrest⟩ := finish_zero hrunning r' spent (result.map fun _ => ())
        let ending : Reading × Traffic.Move := (r', .finish 0 spent (result.map fun _ => ()))
        refine ⟨(r, .start) :: (moves ++ [ending]), ?_, ?_⟩
        · rw [hplays, hrun, hreported.view]
          refine hdone.trans ?_
          rw [report_map, hbreaker]
        · rw [hplays]
          exact hrest

end Drives
end Breaker
end FaultTolerance
