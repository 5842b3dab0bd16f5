import FaultTolerance.Breaker.Call
import FaultTolerance.Proofs.Activity
import FaultTolerance.Proofs.Breaker.History

/-!
# Operations inside protected calls

The body of a protected call may operate the same breaker, also through further protected calls.  Each
operation is finished before the next one starts, so that however deep they are nested, the breaker
and a listener see a run: one move after the other, and the events of that run.

## Main definitions

* `Extends`, `Plays`: worlds reached by a run whose events are heard, and activities that lead there.
* `Operates`: activities built from operations of a breaker, protected calls and anything that leaves
  the breaker alone.

**Results.**
* `call_cases`: what a protected call does.
* `Operates.plays`: an activity that operates a breaker plays a run, also when it halts.
-/

namespace FaultTolerance
namespace Breaker

open Time

variable {ω α β τ γ : Type}

/-! ### Protected calls -/

section Call

variable {site : Site ω Breaker Event} {observe : ω → γ} {hear : γ → Event → γ}

/-- What a protected call does: it is refused, or its body runs and halts, or its body answers and the
answer is reported. -/
theorem call_cases
    (hsite : site.Observed observe hear)
    (body : Activity ω (Except Fault τ))
    (world : ω) :
    ∃ r asked, site.Performed observe hear acquire r world asked ∧
      match (acquire.run r (site.view world)).1 with
      | .error rejection =>
        (call site body).runIn world = (.ok (.error (.rejected rejection)), asked)
      | .ok () =>
        match body.runIn asked with
        | (.error halt, ended) => (call site body).runIn world = (.error halt, ended)
        | (.ok result, ended) =>
          ∃ spent r' after, site.Performed observe hear (report spent result) r' ended after ∧
            (call site body).runIn world = (.ok (result.mapError .execution), after) := by
  obtain ⟨r, asked, hrun, hasked⟩ := hsite.perform acquire world
  refine ⟨r, asked, hasked, ?_⟩
  unfold call
  rw [Activity.runIn_bind_ok hrun]
  cases (acquire.run r (site.view world)).1 with
  | error rejection => rfl
  | ok _ =>
      dsimp only
      rw [Activity.runIn_bind_ok (Site.runIn_now site asked)]
      rcases hresult : body.runIn asked with ⟨halt | result, ended⟩
      · exact Activity.runIn_bind_error hresult _
      · let spent := elapsed (site.reading asked).now (site.reading ended).now
        obtain ⟨r', after, hreport, hafter⟩ := hsite.perform (report spent result) ended
        refine ⟨spent, r', after, hafter, ?_⟩
        rw [Activity.runIn_bind_ok hresult, Activity.runIn_bind_ok (Site.runIn_now site ended),
          Activity.runIn_bind_ok hreport]
        rfl

end Call

/-! ### Activities that play runs -/

/-- A world reached by a run of the breaker, whose events were heard in between. -/
def Extends
    (site : Site ω Breaker Event)
    (heard : ω → List Event)
    (world after : ω) : Prop :=
  ∃ moves,
    site.view after = (site.view world).play moves ∧
      heard after = heard world ++ (site.view world).announced moves

/-- An activity that plays a run of the breaker, also when it halts. -/
def Plays
    (site : Site ω Breaker Event)
    (heard : ω → List Event)
    (activity : Activity ω α) : Prop :=
  ∀ world, Extends site heard world (activity.runIn world).2

/-- Activities that reach a breaker through its operations only, some of them inside protected calls;
what else they do leaves the breaker alone, and no event is heard of it. -/
inductive Operates
    (site : Site ω Breaker Event)
    (heard : ω → List Event) : {α : Type} → Activity ω α → Prop
  | acquire : Operates site heard (site.perform Breaker.acquire)
  | release : Operates site heard (site.perform Breaker.release)
  | success (elapsed : Span) : Operates site heard (site.perform (onSuccess elapsed))
  | error (elapsed : Span) (fault : Fault) : Operates site heard (site.perform (onError elapsed fault))
  | transition (goal : Circuit.Phase) : Operates site heard (site.perform (Breaker.transition goal))
  | reset : Operates site heard (site.perform Breaker.reset)
  | metrics : Operates site heard (site.perform Breaker.metrics)
  | call {τ : Type} {body : Activity ω (Except Fault τ)} (hbody : Operates site heard body) :
      Operates site heard (Breaker.call site body)
  | bind {α β : Type} {first : Activity ω α} {next : α → Activity ω β}
      (hfirst : Operates site heard first) (hnext : ∀ a, Operates site heard (next a)) :
      Operates site heard (first >>= next)
  | handle {α : Type} {first : Activity ω α} {handler : Halt → Activity ω α}
      (hfirst : Operates site heard first) (hhandler : ∀ halt, Operates site heard (handler halt)) :
      Operates site heard (tryCatch first handler)
  | aside {α : Type} {activity : Activity ω α}
      (hview : ∀ world, site.view (activity.runIn world).2 = site.view world)
      (hheard : ∀ world, heard (activity.runIn world).2 = heard world) :
      Operates site heard activity

section Extends

variable {site : Site ω Breaker Event} {heard : ω → List Event} {world middle after : ω}

theorem extends_of_same
    (hview : site.view after = site.view world)
    (hheard : heard after = heard world) :
    Extends site heard world after :=
  ⟨[], hview, hheard.trans (List.append_nil _).symm⟩

/-- Runs follow each other. -/
theorem Extends.trans
    (hfirst : Extends site heard world middle)
    (hsecond : Extends site heard middle after) :
    Extends site heard world after := by
  obtain ⟨moves, hview, hheard⟩ := hfirst
  obtain ⟨later, hafter, hlater⟩ := hsecond
  refine ⟨moves ++ later, ?_, ?_⟩
  · rw [hafter, hview, play_append]
  · rw [hlater, hheard, hview, announced_append, List.append_assoc]

theorem foldl_hear (events log : List Event) :
    events.foldl (fun log e => log ++ [e]) log = log ++ events := by
  induction events generalizing log with
  | nil => exact (List.append_nil log).symm
  | cons e events ih => exact (ih (log ++ [e])).trans (List.append_assoc ..)

/-- An operation is a run of the one move it is. -/
theorem extends_of_performed
    {operation : Operation Breaker Event α}
    {r : Reading}
    (m : Move)
    (hmove : (operation.run r (site.view world)).2 = (m.run r (site.view world)).2)
    (hperformed : site.Performed heard (fun log e => log ++ [e]) operation r world after) :
    Extends site heard world after := by
  refine ⟨[(r, m)], ?_, ?_⟩
  · rw [hperformed.view, hmove]
    rfl
  · rw [hperformed.observed, foldl_hear, hmove]
    show _ = heard world ++ ((m.run r (site.view world)).2.2 ++ [])
    rw [List.append_nil]

/-- A report is the move of its outcome. -/
theorem exists_move_of_report
    (spent : Span)
    (result : Except Fault τ) :
    ∃ m : Move, ∀ r b, ((report spent result).run r b).2 = (m.run r b).2 := by
  cases result with
  | ok value => exact ⟨.success spent, fun _ _ => rfl⟩
  | error fault => exact ⟨.error spent fault, fun _ _ => rfl⟩

end Extends

section Plays

variable {site : Site ω Breaker Event} {heard : ω → List Event}

theorem plays_perform
    (hsite : site.Observed heard fun log e => log ++ [e])
    {operation : Operation Breaker Event α}
    (m : Move)
    (hmove : ∀ r b, (operation.run r b).2 = (m.run r b).2) :
    Plays site heard (site.perform operation) := by
  intro world
  obtain ⟨r, after, hrun, hperformed⟩ := hsite.perform operation world
  rw [hrun]
  exact extends_of_performed m (hmove r _) hperformed

theorem plays_bind
    {first : Activity ω α}
    {next : α → Activity ω β}
    (hfirst : Plays site heard first)
    (hnext : ∀ a, Plays site heard (next a)) :
    Plays site heard (first >>= next) :=
  Activity.related_bind Extends.trans hfirst hnext

theorem plays_handle
    {first : Activity ω α}
    {handler : Halt → Activity ω α}
    (hfirst : Plays site heard first)
    (hhandler : ∀ halt, Plays site heard (handler halt)) :
    Plays site heard (tryCatch first handler) :=
  Activity.related_tryCatch Extends.trans hfirst hhandler

/-- A protected call: an acquisition, the run of its body, and a report unless the body halted. -/
theorem plays_call
    (hsite : site.Observed heard fun log e => log ++ [e])
    {body : Activity ω (Except Fault τ)}
    (hbody : Plays site heard body) :
    Plays site heard (call site body) := by
  intro world
  obtain ⟨r, asked, hacquired, hcall⟩ := call_cases hsite body world
  have hasked : Extends site heard world asked :=
    extends_of_performed .acquire rfl hacquired
  have hended := hasked.trans (hbody asked)
  split at hcall
  · rw [hcall]
    exact hasked
  · split at hcall
    · rename_i halt ended hresult
      rw [hresult] at hended
      rw [hcall]
      exact hended
    · rename_i result ended hresult
      rw [hresult] at hended
      obtain ⟨spent, r', after, hreported, hrun⟩ := hcall
      obtain ⟨m, hmove⟩ := exists_move_of_report spent result
      rw [hrun]
      exact hended.trans (extends_of_performed m (hmove r' _) hreported)

/-- An activity that operates a breaker plays a run of it, and the events of that run are heard, also
when the activity halts. -/
theorem Operates.plays
    (hsite : site.Observed heard fun log e => log ++ [e])
    {activity : Activity ω α}
    (h : Operates site heard activity) :
    Plays site heard activity := by
  induction h with
  | acquire => exact plays_perform hsite .acquire fun _ _ => rfl
  | release => exact plays_perform hsite .release fun _ _ => rfl
  | success elapsed => exact plays_perform hsite (.success elapsed) fun _ _ => rfl
  | error elapsed fault => exact plays_perform hsite (.error elapsed fault) fun _ _ => rfl
  | transition goal => exact plays_perform hsite (.transition goal) fun _ _ => rfl
  | reset => exact plays_perform hsite .reset fun _ _ => rfl
  | metrics => exact plays_perform hsite .metrics fun _ _ => rfl
  | call _ hbody => exact plays_call hsite hbody
  | bind _ _ hfirst hnext => exact plays_bind hfirst hnext
  | handle _ _ hfirst hhandler => exact plays_handle hfirst hhandler
  | aside hview hheard => exact fun world => extends_of_same (hview world) (hheard world)

end Plays

/-- A world that is a breaker and what was heard of it; its clock stands still. -/
def listening (r : Reading) : Site (Breaker × List Event) Breaker Event where
  view := Prod.fst
  store := fun b world => (b, world.2)
  reading := fun _ => r
  announce := fun e => modify fun world => (world.1, world.2 ++ [e])

theorem observed_listening (r : Reading) :
    (listening r).Observed Prod.snd fun log e => log ++ [e] :=
  ⟨fun _ _ => rfl, fun _ _ => rfl, fun _ _ => ⟨_, rfl, rfl, rfl⟩⟩

end Breaker
end FaultTolerance
