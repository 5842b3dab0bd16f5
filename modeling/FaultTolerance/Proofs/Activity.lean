import FaultTolerance.Activity
import Mathlib.Tactic

/-!
# Running activities

An activity in sequence goes on in the world its first part left, unless that part halted; a handler
goes on in that world if it did.  At a site whose announcements neither halt nor touch the
protection, performing an operation is running it on the state that is kept there, and whoever hears
the announcements hears the events of that run, in order.

## Main definitions

* `Site.Quiet`, `Site.Observed`: sites with harmless announcements, and with a listener to them.
* `Site.Performed`: what an operation makes of the state and of what is known of the announcements.
* `Site.heeded`: the least world with a state and a listener.
* `Site.Lapse`, `Site.Steady`: time that passes without a move of the protection, and sites at which
  announcements take nothing but time.

**Results.**
* `Activity.runIn_bind`, `Activity.runIn_tryCatch`: activities in sequence and with a handler.
* `Activity.related_bind`, `Activity.related_tryCatch`: where such activities lead.
* `Site.Observed.perform`, `Site.Quiet.perform`: an operation performed at a site.
* `Site.Observed.perform_at_once`: the same under the reading at its start.
* `Site.Steady.perform`: an operation performed at a steady site, under the reading at its start.
-/

namespace FaultTolerance
namespace Activity

variable {ω α β : Type}

/-- Activities in sequence. -/
theorem runIn_bind
    (first : Activity ω α)
    (next : α → Activity ω β)
    (world : ω) :
    (first >>= next).runIn world =
      match first.runIn world with
      | (.ok a, after) => (next a).runIn after
      | (.error halt, after) => (.error halt, after) := by
  unfold runIn
  rw [ExceptT.run_bind, StateT.run_bind]
  cases StateT.run (ExceptT.run first) world with
  | mk result after => cases result <;> rfl

/-- An activity that answers goes on with its answer. -/
theorem runIn_bind_ok
    {first : Activity ω α}
    {world after : ω}
    {a : α}
    (h : first.runIn world = (.ok a, after))
    (next : α → Activity ω β) :
    (first >>= next).runIn world = (next a).runIn after := by
  rw [runIn_bind, h]

/-- An activity that halts does not go on. -/
theorem runIn_bind_error
    {first : Activity ω α}
    {world after : ω}
    {halt : Halt}
    (h : first.runIn world = (.error halt, after))
    (next : α → Activity ω β) :
    (first >>= next).runIn world = (.error halt, after) := by
  rw [runIn_bind, h]

/-- An activity in sequence answers when its first part does and the rest does. -/
theorem runIn_bind_eq_ok
    {first : Activity ω α}
    {next : α → Activity ω β}
    {world after : ω}
    {b : β} :
    (first >>= next).runIn world = (.ok b, after) ↔
      ∃ a middle,
        first.runIn world = (.ok a, middle) ∧ (next a).runIn middle = (.ok b, after) := by
  rw [runIn_bind]
  rcases first.runIn world with ⟨halt | a, middle⟩
  · simp
  · simp

/-- An activity with a handler. -/
theorem runIn_tryCatch
    (first : Activity ω α)
    (handler : Halt → Activity ω α)
    (world : ω) :
    (tryCatch first handler).runIn world =
      match first.runIn world with
      | (.ok a, after) => (.ok a, after)
      | (.error halt, after) => (handler halt).runIn after := by
  have hrun :
      (tryCatch first handler).runIn world =
        StateT.run
          (ExceptT.run first >>= fun result =>
            ExceptT.run
              (match result with
                | .ok a => pure a
                | .error halt => handler halt))
          world := by
    show StateT.run (ExceptT.run (ExceptT.tryCatch first handler)) world = _
    unfold ExceptT.tryCatch
    rw [ExceptT.run_mk]
    congr 2
    funext result
    cases result <;> rfl
  rw [hrun, StateT.run_bind]
  unfold runIn
  cases StateT.run (ExceptT.run first) world with
  | mk result after => cases result <;> rfl

/-- Where activities lead, a sequence of them leads, also when it halts. -/
theorem related_bind
    {related : ω → ω → Prop}
    (htrans : ∀ {world middle after},
      related world middle → related middle after → related world after)
    {first : Activity ω α}
    {next : α → Activity ω β}
    (hfirst : ∀ world, related world (first.runIn world).2)
    (hnext : ∀ a world, related world ((next a).runIn world).2)
    (world : ω) :
    related world ((first >>= next).runIn world).2 := by
  have hmiddle := hfirst world
  rw [runIn_bind]
  rcases hresult : first.runIn world with ⟨halt | a, middle⟩
  · rwa [hresult] at hmiddle
  · rw [hresult] at hmiddle
    exact htrans hmiddle (hnext a middle)

/-- Where activities lead, an activity with a handler leads. -/
theorem related_tryCatch
    {related : ω → ω → Prop}
    (htrans : ∀ {world middle after},
      related world middle → related middle after → related world after)
    {first : Activity ω α}
    {handler : Halt → Activity ω α}
    (hfirst : ∀ world, related world (first.runIn world).2)
    (hhandler : ∀ halt world, related world ((handler halt).runIn world).2)
    (world : ω) :
    related world ((tryCatch first handler).runIn world).2 := by
  have hmiddle := hfirst world
  rw [runIn_tryCatch]
  rcases hresult : first.runIn world with ⟨halt | a, middle⟩
  · rw [hresult] at hmiddle
    exact htrans hmiddle (hhandler halt middle)
  · rwa [hresult] at hmiddle

/-- An activity that halts is cleaned up after before the halt goes on. -/
theorem runIn_orElseHalt_of_error
    {activity : Activity ω α}
    {cleanup : Activity ω Unit}
    {world middle after : ω}
    {halt : Halt}
    (h : activity.runIn world = (.error halt, middle))
    (hcleanup : cleanup.runIn middle = (.ok (), after)) :
    (activity.orElseHalt cleanup).runIn world = (.error halt, after) := by
  unfold orElseHalt
  rw [runIn_tryCatch, h]
  exact runIn_bind_ok hcleanup _

/-- An activity that answers needs no cleaning up. -/
theorem runIn_orElseHalt_of_ok
    {activity : Activity ω α}
    {world after : ω}
    {a : α}
    (h : activity.runIn world = (.ok a, after))
    (cleanup : Activity ω Unit) :
    (activity.orElseHalt cleanup).runIn world = (.ok a, after) := by
  unfold orElseHalt
  rw [runIn_tryCatch, h]

end Activity

namespace Site

variable {ω σ ε α : Type}

theorem runIn_now
    (site : Site ω σ ε)
    (world : ω) :
    site.now.runIn world = (.ok (site.reading world).now, world) :=
  rfl

theorem runIn_visit
    (site : Site ω σ ε)
    (step : Reading → σ → α × σ)
    (world : ω) :
    (site.visit step).runIn world =
      (.ok (step (site.reading world) (site.view world)).1,
        site.store (step (site.reading world) (site.view world)).2 world) :=
  rfl

/-- A site whose announcements are heard without halting and leave the protection alone. -/
structure Quiet (site : Site ω σ ε) : Prop where
  view_store : ∀ state world, site.view (site.store state world) = state
  announce : ∀ event world, ∃ after,
    (site.announce event).runIn world = (.ok (), after) ∧ site.view after = site.view world

variable {site : Site ω σ ε}

/-- A site whose announcements are heard without halting and leave the protection alone: `observe` is
what is known of the announcements so far, and `hear` what one more adds to it. -/
structure Observed
    {γ : Type}
    (site : Site ω σ ε)
    (observe : ω → γ)
    (hear : γ → ε → γ) : Prop where
  view_store : ∀ state world, site.view (site.store state world) = state
  observe_store : ∀ state world, observe (site.store state world) = observe world
  announce : ∀ event world, ∃ after,
    (site.announce event).runIn world = (.ok (), after) ∧ site.view after = site.view world ∧
      observe after = hear (observe world) event

/-- What an operation performed under a reading makes of the protection and of what is known of the
announcements. -/
structure Performed
    {γ : Type}
    (site : Site ω σ ε)
    (observe : ω → γ)
    (hear : γ → ε → γ)
    (operation : Operation σ ε α)
    (r : Reading)
    (world after : ω) : Prop where
  view : site.view after = (operation.run r (site.view world)).2.1
  observed : observe after = (operation.run r (site.view world)).2.2.foldl hear (observe world)

section Observed

variable {γ : Type} {observe : ω → γ} {hear : γ → ε → γ}

/-- Announcements in a row leave the protection alone. -/
theorem Observed.announceAll
    (h : site.Observed observe hear)
    (events : List ε)
    (world : ω) :
    ∃ after,
      (events.forM site.announce).runIn world = (.ok (), after) ∧
        site.view after = site.view world ∧ observe after = events.foldl hear (observe world) := by
  induction events generalizing world with
  | nil => exact ⟨world, rfl, rfl, rfl⟩
  | cons event events ih =>
      obtain ⟨heard, hheard, hview, hknown⟩ := h.announce event world
      obtain ⟨after, hafter, hsame, hlater⟩ := ih heard
      refine ⟨after, ?_, hsame.trans hview, ?_⟩
      · exact (Activity.runIn_bind_ok hheard _).trans hafter
      · rw [hlater, hknown]
        rfl

/-- An operation whose first announcements lead to a world is run under the reading there. -/
theorem Observed.perform_of_ready
    (h : site.Observed observe hear)
    (operation : Operation σ ε α)
    {world ready : ω}
    (hready :
      ((operation.before (site.view world)).forM site.announce).runIn world = (.ok (), ready))
    (hview : site.view ready = site.view world)
    (hknown : observe ready = (operation.before (site.view world)).foldl hear (observe world)) :
    ∃ after,
      (site.perform operation).runIn world =
          (.ok (operation.run (site.reading ready) (site.view world)).1, after) ∧
        site.Performed observe hear operation (site.reading ready) world after := by
  let result := operation.step (site.reading ready) (site.view world)
  obtain ⟨after, hafter, hsame, hlater⟩ :=
    h.announceAll result.2.2 (site.store result.2.1 ready)
  refine ⟨after, ?_, ?_, ?_⟩
  · have hstate : site.state.runIn world = (.ok (site.view world), world) := rfl
    unfold Site.perform
    rw [Activity.runIn_bind_ok hstate, Activity.runIn_bind_ok hready,
      Activity.runIn_bind_ok (runIn_visit site _ ready)]
    simp only [hview]
    exact Activity.runIn_bind_ok hafter _
  · rw [hsame, h.view_store]
    rfl
  · rw [hlater, h.observe_store, hknown, ← List.foldl_append]
    rfl

/-- An operation performed at an observed site is run on its state, under some reading. -/
theorem Observed.perform
    (h : site.Observed observe hear)
    (operation : Operation σ ε α)
    (world : ω) :
    ∃ r after,
      (site.perform operation).runIn world = (.ok (operation.run r (site.view world)).1, after) ∧
        site.Performed observe hear operation r world after := by
  obtain ⟨ready, hready, hview, hknown⟩ :=
    h.announceAll (operation.before (site.view world)) world
  exact ⟨site.reading ready, h.perform_of_ready operation hready hview hknown⟩

/-- An operation with nothing to announce beforehand is run under the reading at its start. -/
theorem Observed.perform_at_once
    (h : site.Observed observe hear)
    (operation : Operation σ ε α)
    (world : ω)
    (hbefore : operation.before (site.view world) = []) :
    ∃ after,
      (site.perform operation).runIn world =
          (.ok (operation.run (site.reading world) (site.view world)).1, after) ∧
        site.Performed observe hear operation (site.reading world) world after := by
  refine h.perform_of_ready operation ?_ rfl ?_
  · rw [hbefore]
    rfl
  · rw [hbefore]
    rfl

end Observed

/-- A quiet site is one of which nothing need be known. -/
theorem Quiet.observed (h : site.Quiet) : site.Observed (fun _ => ()) fun _ _ => () := by
  refine ⟨h.view_store, fun _ _ => rfl, fun event world => ?_⟩
  obtain ⟨after, hafter, hview⟩ := h.announce event world
  exact ⟨after, hafter, hview, rfl⟩

/-- An operation performed at a quiet site is run on its state, under some reading. -/
theorem Quiet.perform
    (h : site.Quiet)
    (operation : Operation σ ε α)
    (world : ω) :
    ∃ r after,
      (site.perform operation).runIn world = (.ok (operation.run r (site.view world)).1, after) ∧
        site.view after = (operation.run r (site.view world)).2.1 := by
  obtain ⟨r, after, hrun, hperformed⟩ := h.observed.perform operation world
  exact ⟨r, after, hrun, hperformed.view⟩

/-- Announcements that are written into a log follow each other there. -/
theorem foldl_heeded
    {κ : Type}
    (events log : List ε)
    (rest : κ) :
    events.foldl (fun (known : List ε × κ) event => (known.1 ++ [event], known.2)) (log, rest) =
      (log ++ events, rest) := by
  induction events generalizing log with
  | nil => rw [List.foldl_nil, List.append_nil]
  | cons event events ih => rw [List.foldl_cons, ih, List.append_assoc, List.singleton_append]

/-- A world that is a state, what was announced of it, and something else besides; its clock stands
still. -/
def heeded
    {κ : Type}
    (r : Reading) : Site (σ × List ε × κ) σ ε where
  view := Prod.fst
  store := fun state world => (state, world.2)
  reading := fun _ => r
  announce := fun event => modify fun world => (world.1, world.2.1 ++ [event], world.2.2)

theorem observed_heeded
    {κ δ : Type}
    (r : Reading)
    (known : κ → δ) :
    (heeded r : Site (σ × List ε × κ) σ ε).Observed (fun world => (world.2.1, known world.2.2))
      fun known event => (known.1 ++ [event], known.2) :=
  ⟨fun _ _ => rfl, fun _ _ => rfl, fun _ _ => ⟨_, rfl, rfl, rfl⟩⟩

/-! ### Time that passes -/

/-- Between two worlds nothing happens to the protection, and the clock is not set back. -/
structure Lapse
    (site : Site ω σ ε)
    (world after : ω) : Prop where
  view : site.view after = site.view world
  now : (site.reading world).now ≤ (site.reading after).now

theorem Lapse.refl (world : ω) : site.Lapse world world :=
  ⟨rfl, le_rfl⟩

theorem Lapse.trans
    {world middle after : ω}
    (hfirst : site.Lapse world middle)
    (hsecond : site.Lapse middle after) :
    site.Lapse world after :=
  ⟨hsecond.view.trans hfirst.view, le_trans hfirst.now hsecond.now⟩

/-- An activity that takes nothing but time. -/
def Idle
    (site : Site ω σ ε)
    (activity : Activity ω α) : Prop :=
  ∀ world, site.Lapse world (activity.runIn world).2

/-- A site whose announcements are heard without halting and take nothing but time. -/
structure Steady (site : Site ω σ ε) : Prop where
  view_store : ∀ state world, site.view (site.store state world) = state
  now_store : ∀ state world,
    (site.reading (site.store state world)).now = (site.reading world).now
  announce : ∀ event world, ∃ after,
    (site.announce event).runIn world = (.ok (), after) ∧ site.Lapse world after

/-- Announcements in a row take nothing but time. -/
theorem Steady.announceAll
    (h : site.Steady)
    (events : List ε)
    (world : ω) :
    ∃ after, (events.forM site.announce).runIn world = (.ok (), after) ∧ site.Lapse world after := by
  induction events generalizing world with
  | nil => exact ⟨world, rfl, Lapse.refl world⟩
  | cons event events ih =>
      obtain ⟨heard, hheard, hlapse⟩ := h.announce event world
      obtain ⟨after, hafter, hrest⟩ := ih heard
      exact ⟨after, (Activity.runIn_bind_ok hheard _).trans hafter, hlapse.trans hrest⟩

/-- An operation with nothing to announce beforehand passes its section at once, and then there is
nothing but time. -/
theorem Steady.perform
    (h : site.Steady)
    (operation : Operation σ ε α)
    (world : ω)
    (hbefore : operation.before (site.view world) = []) :
    ∃ after,
      (site.perform operation).runIn world =
          (.ok (operation.step (site.reading world) (site.view world)).1, after) ∧
        site.Lapse (site.store (operation.step (site.reading world) (site.view world)).2.1 world)
          after := by
  obtain ⟨after, hafter, hlapse⟩ :=
    h.announceAll (operation.step (site.reading world) (site.view world)).2.2
      (site.store (operation.step (site.reading world) (site.view world)).2.1 world)
  refine ⟨after, ?_, hlapse⟩
  have hstate : site.state.runIn world = (.ok (site.view world), world) := rfl
  have hready :
      ((operation.before (site.view world)).forM site.announce).runIn world = (.ok (), world) := by
    rw [hbefore]
    rfl
  unfold Site.perform
  rw [Activity.runIn_bind_ok hstate, Activity.runIn_bind_ok hready,
    Activity.runIn_bind_ok (runIn_visit site _ world)]
  exact Activity.runIn_bind_ok hafter _

end Site
end FaultTolerance
