import FaultTolerance.Bulkhead.Acquire
import FaultTolerance.Proofs.Activity

/-!
# Acquisitions

A caller that asks for a permit looks at the pool, perhaps again and again while others use it, and
takes a permit as soon as it finds one free.  However the caller ends otherwise, it takes none.

## Main definitions

* `Asked`: what the last look of a caller makes of the pool.
* `Patience.Keeps`: a relation that holds as long as a caller waits.
* `Settles`: a caller that ends with its last look.

**Results.**
* `acquireWithin_of_free`, `acquireWithin_of_full`: callers that do not wait.
* `settles_takeWithin`, `settles_acquireWithin`, `settles_acquire`: every caller ends with its last
  look.
-/

namespace FaultTolerance
namespace Bulkhead

open Time

variable {ω γ : Type}

theorem tryTake_of_lt
    {b : Bulkhead}
    (h : b.inUse < b.limit) :
    b.tryTake = (true, { b with inUse := b.inUse + 1 }) :=
  if_pos h

theorem tryTake_of_le
    {b : Bulkhead}
    (h : b.limit ≤ b.inUse) :
    b.tryTake = (false, b) :=
  if_neg (Nat.not_lt.mpr h)

/-- What a caller answers after its last look at a pool, and what it makes of the pool: a permit is
granted only if one is free, and a caller that gets none leaves the pool as it is. -/
inductive Asked (b : Bulkhead) : Except Halt (Except Rejection Unit) → Bulkhead → Prop
  | granted (h : b.inUse < b.limit) : Asked b (.ok (.ok ())) { b with inUse := b.inUse + 1 }
  | interrupted : Asked b (.ok (.error (.interrupted b.name))) b
  | full (h : b.limit ≤ b.inUse) : Asked b (.ok (.error b.full)) b
  | halted (halt : Halt) : Asked b (.error halt) b

/-- A relation between worlds that holds as long as a caller waits, whatever happens between its
looks. -/
structure Patience.Keeps
    (patience : Patience ω)
    (site : Site ω Bulkhead Event)
    (related : ω → ω → Prop) : Prop where
  refl : ∀ world, related world world
  trans : ∀ {world middle after},
    related world middle → related middle after → related world after
  look : ∀ world, (site.view world).limit ≤ (site.view world).inUse →
    related world (site.store (site.view world) world)
  interrupted : ∀ world, related world (patience.interrupted.runIn world).2
  pause : ∀ pause ∈ patience.pauses, ∀ world, related world (pause.runIn world).2

/-- A caller ends with its last look, in a world that its waiting led to. -/
def Settles
    (site : Site ω Bulkhead Event)
    (observe : ω → γ)
    (related : ω → ω → Prop)
    (world : ω)
    (ended : Except Halt (Except Rejection Unit) × ω) : Prop :=
  ∃ last, related world last ∧ Asked (site.view last) ended.1 (site.view ended.2) ∧
    observe ended.2 = observe last

section Callers

variable {site : Site ω Bulkhead Event} {observe : ω → γ} {related : ω → ω → Prop}
variable {patience : Patience ω} {world middle : ω}

theorem Settles.of_related
    (hkeeps : patience.Keeps site related)
    (hrelated : related world middle)
    {ended : Except Halt (Except Rejection Unit) × ω}
    (h : Settles site observe related middle ended) :
    Settles site observe related world ended := by
  obtain ⟨last, hlast, hasked, hknown⟩ := h
  exact ⟨last, hkeeps.trans hrelated hlast, hasked, hknown⟩

/-- A look that finds a free permit takes it. -/
theorem runIn_look_of_free
    (hfree : (site.view world).inUse < (site.view world).limit) :
    (site.visit fun _ b => b.tryTake).runIn world =
      (.ok true,
        site.store { site.view world with inUse := (site.view world).inUse + 1 } world) := by
  rw [Site.runIn_visit, tryTake_of_lt hfree]

/-- A look at a full pool takes nothing. -/
theorem runIn_look_of_full
    (hfull : (site.view world).limit ≤ (site.view world).inUse) :
    (site.visit fun _ b => b.tryTake).runIn world =
      (.ok false, site.store (site.view world) world) := by
  rw [Site.runIn_visit, tryTake_of_le hfull]

/-- A caller takes a free permit at once. -/
theorem takeWithin_of_free
    (hfree : (site.view world).inUse < (site.view world).limit)
    (patience : Patience ω)
    (wait : Span) :
    (takeWithin site patience wait).runIn world =
      (.ok (.ok ()),
        site.store { site.view world with inUse := (site.view world).inUse + 1 } world) := by
  unfold takeWithin
  rw [Activity.runIn_bind_ok (runIn_look_of_free hfree)]
  rfl

/-- Waiting as long as is set is waiting as long as is set when the caller comes. -/
theorem runIn_acquire
    (site : Site ω Bulkhead Event)
    (patience : Patience ω)
    (world : ω) :
    (acquire site patience).runIn world =
      (acquireWithin site patience (site.view world).wait).runIn world := by
  have hstate : site.state.runIn world = (.ok (site.view world), world) := rfl
  unfold acquire
  rw [Activity.runIn_bind_ok hstate]

section Observed

variable (hsite : site.Observed observe fun known _ => known)
include hsite

/-- A caller that does not wait is refused if no permit is free. -/
theorem takeWithin_of_full
    (hfull : (site.view world).limit ≤ (site.view world).inUse)
    (patience : Patience ω)
    {wait : Span}
    (hwait : wait.nanos = 0) :
    (takeWithin site patience wait).runIn world =
      (.ok (.error (site.view world).full), site.store (site.view world) world) := by
  have hstate :
      site.state.runIn (site.store (site.view world) world) =
        (.ok (site.view world), site.store (site.view world) world) := by
    have hview := hsite.view_store (site.view world) world
    exact congrArg (fun b => (Except.ok b, site.store (site.view world) world)) hview
  unfold takeWithin
  rw [Activity.runIn_bind_ok (runIn_look_of_full hfull), if_neg Bool.false_ne_true, if_pos hwait,
    Activity.runIn_bind_ok hstate]
  rfl

theorem settles_of_free
    (hkeeps : patience.Keeps site related)
    (hfree : (site.view world).inUse < (site.view world).limit) :
    Settles site observe related world
      (.ok (.ok ()),
        site.store { site.view world with inUse := (site.view world).inUse + 1 } world) := by
  refine ⟨world, hkeeps.refl world, ?_, hsite.observe_store _ world⟩
  rw [hsite.view_store]
  exact .granted hfree

theorem settles_of_full
    (hkeeps : patience.Keeps site related)
    (hfull : (site.view world).limit ≤ (site.view world).inUse) :
    Settles site observe related world
      (.ok (.error (site.view world).full), site.store (site.view world) world) := by
  refine ⟨world, hkeeps.refl world, ?_, hsite.observe_store _ world⟩
  rw [hsite.view_store]
  exact .full hfull

/-- A caller that waits looks once, and goes on unless it was interrupted or found a permit. -/
theorem settles_round
    (hkeeps : patience.Keeps site related)
    {later : Activity ω (Except Rejection Unit)}
    (hlater : ∀ world, (site.view world).limit ≤ (site.view world).inUse →
      Settles site observe related world (later.runIn world))
    (world : ω) :
    Settles site observe related world
      ((do
        if ← patience.interrupted then return .error (.interrupted (← site.state).name)
        if ← site.visit fun _ b => b.tryTake then return .ok ()
        later : Activity ω (Except Rejection Unit)).runIn world) := by
  have hrelated := hkeeps.interrupted world
  rw [Activity.runIn_bind]
  rcases hrun : patience.interrupted.runIn world with ⟨halt | interrupted, middle⟩
  · rw [hrun] at hrelated
    exact ⟨middle, hrelated, .halted halt, rfl⟩
  · rw [hrun] at hrelated
    refine Settles.of_related hkeeps hrelated ?_
    cases interrupted with
    | true => exact ⟨middle, hkeeps.refl middle, .interrupted, rfl⟩
    | false =>
        dsimp only
        rw [if_neg Bool.false_ne_true]
        rcases Nat.lt_or_ge (site.view middle).inUse (site.view middle).limit with hfree | hfull
        · rw [Activity.runIn_bind_ok (runIn_look_of_free hfree)]
          exact settles_of_free hsite hkeeps hfree
        · rw [Activity.runIn_bind_ok (runIn_look_of_full hfull)]
          refine Settles.of_related hkeeps (hkeeps.look middle hfull) (hlater _ ?_)
          rwa [hsite.view_store]

/-- Looking until the time is up. -/
theorem settles_await
    (hkeeps : patience.Keeps site related)
    (pauses : List (Activity ω Unit))
    (hpauses : pauses.Sublist patience.pauses)
    (world : ω) :
    Settles site observe related world
      ((await site patience.interrupted pauses).runIn world) := by
  induction pauses generalizing world with
  | nil =>
      refine settles_round hsite hkeeps (fun middle hfull => ?_) world
      exact ⟨middle, hkeeps.refl middle, .full hfull, rfl⟩
  | cons pause later ih =>
      refine settles_round hsite hkeeps (fun middle _ => ?_) world
      have hrelated := hkeeps.pause pause (hpauses.subset List.mem_cons_self) middle
      rw [Activity.runIn_bind]
      rcases hrun : pause.runIn middle with ⟨halt | _, waited⟩
      · rw [hrun] at hrelated
        exact ⟨waited, hrelated, .halted halt, rfl⟩
      · rw [hrun] at hrelated
        exact Settles.of_related hkeeps hrelated (ih (List.sublist_of_cons_sublist hpauses) waited)

/-- A caller that takes a permit within its time. -/
theorem settles_takeWithin
    (hkeeps : patience.Keeps site related)
    (wait : Span)
    (world : ω) :
    Settles site observe related world ((takeWithin site patience wait).runIn world) := by
  rcases Nat.lt_or_ge (site.view world).inUse (site.view world).limit with hfree | hfull
  · rw [takeWithin_of_free hfree]
    exact settles_of_free hsite hkeeps hfree
  · by_cases hwait : wait.nanos = 0
    · rw [takeWithin_of_full hsite hfull patience hwait]
      exact settles_of_full hsite hkeeps hfull
    · unfold takeWithin
      rw [Activity.runIn_bind_ok (runIn_look_of_full hfull), if_neg Bool.false_ne_true,
        if_neg hwait]
      exact Settles.of_related hkeeps (hkeeps.look world hfull)
        (settles_await hsite hkeeps patience.pauses (List.Sublist.refl _) _)

/-- The announcement of how it went changes nothing. -/
theorem runIn_acquireWithin
    (patience : Patience ω)
    (wait : Span)
    (world : ω) :
    ∃ after,
      (acquireWithin site patience wait).runIn world =
          (((takeWithin site patience wait).runIn world).1, after) ∧
        site.view after = site.view ((takeWithin site patience wait).runIn world).2 ∧
        observe after = observe ((takeWithin site patience wait).runIn world).2 := by
  unfold acquireWithin
  rw [Activity.runIn_bind]
  rcases (takeWithin site patience wait).runIn world with ⟨halt | rejection | _, ended⟩
  · exact ⟨ended, rfl, rfl, rfl⟩
  · obtain ⟨after, hrun, hview, hknown⟩ := hsite.announce .callRejected ended
    exact ⟨after, Activity.runIn_bind_ok hrun _, hview, hknown⟩
  · obtain ⟨after, hrun, hview, hknown⟩ := hsite.announce .callPermitted ended
    exact ⟨after, Activity.runIn_bind_ok hrun _, hview, hknown⟩

/-- An acquisition that finds a free permit takes it at once. -/
theorem acquireWithin_of_free
    (hfree : (site.view world).inUse < (site.view world).limit)
    (patience : Patience ω)
    (wait : Span) :
    ∃ after,
      (acquireWithin site patience wait).runIn world = (.ok (.ok ()), after) ∧
        site.view after = { site.view world with inUse := (site.view world).inUse + 1 } ∧
        observe after = observe world := by
  obtain ⟨after, hrun, hview, hknown⟩ := runIn_acquireWithin hsite patience wait world
  rw [takeWithin_of_free hfree] at hrun hview hknown
  exact ⟨after, hrun, hview.trans (hsite.view_store _ world),
    hknown.trans (hsite.observe_store _ world)⟩

/-- An acquisition that does not wait is refused if no permit is free. -/
theorem acquireWithin_of_full
    (hfull : (site.view world).limit ≤ (site.view world).inUse)
    (patience : Patience ω)
    {wait : Span}
    (hwait : wait.nanos = 0) :
    ∃ after,
      (acquireWithin site patience wait).runIn world =
          (.ok (.error (site.view world).full), after) ∧
        site.view after = site.view world ∧ observe after = observe world := by
  obtain ⟨after, hrun, hview, hknown⟩ := runIn_acquireWithin hsite patience wait world
  rw [takeWithin_of_full hsite hfull patience hwait] at hrun hview hknown
  exact ⟨after, hrun, hview.trans (hsite.view_store _ world),
    hknown.trans (hsite.observe_store _ world)⟩

/-- A caller that acquires a permit within its time. -/
theorem settles_acquireWithin
    (hkeeps : patience.Keeps site related)
    (wait : Span)
    (world : ω) :
    Settles site observe related world ((acquireWithin site patience wait).runIn world) := by
  obtain ⟨after, hrun, hview, hknown⟩ := runIn_acquireWithin hsite patience wait world
  obtain ⟨last, hrelated, hasked, hlast⟩ := settles_takeWithin hsite hkeeps wait world
  rw [hrun]
  exact ⟨last, hrelated, hview.symm ▸ hasked, hknown.trans hlast⟩

/-- A caller that waits as long as is set. -/
theorem settles_acquire
    (hkeeps : patience.Keeps site related)
    (world : ω) :
    Settles site observe related world ((acquire site patience).runIn world) := by
  rw [runIn_acquire]
  exact settles_acquireWithin hsite hkeeps (site.view world).wait world

end Observed

end Callers
end Bulkhead
end FaultTolerance
