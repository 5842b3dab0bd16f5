import FaultTolerance.Limiter.Acquire
import FaultTolerance.Proofs.Activity
import FaultTolerance.Proofs.Limiter.Visits

/-!
# Acquisitions that end without a permit

A caller that is refused still brings the cell on, and one that gives up takes a permit and hands it
back, perhaps many cycles later.  Either way the cell that is left cannot be told from the one that
nobody touched: every later visit answers what it would have answered anyway.

## Main definitions

* `GaveUp`: what a caller that ends without a permit makes of a limiter.
* `Fails`: acquisitions, of all kinds, that end without a permit.

**Results.**
* `Fails.gaveUp`: a failed acquisition either takes no permit or hands it back.
* `GaveUp.alike`: the cell it leaves cannot be told from the old one.
* `failed_acquisition_leaves_no_trace`: later visits answer the same.
-/

namespace FaultTolerance
namespace Limiter

open Time

variable {ω ε τ : Type} {site : Site ω Limiter Event}

/-- What a caller that asks at `now`, and ends by `finish` without a permit, makes of a limiter: it
was refused, or it took a permit that it had to wait for and handed it back. -/
inductive GaveUp
    (l : Limiter)
    (now finish : Nat) : Limiter → Prop
  | refused {timeout wait : Nat} {after : Limiter}
      (hclaim : l.claim now timeout = (⟨wait, false⟩, after)) :
      GaveUp l now finish after
  | handedBack {timeout wait given : Nat} {after : Limiter}
      (hclaim : l.claim now timeout = (⟨wait, true⟩, after))
      (hwait : wait ≠ 0)
      (hgiven : now ≤ given)
      (hfinish : given ≤ finish) :
      GaveUp l now finish (after.restore given)

/-! ### Runs of failing callers -/

section Runs

variable (hsite : site.Steady) {world after : ω}
include hsite

/-- A hand-back restores the limiter at the clock reading at which it is performed. -/
theorem runIn_handBack (world : ω) :
    ∃ after,
      (site.perform handBack).runIn world = (.ok (), after) ∧
        site.view after = (site.view world).restore (site.reading world).now ∧
        (site.reading world).now ≤ (site.reading after).now := by
  obtain ⟨after, hrun, hlapse⟩ := hsite.perform handBack world rfl
  refine ⟨after, hrun, ?_, ?_⟩
  · exact hlapse.view.trans (hsite.view_store _ world)
  · rw [← hsite.now_store]
    exact hlapse.now

/-- A reservation passes one section and announces its outcome. -/
theorem runIn_reserve
    {timeout : Span}
    {quote : Quote}
    {l : Limiter}
    (hclaim : (site.view world).claim (site.reading world).now timeout.ticks = (quote, l)) :
    ∃ after,
      (site.perform (reserve timeout)).runIn world =
          (.ok (if quote.taken then .ok (Span.clip quote.wait)
            else .error (site.view world).notPermitted), after) ∧
        site.view after = l ∧ (site.reading world).now ≤ (site.reading after).now := by
  have hstep :
      ((reserve timeout).step (site.reading world) (site.view world)).1 =
          (if quote.taken then .ok (Span.clip quote.wait)
            else .error (site.view world).notPermitted) ∧
        ((reserve timeout).step (site.reading world) (site.view world)).2.1 = l := by
    simp only [reserve, Operation.ofStep, hclaim]
    split_ifs
    · exact ⟨rfl, rfl⟩
    · exact ⟨rfl, rfl⟩
  obtain ⟨after, hrun, hlapse⟩ := hsite.perform (reserve timeout) world rfl
  rw [hstep.1] at hrun
  rw [hstep.2] at hlapse
  refine ⟨after, hrun, ?_, ?_⟩
  · rw [hlapse.view, hsite.view_store]
  · rw [← hsite.now_store]
    exact hlapse.now

/-- A block leaves the limiter as it was. -/
theorem lapse_of_block
    {pause : Span → Activity ω Bool}
    (hpause : ∀ span, site.Idle (pause span))
    {nanos : Nat}
    {interrupted : Bool}
    (hrun : (block site pause nanos).runIn world = (.ok interrupted, after)) :
    site.Lapse world after := by
  unfold block at hrun
  by_cases hnone : nanos = 0
  · rw [if_pos hnone] at hrun
    cases hrun
    exact Site.Lapse.refl world
  · rw [if_neg hnone, Activity.runIn_bind_ok (Site.runIn_visit site _ world)] at hrun
    obtain ⟨_, paused, hpaused, hrun⟩ := Activity.runIn_bind_eq_ok.mp hrun
    rw [Activity.runIn_bind_ok (Site.runIn_visit site _ paused)] at hrun
    cases hrun
    have hlapse := hpause (Span.clip nanos)
      (site.store { site.view world with waiting := (site.view world).waiting + 1 } world)
    rw [hpaused] at hlapse
    -- It is counted in and out again.
    constructor
    · rw [hsite.view_store, hlapse.view, hsite.view_store]
      rfl
    · rw [hsite.now_store, ← hsite.now_store _ world]
      exact hlapse.now

/-- Once a caller tells that it got no permit, the limiter stays as it is. -/
theorem lapse_of_refusal
    {answer : Limiter → Except Rejection Unit}
    {result : Except Rejection Unit}
    (hrun :
      (do
        site.announce .failedAcquire
        let l ← site.state
        return answer l : Activity ω (Except Rejection Unit)).runIn world = (.ok result, after)) :
    site.Lapse world after := by
  obtain ⟨heard, hheard, hlapse⟩ := hsite.announce .failedAcquire world
  rw [Activity.runIn_bind_ok hheard] at hrun
  cases hrun
  exact hlapse

/-- A blocking acquisition that ends without a permit. -/
theorem gaveUp_of_acquire
    {pause : Span → Activity ω Bool}
    (hpause : ∀ span, site.Idle (pause span))
    {timeout : Span}
    {rejection : Rejection}
    (hrun : (acquire site pause timeout).runIn world = (.ok (.error rejection), after)) :
    GaveUp (site.view world) (site.reading world).now (site.reading after).now
      (site.view after) := by
  rcases hclaim : (site.view world).claim (site.reading world).now timeout.ticks with
    ⟨⟨wait, taken⟩, l⟩
  unfold acquire at hrun
  rw [Activity.runIn_bind_ok (Site.runIn_visit site _ world), hclaim] at hrun
  dsimp only at hrun
  by_cases hserved : (taken && wait == 0) = true
  · rw [if_pos hserved] at hrun
    obtain ⟨_, _, _, hrun⟩ := Activity.runIn_bind_eq_ok.mp hrun
    cases hrun
  · rw [if_neg hserved] at hrun
    obtain ⟨interrupted, blocked, hblock, hrun⟩ := Activity.runIn_bind_eq_ok.mp hrun
    have hblocked := lapse_of_block hsite hpause hblock
    have hview : site.view blocked = l := hblocked.view.trans (hsite.view_store l world)
    have hnow := hblocked.now
    rw [hsite.now_store] at hnow
    cases taken with
    | false =>
        have hrefused := lapse_of_refusal hsite hrun
        rw [hrefused.view, hview]
        exact .refused hclaim
    | true =>
        by_cases hlasted : (true && !interrupted) = true
        · rw [if_pos hlasted] at hrun
          obtain ⟨_, _, _, hrun⟩ := Activity.runIn_bind_eq_ok.mp hrun
          cases hrun
        · obtain ⟨returned, hback, hrestored, hlater⟩ := runIn_handBack hsite blocked
          rw [if_neg hlasted, if_pos rfl, Activity.runIn_bind_ok hback] at hrun
          have hrefused := lapse_of_refusal hsite hrun
          rw [hrefused.view, hrestored, hview]
          exact .handedBack hclaim (by simpa using hserved) hnow (le_trans hlater hrefused.now)

/-- A call that is refused its permit. -/
theorem gaveUp_of_call
    {pause : Span → Activity ω Bool}
    (hpause : ∀ span, site.Idle (pause span))
    {body : Activity ω (Except ε τ)}
    {rejection : Rejection}
    (hrun : (call site pause body).runIn world = (.ok (.error (.rejected rejection)), after)) :
    GaveUp (site.view world) (site.reading world).now (site.reading after).now
      (site.view after) := by
  have hstate : site.state.runIn world = (.ok (site.view world), world) := rfl
  unfold call at hrun
  rw [Activity.runIn_bind_ok hstate] at hrun
  obtain ⟨result, asked, hasked, hrun⟩ := Activity.runIn_bind_eq_ok.mp hrun
  cases result with
  | error refusal =>
      cases hrun
      exact gaveUp_of_acquire hsite hpause hasked
  | ok _ =>
      obtain ⟨answer, ended, _, hrun⟩ := Activity.runIn_bind_eq_ok.mp hrun
      cases answer with
      | error e => cases hrun
      | ok t => cases hrun

/-- A reservation that is refused. -/
theorem gaveUp_of_reserve
    {timeout : Span}
    {rejection : Rejection}
    (hrun : (site.perform (reserve timeout)).runIn world = (.ok (.error rejection), after)) :
    GaveUp (site.view world) (site.reading world).now (site.reading after).now
      (site.view after) := by
  rcases hclaim : (site.view world).claim (site.reading world).now timeout.ticks with
    ⟨⟨wait, taken⟩, l⟩
  obtain ⟨reserved, hreserve, hview, -⟩ := runIn_reserve hsite hclaim
  rw [hreserve] at hrun
  cases taken with
  | false =>
      cases hrun
      rw [hview]
      exact .refused hclaim
  | true => cases hrun

/-- An acquisition on a scheduler that is refused, or whose wait is abandoned. -/
theorem gaveUp_of_acquireLater
    {sleep : Span → Activity ω Unit}
    (hsleep : ∀ span, site.Idle (sleep span))
    {timeout : Span}
    {result : Except Halt (Except Rejection Unit)}
    (hresult : result ≠ .ok (.ok ()))
    (hrun : (acquireLater site sleep timeout).runIn world = (result, after)) :
    GaveUp (site.view world) (site.reading world).now (site.reading after).now
      (site.view after) := by
  rcases hclaim : (site.view world).claim (site.reading world).now timeout.ticks with
    ⟨⟨wait, taken⟩, l⟩
  obtain ⟨reserved, hreserve, hview, hnow⟩ := runIn_reserve hsite hclaim
  unfold acquireLater at hrun
  rw [Activity.runIn_bind_ok hreserve] at hrun
  cases taken with
  | false =>
      cases hrun
      rw [hview]
      exact .refused hclaim
  | true =>
      rw [if_pos rfl] at hrun
      dsimp only at hrun
      by_cases hnone : (Span.clip wait).nanos = 0
      · rw [if_pos hnone] at hrun
        cases hrun
        exact absurd rfl hresult
      · rw [if_neg hnone] at hrun
        have hlapse := hsleep (Span.clip wait) reserved
        rcases hslept : (sleep (Span.clip wait)).runIn reserved with ⟨halt | _, slept⟩
        · rw [hslept] at hlapse
          obtain ⟨returned, hback, hrestored, hlater⟩ := runIn_handBack hsite slept
          rw [Activity.runIn_bind_error
            (Activity.runIn_orElseHalt_of_error hslept hback)] at hrun
          cases hrun
          rw [hrestored, hlapse.view, hview]
          refine .handedBack hclaim ?_ (le_trans hnow hlapse.now) hlater
          rintro rfl
          exact hnone rfl
        · rw [Activity.runIn_bind_ok (Activity.runIn_orElseHalt_of_ok hslept _)] at hrun
          cases hrun
          exact absurd rfl hresult

end Runs

/-- An acquisition that is started in a world and ends without a permit: a caller that blocks is
refused or interrupted, also before its call; a reservation is refused; a wait on a scheduler is
refused or abandoned. -/
inductive Fails
    (site : Site ω Limiter Event)
    (world after : ω) : Prop
  | acquire {pause : Span → Activity ω Bool} {timeout : Span} {rejection : Rejection}
      (hpause : ∀ span, site.Idle (pause span))
      (hrun : (acquire site pause timeout).runIn world = (.ok (.error rejection), after)) :
      Fails site world after
  | call {ε τ : Type} {pause : Span → Activity ω Bool} {body : Activity ω (Except ε τ)}
      {rejection : Rejection}
      (hpause : ∀ span, site.Idle (pause span))
      (hrun : (call site pause body).runIn world = (.ok (.error (.rejected rejection)), after)) :
      Fails site world after
  | reserve {timeout : Span} {rejection : Rejection}
      (hrun : (site.perform (reserve timeout)).runIn world = (.ok (.error rejection), after)) :
      Fails site world after
  | acquireLater {sleep : Span → Activity ω Unit} {timeout : Span}
      {result : Except Halt (Except Rejection Unit)}
      (hsleep : ∀ span, site.Idle (sleep span))
      (hresult : result ≠ .ok (.ok ()))
      (hrun : (acquireLater site sleep timeout).runIn world = (result, after)) :
      Fails site world after

/-- A failed acquisition takes no permit, or hands back the one it had to wait for. -/
theorem Fails.gaveUp
    {world after : ω}
    (hfails : Fails site world after)
    (hsite : site.Steady) :
    GaveUp (site.view world) (site.reading world).now (site.reading after).now
      (site.view after) := by
  cases hfails with
  | acquire hpause hrun => exact gaveUp_of_acquire hsite hpause hrun
  | call hpause hrun => exact gaveUp_of_call hsite hpause hrun
  | reserve hrun => exact gaveUp_of_reserve hsite hrun
  | acquireLater hsleep hresult hrun => exact gaveUp_of_acquireLater hsite hsleep hresult hrun

/-! ### What is left behind -/

section Left

variable {l after : Limiter} {now finish : Nat}

/-- Who gives up found no permit left. -/
theorem GaveUp.permits_nonpos (h : GaveUp l now finish after) : (l.freshCell now).permits ≤ 0 := by
  by_contra hleft
  have hnone : l.timing.wait (l.freshCell now).permits now = 0 := if_pos (not_le.mp hleft)
  cases h with
  | refused hclaim =>
      have hlate := (of_claim_refused now hclaim).1
      omega
  | handedBack hclaim hwait => exact hwait ((of_claim_taken now hclaim).1.trans hnone)

/-- What a failed acquisition leaves behind cannot be told from the limiter it found. -/
theorem GaveUp.alike
    {last : Nat}
    (h : GaveUp l now finish after)
    (hstands : l.cell.Stands l.timing (l.timing.cycleAt last))
    (hpositive : 0 < l.timing.limit)
    (hlimit : l.timing.limit ≤ maxLimit)
    (hlast : last ≤ now)
    (hnow : now ≤ finish)
    (hcount : minPermits < (l.freshCell now).permits) :
    ∃ c, after = l.setCell c ∧ l.Alike c last finish := by
  have hcycle := l.timing.cycleAt_mono hlast
  have hnone := h.permits_nonpos
  cases h with
  | refused hclaim =>
      refine ⟨l.freshCell now, (of_claim_refused now hclaim).2, fun later hlater hgap => ?_⟩
      exact hstands.refresh_refresh hlimit hcycle (le_trans hnow hlater) hgap
  | @handedBack _ _ given _ hclaim _ hgiven hfinish =>
      obtain ⟨-, rfl⟩ := of_claim_taken now hclaim
      refine ⟨(((l.freshCell now).take).refresh l.timing given).giveBack l.timing, rfl, ?_⟩
      intro later hlater hgap
      have hlate : given ≤ later := le_trans hfinish hlater
      have hback :
          (((l.freshCell now).take).refresh l.timing given).giveBack l.timing =
            l.freshCell given :=
        hstands.giveBack_refresh_take hlimit hpositive hcycle hgiven
          (lt_of_le_of_lt (l.timing.cycleAt_mono hlate) hgap) hnone hcount
      rw [hback]
      exact hstands.refresh_refresh hlimit (le_trans hcycle (l.timing.cycleAt_mono hgiven)) hlate
        hgap

end Left

/-- **No trace.**  Let a run of visits to a new limiter be interrupted by an acquisition that ends
without a permit, however long it takes, as long as nobody else visits the limiter meanwhile.  If
the clock does not go back, a visit that looks at the cell comes fewer than `2 ^ 32` cycles after the
last one that moved it, and the count is not at its least value, then the rest of the run answers
what it would have answered without that acquisition: the same quotes, and the same numbers of
permits, waits and waiting callers.  Taking the numbers leaves the cell where it is, so that the
cycles are counted from the last caller that asked for a permit or handed one back. -/
theorem failed_acquisition_leaves_no_trace
    (hsite : site.Steady)
    {name : String}
    {config : Config}
    {start : Nat}
    {l : Limiter}
    (hcreate : create name config start = .ok l)
    (earlier later : List (Nat × Visit))
    {world after : ω}
    (hworld : site.view world = l.passAll earlier)
    (hfails : Fails site world after)
    (hclock : (start :: (earlier.map Prod.fst ++ (site.reading world).now ::
      (site.reading after).now :: later.map Prod.fst)).Pairwise (· ≤ ·))
    (hbrisk : brisk l.timing none (earlier ++ later) = true)
    (hcount : minPermits < ((l.passAll earlier).metrics (site.reading world).now).available) :
    (site.view after).answers later = (l.passAll earlier).answers later := by
  obtain ⟨-, htiming, hcell⟩ := Ledger.create_eq_ok hcreate
  obtain ⟨⟨hpositive, hlimit⟩, -⟩ := Ledger.bounds_of_create hcreate
  have hnew : l.Settled none := by
    show l.cell = ⟨0, l.timing.limit⟩
    rw [hcell, htiming]
  obtain ⟨hsame, hsettled⟩ := hnew.passAll earlier
  -- Only the gap across the acquisition matters.
  rw [brisk_append, Bool.and_eq_true] at hbrisk
  rw [← hsame] at hpositive hlimit hbrisk
  have hgave := hfails.gaveUp hsite
  rw [hworld] at hgave
  cases hmoved : lastMoved none earlier with
  | none =>
      -- Nobody took a permit yet, so that nobody could fail to get one.
      rw [hmoved] at hsettled
      obtain ⟨cycle, hstands⟩ := hsettled.stands
      have hfull : (l.passAll earlier).cell = ⟨0, (l.passAll earlier).timing.limit⟩ := hsettled
      have hleft :=
        hstands.refresh_permits_of_full hlimit (by rw [hfull]) (site.reading world).now
      have hnone : ((l.passAll earlier).freshCell (site.reading world).now).permits ≤ 0 :=
        hgave.permits_nonpos
      unfold freshCell at hnone
      omega
  | some last =>
      rw [hmoved] at hsettled hbrisk
      rw [← List.cons_append, List.pairwise_append] at hclock
      obtain ⟨-, hrest, hbefore⟩ := hclock
      obtain ⟨hafter, hlater⟩ := List.pairwise_cons.mp hrest
      have hmem : last ∈ earlier.map Prod.fst := by
        simpa using eq_or_mem_of_lastMoved hmoved
      have hlast : last ≤ (site.reading world).now :=
        hbefore _ (List.mem_cons_of_mem _ hmem) _ List.mem_cons_self
      obtain ⟨c, hleft, halike⟩ :=
        hgave.alike hsettled hpositive hlimit hlast (hafter _ List.mem_cons_self) hcount
      rw [hleft]
      exact halike.answers_eq later hlater hbrisk.2

/-- A limiter beside its clock; nobody listens. -/
def clocked : Site (Limiter × Nat) Limiter Event where
  view := Prod.fst
  store l world := (l, world.2)
  reading world := ⟨world.2, .zero false⟩
  announce _ := pure ()

theorem steady_clocked : clocked.Steady :=
  ⟨fun _ _ => rfl, fun _ _ => rfl, fun _ world => ⟨world, rfl, Site.Lapse.refl world⟩⟩

/-- Two permits a millisecond, and three callers: a fourth waits for its permit and is interrupted
five cycles later.  The cell it leaves differs from the one it found, and nobody can tell. -/
theorem failed_acquisition_leaves_no_trace_interrupted :
    let l : Limiter := ⟨"line", ⟨2, 1000000, Span.zero, 0, 0⟩, ⟨0, 2⟩, 0⟩
    let earlier : List (Nat × Visit) := [(0, .claim .max), (0, .claim .max), (10, .claim .max)]
    let later : List (Nat × Visit) :=
      [(5000030, .look), (5000030, .claim .zero), (5000040, .claim .zero), (5000050, .claim .zero)]
    let pause (_ : Span) : Activity (Limiter × Nat) Bool := do
      modify fun world => (world.1, world.2 + 5000000)
      return true
    let ended := (acquire clocked pause .max).runIn (l.passAll earlier, 20)
    create "line" ⟨2, Span.ofMillis 1, Span.zero⟩ 0 = .ok l ∧
      (l.passAll earlier).cell = ⟨0, -1⟩ ∧ ended.2.1.cell = ⟨5, 2⟩ ∧
      ended.2.1.answers later = (l.passAll earlier).answers later := by
  intro l earlier later pause ended
  have hcreate : create "line" ⟨2, Span.ofMillis 1, Span.zero⟩ 0 = .ok l := rfl
  have hpause (span : Span) : clocked.Idle (pause span) :=
    fun world => ⟨rfl, Nat.le_add_right world.2 5000000⟩
  have hrun :
      (acquire clocked pause .max).runIn (l.passAll earlier, 20) =
        (.ok (.error (.interrupted "line")), ended.2) :=
    Prod.ext (by decide +kernel) rfl
  have hclock :
      (0 :: (earlier.map Prod.fst ++ 20 :: ended.2.2 :: later.map Prod.fst)).Pairwise (· ≤ ·) := by
    decide +kernel
  refine ⟨hcreate, by decide +kernel, by decide +kernel, ?_⟩
  have hworld : clocked.view (l.passAll earlier, 20) = l.passAll earlier := rfl
  exact failed_acquisition_leaves_no_trace steady_clocked hcreate earlier later hworld
    (.acquire hpause hrun) hclock (by decide +kernel) (by decide +kernel)

/-- Looking at the numbers brings nothing on.  One permit a millisecond has been promised to six
callers, and a seventh is refused three cycles later.  Then there is a look halfway through `2 ^ 32`
cycles and a caller at their end, so that fewer than `2 ^ 32` cycles begin from one visit to the next,
with the refused caller or without it.  The last caller is granted a permit with it, and refused
without it; and so much can be told from the numbers at that time. -/
theorem failed_acquisition_leaves_no_trace_overlooked :
    let l : Limiter := ⟨"line", ⟨1, 1000000, Span.zero, 0, 0⟩, ⟨0, 1⟩, 0⟩
    let earlier : List (Nat × Visit) := List.replicate 6 (0, .claim .max)
    let lap : Nat := 2 ^ 32 * 1000000
    let later : List (Nat × Visit) := [(lap / 2, .look), (lap, .claim .zero)]
    let world : Limiter × Nat := (l.passAll earlier, 3000000)
    let after := ((acquire clocked (fun _ => return false) .zero).runIn world).2
    let near (v w : Nat × Visit) : Prop := l.timing.cycleAt w.1 < l.timing.cycleAt v.1 + 2 ^ 32
    create "line" ⟨1, Span.ofMillis 1, Span.zero⟩ 0 = .ok l ∧
      Fails clocked world after ∧
      (0 :: (earlier.map Prod.fst ++ world.2 :: after.2 :: later.map Prod.fst)).Pairwise (· ≤ ·) ∧
      (earlier ++ later).IsChain near ∧
      (earlier ++ (after.2, .claim .zero) :: later).IsChain near ∧
      minPermits < (world.1.metrics world.2).available ∧
      (after.1.answers later).getLast? = some (.quoted ⟨0, true⟩) ∧
      (world.1.answers later).getLast? = some (.quoted ⟨6000000, false⟩) ∧
      (after.1.metrics lap).available = 1 ∧ (world.1.metrics lap).available = -5 := by
  intro l earlier lap later world after near
  have hrun :
      (acquire clocked (fun _ => return false) .zero).runIn world =
        (.ok (.error l.notPermitted), after) :=
    Prod.ext (by decide +kernel) rfl
  refine ⟨rfl, .acquire (fun _ _ => ⟨rfl, le_rfl⟩) hrun, ?_⟩
  decide +kernel

end Limiter
end FaultTolerance
