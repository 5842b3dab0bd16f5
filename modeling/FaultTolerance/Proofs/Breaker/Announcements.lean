import FaultTolerance.Proofs.Breaker.Nesting

/-!
# What a listener learns of a circuit breaker

Whoever listens to a breaker from the start knows its phase, since the announced transitions lead from
the closed phase to the present one, and the number of calls that it refused.

## Main definitions

* `Path`: transitions that lead from one phase to another.

**Results.**
* `path_play`: the announced transitions lead to the phase at hand.
* `Turn.automatic_of_byHand`: which transitions come about without a move by hand.
* `count_notPermitted`, `refused_play`: refusals are announced and counted.
-/

namespace FaultTolerance
namespace Breaker

open Time Window

/-! ### Paths of phases -/

/-- Transitions that lead from one phase to another: each begins where the one before it ended, and
ends in another phase. -/
inductive Path : Circuit.Phase → List (Circuit.Phase × Circuit.Phase) → Circuit.Phase → Prop
  | here (phase : Circuit.Phase) : Path phase [] phase
  | step {source middle target : Circuit.Phase} {rest : List (Circuit.Phase × Circuit.Phase)}
      (hne : source ≠ middle) (hrest : Path middle rest target) :
      Path source ((source, middle) :: rest) target

theorem Path.append
    {source middle target : Circuit.Phase}
    {first second : List (Circuit.Phase × Circuit.Phase)}
    (hfirst : Path source first middle)
    (hsecond : Path middle second target) :
    Path source (first ++ second) target := by
  induction hfirst with
  | here phase => exact hsecond
  | step hne _ ih => exact .step hne (ih hsecond)

/-! ### Turns -/

/-- A refusal is one verdict, and so is an admission. -/
theorem Answer.count_verdict (a : Answer) :
    a.verdict.count .notPermitted = a.isRefusal.toNat ∧
      a.verdict.count .callPermitted = a.isAdmission.toNat := by
  cases a with
  | permission result => cases result <;> exact ⟨rfl, rfl⟩
  | done => exact ⟨rfl, rfl⟩
  | numbers metrics => exact ⟨rfl, rfl⟩

/-- The refusals among some turns. -/
def refusals (log : List Turn) : Nat :=
  log.countP (·.answer.isRefusal)

theorem refusals_cons
    (t : Turn)
    (log : List Turn) :
    refusals (t :: log) = t.answer.isRefusal.toNat + refusals log := by
  unfold refusals
  rw [List.countP_cons, Nat.add_comm]
  cases t.answer.isRefusal <;> rfl

namespace Turn

variable (t : Turn) (htrials : 0 < t.before.config.trials)
include htrials

/-- The transitions of a turn lead from the phase before it to the phase after it. -/
theorem path : Path t.before.phase (transitions t.events) t.after.phase := by
  rcases t.stays_or_arrives htrials with hstays | ⟨goal, harrives⟩
  · rw [hstays.silent, hstays.phase]
    exact .here _
  · rw [harrives.announced, harrives.phase]
    split_ifs with hsame
    · rw [hsame]
      exact .here _
    · exact .step hsame (.here _)

/-- Without a move by hand only the automatic transitions come about. -/
theorem automatic_of_byHand (hhand : t.move.byHand = none) :
    (∀ edge ∈ transitions t.events, edge ∈ automatic) ∧
      (t.after.phase ≠ t.before.phase → (t.before.phase, t.after.phase) ∈ automatic) := by
  rcases t.stays_or_arrives htrials with hstays | ⟨goal, harrives⟩
  · rw [hstays.silent, hstays.phase]
    exact ⟨fun _ hmem => absurd hmem List.not_mem_nil, fun hne => absurd rfl hne⟩
  · have hedge : (t.before.phase, goal) ∈ automatic := by
      rcases harrives.way with hway | ⟨-, hedge⟩
      · cases hhand.symm.trans hway
      · exact hedge
    rw [harrives.announced, harrives.phase, if_neg (ne_of_mem_automatic hedge)]
    exact ⟨fun edge hmem => List.mem_singleton.mp hmem ▸ hedge, fun _ => hedge⟩

/-- A turn announces the verdict of its answer, and no other. -/
theorem count_events
    {e : Event}
    (hverdict : e.isVerdict = true) :
    t.events.count e = t.answer.verdict.count e := by
  rw [← t.verdicts_events htrials]
  exact (List.count_filter hverdict).symm

end Turn

/-! ### Runs -/

section Runs

variable {b : Breaker}

/-- Each turn of a run is made on a breaker that an earlier part of the run led to. -/
theorem exists_play_of_mem_turns
    {moves : List (Reading × Move)}
    {t : Turn}
    (h : t ∈ b.turns moves) :
    ∃ first, t.before = b.play first := by
  induction moves generalizing b with
  | nil => cases h
  | cons m moves ih =>
      rcases List.mem_cons.mp h with rfl | h
      · exact ⟨[], rfl⟩
      · obtain ⟨first, hbefore⟩ := ih h
        exact ⟨m :: first, hbefore⟩

theorem trials_of_mem_turns
    {moves : List (Reading × Move)}
    {t : Turn}
    (htrials : 0 < b.config.trials)
    (h : t ∈ b.turns moves) :
    0 < t.before.config.trials := by
  obtain ⟨first, hbefore⟩ := exists_play_of_mem_turns h
  rw [hbefore, config_play]
  exact htrials

variable (moves : List (Reading × Move))

/-- The announced transitions of a run lead from its first phase to its last one. -/
theorem path_play (htrials : 0 < b.config.trials) :
    Path b.phase (transitions (b.announced moves)) (b.play moves).phase := by
  induction moves generalizing b with
  | nil => exact .here _
  | cons m moves ih =>
      let t : Turn := ⟨b, m.1, m.2⟩
      have hrest : Path t.after.phase (transitions (t.after.announced moves)) _ :=
        ih (by rw [t.kept.config]; exact htrials)
      show Path b.phase (transitions (t.events ++ t.after.announced moves)) _
      rw [transitions_append]
      exact (t.path htrials).append hrest

/-- The refusals of a run are announced. -/
theorem count_notPermitted (htrials : 0 < b.config.trials) :
    (b.announced moves).count .notPermitted = refusals (b.turns moves) := by
  induction moves generalizing b with
  | nil => rfl
  | cons m moves ih =>
      let t : Turn := ⟨b, m.1, m.2⟩
      have hrest := ih (b := t.after) (by rw [t.kept.config]; exact htrials)
      show (t.events ++ t.after.announced moves).count .notPermitted =
        refusals (t :: t.after.turns moves)
      rw [List.count_append, hrest, refusals_cons, t.count_events htrials rfl,
        t.answer.count_verdict.1]

/-- The refusals of a run are counted. -/
theorem refused_play : (b.play moves).refused = b.refused + refusals (b.turns moves) := by
  induction moves generalizing b with
  | nil => rfl
  | cons m moves ih =>
      let t : Turn := ⟨b, m.1, m.2⟩
      show (t.after.play moves).refused = b.refused + refusals (t :: t.after.turns moves)
      rw [ih, refusals_cons, t.kept.refused, Nat.add_assoc]

end Runs

/-- A listener to a new breaker hears transitions that lead from the closed phase to the phase at
hand.  Without a move by hand only the four automatic ones come about, none of which leaves the
disabled or the forced-open phase.  The refused calls are those of which the listener heard, and
those in the numbers of the breaker; an admitted call is announced once.  It is so, too, when
operations are made inside protected calls, for those make up a run. -/
theorem announced_replays_phases
    {name : String}
    {config : Config}
    {classifier : Option (Classifier Fault)}
    {now : Nat}
    {b : Breaker}
    (hcreate : create name config classifier now = .ok b) :
    (∀ moves : List (Reading × Move),
      let s := b.play moves
      let events := b.announced moves
      let refused := (b.turns moves).countP (·.answer.isRefusal)
      Path .closed (transitions events) s.phase ∧
        (∀ t ∈ b.turns moves, t.move.byHand = none →
          (∀ edge ∈ transitions t.events,
            edge ∈ [(Circuit.Phase.open, Circuit.Phase.halfOpen), (.closed, .open),
              (.halfOpen, .open), (.halfOpen, .closed)]) ∧
            (t.before.phase = .disabled ∨ t.before.phase = .forcedOpen →
              t.after.phase = t.before.phase)) ∧
        events.count .notPermitted = refused ∧
        (∀ r, (metrics.run r s).1.refused = refused ∧ (metrics.run r s).1.phase = s.phase) ∧
        ∀ t ∈ b.turns moves, t.answer.isAdmission = true → t.events.count .callPermitted = 1) ∧
      ∀ {ω α : Type} (site : Site ω Breaker Event) (heard : ω → List Event)
        (activity : Activity ω α) (world : ω),
        site.Observed heard (fun log e => log ++ [e]) → Operates site heard activity →
          site.view world = b → heard world = [] →
            ∃ moves,
              site.view (activity.runIn world).2 = b.play moves ∧
                heard (activity.runIn world).2 = b.announced moves := by
  have hfresh := fresh_of_create hcreate
  have htrials := hfresh.trials_pos
  have hclosed : b.phase = .closed :=
    phase_of_circuit hfresh.circuit
  constructor
  · intro moves s events refused
    have hcounted : s.refused = refused := by
      rw [refused_play, hfresh.refused, Nat.zero_add]
      rfl
    refine ⟨hclosed ▸ path_play moves htrials, fun t hmem hhand => ?_,
      count_notPermitted moves htrials, fun r => ⟨hcounted, rfl⟩, fun t hmem hadmitted => ?_⟩
    · obtain ⟨hedges, hmoved⟩ := t.automatic_of_byHand (trials_of_mem_turns htrials hmem) hhand
      refine ⟨hedges, fun hheld => ?_⟩
      by_contra hne
      have hedge := hmoved hne
      rcases hheld with hheld | hheld <;> simp [automatic, hheld] at hedge
    · rw [t.count_events (trials_of_mem_turns htrials hmem) rfl, t.answer.count_verdict.2,
        hadmitted]
      rfl
  · intro ω α site heard activity world hsite hoperates hview hheard
    obtain ⟨moves, hafter, hlog⟩ := hoperates.plays hsite world
    rw [hview] at hafter hlog
    rw [hheard, List.nil_append] at hlog
    exact ⟨moves, hafter, hlog⟩

/-- A breaker that is opened by hand inside a protected call, refuses one call, and closes again with
its only trial call: the listener heard of every transition, and of one refusal. -/
theorem announced_replays_phases_trial :
    let config := { Config.standard with trials := 1 }
    let b : Breaker := ⟨"trial", config, none, .closed, config.closedWindow 0, 0, 0⟩
    let r (now : Nat) : Reading := ⟨now, .zero false⟩
    let site := listening (r 0)
    let inside : Activity (Breaker × List Event) (Except Fault Unit) :=
      site.perform (transition .open) >>= fun _ => pure (.ok ())
    let moves : List (Reading × Move) :=
      [(r 0, .acquire), (r 0, .transition .open), (r 0, .success Span.zero), (r 1, .acquire),
        (r 60000000000, .acquire), (r 60000000001, .success Span.zero)]
    create "trial" config none 0 = .ok b ∧
      Path .closed [(.closed, .open), (.open, .halfOpen), (.halfOpen, .closed)] .closed ∧
        (metrics.run (r 60000000002) (b.play moves)).1.refused = 1 ∧
          ∃ played, ((call site inside).runIn (b, [])).2 = (b.play played, b.announced played) := by
  intro config b r site inside moves
  have hcreate : create "trial" config none 0 = .ok b :=
    create_of_validate (by decide +kernel) ..
  obtain ⟨hruns, hnested⟩ := announced_replays_phases hcreate
  obtain ⟨hpath, -, hannounced, hrefused, -⟩ := hruns moves
  have htransitions :
      transitions (b.announced moves) =
        [(.closed, .open), (.open, .halfOpen), (.halfOpen, .closed)] := by
    decide +kernel
  have hphase : (b.play moves).phase = .closed := by
    decide +kernel
  have hcount : (b.announced moves).count .notPermitted = 1 := by
    decide +kernel
  rw [htransitions, hphase] at hpath
  have hinside : Operates site Prod.snd inside :=
    .bind (.transition .open) fun _ => .aside (fun _ => rfl) fun _ => rfl
  obtain ⟨played, hbreaker, hheard⟩ :=
    hnested site Prod.snd (call site inside) (b, []) (observed_listening _) (.call hinside) rfl rfl
  refine ⟨hcreate, hpath, ?_, played, Prod.ext hbreaker hheard⟩
  rw [(hrefused _).1, ← hannounced, hcount]

end Breaker
end FaultTolerance
