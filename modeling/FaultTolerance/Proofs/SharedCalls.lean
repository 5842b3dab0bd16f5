import FaultTolerance.Proofs.Adaptive.LimitHistory
import FaultTolerance.Proofs.Breaker.Moves
import FaultTolerance.Proofs.Window.SlidingHistory

/-!
# A breaker and an adaptive bulkhead that are told of the same calls

A circuit breaker and an adaptive bulkhead count calls in windows of the same kinds and hold them
against thresholds of the same kind, but each ends a call in its own way: the breaker may open, the
bulkhead returns a permit and moves its limit.  Set alike and told of the same calls, they count and
judge alike for as long as the breaker is closed, and the first verdict above the thresholds is the one
that opens it.

## Main definitions

* `Window.Shape.Abreast`: clock readings at which windows of different age show the same.
* `Window.Sliding.Agree`: windows that were told of the same calls.
* `Shared`: what happens to a breaker and an adaptive bulkhead side by side.

**Results.**
* `Window.Sliding.Agree.record`, `Window.Sliding.Agree.catchUp`: windows go on agreeing.
* `Shared.Alongside.step`, `Shared.alongside_play`: a closed breaker and the bulkhead after one move
  and after a run.
-/

namespace FaultTolerance

open Time Window

namespace Window

/-! ### Windows told of the same calls -/

/-- A clock reading at which windows that were opened at two readings see the same calls: a timed
window reads no time before its own opening, so it must not fall behind either of the two unless both
lie in one second. -/
def Shape.Abreast (start start' now : Nat) : Shape → Prop
  | .countBased => True
  | .timeBased => secondsOf start = secondsOf start' ∨ start ≤ now ∧ start' ≤ now

namespace Sliding

/-- Windows that were told of the same calls, and that show the same at every reading that is due. -/
def Agree
    (size floor : Nat)
    (shape : Shape)
    (due : Nat → Prop)
    (w v : Sliding) : Prop :=
  ∃ filed latest latest',
    Shows size floor latest filed shape w ∧ Shows size floor latest' filed shape v ∧
      ∀ now, due now → max latest (secondsOf now) = max latest' (secondsOf now)

section Agree

variable {size floor : Nat} {shape : Shape} {due : Nat → Prop} {w v : Sliding} {now : Nat}

/-- Windows without calls agree at the readings that are abreast of both openings. -/
theorem agree_of_shows_nil
    {start start' : Nat}
    (hw : Shows size floor (secondsOf start) [] shape w)
    (hv : Shows size floor (secondsOf start') [] shape v) :
    Agree size floor shape (fun now => shape.Abreast start start' now) w v := by
  cases shape with
  | countBased =>
      -- A counted window does not look at the clock: its opening may be dated back.
      cases hv with
      | counted _ hshows hsize hfloor =>
          exact ⟨[], _, _, hw, .counted _ hshows hsize hfloor, fun _ _ => rfl⟩
  | timeBased =>
      refine ⟨[], _, _, hw, hv, fun now hdue => ?_⟩
      rcases hdue with hsame | ⟨hstart, hstart'⟩
      · rw [hsame]
      · have hpast : secondsOf start ≤ secondsOf now := Nat.div_le_div_right hstart
        have hpast' : secondsOf start' ≤ secondsOf now := Nat.div_le_div_right hstart'
        rw [max_eq_right hpast, max_eq_right hpast']

/-- Windows that agree file a call alike. -/
theorem Agree.record
    (h : Agree size floor shape due w v)
    (hdue : due now)
    (c : Call) :
    Agree size floor shape due (w.record now c.duration c.outcome)
      (v.record now c.duration c.outcome) := by
  obtain ⟨filed, latest, latest', hw, hv, hlatest⟩ := h
  have hrecorded := hv.record now c
  rw [← hlatest now hdue] at hrecorded
  exact ⟨_, _, _, hw.record now c, hrecorded, fun _ _ => rfl⟩

/-- Windows that agree answer a recorded call alike. -/
theorem Agree.snapshot_record
    (h : Agree size floor shape due w v)
    (hdue : due now)
    (c : Call) :
    (w.record now c.duration c.outcome).snapshot = (v.record now c.duration c.outcome).snapshot := by
  obtain ⟨filed, latest, latest', hw, hv, hlatest⟩ := h
  rw [(hw.record now c).snapshot_eq, (hv.record now c).snapshot_eq, hlatest now hdue]

theorem Agree.catchUp
    (h : Agree size floor shape due w v)
    (hdue : due now) :
    Agree size floor shape due (w.catchUp now) (v.catchUp now) := by
  obtain ⟨filed, latest, latest', hw, hv, hlatest⟩ := h
  have hread := hv.catchUp now
  rw [← hlatest now hdue] at hread
  exact ⟨_, _, _, hw.catchUp now, hread, fun _ _ => rfl⟩

/-- Windows that agree show a reader the same. -/
theorem Agree.snapshot_catchUp
    (h : Agree size floor shape due w v)
    (hdue : due now) :
    (w.catchUp now).snapshot = (v.catchUp now).snapshot := by
  obtain ⟨filed, latest, latest', hw, hv, hlatest⟩ := h
  rw [(hw.catchUp now).snapshot_eq, (hv.catchUp now).snapshot_eq, hlatest now hdue]

end Agree
end Sliding
end Window

/-! ### Side by side -/

/-- What happens to a breaker and an adaptive bulkhead side by side: a call finishes, with a failure
or not, and both are told; the numbers of both are read; the breaker is asked for a permission or
given one back; a permit of the bulkhead is looked for or returns. -/
inductive Shared where
  | finish (elapsed : Span) (fault : Option Fault)
  | read
  | acquire
  | release
  | look
  | giveBack

namespace Shared

/-- What the breaker is asked. -/
def ofBreaker : Shared → Option Breaker.Move
  | .finish elapsed none => some (.success elapsed)
  | .finish elapsed (some fault) => some (.error elapsed fault)
  | .read => some .metrics
  | .acquire => some .acquire
  | .release => some .release
  | .look | .giveBack => none

/-- What the bulkhead is asked. -/
def ofAdaptive : Shared → Option Adaptive.Move
  | .finish elapsed fault => some (.complete elapsed fault.isSome)
  | .read => some .metrics
  | .look => some .look
  | .giveBack => some .release
  | .acquire | .release => none

/-- The part of a run that is the breaker's. -/
def onBreaker (moves : List (Reading × Shared)) : List (Reading × Breaker.Move) :=
  moves.filterMap fun m => m.2.ofBreaker.map (m.1, ·)

/-- The part of a run that is the bulkhead's. -/
def onAdaptive (moves : List (Reading × Shared)) : List (Reading × Adaptive.Move) :=
  moves.filterMap fun m => m.2.ofAdaptive.map (m.1, ·)

/-- A failure that a call finishes with counts for a breaker. -/
def Counted (b : Breaker) : Shared → Prop
  | .finish elapsed (some fault) => b.counts elapsed fault = true
  | _ => True

/-- Settings of a breaker and of an adaptive bulkhead that count and judge calls alike. -/
structure SetAlike
    (c : Breaker.Config)
    (c' : Adaptive.Config) : Prop where
  thresholds : c.thresholds = c'.thresholds
  slowDuration : c.slowDuration = c'.slowDuration
  shape : c.shape = c'.shape
  size : c.size = c'.size
  minimum : c.minimum = c'.minimum

/-- The windows of a breaker and an adaptive bulkhead agree. -/
def Counting
    (c : Breaker.Config)
    (due : Nat → Prop)
    (b : Breaker)
    (a : Adaptive) : Prop :=
  Sliding.Agree c.size (c.shape.floor c.size c.minimum) c.shape due b.window a.window

/-- A breaker that has been closed since it was `first`, and an adaptive bulkhead that was told of the
same calls. -/
structure Alongside
    (first : Breaker)
    (c' : Adaptive.Config)
    (due : Nat → Prop)
    (b : Breaker)
    (a : Adaptive) : Prop where
  circuit : b.circuit = .closed
  same : { b with window := first.window, circuit := first.circuit } = first
  config : a.config = c'
  counting : Counting first.config due b a

section Steps

variable {first b : Breaker} {c' : Adaptive.Config} {due : Nat → Prop} {a : Adaptive}

theorem Alongside.breaker_config (h : Alongside first c' due b a) : b.config = first.config := by
  rw [← h.same]

theorem Alongside.counts
    (h : Alongside first c' due b a)
    (elapsed : Span)
    (fault : Fault) :
    b.counts elapsed fault = first.counts elapsed fault := by
  rw [← h.same]
  rfl

/-- A report to the bulkhead: the window is told of the call and judged. -/
theorem report_eq
    (halike : SetAlike first.config c')
    (hvalid : c'.validate = .ok ())
    (hconfig : a.config = c')
    (r : Reading)
    (elapsed : Span)
    (failed : Bool) :
    let window :=
      a.window.record r.now elapsed (.classify elapsed first.config.slowDuration failed)
    (a.step (r, .complete elapsed failed)).window = window ∧
      (a.step (r, .complete elapsed failed)).config = c' ∧
      a.verdicts [(r, .complete elapsed failed)] =
        [first.config.thresholds.evaluate window.snapshot] := by
  subst hconfig
  obtain ⟨pool, -, -, hrun⟩ := Adaptive.exists_complete hvalid r elapsed failed
  rw [← halike.slowDuration, ← halike.thresholds] at hrun
  refine ⟨congrArg (·.2.1.window) hrun, congrArg (·.2.1.config) hrun, ?_⟩
  have hverdict := congrArg Prod.fst hrun
  exact congrArg ([·]) hverdict

/-- A finished call is judged alike by both, and opens the breaker if it is above the thresholds. -/
theorem Alongside.finish
    (halike : SetAlike first.config c')
    (hvalid : c'.validate = .ok ())
    (h : Alongside first c' due b a)
    (r : Reading)
    (hdue : due r.now)
    (elapsed : Span)
    (failed : Bool) :
    let b' := (b.record r elapsed failed).1
    let a' := a.step (r, .complete elapsed failed)
    let verdicts := a.verdicts [(r, .complete elapsed failed)]
    Counting first.config due b' a' ∧
      (.aboveThresholds ∈ verdicts → b'.phase = .open) ∧
      (.aboveThresholds ∉ verdicts → Alongside first c' due b' a') := by
  intro b' a' verdicts
  let call : Call := ⟨elapsed, .classify elapsed first.config.slowDuration failed⟩
  let verdict := first.config.thresholds.evaluate
    (a.window.record r.now call.duration call.outcome).snapshot
  obtain ⟨hwindow, hconfig, hverdicts⟩ := report_eq halike hvalid h.config r elapsed failed
  have habove : .aboveThresholds ∈ verdicts ↔ verdict = .aboveThresholds := by
    show .aboveThresholds ∈ a.verdicts _ ↔ _
    rw [hverdicts, List.mem_singleton]
    exact eq_comm
  have htold :
      (b.withCall r elapsed failed).window = b.window.record r.now call.duration call.outcome := by
    unfold Breaker.withCall
    rw [h.breaker_config]
  have hagree : Counting first.config due (b.withCall r elapsed failed) a' := by
    unfold Counting
    rw [htold, hwindow]
    exact h.counting.record hdue call
  have hrecord := Breaker.record_of_closed r elapsed failed h.circuit
  rw [h.breaker_config, htold, h.counting.snapshot_record hdue call] at hrecord
  rw [habove]
  by_cases hjudged : verdict = .aboveThresholds
  · have hopened : b' = (b.withCall r elapsed failed).entered r .open :=
      congrArg Prod.fst (hrecord.trans (if_pos hjudged))
    rw [hopened]
    exact ⟨hagree, fun _ => Breaker.phase_entered _ r .open, fun hne => absurd hjudged hne⟩
  · have hkept : b' = b.withCall r elapsed failed :=
      congrArg Prod.fst (hrecord.trans (if_neg hjudged))
    rw [hkept]
    exact ⟨hagree, fun heq => absurd heq hjudged, fun _ => ⟨h.circuit, h.same, hconfig, hagree⟩⟩

/-- Whatever happens, a closed breaker and the bulkhead go on counting alike, and the breaker opens
when the bulkhead's verdict is above the thresholds. -/
theorem Alongside.step
    (halike : SetAlike first.config c')
    (hvalid : c'.validate = .ok ())
    (h : Alongside first c' due b a)
    (m : Reading × Shared)
    (hdue : due m.1.now)
    (hcounted : m.2.Counted first) :
    let b' := b.play (onBreaker [m])
    let a' := a.play (onAdaptive [m])
    let verdicts := a.verdicts (onAdaptive [m])
    Counting first.config due b' a' ∧
      (.aboveThresholds ∈ verdicts → b'.phase = .open) ∧
      (.aboveThresholds ∉ verdicts → Alongside first c' due b' a') := by
  obtain ⟨r, move⟩ := m
  -- Without a report there is no verdict, and nothing but the windows and the pool changes.
  have hquiet
      {b' : Breaker}
      {a' : Adaptive}
      (hlater : Alongside first c' due b' a') :
      Counting first.config due b' a' ∧
        (.aboveThresholds ∈ ([] : List Verdict) → b'.phase = .open) ∧
        (.aboveThresholds ∉ ([] : List Verdict) → Alongside first c' due b' a') :=
    ⟨hlater.counting, fun hmem => absurd hmem List.not_mem_nil, fun _ => hlater⟩
  cases move with
  | finish elapsed fault =>
      cases fault with
      | none => exact h.finish halike hvalid r hdue elapsed false
      | some fault =>
          have hcounts : b.counts elapsed fault = true :=
            (h.counts elapsed fault).trans hcounted
          have hstep :
              b.play (onBreaker [(r, .finish elapsed (some fault))]) =
                (b.record r elapsed true).1 := by
            show b.step (r, .error elapsed fault) = _
            rw [Breaker.step_error, if_pos hcounts]
          rw [hstep]
          exact h.finish halike hvalid r hdue elapsed true
  | read => exact hquiet ⟨h.circuit, h.same, h.config, h.counting.catchUp hdue⟩
  | acquire =>
      have hstep : b.play (onBreaker [(r, .acquire)]) = b := by
        show (Breaker.acquire.run r b).2.1 = b
        rw [Breaker.acquire_of_closed r h.circuit]
      rw [hstep]
      exact hquiet h
  | release =>
      have hstep : b.play (onBreaker [(r, .release)]) = b := Breaker.giveBack_of_closed h.circuit
      rw [hstep]
      exact hquiet h
  | look => exact hquiet ⟨h.circuit, h.same, h.config, h.counting⟩
  | giveBack => exact hquiet ⟨h.circuit, h.same, h.config, h.counting⟩

end Steps

/-! ### Runs -/

section Runs

variable {first : Breaker} {a : Adaptive} {c' : Adaptive.Config} {due : Nat → Prop}

theorem play_onBreaker_concat
    (b : Breaker)
    (moves : List (Reading × Shared))
    (m : Reading × Shared) :
    b.play (onBreaker (moves ++ [m])) = (b.play (onBreaker moves)).play (onBreaker [m]) := by
  unfold onBreaker
  rw [List.filterMap_append, Breaker.play_append]

theorem play_onAdaptive_concat
    (a : Adaptive)
    (moves : List (Reading × Shared))
    (m : Reading × Shared) :
    a.play (onAdaptive (moves ++ [m])) = (a.play (onAdaptive moves)).play (onAdaptive [m]) := by
  unfold onAdaptive
  rw [List.filterMap_append, Adaptive.play_append]

theorem verdicts_onAdaptive_concat
    (a : Adaptive)
    (moves : List (Reading × Shared))
    (m : Reading × Shared) :
    a.verdicts (onAdaptive (moves ++ [m])) =
      a.verdicts (onAdaptive moves) ++ (a.play (onAdaptive moves)).verdicts (onAdaptive [m]) := by
  unfold onAdaptive
  rw [List.filterMap_append, Adaptive.verdicts_append]

/-- As long as no verdict was above the thresholds, the breaker is closed, and both were told of the
same calls. -/
theorem alongside_play
    (halike : SetAlike first.config c')
    (hvalid : c'.validate = .ok ())
    (h : Alongside first c' due first a)
    {moves : List (Reading × Shared)}
    (hdue : ∀ m ∈ moves, due m.1.now)
    (hcounted : ∀ m ∈ moves, m.2.Counted first)
    (hbelow : .aboveThresholds ∉ a.verdicts (onAdaptive moves)) :
    Alongside first c' due (first.play (onBreaker moves)) (a.play (onAdaptive moves)) := by
  induction moves using List.reverseRecOn with
  | nil => exact h
  | append_singleton moves m ih =>
      rw [verdicts_onAdaptive_concat, List.mem_append, not_or] at hbelow
      have hpast := ih (fun m' hm' => hdue m' (List.mem_append_left _ hm'))
        (fun m' hm' => hcounted m' (List.mem_append_left _ hm')) hbelow.1
      have hmem : m ∈ moves ++ [m] := List.mem_append_right _ (List.mem_singleton_self m)
      rw [play_onBreaker_concat, play_onAdaptive_concat]
      exact (hpast.step halike hvalid m (hdue m hmem) (hcounted m hmem)).2.2 hbelow.2

/-- A new breaker and a new bulkhead that are set alike were told of the same calls: of none. -/
theorem alongside_of_create
    {name name' : String}
    {c : Breaker.Config}
    {classifier : Option (Classifier Fault)}
    {policy : LimitPolicy}
    {start start' : Nat}
    (hbreaker : Breaker.create name c classifier start = .ok first)
    (hadaptive : Adaptive.create name' c' policy start' = .ok a)
    (halike : SetAlike c c') :
    first.config = c ∧ c'.validate = .ok () ∧
      Alongside first c' (fun now => c.shape.Abreast start start' now) first a := by
  obtain ⟨hvalid, rfl⟩ := Breaker.create_eq_ok hbreaker
  obtain ⟨hvalid', -, hfollows⟩ := Adaptive.follows_of_create hadaptive
  have hsize : 0 < c.size :=
    ((Breaker.Config.validate_eq_ok_iff c).mp hvalid).2.1
  have hwindow := hfollows.window
  rw [← halike.shape, ← halike.size, ← halike.minimum] at hwindow
  refine ⟨rfl, hvalid', rfl, rfl, hfollows.config, ?_⟩
  exact Sliding.agree_of_shows_nil (Sliding.shows_ofShape hsize c.minimum start c.shape) hwindow

end Runs

/-- **A breaker and an adaptive bulkhead judge alike.**  Take a new breaker and a new adaptive bulkhead
whose settings agree in thresholds, slow-call duration, and shape, size and minimum of the window, and
let any calls finish with both told of them, every failure counting, at clock readings that move as
they like; permissions come and go, granted or not, and numbers are read.  As long as no verdict of
the bulkhead was above the thresholds the breaker is closed.  The move that brings the first such
verdict is the one that opens it.  Up to that move, and right after it, both show the same snapshot at
every reading: the same failure rate, slow-call rate, calls, failed calls and slow calls.  Both may be
built at different readings; then a timed window must not be read at a time before them. -/
theorem opens_with_first_above
    {name name' : String}
    {c : Breaker.Config}
    {c' : Adaptive.Config}
    {classifier : Option (Classifier Fault)}
    {policy : LimitPolicy}
    {start start' : Nat}
    {b : Breaker}
    {a : Adaptive}
    (hbreaker : Breaker.create name c classifier start = .ok b)
    (hadaptive : Adaptive.create name' c' policy start' = .ok a)
    (halike : SetAlike c c')
    (past : List (Reading × Shared))
    (last : Reading × Shared)
    (hclock : ∀ m ∈ past ++ [last], c.shape.Abreast start start' m.1.now)
    (hcounted : ∀ m ∈ past ++ [last], m.2.Counted b)
    (hbelow : .aboveThresholds ∉ a.verdicts (onAdaptive past)) :
    (b.play (onBreaker past)).phase = .closed ∧
      ((b.play (onBreaker (past ++ [last]))).phase =
        if .aboveThresholds ∈ a.verdicts (onAdaptive (past ++ [last])) then .open else .closed) ∧
      ∀ r : Reading, c.shape.Abreast start start' r.now → ∀ moves ∈ [past, past ++ [last]],
        (Breaker.metrics.run r (b.play (onBreaker moves))).1.snapshot =
          (Adaptive.metrics.run r (a.play (onAdaptive moves))).1.snapshot := by
  obtain ⟨rfl, hvalid, hstart⟩ := alongside_of_create hbreaker hadaptive halike
  have hpast := alongside_play halike hvalid hstart
    (fun m hm => hclock m (List.mem_append_left _ hm))
    (fun m hm => hcounted m (List.mem_append_left _ hm)) hbelow
  have hmem : last ∈ past ++ [last] := List.mem_append_right _ (List.mem_singleton_self last)
  obtain ⟨hcounting, hopen, hclosed⟩ :=
    hpast.step halike hvalid last (hclock last hmem) (hcounted last hmem)
  rw [← play_onBreaker_concat] at hcounting hopen hclosed
  rw [← play_onAdaptive_concat] at hcounting hclosed
  refine ⟨Breaker.phase_of_circuit hpast.circuit, ?_, fun r hr moves hmoves => ?_⟩
  · rw [verdicts_onAdaptive_concat]
    simp only [List.mem_append, hbelow, false_or]
    split_ifs with habove
    · exact hopen habove
    · exact Breaker.phase_of_circuit (hclosed habove).circuit
  · rcases List.mem_cons.mp hmoves with rfl | hmoves
    · exact hpast.counting.snapshot_catchUp hr
    · obtain rfl := List.mem_singleton.mp hmoves
      exact hcounting.snapshot_catchUp hr

/-- Windows of three seconds, the bulkhead's opened in the second after the breaker's, and two calls
enough: a success, and then a failure that opens the breaker and halves the limit. -/
theorem opens_with_first_above_second :
    let c : Breaker.Config :=
      { Breaker.Config.standard with shape := .timeBased, size := 3, minimum := 2 }
    let c' : Adaptive.Config :=
      { Adaptive.Config.standard with shape := .timeBased, size := 3, minimum := 2 }
    let b : Breaker := ⟨"front", c, none, .closed, c.closedWindow 0, 0, 0⟩
    let a : Adaptive :=
      ⟨"pool", c', ⟨"pool", 25, 0, Span.zero⟩, Sliding.ofShape .timeBased 3 2 1500000000, .halving, 0⟩
    let early : Reading := ⟨1600000000, .zero false⟩
    let late : Reading := ⟨3100000000, .zero false⟩
    let past : List (Reading × Shared) :=
      [(early, .acquire), (early, .look), (early, .finish Span.zero none), (early, .read)]
    let last : Reading × Shared := (late, .finish Span.zero (some .other))
    (b.play (onBreaker past)).phase = .closed ∧
      a.verdicts (onAdaptive (past ++ [last])) = [.belowMinimumCalls, .aboveThresholds] ∧
      (b.play (onBreaker (past ++ [last]))).phase = .open ∧
      (Breaker.metrics.run late (b.play (onBreaker (past ++ [last])))).1.snapshot =
        (Adaptive.metrics.run late (a.play (onAdaptive (past ++ [last])))).1.snapshot := by
  intro c c' b a early late past last
  have hvalid : c.validate = .ok () := by
    decide +kernel
  have hvalid' : c'.validate = .ok () := by
    decide +kernel
  have hadaptive : Adaptive.create "pool" c' .halving 1500000000 = .ok a := by
    unfold Adaptive.create
    rw [hvalid']
    rfl
  have habreast (now : Nat) (hnow : 1500000000 ≤ now) :
      c.shape.Abreast 0 1500000000 now :=
    .inr ⟨Nat.zero_le now, hnow⟩
  have hclock : ∀ m ∈ past ++ [last], c.shape.Abreast 0 1500000000 m.1.now := by
    intro m hm
    refine habreast _ ?_
    fin_cases hm <;> decide
  have hcounted : ∀ m ∈ past ++ [last], m.2.Counted b := by
    intro m hm
    fin_cases hm <;> trivial
  have hverdicts :
      a.verdicts (onAdaptive (past ++ [last])) = [.belowMinimumCalls, .aboveThresholds] := by
    decide +kernel
  obtain ⟨hclosed, hopen, hnumbers⟩ :=
    opens_with_first_above (Breaker.create_of_validate hvalid "front" none 0) hadaptive
      ⟨rfl, rfl, rfl, rfl, rfl⟩ past last hclock hcounted (by decide +kernel)
  rw [hverdicts] at hopen
  exact ⟨hclosed, hverdicts, hopen,
    hnumbers late (habreast _ (by decide)) _ (List.mem_cons_of_mem _ (List.mem_singleton_self _))⟩

end Shared
end FaultTolerance
