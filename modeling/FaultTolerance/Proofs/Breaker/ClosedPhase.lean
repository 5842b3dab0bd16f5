import FaultTolerance.Proofs.Breaker.Moves
import FaultTolerance.Proofs.Window.Arithmetic
import FaultTolerance.Proofs.Window.Judgement
import FaultTolerance.Proofs.Window.RoundedRates

/-!
# The closed phase

From an entry into the closed phase on, a breaker files the outcomes it is told of.  It stays closed
and admits every call until the calls in its window call for opening, and opens with the very
outcome that brings that about.  A failure that does not count, a permission asked for and one given
back leave the breaker as it was.

All this is about calls that the counters of the window can hold: those of a counted window always
can, and a timed window must not be told of more than `2 ^ 32 - 1` calls within its seconds.

**Results.**
* `JustClosed`: a breaker that has just entered the closed phase; `justClosed_step` lists the ways
  in.
* `Config.Trips`: when the filed calls call for opening.
* `Watching`: what a closed breaker is after a run; kept by every move until the filed calls trip.
* `JustClosed.watching_play`: so it is after every run whose filed calls never did.
* `JustClosed.countsWithin_iff`: when the outcomes of such a run can be counted.

The closed phase therefore ends with the first outcome that trips.
-/

namespace FaultTolerance
namespace Breaker

open Time Numeric Window

/-! ### Entries into the closed phase -/

/-- A breaker that entered the closed phase at a clock reading and was not used since. -/
structure JustClosed
    (b : Breaker)
    (start : Nat) : Prop where
  circuit : b.circuit = .closed
  window : b.window = b.config.closedWindow start

theorem justClosed_entered
    (b : Breaker)
    (r : Reading) :
    (b.entered r .closed).JustClosed r.now :=
  ⟨rfl, rfl⟩

/-- A new breaker is closed. -/
theorem justClosed_create
    {name : String}
    {config : Config}
    {classifier : Option (Classifier Fault)}
    {now : Nat}
    {b : Breaker}
    (h : create name config classifier now = .ok b) :
    config.validate = .ok () ∧ b.config = config ∧ b.JustClosed now := by
  obtain ⟨hvalid, rfl⟩ := create_eq_ok h
  exact ⟨hvalid, rfl, rfl, rfl⟩

/-- A finished call that closes a breaker enters the closed phase. -/
theorem justClosed_record
    {b : Breaker}
    (r : Reading)
    (elapsed : Span)
    (failed : Bool)
    (h : b.phase ≠ .closed)
    (hclosed : (b.record r elapsed failed).1.phase = .closed) :
    (b.record r elapsed failed).1.JustClosed r.now := by
  cases hrecords : b.phase.records with
  | false =>
      rw [record_of_silent r elapsed failed hrecords] at hclosed
      exact absurd hclosed h
  | true =>
      rcases circuit_of_records hrecords with hcircuit | ⟨remaining, hcircuit⟩
      · exact absurd (phase_of_circuit hcircuit) h
      · rw [record_of_halfOpen r elapsed failed hcircuit] at hclosed ⊢
        split_ifs at hclosed ⊢ with hpending habove
        · exact absurd hclosed h
        · cases (phase_entered _ r .open).symm.trans hclosed
        · exact justClosed_entered _ r

/-- Every way into the closed phase: from another phase, or again by hand. -/
theorem justClosed_step
    {b : Breaker}
    (r : Reading)
    (m : Move)
    (htrials : 0 < b.config.trials)
    (hentry : b.phase ≠ .closed ∨ m = .reset ∨ m = .transition .closed)
    (hclosed : (b.step (r, m)).phase = .closed) :
    (b.step (r, m)).JustClosed r.now := by
  have hoften (hm : m ≠ .reset ∧ m ≠ .transition .closed) : b.phase ≠ .closed := by
    rcases hentry with h | h | h
    · exact h
    · exact absurd h hm.1
    · exact absurd h hm.2
  cases m with
  | acquire =>
      have hne := hoften ⟨by simp, by simp⟩
      have hafter : (acquire.run r b).2.1.phase = .closed := hclosed
      rcases acquire_cases r htrials with
        ⟨-, h⟩ | ⟨remaining, -, h⟩ | ⟨-, h⟩ | ⟨-, h⟩
      · rw [h] at hafter
        exact absurd hafter hne
      · rw [h] at hafter
        cases hafter
      · rw [h] at hafter
        cases hafter
      · rw [h] at hafter
        exact absurd hafter hne
  | release => exact absurd ((phase_giveBack b).symm.trans hclosed) (hoften ⟨by simp, by simp⟩)
  | success elapsed =>
      exact justClosed_record r elapsed false (hoften ⟨by simp, by simp⟩) hclosed
  | error elapsed fault =>
      have hne := hoften ⟨by simp, by simp⟩
      rw [step_error] at hclosed ⊢
      split_ifs at hclosed ⊢ with hcounts
      · exact justClosed_record r elapsed true hne hclosed
      · exact absurd ((phase_giveBack b).symm.trans hclosed) hne
  | transition goal =>
      have hgoal : goal = .closed := by
        rw [← phase_moveByHand b r goal]
        exact hclosed
      subst hgoal
      have hentered : b.step (r, .transition .closed) = b.entered r .closed :=
        moveByHand_fst b r .closed
      rw [hentered]
      exact justClosed_entered b r
  | reset => exact justClosed_entered b r
  | metrics => exact absurd hclosed (hoften ⟨by simp, by simp⟩)

/-! ### Calls that call for opening -/

namespace Config

/-- The calls in the window when the newest of the filed calls was recorded. -/
def inWindow
    (c : Config) : List Filed → List Call
  | [] => []
  | newest :: older => c.shape.held c.size newest.second (newest :: older)

/-- The filed calls, latest first, call for opening: enough of them are in the window, and the
percentage of the failed or of the slow ones has reached its threshold. -/
def Trips
    (c : Config)
    (filed : List Filed) : Prop :=
  c.shape.floor c.size c.minimum ≤ (c.inWindow filed).length ∧
    (c.failureRate.le
        (Snapshot.percentage ((c.inWindow filed).countP fun call => call.outcome.isFailure)
          (c.inWindow filed).length) = true ∨
      c.slowRate.le
        (Snapshot.percentage ((c.inWindow filed).countP fun call => call.outcome.isSlow)
          (c.inWindow filed).length) = true)

instance (c : Config) (filed : List Filed) : Decidable (c.Trips filed) :=
  inferInstanceAs (Decidable (_ ∧ _))

end Config

/-- The moves of protected calls. -/
def Move.isTraffic : Move → Bool
  | .acquire | .release | .success _ | .error _ _ => true
  | .transition _ | .reset | .metrics => false

/-- The outcome that a move records, if any, under the second of its reading. -/
def outcomeOf
    (b : Breaker) : Reading × Move → Option Filed
  | (r, .success elapsed) =>
    some ⟨secondsOf r.now, elapsed, .classify elapsed b.config.slowDuration false⟩
  | (r, .error elapsed fault) =>
    if b.counts elapsed fault then
      some ⟨secondsOf r.now, elapsed, .classify elapsed b.config.slowDuration true⟩
    else none
  | _ => none

/-- The outcomes that a run records, latest first. -/
def recorded
    (b : Breaker)
    (moves : List (Reading × Move)) : List Filed :=
  (moves.filterMap b.outcomeOf).reverse

/-- An outcome is filed under the second of its reading. -/
theorem eq_of_outcomeOf
    {b : Breaker}
    {m : Reading × Move}
    {newest : Filed}
    (h : b.outcomeOf m = some newest) :
    newest = ⟨secondsOf m.1.now, newest.call⟩ := by
  obtain ⟨r, move⟩ := m
  cases move with
  | success elapsed =>
      cases h
      rfl
  | error elapsed fault =>
      simp only [outcomeOf] at h
      split_ifs at h
      cases h
      rfl
  | acquire => cases h
  | release => cases h
  | transition goal => cases h
  | reset => cases h
  | metrics => cases h

theorem recorded_concat
    (b : Breaker)
    (moves : List (Reading × Move))
    (m : Reading × Move) :
    b.recorded (moves ++ [m]) = (b.outcomeOf m).toList ++ b.recorded moves := by
  unfold recorded
  cases h : b.outcomeOf m <;> simp [h]

theorem recorded_replicate
    {b : Breaker}
    {m : Reading × Move}
    {newest : Filed}
    (h : b.outcomeOf m = some newest)
    (n : Nat) :
    b.recorded (List.replicate n m) = List.replicate n newest := by
  unfold recorded
  rw [List.filterMap_replicate_of_some h, List.reverse_replicate]

/-- Every outcome that a run records is counted within the counters of the window. -/
def CountsWithin
    (b : Breaker)
    (moves : List (Reading × Move)) : Prop :=
  ∀ past m newest, past ++ [m] <+: moves → b.outcomeOf m = some newest →
    (b.play past).window.AddsWithin m.1.now newest.call

/-! ### While the phase lasts -/

/-- A breaker that has been closed since `b` was, and whose window shows the filed calls up to a
second that the clock has reached. -/
structure Watching
    (b : Breaker)
    (now : Nat)
    (filed : List Filed)
    (later : Breaker) : Prop where
  circuit : b.circuit = .closed
  same : { later with window := b.window } = b
  shows : ∃ latest ≤ secondsOf now,
    Sliding.Shows b.config.size (b.config.shape.floor b.config.size b.config.minimum) latest filed
      b.config.shape later.window

variable {b later : Breaker} {start now : Nat} {filed : List Filed}

theorem Watching.later_circuit
    (h : Watching b now filed later) :
    later.circuit = .closed := by
  rw [← h.circuit, ← h.same]

theorem Watching.later_config
    (h : Watching b now filed later) :
    later.config = b.config := by
  rw [← h.same]

/-- A closed breaker that was not used since shows no calls. -/
theorem JustClosed.watching
    (h : b.JustClosed start)
    (hvalid : b.config.validate = .ok ()) :
    Watching b start [] b := by
  have hsize : 0 < b.config.size :=
    ((Config.validate_eq_ok_iff b.config).mp hvalid).2.1
  refine ⟨h.circuit, rfl, secondsOf start, le_rfl, ?_⟩
  rw [h.window]
  exact Sliding.shows_ofShape hsize b.config.minimum start b.config.shape

/-- Time alone changes nothing. -/
theorem Watching.mono
    (h : Watching b now filed later)
    {next : Nat}
    (hnext : now ≤ next) :
    Watching b next filed later := by
  obtain ⟨latest, hlatest, hshows⟩ := h.shows
  exact ⟨h.circuit, h.same, latest, hlatest.trans (Nat.div_le_div_right hnext), hshows⟩

/-- A recorded outcome is filed under the second of its reading. -/
theorem Watching.shows_withCall
    (h : Watching b now filed later)
    (r : Reading)
    (hnow : now ≤ r.now)
    (elapsed : Span)
    (failed : Bool) :
    Sliding.Shows b.config.size (b.config.shape.floor b.config.size b.config.minimum)
      (secondsOf r.now)
      (⟨secondsOf r.now, elapsed, .classify elapsed b.config.slowDuration failed⟩ :: filed)
      b.config.shape (later.withCall r elapsed failed).window := by
  obtain ⟨latest, hlatest, hshows⟩ := h.shows
  have hsecond : max latest (secondsOf r.now) = secondsOf r.now :=
    max_eq_right (hlatest.trans (Nat.div_le_div_right hnow))
  have htold := hshows.record r.now ⟨elapsed, .classify elapsed b.config.slowDuration failed⟩
  rw [hsecond] at htold
  unfold withCall
  rw [h.later_config]
  exact htold

theorem Watching.withCall
    (h : Watching b now filed later)
    (r : Reading)
    (hnow : now ≤ r.now)
    (elapsed : Span)
    (failed : Bool) :
    Watching b r.now
      (⟨secondsOf r.now, elapsed, .classify elapsed b.config.slowDuration failed⟩ :: filed)
      (later.withCall r elapsed failed) :=
  ⟨h.circuit, h.same, secondsOf r.now, le_rfl, h.shows_withCall r hnow elapsed failed⟩

/-- A finished call opens a closed breaker exactly when the filed calls, it included, call for
opening. -/
theorem Watching.record
    (hvalid : b.config.validate = .ok ())
    (h : Watching b now filed later)
    (r : Reading)
    (hnow : now ≤ r.now)
    (elapsed : Span)
    (failed : Bool) :
    (later.record r elapsed failed).1 =
      if b.config.Trips
          (⟨secondsOf r.now, elapsed, .classify elapsed b.config.slowDuration failed⟩ :: filed)
      then (later.withCall r elapsed failed).entered r .open
      else later.withCall r elapsed failed := by
  obtain ⟨hthresholds, hsize, hminimum, -⟩ := (Config.validate_eq_ok_iff b.config).mp hvalid
  have hfloor : 0 < b.config.shape.floor b.config.size b.config.minimum := by
    cases b.config.shape with
    | countBased => exact lt_min hminimum hsize
    | timeBased => exact hminimum
  have hsnapshot := (h.shows_withCall r hnow elapsed failed).snapshot_eq
  have hjudged :
      later.config.thresholds.evaluate (later.withCall r elapsed failed).window.snapshot =
          .aboveThresholds ↔
        b.config.Trips
          (⟨secondsOf r.now, elapsed, .classify elapsed b.config.slowDuration failed⟩ :: filed) := by
    rw [h.later_config, hsnapshot, Thresholds.evaluate_ofCalls_iff hthresholds hfloor]
    rfl
  rw [record_of_closed r elapsed failed h.later_circuit]
  simp only [hjudged, apply_ite Prod.fst]

/-- After a finished call a breaker is open, or still closed with that call filed. -/
theorem Watching.phase_record
    (hvalid : b.config.validate = .ok ())
    (h : Watching b now filed later)
    (r : Reading)
    (hnow : now ≤ r.now)
    (elapsed : Span)
    (failed : Bool) :
    if b.config.Trips
        (⟨secondsOf r.now, elapsed, .classify elapsed b.config.slowDuration failed⟩ :: filed)
    then (later.record r elapsed failed).1.phase = .open
    else
      Watching b r.now
        (⟨secondsOf r.now, elapsed, .classify elapsed b.config.slowDuration failed⟩ :: filed)
        (later.record r elapsed failed).1 := by
  rw [h.record hvalid r hnow elapsed failed]
  split_ifs with htrips
  · exact phase_entered _ _ _
  · exact h.withCall r hnow elapsed failed

/-- One move of a protected call in the closed phase. -/
theorem Watching.step
    (hvalid : b.config.validate = .ok ())
    (h : Watching b now filed later)
    (m : Reading × Move)
    (hnow : now ≤ m.1.now)
    (htraffic : m.2.isTraffic = true) :
    match b.outcomeOf m with
    | none => later.step m = later
    | some newest =>
      if b.config.Trips (newest :: filed) then (later.step m).phase = .open
      else Watching b m.1.now (newest :: filed) (later.step m) := by
  obtain ⟨r, move⟩ := m
  cases move with
  | acquire =>
      show (Breaker.acquire.run r later).2.1 = later
      rw [acquire_of_closed r h.later_circuit]
  | release => exact giveBack_of_closed h.later_circuit
  | success elapsed => exact h.phase_record hvalid r hnow elapsed false
  | error elapsed fault =>
      have hsame : later.counts elapsed fault = b.counts elapsed fault := by
        rw [← h.same]
        rfl
      rw [step_error, hsame]
      cases hcounts : b.counts elapsed fault with
      | true =>
          simp only [outcomeOf, hcounts, if_true]
          exact h.phase_record hvalid r hnow elapsed true
      | false =>
          simp only [outcomeOf, hcounts, Bool.false_eq_true, if_false]
          exact giveBack_of_closed h.later_circuit
  | transition goal => cases htraffic
  | reset => cases htraffic
  | metrics => cases htraffic

/-- The clock readings of a run that starts at a reading. -/
def clock
    (start : Nat)
    (moves : List (Reading × Move)) : List Nat :=
  start :: moves.map fun m => m.1.now

theorem pairwise_clock_concat
    {moves : List (Reading × Move)}
    {m : Reading × Move}
    (h : (clock start (moves ++ [m])).Pairwise (· ≤ ·)) :
    (clock start moves).Pairwise (· ≤ ·) ∧ ∀ t ∈ clock start moves, t ≤ m.1.now := by
  have hsplit : clock start (moves ++ [m]) = clock start moves ++ [m.1.now] := by
    simp [clock]
  rw [hsplit, List.pairwise_append] at h
  exact ⟨h.1, fun t ht => h.2.2 t ht _ (List.mem_singleton_self _)⟩

/-- A clock that stands still does not go back. -/
theorem pairwise_clock_of_forall_eq
    {moves : List (Reading × Move)}
    (hstands : ∀ m ∈ moves, m.1.now = start) :
    (clock start moves).Pairwise (· ≤ ·) := by
  have hall : ∀ t ∈ clock start moves, t = start := by
    intro t ht
    rcases List.mem_cons.mp ht with rfl | ht
    · rfl
    · obtain ⟨m, hm, rfl⟩ := List.mem_map.mp ht
      exact hstands m hm
  exact List.pairwise_of_forall_mem_list fun s hs t ht => ((hall s hs).trans (hall t ht).symm).le

/-- As long as the filed calls never called for opening, a run leaves its breaker closed, with the
recorded outcomes filed. -/
theorem JustClosed.watching_play
    (hvalid : b.config.validate = .ok ())
    (h : b.JustClosed start)
    {moves : List (Reading × Move)}
    (htraffic : ∀ m ∈ moves, m.2.isTraffic = true)
    (hclock : (clock start moves).Pairwise (· ≤ ·))
    (hbelow : ∀ past, past <+: moves → ¬ b.config.Trips (b.recorded past))
    {next : Nat}
    (hnext : ∀ t ∈ clock start moves, t ≤ next) :
    Watching b next (b.recorded moves) (b.play moves) := by
  -- From the last move back: the earlier ones are watched up to its clock reading.
  induction moves using List.reverseRecOn generalizing next with
  | nil => exact (h.watching hvalid).mono (hnext start (List.mem_cons_self ..))
  | append_singleton moves m ih =>
      obtain ⟨hinit, hm⟩ := pairwise_clock_concat hclock
      have hwatching :
          Watching b m.1.now (b.recorded moves) (b.play moves) :=
        ih (fun m' hm' => htraffic m' (List.mem_append_left _ hm')) hinit
          (fun past hpast => hbelow past (hpast.trans (List.prefix_append ..))) hm
      have hstep :=
        hwatching.step hvalid m le_rfl
          (htraffic m (List.mem_append_right _ (List.mem_singleton_self m)))
      have htrips := hbelow (moves ++ [m]) (List.prefix_refl _)
      have hlast : m.1.now ≤ next :=
        hnext m.1.now (by simp [clock])
      rw [recorded_concat] at htrips ⊢
      rw [play_concat]
      cases houtcome : b.outcomeOf m with
      | none =>
          rw [houtcome] at hstep
          rw [hstep]
          exact hwatching.mono hlast
      | some newest =>
          rw [houtcome] at hstep htrips
          simp only [Option.toList_some, List.singleton_append] at htrips ⊢
          simp only [if_neg htrips] at hstep
          exact hstep.mono hlast

/-! ### Outcomes that can be counted -/

/-- One more outcome stays within the counters exactly if the calls in the window, it included, can be
counted. -/
theorem Watching.addsWithin_iff
    (h : Watching b now filed later)
    (hwidth : b.config.size ≤ maxCount)
    {next : Nat}
    (hnext : now ≤ next)
    (c : Call) :
    later.window.AddsWithin next c ↔
      (b.config.inWindow (⟨secondsOf next, c⟩ :: filed)).length ≤ maxCount := by
  obtain ⟨latest, hlatest, hshows⟩ := h.shows
  have hsecond : max latest (secondsOf next) = secondsOf next :=
    max_eq_right (hlatest.trans (Nat.div_le_div_right hnext))
  have htold :
      (⟨latest, filed⟩ : Timed.History).step (.record (secondsOf next) c) =
        ⟨secondsOf next, ⟨secondsOf next, c⟩ :: filed⟩ := by
    simp only [Timed.History.step, hsecond]
  have hadds := Sliding.Shows.addsWithin_iff (h := ⟨latest, filed⟩) hshows hwidth next c
  rwa [htold] at hadds

/-- As long as the filed calls never called for opening, the outcomes of a run are counted within the
counters exactly if the window never holds more calls than can be counted. -/
theorem JustClosed.countsWithin_iff
    (hvalid : b.config.validate = .ok ())
    (h : b.JustClosed start)
    (hwidth : b.config.size ≤ maxCount)
    {moves : List (Reading × Move)}
    {last : Reading × Move}
    (htraffic : ∀ m ∈ moves, m.2.isTraffic = true)
    (hclock : (clock start (moves ++ [last])).Pairwise (· ≤ ·))
    (hbelow : ∀ past, past <+: moves → ¬ b.config.Trips (b.recorded past)) :
    b.CountsWithin (moves ++ [last]) ↔
      ∀ past, past <+: moves ++ [last] →
        (b.config.inWindow (b.recorded past)).length ≤ maxCount := by
  have hiff {past : List (Reading × Move)} {m : Reading × Move} {newest : Filed}
      (hbegins : past ++ [m] <+: moves ++ [last]) (houtcome : b.outcomeOf m = some newest) :
      (b.play past).window.AddsWithin m.1.now newest.call ↔
        (b.config.inWindow (b.recorded (past ++ [m]))).length ≤ maxCount := by
    have hpast : past <+: moves := by
      refine List.prefix_of_prefix_length_le ((List.prefix_append ..).trans hbegins)
        (List.prefix_append ..) ?_
      have hlength := hbegins.length_le
      rw [List.length_append, List.length_append] at hlength
      exact Nat.le_of_add_le_add_right hlength
    obtain ⟨hinit, hm⟩ :=
      pairwise_clock_concat (hclock.sublist ((hbegins.map _).sublist.cons_cons start))
    have hwatching : Watching b m.1.now (b.recorded past) (b.play past) :=
      h.watching_play hvalid (fun m' hm' => htraffic m' (hpast.subset hm')) hinit
        (fun earlier hearlier => hbelow earlier (hearlier.trans hpast)) hm
    rw [hwatching.addsWithin_iff hwidth le_rfl, ← eq_of_outcomeOf houtcome, recorded_concat,
      houtcome]
    rfl
  constructor
  · intro hcounts past hbegins
    -- A move that records nothing leaves the calls of the moves before it.
    induction past using List.reverseRecOn with
    | nil => exact Nat.zero_le _
    | append_singleton past m ih =>
        cases houtcome : b.outcomeOf m with
        | none =>
            rw [recorded_concat, houtcome]
            exact ih ((List.prefix_append ..).trans hbegins)
        | some newest => exact (hiff hbegins houtcome).mp (hcounts past m newest hbegins houtcome)
  · intro hheld past m newest hbegins houtcome
    exact (hiff hbegins houtcome).mpr (hheld _ hbegins)

/-- A counted window never holds more calls than it has slots. -/
theorem Config.length_inWindow_le
    {c : Config}
    (hshape : c.shape = .countBased)
    (filed : List Filed) :
    (c.inWindow filed).length ≤ c.size := by
  cases filed with
  | nil => exact Nat.zero_le _
  | cons newest older =>
      unfold Config.inWindow
      rw [hshape]
      exact List.length_take_le _ _

/-- Calls made in one second are all in a timed window. -/
theorem Config.inWindow_of_second
    {c : Config}
    (hshape : c.shape = .timeBased)
    (hsize : 0 < c.size)
    {second : Nat}
    {filed : List Filed}
    (hsecond : ∀ f ∈ filed, f.second = second) :
    c.inWindow filed = filed.map Filed.call := by
  cases filed with
  | nil => rfl
  | cons newest older =>
      have hnewest : newest.second = second := hsecond newest List.mem_cons_self
      show Shape.held c.size newest.second (newest :: older) c.shape = _
      rw [hshape, hnewest]
      show Filed.within second c.size (newest :: older) = _
      unfold Filed.within
      rw [List.filter_eq_self.mpr]
      intro f hf
      rw [hsecond f hf, decide_eq_true_eq]
      omega

/-- Calls that all went well call for nothing. -/
theorem Config.not_trips_of_success
    {c : Config}
    (hvalid : c.validate = .ok ())
    {filed : List Filed}
    (hcount : (c.inWindow filed).length ≤ maxCount)
    (hsuccess : ∀ call ∈ c.inWindow filed, call.outcome = .success) :
    ¬ c.Trips filed := by
  obtain ⟨hthresholds, hsize, hminimum, -⟩ := (Config.validate_eq_ok_iff c).mp hvalid
  rintro ⟨henough, hreached⟩
  have hsome : 0 < (c.inWindow filed).length := by
    refine lt_of_lt_of_le ?_ henough
    cases c.shape with
    | countBased => exact lt_min hminimum hsize
    | timeBased => exact hminimum
  have hnone : Snapshot.roundedRate 0 (c.inWindow filed).length = 0 := by
    simp [Snapshot.roundedRate, Snapshot.roundedQuotient, Format.toNearest_zero]
  have hfew : (c.inWindow filed).length < 2 ^ 32 := lt_of_le_of_lt hcount (by decide)
  have hrate := Snapshot.hasValue_percentage (Nat.zero_le _) hsome hfew
  have hfailed : (c.inWindow filed).countP (fun call => call.outcome.isFailure) = 0 := by
    refine List.countP_eq_zero.mpr fun call hcall => ?_
    rw [hsuccess call hcall]
    decide
  have hslow : (c.inWindow filed).countP (fun call => call.outcome.isSlow) = 0 := by
    refine List.countP_eq_zero.mpr fun call hcall => ?_
    rw [hsuccess call hcall]
    decide
  obtain ⟨⟨hfailure, -⟩, hslowness, -⟩ := Thresholds.hasValue_of_validate hthresholds
  obtain ⟨hpositive, hslowPositive⟩ := Thresholds.zero_lt_of_validate hthresholds
  have hzero : (Binary.zero false : Binary32).HasValue 0 := Binary.hasValue_zero false
  rw [hnone] at hrate
  rw [hfailed, hslow] at hreached
  rcases hreached with h | h
  · exact absurd ((hfailure.le_iff hrate).mp h) (not_le.mpr ((hzero.lt_iff hfailure).mp hpositive))
  · exact absurd ((hslowness.le_iff hrate).mp h)
      (not_le.mpr ((hzero.lt_iff hslowness).mp hslowPositive))

/-- The outcomes of a run can be counted exactly if the window never holds more than `2 ^ 32 - 1` calls,
which is always so for a counted window.  As long as they can, the closed phase ends with the first
recorded outcome for which the calls in the window, it included, are enough and have reached a
threshold; the breaker then is open.  Until then it is closed and admits every call, and a move that
records no outcome leaves it as it was. -/
theorem closed_until_trips
    (hvalid : b.config.validate = .ok ())
    (h : b.JustClosed start)
    (hwidth : b.config.size ≤ maxCount)
    (moves : List (Reading × Move))
    (last : Reading × Move)
    (htraffic : ∀ m ∈ moves ++ [last], m.2.isTraffic = true)
    (hclock : (clock start (moves ++ [last])).Pairwise (· ≤ ·))
    (hbelow : ∀ past, past <+: moves → ¬ b.config.Trips (b.recorded past)) :
    (b.CountsWithin (moves ++ [last]) ↔
        ∀ past, past <+: moves ++ [last] →
          (b.config.inWindow (b.recorded past)).length ≤ maxCount) ∧
      (b.config.shape = .countBased → b.CountsWithin (moves ++ [last])) ∧
      (b.CountsWithin (moves ++ [last]) →
        (b.play moves).phase = .closed ∧
          (∀ r, (acquire.run r (b.play moves)).1 = .ok ()) ∧
          match b.outcomeOf last with
          | none => b.play (moves ++ [last]) = b.play moves
          | some _ =>
            (b.play (moves ++ [last])).phase =
              if b.config.Trips (b.recorded (moves ++ [last])) then .open else .closed) := by
  obtain ⟨hpast, hlast⟩ := pairwise_clock_concat hclock
  have hearlier : ∀ m ∈ moves, m.2.isTraffic = true :=
    fun m hm => htraffic m (List.mem_append_left _ hm)
  have hcounts := h.countsWithin_iff hvalid hwidth hearlier hclock hbelow
  have hwatching : Watching b last.1.now (b.recorded moves) (b.play moves) :=
    h.watching_play hvalid hearlier hpast hbelow hlast
  have hstep :=
    hwatching.step hvalid last le_rfl
      (htraffic last (List.mem_append_right _ (List.mem_singleton_self last)))
  refine ⟨hcounts, fun hshape => ?_, fun _ => ⟨?_, ?_, ?_⟩⟩
  · exact hcounts.mpr fun past _ => (Config.length_inWindow_le hshape _).trans hwidth
  · exact phase_of_circuit hwatching.later_circuit
  · intro r
    rw [acquire_of_closed r hwatching.later_circuit]
  · rw [play_concat]
    cases houtcome : b.outcomeOf last with
    | none =>
        rw [houtcome] at hstep
        exact hstep
    | some newest =>
        have hrecorded : b.recorded (moves ++ [last]) = newest :: b.recorded moves := by
          rw [recorded_concat, houtcome]
          rfl
        rw [houtcome] at hstep
        show ((b.play moves).step last).phase = _
        rw [hrecorded]
        by_cases htrips : b.config.Trips (newest :: b.recorded moves)
        · simp only [if_pos htrips] at hstep
          rw [if_pos htrips, hstep]
        · simp only [if_neg htrips] at hstep
          rw [if_neg htrips]
          exact phase_of_circuit hstep.later_circuit

/-- Two calls are enough here and one failure among them reaches the threshold: a success, a failure
that counts, and the breaker is open. -/
theorem closed_until_trips_half :
    let config := { Config.standard with size := 2, minimum := 5 }
    let b : Breaker := ⟨"half", config, none, .closed, config.closedWindow 0, 0, 0⟩
    let r : Reading := ⟨5, .zero false⟩
    (b.play [(r, .success Span.zero), (r, .acquire)]).phase = .closed ∧
      (b.play [(r, .success Span.zero), (r, .acquire), (r, .error Span.zero .other)]).phase =
        .open := by
  intro config b r
  have hbelow :
      ∀ past, past <+: [(r, Move.success Span.zero), (r, .acquire)] →
        ¬ b.config.Trips (b.recorded past) := by
    intro past hpast
    rw [← List.mem_inits] at hpast
    revert past
    decide +kernel
  have hvalid : b.config.validate = .ok () := by
    decide +kernel
  have hjust : b.JustClosed 0 :=
    ⟨rfl, rfl⟩
  obtain ⟨-, hcounts, hphases⟩ :=
    closed_until_trips hvalid hjust (by decide) [(r, .success Span.zero), (r, .acquire)]
      (r, .error Span.zero .other) (by simp [Move.isTraffic]) (by decide +kernel) hbelow
  obtain ⟨hclosed, -, htrips⟩ := hphases (hcounts rfl)
  exact ⟨hclosed, htrips.trans (if_pos (by decide +kernel))⟩

/-- As many successes at one reading as can be counted, and then a failure, with a threshold below one
failure in `2 ^ 32`: the failure calls for opening, and there is no counting it. -/
theorem closed_until_trips_overfull :
    let config :=
      { Config.standard with
        failureRate := (⟨false, 2, -8⟩ : Decimal).toBinary
        shape := .timeBased
        size := 1
        minimum := 1 }
    let b : Breaker := ⟨"full", config, none, .closed, config.closedWindow 0, 0, 0⟩
    let r : Reading := ⟨0, .zero false⟩
    let moves := List.replicate maxCount (r, Move.success Span.zero)
    let run := moves ++ [(r, Move.error Span.zero .other)]
    config.validate = .ok () ∧
      (∀ past, past <+: moves → ¬ config.Trips (b.recorded past)) ∧
      config.Trips (b.recorded run) ∧
      ¬ b.CountsWithin run := by
  intro config b r moves run
  have hvalid : config.validate = .ok () := by
    decide +kernel
  let success : Filed := ⟨0, Span.zero, .success⟩
  let failure : Filed := ⟨0, Span.zero, .error⟩
  -- The number of calls stays a variable here, for nothing to be unrolled.
  have hsuccesses (n : Nat) :
      b.recorded (List.replicate n (r, Move.success Span.zero)) = List.replicate n success :=
    recorded_replicate (by decide +kernel) n
  have hsecond (n : Nat) : ∀ f ∈ List.replicate n success, f.second = 0 :=
    fun f hf => congrArg Filed.second (List.eq_of_mem_replicate hf)
  have hwindow (n : Nat) :
      config.inWindow (List.replicate n success) = List.replicate n success.call := by
    rw [Config.inWindow_of_second rfl Nat.one_pos (hsecond n), List.map_replicate]
  have hbelow : ∀ past, past <+: moves → ¬ config.Trips (b.recorded past) := by
    intro past hpast
    obtain ⟨hlength, hpast⟩ := List.prefix_replicate_iff.mp hpast
    rw [hpast, hsuccesses]
    refine Config.not_trips_of_success hvalid ?_ ?_
    · rw [hwindow, List.length_replicate]
      exact hlength
    · intro call hcall
      rw [hwindow] at hcall
      rw [List.eq_of_mem_replicate hcall]
  have hrecorded : b.recorded run = failure :: List.replicate maxCount success := by
    have houtcome : b.outcomeOf (r, Move.error Span.zero .other) = some failure := by
      decide +kernel
    rw [recorded_concat, hsuccesses, houtcome]
    rfl
  have hheld :
      config.inWindow (failure :: List.replicate maxCount success) =
        failure.call :: List.replicate maxCount success.call := by
    have hall : ∀ f ∈ failure :: List.replicate maxCount success, f.second = 0 :=
      List.forall_mem_cons.mpr ⟨rfl, hsecond maxCount⟩
    rw [Config.inWindow_of_second rfl Nat.one_pos hall, List.map_cons, List.map_replicate]
  refine ⟨hvalid, hbelow, ?_, ?_⟩
  · rw [hrecorded]
    unfold Config.Trips
    rw [hheld, List.length_cons, List.length_replicate, List.countP_cons, List.countP_replicate]
    refine ⟨by decide, Or.inl ?_⟩
    decide +kernel
  · have hjust : b.JustClosed 0 := ⟨rfl, rfl⟩
    have htraffic : ∀ m ∈ moves, m.2.isTraffic = true := by
      intro m hm
      rw [List.eq_of_mem_replicate hm]
      rfl
    have hstands : ∀ m ∈ run, m.1.now = 0 := by
      intro m hm
      rcases List.mem_append.mp hm with hm | hm
      · rw [List.eq_of_mem_replicate hm]
      · rw [List.mem_singleton.mp hm]
    have hclock := pairwise_clock_of_forall_eq hstands
    rw [hjust.countsWithin_iff hvalid (by decide) htraffic hclock hbelow]
    intro hall
    have hlast := hall run (List.prefix_refl _)
    rw [hrecorded, hheld, List.length_cons, List.length_replicate] at hlast
    exact Nat.not_succ_le_self _ hlast

end Breaker
end FaultTolerance
