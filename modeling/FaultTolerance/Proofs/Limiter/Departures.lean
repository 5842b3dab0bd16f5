import FaultTolerance.Proofs.Limiter.Places

/-!
# Departures from the line

A caller that hands its permit back leaves the line, and the line gets one place shorter at its end:
the callers behind keep the places they have, and the next caller gets the place of the last one
again.  So places are shared only behind a departure, and only as often as there are departures.

## Main definitions

* `Departure`, `Departure.behind`: a hand-back, and the grants behind it at that moment.
* `Ledger.departures`: the hand-backs of a run.
* `Ledger.Lined`: how far apart the places of outstanding grants are, and how far before the next
  place.

**Results.**
* `Ledger.Lined.step`, `Ledger.Lined.play`: kept by every move, and so by every run.
* `crowd_le`: grants that are so far apart crowd a stretch of places only by departures.
-/

namespace FaultTolerance
namespace Limiter

open Time

/-- A permit that was handed back: its ticket, and how many grants had been made by then. -/
structure Departure where
  ticket : Nat
  made : Nat
deriving DecidableEq

namespace Departure

/-- Whether a ticket was behind the one handed back. -/
def passes
    (d : Departure)
    (ticket : Nat) : Bool :=
  decide (d.ticket < ticket) && decide (ticket < d.made)

/-- What stood in a queue behind the ticket that was handed back. -/
def behind
    {α : Type}
    (d : Departure)
    (queue : List α) : List α :=
  (queue.take d.made).drop (d.ticket + 1)

/-- Who stood behind are those with the tickets in between. -/
theorem any_behind_iff
    {α : Type}
    (d : Departure)
    (queue : List α)
    (p : α → Bool) :
    (d.behind queue).any p = true ↔
      ∃ j a, queue[j]? = some a ∧ p a = true ∧ d.passes j = true := by
  unfold behind passes
  simp only [List.any_eq_true, Bool.and_eq_true, decide_eq_true_eq]
  constructor
  · rintro ⟨a, ha, hp⟩
    obtain ⟨i, hi⟩ := List.mem_iff_getElem?.mp ha
    rw [List.getElem?_drop, List.getElem?_take] at hi
    split_ifs at hi with hmade
    exact ⟨d.ticket + 1 + i, a, hi, hp, by omega, hmade⟩
  · rintro ⟨j, a, hj, hp, hticket, hmade⟩
    refine ⟨a, List.mem_iff_getElem?.mpr ⟨j - (d.ticket + 1), ?_⟩, hp⟩
    rw [List.getElem?_drop, List.getElem?_take, show d.ticket + 1 + (j - (d.ticket + 1)) = j by omega,
      if_pos hmade, hj]

end Departure

/-- An item of a queue that one item joined was there before, or is the new one. -/
theorem getElem?_concat_cases
    {α : Type}
    {queue : List α}
    {last a : α}
    {j : Nat}
    (h : (queue ++ [last])[j]? = some a) :
    (j < queue.length ∧ queue[j]? = some a) ∨ (j = queue.length ∧ last = a) := by
  have hlength := (List.getElem?_eq_some_iff.mp h).1
  rw [List.length_append, List.length_singleton] at hlength
  rcases Nat.lt_or_ge j queue.length with hold | hnew
  · rw [List.getElem?_append_left hold] at h
    exact Or.inl ⟨hold, h⟩
  · obtain rfl : j = queue.length := by
      omega
    rw [List.getElem?_concat_length, Option.some_inj] at h
    exact Or.inr ⟨rfl, h⟩

/-! ### Crowds -/

/-- Two kinds that exclude each other are together no more frequent than a third that both belong
to. -/
theorem countP_add_countP_le
    {α : Type}
    {p q r : α → Bool}
    (hdisjoint : ∀ a, p a = true → q a = false)
    (hp : ∀ a, p a = true → r a = true)
    (hq : ∀ a, q a = true → r a = true)
    (items : List α) :
    items.countP p + items.countP q ≤ items.countP r := by
  induction items with
  | nil => simp
  | cons a items ih =>
      simp only [List.countP_cons]
      cases hpa : p a with
      | true =>
          rw [hdisjoint a hpa, hp a hpa]
          simp only [if_true, Bool.false_eq_true, if_false]
          omega
      | false =>
          cases hqa : q a with
          | true =>
              rw [hq a hqa]
              simp only [if_true, Bool.false_eq_true, if_false]
              omega
          | false =>
              simp only [Bool.false_eq_true, if_false]
              omega

/-- The departures that took place while no more than `made` grants had been made. -/
def early
    (departed : List Departure)
    (made : Nat) : List Departure :=
  departed.filter fun d => decide (d.made ≤ made)

/-- Among the early departures are all that took place even earlier. -/
theorem countP_passes_le_early
    (departed : List Departure)
    {j k made : Nat}
    (hk : k ≤ made) :
    departed.countP (fun d => d.passes j && decide (d.made ≤ k)) ≤
      (early departed made).countP fun d => d.passes j && decide (d.made ≤ k) := by
  unfold early
  rw [List.countP_filter]
  refine List.countP_mono_left fun d _ hd => ?_
  simp only [Bool.and_eq_true, decide_eq_true_eq] at hd ⊢
  exact ⟨hd, by omega⟩

/-- Who stood behind a departure still does when another one joins. -/
theorem any_behind_concat
    {α : Type}
    {d : Departure}
    {queue : List α}
    {p : α → Bool}
    (last : α)
    (h : (d.behind queue).any p = true) :
    (d.behind (queue ++ [last])).any p = true := by
  rw [Departure.any_behind_iff] at h ⊢
  obtain ⟨j, a, hj, hrest⟩ := h
  refine ⟨j, a, ?_, hrest⟩
  rw [List.getElem?_append_left (List.getElem?_eq_some_iff.mp hj).1]
  exact hj

/-- The departures that an earlier item stood behind before the last one joined, and those that the
last one stood behind, are different ones. -/
theorem early_behind_add_passes_le
    {α : Type}
    (departed : List Departure)
    (queue : List α)
    {p : α → Bool}
    {last : α}
    (hlast : p last = true) :
    (early departed queue.length).countP (fun d => (d.behind queue).any p) +
      departed.countP (fun d => d.passes queue.length) ≤
        departed.countP fun d => (d.behind (queue ++ [last])).any p := by
  unfold early
  rw [List.countP_filter]
  refine countP_add_countP_le ?_ ?_ ?_ departed
  · intro d hd
    simp only [Bool.and_eq_true, decide_eq_true_eq] at hd
    unfold Departure.passes
    rw [Bool.and_eq_false_iff]
    exact Or.inr (decide_eq_false (by omega))
  · intro d hd
    rw [Bool.and_eq_true] at hd
    exact any_behind_concat last hd.1
  · intro d hd
    rw [Departure.any_behind_iff]
    exact ⟨queue.length, last, List.getElem?_concat_length, hlast, hd⟩

/-- Items at places from `low` on, each of them so far before the next that only departures in
between bring them closer, and so before `next`: there are no more of them than places from `low`
to `next`, but for the departures that some of them stood behind. -/
theorem crowd_le
    {α : Type}
    (place : α → Int)
    (p : α → Bool)
    (low next : Int)
    (departed : List Departure)
    (queue : List α)
    (hlow : ∀ a ∈ queue, p a = true → low ≤ place a)
    (hnext : low ≤ next)
    (hapart : ∀ j k a b, j < k → queue[j]? = some a → queue[k]? = some b →
      p a = true → p b = true →
      place a + 1 ≤ place b + departed.countP fun d => d.passes j && decide (d.made ≤ k))
    (hahead : ∀ j a, queue[j]? = some a → p a = true →
      place a + 1 ≤ next + departed.countP fun d => d.passes j) :
    low + queue.countP p ≤ next + departed.countP fun d => (d.behind queue).any p := by
  -- From the last item back: it takes the part of `next` for the items before it.
  induction queue using List.reverseRecOn generalizing departed next with
  | nil => simpa using Int.add_le_add hnext (Int.natCast_nonneg _)
  | append_singleton queue last ih =>
      have hold {j : Nat} {a : α} (hj : queue[j]? = some a) : (queue ++ [last])[j]? = some a := by
        rw [List.getElem?_append_left (List.getElem?_eq_some_iff.mp hj).1]
        exact hj
      have hlast : (queue ++ [last])[queue.length]? = some last :=
        List.getElem?_concat_length
      have hlow' : ∀ a ∈ queue, p a = true → low ≤ place a :=
        fun a ha => hlow a (List.mem_append_left _ ha)
      rw [List.countP_append, List.countP_singleton]
      cases hp : p last with
      | false =>
          have hfewer :=
            ih next departed hlow' hnext
              (fun j k a b hjk hj hk => hapart j k a b hjk (hold hj) (hold hk))
              (fun j a hj => hahead j a (hold hj))
          have hcount :
              departed.countP (fun d => (d.behind queue).any p) ≤
                departed.countP fun d => (d.behind (queue ++ [last])).any p :=
            List.countP_mono_left fun d _ => any_behind_concat last
          simp only [Bool.false_eq_true, if_false]
          omega
      | true =>
          have hfewer :
              low + queue.countP p ≤
                place last +
                  (early departed queue.length).countP fun d => (d.behind queue).any p := by
            refine ih _ _ hlow' (hlow last (by simp) hp) ?_ ?_
            · intro j k a b hjk hj hk ha hb
              have hgap := hapart j k a b hjk (hold hj) (hold hk) ha hb
              have hlength := (List.getElem?_eq_some_iff.mp hk).1
              have hearly := countP_passes_le_early departed (j := j) hlength.le
              omega
            · intro j a hj ha
              have hlength := (List.getElem?_eq_some_iff.mp hj).1
              have hgap := hapart j queue.length a last hlength (hold hj) hlast ha hp
              have hearly := countP_passes_le_early departed (j := j) (le_refl queue.length)
              have hmono :
                  (early departed queue.length).countP
                      (fun d => d.passes j && decide (d.made ≤ queue.length)) ≤
                    (early departed queue.length).countP fun d => d.passes j :=
                List.countP_mono_left fun d _ hd => (Bool.and_eq_true _ _ ▸ hd).1
              omega
          have hgap := hahead queue.length last hlast hp
          have hcount := early_behind_add_passes_le departed queue hp
          simp only [if_true]
          omega

/-! ### Runs with departures -/

namespace Ledger

/-- The departure of a move, if a permit is handed back. -/
def departs
    (s : Ledger) : Nat × Move → List Departure
  | (_, .handBack ticket) =>
    match s.grants[ticket]? with
    | some g => if g.returned then [] else [⟨ticket, s.grants.length⟩]
    | none => []
  | _ => []

/-- The departures of a run, in their order. -/
def departures
    (s : Ledger) : List (Nat × Move) → List Departure
  | [] => []
  | m :: moves => s.departs m ++ (s.step m).departures moves

/-- A hand-back either is a departure or does nothing. -/
theorem departs_cases
    (s : Ledger)
    (now ticket : Nat) :
    (∃ g : Grant,
      s.grants[ticket]? = some g ∧ g.returned = false ∧
      s.departs (now, .handBack ticket) = [⟨ticket, s.grants.length⟩] ∧
      s.handBack now ticket =
        ⟨s.limiter.setCell ((s.limiter.freshCell now).giveBack s.limiter.timing),
          s.grants.set ticket { g with returned := true }⟩)
      ∨
    (s.departs (now, .handBack ticket) = [] ∧ s.handBack now ticket = s) := by
  cases hfound : s.grants[ticket]? with
  | none => exact Or.inr (by simp [departs, handBack, hfound])
  | some g =>
      cases hreturned : g.returned with
      | true => exact Or.inr (by simp [departs, handBack, hfound, hreturned])
      | false =>
          refine Or.inl ⟨g, rfl, hreturned, ?_, handBack_of_outstanding s now hfound hreturned⟩
          simp [departs, hfound, hreturned]

/-- In a run with these departures, last moved at `last`: an outstanding grant is as far before the
next place as there are outstanding grants behind it, and a place before each of them, but for the
departures it stood behind. -/
structure Lined
    (s : Ledger)
    (departed : List Departure)
    (last : Nat) : Prop where
  recorded : s.Recorded last
  made : ∀ d ∈ departed, d.made ≤ s.grants.length
  ahead : ∀ (j : Nat) (g : Grant), s.grants[j]? = some g → g.returned = false →
    g.place s.limiter.timing + 1 + (s.grants.drop (j + 1)).countP (fun g => !g.returned) ≤
      s.nextPlace last + departed.countP fun d => d.passes j
  apart : ∀ (j k : Nat) (g later : Grant), j < k → s.grants[j]? = some g →
    s.grants[k]? = some later → g.returned = false →
    g.place s.limiter.timing + 1 ≤
      later.place s.limiter.timing + departed.countP fun d => d.passes j && decide (d.made ≤ k)

namespace Lined

variable {s : Ledger} {departed : List Departure} {last now : Nat}

/-- A refill moves nobody closer. -/
theorem refresh
    (h : s.Lined departed last)
    (hnow : last ≤ now) :
    Lined ⟨s.limiter.setCell (s.limiter.freshCell now), s.grants⟩ departed now where
  recorded := h.recorded.refresh hnow
  made := h.made
  ahead := by
    intro j g hj hheld
    have hahead := h.ahead j g hj hheld
    have hplace := h.recorded.nextPlace_le_refresh hnow
    exact le_trans hahead (Int.add_le_add_right hplace _)
  apart := h.apart

/-- A grant joins at the next place, behind all outstanding ones. -/
theorem grant
    (h : s.Lined departed now)
    {g : Grant}
    (hquoted : g.Quoted s.limiter.timing)
    (hnow : g.now = now)
    (hheld : g.returned = false)
    (hfound : g.found = s.limiter.cell.permits)
    (hmin : minPermits < g.found) :
    Lined ⟨s.limiter.setCell s.limiter.cell.take, s.grants ++ [g]⟩ departed now := by
  have hplace : g.place s.limiter.timing = s.nextPlace now := by
    unfold Grant.place nextPlace
    rw [hnow, hfound]
  have hnext :
      nextPlace ⟨s.limiter.setCell s.limiter.cell.take, s.grants ++ [g]⟩ now =
        s.nextPlace now + 1 := by
    have htake : s.limiter.cell.take.permits = s.limiter.cell.permits - 1 := by
      rw [hfound] at hmin
      simp only [Cell.take, minPermits] at hmin ⊢
      omega
    unfold nextPlace Timing.place
    rw [setCell_timing, setCell_cell, htake]
    omega
  refine ⟨h.recorded.grant hquoted hnow, ?_, ?_, ?_⟩
  · intro d hd
    have hmade := h.made d hd
    rw [List.length_append]
    exact le_trans hmade (Nat.le_add_right _ _)
  · intro j other hj hother
    rw [hnext, setCell_timing]
    rcases getElem?_concat_cases hj with ⟨hold, hj⟩ | ⟨rfl, rfl⟩
    · have hahead := h.ahead j other hj hother
      have hlength : j + 1 ≤ s.grants.length := hold
      rw [List.drop_append_of_le_length hlength, List.countP_append, List.countP_singleton, hheld]
      simp only [Bool.not_false, if_true]
      omega
    · rw [List.drop_eq_nil_of_le (by simp), hplace]
      simp only [List.countP_nil, Nat.cast_zero, add_zero]
      omega
  · intro j k first second hjk hj hk hfirst
    rw [setCell_timing]
    rcases getElem?_concat_cases hk with ⟨hold, hk⟩ | ⟨rfl, rfl⟩
    · rw [List.getElem?_append_left (by omega)] at hj
      exact h.apart j k first second hjk hj hk hfirst
    · rw [List.getElem?_append_left hjk] at hj
      have hahead := h.ahead j first hj hfirst
      have hall :
          departed.countP (fun d => d.passes j && decide (d.made ≤ s.grants.length)) =
            departed.countP fun d => d.passes j := by
        refine List.countP_congr fun d hd => ?_
        simp [h.made d hd]
      rw [hall, hplace]
      omega

/-- A hand-back takes a place from the end of the line, and departs from in front of the grants
behind it. -/
theorem giveBack
    (h : s.Lined departed now)
    {ticket : Nat}
    {g : Grant}
    (hg : s.grants[ticket]? = some g)
    (hheld : g.returned = false) :
    Lined
      ⟨s.limiter.setCell (s.limiter.cell.giveBack s.limiter.timing),
        s.grants.set ticket { g with returned := true }⟩
      (departed ++ [⟨ticket, s.grants.length⟩])
      now := by
  have hticket := (List.getElem?_eq_some_iff.mp hg).1
  have hnext :
      s.nextPlace now ≤
        nextPlace
          ⟨s.limiter.setCell (s.limiter.cell.giveBack s.limiter.timing),
            s.grants.set ticket { g with returned := true }⟩ now + 1 := by
    unfold nextPlace Timing.place
    rw [setCell_timing, setCell_cell]
    simp only [Cell.giveBack]
    omega
  -- What is outstanding afterwards was outstanding before, and is not the ticket handed back.
  have hothers {j : Nat} {other : Grant}
      (hj : (s.grants.set ticket { g with returned := true })[j]? = some other)
      (hother : other.returned = false) :
      j ≠ ticket ∧ s.grants[j]? = some other := by
    rw [List.getElem?_set] at hj
    split_ifs at hj with hsame
    · cases hj
      cases hother
    · exact ⟨fun heq => hsame heq.symm, hj⟩
  refine ⟨h.recorded.giveBack hg, ?_, ?_, ?_⟩
  · intro d hd
    rw [List.length_set]
    rcases List.mem_append.mp hd with hold | hnew
    · exact h.made d hold
    · rw [List.mem_singleton.mp hnew]
  · intro j other hj hother
    obtain ⟨hne, hj⟩ := hothers hj hother
    have hahead := h.ahead j other hj hother
    have hlength := (List.getElem?_eq_some_iff.mp hj).1
    rw [setCell_timing, List.countP_append, List.countP_singleton]
    rcases Nat.lt_or_gt_of_ne hne with hbehind | hfront
    · -- The one that leaves was behind: there is one less behind.
      have hdrop :
          ((s.grants.set ticket { g with returned := true }).drop (j + 1)).countP
              (fun g => !g.returned) + 1 =
            (s.grants.drop (j + 1)).countP fun g => !g.returned := by
        have hget : (s.grants.drop (j + 1))[ticket - (j + 1)]? = some g := by
          rw [List.getElem?_drop, show j + 1 + (ticket - (j + 1)) = ticket by omega]
          exact hg
        obtain ⟨hin, hget⟩ := List.getElem?_eq_some_iff.mp hget
        have hpositive : 0 < (s.grants.drop (j + 1)).countP fun g => !g.returned :=
          List.countP_pos_iff.mpr ⟨g, hget ▸ List.getElem_mem hin, by simp [hheld]⟩
        rw [List.drop_set, if_neg (by omega), List.countP_set hin, hget]
        simp only [hheld, Bool.not_false, if_true, Bool.not_true, Bool.false_eq_true, if_false]
        omega
      have hpass : Departure.passes ⟨ticket, s.grants.length⟩ j = false := by
        simp [Departure.passes]
        omega
      rw [hpass]
      simp only [Bool.false_eq_true, if_false]
      omega
    · -- The one that leaves was in front: one departure more.
      have hdrop :
          (s.grants.set ticket { g with returned := true }).drop (j + 1) =
            s.grants.drop (j + 1) := by
        rw [List.drop_set, if_pos (by omega)]
      have hpass : Departure.passes ⟨ticket, s.grants.length⟩ j = true := by
        simp [Departure.passes, hfront, hlength]
      rw [hdrop, hpass]
      simp only [if_true]
      omega
  · intro j k first second hjk hj hk hfirst
    obtain ⟨-, hj⟩ := hothers hj hfirst
    have hmore :
        departed.countP (fun d => d.passes j && decide (d.made ≤ k)) ≤
          (departed ++ [(⟨ticket, s.grants.length⟩ : Departure)]).countP
            fun d => d.passes j && decide (d.made ≤ k) := by
      rw [List.countP_append]
      exact Nat.le_add_right _ _
    rw [List.getElem?_set] at hk
    rw [setCell_timing]
    split_ifs at hk with hsame
    · -- The place of the one that leaves is not touched.
      subst hsame
      cases hk
      have hapart := h.apart j ticket first g hjk hj hg hfirst
      have hplace : ({ g with returned := true } : Grant).place s.limiter.timing =
          g.place s.limiter.timing := rfl
      rw [hplace]
      omega
    · have hapart := h.apart j k first second hjk hj hk hfirst
      omega

/-- One move at a later clock reading keeps the line. -/
theorem step
    (h : s.Lined departed last)
    {m : Nat × Move}
    (hnow : last ≤ m.1)
    (hepoch : s.limiter.timing.epoch ≤ m.1)
    (hsteady : m.2.isChange = false)
    (hrange : ∀ g ∈ (s.step m).grants, g.InRange s.limiter.timing) :
    ∃ later ∈ [last, m.1], (s.step m).Lined (departed ++ s.departs m) later := by
  obtain ⟨now, move⟩ := m
  cases move with
  | acquire timeout =>
      refine ⟨now, by simp, ?_⟩
      have hfresh := h.refresh hnow
      have hdeparts : s.departs (now, .acquire timeout) = [] := rfl
      rw [hdeparts, List.append_nil]
      rcases acquire_cases s now timeout with
        ⟨g, hgnow, htimeout, hheld, hfound, hwait, haccepted, heq⟩ | heq
      · simp only [Ledger.step, heq] at hrange ⊢
        have hquoted : g.Quoted s.limiter.timing :=
          { capped := hfound ▸ hfresh.recorded.stands.capped
            epoch := hgnow ▸ hepoch
            wait := hgnow ▸ hwait
            accepted := htimeout ▸ haccepted }
        exact hfresh.grant hquoted hgnow hheld hfound (hrange g (by simp)).1
      · simp only [Ledger.step, heq]
        exact hfresh
  | handBack ticket =>
      rcases departs_cases s now ticket with ⟨g, hg, hheld, hdeparts, heq⟩ | ⟨hdeparts, heq⟩
      · refine ⟨now, by simp, ?_⟩
        rw [hdeparts]
        simp only [Ledger.step, heq]
        exact (h.refresh hnow).giveBack hg hheld
      · refine ⟨last, by simp, ?_⟩
        rw [hdeparts, List.append_nil]
        simp only [Ledger.step, heq]
        exact h
  | changeLimit _ => cases hsteady
  | changeTimeout _ => cases hsteady
  | changePeriod _ => cases hsteady

/-- A whole run keeps the line; the cell is last moved by one of its moves, if at all. -/
theorem play
    (moves : List (Nat × Move))
    (h : s.Lined departed last)
    (hepoch : s.limiter.timing.epoch ≤ last)
    (hclock : (last :: moves.map Prod.fst).Pairwise (· ≤ ·))
    (hsteady : ∀ m ∈ moves, m.2.isChange = false)
    (hrange : ∀ g ∈ (s.play moves).grants, g.InRange s.limiter.timing) :
    (∃ later ∈ last :: moves.map Prod.fst,
      (s.play moves).Lined (departed ++ s.departures moves) later) ∧
      (s.play moves).limiter.timing = s.limiter.timing := by
  induction moves generalizing s departed last with
  | nil =>
      refine ⟨⟨last, by simp, ?_⟩, rfl⟩
      rw [departures, List.append_nil]
      exact h
  | cons m moves ih =>
      rw [List.map_cons, List.pairwise_cons] at hclock
      obtain ⟨hlater, hrest⟩ := hclock
      have hm : last ≤ m.1 := hlater _ (by simp)
      have htiming := step_timing s (hsteady m (by simp))
      obtain ⟨later, hmoved, hlined⟩ :=
        h.step hm (le_trans hepoch hm) (hsteady m (by simp)) (inRange_of_play _ moves hrange)
      have hbetween : last ≤ later ∧ later ≤ m.1 := by
        rcases List.mem_pair.mp hmoved with rfl | rfl
        · exact ⟨le_rfl, hm⟩
        · exact ⟨hm, le_rfl⟩
      rw [List.pairwise_cons] at hrest
      rw [← htiming] at hepoch hrange ⊢
      obtain ⟨⟨final, hfinal, hplay⟩, hsame⟩ :=
        ih hlined (le_trans hepoch hbetween.1)
          (List.pairwise_cons.mpr
            ⟨fun now hnow => le_trans hbetween.2 (hrest.1 now hnow), hrest.2⟩)
          (fun m' hm' => hsteady m' (by simp [hm'])) hrange
      refine ⟨⟨final, ?_, ?_⟩, hsame⟩
      · rw [List.map_cons]
        rcases List.mem_cons.mp hfinal with rfl | hold
        · rcases List.mem_pair.mp hmoved with rfl | rfl
          · exact List.mem_cons_self
          · exact List.mem_cons_of_mem _ List.mem_cons_self
        · exact List.mem_cons_of_mem _ (List.mem_cons_of_mem _ hold)
      · rw [departures, ← List.append_assoc]
        exact hplay

end Lined
end Ledger
end Limiter
end FaultTolerance
