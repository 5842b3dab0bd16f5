import FaultTolerance.Proofs.Registry.Sections

/-!
# Callers of a registry

A run is a sequence of sections, so it is any order in which overlapping calls and the other
operations take effect.  Its trace says what each section answered.

## Main definitions

* `InUse.trace`: the sections of a run with their answers.
* `about`, `made`, `given`: the events about a name, the instances created under it and those handed
  out.
* `Registered`: an instance that was created in a trace and not removed since.

**Results.**
* `InUse.given_trace`: the instances handed out between two removals.
* `InUse.find?_eq_some_iff`: what is found was created and not removed since.
* `InUse.Alike.about_trace`: the sections on a name answer as if there were no others.
* `InUse.made_nodup`: no two creations come to the same instance.
-/

namespace FaultTolerance
namespace Registry

variable {α : Type}

/-! ### Traces -/

section Traces

variable (name : String)

/-- The events about a name. -/
def about (trace : List (Event α)) : List (Event α) :=
  trace.filter fun e => e.1.name? == some name

/-- The instances created under a name. -/
def made (trace : List (Event α)) : List (Instance α) :=
  (about name trace).filterMap fun e => e.2.made?

/-- The instances handed out under a name. -/
def given (trace : List (Event α)) : List (Instance α) :=
  (about name trace).filterMap fun e => e.2.held?

/-- The instance was created under the name, which was not taken out since. -/
def Registered
    (i : Instance α)
    (trace : List (Event α)) : Prop :=
  ∃ before e after,
    trace = before ++ e :: after ∧
      (e.1.name? = some name ∧ e.2.made? = some i) ∧ ∀ later ∈ after, later.1 ≠ .remove name

end Traces

namespace InUse

/-- A run of sections. -/
def play
    (w : InUse α)
    (run : List (Section α)) : InUse α :=
  run.foldl (fun w s => (w.step s).2) w

/-- The sections of a run with their answers. -/
def trace
    (w : InUse α) : List (Section α) → List (Event α)
  | [] => []
  | s :: run => (s, (w.step s).1) :: (w.step s).2.trace run

@[simp]
theorem play_append
    (w : InUse α)
    (first second : List (Section α)) :
    w.play (first ++ second) = (w.play first).play second :=
  List.foldl_append

theorem trace_append
    (w : InUse α)
    (first second : List (Section α)) :
    w.trace (first ++ second) = w.trace first ++ (w.play first).trace second := by
  induction first generalizing w with
  | nil => rfl
  | cons s first ih => exact congrArg ((s, (w.step s).1) :: ·) (ih (w.step s).2)

/-! ### Between two removals -/

section Between

variable (name : String)

theorem made_cons
    (e : Event α)
    (trace : List (Event α)) :
    made name (e :: trace) =
      (if e.1.name? = some name then e.2.made?.toList else []) ++ made name trace := by
  unfold made about
  by_cases hname : e.1.name? = some name
  · rw [if_pos hname, List.filter_cons_of_pos (by simp [hname]), List.filterMap_cons]
    cases e.2.made? <;> rfl
  · rw [if_neg hname, List.filter_cons_of_neg (by simp [hname])]
    rfl

theorem mem_given_cons
    (e : Event α)
    (trace : List (Event α))
    (i : Instance α) :
    i ∈ given name (e :: trace) ↔
      (e.1.name? = some name ∧ e.2.held? = some i) ∨ i ∈ given name trace := by
  unfold given about
  by_cases hname : e.1.name? = some name
  · simp [hname]
  · simp [hname]

/-- The instances there are under a name in a stretch of a run: found at first or created since. -/
def there
    (held : Option (Instance α))
    (trace : List (Event α)) : List (Instance α) :=
  held.toList ++ made name trace

/-- Unless the name is taken out, what is there stays. -/
theorem Effect.there_cons
    {name : String}
    {held after : Option (Instance α)}
    {e : Event α}
    (h : Effect name held e after)
    (hsection : e.1 ≠ .remove name)
    (trace : List (Event α)) :
    there name held (e :: trace) = there name after trace := by
  unfold there
  rw [made_cons]
  cases h with
  | removed hremove _ => exact absurd hremove hsection
  | made i habsent hinsert hmade _ =>
      obtain ⟨create, hinsert⟩ := hinsert
      have hname : e.1.name? = some name := congrArg Section.name? hinsert
      rw [habsent, if_pos hname, hmade]
      rfl
  | kept _ hmade _ =>
      by_cases hname : e.1.name? = some name
      · rw [if_pos hname, hmade hname]
        rfl
      · rw [if_neg hname]
        rfl

/-- What a section hands out is there. -/
theorem Effect.mem_there
    {name : String}
    {held after : Option (Instance α)}
    {e : Event α}
    (h : Effect name held e after)
    (hname : e.1.name? = some name)
    {i : Instance α}
    (hgiven : e.2.held? = some i)
    (trace : List (Event α)) :
    i ∈ there name held (e :: trace) := by
  unfold there
  rw [List.mem_append, Option.mem_toList]
  cases h with
  | removed _ hanswer =>
      rw [hanswer] at hgiven
      exact .inl hgiven
  | made j _ _ hmade hheld =>
      rw [hheld] at hgiven
      rw [made_cons, if_pos hname, hmade, hgiven]
      exact .inr List.mem_cons_self
  | kept _ _ hheld => exact .inl (hheld hname i hgiven)

/-- Between two removals of a name there is at most one instance, and only this one is handed out,
also by the removal at the end. -/
theorem given_trace
    (w : InUse α)
    (segment : List (Section α))
    (hkept : ∀ s ∈ segment.dropLast, s ≠ .remove name) :
    (∀ i ∈ given name (w.trace segment),
        i ∈ there name (w.registry.find? name) (w.trace segment)) ∧
      (there name (w.registry.find? name) (w.trace segment)).length ≤ 1 := by
  induction segment generalizing w with
  | nil =>
      refine ⟨nofun, ?_⟩
      cases w.registry.find? name <;> simp [there, made, about, trace]
  | cons s later ih =>
      have heffect := effect_step w s name
      have hlater : ∀ s ∈ later.dropLast, s ≠ .remove name := by
        intro s' hs'
        cases later with
        | nil => cases hs'
        | cons _ _ => exact hkept s' (List.mem_cons_of_mem _ hs')
      obtain ⟨hgiven, hone⟩ := ih (w.step s).2 hlater
      rw [trace]
      by_cases hsection : s = .remove name
      · -- The name is taken out at the end only.
        obtain rfl : later = [] := by
          cases later with
          | nil => rfl
          | cons _ _ => exact absurd hsection (hkept s List.mem_cons_self)
        subst hsection
        refine ⟨fun i hi => ?_, ?_⟩
        · obtain ⟨hname, hheld⟩ | hnone := (mem_given_cons name _ _ i).mp hi
          · exact heffect.mem_there hname hheld _
          · cases hnone
        · have hmade : made name [(Section.remove name, (w.step (.remove name)).1)] = [] := by
            simp [made, about, step, Answer.made?]
          show ((w.registry.find? name).toList ++ made name [_]).length ≤ 1
          rw [hmade, List.append_nil]
          exact Option.length_toList_le
      · rw [heffect.there_cons hsection]
        refine ⟨fun i hi => ?_, hone⟩
        obtain ⟨hname, hheld⟩ | hmem := (mem_given_cons name _ _ i).mp hi
        · rw [← heffect.there_cons hsection]
          exact heffect.mem_there hname hheld _
        · exact hgiven i hmem

/-- So all that is handed out is the same. -/
theorem given_trace_eq
    (w : InUse α)
    (segment : List (Section α))
    (hkept : ∀ s ∈ segment.dropLast, s ≠ .remove name)
    {i j : Instance α}
    (hi : i ∈ given name (w.trace segment))
    (hj : j ∈ given name (w.trace segment)) :
    i = j := by
  obtain ⟨hgiven, hone⟩ := given_trace name w segment hkept
  have hi' := hgiven i hi
  have hj' := hgiven j hj
  rcases Nat.le_one_iff_eq_zero_or_eq_one.mp hone with hzero | hone
  · rw [List.eq_nil_of_length_eq_zero hzero] at hi'
    cases hi'
  · obtain ⟨only, honly⟩ := List.length_eq_one_iff.mp hone
    rw [honly, List.mem_singleton] at hi' hj'
    rw [hi', hj']

/-- And at most one creation succeeds. -/
theorem length_made_trace_le_one
    (w : InUse α)
    (segment : List (Section α))
    (hkept : ∀ s ∈ segment.dropLast, s ≠ .remove name) :
    (made name (w.trace segment)).length ≤ 1 := by
  have hone := (given_trace name w segment hkept).2
  rw [there, List.length_append] at hone
  exact (Nat.le_add_left _ _).trans hone

end Between

/-! ### What is found -/

section Found

variable {name : String}

/-- One more section: an instance is registered if it was just created, or was before and is not
taken out. -/
theorem registered_concat
    (i : Instance α)
    (trace : List (Event α))
    (e : Event α) :
    Registered name i (trace ++ [e]) ↔
      (e.1.name? = some name ∧ e.2.made? = some i) ∨
        (Registered name i trace ∧ e.1 ≠ .remove name) := by
  constructor
  · rintro ⟨before, event, after, heq, hevent, hkept⟩
    rcases List.eq_nil_or_concat after with rfl | ⟨after, last, rfl⟩
    · obtain ⟨-, hlast⟩ := List.append_inj' heq rfl
      obtain rfl : e = event := List.singleton_inj.mp hlast
      exact .inl hevent
    · rw [List.concat_eq_append, ← List.cons_append, ← List.append_assoc] at heq
      obtain ⟨htrace, hlast⟩ := List.append_inj' heq rfl
      obtain rfl : e = last := List.singleton_inj.mp hlast
      refine .inr ⟨⟨before, event, after, htrace, hevent, fun later hlater => ?_⟩, ?_⟩
      · exact hkept later (by simp [hlater])
      · exact hkept e (by simp)
  · rintro (hevent | ⟨⟨before, event, after, rfl, hevent, hkept⟩, hsection⟩)
    · exact ⟨trace, e, [], rfl, hevent, nofun⟩
    · refine ⟨before, event, after ++ [e], by simp, hevent, fun later hlater => ?_⟩
      rcases List.mem_append.mp hlater with hafter | hlast
      · exact hkept later hafter
      · rw [List.mem_singleton.mp hlast]
        exact hsection

/-- What is found under a name was created under it, and the name was not taken out since. -/
theorem find?_eq_some_iff
    (run : List (Section α))
    (i : Instance α) :
    (fresh.play run).registry.find? name = some i ↔ Registered name i (fresh.trace run) := by
  induction run using List.reverseRecOn generalizing i with
  | nil =>
      refine iff_of_false nofun ?_
      rintro ⟨before, e, after, heq, -⟩
      cases before <;> cases heq
  | append_singleton run s ih =>
      have heffect := effect_step (fresh.play run) s name
      rw [play_append, trace_append]
      show ((fresh.play run).step s).2.registry.find? name = some i ↔
        Registered name i (fresh.trace run ++ [(s, ((fresh.play run).step s).1)])
      rw [registered_concat, ← ih]
      generalize ((fresh.play run).step s).2.registry.find? name = after at heffect
      generalize (fresh.play run).registry.find? name = held at heffect
      cases heffect with
      | removed hsection hanswer =>
          refine iff_of_false nofun ?_
          rintro (⟨-, hmade⟩ | ⟨-, hkept⟩)
          · rw [hanswer] at hmade
            cases hmade
          · exact hkept hsection
      | made j habsent hsection hmade hgiven =>
          obtain ⟨create, hsection⟩ := hsection
          rw [hmade, habsent]
          constructor
          · intro hj
            exact .inl ⟨congrArg Section.name? hsection, hj⟩
          · rintro (⟨-, hj⟩ | ⟨hnone, -⟩)
            · exact hj
            · cases hnone
      | kept hsection hmade hgiven =>
          constructor
          · intro hheld
            exact .inr ⟨hheld, hsection⟩
          · rintro (⟨hname, hi⟩ | ⟨hheld, -⟩)
            · rw [hmade hname] at hi
              cases hi
            · exact hheld

end Found

/-! ### Names on their own -/

/-- The sections on a name answer as if there were no others. -/
theorem Alike.about_trace
    {name : String}
    {w v : InUse α}
    (h : Alike name w v)
    (run : List (Section α)) :
    about name (w.trace run) = v.trace (run.filter fun s => s.name? == some name) := by
  induction run generalizing w v with
  | nil => rfl
  | cons s run ih =>
      unfold about at ih ⊢
      rw [trace]
      by_cases hname : s.name? = some name
      · obtain ⟨hanswer, hafter⟩ := h.step hname
        rw [List.filter_cons_of_pos (by simp [hname]), List.filter_cons_of_pos (by simp [hname]),
          trace, ih hafter, hanswer]
      · have hsame := alike_step_of_name_ne w hname
        rw [List.filter_cons_of_neg (by simp [hname]), List.filter_cons_of_neg (by simp [hname])]
        exact ih ⟨hsame.found.trans h.found, hsame.tried.trans h.tried,
          hsame.waiting.trans h.waiting⟩

/-! ### Order and numbers -/

theorem ascending_play
    {w : InUse α}
    (h : w.registry.Ascending)
    (run : List (Section α)) :
    (w.play run).registry.Ascending := by
  induction run generalizing w with
  | nil => exact h
  | cons s run ih => exact ih (ascending_step h s)

/-- No two creations of a run come to the same instance. -/
theorem made_nodup
    (run : List (Section α)) :
    let instances := (fresh.trace run).filterMap fun e => e.2.made?
    instances.Nodup ∧ ∀ i ∈ instances, i.number < (fresh.play run).tried i.name := by
  induction run using List.reverseRecOn with
  | nil => exact ⟨List.nodup_nil, nofun⟩
  | append_singleton run s ih =>
      obtain ⟨hnodup, hbelow⟩ := ih
      have hplay : fresh.play (run ++ [s]) = ((fresh.play run).step s).2 := play_append ..
      have htrace :
          (fresh.trace (run ++ [s])).filterMap (fun e => e.2.made?) =
            (fresh.trace run).filterMap (fun e => e.2.made?) ++
              ((fresh.play run).step s).1.made?.toList := by
        rw [trace_append, List.filterMap_append]
        cases hmade : ((fresh.play run).step s).1.made? <;> simp [trace, hmade]
      rw [hplay, htrace]
      have hold : ∀ i ∈ (fresh.trace run).filterMap (fun e => e.2.made?),
          i.number < ((fresh.play run).step s).2.tried i.name :=
        fun i hi => (hbelow i hi).trans_le (tried_le_step _ _ _)
      cases hmade : ((fresh.play run).step s).1.made? with
      | none =>
          rw [Option.toList_none, List.append_nil]
          exact ⟨hnodup, hold⟩
      | some new =>
          obtain ⟨hnumber, htried⟩ := number_of_made hmade
          rw [Option.toList_some]
          refine ⟨?_, fun i hi => ?_⟩
          · rw [← List.concat_eq_append, List.nodup_concat]
            refine ⟨fun hmem => ?_, hnodup⟩
            exact (hbelow new hmem).ne hnumber
          · rcases List.mem_append.mp hi with hmem | hmem
            · exact hold i hmem
            · rw [List.mem_singleton.mp hmem, htried, hnumber]
              exact Nat.lt_succ_self _

/-! ### Every run -/

/-- **A registry creates once and stays a map.**  In whatever order the sections of overlapping calls
and the other operations take effect: something is created only by an insertion that a call waits to
make under a name where there is nothing, then once, and else the insertion finds what is there by
now; between two removals of a name all that is
handed out is one instance, and at most one creation succeeds; a creation that fails changes no entry,
and the next call may create; what is answered about a name is as if there were no other names; the
names are strictly ascending, each once, and are those under which an instance was created that was
not removed since, which is the one found; and no two creations come to the same instance. -/
theorem creates_once_and_stays_a_map
    (run : List (Section α))
    (name : String) :
    let w := fresh.play run
    (∀ s, (w.step s).1.created ≠ 0 →
        ∃ name create,
          s = .insert name create ∧ w.waiting name ≠ 0 ∧ w.registry.find? name = none) ∧
      (∀ create, w.waiting name ≠ 0 →
        (w.step (.insert name create)).1 =
          .finished
            (match w.registry.find? name with
            | some held => ⟨0, .ok held⟩
            | none => ⟨1, w.numbered name create⟩)) ∧
      (∀ segment : List (Section α), (∀ s ∈ segment.dropLast, s ≠ .remove name) →
        (∀ i ∈ given name (w.trace segment), ∀ j ∈ given name (w.trace segment), i = j) ∧
          (made name (w.trace segment)).length ≤ 1) ∧
      (∀ e, let failed := (w.step (.insert name (.error e))).2
        failed.registry = w.registry ∧
          (w.registry.find? name = none → ∀ create,
            (failed.call name create).1 = .finished ⟨1, failed.numbered name create⟩)) ∧
      about name (fresh.trace run) = fresh.trace (run.filter fun s => s.name? == some name) ∧
      w.registry.names.Pairwise (· < ·) ∧
      (∀ i, w.registry.find? name = some i ↔ Registered name i (fresh.trace run)) ∧
      (name ∈ w.registry.names ↔ ∃ i, Registered name i (fresh.trace run)) ∧
      w.registry.size = w.registry.names.length ∧
      ((fresh.trace run).filterMap fun e => e.2.made?).Nodup := by
  intro w
  refine ⟨fun s => created_step, fun create hwaiting => answer_insert hwaiting create,
    fun segment hkept => ⟨?_, ?_⟩, fun e => ⟨?_, fun habsent create => ?_⟩,
    Alike.about_trace ⟨rfl, rfl, rfl⟩ run, ascending_play ascending_empty run,
    find?_eq_some_iff run, ?_, size_eq_length_names _, (made_nodup run).1⟩
  · intro i hi j hj
    exact given_trace_eq name w segment hkept hi hj
  · exact length_made_trace_le_one name w segment hkept
  · exact registry_insert_error w name e
  · refine answer_call_of_none ?_ create
    rw [show (w.step (.insert name (.error e))).2.registry = w.registry from
      registry_insert_error w name e]
    exact habsent
  · rw [mem_names_iff]
    exact exists_congr (find?_eq_some_iff run)

/-- Three calls on a name overlap, with one on another name between: the first to insert fails, the
second creates, and the third and a later look-up are handed what the second created, as is the
removal. -/
theorem creates_once_and_stays_a_map_overlapping :
    let refused : ConfigError := ⟨"max_concurrent_calls", "must be greater than 0"⟩
    let segment : List (Section Nat) :=
      [.look "db", .look "db", .look "db", .look "cache", .insert "db" (.error refused),
        .insert "cache" (.ok 7), .insert "db" (.ok 8), .insert "db" (.ok 9), .find "db",
        .remove "db"]
    (∀ s ∈ segment.dropLast, s ≠ .remove "db") ∧
      (∀ i ∈ given "db" (fresh.trace segment), ∀ j ∈ given "db" (fresh.trace segment), i = j) ∧
      given "db" (fresh.trace segment) = List.replicate 4 ⟨"db", 1, 8⟩ ∧
      made "db" (fresh.trace segment) = [⟨"db", 1, 8⟩] := by
  intro refused segment
  have hkept : ∀ s ∈ segment.dropLast, s ≠ .remove "db" := by
    simp [segment]
  obtain ⟨-, -, hbetween, -⟩ := creates_once_and_stays_a_map ([] : List (Section Nat)) "db"
  exact ⟨hkept, (hbetween segment hkept).1, by decide +kernel, by decide +kernel⟩

end InUse
end Registry
end FaultTolerance
