import FaultTolerance.Proofs.Registry.Entries

/-!
# The sections of a registry's operations

A call that looks a name up and creates an instance if there is none takes effect in two sections: a
look-up that other look-ups may overlap, and, if nothing was found, an insertion on its own, which
looks again.  Between the two any other section may come, those of other calls on the same name
included.

Instances are numbered, for two of them to be equal only if they are the same one.

## Main definitions

* `Instance`: an instance as callers share it.
* `InUse`: a registry with the calls whose insertion is still to come.
* `InUse.step`: a section takes effect.

**Results.**
* `InUse.call_eq`: the sections of a call that nothing comes between.
* `InUse.effect_step`: what a section does to what is found under a name.
* `InUse.Alike.step`, `InUse.alike_step_of_name_ne`: a section answers by what there is under its own
  name, and leaves every other name alone.
* `InUse.created_step`: when a section creates.
-/

namespace FaultTolerance
namespace Registry

variable {α : Type}

/-- An instance as callers share it, with the name it was created under and how often a creation was
tried under that name before. -/
structure Instance (α : Type) where
  name : String
  number : Nat
  value : α
deriving DecidableEq

/-- A registry in use: how often a creation was tried under each name, and how many calls on it have
found nothing and are still to insert. -/
structure InUse (α : Type) where
  registry : Registry (Instance α)
  tried : String → Nat
  waiting : String → Nat

/-- What takes effect at once: the look-up and the insertion of a call, and the other operations. -/
inductive Section (α : Type) where
  | look (name : String)
  | insert (name : String) (create : Except ConfigError α)
  | find (name : String)
  | remove (name : String)
  | names
  | size

/-- What a section answers.  A call whose look-up has missed goes on; an insertion that no call is
to make is idle. -/
inductive Answer (α : Type) where
  | idle
  | missed
  | finished (lookup : Lookup (Instance α))
  | found (held : Option (Instance α))
  | names (held : List String)
  | size (held : Nat)

/-- A section with its answer. -/
abbrev Event (α : Type) := Section α × Answer α

/-- The name that a section is about. -/
def Section.name? : Section α → Option String
  | .look name | .insert name _ | .find name | .remove name => some name
  | .names | .size => none

namespace Answer

/-- How often a section created. -/
def created : Answer α → Nat
  | .finished lookup => lookup.created
  | _ => 0

/-- The instance that a section created and put in. -/
def made? : Answer α → Option (Instance α)
  | .finished ⟨_ + 1, .ok made⟩ => some made
  | _ => none

/-- The instance that a section hands out. -/
def held? : Answer α → Option (Instance α)
  | .finished ⟨_, .ok held⟩ => some held
  | .found held => held
  | _ => none

end Answer

namespace InUse

/-- A registry without instances and calls. -/
def fresh : InUse α :=
  ⟨Registry.empty, fun _ => 0, fun _ => 0⟩

/-- What the next creation under a name comes to. -/
def numbered
    (w : InUse α)
    (name : String)
    (create : Except ConfigError α) : Except ConfigError (Instance α) :=
  create.map fun value => ⟨name, w.tried name, value⟩

/-- The look-up of a call; if it finds nothing, the call goes on. -/
def look
    (w : InUse α)
    (name : String) : Answer α × InUse α :=
  match w.registry.find? name with
  | some held => (.finished ⟨0, .ok held⟩, w)
  | none => (.missed, { w with waiting := Function.update w.waiting name (w.waiting name + 1) })

/-- The insertion of a call that goes on. -/
def insert
    (w : InUse α)
    (name : String)
    (create : Except ConfigError α) : Answer α × InUse α :=
  if w.waiting name = 0 then (.idle, w)
  else
    let after := w.registry.insertIfAbsent name (w.numbered name create)
    (.finished after.1,
      { registry := after.2
        tried := Function.update w.tried name (w.tried name + after.1.created)
        waiting := Function.update w.waiting name (w.waiting name - 1) })

/-- A section takes effect. -/
def step
    (w : InUse α) : Section α → Answer α × InUse α
  | .look name => w.look name
  | .insert name create => w.insert name create
  | .find name => (.found (w.registry.find? name), w)
  | .remove name =>
    let after := w.registry.remove name
    (.found after.1, { w with registry := after.2 })
  | .names => (.names w.registry.names, w)
  | .size => (.size w.registry.size, w)

/-- A call that nothing comes between. -/
def call
    (w : InUse α)
    (name : String)
    (create : Except ConfigError α) : Answer α × InUse α :=
  match w.look name with
  | (.missed, later) => later.insert name create
  | ended => ended

/-! ### The sections of a call -/

section Calls

variable {w : InUse α} {name : String}

theorem look_of_some
    {held : Instance α}
    (h : w.registry.find? name = some held) :
    w.look name = (.finished ⟨0, .ok held⟩, w) := by
  unfold look
  rw [h]

theorem look_of_none
    (h : w.registry.find? name = none) :
    w.look name =
      (.missed, { w with waiting := Function.update w.waiting name (w.waiting name + 1) }) := by
  unfold look
  rw [h]

/-- A look-up leaves the registry alone. -/
theorem registry_look (w : InUse α) (name : String) : (w.look name).2.registry = w.registry := by
  cases h : w.registry.find? name with
  | some held => rw [look_of_some h]
  | none => rw [look_of_none h]

theorem tried_look (w : InUse α) (name : String) : (w.look name).2.tried = w.tried := by
  cases h : w.registry.find? name with
  | some held => rw [look_of_some h]
  | none => rw [look_of_none h]

theorem insert_of_waiting
    (h : w.waiting name ≠ 0)
    (create : Except ConfigError α) :
    let after := w.registry.insertIfAbsent name (w.numbered name create)
    w.insert name create =
      (.finished after.1,
        { registry := after.2
          tried := Function.update w.tried name (w.tried name + after.1.created)
          waiting := Function.update w.waiting name (w.waiting name - 1) }) :=
  if_neg h

theorem insert_of_not_waiting
    (h : w.waiting name = 0)
    (create : Except ConfigError α) :
    w.insert name create = (.idle, w) :=
  if_pos h

/-- A creation that fails leaves every entry as it was. -/
theorem registry_insert_error
    (w : InUse α)
    (name : String)
    (e : ConfigError) :
    (w.insert name (.error e)).2.registry = w.registry := by
  by_cases h : w.waiting name = 0
  · rw [insert_of_not_waiting h]
  · rw [insert_of_waiting h]
    exact insertIfAbsent_error w.registry name e

/-- An insertion ends its call: with the instance that is there by now, or else with what comes of
creating one. -/
theorem answer_insert
    (hwaiting : w.waiting name ≠ 0)
    (create : Except ConfigError α) :
    (w.insert name create).1 =
      .finished
        (match w.registry.find? name with
        | some held => ⟨0, .ok held⟩
        | none => ⟨1, w.numbered name create⟩) := by
  rw [insert_of_waiting hwaiting]
  show Answer.finished _ = _
  cases h : w.registry.find? name with
  | some held => rw [insertIfAbsent_of_some h]
  | none => rw [insertIfAbsent_of_none h]

/-- A call that nothing comes between is a look-up with creation. -/
theorem call_eq
    (w : InUse α)
    (name : String)
    (create : Except ConfigError α) :
    let whole := w.registry.getOrInsert name (w.numbered name create)
    (w.call name create).1 = .finished whole.1 ∧ (w.call name create).2.registry = whole.2 := by
  intro whole
  cases h : w.registry.find? name with
  | some held =>
      have hwhole : whole = (⟨0, .ok held⟩, w.registry) := getOrInsert_of_some h _
      have hcall : w.call name create = (.finished ⟨0, .ok held⟩, w) := by
        unfold call
        rw [look_of_some h]
      rw [hcall, hwhole]
      exact ⟨rfl, rfl⟩
  | none =>
      have hwhole : whole = w.registry.insertIfAbsent name (w.numbered name create) :=
        getOrInsert_of_none h _
      have hcall : w.call name create = (w.look name).2.insert name create := by
        unfold call
        rw [look_of_none h]
      have hwaiting : (w.look name).2.waiting name ≠ 0 := by
        rw [look_of_none h]
        exact (Function.update_self name _ w.waiting).trans_ne (Nat.succ_ne_zero _)
      rw [hcall, insert_of_waiting hwaiting, look_of_none h, hwhole]
      exact ⟨rfl, rfl⟩

/-- A call on a name under which there is nothing creates. -/
theorem answer_call_of_none
    (h : w.registry.find? name = none)
    (create : Except ConfigError α) :
    (w.call name create).1 = .finished ⟨1, w.numbered name create⟩ := by
  rw [(call_eq w name create).1, getOrInsert_of_none h, insertIfAbsent_of_none h]

end Calls

/-! ### What a section does to a name -/

/-- What a section does to what is found under a name: the name is taken out, an instance is made
where there was nothing, or all stays as it is, and then only what was there is handed out. -/
inductive Effect
    (name : String)
    (held : Option (Instance α))
    (e : Event α) : Option (Instance α) → Prop
  | removed
      (hsection : e.1 = .remove name)
      (hanswer : e.2 = .found held) :
      Effect name held e none
  | made (i : Instance α)
      (habsent : held = none)
      (hsection : ∃ create, e.1 = .insert name create)
      (hmade : e.2.made? = some i)
      (hgiven : e.2.held? = some i) :
      Effect name held e (some i)
  | kept
      (hsection : e.1 ≠ .remove name)
      (hmade : e.1.name? = some name → e.2.made? = none)
      (hgiven : e.1.name? = some name → ∀ i, e.2.held? = some i → held = some i) :
      Effect name held e held

/-- A section on another name has no effect. -/
theorem Effect.of_name_ne
    {name : String}
    {held after : Option (Instance α)}
    {e : Event α}
    (hname : e.1.name? ≠ some name)
    (hafter : after = held) :
    Effect name held e after := by
  rw [hafter]
  refine .kept ?_ (fun hown => absurd hown hname) (fun hown => absurd hown hname)
  intro hremove
  exact hname (congrArg Section.name? hremove)

/-- Handing out what is there has no effect. -/
theorem Effect.of_held
    {name : String}
    {held : Option (Instance α)}
    {e : Event α}
    (hsection : e.1 ≠ .remove name)
    (hmade : e.2.made? = none)
    (hgiven : ∀ i, e.2.held? = some i → held = some i) :
    Effect name held e held :=
  .kept hsection (fun _ => hmade) (fun _ => hgiven)

theorem effect_look
    (w : InUse α)
    (name : String) :
    Effect name (w.registry.find? name) (.look name, (w.look name).1)
      ((w.look name).2.registry.find? name) := by
  rw [registry_look]
  cases h : w.registry.find? name with
  | some held =>
      rw [look_of_some h]
      exact .of_held nofun rfl fun i hi => hi
  | none =>
      rw [look_of_none h]
      exact .of_held nofun rfl nofun

theorem effect_insert
    (w : InUse α)
    (name : String)
    (create : Except ConfigError α) :
    Effect name (w.registry.find? name) (.insert name create, (w.insert name create).1)
      ((w.insert name create).2.registry.find? name) := by
  by_cases hwaiting : w.waiting name = 0
  · rw [insert_of_not_waiting hwaiting]
    exact .of_held nofun rfl nofun
  · rw [insert_of_waiting hwaiting]
    cases h : w.registry.find? name with
    | some held =>
        rw [insertIfAbsent_of_some h, h]
        exact .of_held nofun rfl fun i hi => hi
    | none =>
        have hafter :=
          find?_insertIfAbsent w.registry name name (w.numbered name create)
        rw [if_pos rfl, insertIfAbsent_of_none h] at hafter
        rw [insertIfAbsent_of_none h, hafter]
        cases create with
        | ok value => exact .made _ rfl ⟨_, rfl⟩ rfl rfl
        | error e => exact .of_held nofun rfl nofun

/-- Two registries in use are alike under a name: in what is found, how often a creation was tried
and how many calls are still to insert. -/
structure Alike
    (name : String)
    (w v : InUse α) : Prop where
  found : w.registry.find? name = v.registry.find? name
  tried : w.tried name = v.tried name
  waiting : w.waiting name = v.waiting name

/-- A section leaves every other name alone. -/
theorem alike_step_of_name_ne
    (w : InUse α)
    {s : Section α}
    {name : String}
    (hname : s.name? ≠ some name) :
    Alike name (w.step s).2 w := by
  cases s with
  | look other =>
      have hother : name ≠ other := fun h => hname (congrArg some h.symm)
      refine ⟨congrArg (Registry.find? · name) (registry_look w other),
        congrFun (tried_look w other) name, ?_⟩
      show (w.look other).2.waiting name = w.waiting name
      cases h : w.registry.find? other with
      | some held => rw [look_of_some h]
      | none =>
          rw [look_of_none h]
          exact Function.update_of_ne hother _ _
  | insert other create =>
      have hother : name ≠ other := fun h => hname (congrArg some h.symm)
      show Alike name (w.insert other create).2 w
      by_cases hwaiting : w.waiting other = 0
      · rw [insert_of_not_waiting hwaiting]
        exact ⟨rfl, rfl, rfl⟩
      · rw [insert_of_waiting hwaiting]
        refine ⟨?_, Function.update_of_ne hother _ _, Function.update_of_ne hother _ _⟩
        exact (find?_insertIfAbsent w.registry other name _).trans (if_neg hother)
  | find other => exact ⟨rfl, rfl, rfl⟩
  | remove other =>
      have hother : name ≠ other := fun h => hname (congrArg some h.symm)
      exact ⟨(find?_remove w.registry other name).trans (if_neg hother), rfl, rfl⟩
  | names => exact ⟨rfl, rfl, rfl⟩
  | size => exact ⟨rfl, rfl, rfl⟩

/-- What a section does to what is found under a name. -/
theorem effect_step
    (w : InUse α)
    (s : Section α)
    (name : String) :
    Effect name (w.registry.find? name) (s, (w.step s).1) ((w.step s).2.registry.find? name) := by
  by_cases hname : s.name? = some name
  · cases s with
    | look other =>
        obtain rfl : other = name := Option.some.inj hname
        exact effect_look w other
    | insert other create =>
        obtain rfl : other = name := Option.some.inj hname
        exact effect_insert w other create
    | find other =>
        obtain rfl : other = name := Option.some.inj hname
        exact .of_held nofun rfl fun i hi => hi
    | remove other =>
        obtain rfl : other = name := Option.some.inj hname
        have hafter : (w.step (.remove other)).2.registry.find? other = none :=
          (find?_remove w.registry other other).trans (if_pos rfl)
        rw [hafter]
        exact .removed rfl rfl
    | names => cases hname
    | size => cases hname
  · exact .of_name_ne hname (alike_step_of_name_ne w hname).found

section Alike

variable {name : String} {w v : InUse α}

/-- Alike registries answer a section on the name alike, and stay alike. -/
theorem Alike.step
    (h : Alike name w v)
    {s : Section α}
    (hname : s.name? = some name) :
    (w.step s).1 = (v.step s).1 ∧ Alike name (w.step s).2 (v.step s).2 := by
  cases s with
  | look other =>
      obtain rfl : other = name := Option.some.inj hname
      show (w.look other).1 = (v.look other).1 ∧ Alike other (w.look other).2 (v.look other).2
      cases hfound : w.registry.find? other with
      | some held =>
          rw [look_of_some hfound, look_of_some (h.found.symm.trans hfound)]
          exact ⟨rfl, h⟩
      | none =>
          rw [look_of_none hfound, look_of_none (h.found.symm.trans hfound)]
          refine ⟨rfl, h.found, h.tried, ?_⟩
          show Function.update w.waiting other _ other = Function.update v.waiting other _ other
          rw [Function.update_self, Function.update_self, h.waiting]
  | insert other create =>
      obtain rfl : other = name := Option.some.inj hname
      show (w.insert other create).1 = (v.insert other create).1 ∧
        Alike other (w.insert other create).2 (v.insert other create).2
      by_cases hwaiting : w.waiting other = 0
      · rw [insert_of_not_waiting hwaiting, insert_of_not_waiting (h.waiting.symm.trans hwaiting)]
        exact ⟨rfl, h⟩
      · have hnumbered : w.numbered other create = v.numbered other create := by
          unfold numbered
          rw [h.tried]
        have hlookup :
            (w.registry.insertIfAbsent other (w.numbered other create)).1 =
              (v.registry.insertIfAbsent other (v.numbered other create)).1 := by
          rw [hnumbered]
          cases hfound : w.registry.find? other with
          | some held =>
              rw [insertIfAbsent_of_some hfound,
                insertIfAbsent_of_some (h.found.symm.trans hfound)]
          | none =>
              rw [insertIfAbsent_of_none hfound,
                insertIfAbsent_of_none (h.found.symm.trans hfound)]
        rw [insert_of_waiting hwaiting, insert_of_waiting (h.waiting.symm.trans_ne hwaiting)]
        refine ⟨congrArg Answer.finished hlookup, ?_, ?_, ?_⟩
        · show (w.registry.insertIfAbsent other _).2.find? other =
            (v.registry.insertIfAbsent other _).2.find? other
          rw [find?_insertIfAbsent, find?_insertIfAbsent, if_pos rfl, if_pos rfl, hlookup]
        · show Function.update w.tried other _ other = Function.update v.tried other _ other
          rw [Function.update_self, Function.update_self, h.tried, hlookup]
        · show Function.update w.waiting other _ other = Function.update v.waiting other _ other
          rw [Function.update_self, Function.update_self, h.waiting]
  | find other =>
      obtain rfl : other = name := Option.some.inj hname
      exact ⟨congrArg Answer.found h.found, h⟩
  | remove other =>
      obtain rfl : other = name := Option.some.inj hname
      refine ⟨congrArg Answer.found h.found, ?_, h.tried, h.waiting⟩
      show (w.registry.remove other).2.find? other = (v.registry.remove other).2.find? other
      rw [find?_remove, find?_remove, if_pos rfl, if_pos rfl]
  | names => cases hname
  | size => cases hname

end Alike

/-! ### Order and numbers -/

theorem ascending_step
    {w : InUse α}
    (h : w.registry.Ascending)
    (s : Section α) :
    (w.step s).2.registry.Ascending := by
  cases s with
  | look name =>
      show (w.look name).2.registry.Ascending
      rwa [registry_look]
  | insert name create =>
      show (w.insert name create).2.registry.Ascending
      by_cases hwaiting : w.waiting name = 0
      · rwa [insert_of_not_waiting hwaiting]
      · rw [insert_of_waiting hwaiting]
        exact h.insertIfAbsent name _
  | find name => exact h
  | remove name => exact h.remove name
  | names => exact h
  | size => exact h

/-- Only an insertion that a call waits to make creates, and only where there is nothing. -/
theorem created_step
    {w : InUse α}
    {s : Section α}
    (hcreated : (w.step s).1.created ≠ 0) :
    ∃ name create, s = .insert name create ∧ w.waiting name ≠ 0 ∧ w.registry.find? name = none := by
  cases s with
  | look name =>
      have hnone : (w.look name).1.created = 0 := by
        cases h : w.registry.find? name with
        | some held =>
            rw [look_of_some h]
            rfl
        | none =>
            rw [look_of_none h]
            rfl
      exact absurd hnone hcreated
  | insert name create =>
      have hinserted : (w.insert name create).1.created ≠ 0 := hcreated
      by_cases hwaiting : w.waiting name = 0
      · rw [insert_of_not_waiting hwaiting] at hinserted
        exact absurd rfl hinserted
      · rw [answer_insert hwaiting] at hinserted
        cases h : w.registry.find? name with
        | some held =>
            rw [h] at hinserted
            exact absurd rfl hinserted
        | none => exact ⟨name, create, rfl, hwaiting, h⟩
  | find name => exact absurd rfl hcreated
  | remove name => exact absurd rfl hcreated
  | names => exact absurd rfl hcreated
  | size => exact absurd rfl hcreated

/-- A new instance has the next number of its name, which is then used up. -/
theorem number_of_made
    {w : InUse α}
    {s : Section α}
    {i : Instance α}
    (hmade : (w.step s).1.made? = some i) :
    i.number = w.tried i.name ∧ (w.step s).2.tried i.name = w.tried i.name + 1 := by
  have hcreated : (w.step s).1.created ≠ 0 := by
    intro hzero
    unfold Answer.made? at hmade
    split at hmade
    · rename_i hanswer
      rw [hanswer] at hzero
      cases hzero
    · cases hmade
  obtain ⟨name, create, rfl, hwaiting, habsent⟩ := created_step hcreated
  have hstep : w.step (.insert name create) = w.insert name create := rfl
  rw [hstep, answer_insert hwaiting, habsent] at hmade
  rw [hstep, insert_of_waiting hwaiting, insertIfAbsent_of_none habsent]
  cases create with
  | error e => cases hmade
  | ok value =>
      obtain rfl : (⟨name, w.tried name, value⟩ : Instance α) = i := Option.some.inj hmade
      exact ⟨rfl, Function.update_self name _ w.tried⟩

theorem tried_le_step
    (w : InUse α)
    (s : Section α)
    (name : String) :
    w.tried name ≤ (w.step s).2.tried name := by
  by_cases hname : s.name? = some name
  · cases s with
    | look other => exact (congrFun (tried_look w other) name).ge
    | insert other create =>
        obtain rfl : other = name := Option.some.inj hname
        show w.tried other ≤ (w.insert other create).2.tried other
        by_cases hwaiting : w.waiting other = 0
        · rw [insert_of_not_waiting hwaiting]
        · rw [insert_of_waiting hwaiting]
          exact (Nat.le_add_right _ _).trans (Function.update_self other _ w.tried).ge
    | find other => exact le_rfl
    | remove other => exact le_rfl
    | names => exact le_rfl
    | size => exact le_rfl
  · exact (alike_step_of_name_ne w hname).tried.ge

end InUse
end Registry
end FaultTolerance
