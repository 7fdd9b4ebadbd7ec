/-
  HISTORIES — a filter of a session is what it was made from and what was added to it since.

  1. **Specification** — an `Event` is a step with the session before it and its answer.  An
     event may make a filter (`Event.Makes`): without parts, with those of a text, or with
     those that another filter has at that moment; and an event that succeeds may add a
     clause to one (`Event.added?`).  `Traced`: the parts of a filter are those that it was
     made with by the last event that made it, and behind them one text for each clause that
     was added to it since, in order.
  2. **One step** — a step makes one filter, or adds one clause to one filter, or changes nothing
     (`advance_cases`).  So the filter of a name is a new one, or has one more part, or is the one
     that was there before (`Later`, `later_of_get`).
  3. **Runs** — each of these keeps a filter traced, and so each filter of a session is, by
     induction on the steps (`traced_after`); and each that was ever made is there
     (`exists_get_after`).

  Together with what lies in memory: `run_history`.
-/
import Mathlib.Data.List.Induction
import QueryFilter.Proofs.Filter.Refinement

namespace QueryFilter

namespace Session

/-! ## The specification -/

/-- A step of a run: the session before it, what it does to the filter of which name, and its
    answer. -/
structure Event where
  before : Session
  name : Text
  action : Action
  answer : Except Fault Answer

namespace Event

/-- The event puts a filter that was made from these parts under a name. -/
inductive Makes (e : Event) : Text → List Text → Prop
  | new (action : e.action = .new) : Makes e e.name []
  | parse {policy : QuotePolicy} {text : Text} {f : Filter} (action : e.action = .parse policy text)
      (read : Filter.ofText policy text = .ok f) : Makes e e.name f.parts
  | copy {target : Text} {f : Filter} (action : e.action = .copy target)
      (source : e.before.get e.name = .ok f) : Makes e target f.parts

/-- The clause that the event has added to the filter of a name. -/
def added? (e : Event) (name : Text) : Option Clause :=
  match e.action, e.answer with
  | .add clause, .ok _ => if e.name = name then some clause else none
  | _, _ => none

end Event

/-- What happens when an action is done to the filter of a name. -/
def eventAt (s : Session) (name : Text) (action : Action) : Event :=
  ⟨s, name, action, (s.advance name action).2⟩

/-- The events of a run. -/
def events (s : Session) : List (Text × Action) → List Event
  | [] => []
  | (name, action) :: steps => s.eventAt name action :: events (s.advance name action).1 steps

/-- The parts of the filter of a name: those it was made from, and a text for each clause added
    since. -/
def Traced (es : List Event) (name : Text) (parts : List Text) : Prop :=
  ∃ earlier made later source texts, es = earlier ++ made :: later ∧ made.Makes name source ∧
    (∀ e ∈ later, ∀ ps, ¬ e.Makes name ps) ∧
    (later.filterMap fun e => e.added? name).map Clause.render = texts.map .ok ∧
    parts = source ++ texts

/-! ## One step -/

variable {s : Session} {name target : Text} {action : Action} {f : Filter}

theorem lookup_cons_if (name n : Text) (f : Filter) (filters : List (Text × Filter)) :
    ((n, f) :: filters).lookup name = if n = name then some f else filters.lookup name := by
  rw [List.lookup_cons]
  by_cases h : n = name
  · rw [if_pos h, h, beq_self_eq_true]
  · rw [if_neg h, beq_false_of_ne (Ne.symm h)]

theorem lookup_bind (name target : Text) (f : Filter) (filters : List (Text × Filter)) :
    (bind target f filters).lookup name =
      if target = name then some f else filters.lookup name := by
  induction filters with
  | nil => exact lookup_cons_if name target f []
  | cons p filters ih =>
    obtain ⟨n, g⟩ := p
    rw [bind, lookup_cons_if]
    by_cases hn : n = target
    · rw [if_pos hn, lookup_cons_if, hn]
      split <;> rfl
    · rw [if_neg hn, lookup_cons_if, ih]
      by_cases h : n = name
      · rw [if_pos h, if_neg (fun heq => hn (h.trans heq.symm)), if_pos h]
      · rw [if_neg h, if_neg h]

/-- Putting a filter under a name changes what is found under that name alone. -/
theorem get_set (s : Session) (name target : Text) (f : Filter) :
    (s.set target f).get name = if target = name then .ok f else s.get name := by
  rw [get, set, lookup_bind, get]
  by_cases h : target = name
  · rw [if_pos h, if_pos h]
  · rw [if_neg h, if_neg h]

/-- An event makes a filter under one name at most. -/
theorem Event.Makes.unique {e : Event} {ps ps' : List Text} (h : e.Makes name ps)
    (h' : e.Makes target ps') : name = target := by
  cases h with
  | new action | parse action | copy action =>
    cases h' with
    | new action' | parse action' | copy action' =>
      have hsame := action.symm.trans action'
      cases hsame <;> rfl

/-- A step that fails makes nothing. -/
theorem not_makes_of_error {fault : Fault} (h : s.step name action = .error fault) (target : Text)
    (ps : List Text) : ¬ (s.eventAt name action).Makes target ps := by
  intro hmakes
  cases hmakes with
  | new haction =>
    rw [show action = _ from haction] at h
    cases h
  | parse haction hread =>
    rw [show action = _ from haction, step, hread] at h
    cases h
  | copy haction hsource =>
    rw [show action = _ from haction, step, show s.get name = _ from hsource] at h
    cases h

theorem not_makes_add (s : Session) (name : Text) (clause : Clause) (target : Text)
    (ps : List Text) : ¬ (s.eventAt name (.add clause)).Makes target ps := by
  intro hmakes
  cases hmakes with
  | new action | parse action | copy action => cases action

/-- **What a step can do**: it makes a filter, it adds a clause to one, or it changes nothing. -/
theorem advance_cases (s : Session) (name : Text) (action : Action) :
    (∃ target ps, (s.eventAt name action).Makes target ps ∧
      (s.advance name action).1 = s.set target ⟨ps⟩ ∧
      ∀ target', (s.eventAt name action).added? target' = none) ∨
    (∃ clause part f, action = .add clause ∧ s.get name = .ok f ∧ clause.render = .ok part ∧
      s.advance name action = (s.set name (f.push part), .ok .same)) ∨
    ((s.advance name action).1 = s ∧ (∀ target ps, ¬ (s.eventAt name action).Makes target ps) ∧
      ∀ target, (s.eventAt name action).added? target = none) := by
  cases hstep : s.step name action with
  | error fault =>
    have hadvance := advance_of_error hstep
    refine Or.inr (Or.inr ⟨by rw [hadvance], not_makes_of_error hstep, fun target => ?_⟩)
    rw [eventAt, Event.added?, hadvance]
    cases action <;> rfl
  | ok r =>
    have hadvance := advance_of_ok hstep
    cases action with
    | new => exact Or.inl ⟨name, [], .new rfl, rfl, fun _ => rfl⟩
    | parse policy text =>
      obtain ⟨f, hread, rfl⟩ := map_eq_ok_iff.1 hstep
      exact Or.inl ⟨name, f.parts, .parse rfl hread, by rw [hadvance], fun _ => rfl⟩
    | copy target =>
      obtain ⟨f, hsource, rfl⟩ := map_eq_ok_iff.1 hstep
      exact Or.inl ⟨target, f.parts, .copy rfl hsource, by rw [hadvance], fun _ => rfl⟩
    | add clause =>
      cases hname : s.get name with
      | error fault =>
        rw [step, hname] at hstep
        cases hstep
      | ok f =>
        rw [step_add hname] at hstep
        obtain ⟨part, hrender, rfl⟩ := map_eq_ok_iff.1 hstep
        exact Or.inr (Or.inl ⟨clause, part, f, rfl, rfl, hrender, hadvance⟩)
    | info | equal other | equalValue value | hash | reparse policy =>
      refine Or.inr (Or.inr ⟨advance_question trivial, ?_, fun _ => rfl⟩)
      intro target ps h
      cases h with
      | new action | parse action | copy action => cases action

/-- How a filter stands behind an event: it was made by it, it has one more part, or it is as
    before. -/
inductive Later (s : Session) (e : Event) (name : Text) : List Text → Prop
  | made {ps : List Text} (makes : e.Makes name ps) : Later s e name ps
  | added {g : Filter} {clause : Clause} {part : Text} (before : s.get name = .ok g)
      (keeps : ∀ ps, ¬ e.Makes name ps) (adds : e.added? name = some clause)
      (render : clause.render = .ok part) : Later s e name (g.parts ++ [part])
  | same {g : Filter} (before : s.get name = .ok g) (keeps : ∀ ps, ¬ e.Makes name ps)
      (adds : e.added? name = none) : Later s e name g.parts

/-- **A step makes a filter, appends one part to it, or leaves it as it is.** -/
theorem later_of_get (h : (s.advance name action).1.get target = .ok f) :
    Later s (s.eventAt name action) target f.parts := by
  rcases advance_cases s name action with ⟨target', ps, hmakes, hset, hadded⟩ |
    ⟨clause, part, g, rfl, hname, hrender, hadvance⟩ | ⟨hsame, hmakes, hadded⟩
  · rw [hset, get_set] at h
    split at h
    · rename_i heq
      cases h
      exact .made (heq ▸ hmakes)
    · rename_i hne
      exact .same h (fun ps' hmakes' => hne (hmakes.unique hmakes')) (hadded target)
  · have hmakes := not_makes_add s name clause target
    have hadded : (s.eventAt name (.add clause)).added? target =
        if name = target then some clause else none := by
      rw [eventAt, Event.added?, hadvance]
    rw [hadvance, get_set] at h
    split at h
    · rename_i heq
      cases h
      rw [if_pos heq] at hadded
      exact .added (heq ▸ hname) hmakes hadded hrender
    · rename_i hne
      rw [if_neg hne] at hadded
      exact .same h hmakes hadded
  · rw [hsame] at h
    exact .same h (hmakes target) (hadded target)

/-- What an event has made is there, and what was there before it. -/
theorem exists_get_advance (h : (∃ f, s.get target = .ok f) ∨
    ∃ ps, (s.eventAt name action).Makes target ps) :
    ∃ f, (s.advance name action).1.get target = .ok f := by
  have hset : ∀ (n : Text) (g : Filter), (n = target ∨ ∃ f, s.get target = .ok f) →
      ∃ f, (s.set n g).get target = .ok f := by
    intro n g hn
    rw [get_set]
    by_cases heq : n = target
    · exact ⟨g, by rw [if_pos heq]⟩
    · rw [if_neg heq]
      exact hn.resolve_left heq
  rcases advance_cases s name action with ⟨target', ps, hmakes, hadvance, -⟩ |
    ⟨clause, part, g, rfl, hname, -, hadvance⟩ | ⟨hsame, hmakes, -⟩
  · rw [hadvance]
    exact hset _ _ (h.symm.imp_left fun ⟨_, hmakes'⟩ => hmakes.unique hmakes')
  · rw [hadvance]
    exact hset _ _ (Or.inr (h.resolve_right fun ⟨ps, hmakes⟩ =>
      not_makes_add s name clause target ps hmakes))
  · rw [hsame]
    exact h.resolve_right fun ⟨ps, hmakes'⟩ => hmakes target ps hmakes'

/-! ## Runs -/

theorem after_concat (s : Session) (steps : List (Text × Action)) (step : Text × Action) :
    s.after (steps ++ [step]) = ((s.after steps).advance step.1 step.2).1 := by
  rw [after, List.foldl_append]
  rfl

theorem events_concat (s : Session) (steps : List (Text × Action)) (step : Text × Action) :
    s.events (steps ++ [step]) = s.events steps ++ [(s.after steps).eventAt step.1 step.2] := by
  induction steps generalizing s with
  | nil => rfl
  | cons first steps ih =>
    rw [List.cons_append, events, ih]
    rfl

/-- A traced filter is so behind an event that does not make it, with the text of what that adds to
    it. -/
theorem Traced.extend {es : List Event} {e : Event} {ps texts' : List Text} (h : Traced es name ps)
    (keeps : ∀ ps, ¬ e.Makes name ps)
    (adds : (e.added? name).toList.map Clause.render = texts'.map .ok) :
    Traced (es ++ [e]) name (ps ++ texts') := by
  obtain ⟨earlier, made, later, source, texts, rfl, hmade, hlater, htexts, rfl⟩ := h
  refine ⟨earlier, made, later ++ [e], source, texts ++ texts', by simp, hmade, ?_, ?_, by simp⟩
  · intro e' he'
    rcases List.mem_append.1 he' with hold | hnew
    · exact hlater e' hold
    · rw [List.mem_singleton.1 hnew]
      exact keeps
  · have hone : [e].filterMap (fun e => e.added? name) = (e.added? name).toList := by
      rw [List.filterMap_cons, List.filterMap_nil]
      cases e.added? name <;> rfl
    rw [List.filterMap_append, List.map_append, htexts, hone, adds, List.map_append]

/-- **What a step does to a filter leaves it traced.** -/
theorem Traced.concat {es : List Event} {e : Event} {ps : List Text}
    (ih : ∀ g, s.get name = .ok g → Traced es name g.parts) (h : Later s e name ps) :
    Traced (es ++ [e]) name ps := by
  cases h with
  | made makes => exact ⟨es, e, [], ps, [], rfl, makes, by simp, rfl, (List.append_nil ps).symm⟩
  | added before keeps adds render =>
    refine (ih _ before).extend keeps ?_
    rw [adds, Option.toList_some, List.map_singleton, List.map_singleton, render]
  | @same g before keeps adds =>
    have hsame : Traced (es ++ [e]) name (g.parts ++ []) :=
      (ih g before).extend keeps (by rw [adds]; rfl)
    rwa [List.append_nil] at hsame

/-- **Each filter of a session is traced**, if the session grew from one without filters. -/
theorem traced_after (steps : List (Text × Action)) (h : (after ⟨[]⟩ steps).get name = .ok f) :
    Traced (events ⟨[]⟩ steps) name f.parts := by
  induction steps using List.reverseRecOn generalizing f with
  | nil => cases h
  | append_singleton steps step ih =>
    rw [after_concat] at h
    rw [events_concat]
    exact Traced.concat (fun g hg => ih hg) (later_of_get h)

/-- **Each filter that was made is there.** -/
theorem exists_get_after (s : Session) (steps : List (Text × Action)) {e : Event} {ps : List Text}
    (he : e ∈ s.events steps) (hmakes : e.Makes name ps) :
    ∃ f, (s.after steps).get name = .ok f := by
  induction steps using List.reverseRecOn with
  | nil => cases he
  | append_singleton steps step ih =>
    rw [after_concat]
    rw [events_concat] at he
    refine exists_get_advance ?_
    rcases List.mem_append.1 he with hold | hnew
    · exact Or.inl (ih hold)
    · rw [List.mem_singleton.1 hnew] at hmakes
      exact Or.inr ⟨ps, hmakes⟩

/-- **Filters share nothing, and none is changed by half.**  After each step of a run, the filters
    under names are those that were ever made, and each is traced: it has the parts that it was
    made from, and behind them the text of each clause added to it since.  A step that fails
    leaves the session as it was.  And in memory, where objects change in place, no two filters
    have the same list, a step that fails changes no object, and one that succeeds none but that
    which a clause is added to. -/
theorem run_history (first : Text) (steps : List (Text × Action)) {k : Nat}
    {answer : Except Fault Answer} {s : Session} (h : ((start first).run steps)[k]? = some (answer, s)) :
    (∀ name f, s.get name = .ok f →
      Traced (events ⟨[]⟩ ((first, .new) :: steps.take (k + 1))) name f.parts) ∧
    (∀ name ps, ∀ e ∈ events ⟨[]⟩ ((first, .new) :: steps.take (k + 1)), e.Makes name ps →
      ∃ f, s.get name = .ok f) ∧
    (∀ fault, answer = .error fault → s = (start first).after (steps.take k)) ∧
    ∃ m name action, m = (Memory.start first).after (steps.take k) ∧ steps[k]? = some (name, action) ∧
      m.view = (start first).after (steps.take k) ∧ (m.step name action).1.view = s ∧
      (m.step name action).2 = answer ∧ Memory.Follows m name action (m.step name action) := by
  rw [run_getElem?] at h
  obtain ⟨⟨name, action⟩, hstep, hshown⟩ := Option.map_eq_some_iff.1 h
  obtain ⟨rfl, rfl⟩ := Prod.mk.inj hshown
  have hafter : (((start first).after (steps.take k)).advance name action).1 =
      after ⟨[]⟩ ((first, .new) :: steps.take (k + 1)) := by
    rw [List.take_add_one, hstep, Option.toList_some, ← List.cons_append, after_concat]
    rfl
  obtain ⟨hseparate, hview⟩ := Memory.after_follows (Memory.start_separate first) (steps.take k)
  have hfollows := Memory.step_follows hseparate name action
  have hadvance := hfollows.advance
  rw [hview] at hadvance
  refine ⟨?_, ?_, ?_, _, name, action, rfl, hstep, hview, ?_, ?_, hfollows⟩
  · intro target f hget
    rw [hafter] at hget
    exact traced_after _ hget
  · intro target ps e he hmakes
    rw [hafter]
    exact exists_get_after _ _ he hmakes
  · intro fault hfault
    cases hfails : ((start first).after (steps.take k)).step name action with
    | error fault' => rw [advance_of_error hfails]
    | ok r =>
      rw [advance_of_ok hfails] at hfault
      cases hfault
  · exact (congrArg Prod.fst hadvance).symm
  · exact (congrArg Prod.snd hadvance).symm

/-- Copies of copies that grow on, a list that fails at its last value, and a text that fails at its
    end. -/
def sampleSteps : List (Text × Action) :=
  [(['a'], .add (.relation (.compare .eq) ['x'] (.literal (.int 1)))),
    (['a'], .copy ['b']),
    (['b'], .add (.membership ['y'] (.collection .list [.literal (.int 2), .object]))),
    (['b'], .add .or),
    (['b'], .copy ['c']),
    (['a'], .parse .doubled "z eq 3 and y in".toList),
    (['b'], .add .opening)]

def sampleSession : Session :=
  ⟨[(['a'], ⟨["x eq 1".toList]⟩), (['b'], ⟨["x eq 1".toList, "or".toList, ['(']]⟩),
    (['c'], ⟨["x eq 1".toList, "or".toList]⟩)]⟩

theorem run_history_sampleSteps :
    ((start ['a']).run sampleSteps)[6]? = some (.ok .same, sampleSession) ∧
    (∀ name f, sampleSession.get name = .ok f →
      Traced (events ⟨[]⟩ ((['a'], .new) :: sampleSteps)) name f.parts) ∧
    ∃ m : Memory, m.Separate ∧ m.view = sampleSession := by
  have hrun : ((start ['a']).run sampleSteps)[6]? = some (.ok .same, sampleSession) := by
    have hshown : ((start ['a']).run sampleSteps)[6]?.map (fun r => (r.1.toOption, r.2)) =
        some (some .same, sampleSession) := by
      decide +kernel
    obtain ⟨⟨answer, s⟩, hget, hr⟩ := Option.map_eq_some_iff.1 hshown
    obtain ⟨hanswer, rfl⟩ := Prod.mk.inj hr
    cases answer with
    | error fault => cases hanswer
    | ok answer =>
      cases hanswer
      exact hget
  obtain ⟨htraced, -, -, m, name, action, -, -, -, hview, -, hfollows⟩ :=
    run_history ['a'] sampleSteps hrun
  exact ⟨hrun, htraced, _, hfollows.separate, hview⟩

end Session

end QueryFilter
