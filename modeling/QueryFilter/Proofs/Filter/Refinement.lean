/-
  REFINEMENT — a memory of objects does what the session does that it looks like.

  1. **Actions** — an action that only asks changes nothing (`advance_question`), nor does one that
     fails (`advance_of_error`).
  2. **Names** — `Separate`: no two objects have the same list, and no two names stand for the same
     object.  What binding a name and changing the object of a name come to in the session
     (`view_bind`, `view_grows`).
  3. **Steps** — each step of a separate memory is the step of that session
     (`step_follows`), a fault leaves all objects as they are, and no object changes but the
     one that a clause is added to.
  4. **Runs** — so it is along a run (`after_follows`), which shows of each step what the session
     does behind the steps before (`run_getElem?`).
-/
import QueryFilter.Proofs.Filter.Memory

namespace QueryFilter

open Session (Action Answer)

/-! ## Actions -/

namespace Session

theorem advance_of_ok {s s' : Session} {name : Text} {action : Action} {answer : Answer}
    (h : s.step name action = .ok (s', answer)) : s.advance name action = (s', .ok answer) := by
  rw [advance, h]

theorem advance_of_error {s : Session} {name : Text} {action : Action} {fault : Fault}
    (h : s.step name action = .error fault) : s.advance name action = (s, .error fault) := by
  rw [advance, h]

/-- To add a clause is to write it, and to put its text behind the parts. -/
theorem step_add {s : Session} {name : Text} {f : Filter} (h : s.get name = .ok f)
    (clause : Clause) :
    s.step name (.add clause) =
      clause.render.map fun part => (s.set name (f.push part), .same) := by
  rw [step, h]
  show (Filter.add f clause).map _ = _
  rw [Filter.add]
  cases clause.render <;> rfl

/-- An action that only asks. -/
def Action.IsQuestion : Action → Prop
  | .info | .equal _ | .equalValue _ | .hash | .reparse _ => True
  | _ => False

/-- An answer that is computed in two stages, beside a session that stays. -/
theorem fst_of_bind_map {α β : Type} {s : Session} {x : Except Fault α} {y : α → Except Fault β}
    {answer : α → β → Answer} {r : Session × Answer}
    (h : (x >>= fun a => (y a).map fun b => (s, answer a b)) = .ok r) : r.1 = s := by
  cases x with
  | error fault => cases h
  | ok a =>
    obtain ⟨b, -, rfl⟩ := map_eq_ok_iff.1 h
    rfl

theorem fst_of_question {s : Session} {name : Text} {action : Action} {r : Session × Answer}
    (hquestion : action.IsQuestion) (h : s.step name action = .ok r) : r.1 = s := by
  cases action with
  | info | equalValue value =>
    obtain ⟨f, -, rfl⟩ := map_eq_ok_iff.1 h
    rfl
  | equal other | reparse policy => exact fst_of_bind_map h
  | hash =>
    rw [step] at h
    cases hname : s.get name <;> rw [hname] at h <;> cases h
  | new | parse policy text | copy target | add clause => exact hquestion.elim

/-- **A question changes nothing**, whatever it is answered. -/
theorem advance_question {s : Session} {name : Text} {action : Action} (h : action.IsQuestion) :
    (s.advance name action).1 = s := by
  cases hstep : s.step name action with
  | error fault => rw [advance_of_error hstep]
  | ok r =>
    rw [advance_of_ok hstep]
    exact fst_of_question h hstep

end Session

namespace Memory

variable {m m' : Memory} {o o' : Nat}

/-! ## Names -/

/-- No two objects have the same list, and no two names stand for the same object. -/
structure Separate (m : Memory) : Prop where
  owned : m.Owned
  nodup : (m.names.map Prod.snd).Nodup
  lt : ∀ o ∈ m.names.map Prod.snd, o < m.objects.length

/-- The object of a name, behind other names. -/
theorem find_eq_ok_iff {name : Text} :
    m.find name = .ok o ↔ ∃ l₁ l₂, m.names = l₁ ++ (name, o) :: l₂ ∧ ∀ p ∈ l₁, p.1 ≠ name := by
  have hlookup : m.find name = .ok o ↔ m.names.lookup name = some o := by
    rw [find]
    cases m.names.lookup name <;> simp
  have hne : ∀ p : Text × Nat, (name != p.1) = true ↔ p.1 ≠ name := by
    intro p
    rw [bne_iff_ne, ne_comm]
  rw [hlookup, List.lookup_eq_some_iff]
  simp only [hne]

theorem object_mem_of_find {name : Text} (h : m.find name = .ok o) : o ∈ m.names.map Prod.snd := by
  obtain ⟨l₁, l₂, hnames, -⟩ := find_eq_ok_iff.1 h
  rw [hnames]
  simp

/-- A session finds under a name what the object of that name shows. -/
theorem get_view (m : Memory) (name : Text) : m.view.get name = (m.find name).map m.shown := by
  have hlookup : ∀ names : List (Text × Nat),
      (names.map fun p => (p.1, m.shown p.2)).lookup name = (names.lookup name).map m.shown := by
    intro names
    induction names with
    | nil => rfl
    | cons p names ih =>
      rw [List.map_cons, List.lookup_cons, List.lookup_cons]
      split
      · rfl
      · exact ih
  rw [Session.get, show m.view.filters.lookup name = _ from hlookup m.names, find]
  cases m.names.lookup name <;> rfl

theorem view_congr (hnames : m'.names = m.names)
    (hparts : ∀ p ∈ m.names, m'.parts p.2 = m.parts p.2) : m'.view = m.view := by
  rw [view, view, hnames, Session.mk.injEq]
  exact List.map_congr_left fun p hp => by rw [shown, shown, hparts p hp]

/-- To let a name stand for an object is to put what that shows under the name. -/
theorem view_bind (m : Memory) (name : Text) (o : Nat) :
    (m.bind name o).view = m.view.set name (m.shown o) := by
  have hassign : ∀ names : List (Text × Nat),
      (assign name o names).map (fun p => (p.1, m.shown p.2)) =
        Session.bind name (m.shown o) (names.map fun p => (p.1, m.shown p.2)) := by
    intro names
    induction names with
    | nil => rfl
    | cons p names ih =>
      obtain ⟨n, o'⟩ := p
      rw [assign, List.map_cons, Session.bind]
      split
      · rfl
      · rw [List.map_cons, ih]
  exact congrArg Session.mk (hassign m.names)

/-- A name is bound where it stands. -/
theorem bind_append {name : Text} {f g : Filter} {l₁ l₂ : List (Text × Filter)}
    (h : ∀ p ∈ l₁, p.1 ≠ name) :
    Session.bind name f (l₁ ++ (name, g) :: l₂) = l₁ ++ (name, f) :: l₂ := by
  induction l₁ with
  | nil => rw [List.nil_append, Session.bind, if_pos rfl, List.nil_append]
  | cons p l₁ ih =>
    obtain ⟨n, f'⟩ := p
    rw [List.cons_append, Session.bind, if_neg (h (n, f') (List.mem_cons_self ..)),
      ih fun q hq => h q (List.mem_cons_of_mem _ hq), List.cons_append]

/-- To change the object of a name is to put what it shows then under the name. -/
theorem view_grows {name : Text} {ps : List Text} (h : (m.names.map Prod.snd).Nodup)
    (hfind : m.find name = .ok o) (hgrows : Grows m m' o ps) :
    m'.view = m.view.set name (m'.shown o) := by
  obtain ⟨l₁, l₂, hnames, hne⟩ := find_eq_ok_iff.1 hfind
  rw [hnames, List.map_append, List.map_cons, List.nodup_middle, List.nodup_cons] at h
  have hother : ∀ p ∈ l₁ ++ l₂, m'.shown p.2 = m.shown p.2 := by
    intro p hp
    rw [shown, shown, hgrows.others p.2]
    rintro rfl
    apply h.1
    rw [← List.map_append]
    exact List.mem_map.2 ⟨p, hp, rfl⟩
  have hsame : ∀ l : List (Text × Nat), (∀ p ∈ l, p ∈ l₁ ++ l₂) →
      l.map (fun p => (p.1, m'.shown p.2)) = l.map fun p => (p.1, m.shown p.2) :=
    fun l hl => List.map_congr_left fun p hp => by rw [hother p (hl p hp)]
  rw [view, view, Session.set, hgrows.names, hnames, List.map_append, List.map_append,
    List.map_cons, List.map_cons, hsame l₁ fun p hp => List.mem_append_left _ hp,
    hsame l₂ fun p hp => List.mem_append_right _ hp]
  rw [bind_append]
  intro p hp
  obtain ⟨q, hq, rfl⟩ := List.mem_map.1 hp
  exact hne q hq

/-! ## Steps -/

theorem mem_assign {name : Text} {names : List (Text × Nat)}
    (h : o' ∈ (assign name o names).map Prod.snd) : o' = o ∨ o' ∈ names.map Prod.snd := by
  induction names with
  | nil => exact Or.inl (by simpa [assign] using h)
  | cons p names ih =>
    obtain ⟨n, o₁⟩ := p
    rw [assign] at h
    split at h
    · rcases List.mem_cons.1 h with heq | hmem
      · exact Or.inl heq
      · exact Or.inr (List.mem_cons_of_mem _ hmem)
    · rcases List.mem_cons.1 h with heq | hmem
      · exact Or.inr (heq ▸ List.mem_cons_self ..)
      · exact (ih hmem).imp_right (List.mem_cons_of_mem _)

theorem nodup_assign {name : Text} {names : List (Text × Nat)} (h : (names.map Prod.snd).Nodup)
    (hnew : o ∉ names.map Prod.snd) : ((assign name o names).map Prod.snd).Nodup := by
  induction names with
  | nil => exact List.nodup_singleton _
  | cons p names ih =>
    obtain ⟨n, o₁⟩ := p
    rw [List.map_cons, List.nodup_cons] at h
    rw [List.map_cons, List.mem_cons, not_or] at hnew
    rw [assign]
    split
    · exact List.nodup_cons.2 ⟨hnew.2, h.2⟩
    · refine List.nodup_cons.2 ⟨fun hmem => ?_, ih h.2 hnew.2⟩
      rcases mem_assign hmem with heq | hold
      · exact hnew.1 heq.symm
      · exact h.1 hold

/-- **A name may stand for a new object.** -/
theorem Adds.bind {ps : List Text} (h : Adds m m' ps) (hm : m.Separate) (name : Text) :
    (m'.bind name m.objects.length).Separate ∧
      (m'.bind name m.objects.length).view = m.view.set name ⟨ps⟩ := by
  have hnew : m.objects.length ∉ m'.names.map Prod.snd := by
    rw [h.names]
    exact fun hmem => Nat.lt_irrefl _ (hm.lt _ hmem)
  refine ⟨⟨⟨h.owned.nodup, h.owned.lt⟩, ?_, ?_⟩, ?_⟩
  · exact nodup_assign (h.names ▸ hm.nodup) hnew
  · intro o ho
    show o < m'.objects.length
    rw [h.length]
    rcases mem_assign ho with rfl | hold
    · exact Nat.lt_succ_self _
    · rw [h.names] at hold
      exact Nat.lt_succ_of_lt (hm.lt o hold)
  · have hold : m'.view = m.view := by
      refine view_congr h.names fun p hp => h.old p.2 (hm.lt p.2 ?_)
      exact List.mem_map_of_mem hp
    rw [view_bind, hold, shown, h.new]

/-- What a step comes to.  The memory is separate again, and it and the answer are those of
    the session.  A fault leaves all names and objects as they are.  And each object keeps
    its parts, unless it is the one that a clause was added to: then it has the text of
    that clause behind them. -/
structure Follows (m : Memory) (name : Text) (action : Action) (r : Memory × Except Fault Answer) :
    Prop where
  separate : r.1.Separate
  advance : m.view.advance name action = (r.1.view, r.2)
  kept : ∀ fault, r.2 = .error fault →
    r.1.names = m.names ∧ ∀ o < m.objects.length, r.1.parts o = m.parts o
  frame : ∀ o < m.objects.length, r.1.parts o = m.parts o ∨
    ∃ clause part, action = .add clause ∧ m.find name = .ok o ∧ clause.render = .ok part ∧
      r.1.parts o = m.parts o ++ [part]

section
variable {name : Text} {action : Action} (h : m.Separate)

include h

/-- A question changes neither the session nor the memory. -/
theorem follows_question (hquestion : action.IsQuestion) :
    Follows m name action (m, (m.view.advance name action).2) :=
  ⟨h, Prod.ext (Session.advance_question hquestion) rfl, fun _ _ => ⟨rfl, fun _ _ => rfl⟩,
    fun _ _ => Or.inl rfl⟩

/-- A step that fails follows the session if that step of the session fails. -/
theorem follows_error {fault : Fault} (hfault : m.view.step name action = .error fault) :
    Follows m name action (m, .error fault) := by
  exact ⟨h, Session.advance_of_error hfault, fun _ _ => ⟨rfl, fun _ _ => rfl⟩,
    fun _ _ => Or.inl rfl⟩

/-- A step that puts a new object under a name follows the session that puts its parts there. -/
theorem follows_bind {target : Text} {ps : List Text} {answer : Answer} (hadds : Adds m m' ps)
    (hstep : m.view.step name action = .ok (m.view.set target ⟨ps⟩, answer)) :
    Follows m name action (m'.bind target m.objects.length, .ok answer) := by
  obtain ⟨hseparate, hview⟩ := hadds.bind h target
  refine ⟨hseparate, ?_, (fun fault herror => by cases herror), fun o ho => Or.inl (hadds.old o ho)⟩
  rw [Session.advance_of_ok hstep, hview]

theorem follows_parse (policy : QuotePolicy) (text : Text) :
    Follows m name (.parse policy text) (m.step name (.parse policy text)) := by
  have hadds := (construct_allocates m).adds h.owned
  have hlt : m.objects.length < m.construct.objects.length := by
    rw [hadds.length]
    exact Nat.lt_succ_self _
  obtain ⟨ps, hgrows, houtcome⟩ :=
    replay_grows policy ⟨0, Token.tokenize policy text⟩ hadds.owned hlt
  have hread := hadds.grows hgrows
  have htext : Filter.ofText policy text =
      (Filter.partsOf policy ⟨0, Token.tokenize policy text⟩).map Filter.mk := rfl
  rw [step]
  generalize m.construct.replay policy m.objects.length ⟨0, Token.tokenize policy text⟩ = r at *
  obtain ⟨m', outcome⟩ := r
  rcases houtcome with ⟨hparts, rfl⟩ | ⟨fault, hfault, rfl⟩
  · exact follows_bind h hread (by rw [Session.step, htext, hparts]; rfl)
  · -- no name stands for the object that was being read
    have hview := view_congr hread.names fun p hp => hread.old p.2 (h.lt _ (List.mem_map_of_mem hp))
    refine ⟨⟨hread.owned, hread.names ▸ h.nodup, fun o ho => ?_⟩, ?_,
      fun _ _ => ⟨hread.names, hread.old⟩, fun o ho => Or.inl (hread.old o ho)⟩
    · rw [hread.names] at ho
      rw [hread.length]
      exact Nat.lt_succ_of_lt (h.lt o ho)
    · have hfails : m.view.step name (.parse policy text) = .error fault := by
        rw [Session.step, htext, hfault]
        rfl
      rw [Session.advance_of_error hfails, hview]

theorem follows_copy (target : Text) :
    Follows m name (.copy target) (m.step name (.copy target)) := by
  have hget := get_view m name
  rw [step]
  cases hfind : m.find name with
  | error fault =>
    rw [hfind] at hget
    exact follows_error h (by rw [Session.step, hget]; rfl)
  | ok o =>
    rw [hfind] at hget
    exact follows_bind h ((duplicate_allocates m o).adds h.owned) (by rw [Session.step, hget]; rfl)

theorem follows_add (clause : Clause) :
    Follows m name (.add clause) (m.step name (.add clause)) := by
  have hget := get_view m name
  rw [step]
  cases hfind : m.find name with
  | error fault =>
    rw [hfind] at hget
    exact follows_error h (by rw [Session.step, hget]; rfl)
  | ok o =>
    rw [hfind] at hget
    have hadd := Session.step_add (f := m.shown o) hget clause
    cases hrender : clause.render with
    | error fault => exact follows_error h (by rw [hadd, hrender]; rfl)
    | ok part =>
      have hgrows := append_grows h.owned (h.lt o (object_mem_of_find hfind)) part
      have hshown : (m.append o part).shown o = (m.shown o).push part :=
        congrArg Filter.mk hgrows.parts
      refine ⟨⟨hgrows.owned h.owned, hgrows.names ▸ h.nodup, ?_⟩, ?_,
        (fun fault herror => by cases herror), fun o' _ => ?_⟩
      · rw [hgrows.names, hgrows.objects]
        exact h.lt
      · rw [hrender] at hadd
        rw [Session.advance_of_ok hadd, view_grows h.nodup hfind hgrows, hshown]
      · by_cases heq : o' = o
        · subst heq
          exact Or.inr ⟨clause, part, rfl, hfind, hrender, hgrows.parts⟩
        · exact Or.inl (hgrows.others o' heq)

/-- **Each step of a memory is the step of the session that it looks like.** -/
theorem step_follows (name : Text) (action : Action) :
    Follows m name action (m.step name action) := by
  cases action with
  | new => exact follows_bind h ((construct_allocates m).adds h.owned) rfl
  | parse policy text => exact follows_parse h policy text
  | copy target => exact follows_copy h target
  | add clause => exact follows_add h clause
  | info | equal other | equalValue value | hash | reparse policy =>
    exact follows_question h trivial

end

/-! ## Runs -/

end Memory

namespace Session

/-- The session after some steps. -/
def after (s : Session) (steps : List (Text × Action)) : Session :=
  steps.foldl (fun s step => (s.advance step.1 step.2).1) s

/-- What a run shows of a step is what the step does behind the steps before. -/
theorem run_getElem? (s : Session) (steps : List (Text × Action)) (k : Nat) :
    (s.run steps)[k]? = steps[k]?.map fun step =>
      (((s.after (steps.take k)).advance step.1 step.2).2,
        ((s.after (steps.take k)).advance step.1 step.2).1) := by
  induction steps generalizing s k with
  | nil => rfl
  | cons step steps ih =>
    cases k with
    | zero => rfl
    | succ k =>
      rw [run, List.getElem?_cons_succ, List.getElem?_cons_succ, ih]
      rfl

end Session

namespace Memory

theorem start_separate (name : Text) : (start name).Separate :=
  ⟨⟨List.nodup_singleton _, by simp [start]⟩, List.nodup_singleton _, by simp [start]⟩

/-- **A memory follows the session that it looks like along any run.** -/
theorem after_follows {m : Memory} (h : m.Separate) (steps : List (Text × Action)) :
    (m.after steps).Separate ∧ (m.after steps).view = m.view.after steps := by
  induction steps generalizing m with
  | nil => exact ⟨h, rfl⟩
  | cons step steps ih =>
    have hstep := step_follows h step.1 step.2
    have hview : (m.step step.1 step.2).1.view = (m.view.advance step.1 step.2).1 := by
      rw [hstep.advance]
    obtain ⟨hseparate, hafter⟩ := ih hstep.separate
    refine ⟨hseparate, ?_⟩
    show ((m.step step.1 step.2).1.after steps).view = (m.view.advance step.1 step.2).1.after steps
    rw [hafter, hview]

end Memory

end QueryFilter
