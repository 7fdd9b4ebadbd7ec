/-
  MEMORY — sessions whose filters are objects that change in place.

  In a session filters are values, and nothing can be shared or be changed by half.  Here they are
  objects: an object has the address of a list of parts, adding a clause appends to that list where
  it stands, and a name stands for an object.  A copy is a new object, which gets a new list with
  the same parts.  A filter that is read is a new object that grows part by part, and that no name
  stands for if reading fails.

  1. **Machine** — the operations on objects, and `Memory.step` made of them.
  2. **Separation** — `Owned`: no two objects have the same list.  So an operation either adds an
     object (`Adds`) or adds parts to one (`Grows`), and the others stay as they are
     (`construct_allocates`, `duplicate_allocates`, `append_grows`, `replay_grows`).
-/
import Mathlib.Data.List.Nodup
import QueryFilter.Filter.Session
import QueryFilter.Proofs.Filter.Decomposition

namespace QueryFilter

open Session (Action Answer)

/-- Lists of parts by address, the address of the list of each object, and the objects under
    names. -/
structure Memory where
  lists : List (List Text)
  objects : List Nat
  names : List (Text × Nat)
deriving DecidableEq, Repr, Inhabited

namespace Memory

/-! ## The machine -/

/-- The parts of an object. -/
def parts (m : Memory) (object : Nat) : List Text :=
  (m.objects[object]?.bind fun address => m.lists[address]?).getD []

/-- The filter that an object is at present. -/
def shown (m : Memory) (object : Nat) : Filter := ⟨m.parts object⟩

/-- The session that a memory looks like. -/
def view (m : Memory) : Session := ⟨m.names.map fun p => (p.1, m.shown p.2)⟩

/-- A new object with a new list without parts. -/
def construct (m : Memory) : Memory :=
  { m with lists := m.lists ++ [[]], objects := m.objects ++ [m.lists.length] }

/-- Put a part at the end of the list of an object. -/
def append (m : Memory) (object : Nat) (part : Text) : Memory :=
  match m.objects[object]? with
  | some address => { m with lists := m.lists.modify address (· ++ [part]) }
  | none => m

/-- A new object, whose list is then replaced by a new one with the parts of a given object. -/
def duplicate (m : Memory) (object : Nat) : Memory :=
  { m.construct with
    lists := m.construct.lists ++ [m.parts object]
    objects := m.construct.objects.set m.objects.length m.construct.lists.length }

/-- Append the parts of a row of tokens as they are read. -/
def replay (m : Memory) (policy : QuotePolicy) (object : Nat) (row : Token.Row) :
    Memory × Except Fault Unit :=
  match _h : Filter.next policy row with
  | .error fault => (m, .error fault)
  | .ok none => (m, .ok ())
  | .ok (some (part, row')) => (m.append object part).replay policy object row'
termination_by row.tokens.length
decreasing_by exact Filter.next_length _h

/-- Let a name stand for an object. -/
def assign (name : Text) (object : Nat) : List (Text × Nat) → List (Text × Nat)
  | [] => [(name, object)]
  | (n, o) :: rest => if n = name then (n, object) :: rest else (n, o) :: assign name object rest

def bind (m : Memory) (name : Text) (object : Nat) : Memory :=
  { m with names := assign name object m.names }

/-- The object that a name stands for. -/
def find (m : Memory) (name : Text) : Except Fault Nat :=
  match m.names.lookup name with
  | some object => .ok object
  | none => .error (.unbound name)

/-- The memory after an action on the object of a name, and the answer.  A question changes
    nothing. -/
def step (m : Memory) (name : Text) : Action → Memory × Except Fault Answer
  | .new => (m.construct.bind name m.objects.length, .ok .done)
  | .parse policy text =>
    match m.construct.replay policy m.objects.length ⟨0, Token.tokenize policy text⟩ with
    | (m', .ok ()) => (m'.bind name m.objects.length, .ok .done)
    | (m', .error fault) => (m', .error fault)
  | .copy target =>
    match m.find name with
    | .ok object => ((m.duplicate object).bind target m.objects.length, .ok .done)
    | .error fault => (m, .error fault)
  | .add clause =>
    match m.find name with
    | .ok object =>
      match clause.render with
      | .ok part => (m.append object part, .ok .same)
      | .error fault => (m, .error fault)
    | .error fault => (m, .error fault)
  | question => (m, (m.view.advance name question).2)

/-- The memory after some steps. -/
def after (m : Memory) (steps : List (Text × Action)) : Memory :=
  steps.foldl (fun m step => (m.step step.1 step.2).1) m

/-- The memory with one object without parts, under a name. -/
def start (name : Text) : Memory := ⟨[[]], [0], [(name, 0)]⟩

/-! ## Separation -/

/-- Each object has a list, and no two objects have the same. -/
structure Owned (m : Memory) : Prop where
  nodup : m.objects.Nodup
  lt : ∀ address ∈ m.objects, address < m.lists.length

variable {m m' : Memory} {o o' : Nat}

theorem Owned.exists_address (h : m.Owned) (ho : o < m.objects.length) :
    ∃ address, m.objects[o]? = some address ∧ address < m.lists.length :=
  ⟨m.objects[o], List.getElem?_eq_getElem ho, h.lt _ (List.getElem_mem ho)⟩

/-- Only its own list and the address of that matter for the parts of an object. -/
theorem parts_congr (ho : m'.objects[o]? = m.objects[o]?)
    (hlist : ∀ address, m.objects[o]? = some address → m'.lists[address]? = m.lists[address]?) :
    m'.parts o = m.parts o := by
  rw [parts, parts, ho]
  cases haddress : m.objects[o]? with
  | none => rfl
  | some address => rw [Option.bind_some, Option.bind_some, hlist address haddress]

theorem parts_of_address {address : Nat} (ho : m.objects[o]? = some address) :
    m.parts o = m.lists[address]?.getD [] := by
  rw [parts, ho, Option.bind_some]

/-- One memory is the other with one more object, which has a new list. -/
structure Allocates (m m' : Memory) (ps : List Text) : Prop where
  objects : ∃ address, m'.objects = m.objects ++ [address] ∧ m.lists.length ≤ address ∧
    m'.lists[address]? = some ps
  lists : m.lists <+: m'.lists
  names : m'.names = m.names

/-- One memory is the other with one more object, whose parts are these. -/
structure Adds (m m' : Memory) (ps : List Text) : Prop where
  owned : m'.Owned
  names : m'.names = m.names
  length : m'.objects.length = m.objects.length + 1
  old : ∀ o < m.objects.length, m'.parts o = m.parts o
  new : m'.parts m.objects.length = ps

/-- **A new object with a new list changes no other one.** -/
theorem Allocates.adds {ps : List Text} (h : Allocates m m' ps) (hm : m.Owned) : Adds m m' ps := by
  obtain ⟨address, hobjects, hle, hlist⟩ := h.objects
  obtain ⟨new, hlists⟩ := h.lists
  have hlt := (List.getElem?_eq_some_iff.1 hlist).1
  refine ⟨⟨?_, ?_⟩, h.names, ?_, ?_, ?_⟩
  · rw [hobjects, List.nodup_append]
    refine ⟨hm.nodup, List.nodup_singleton _, fun a ha b hb => ?_⟩
    have halt := hm.lt a ha
    rw [List.mem_singleton] at hb
    omega
  · intro a ha
    rw [hobjects] at ha
    rcases List.mem_append.1 ha with hold | hnew
    · have halt := hm.lt a hold
      omega
    · rw [List.mem_singleton.1 hnew]
      exact hlt
  · rw [hobjects, List.length_append, List.length_singleton]
  · intro o ho
    apply parts_congr
    · rw [hobjects]
      exact List.getElem?_append_left ho
    · intro a ha
      rw [← hlists]
      exact List.getElem?_append_left (hm.lt a (List.mem_of_getElem? ha))
  · have haddress : m'.objects[m.objects.length]? = some address := by
      rw [hobjects]
      exact List.getElem?_concat_length
    rw [parts_of_address haddress, hlist, Option.getD_some]

theorem construct_allocates (m : Memory) : Allocates m m.construct [] :=
  ⟨⟨m.lists.length, rfl, Nat.le_refl _, List.getElem?_concat_length⟩, List.prefix_append _ _, rfl⟩

theorem duplicate_allocates (m : Memory) (o : Nat) : Allocates m (m.duplicate o) (m.parts o) := by
  refine ⟨⟨m.construct.lists.length, ?_, ?_, List.getElem?_concat_length⟩, ?_, rfl⟩
  · show (m.objects ++ [m.lists.length]).set m.objects.length _ = _
    rw [List.set_append_right _ _ (Nat.le_refl _), Nat.sub_self]
    rfl
  · show m.lists.length ≤ (m.lists ++ [[]]).length
    rw [List.length_append]
    omega
  · exact (List.prefix_append m.lists [[]]).trans (List.prefix_append _ _)

/-- One memory is the other with more parts in one object. -/
structure Grows (m m' : Memory) (o : Nat) (ps : List Text) : Prop where
  objects : m'.objects = m.objects
  names : m'.names = m.names
  length : m'.lists.length = m.lists.length
  parts : m'.parts o = m.parts o ++ ps
  others : ∀ o', o' ≠ o → m'.parts o' = m.parts o'

namespace Grows

variable {ps ps' : List Text} {m'' : Memory}

theorem refl (m : Memory) (o : Nat) : Grows m m o [] := ⟨rfl, rfl, rfl, by simp, fun _ _ => rfl⟩

theorem trans (h : Grows m m' o ps) (h' : Grows m' m'' o ps') : Grows m m'' o (ps ++ ps') := by
  refine ⟨h'.objects.trans h.objects, h'.names.trans h.names, h'.length.trans h.length, ?_, ?_⟩
  · rw [h'.parts, h.parts, List.append_assoc]
  · intro o' hne
    rw [h'.others o' hne, h.others o' hne]

theorem owned (h : Grows m m' o ps) (hm : m.Owned) : m'.Owned := by
  constructor
  · rw [h.objects]
    exact hm.nodup
  · rw [h.objects, h.length]
    exact hm.lt

end Grows

/-- A new object may grow. -/
theorem Adds.grows {ps ps' : List Text} {m'' : Memory} (h : Adds m m' ps)
    (hgrows : Grows m' m'' m.objects.length ps') : Adds m m'' (ps ++ ps') := by
  refine ⟨hgrows.owned h.owned, hgrows.names.trans h.names, ?_, ?_, ?_⟩
  · rw [hgrows.objects, h.length]
  · intro o ho
    rw [hgrows.others o (Nat.ne_of_lt ho), h.old o ho]
  · rw [hgrows.parts, h.new]

/-- **Appending changes one object.** -/
theorem append_grows (h : m.Owned) (ho : o < m.objects.length) (part : Text) :
    Grows m (m.append o part) o [part] := by
  obtain ⟨address, haddress, hlt⟩ := h.exists_address ho
  have happend : m.append o part = { m with lists := m.lists.modify address (· ++ [part]) } := by
    rw [append, haddress]
  rw [happend]
  refine ⟨rfl, rfl, List.length_modify .., ?_, ?_⟩
  · rw [parts_of_address haddress, parts, show Memory.objects _ = m.objects from rfl, haddress,
      Option.bind_some, List.getElem?_modify, List.getElem?_eq_getElem hlt]
    simp
  · intro o' hne
    refine parts_congr (by rfl) fun address' haddress' => ?_
    -- no two objects have the same list
    have hother : address ≠ address' := by
      rintro rfl
      have hsame : m.objects[o]? = m.objects[o']? := by rw [haddress, haddress']
      exact hne ((List.getElem?_inj ho h.nodup).1 hsame).symm
    exact List.getElem?_modify_ne _ _ hother

/-- **Reading changes one object**, which gets the parts of the row, or some of them if it fails. -/
theorem replay_grows (policy : QuotePolicy) (row : Token.Row) (h : m.Owned)
    (ho : o < m.objects.length) :
    ∃ ps, Grows m (m.replay policy o row).1 o ps ∧
      ((Filter.partsOf policy row = .ok ps ∧ (m.replay policy o row).2 = .ok ()) ∨
        ∃ fault, Filter.partsOf policy row = .error fault ∧
          (m.replay policy o row).2 = .error fault) := by
  fun_induction replay m policy o row with
  | case1 m row fault hnext =>
    exact ⟨[], Grows.refl m o, Or.inr ⟨fault, Filter.partsOf_of_error hnext, rfl⟩⟩
  | case2 m row hnext => exact ⟨[], Grows.refl m o, Or.inl ⟨Filter.partsOf_of_none hnext, rfl⟩⟩
  | case3 m row part row' hnext ih =>
    have hgrow := append_grows h ho part
    obtain ⟨ps, hgrows, houtcome⟩ := ih (hgrow.owned h) (by rw [hgrow.objects]; exact ho)
    refine ⟨part :: ps, hgrow.trans hgrows, ?_⟩
    rw [Filter.partsOf_of_some hnext]
    rcases houtcome with ⟨hparts, hok⟩ | ⟨fault, hfault, herror⟩
    · exact Or.inl ⟨by rw [hparts]; rfl, hok⟩
    · exact Or.inr ⟨fault, by rw [hfault]; rfl, herror⟩

end Memory

end QueryFilter
