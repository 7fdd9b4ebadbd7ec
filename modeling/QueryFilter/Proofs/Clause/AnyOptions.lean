/-
  THE OPTIONS OF AN `any` CLAUSE — when the clause has a text, and which fault wins when it has
  none.

  1. **Specification** — options are `Proper` when they hold an operator that spells a
     name, a value, and nothing else.  Four things can be wrong at once, and `Blames` says
     which one counts: improper options before an operator that names no relation, and that
     before a value without a text.
  2. **The check** — it finds no problem exactly in proper options, and hands on the name and the
     value that they hold (`ofEntries_eq_ok_iff`).  A key occurs once in a mapping, so that what is
     found under it is what the mapping holds there (`lookup?_eq_some_iff`).
  3. **The name** — it finds a relation exactly if it is the word of one, and it can always be
     shown, so that an operator fault carries it (`renderCondition_of_unknown`).

  All together, for a mapping and for options that are checked already: `render_any_exact`.
-/
import Mathlib.Data.List.Nodup
import QueryFilter.Proofs.Clause.Item

namespace QueryFilter

/-! ## The specification -/

/-- The octets of a text in UTF-8. -/
def Text.utf8 (s : Text) : List UInt8 := (String.ofList s).toUTF8.data.toList

/-- The text of an operator name. -/
def OperatorName.text : OperatorName → Text
  | .member op => op.name
  | .named name => name

namespace AnyOptions

/-- The arguments that spell an operator name: an operator, a text, and octets that are the UTF-8
    form of a text.  Octets become an operator where they can. -/
inductive Spells : Argument → OperatorName → Prop
  | operator (op : Operator) : Spells (.operator op) (.member op)
  | text (name : Text) : Spells (.literal (.text name)) (.named name)
  | octetsOfOperator (growing : Bool) (op : Operator) :
      Spells (.octets growing op.name.utf8) (.member op)
  | octetsOfText (growing : Bool) (name : Text) (unknown : ∀ op : Operator, name ≠ op.name) :
      Spells (.octets growing name.utf8) (.named name)

/-- The keys of a mapping are texts, and none of them is there twice. -/
structure Keyed (entries : List (Argument × Argument)) : Prop where
  text : ∀ e ∈ entries, ∃ key, e.1.text? = some key
  once : (entries.map fun e => e.1.text?).Nodup

/-- The value that a mapping holds under a key. -/
def Under (entries : List (Argument × Argument)) (key : Text) (value : Argument) : Prop :=
  ∃ e ∈ entries, e.1.text? = some key ∧ e.2 = value

/-- **Options as they should be**: an operator that spells a name, a value, and no further key. -/
structure Proper (entries : List (Argument × Argument)) (name : OperatorName) (value : Argument) :
    Prop where
  operator : ∃ operator, Under entries operatorKey operator ∧ Spells operator name
  value : Under entries valueKey value
  only : ∀ e ∈ entries, e.1.text? = some operatorKey ∨ e.1.text? = some valueKey

/-- **The order of blame** for an `any` clause that has no text. -/
inductive Blames (readOnly : Bool) (entries : List (Argument × Argument)) : Fault → Prop
  /-- The keys or the sort of the operator, whatever else is wrong: the mapping is to blame. -/
  | options (improper : ∀ name value, ¬ Proper entries name value) :
      Blames readOnly entries
        (.argument (.badOptions (problems entries)) (.mapping readOnly entries))
  /-- A name that is no relation's, whether the value can be written or not. -/
  | operator {name : OperatorName} {value : Argument} (proper : Proper entries name value)
      (unknown : ∀ r : Relation, name.text ≠ r.name) :
      Blames readOnly entries (.operator (.ofOperatorName name))
  /-- A value that cannot be written. -/
  | value {name : OperatorName} {value : Argument} {r : Relation} {fault : Fault}
      (proper : Proper entries name value) (relation : name.text = r.name)
      (unwritable : value.write = .error fault) : Blames readOnly entries fault

end AnyOptions

/-! ## The check -/

namespace AnyOptions

/-- The UTF-8 form of a text is read as that text. -/
theorem fromUTF8?_utf8 (s : Text) : String.fromUTF8? ⟨s.utf8.toArray⟩ = some (String.ofList s) := by
  show String.fromUTF8? (String.ofList s).toByteArray = _
  rw [String.fromUTF8?, dif_pos (String.ofList s).isValidUTF8]
  rfl

/-- Octets from which a text is read are the UTF-8 form of that text. -/
theorem eq_utf8_of_fromUTF8? {bytes : List UInt8} {s : String}
    (h : String.fromUTF8? ⟨bytes.toArray⟩ = some s) : bytes = Text.utf8 s.toList := by
  rw [String.fromUTF8?] at h
  split at h
  · rw [Text.utf8, String.ofList_toList]
    cases h
    rfl
  · cases h

/-- **An argument is taken as the operator name that it spells.** -/
theorem operatorName_eq_ok_iff {a : Argument} {name : OperatorName} :
    operatorName a = .ok name ↔ Spells a name := by
  constructor
  · intro h
    unfold operatorName at h
    split at h
    · cases h
      exact .operator _
    · cases h
      exact .text _
    · rename_i growing bytes
      split at h
      · rename_i s hs
        rw [eq_utf8_of_fromUTF8? hs]
        cases h
        unfold spelledOperator
        split
        · rename_i op hop
          rw [Operator.ofName?_eq_some_iff.1 hop]
          exact .octetsOfOperator growing op
        · rename_i hnone
          refine .octetsOfText growing _ ?_
          intro op hname
          rw [Operator.ofName?_eq_some_iff.2 hname] at hnone
          cases hnone
      · cases h
    · cases h
  · intro h
    have hread : ∀ (growing : Bool) (s : Text),
        operatorName (.octets growing s.utf8) = .ok (spelledOperator s) := by
      intro growing s
      rw [operatorName, fromUTF8?_utf8]
      simp only [String.toList_ofList]
    cases h with
    | operator op => rfl
    | text name => rfl
    | octetsOfOperator growing op => rw [hread, spelledOperator, Operator.ofName?_name]
    | octetsOfText growing name unknown =>
      have hnone : Operator.ofName? name = none := by
        cases h : Operator.ofName? name with
        | none => rfl
        | some op => exact absurd (Operator.ofName?_eq_some_iff.1 h) (unknown op)
      rw [hread, spelledOperator, hnone]

/-- **What is found under a key is what the mapping holds there.** -/
theorem lookup?_eq_some_iff {entries : List (Argument × Argument)} (h : Keyed entries) {key : Text}
    {value : Argument} : lookup? key entries = some value ↔ Under entries key value := by
  have hfind : lookup? key entries = some value ↔
      ∃ e, entries.find? (fun e => e.1.text? = some key) = some e ∧ e.2 = value :=
    Option.map_eq_some_iff
  have hfound : ∀ {e}, entries.find? (fun e => e.1.text? = some key) = some e →
      e ∈ entries ∧ e.1.text? = some key :=
    fun h => ⟨List.mem_of_find?_eq_some h, by simpa using List.find?_some h⟩
  rw [hfind]
  constructor
  · rintro ⟨e, he, hvalue⟩
    exact ⟨e, (hfound he).1, (hfound he).2, hvalue⟩
  · rintro ⟨e, hmem, hkey, hvalue⟩
    obtain ⟨e', he'⟩ : ∃ e', entries.find? (fun e => e.1.text? = some key) = some e' := by
      rw [← Option.isSome_iff_exists, List.find?_isSome]
      exact ⟨e, hmem, decide_eq_true hkey⟩
    -- the entry that comes first is the only one with that key
    have hsame : e' = e := by
      refine List.inj_on_of_nodup_map h.once (hfound he').1 hmem ?_
      rw [hkey, (hfound he').2]
    exact ⟨e', he', hsame ▸ hvalue⟩

/-- A key belongs into options exactly if it is one of the two. -/
theorem keyProblem?_eq_none_iff {key : Argument} :
    keyProblem? key = none ↔ key.text? = some operatorKey ∨ key.text? = some valueKey := by
  unfold keyProblem?
  cases key.text? with
  | none => simp
  | some name => simp [or_iff_not_imp_left]

/-- The operator has no problem exactly if it spells a name. -/
theorem operatorProblem?_eq_none_iff {entries : List (Argument × Argument)} :
    operatorProblem? entries = none ↔
      ∃ a name, lookup? operatorKey entries = some a ∧ operatorName a = .ok name := by
  unfold operatorProblem?
  cases lookup? operatorKey entries with
  | none => simp
  | some a => cases h : operatorName a <;> simp [h]

/-- **Options are accepted exactly if they are proper**, with the name and the value that they
    hold. -/
theorem ofEntries_eq_ok_iff {entries : List (Argument × Argument)} (h : Keyed entries)
    {options : AnyOptions} :
    ofEntries entries = .ok options ↔ Proper entries options.operator options.value := by
  have hproblems : problems entries = [] ↔
      (∃ a name, lookup? operatorKey entries = some a ∧ operatorName a = .ok name) ∧
        (∃ value, lookup? valueKey entries = some value) ∧
        ∀ e ∈ entries, e.1.text? = some operatorKey ∨ e.1.text? = some valueKey := by
    rw [problems, List.append_eq_nil_iff, List.append_eq_nil_iff, List.filterMap_eq_nil_iff,
      and_assoc, Option.toList_eq_nil_iff, Option.toList_eq_nil_iff, operatorProblem?_eq_none_iff]
    refine and_congr Iff.rfl (and_congr ?_ (forall₂_congr fun e _ => keyProblem?_eq_none_iff))
    unfold valueProblem?
    cases lookup? valueKey entries <;> simp
  constructor
  · intro hok
    unfold ofEntries at hok
    split at hok
    · rename_i operator value hnone hoperator hvalue
      cases hok
      obtain ⟨a, ha, hname⟩ := Option.map_eq_some_iff.1 hoperator
      exact ⟨⟨a, (lookup?_eq_some_iff h).1 ha, operatorName_eq_ok_iff.1 hname⟩,
        (lookup?_eq_some_iff h).1 hvalue, (hproblems.1 hnone).2.2⟩
    · cases hok
  · rintro ⟨⟨a, hunder, hspells⟩, hvalue, honly⟩
    have ha := (lookup?_eq_some_iff h).2 hunder
    have hname := operatorName_eq_ok_iff.2 hspells
    have hv := (lookup?_eq_some_iff h).2 hvalue
    rw [ofEntries, hproblems.2 ⟨⟨a, _, ha, hname⟩, ⟨_, hv⟩, honly⟩, ha, hv, Option.map_some, hname]

/-- Options that are not accepted are refused with all their problems. -/
theorem ofEntries_eq_error {entries : List (Argument × Argument)}
    (h : ∀ options, ofEntries entries ≠ .ok options) :
    ofEntries entries = .error (problems entries) := by
  unfold ofEntries at h ⊢
  split
  · rename_i operator value hnone hoperator hvalue
    exact absurd (by rw [hnone, hoperator, hvalue]) (h ⟨operator, value⟩)
  · rfl

end AnyOptions

/-! ## The name -/

/-- **A name finds a relation exactly if it is the word of one.** -/
theorem OperatorName.relation?_eq_some_iff {name : OperatorName} {r : Relation} :
    (Argument.ofOperatorName name).relation? = some r ↔ name.text = r.name := by
  have hword : ∀ s : Text, (Operator.ofName? s).bind Operator.relation? = some r ↔ s = r.name := by
    intro s
    rw [Option.bind_eq_some_iff]
    constructor
    · rintro ⟨op, hop, hr⟩
      cases op with
      | test r' =>
        cases hr
        exact Operator.ofName?_eq_some_iff.1 hop
      | isIn => cases hr
      | any => cases hr
    · rintro rfl
      exact ⟨.test r, Operator.ofName?_name (.test r), rfl⟩
  cases name with
  | member op =>
    have hself := hword op.name
    rw [Operator.ofName?_name] at hself
    exact hself
  | named s => exact hword s

namespace Clause

open AnyOptions (Proper Keyed Blames)

/-- The word of a relation makes a condition with that relation. -/
theorem renderCondition_of_name {name : OperatorName} {r : Relation} (h : name.text = r.name)
    (field : Text) (value : Argument) :
    renderCondition (.ofOperatorName name) field value = render (.relation r field value) := by
  rw [renderCondition, OperatorName.relation?_eq_some_iff.2 h]
  rfl

/-- Any other word is to blame, whatever the value is: a name can always be shown. -/
theorem renderCondition_of_unknown {name : OperatorName} (h : ∀ r : Relation, name.text ≠ r.name)
    (field : Text) (value : Argument) :
    renderCondition (.ofOperatorName name) field value =
      .error (.operator (.ofOperatorName name)) := by
  have hnone : (Argument.ofOperatorName name).relation? = none := by
    cases hr : (Argument.ofOperatorName name).relation? with
    | none => rfl
    | some r => exact absurd (OperatorName.relation?_eq_some_iff.1 hr) (h r)
  rw [renderCondition, hnone]
  cases name <;> rfl

/-- The text of an `any` clause with proper options is built around the one of its condition. -/
theorem render_any_of_proper {entries : List (Argument × Argument)} {name : OperatorName}
    {value : Argument} (hkeyed : Keyed entries) (h : Proper entries name value) (readOnly : Bool)
    (field : Text) :
    render (.any field (.mapping readOnly entries)) =
      (renderCondition (.ofOperatorName name) binder value).map (anyText field) := by
  have hoptions : AnyOptions.ofEntries entries = .ok ⟨name, value⟩ :=
    (AnyOptions.ofEntries_eq_ok_iff hkeyed).2 h
  show renderAny field _ = _
  rw [renderAny, anyOptions, hoptions]
  show (renderCondition (.ofOperatorName name) binder value).bind _ = _
  cases renderCondition (.ofOperatorName name) binder value <;> rfl

/-- Improper options are to blame themselves. -/
theorem render_any_of_improper {entries : List (Argument × Argument)} (hkeyed : Keyed entries)
    (h : ∀ name value, ¬ Proper entries name value) (readOnly : Bool) (field : Text) :
    render (.any field (.mapping readOnly entries)) =
      .error (.argument (.badOptions (AnyOptions.problems entries))
        (.mapping readOnly entries)) := by
  have hrefused : AnyOptions.ofEntries entries = .error (AnyOptions.problems entries) :=
    AnyOptions.ofEntries_eq_error fun options hok =>
      h _ _ ((AnyOptions.ofEntries_eq_ok_iff hkeyed).1 hok)
  show renderAny field _ = _
  rw [renderAny, anyOptions, hrefused]
  rfl

/-- Checked options and the mapping that they come from have the same text, or the same fault. -/
theorem render_any_of_ofEntries {entries : List (Argument × Argument)} {options : AnyOptions}
    (h : AnyOptions.ofEntries entries = .ok options) (readOnly : Bool) (field : Text) :
    render (.any field (.options options.operator options.value)) =
      render (.any field (.mapping readOnly entries)) := by
  show renderAny field _ = renderAny field _
  rw [renderAny, renderAny, anyOptions, anyOptions, h]
  rfl

/-! ## All together -/

/-- **An `any` clause has a text exactly when it should, and blames in one order when it has
    none.**  For a mapping the text is there exactly if the options are proper, the name is a
    relation's, and the value can be written, and then it is built around the text of that
    relation; any fault is the one that `Blames` says; and options that are checked already give
    what their mapping gives. -/
theorem render_any_exact (field : Text) (readOnly : Bool) {entries : List (Argument × Argument)}
    (h : AnyOptions.Keyed entries) :
    (∀ text, render (.any field (.mapping readOnly entries)) = .ok text ↔
      ∃ name value r w c, AnyOptions.Proper entries name value ∧ name.text = Relation.name r ∧
        value.write = .ok w ∧ render (.relation r binder value) = .ok c ∧
        text = '(' :: (field ++ "/any(x:(".toList ++ c ++ ")))".toList)) ∧
    (∀ fault, render (.any field (.mapping readOnly entries)) = .error fault ↔
      Blames readOnly entries fault) ∧
    ∀ options, AnyOptions.ofEntries entries = .ok options →
      render (.any field (.options options.operator options.value)) =
        render (.any field (.mapping readOnly entries)) := by
  refine ⟨fun text => ⟨fun htext => ?_, ?_⟩, fun fault => ⟨fun hfault => ?_, fun hblames => ?_⟩,
    fun options hoptions => render_any_of_ofEntries hoptions readOnly field⟩
  · by_cases hproper : ∃ name value, Proper entries name value
    · obtain ⟨name, value, hproper⟩ := hproper
      rw [render_any_of_proper h hproper] at htext
      obtain ⟨c, hc, rfl⟩ := map_eq_ok_iff.1 htext
      by_cases hname : ∃ r : Relation, name.text = r.name
      · obtain ⟨r, hr⟩ := hname
        rw [renderCondition_of_name hr] at hc
        obtain ⟨w, hw, -⟩ := map_eq_ok_iff.1 hc
        exact ⟨name, value, r, w, c, hproper, hr, hw, hc, by simp [anyText, binder]⟩
      · rw [renderCondition_of_unknown fun r hr => hname ⟨r, hr⟩] at hc
        cases hc
    · rw [render_any_of_improper h fun name value hp => hproper ⟨name, value, hp⟩] at htext
      cases htext
  · rintro ⟨name, value, r, w, c, hproper, hr, -, hc, rfl⟩
    rw [render_any_of_proper h hproper, renderCondition_of_name hr, hc]
    simp [anyText, binder, Except.map]
  · by_cases hproper : ∃ name value, Proper entries name value
    · obtain ⟨name, value, hproper⟩ := hproper
      rw [render_any_of_proper h hproper, map_eq_error_iff] at hfault
      by_cases hname : ∃ r : Relation, name.text = r.name
      · obtain ⟨r, hr⟩ := hname
        rw [renderCondition_of_name hr] at hfault
        exact .value hproper hr (map_eq_error_iff.1 hfault)
      · have hunknown : ∀ r : Relation, name.text ≠ r.name := fun r hr => hname ⟨r, hr⟩
        rw [renderCondition_of_unknown hunknown] at hfault
        cases hfault
        exact .operator hproper hunknown
    · have himproper : ∀ name value, ¬ Proper entries name value :=
        fun name value hp => hproper ⟨name, value, hp⟩
      rw [render_any_of_improper h himproper] at hfault
      cases hfault
      exact .options himproper
  · cases hblames with
    | options improper => exact render_any_of_improper h improper readOnly field
    | operator proper unknown =>
      rw [render_any_of_proper h proper, renderCondition_of_unknown unknown]
      rfl
    | value proper relation unwritable =>
      rw [render_any_of_proper h proper, renderCondition_of_name relation]
      show ((Argument.write _).map _).map _ = _
      rw [unwritable]
      rfl

/-- Two faults at once: octets that spell `in`, and a value without a text. -/
def faultySample : List (Argument × Argument) :=
  [(.ofText AnyOptions.valueKey, .literal (.double .nan)),
    (.ofText AnyOptions.operatorKey, .octets true [0x69, 0x6E])]

theorem render_any_exact_faultySample :
    AnyOptions.Keyed faultySample ∧
      render (.any "t".toList (.mapping false faultySample)) = .error (.operator (.operator .isIn)) ∧
      AnyOptions.ofEntries faultySample = .ok ⟨.member .isIn, .literal (.double .nan)⟩ ∧
      render (.any "t".toList (.options (.member .isIn) (.literal (.double .nan)))) =
        render (.any "t".toList (.mapping false faultySample)) := by
  have hkeyed : AnyOptions.Keyed faultySample := by
    constructor
    · intro e he
      simp only [faultySample, List.mem_cons, List.not_mem_nil, or_false] at he
      rcases he with rfl | rfl
      · exact ⟨_, rfl⟩
      · exact ⟨_, rfl⟩
    · decide
  have hin : Text.utf8 Operator.isIn.name = [0x69, 0x6E] := by decide
  have hspells : AnyOptions.Spells (.octets true [0x69, 0x6E]) (.member .isIn) := by
    rw [← hin]
    exact .octetsOfOperator true .isIn
  have hproper : Proper faultySample (.member .isIn) (.literal (.double .nan)) :=
    { operator := ⟨_, ⟨_, List.mem_cons_of_mem _ (List.mem_cons_self ..), rfl, rfl⟩, hspells⟩
      value := ⟨_, List.mem_cons_self .., rfl, rfl⟩
      only := by decide }
  have hunknown : ∀ r : Relation, (OperatorName.member .isIn).text ≠ r.name := by
    intro r
    cases r with
    | compare op => cases op <;> decide
    | call op => cases op <;> decide
  have hoptions : AnyOptions.ofEntries faultySample =
      .ok ⟨.member .isIn, .literal (.double .nan)⟩ :=
    (AnyOptions.ofEntries_eq_ok_iff hkeyed).2 hproper
  obtain ⟨-, hfault, hsame⟩ := render_any_exact "t".toList false hkeyed
  exact ⟨hkeyed, (hfault _).2 (.operator hproper hunknown), hoptions, hsame _ hoptions⟩

end Clause

end QueryFilter
