/-
  LAMBDAS TAKEN APART — which condition a scanned lambda puts on its elements.

  1. **The body** — one condition is either one call, or a bare word, a comparison and a value
     (`condition?_eq_some_iff`).  Which of the two it is, and what it says, does not depend on where
     the lambda stands.
  2. **Reading** — the operator of any lambda that can be taken apart is a relation
     (`exists_relation_of_ofToken`): the tokens of the body come from a scan, so that a call has the
     name of a predicate.
-/
import QueryFilter.Clause.Basic
import QueryFilter.Proofs.Token.Call
import QueryFilter.Token.Lambda

namespace QueryFilter

open Token

/-! ## Texts of conditions -/

namespace Clause

theorem relationText_compare_append (op : Comparison) (field v r : Text) :
    relationText (.compare op) field v ++ r = field ++ ' ' :: (op.name ++ ' ' :: (v ++ r)) := by
  simp [relationText]

theorem relationText_call (op : Predicate) (field v : Text) :
    relationText (.call op) field v =
      op.name ++ '(' :: ((field ++ (", ".toList ++ v)) ++ [')']) := by
  simp [relationText]

theorem relationText_call_append (op : Predicate) (field v r : Text) :
    relationText (.call op) field v ++ r =
      op.name ++ '(' :: ((field ++ (", ".toList ++ v)) ++ ')' :: r) := by
  simp [relationText]

end Clause

namespace Lambda

/-! ## The body -/

/-- **One condition is one call, or a comparison.** -/
theorem condition?_eq_some_iff {index : Int} {body : List Token} {subject operator value : Text} :
    condition? index body = .ok (some (subject, operator, value)) ↔
      (∃ t, body = [t] ∧ t.kind = .call ∧ Call.ofToken index t = .ok ⟨operator, subject, value⟩) ∨
      (∃ s o v, body = [s, o, v] ∧ s.kind = .bare ∧ o.kind = .comparison ∧ v.kind.isValue = true ∧
        s.text = subject ∧ o.text = operator ∧ v.text = value) := by
  constructor
  · intro h
    unfold condition? at h
    split at h
    · rename_i t
      split at h
      · rename_i hcall
        obtain ⟨call, hof, heq⟩ := map_eq_ok_iff.1 h
        cases heq
        exact Or.inl ⟨t, rfl, hcall, hof⟩
      · cases h
    · rename_i s o v
      split at h
      · rename_i hkinds
        cases h
        exact Or.inr ⟨s, o, v, rfl, hkinds.1, hkinds.2.1, hkinds.2.2, rfl, rfl, rfl⟩
      · cases h
    · cases h
  · rintro (⟨t, rfl, hkind, hof⟩ | ⟨s, o, v, rfl, hs, ho, hv, rfl, rfl, rfl⟩)
    · show (if t.kind = .call then _ else _) = _
      rw [if_pos hkind, hof]
      rfl
    · show (if s.kind = .bare ∧ o.kind = .comparison ∧ v.kind.isValue = true then _ else _) = _
      rw [if_pos ⟨hs, ho, hv⟩]

/-- Only a call can fail to be a condition. -/
theorem condition?_eq_error_iff {index : Int} {body : List Token} {e : ReadFault} :
    condition? index body = .error e ↔
      ∃ call, body = [call] ∧ call.kind = .call ∧ Call.ofToken index call = .error e := by
  constructor
  · intro h
    unfold condition? at h
    split at h
    · rename_i t
      split at h
      · rename_i hcall
        exact ⟨t, rfl, hcall, map_eq_error_iff.1 h⟩
      · cases h
    · split at h <;> cases h
    · cases h
  · rintro ⟨call, rfl, hkind, hof⟩
    show (if call.kind = .call then _ else _) = _
    rw [if_pos hkind, hof]
    rfl

/-- Taking off parentheses leaves tokens of the body. -/
theorem mem_of_mem_unwrap {body : List Token} {t : Token} (h : t ∈ unwrap body) : t ∈ body := by
  unfold unwrap at h
  split at h
  · split at h
    · exact List.mem_cons_of_mem _ ((List.dropLast_sublist _).subset h)
    · exact h
  · exact h

/-- Tokens in parentheses are taken out of them. -/
theorem piece_unwrap {body : List Token} {a b : Text} {ps : List (Kind × Text)}
    (h : body.map piece = (.opening, a) :: (ps ++ [(.closing, b)])) :
    (unwrap body).map piece = ps := by
  cases body with
  | nil => cases h
  | cons first rest =>
    rw [List.map_cons, List.cons.injEq] at h
    obtain ⟨hfirst, hrest⟩ := h
    have hkind : first.kind = .opening := congrArg Prod.fst hfirst
    have hlast : rest.getLast?.map Token.kind = some .closing := by
      have hpiece := congrArg List.getLast? hrest
      rw [List.getLast?_map, List.getLast?_concat] at hpiece
      obtain ⟨t, ht, hclosing⟩ := Option.map_eq_some_iff.1 hpiece
      rw [ht]
      exact congrArg (some ·.1) hclosing
    show (if first.kind = .opening ∧ rest.getLast?.map Token.kind = some .closing then rest.dropLast
      else first :: rest).map piece = ps
    rw [if_pos ⟨hkind, hlast⟩, List.map_dropLast, hrest, List.dropLast_concat]

/-! ## Reading a lambda -/

/-- Trimming the start cuts blanks off. -/
theorem exists_blanks_trimStart (s : Text) :
    ∃ a, (∀ c ∈ a, Text.isBlank c = true) ∧ s = a ++ Text.trimStart s :=
  ⟨s.takeWhile Text.isBlank, fun _ hc => List.mem_takeWhile_imp hc,
    List.takeWhile_append_dropWhile.symm⟩

/-- Trimming the end cuts something off. -/
theorem exists_append_trimEnd (s : Text) : ∃ b, s = Text.trimEnd s ++ b := by
  refine ⟨(s.reverse.takeWhile Text.isBlank).reverse, ?_⟩
  rw [Text.trimEnd, ← List.reverse_append, List.takeWhile_append_dropWhile, List.reverse_reverse]

/-- The inside of a text lies behind a parenthesis, or is the whole. -/
theorem exists_append_inside (s : Text) :
    ∃ a b, (∀ c ∈ a, c = '(') ∧ s = a ++ (inside s ++ b) := by
  unfold inside
  split
  · rename_i rest
    refine ⟨['('], rest.getLast?.toList, by simp, ?_⟩
    cases hrest : rest.getLast? with
    | none => simp [List.getLast?_eq_none_iff.1 hrest]
    | some d =>
      obtain ⟨u, rfl⟩ := List.getLast?_eq_some_iff.1 hrest
      simp
  · exact ⟨[], [], by simp, by simp⟩

/-- A text behind blanks and parentheses, and split at the colon of a lambda. -/
structure Head.Splits (head : Head) (text front gap gap' back : Text) : Prop where
  text_eq : text = front ++ (head.field ++ (anySuffix ++ '(' :: (gap ++ (head.binder ++
    (gap' ++ ':' :: (head.body ++ back))))))
  front : ∀ c ∈ front, Text.isBlank c = true ∨ c = '('
  gap : ∀ c ∈ gap, Text.isBlank c = true
  gap' : ∀ c ∈ gap', Text.isBlank c = true
  field_ne_nil : head.field ≠ []
  field : ∀ c ∈ head.field, inWord c = true
  binder_ne_nil : head.binder ≠ []
  binder : ∀ c ∈ head.binder, Text.isNameChar c = true

/-- **The head of a lambda**: its field is a word, its variable a name, and its body a stretch of
    the text behind the colon. -/
theorem exists_splits_of_ofText? {text : Text} {head : Head} (h : Head.ofText? text = some head) :
    ∃ front gap gap' back, head.Splits text front gap gap' back := by
  obtain ⟨a, b, ha, -, htext⟩ := Text.exists_blanks_strip text
  obtain ⟨p, q, hp, hinside⟩ := exists_append_inside text.strip
  obtain ⟨g, hg, htrim⟩ := exists_blanks_trimStart (inside text.strip)
  unfold Head.ofText? at h
  simp only at h
  split at h
  · rename_i field rest hfield hafter
    obtain ⟨hne, hword⟩ := collection?_eq_some_iff.1 hfield
    have hsplit := word_append (Text.trimStart (inside text.strip))
    rw [hword, hafter] at hsplit
    have hfieldWord : ∀ c ∈ field, inWord c = true := by
      intro c hc
      have hmem : c ∈ word (Text.trimStart (inside text.strip)) := by
        rw [hword]
        exact List.mem_append_left _ hc
      exact List.mem_takeWhile_imp hmem
    split at h
    · rename_i rest' hcolon
      split at h
      · cases h
      · rename_i hbinder
        obtain ⟨body, hbody, rfl⟩ := Option.map_eq_some_iff.1 h
        obtain ⟨gap, hgap, hrest⟩ := exists_blanks_trimStart rest
        obtain ⟨gap', hgap', hbehind⟩ :=
          exists_blanks_trimStart ((Text.trimStart rest).dropWhile Text.isNameChar)
        obtain ⟨z, hend⟩ := exists_append_trimEnd rest'
        rw [Text.dropLast?_eq_some_iff.1 hbody] at hend
        have hname : Text.trimStart rest = (Text.trimStart rest).takeWhile Text.isNameChar ++
            (gap' ++ ':' :: rest') := by
          rw [← hcolon, ← hbehind, List.takeWhile_append_dropWhile]
        have hnames : ∀ c ∈ (Text.trimStart rest).takeWhile Text.isNameChar,
            Text.isNameChar c = true :=
          fun _ hc => List.mem_takeWhile_imp hc
        generalize (Text.trimStart rest).takeWhile Text.isNameChar = binder
          at hbinder hname hnames ⊢
        refine ⟨a ++ (p ++ g), gap, gap', ')' :: (z ++ (q ++ b)), ?_, ?_, hgap, hgap', hne,
          hfieldWord, hbinder, hnames⟩
        · calc text
              = a ++ ((p ++ ((g ++ ((field ++ anySuffix) ++ '(' :: (gap ++ Text.trimStart rest))) ++
                  q)) ++ b) := by rw [← hrest, hsplit, ← htrim, ← hinside, ← htext]
            _ = _ := by
              rw [hname, hend]
              simp
        · intro c hc
          rcases List.mem_append.1 hc with hc | hc
          · exact Or.inl (ha c hc)
          · rcases List.mem_append.1 hc with hc | hc
            · exact Or.inr (hp c hc)
            · exact Or.inl (hg c hc)
    · cases h
  · cases h

/-- The parts of a lambda, seen alone. -/
theorem head_of_ofText? {text : Text} {head : Head} (h : Head.ofText? text = some head) :
    head.field ≠ [] ∧ (∀ c ∈ head.field, inWord c = true) ∧
      (∀ c ∈ head.binder, Text.isNameChar c = true) ∧ head.body.Sublist text := by
  obtain ⟨front, gap, gap', back, hsplits⟩ := exists_splits_of_ofText? h
  refine ⟨hsplits.field_ne_nil, hsplits.field, hsplits.binder, ?_⟩
  have htext : text = (front ++ (head.field ++ (anySuffix ++ '(' :: (gap ++ (head.binder ++
      (gap' ++ [':'])))))) ++ (head.body ++ back) := by
    rw [hsplits.text_eq]
    simp
  rw [htext]
  exact (List.sublist_append_left _ _).trans (List.sublist_append_right _ _)

/-- A lambda is a head and one condition on its variable. -/
theorem ofToken_eq_ok_iff {policy : QuotePolicy} {index : Int} {t : Token} {l : Lambda} :
    ofToken policy index t = .ok l ↔
      ∃ head, Head.ofText? t.text = some head ∧ l.field = head.field ∧ l.binder = head.binder ∧
        condition? index (unwrap (tokenize policy head.body)) =
          .ok (some (head.binder, l.operator, l.value)) := by
  unfold ofToken
  constructor
  · intro h
    split at h
    · cases h
    · rename_i head hhead
      cases hcond : condition? index (unwrap (tokenize policy head.body)) with
      | error e =>
        rw [hcond] at h
        cases h
      | ok found =>
        rw [hcond] at h
        cases found with
        | none => cases h
        | some parts =>
          obtain ⟨subject, operator, value⟩ := parts
          change (if subject = head.binder then _ else _) = _ at h
          split at h
          · rename_i hsubject
            cases h
            exact ⟨head, hhead, rfl, rfl, by rw [hcond, hsubject]⟩
          · cases h
  · rintro ⟨head, hhead, hfield, hbinder, hcond⟩
    rw [hhead]
    simp only [hcond]
    show (if head.binder = head.binder then _ else _) = _
    rw [if_pos rfl, ← hfield, ← hbinder]

/-- The call makes up the body of the lambda, in parentheses or not. -/
def BodyCall (policy : QuotePolicy) (t call : Token) : Prop :=
  ∃ head, Head.ofText? t.text = some head ∧ unwrap (tokenize policy head.body) = [call] ∧
    call.kind = .call

/-- The body of a lambda is scanned, and so is its call. -/
theorem BodyCall.shaped {policy : QuotePolicy} {t call : Token} (h : BodyCall policy t call) :
    Shaped .call call.text := by
  obtain ⟨head, -, hbody, hkind⟩ := h
  have hmem : call ∈ unwrap (tokenize policy head.body) := by
    rw [hbody]
    exact List.mem_singleton_self call
  have hshaped := shaped_of_mem (mem_of_mem_unwrap hmem)
  rwa [hkind] at hshaped

/-- **A lambda that cannot be taken apart is to blame itself**, unless it is the call in its body
    that cannot be taken apart. -/
theorem fault_of_ofToken {policy : QuotePolicy} {index : Int} {t : Token} {e : ReadFault}
    (h : ofToken policy index t = .error e) :
    (e.index = index ∧ e.culprit = some t ∧
      (e.cause = .malformedLambda ∨ e.cause = .notOneCondition ∨
        ∃ binder subject, e.cause = .otherSubject binder subject)) ∨
    ∃ call, BodyCall policy t call ∧ Call.ofToken index call = .error e := by
  unfold ofToken at h
  split at h
  · cases h
    exact Or.inl ⟨rfl, rfl, Or.inl rfl⟩
  · rename_i head hhead
    cases hcond : condition? index (unwrap (tokenize policy head.body)) with
    | error e' =>
      rw [hcond] at h
      cases h
      obtain ⟨call, hbody, hkind, hof⟩ := condition?_eq_error_iff.1 hcond
      exact Or.inr ⟨call, ⟨head, hhead, hbody, hkind⟩, hof⟩
    | ok found =>
      rw [hcond] at h
      cases found with
      | none =>
        cases h
        exact Or.inl ⟨rfl, rfl, Or.inr (Or.inl rfl)⟩
      | some parts =>
        change (if parts.1 = head.binder then _ else _) = _ at h
        split at h
        · cases h
        · cases h
          exact Or.inl ⟨rfl, rfl, Or.inr (Or.inr ⟨_, _, rfl⟩)⟩

theorem index_of_ofToken {policy : QuotePolicy} {index : Int} {t : Token} {e : ReadFault}
    (h : ofToken policy index t = .error e) : e.index = index := by
  rcases fault_of_ofToken h with ⟨hindex, -⟩ | ⟨call, -, hof⟩
  · exact hindex
  · exact (Call.fault_of_ofToken hof).1

/-- Where a lambda stands does not matter for what it is. -/
theorem ofToken_any_index {policy : QuotePolicy} {index : Int} {t : Token} {l : Lambda}
    (index' : Int) (h : ofToken policy index t = .ok l) : ofToken policy index' t = .ok l := by
  obtain ⟨head, hhead, hfield, hbinder, hcond⟩ := ofToken_eq_ok_iff.1 h
  refine ofToken_eq_ok_iff.2 ⟨head, hhead, hfield, hbinder, condition?_eq_some_iff.2 ?_⟩
  rcases condition?_eq_some_iff.1 hcond with ⟨t, hbody, hkind, hof⟩ | hcomparison
  · exact Or.inl ⟨t, hbody, hkind, Call.ofToken_eq_ok_iff.2 (Call.ofToken_eq_ok_iff.1 hof)⟩
  · exact Or.inr hcomparison

/-- The condition on the elements of a lambda, read from its body alone. -/
theorem exists_condition_of_ofToken {policy : QuotePolicy} {index : Int} {t : Token} {l : Lambda}
    (h : ofToken policy index t = .ok l) :
    ∃ head, Head.ofText? t.text = some head ∧ l.field = head.field ∧
      ((∃ call ∈ tokenize policy head.body, call.kind = .call ∧
          Call.ofToken index call = .ok ⟨l.operator, head.binder, l.value⟩) ∨
        (∃ o ∈ tokenize policy head.body, ∃ v ∈ tokenize policy head.body,
          o.kind = .comparison ∧ v.kind.isValue = true ∧ o.text = l.operator ∧
          v.text = l.value)) := by
  obtain ⟨head, hhead, hfield, -, hcond⟩ := ofToken_eq_ok_iff.1 h
  refine ⟨head, hhead, hfield, ?_⟩
  have hmem : ∀ t ∈ unwrap (tokenize policy head.body), t ∈ tokenize policy head.body :=
    fun t ht => mem_of_mem_unwrap ht
  rcases condition?_eq_some_iff.1 hcond with
    ⟨t, hbody, hkind, hof⟩ | ⟨s, o, v, hbody, -, ho, hv, -, hot, hvt⟩
  · rw [hbody] at hmem
    exact Or.inl ⟨t, hmem t (by simp), hkind, hof⟩
  · rw [hbody] at hmem
    exact Or.inr ⟨o, hmem o (by simp), v, hmem v (by simp), ho, hv, hot, hvt⟩

/-- **The operator of a lambda is the name of a relation.** -/
theorem exists_relation_of_ofToken {policy : QuotePolicy} {index : Int} {t : Token} {l : Lambda}
    (h : ofToken policy index t = .ok l) : ∃ r : Relation, l.operator = r.name := by
  obtain ⟨head, -, -, hcond⟩ := exists_condition_of_ofToken h
  rcases hcond with ⟨call, hmem, hkind, hof⟩ | ⟨o, hmem, -, -, hkind, -, htext, -⟩
  · have hshaped := shaped_of_mem hmem
    rw [hkind] at hshaped
    obtain ⟨op, -, hname, -⟩ := Call.ofToken_of_shaped hshaped hof
    exact ⟨.call op, hname⟩
  · have hshaped := shaped_of_mem hmem
    rw [hkind] at hshaped
    obtain ⟨op, hname⟩ := ofWord_eq_comparison hshaped.2.2
    exact ⟨.compare op, by rw [← htext, hname]; rfl⟩

end Lambda

end QueryFilter
