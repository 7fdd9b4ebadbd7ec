/-
  SETTLED TEXTS — texts of clauses that are read as a clause with the very same text.

  1. **Specification** — `Settled part`: one constructor for each form that a part has once its
     fields and values are such that the scan cannot mistake them.
  2. **Tokens to clause** — for each form, the tokens with its pieces are an item, and the clause of
     the item has the text that the pieces came from (`Means`).
  3. **Text to tokens** — a settled part is scanned as its pieces, whatever part stands behind it
     (`exists_scans_settled`), and it heads no lambda with a parenthesis before it
     (`lambda?_settled`).
-/
import QueryFilter.Proofs.Clause.Item
import QueryFilter.Proofs.Token.Spelling

namespace QueryFilter.Clause

open Token

/-! ## The forms -/

/-- The text of a part that reading and writing leaves alone. -/
inductive Settled : Text → Prop
  | and : Settled "and".toList
  | or : Settled "or".toList
  | not : Settled "not".toList
  | opening : Settled ['(']
  | closing : Settled [')']
  | comparison {field v : Text} (op : Comparison) (plain : PlainWord field)
      (bare : Kind.ofWord field = .bare) (operand : Operand v) (canonical : Literal.Canonical v)
      (noCall : Predicate.ofName? v = none) : Settled (relationText (.compare op) field v)
  | call {field v : Text} (op : Predicate) (writable : Call.Writable field v)
      (canonical : Literal.Canonical v) : Settled (relationText (.call op) field v)
  | membership {field : Text} {vs : List Text} (plain : PlainWord field)
      (bare : Kind.ofWord field = .bare) (operands : ∀ v ∈ vs, Operand v)
      (canonical : ∀ v ∈ vs, Literal.Canonical v)
      (noLambda : ∀ r, lambda? (Text.joinWith ", ".toList vs ++ ')' :: r) = none) :
      Settled (membershipText field vs)
  | anyComparison {field v : Text} (op : Comparison) (ne_nil : field ≠ [])
      (inWord : ∀ c ∈ field, Token.inWord c = true) (operand : Operand v)
      (canonical : Literal.Canonical v) :
      Settled (anyText field (relationText (.compare op) binder v))
  | anyCall {field v : Text} (op : Predicate) (ne_nil : field ≠ [])
      (inWord : ∀ c ∈ field, Token.inWord c = true) (writable : Call.Writable binder v)
      (canonical : Literal.Canonical v) : Settled (anyText field (relationText (.call op) binder v))

/-! ## Tokens to clause -/

/-- All tokens with these pieces are an item with this clause. -/
def Means (pieces : List (Kind × Text)) (c : Clause) : Prop :=
  ∀ ts : List Token, ts.map piece = pieces → Item .doubled ts c

/-- A canonical text is what is written for the value that it stands for. -/
theorem write_value {v : Text} (h : Literal.Canonical v) : (value .doubled v).write = .ok v :=
  Argument.write_literal h

theorem mapM_write_value {vs : List Text} (h : ∀ v ∈ vs, Literal.Canonical v) :
    (vs.map (value .doubled)).mapM Argument.write = .ok vs := by
  induction vs with
  | nil => rfl
  | cons v vs ih =>
    rw [List.map_cons, List.mapM_cons, write_value (h v (List.mem_cons_self ..)),
      ih fun u hu => h u (List.mem_cons_of_mem _ hu)]
    rfl

theorem render_relation {name v : Text} {r : Relation} (hname : name = r.name)
    (h : Literal.Canonical v) (field : Text) :
    render (.condition (.ofText name) field (value .doubled v)) = .ok (relationText r field v) := by
  subst hname
  rw [render_condition r.relation?_name, write_value h]
  rfl

theorem render_any_relation (r : Relation) {v : Text} (h : Literal.Canonical v) (field : Text) :
    render (.any field (.options (.named r.name) (value .doubled v))) =
      .ok (anyText field (relationText r binder v)) := by
  rw [render_any, write_value h]
  rfl

/-- A single piece, with any property that its token then gives. -/
theorem means_single {k : Kind} {s : Text} {c : Clause}
    (h : ∀ t : Token, t.kind = k → t.text = s → Item .doubled [t] c) : Means [(k, s)] c := by
  intro ts hts
  obtain ⟨t, rest, rfl, hk, hs, hrest⟩ := exists_of_map_piece hts
  rw [List.map_eq_nil_iff.1 hrest]
  exact h t hk hs

theorem means_comparison (op : Comparison) (field v : Text) :
    Means [(.bare, field), (.comparison, op.name), (operandKind v, v)]
      (.condition (.ofText op.name) field (value .doubled v)) := by
  intro ts hts
  obtain ⟨f, ts₁, rfl, hf, rfl, h₁⟩ := exists_of_map_piece hts
  obtain ⟨o, ts₂, rfl, ho, hop, h₂⟩ := exists_of_map_piece h₁
  obtain ⟨w, ts₃, rfl, hw, rfl, h₃⟩ := exists_of_map_piece h₂
  rw [List.map_eq_nil_iff.1 h₃, ← hop]
  refine .comparison hf ho ?_ ?_
  · rw [hw]
    exact isValue_operandKind _
  · rw [hop, show op.name = (Relation.compare op).name from rfl, Relation.relation?_name]
    rfl

theorem means_call (op : Predicate) {field v : Text} (h : Call.Writable field v) :
    Means [(.call, relationText (.call op) field v)]
      (.condition (.ofText op.name) field (value .doubled v)) := by
  refine means_single fun t hk hs => ?_
  rw [relationText_call] at hs
  have hparts : ∀ index, Call.ofToken index t = .ok ⟨op.name, field, v⟩ :=
    fun index => Call.ofToken_written index op hs h
  refine .call hk hparts ?_
  show (Argument.ofText (Relation.call op).name).relation?.isSome = true
  rw [Relation.relation?_name]
  rfl

/-- Tokens with the pieces of a list hold its values. -/
theorem listed_of_listPieces {vs : List Text} {ts : List Token} (h : ts.map piece = listPieces vs) :
    (∀ t ∈ ts, InList t) ∧ listed .doubled ts = vs.map (value .doubled) := by
  induction vs generalizing ts with
  | nil =>
    rw [List.map_eq_nil_iff.1 h]
    exact ⟨by simp, rfl⟩
  | cons v vs ih =>
    obtain ⟨ps, hps⟩ : ∃ ps, listPieces (v :: vs) = (operandKind v, v) :: ps := by
      cases vs with
      | nil => exact ⟨_, rfl⟩
      | cons v' vs => exact ⟨_, rfl⟩
    obtain ⟨t, rest, rfl, hk, rfl, hrest⟩ := exists_of_map_piece (hps ▸ h)
    have hvalue : t.kind.isValue = true := by
      rw [hk]
      exact isValue_operandKind _
    -- behind the value there is nothing, or a comma and the rest of the list
    obtain ⟨hlist, hlisted⟩ : (∀ t' ∈ rest, InList t') ∧
        listed .doubled rest = vs.map (value .doubled) := by
      cases vs with
      | nil =>
        cases hps
        rw [List.map_eq_nil_iff.1 hrest]
        exact ⟨by simp, rfl⟩
      | cons v' vs =>
        cases hps
        obtain ⟨comma, rest, rfl, hcomma, -, hrest⟩ := exists_of_map_piece hrest
        obtain ⟨hlist, hlisted⟩ := ih hrest
        refine ⟨?_, by rw [listed_cons_of_comma hcomma, hlisted]⟩
        intro t' ht'
        rcases List.mem_cons.1 ht' with rfl | ht'
        · exact Or.inr hcomma
        · exact hlist t' ht'
    refine ⟨?_, by rw [listed_cons_of_value hvalue, hlisted, List.map_cons]⟩
    intro t' ht'
    rcases List.mem_cons.1 ht' with rfl | ht'
    · exact Or.inl hvalue
    · exact hlist t' ht'

theorem means_membership (field : Text) (vs : List Text) :
    Means ((.bare, field) :: (.isIn, "in".toList) :: (.opening, ['(']) ::
        (listPieces vs ++ [(.closing, [')'])]))
      (.membership field (.collection .list (vs.map (value .doubled)))) := by
  intro ts hts
  obtain ⟨f, ts₁, rfl, hf, rfl, h₁⟩ := exists_of_map_piece hts
  obtain ⟨i, ts₂, rfl, hi, -, h₂⟩ := exists_of_map_piece h₁
  obtain ⟨p, ts₃, rfl, hp, -, h₃⟩ := exists_of_map_piece h₂
  obtain ⟨elements, last, rfl, helements, hlast⟩ := List.map_eq_append_iff.1 h₃
  obtain ⟨c, rest, rfl, hc, -, hrest⟩ := exists_of_map_piece hlast
  obtain ⟨hlist, hlisted⟩ := listed_of_listPieces helements
  rw [List.map_eq_nil_iff.1 hrest, ← hlisted]
  exact .membership hf hi hp hlist hc

/-- Every spelling of a lambda is the `any` clause that it says. -/
theorem means_of_spelling {r : Relation} {text field x v : Text} (hne : field ≠ [])
    (hfield : ∀ c ∈ field, Token.inWord c = true) (hx : Lambda.VariableName x)
    (hv : Lambda.Admits r v) (h : Lambda.Spelling field x v r text) :
    Means [(.lambda, text)] (.any field (.options (.named r.name) (value .doubled v))) := by
  refine means_single fun t hk ht => .lambda (l := ⟨field, x, r.name, v⟩) hk fun index => ?_
  exact Lambda.ofToken_of_spelling index hne hfield hx hv (ht ▸ h)

/-! ## Text to tokens -/

/-- What can stand behind a part: nothing, a blank, or a closing parenthesis. -/
def PartEnds (r : Text) : Prop := r = [] ∨ (∃ s, r = ' ' :: s) ∨ ∃ s, r = ')' :: s

theorem PartEnds.ends {r : Text} (h : PartEnds r) : Ends r := by
  rcases h with rfl | ⟨s, rfl⟩ | ⟨s, rfl⟩
  · exact ends_nil
  · exact ends_cons (by decide) s
  · exact ends_cons (by decide) s

theorem PartEnds.not_opening {r : Text} (h : PartEnds r) : ∀ s, r ≠ '(' :: s := by
  intro s heq
  rcases h with rfl | ⟨t, rfl⟩ | ⟨t, rfl⟩ <;> cases heq

/-- A membership begins with its field and the word `in`. -/
theorem scans_membership_head {field : Text} (plain : PlainWord field)
    (bare : Kind.ofWord field = .bare) (list : Text) :
    Scans .doubled (field ++ ' ' :: ("in".toList ++ ' ' :: list))
      [(.bare, field), (.isIn, "in".toList)] (' ' :: list) := by
  have hspace := Text.allBlank_space
  have hin : PlainWord "in".toList := plainWord_of_all (by decide) (by decide)
  have hfield : Scans .doubled (field ++ ([' '] ++ ("in".toList ++ ' ' :: list))) [(.bare, field)]
      ([' '] ++ ("in".toList ++ ' ' :: list)) := by
    rw [← bare]
    exact scans_word_blanks plain hspace (List.cons_ne_nil _ _)
      (Or.inr (dropWhile_append_ne_opening hspace hin.ne_nil hin.inWord _))
  have hword : Scans .doubled ("in".toList ++ ([' '] ++ list)) [(.isIn, "in".toList)]
      ([' '] ++ list) :=
    scans_word_blanks hin hspace (List.cons_ne_nil _ _) (Or.inl (by decide))
  exact hfield.trans (hword.blanks hspace)

theorem membershipText_append (field : Text) (vs : List Text) (r : Text) :
    membershipText field vs ++ r =
      field ++ ' ' ::
        ("in".toList ++ ' ' :: '(' :: (Text.joinWith ", ".toList vs ++ ')' :: r)) := by
  simp [membershipText]

/-- A membership is its field, the word `in`, and its list in parentheses. -/
theorem scans_membership {field r : Text} {vs : List Text} (plain : PlainWord field)
    (bare : Kind.ofWord field = .bare) (operands : ∀ v ∈ vs, Operand v)
    (hwrapped : wrappedLambda? ('(' :: (Text.joinWith ", ".toList vs ++ ')' :: r)) = none) :
    Scans .doubled (membershipText field vs ++ r)
      ((.bare, field) :: (.isIn, "in".toList) :: (.opening, ['(']) ::
        (listPieces vs ++ [(.closing, [')'])])) r := by
  have hlist := (scans_opening hwrapped).trans ((scans_list (r := r) operands).trans scans_closing)
  rw [membershipText_append]
  exact (scans_membership_head plain bare _).trans (hlist.blank (by decide))

/-- An `any` clause is one token, and this token means it. -/
theorem exists_scans_any (r : Relation) {field v rest : Text} (hne : field ≠ [])
    (hfield : ∀ c ∈ field, Token.inWord c = true) (hv : Lambda.Admits r v)
    (hcanonical : Literal.Canonical v) :
    ∃ p ps c, Scans .doubled (anyText field (relationText r binder v) ++ rest) (p :: ps) rest ∧
      Means (p :: ps) c ∧ c.render = .ok (anyText field (relationText r binder v)) :=
  ⟨_, _, _, Lambda.scans_anyText hne hfield hv.balanced rest,
    means_of_spelling hne hfield Lambda.variableName_binder hv (Lambda.spelling_anyText r field v),
    render_any_relation r hcanonical field⟩

/-- The value of a call on the variable can stand in a condition. -/
theorem admits_of_writable (op : Predicate) {v : Text} (h : Call.Writable binder v) :
    Lambda.Admits (.call op) v := by
  refine ⟨h.value_stripped, h.value_ne_nil, ?_⟩
  have hseparator : ∀ c ∈ binder ++ ", ".toList, Neutral c := by simp [binder, Neutral]
  rw [← balanced_neutral_append hseparator, List.append_assoc]
  exact h.balanced

/-- A keyword that is a part by itself. -/
theorem scans_keyword {w r : Text} (hr : PartEnds r) (hw : PlainWord w)
    (hname : Predicate.ofName? w = none) : Scans .doubled (w ++ r) [(Kind.ofWord w, w)] r :=
  scans_word hw hr.ends hr.not_opening (Or.inl hname)

/-- The first character of a list of operands, or of the parenthesis behind it, is not blank. -/
theorem dropWhile_list {vs : List Text} (h : ∀ v ∈ vs, Operand v) (r : Text) :
    (Text.joinWith ", ".toList vs ++ ')' :: r).dropWhile Text.isBlank =
      Text.joinWith ", ".toList vs ++ ')' :: r := by
  have hoperand : ∀ v, Operand v → ∀ s c, (v ++ s).head? = some c → Text.isBlank c = false := by
    intro v hv s c hc
    cases hv with
    | quoted t =>
      cases hc
      decide
    | word plain bare => exact isBlank_head_of_word plain.ne_nil plain.inWord c hc
  apply dropWhile_of_head
  intro c hc
  cases vs with
  | nil =>
    cases hc
    decide
  | cons v vs =>
    rw [joinWith_cons, List.append_assoc] at hc
    exact hoperand v (h v (List.mem_cons_self ..)) _ c hc

/-- **A settled part is scanned as an item with its own text**, whatever part stands behind it.  An
    opening parenthesis alone depends on what follows. -/
theorem exists_scans_settled {part r : Text} (h : Settled part) (hne : part ≠ ['('])
    (hr : PartEnds r) :
    ∃ p ps c, Scans .doubled (part ++ r) (p :: ps) r ∧ Means (p :: ps) c ∧ c.render = .ok part := by
  cases h with
  | and =>
    exact ⟨_, _, .and, scans_keyword hr (plainWord_of_all (by decide) (by decide)) (by decide),
      means_single fun t hk _ => .and hk, rfl⟩
  | or =>
    exact ⟨_, _, .or, scans_keyword hr (plainWord_of_all (by decide) (by decide)) (by decide),
      means_single fun t hk _ => .or hk, rfl⟩
  | not =>
    exact ⟨_, _, .not, scans_keyword hr (plainWord_of_all (by decide) (by decide)) (by decide),
      means_single fun t hk _ => .not hk, rfl⟩
  | opening => exact absurd rfl hne
  | closing => exact ⟨_, _, .closing, scans_closing, means_single fun t hk _ => .closing hk, rfl⟩
  | @comparison field v op plain bare operand canonical noCall =>
    have hspace := Text.allBlank_space
    have hscan : Scans .doubled (relationText (.compare op) field v ++ r)
        [(.bare, field), (.comparison, op.name), (operandKind v, v)] r := by
      rw [relationText_compare_append]
      exact scans_comparison op ⟨plain, bare⟩ hspace (List.cons_ne_nil _ _) hspace
        (List.cons_ne_nil _ _) operand hr.ends hr.not_opening (Or.inl noCall)
    exact ⟨_, _, _, hscan, means_comparison op field v,
      render_relation (r := .compare op) rfl canonical field⟩
  | @call field v op writable canonical =>
    have hscan : Scans .doubled (relationText (.call op) field v ++ r)
        [(.call, relationText (.call op) field v)] r := by
      rw [relationText_call]
      exact scans_of_shaped_call ⟨op, [], _, Text.allBlank_nil, writable.balanced, rfl⟩ r
    exact ⟨_, _, _, hscan, means_call op writable,
      render_relation (r := .call op) rfl canonical field⟩
  | @membership field vs plain bare operands canonical noLambda =>
    have hlambda := noLambda r
    rw [← dropWhile_list operands r] at hlambda
    refine ⟨_, _, _, scans_membership plain bare operands (wrappedLambda?_eq_none hlambda),
      means_membership field vs, ?_⟩
    show ((vs.map (value .doubled)).mapM Argument.write).map _ = _
    rw [mapM_write_value canonical]
    rfl
  | @anyComparison field v op ne_nil inWord operand canonical =>
    exact exists_scans_any (.compare op) ne_nil inWord operand canonical
  | @anyCall field v op ne_nil inWord writable canonical =>
    exact exists_scans_any (.call op) ne_nil inWord (admits_of_writable op writable) canonical

/-! ## Behind an opening parenthesis -/

/-- **No settled part heads a lambda**, so that an opening parenthesis before it stays one. -/
theorem lambda?_settled {part r : Text} (h : Settled part) (hr : PartEnds r) :
    lambda? ((part ++ r).dropWhile Text.isBlank) = none := by
  -- a part starts with a word, possibly empty, that is no head of a lambda or has no group
  -- behind it
  have hword : ∀ {w s : Text}, w ≠ [] → (∀ c ∈ w, Token.inWord c = true) → Ends s →
      (collection? w = none ∨ ∀ t, s ≠ '(' :: t) →
      lambda? ((w ++ s).dropWhile Text.isBlank) = none := by
    intro w s hne hw hs hcases
    rw [dropWhile_word hne hw]
    exact lambda?_eq_none hw hs hcases
  have hparenthesis : ∀ {c : Char} {s : Text}, c = '(' ∨ c = ')' →
      lambda? ((c :: s).dropWhile Text.isBlank) = none := by
    rintro c s (rfl | rfl)
    · rw [List.dropWhile_cons_of_neg (by decide)]
      rfl
    · rw [List.dropWhile_cons_of_neg (by decide)]
      rfl
  have hblank : ∀ s t : Text, ' ' :: s ≠ '(' :: t := by
    intro s t heq
    cases heq
  have hkeyword : ∀ {w : Text}, PlainWord w → collection? w = none →
      lambda? ((w ++ r).dropWhile Text.isBlank) = none :=
    fun hw hcollection => hword hw.ne_nil hw.inWord hr.ends (Or.inl hcollection)
  cases h with
  | and => exact hkeyword (plainWord_of_all (by decide) (by decide)) (by decide)
  | or => exact hkeyword (plainWord_of_all (by decide) (by decide)) (by decide)
  | not => exact hkeyword (plainWord_of_all (by decide) (by decide)) (by decide)
  | opening => exact hparenthesis (Or.inl rfl)
  | closing => exact hparenthesis (Or.inr rfl)
  | @comparison field v op plain bare operand canonical noCall =>
    rw [relationText_compare_append]
    exact hword plain.ne_nil plain.inWord (ends_cons (by decide) _) (Or.inr (hblank _))
  | @call field v op writable canonical =>
    rw [relationText_call_append]
    exact hword (plainWord_predicate op).ne_nil (plainWord_predicate op).inWord
      (ends_cons (by decide) _) (Or.inl (collection?_predicate op))
  | @membership field vs plain bare operands canonical noLambda =>
    rw [membershipText_append]
    exact hword plain.ne_nil plain.inWord (ends_cons (by decide) _) (Or.inr (hblank _))
  | anyComparison => exact hparenthesis (c := '(') (Or.inl rfl)
  | anyCall => exact hparenthesis (c := '(') (Or.inl rfl)

end QueryFilter.Clause
