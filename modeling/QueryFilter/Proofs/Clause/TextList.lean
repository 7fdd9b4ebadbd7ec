/-
  LISTS OF TEXTS — when the content of a text changes the structure of a membership.

  1. **Specification** — `OpensLambda values`: the first text holds `/any(` behind word
     characters, and the rest of the list, quoted as it is, closes that parenthesis and
     then the one of the list.
  2. **Safe lists** — every other list is scanned as its field, `in`, and one literal for each text
     with commas between them in parentheses, and is read as the one clause that it was.
  3. **Opened lambdas** — in a list of the first sort the scan takes the parenthesis of the list and
     what follows for a lambda in parentheses, and reading stops there for want of a list.

  Both together: `membership_texts`.
-/
import QueryFilter.Proofs.Filter.Replay
import QueryFilter.Proofs.Token.QuotedHead

namespace QueryFilter.Clause

open Token
open Literal (quote doubleQuotes)

/-! ## The two sorts of lists -/

/-- The text of a list of texts behind the first one, up to its closing parenthesis. -/
def behindFirst (rest : List Text) : Text := (rest.flatMap fun t => ", ".toList ++ quote t) ++ [')']

/-- The list of a membership of texts, in its parentheses. -/
def quotedList (values : List Text) : Text :=
  '(' :: (Text.joinWith ", ".toList (values.map quote) ++ [')'])

theorem membershipText_quote (field : Text) (values : List Text) :
    membershipText field (values.map quote) =
      field ++ ' ' :: ("in".toList ++ ' ' :: quotedList values) := by
  have happ := membershipText_append field (values.map quote) []
  rwa [List.append_nil] at happ

/-- The quoted list begins like a lambda in parentheses. -/
def OpensLambda : List Text → Prop
  | [] => False
  | v :: rest => ∃ u w body blanks r, v = u ++ ("/any(".toList ++ w) ∧ (∀ c ∈ u, inWord c = true) ∧
      Balanced body ∧ (∀ c ∈ blanks, Text.isBlank c = true) ∧
      doubleQuotes w ++ '\'' :: behindFirst rest = body ++ ')' :: (blanks ++ ')' :: r)

/-- The first text of a quoted list, and what stands behind it. -/
theorem joinWith_quote (v : Text) (rest : List Text) :
    Text.joinWith ", ".toList ((v :: rest).map quote) ++ [')'] = quote v ++ behindFirst rest := by
  rw [List.map_cons, joinWith_cons, List.append_assoc, List.flatMap_map]
  rfl

theorem operands_quote (values : List Text) : ∀ v ∈ values.map quote, Operand v := by
  intro v hv
  obtain ⟨s, -, rfl⟩ := List.mem_map.1 hv
  exact .quoted s

/-- **The parenthesis of a quoted list opens a lambda exactly if the list begins like one.** -/
theorem wrappedLambda?_quoted_iff (values : List Text) :
    (wrappedLambda? (quotedList values)).isSome = true ↔ OpensLambda values := by
  rw [quotedList, wrappedLambda?, dropWhile_list (operands_quote values)]
  cases values with
  | nil =>
    constructor
    · intro h
      cases h
    · intro h
      cases h
  | cons v rest =>
    have htail : ∀ c s, behindFirst rest = c :: s → inWord c = false ∧ c ≠ '(' := by
      intro c s h
      apply behind_first (rest.map quote) [] c s
      rw [List.flatMap_map]
      exact h
    rw [joinWith_quote]
    constructor
    · intro h
      obtain ⟨p, hp⟩ := Option.isSome_iff_exists.1 h
      obtain ⟨⟨t, r⟩, hlambda, hclose⟩ := Option.bind_eq_some_iff.1 hp
      obtain ⟨q, hq, -⟩ := after_eq_some_iff.1 (show _ = some (p.1, p.2) from hclose)
      obtain ⟨blanks, hblanks, rfl, rfl⟩ := closing?_eq_some_iff.1 hq
      obtain ⟨u, w, body, hv, hu, hbal, heq⟩ := (lambda?_quote_iff htail).1 ⟨t, hlambda⟩
      exact ⟨u, w, body, blanks, p.2, hv, hu, hbal, hblanks, by rw [heq]; simp⟩
    · rintro ⟨u, w, body, blanks, r, hv, hu, hbal, hblanks, heq⟩
      obtain ⟨t, hlambda⟩ := (lambda?_quote_iff htail).2 ⟨u, w, body, hv, hu, hbal, heq⟩
      have hclose : closing? (blanks ++ ')' :: r) = some (blanks ++ [')'], r) :=
        closing?_eq_some_iff.2 ⟨blanks, hblanks, rfl, by simp⟩
      rw [hlambda]
      show (after _ (closing? (blanks ++ ')' :: r))).isSome = true
      rw [hclose]
      rfl

/-! ## Safe lists -/

/-- The tokens of a list of texts: a literal for each, and commas between them. -/
def textPieces (values : List Text) : List (Kind × Text) :=
  (values.map fun v => (Kind.string, quote v)).intersperse (.comma, [','])

theorem listPieces_quote (values : List Text) :
    listPieces (values.map quote) = textPieces values := by
  rw [listPieces, textPieces, List.map_map]
  rfl

theorem canonical_quotes (values : List Text) : ∀ v ∈ values.map quote, Literal.Canonical v := by
  intro v hv
  obtain ⟨s, -, rfl⟩ := List.mem_map.1 hv
  exact Literal.canonical_quote s

/-- The text of a membership of texts. -/
theorem render_texts (field : Text) (values : List Text) :
    render (.membership field (.collection .list (values.map .ofText))) =
      .ok (membershipText field (values.map quote)) := by
  have hwrite : (values.map Argument.ofText).mapM Argument.write = .ok (values.map quote) := by
    induction values with
    | nil => rfl
    | cons v values ih =>
      rw [List.map_cons, List.mapM_cons, ih]
      rfl
  show ((values.map Argument.ofText).mapM Argument.write).map _ = _
  rw [hwrite]
  rfl

/-- A membership is read as the one clause that it was, if its parenthesis is a token of its own. -/
theorem tokenize_texts {field : Text} (hname : PlainName field) {values : List Text}
    (h : wrappedLambda? (quotedList values) = none) :
    (tokenize .doubled (membershipText field (values.map quote))).map piece =
      (.bare, field) :: (.isIn, "in".toList) :: (.opening, ['(']) ::
        (textPieces values ++ [(.closing, [')'])]) := by
  have hscan := scans_membership hname.toPlainWord hname.notKeyword (operands_quote values) h
  rw [List.append_nil, listPieces_quote] at hscan
  exact tokenize_of_scans hscan rfl

theorem ofText_texts {field : Text} (hname : PlainName field) {values : List Text}
    (h : wrappedLambda? (quotedList values) = none) :
    Filter.ofText .doubled (membershipText field (values.map quote)) =
      .ok ⟨[membershipText field (values.map quote)]⟩ := by
  have hrender : render (.membership field
      (.collection .list ((values.map quote).map (value .doubled)))) =
        .ok (membershipText field (values.map quote)) := by
    show (((values.map quote).map (value .doubled)).mapM Argument.write).map _ = _
    rw [mapM_write_value (canonical_quotes values)]
    rfl
  have hmeans := means_membership field (values.map quote)
  rw [listPieces_quote] at hmeans
  have hnone : Filter.Reading [] [] := ⟨by simp, rfl⟩
  have hreading := Filter.Reading.cons hmeans hrender hnone
  have htokens := tokenize_texts hname h
  exact Filter.ofTokens_eq_ok_iff.2 (Filter.exists_decomposes hreading (by rw [htokens]; simp))

/-! ## Opened lambdas -/

/-- A lambda in the place of a list stops the reading. -/
theorem ofTokens_lambda_for_list (policy : QuotePolicy) {f i l : Token} (rest : List Token)
    (hf : f.kind = .bare) (hi : i.kind = .isIn) (hl : l.kind = .lambda) :
    Filter.ofTokens policy (f :: i :: l :: rest) =
      .error (.reading ⟨.expectedList f.text, 2, some l⟩) := by
  have hread : read policy ⟨0, f :: i :: l :: rest⟩ = .error ⟨.expectedList f.text, 2, some l⟩ := by
    simp [read, hf, readCondition, hi, readMembership, hl, Except.map]
  have hnext : Filter.next policy ⟨0, f :: i :: l :: rest⟩ =
      .error (.reading ⟨.expectedList f.text, 2, some l⟩) := by
    rw [Filter.next, hread]
  rw [Filter.ofTokens, Filter.partsOf_of_error hnext]
  rfl

/-- A list that begins like a lambda is taken for one. -/
theorem exists_lambda_for_list {field : Text} (hname : PlainName field) {values : List Text}
    {t r : Text} (h : wrappedLambda? (quotedList values) = some (t, r)) :
    ∃ f i l rest, tokenize .doubled (membershipText field (values.map quote)) =
      f :: i :: l :: rest ∧
      piece f = (.bare, field) ∧ piece i = (.isIn, "in".toList) ∧ l.kind = .lambda := by
  have hlambda : Scans .doubled (quotedList values) [(.lambda, t)] r := by
    rw [quotedList] at h ⊢
    apply Scans.single (by decide)
    rw [lexeme, h]
  have hscan := (scans_membership_head hname.toPlainWord hname.notKeyword _).trans
    (hlambda.blank (c := ' ') (by decide))
  rw [← membershipText_quote] at hscan
  obtain ⟨rest, htokens⟩ := exists_tokens_of_scans hscan
  obtain ⟨f, ts₁, h₁, hf, htf, hts₁⟩ := exists_of_map_piece htokens
  obtain ⟨i, ts₂, rfl, hi, hti, hts₂⟩ := exists_of_map_piece hts₁
  obtain ⟨l, ts₃, rfl, hl, -, -⟩ := exists_of_map_piece hts₂
  exact ⟨f, i, l, ts₃, h₁, Prod.ext hf htf, Prod.ext hi hti, hl⟩

/-! ## Both sorts together -/

/-- **The content of texts changes the structure of a membership exactly if the list opens a
    lambda.**  A safe list is its field, `in`, and one literal for each text, and is read as the one
    clause that it was; a list that opens a lambda cannot be read. -/
theorem membership_texts {field : Text} (hname : PlainName field) (values : List Text) :
    render (.membership field (.collection .list (values.map .ofText))) =
        .ok (membershipText field (values.map quote)) ∧
    (¬ OpensLambda values →
      (tokenize .doubled (membershipText field (values.map quote))).map piece =
        (.bare, field) :: (.isIn, "in".toList) :: (.opening, ['(']) ::
          (textPieces values ++ [(.closing, [')'])]) ∧
      Filter.ofText .doubled (membershipText field (values.map quote)) =
        .ok ⟨[membershipText field (values.map quote)]⟩) ∧
    (OpensLambda values →
      ∃ l, (tokenize .doubled (membershipText field (values.map quote)))[2]? = some l ∧
        l.kind = .lambda ∧
        Filter.ofText .doubled (membershipText field (values.map quote)) =
          .error (.reading ⟨.expectedList field, 2, some l⟩)) := by
  refine ⟨render_texts field values, ?_, ?_⟩
  · intro hsafe
    have hwrapped : wrappedLambda? (quotedList values) = none := by
      rw [← Option.not_isSome_iff_eq_none, wrappedLambda?_quoted_iff]
      exact hsafe
    exact ⟨tokenize_texts hname hwrapped, ofText_texts hname hwrapped⟩
  · intro hopens
    obtain ⟨p, hp⟩ := Option.isSome_iff_exists.1 ((wrappedLambda?_quoted_iff values).2 hopens)
    obtain ⟨f, i, l, rest, htokens, hf, hi, hl⟩ :=
      exists_lambda_for_list hname (t := p.1) (r := p.2) hp
    refine ⟨l, by rw [htokens]; rfl, hl, ?_⟩
    have herror := ofTokens_lambda_for_list .doubled rest (congrArg Prod.fst hf)
      (congrArg Prod.fst hi) hl
    rw [show f.text = field from congrArg Prod.snd hf] at herror
    rw [Filter.ofText, htokens, herror]

/-- Commas, parentheses and quotes in texts change nothing, and nor does `/any(` in a later one. -/
theorem membership_texts_safe :
    PlainName "f".toList ∧ ¬ OpensLambda ["O'Neil), (".toList, "/any(1))".toList] ∧
    Filter.ofText .doubled "f in ('O''Neil), (', '/any(1))')".toList =
      .ok ⟨["f in ('O''Neil), (', '/any(1))')".toList]⟩ := by
  have hname : PlainName "f".toList := ⟨plainWord_of_all (by decide) (by decide), by decide⟩
  have hsafe : ¬ OpensLambda ["O'Neil), (".toList, "/any(1))".toList] := by
    rw [← wrappedLambda?_quoted_iff]
    decide +kernel
  exact ⟨hname, hsafe, ((membership_texts hname _).2.1 hsafe).2⟩

/-- A text with `/any(` can turn the list that it stands in into something else. -/
theorem not_membership_texts :
    ¬ ∀ (field : Text) (values : List Text), PlainName field →
      (tokenize .doubled (membershipText field (values.map quote))).map piece =
        (.bare, field) :: (.isIn, "in".toList) :: (.opening, ['(']) ::
          (textPieces values ++ [(.closing, [')'])]) ∧
      Filter.ofText .doubled (membershipText field (values.map quote)) =
        .ok ⟨[membershipText field (values.map quote)]⟩ := by
  intro h
  have hname : PlainName "f".toList := ⟨plainWord_of_all (by decide) (by decide), by decide⟩
  have htokens := (h "f".toList ["/any(1))".toList] hname).1
  revert htokens
  decide +kernel

end QueryFilter.Clause
