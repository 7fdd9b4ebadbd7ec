/-
  NORMAL FORM — reading a filter text and writing it again changes nothing the second time.

  1. **Specification** — the text has no quotes, and no comparison has the bare name of a predicate
     as its value (`NoCallOperand`): before a group that name would be read as a call.
  2. **Values** — without quotes a token is a word, or what stands behind the first comma of a call;
     its text is itself or a numeral, in either case without other parentheses than the token has
     (`rewritten_word`, `rewritten_call`).  So what was balanced stays balanced.
  3. **Clauses** — the text of every item of a scanned text is settled (`settled_of_item`), and so
     the filter is read back (`ofText_normal`).
-/
import QueryFilter.Proofs.Filter.Replay
import QueryFilter.Proofs.Token.QuotedHead

namespace QueryFilter

open Token

namespace Clause

/-! ## Values without quotes -/

/-- A text without quotes is not quoted. -/
theorem unquote?_of_quoteFree {t : Text} (h : QuoteFree t) : Literal.unquote? t = none := by
  cases t with
  | nil => rfl
  | cons c t =>
    obtain ⟨h₁, h₂⟩ := h c (List.mem_cons_self ..)
    exact Literal.unquote?_eq_none h₁ h₂

theorem filter_parenthesis_of_inWord {t : Text} (h : ∀ c ∈ t, inWord c = true) :
    t.filter isParenthesis = [] := by
  rw [List.filter_eq_nil_iff]
  intro c hc
  obtain ⟨-, h₁, h₂, -⟩ := inWord_iff.1 (h c hc)
  simp [isParenthesis, h₁, h₂]

theorem isBlank_of_isParenthesis {c : Char} (h : isParenthesis c = true) :
    Text.isBlank c = false := by
  simp only [isParenthesis, Bool.or_eq_true, beq_iff_eq] at h
  rcases h with rfl | rfl <;> decide

/-- **A bare word is rewritten to a bare word.**  Only a numeral changes, and that to a numeral. -/
theorem rewritten_word {v w : Text} (hv : PlainName v)
    (h : (Literal.read .doubled v).write = .ok w) :
    PlainName w ∧ Literal.Canonical w ∧
    (Predicate.ofName? v = none → Predicate.ofName? w = none) := by
  have hcanonical := Literal.canonical_of_write_read h
  rcases Literal.write_read_cases hv.toPlainWord.unquote? h with rfl | ⟨n, m, -, hm⟩
  · exact ⟨hv, hcanonical, id⟩
  · exact ⟨⟨plainWord_of_read? hm, ofWord_of_read? hm⟩, hcanonical,
      fun _ => predicate_ofName?_of_read? hm⟩

/-- **The value of a call is rewritten within its parentheses.**  The new text can stand in the
    place of the old one, and the arguments then have the same parentheses as before. -/
theorem rewritten_call {arguments field v w : Text} (hquotes : QuoteFree arguments)
    (hparts : Call.fieldAndValue? arguments = some (field, v))
    (h : (Literal.read .doubled v).write = .ok w) :
    w.Stripped ∧ w ≠ [] ∧ QuoteFree w ∧ Literal.Canonical w ∧
      field.filter isParenthesis ++ w.filter isParenthesis = arguments.filter isParenthesis := by
  obtain ⟨a, b, -, rfl, rfl, rfl, -, hne⟩ := Call.fieldAndValue?_cases hparts
  have hquotes' : QuoteFree (Text.strip b) :=
    hquotes.sublist ((Text.strip_sublist b).trans
      ((List.sublist_cons_self _ _).trans (List.sublist_append_right _ _)))
  have hparentheses : (Text.strip a).filter isParenthesis ++ (Text.strip b).filter isParenthesis =
      (a ++ ',' :: b).filter isParenthesis := by
    have hcomma : isParenthesis ',' = false := by decide
    rw [Text.filter_strip fun c => isBlank_of_isParenthesis,
      Text.filter_strip fun c => isBlank_of_isParenthesis, List.filter_append,
      List.filter_cons_of_neg (by simp [hcomma])]
  have hcanonical := Literal.canonical_of_write_read h
  rcases Literal.write_read_cases (unquote?_of_quoteFree hquotes') h with rfl | ⟨n, m, hn, hm⟩
  · exact ⟨Text.stripped_strip b, hne, hquotes', hcanonical, hparentheses⟩
  · have hw := plainWord_of_read? hm
    have hv := plainWord_of_read? hn
    rw [filter_parenthesis_of_inWord hv.inWord] at hparentheses
    refine ⟨hw.stripped, hw.ne_nil, hw.quoteFree, hcanonical, ?_⟩
    rw [filter_parenthesis_of_inWord hw.inWord]
    exact hparentheses

/-! ## Tokens of a text without quotes -/

variable {s : Text}

theorem quoteFree_of_mem (hs : QuoteFree s) {t : Token} (h : t ∈ tokenize .doubled s) :
    QuoteFree t.text :=
  hs.sublist (sublist_of_mem h)

/-- A bare token is a plain name. -/
theorem plainName_of_mem (hs : QuoteFree s) {t : Token} (h : t ∈ tokenize .doubled s)
    (hk : t.kind = .bare) : PlainName t.text := by
  have hshaped := shaped_of_mem h
  rw [hk] at hshaped
  exact ⟨⟨hshaped.1, hshaped.2.1, quoteFree_of_mem hs h⟩, hshaped.2.2⟩

/-- Without quotes, a value is a bare token. -/
theorem kind_of_isValue (hs : QuoteFree s) {t : Token} (h : t ∈ tokenize .doubled s)
    (hk : t.kind.isValue = true) : t.kind = .bare := by
  cases hkind : t.kind with
  | bare => rfl
  | string =>
    exfalso
    have hshaped := shaped_of_mem h
    rw [hkind] at hshaped
    obtain ⟨r, hr⟩ := hshaped
    have hquote := quoteFree_of_mem hs h
    rw [hr] at hquote
    exact (hquote '\'' (List.mem_cons_self ..)).1 rfl
  | and | or | not | isIn | comparison | opening | closing | comma | call | lambda =>
    rw [hkind] at hk
    cases hk

/-- The parts of a call token, with its value rewritten. -/
theorem call_of_mem (hs : QuoteFree s) {index : Int} {t : Token} {call : Call} {w : Text}
    (h : t ∈ tokenize .doubled s) (hk : t.kind = .call) (hcall : Call.ofToken index t = .ok call)
    (hw : (Literal.read .doubled call.value).write = .ok w) :
    ∃ op : Predicate, call.name = op.name ∧ Call.Writable call.field w ∧ Literal.Canonical w := by
  have hshaped := shaped_of_mem h
  rw [hk] at hshaped
  obtain ⟨op, arguments, hname, hbal, hsub, hparts⟩ := Call.ofToken_of_shaped hshaped hcall
  have hquotes : QuoteFree arguments := (quoteFree_of_mem hs h).sublist hsub
  obtain ⟨hstripped, hne, hquotes', hcanonical, hparentheses⟩ := rewritten_call hquotes hparts hw
  obtain ⟨a, b, hcomma, rfl, hfield, -, hfieldne, -⟩ := Call.fieldAndValue?_cases hparts
  have hfieldquotes : QuoteFree call.field := by
    rw [hfield]
    exact hquotes.sublist ((Text.strip_sublist a).trans (List.sublist_append_left _ _))
  refine ⟨op, hname, ⟨?_, hfieldne, ?_, hstripped, hne, ?_⟩, hcanonical⟩
  · rw [hfield]
    exact Text.stripped_strip a
  · rw [hfield]
    exact fun hmem => hcomma ((Text.strip_sublist a).subset hmem)
  · -- there are no quotes, so only the parentheses count, and these are still the same
    apply hbal.of_filter_eq hquotes
    · intro c hc
      rcases List.mem_append.1 hc with hc | hc
      · exact hfieldquotes c hc
      · rcases List.mem_append.1 hc with hc | hc
        · have hseparator : c = ',' ∨ c = ' ' := by simpa using hc
          rcases hseparator with rfl | rfl <;> decide
        · exact hquotes' c hc
    · rw [← hparentheses, List.filter_append, List.filter_append]
      rfl

/-- A call on the variable of a lambda can be written with another variable. -/
theorem writable_binder {x w : Text} (hx : ∀ c ∈ x, Text.isNameChar c = true)
    (h : Call.Writable x w) : Call.Writable binder w where
  field_stripped := Lambda.variableName_binder.plainName.toPlainWord.stripped
  field_ne_nil := List.cons_ne_nil _ _
  no_comma := by decide
  value_stripped := h.value_stripped
  value_ne_nil := h.value_ne_nil
  balanced := by
    have hrest := (balanced_neutral_append fun c hc => neutral_of_isNameChar (hx c hc)).1 h.balanced
    exact (balanced_neutral_append Lambda.variableName_binder.plainName.toPlainWord.neutral).2 hrest

/-! ## Items of a text without quotes -/

/-- The rewritten values of a list, all of them bare words. -/
theorem exists_write_bare {elements : List Token} (h : ∀ t ∈ elements, t.kind.isValue = true →
      PlainName t.text) {ws : List Text}
    (hws : (listed .doubled elements).mapM Argument.write = .ok ws) :
    ∀ w ∈ ws, PlainName w ∧ Literal.Canonical w := by
  induction elements generalizing ws with
  | nil =>
    cases hws
    simp
  | cons t ts ih =>
    have hrest := fun t' ht' => h t' (List.mem_cons_of_mem _ ht')
    cases hk : t.kind.isValue with
    | false =>
      have hlisted : listed .doubled (t :: ts) = listed .doubled ts := by simp [listed, hk]
      rw [hlisted] at hws
      exact ih hrest hws
    | true =>
      obtain ⟨w, hread, hwrite⟩ := exists_write_value .doubled t.text
      obtain ⟨ws', hws'⟩ := exists_write_listed .doubled ts
      rw [listed_cons_of_value hk, List.mapM_cons, hwrite, hws'] at hws
      cases hws
      obtain ⟨hname, hcanonical, -⟩ := rewritten_word (h t (List.mem_cons_self ..) hk) hread
      intro w' hw'
      rcases List.mem_cons.1 hw' with rfl | hw'
      · exact ⟨hname, hcanonical⟩
      · exact ih hrest hws' w' hw'

/-- Bare words behind a parenthesis open no lambda. -/
theorem lambda?_bare_list {ws : List Text} (h : ∀ w ∈ ws, PlainName w) (r : Text) :
    lambda? (Text.joinWith ", ".toList ws ++ ')' :: r) = none := by
  apply lambda?_list_eq_none fun w hw => .word (h w hw).toPlainWord (h w hw).notKeyword
  intro s hs
  have hquote := (h _ (List.mem_of_head? hs)).quoteFree _ (List.mem_cons_self ..)
  exact absurd rfl hquote.1

/-- The text of a condition is that of its rewritten value. -/
theorem exists_of_render_condition {name v part : Text} {r : Relation} (field : Text)
    (hname : name = r.name)
    (h : render (.condition (.ofText name) field (value .doubled v)) = .ok part) :
    ∃ w, (Literal.read .doubled v).write = .ok w ∧ part = relationText r field w := by
  subst hname
  obtain ⟨w, hread, hwrite⟩ := exists_write_value .doubled v
  rw [render_condition r.relation?_name, hwrite] at h
  cases h
  exact ⟨w, hread, rfl⟩

theorem exists_of_render_any {name v part : Text} {r : Relation} (field : Text)
    (hname : name = r.name)
    (h : render (.any field (.options (.named name) (value .doubled v))) = .ok part) :
    ∃ w, (Literal.read .doubled v).write = .ok w ∧
      part = anyText field (relationText r binder w) := by
  subst hname
  obtain ⟨w, hread, hwrite⟩ := exists_write_value .doubled v
  rw [render_any, hwrite] at h
  cases h
  exact ⟨w, hread, rfl⟩

/-- The text of a lambda token without quotes is settled. -/
theorem settled_of_lambda (hs : QuoteFree s) {index : Int} {t : Token} {l : Lambda} {part : Text}
    (h : t ∈ tokenize .doubled s) (hl : Lambda.ofToken .doubled index t = .ok l)
    (hpart : render (.any l.field (.options (.named l.operator) (value .doubled l.value))) =
      .ok part) :
    Settled part := by
  obtain ⟨head, hhead, hfield, hcondition⟩ := Lambda.exists_condition_of_ofToken hl
  obtain ⟨hne, hinWord, hvariable, hbody⟩ := Lambda.head_of_ofText? hhead
  rw [← hfield] at hne hinWord
  have hquotes : QuoteFree head.body := (quoteFree_of_mem hs h).sublist hbody
  rcases hcondition with ⟨call, hmem, hkind, hof⟩ | ⟨o, homem, v, hvmem, hokind, hvkind,
    hotext, hvtext⟩
  · obtain ⟨w₀, hread₀, -⟩ := exists_write_value .doubled l.value
    obtain ⟨op, hname, hwritable, hcanonical⟩ := call_of_mem hquotes hmem hkind hof hread₀
    obtain ⟨w, hread, rfl⟩ := exists_of_render_any (r := .call op) l.field hname hpart
    rw [hread₀, Except.ok.injEq] at hread
    subst hread
    exact .anyCall op hne hinWord (writable_binder hvariable hwritable) hcanonical
  · obtain ⟨op, hop⟩ := comparison_of_mem homem hokind
    obtain ⟨w, hread, rfl⟩ := exists_of_render_any (r := .compare op) l.field (hotext ▸ hop) hpart
    have hv := plainName_of_mem hquotes hvmem (kind_of_isValue hquotes hvmem hvkind)
    rw [← hvtext] at hread
    obtain ⟨hw, hcanonical, -⟩ := rewritten_word hv hread
    exact .anyComparison op hne hinWord (.word hw.toPlainWord hw.notKeyword) hcanonical

/-- **The text of an item of a text without quotes is settled.** -/
theorem settled_of_item (hs : QuoteFree s) {ts : List Token} {c : Clause} {part : Text}
    (hitem : Item .doubled ts c) (hmem : ∀ t ∈ ts, t ∈ tokenize .doubled s)
    (hcall : ∀ f o v, ts = [f, o, v] → o.kind = .comparison → v.kind = .bare →
      Predicate.ofName? v.text = none)
    (hpart : c.render = .ok part) : Settled part := by
  cases hitem with
  | and kind => cases hpart; exact .and
  | or kind => cases hpart; exact .or
  | not kind => cases hpart; exact .not
  | opening kind => cases hpart; exact .opening
  | closing kind => cases hpart; exact .closing
  | @call t call kind parts known =>
    obtain ⟨w₀, hread₀, -⟩ := exists_write_value .doubled call.value
    obtain ⟨op, hname, hwritable, hcanonical⟩ :=
      call_of_mem hs (hmem t (List.mem_cons_self ..)) kind (parts 0) hread₀
    obtain ⟨w, hread, rfl⟩ := exists_of_render_condition (r := .call op) call.field hname hpart
    rw [hread₀, Except.ok.injEq] at hread
    subst hread
    exact .call op hwritable hcanonical
  | @lambda t l kind parts =>
    exact settled_of_lambda hs (hmem t (List.mem_cons_self ..)) (parts 0) hpart
  | @comparison f o v field operator operand known =>
    have hv := hmem v (by simp)
    have hbare := kind_of_isValue hs hv operand
    have hf := plainName_of_mem hs (hmem f (by simp)) field
    obtain ⟨op, hop⟩ := comparison_of_mem (hmem o (by simp)) operator
    obtain ⟨w, hread, rfl⟩ := exists_of_render_condition (r := .compare op) f.text hop hpart
    obtain ⟨hw, hcanonical, hnoCall⟩ := rewritten_word (plainName_of_mem hs hv hbare) hread
    exact .comparison op hf.toPlainWord hf.notKeyword (.word hw.toPlainWord hw.notKeyword)
      hcanonical (hnoCall (hcall f o v rfl operator hbare))
  | @membership f i p c elements field isIn opening list closing =>
    have hf := plainName_of_mem hs (hmem f (List.mem_cons_self ..)) field
    obtain ⟨ws, hws⟩ := exists_write_listed .doubled elements
    have helements : ∀ t ∈ elements, t.kind.isValue = true → PlainName t.text := by
      intro t ht hk
      have ht' := hmem t (by simp [ht])
      exact plainName_of_mem hs ht' (kind_of_isValue hs ht' hk)
    have hnames := exists_write_bare helements hws
    change ((listed .doubled elements).mapM Argument.write).map _ = _ at hpart
    rw [hws] at hpart
    cases hpart
    refine .membership hf.toPlainWord hf.notKeyword ?_ (fun w hw => (hnames w hw).2) ?_
    · exact fun w hw => .word (hnames w hw).1.toPlainWord (hnames w hw).1.notKeyword
    · exact lambda?_bare_list fun w hw => (hnames w hw).1

end Clause

/-! ## Whole texts -/

/-- No comparison has the bare name of a predicate as its value: of no two tokens side by side. -/
def NoCallOperand (tokens : List Token) : Prop :=
  ∀ p ∈ tokens.zip tokens.tail, p.1.kind = .comparison → p.2.kind = .bare →
    Predicate.ofName? p.2.text = none

/-- Two tokens side by side. -/
theorem mem_zip_tail (before : List Token) (o v : Token) (behind : List Token) :
    (o, v) ∈ (before ++ o :: v :: behind).zip (before ++ o :: v :: behind).tail := by
  induction before with
  | nil => exact List.mem_cons_self ..
  | cons t before ih =>
    cases before with
    | nil => exact List.mem_cons_of_mem _ ih
    | cons t' before => exact List.mem_cons_of_mem _ ih

namespace Filter

/-- The texts of the items of a text without quotes are settled. -/
theorem settled_of_decomposes {s : Text} (hs : QuoteFree s) {before tokens : List Token}
    (htokens : tokenize .doubled s = before ++ tokens) (hcall : NoCallOperand (tokenize .doubled s))
    {d : List (List Token × Clause)} (hd : Decomposes .doubled tokens d) {parts : List Text}
    (hparts : d.map (fun p => p.2.render) = parts.map .ok) :
    ∀ part ∈ parts, Clause.Settled part := by
  -- `before` grows by one item at each step: the tokens stay those of the whole text
  induction d generalizing before tokens parts with
  | nil =>
    cases parts with
    | nil => simp
    | cons part parts => cases hparts
  | cons p d ih =>
    cases parts with
    | nil => cases hparts
    | cons part parts =>
      rw [List.map_cons, List.map_cons, List.cons.injEq] at hparts
      obtain ⟨rest, rfl, hitem, hrest⟩ := exists_of_decomposes_cons hd
      have hfirst : Clause.Settled part := by
        apply Clause.settled_of_item hs hitem ?_ ?_ hparts.1
        · intro t ht
          rw [htokens]
          exact List.mem_append_right _ (List.mem_append_left _ ht)
        · intro f o v hts
          have htext : tokenize .doubled s = (before ++ [f]) ++ o :: v :: rest := by
            rw [htokens, hts]
            simp
          apply hcall (o, v)
          rw [htext]
          exact mem_zip_tail (before ++ [f]) o v rest
      rw [← List.append_assoc] at htokens
      intro q hq
      rcases List.mem_cons.1 hq with rfl | hq
      · exact hfirst
      · exact ih htokens hrest hparts.2 q hq

/-- **Reading what was written for a text without quotes gives the same filter again.** -/
theorem ofText_normal {s : Text} {f : Filter} (hs : QuoteFree s)
    (hcall : NoCallOperand (tokenize .doubled s)) (h : ofText .doubled s = .ok f) :
    ofText .doubled f.text = .ok f := by
  obtain ⟨d, hd, hparts⟩ := ofTokens_eq_ok_iff.1 h
  have hall : tokenize .doubled s = [] ++ tokenize .doubled s := rfl
  exact ofText_text (settled_of_decomposes hs hall hcall hd hparts)

/-- A text in which spelling, commas, the variable of a lambda and the nesting of parentheses all
    change, and its filter. -/
def sampleText : Text := "(a eq +01 b in (2.50,,x) not t/any(v: endswith(v , (c,d)))".toList

def sampleFilter : Filter :=
  ⟨[['('], "a eq 1".toList, "b in (2.5, x)".toList, "not".toList,
    "(t/any(x:(endswith(x, (c,d)))))".toList]⟩

theorem ofText_normal_sampleText :
    QuoteFree sampleText ∧ NoCallOperand (tokenize .doubled sampleText) ∧
    ofText .doubled sampleText = .ok sampleFilter ∧
    ofText .doubled sampleFilter.text = .ok sampleFilter := by
  have hquotes : QuoteFree sampleText := by
    have hall : sampleText.all (fun c => c != '\'' && c != '"') = true := by decide +kernel
    intro c hc
    simpa using List.all_eq_true.1 hall c hc
  have hcall : NoCallOperand (tokenize .doubled sampleText) := by
    unfold NoCallOperand
    decide +kernel
  have hread : ofText .doubled sampleText = .ok sampleFilter := by
    have hopt : (ofText .doubled sampleText).toOption = some sampleFilter := by decide +kernel
    cases hresult : ofText .doubled sampleText with
    | error fault =>
      rw [hresult] at hopt
      cases hopt
    | ok f =>
      rw [hresult] at hopt
      rw [show f = sampleFilter from Option.some.inj hopt]
  exact ⟨hquotes, hcall, hread, ofText_normal hquotes hcall hread⟩

end Filter

end QueryFilter
