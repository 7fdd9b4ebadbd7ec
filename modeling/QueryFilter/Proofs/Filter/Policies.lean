/-
  POLICIES — the two quote policies differ on doubled quotes alone.

  1. **Specification** — `Unpaired s`: no two quotes of one sort stand side by side in `s`.  Every
     stretch of such a text is one too (`Unpaired.of_isInfix`).
  2. **The scan** — a literal ends at the same quote under both policies (`closeQuote_policy`), and
     so every token does, and what follows the token is a stretch of the text (`drain_policy`).
  3. **Values** — without pairs there is nothing to collapse (`read_policy`).
  4. **Clauses** — the value of a call is a stretch of its token, and so are the body of a lambda,
     the tokens of that body, and the value in them (`value_isInfix_of_ofToken`).  So tokens of the
     text are interchangeable for the two policies (`interchangeable_policy`).

  All together: `ofText_policy`.
-/
import QueryFilter.Proofs.Filter.InStep
import QueryFilter.Proofs.Token.Place

namespace QueryFilter

/-! ## The specification -/

/-- No two quotes of one sort stand side by side. -/
structure Text.Unpaired (s : Text) : Prop where
  single : ¬ ['\'', '\''] <:+: s
  double : ¬ ['"', '"'] <:+: s

open Text (Unpaired)

theorem Text.Unpaired.of_isInfix {s t : Text} (h : Unpaired s) (hts : t <:+: s) : Unpaired t :=
  ⟨fun hpair => h.single (hpair.trans hts), fun hpair => h.double (hpair.trans hts)⟩

/-! ## The scan -/

namespace Token

/-- A literal ends at the same quote under both policies. -/
theorem closeQuote_policy {s : Text} (h : Unpaired s) :
    closeQuote .doubled s = closeQuote .literal s := by
  fun_induction closeQuote .doubled s with
  | case1 => rfl
  | case2 s' _ _ => exact absurd (List.prefix_append ['\'', '\''] s').isInfix h.single
  | case3 s' _ =>
    rw [closeQuote.eq_def]
    simp
  | case4 c s' hc ih =>
    have hs' := h.of_isInfix (List.suffix_cons c s').isInfix
    rw [ih hs', closeQuote.eq_def .literal (c :: s')]
    simp [hc]

theorem lexeme_policy {s : Text} (h : Unpaired s) : lexeme .doubled s = lexeme .literal s := by
  have hquoted : quoted? .doubled s = quoted? .literal s := by
    unfold quoted?
    split
    · rename_i s'
      rw [closeQuote_policy (h.of_isInfix (List.suffix_cons _ s').isInfix)]
    · rfl
  unfold lexeme
  rw [hquoted]

theorem next?_policy {cur : Cursor} (h : Unpaired cur.rest) :
    cur.next? .doubled = cur.next? .literal := by
  have hrest : Unpaired cur.skipBlanks.rest := h.of_isInfix (List.dropWhile_suffix _).isInfix
  unfold Cursor.next?
  simp only
  split
  · rfl
  · rename_i c s hs
    rw [hs] at hrest
    rw [lexeme_policy hrest]

/-- **The scan finds the same tokens under both policies.** -/
theorem drain_policy {cur : Cursor} (h : Unpaired cur.rest) :
    cur.drain .doubled = cur.drain .literal := by
  fun_induction Cursor.drain .doubled cur with
  | case1 cur hnext =>
    rw [next?_policy h] at hnext
    rw [drain_of_none hnext]
  | case2 cur t cur' hnext ts last hdrain ih =>
    obtain ⟨gap, -, hrest, -⟩ := Cursor.exists_of_next? hnext
    have hbehind : Unpaired cur'.rest := h.of_isInfix ⟨gap ++ t.text, [], by simp [hrest]⟩
    rw [next?_policy h] at hnext
    rw [drain_of_some hnext, ← ih hbehind, hdrain]

theorem tokenize_policy {text : Text} (h : Unpaired text) :
    tokenize .doubled text = tokenize .literal text := by
  have hstart : Unpaired (Cursor.start text).rest := h
  rw [tokenize, tokenize, drain_policy hstart]

/-- A token of a text is a stretch of it. -/
theorem isInfix_of_mem {policy : QuotePolicy} {text : Text} {t : Token}
    (h : t ∈ tokenize policy text) : t.text <:+: text := by
  obtain ⟨n, -, hslice⟩ := standsIn_of_mem_tokenize h
  rw [← hslice]
  exact (List.take_prefix _ _).isInfix.trans (List.drop_suffix _ _).isInfix

end Token

/-! ## Values -/

namespace Literal

theorem collapse_eq_self {q : Char} {s : Text} (h : ¬ [q, q] <:+: s) : collapse q s = s := by
  fun_induction collapse q s with
  | case1 c d s hpair _ =>
    obtain ⟨rfl, rfl⟩ := hpair
    exact absurd (List.prefix_append [d, d] s).isInfix h
  | case2 c d s _ ih => rw [ih fun hpair => h (hpair.trans (List.suffix_cons c _).isInfix)]
  | case3 => rfl

/-- A quoted token is its text between two quotes of one sort. -/
theorem eq_of_unquote? {t inner : Text} {q : Char} (h : unquote? t = some (q, inner)) :
    (q = '\'' ∨ q = '"') ∧ t = q :: (inner ++ [q]) := by
  unfold unquote? at h
  split at h
  · cases h
  · split at h
    · rename_i hq
      obtain ⟨inner', hinner, heq⟩ := Option.map_eq_some_iff.1 h
      cases heq
      exact ⟨hq, by rw [Text.dropLast?_eq_some_iff.1 hinner]⟩
    · cases h

/-- **Without pairs of quotes there is nothing to collapse.** -/
theorem read_policy {t : Text} (h : Unpaired t) : read .literal t = read .doubled t := by
  unfold read
  split
  · rename_i q inner hquoted
    obtain ⟨hq, rfl⟩ := eq_of_unquote? hquoted
    have hinner : Unpaired inner := h.of_isInfix ⟨[q], [q], by simp⟩
    rcases hq with rfl | rfl
    · simp only [collapse_eq_self hinner.single]
    · simp only [collapse_eq_self hinner.double]
  · rfl

end Literal

/-! ## Clauses -/

theorem Text.strip_isInfix (s : Text) : s.strip <:+: s := by
  obtain ⟨a, b, -, -, hs⟩ := exists_blanks_strip s
  exact ⟨a, b, by rw [List.append_assoc, ← hs]⟩

namespace Call

theorem arguments_isInfix {s name arguments : Text}
    (h : nameAndArguments? s = some (name, arguments)) : arguments <:+: s := by
  unfold nameAndArguments? at h
  simp only at h
  split at h
  · rename_i rest hrest
    split at h
    · cases h
    · obtain ⟨arguments', hdrop, heq⟩ := Option.map_eq_some_iff.1 h
      cases heq
      -- behind the name, the blanks and the parenthesis, and before the last parenthesis
      have hbehind : '(' :: rest <:+ s.strip := by
        rw [← hrest]
        exact (List.dropWhile_suffix _).trans (List.dropWhile_suffix _)
      rw [Text.dropLast?_eq_some_iff.1 hdrop] at hbehind
      have hinside : arguments <:+: '(' :: (arguments ++ [')']) := ⟨['('], [')'], rfl⟩
      exact (hinside.trans hbehind.isInfix).trans (Text.strip_isInfix s)
  · cases h

/-- The value of a call is a stretch of its token. -/
theorem value_isInfix_of_ofToken {index : Int} {t : Token} {call : Call}
    (h : ofToken index t = .ok call) : call.value <:+: t.text := by
  obtain ⟨arguments, hname, hfield⟩ := ofToken_eq_ok_iff.1 h
  obtain ⟨a, b, -, rfl, -, hvalue, -⟩ := fieldAndValue?_cases hfield
  have hb : b <:+: a ++ ',' :: b := ⟨a ++ [','], [], by simp⟩
  rw [hvalue]
  exact ((Text.strip_isInfix b).trans hb).trans (arguments_isInfix hname)

end Call

namespace Lambda

theorem body_isInfix_of_ofText? {text : Text} {head : Head} (h : Head.ofText? text = some head) :
    head.body <:+: text := by
  obtain ⟨front, gap, gap', back, hsplits⟩ := exists_splits_of_ofText? h
  refine ⟨front ++ (head.field ++
    (Token.anySuffix ++ '(' :: (gap ++ (head.binder ++ (gap' ++ [':']))))), back, ?_⟩
  conv => rhs; rw [hsplits.text_eq]
  simp

/-- The value of a lambda is a stretch of its token. -/
theorem value_isInfix_of_ofToken {policy : QuotePolicy} {index : Int} {t : Token} {l : Lambda}
    (h : ofToken policy index t = .ok l) : l.value <:+: t.text := by
  obtain ⟨head, hhead, -, hbody⟩ := exists_condition_of_ofToken h
  have hvalue : l.value <:+: head.body := by
    rcases hbody with ⟨call, hmem, -, hcall⟩ | ⟨-, -, v, hmem, -, -, -, hv⟩
    · exact (Call.value_isInfix_of_ofToken hcall).trans (Token.isInfix_of_mem hmem)
    · rw [← hv]
      exact Token.isInfix_of_mem hmem
  exact hvalue.trans (body_isInfix_of_ofText? hhead)

theorem ofToken_policy {t : Token} (h : Unpaired t.text) (index : Int) :
    ofToken .literal index t = ofToken .doubled index t := by
  unfold ofToken
  split
  · rfl
  · rename_i head hhead
    have hbody : Unpaired head.body := h.of_isInfix (body_isInfix_of_ofText? hhead)
    rw [Token.tokenize_policy hbody]

end Lambda

namespace Clause

theorem value_policy {t : Text} (h : Unpaired t) : value .literal t = value .doubled t := by
  rw [value, value, Literal.read_policy h]

theorem ofCall_policy {t : Token} (h : Unpaired t.text) (index : Int) :
    ofCall .literal index t = ofCall .doubled index t := by
  unfold ofCall
  cases hcall : Call.ofToken index t with
  | error e => rfl
  | ok call =>
    have hvalue := value_policy (h.of_isInfix (Call.value_isInfix_of_ofToken hcall))
    show (if (Argument.ofText call.name).relation?.isNone then _ else _) = _
    rw [hvalue]
    rfl

theorem ofLambda_policy {t : Token} (h : Unpaired t.text) (index : Int) :
    ofLambda .literal index t = ofLambda .doubled index t := by
  unfold ofLambda
  rw [Lambda.ofToken_policy h]
  cases hlambda : Lambda.ofToken .doubled index t with
  | error e => rfl
  | ok l =>
    have hvalue := value_policy (h.of_isInfix (Lambda.value_isInfix_of_ofToken hlambda))
    show (if (Argument.ofText l.operator).relation?.isNone then _ else _) = _
    rw [hvalue]
    rfl

end Clause

/-- **A token without pairs of quotes is read in the same way under both policies.** -/
theorem interchangeable_policy {t : Token} (h : Unpaired t.text) :
    Interchangeable .doubled .literal Eq t t where
  kind := rfl
  text := rfl
  value := Clause.value_policy h
  call := by
    intro index
    rw [Clause.ofCall_policy h]
    exact Agree.refl (fun _ => rfl) _
  lambda := by
    intro index
    rw [Clause.ofLambda_policy h]
    exact Agree.refl (fun _ => rfl) _
  blame := fun _ _ => rfl

/-! ## Filters -/

namespace Filter

/-- **The two policies differ on doubled quotes alone.**  A text without two quotes of one
    sort side by side has the same tokens under both, and is read as the same filter, or
    fails with the same fault. -/
theorem ofText_policy {text : Text} (h : Unpaired text) :
    Token.tokenize .doubled text = Token.tokenize .literal text ∧
      ofText .doubled text = ofText .literal text := by
  have htokens := Token.tokenize_policy h
  refine ⟨htokens, ?_⟩
  have hsame : List.Forall₂ (Interchangeable .doubled .literal Eq) (Token.tokenize .doubled text)
      (Token.tokenize .doubled text) := by
    rw [List.forall₂_same]
    exact fun t ht => interchangeable_policy (h.of_isInfix (Token.isInfix_of_mem ht))
  have hagree := agree_ofTokens (fun _ _ => rfl) hsame
  rw [ofText, ofText, ← htokens]
  generalize ofTokens .doubled (Token.tokenize .doubled text) = x at hagree ⊢
  generalize ofTokens .literal (Token.tokenize .doubled text) = x' at hagree ⊢
  cases hagree with
  | ok result => rw [result]
  | error hfault =>
    cases hfault with
    | reading heq => rw [heq]
    | same => rfl

/-- A filter with both sorts of quotes, and with one that is never closed. -/
def quotesSample : Text := "(a eq 'it' or t/any(x: x ne \"b\")) and c in ('d', 'e".toList

theorem ofText_policy_quotesSample :
    Unpaired quotesSample ∧ (Token.tokenize .doubled quotesSample).length = 14 ∧
      Token.tokenize .doubled quotesSample = Token.tokenize .literal quotesSample ∧
      ofText .doubled quotesSample = ofText .literal quotesSample := by
  have hunpaired : Unpaired quotesSample := ⟨by decide +kernel, by decide +kernel⟩
  exact ⟨hunpaired, by decide +kernel, ofText_policy hunpaired⟩

end Filter

end QueryFilter
