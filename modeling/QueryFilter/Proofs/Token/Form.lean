/-
  FORMS — what the kind of a token promises about its text, and about what stands behind it.

  1. **Specification** — `Formed policy kind t r`: the text `t`, with `r` behind it, is what a token
     of that kind may be.  A keyword is one of its words, a bare word is none of them, and a word
     ends where no word goes on.  A literal is a text in single quotes: with each quote inside
     doubled, or without any.  A call and a lambda end in a group, which the parenthesis that
     matches its first one ends (`Enclosed`).
  2. **Constructs** — what the scanners of calls and wrapped lambdas read, exactly
     (`call?_eq_some_iff`, `wrappedLambda?_eq_some_iff`), so that each of these texts is one token
     (`scans_of_shaped_call`, `scans_of_isLambda`, `scans_of_wrapped`); and where a literal is
     closed under each policy (`of_closeQuote_doubled`, `of_closeQuote_literal`).
  3. **One token** — what the scan reads has the form of its kind (`formed_lexeme`), one case
     for each rule of the scan.

  All together: `tokenize_formed`.
-/
import QueryFilter.Proofs.Token.Matching
import QueryFilter.Proofs.Token.Place
import QueryFilter.Proofs.Token.QuotedHead

namespace QueryFilter.Token

/-! ## The specification -/

/-- The ten words that are no bare words. -/
def keywords : List Text :=
  ["and".toList, "or".toList, "not".toList, "in".toList] ++ Comparison.all.map Comparison.name

/-- A text in single quotes, and what may stand behind it. -/
def QuotedForm : QuotePolicy → Text → Text → Prop
  | .doubled, t, r =>
    (∃ s, t = '\'' :: (Literal.doubleQuotes s ++ ['\''])) ∧ ∀ r', r ≠ '\'' :: r'
  | .literal, t, _ => ∃ s, '\'' ∉ s ∧ t = '\'' :: (s ++ ['\''])

/-- The name of a predicate, perhaps blanks, and a group. -/
def CallForm (t : Text) : Prop :=
  ∃ (op : Predicate) (blanks group : Text), (∀ c ∈ blanks, Text.isBlank c = true) ∧ Enclosed group ∧
    t = op.name ++ (blanks ++ group)

/-- A word that ends in `/any`, with something before that, and a group right behind it. -/
def LambdaForm (t : Text) : Prop :=
  ∃ word group, (∀ c ∈ word, inWord c = true) ∧ "/any".toList <:+ word ∧ 4 < word.length ∧
    Enclosed group ∧ t = word ++ group

/-- A lambda in parentheses of its own, with blanks inside them or not. -/
def WrappedForm (t : Text) : Prop :=
  ∃ blanks lambda blanks', (∀ c ∈ blanks, Text.isBlank c = true) ∧ LambdaForm lambda ∧
    (∀ c ∈ blanks', Text.isBlank c = true) ∧ t = '(' :: (blanks ++ (lambda ++ (blanks' ++ [')'])))

/-- What the kind of a token says about its text and about the text behind it. -/
def Formed (policy : QuotePolicy) : Kind → Text → Text → Prop
  | .and, t, r => t = "and".toList ∧ Ends r
  | .or, t, r => t = "or".toList ∧ Ends r
  | .not, t, r => t = "not".toList ∧ Ends r
  | .isIn, t, r => t = "in".toList ∧ Ends r
  | .comparison, t, r => (∃ op : Comparison, t = op.name) ∧ Ends r
  | .bare, t, r => t ≠ [] ∧ (∀ c ∈ t, inWord c = true) ∧ t ∉ keywords ∧ Ends r
  | .opening, t, _ => t = ['(']
  | .closing, t, _ => t = [')']
  | .comma, t, _ => t = [',']
  | .string, t, r => QuotedForm policy t r
  | .call, t, _ => CallForm t
  | .lambda, t, _ => LambdaForm t ∨ WrappedForm t

/-! ## Calls and lambdas -/

/-- A lambda as the scan sees it: a field, the suffix of lambdas, and a balanced body. -/
def IsLambda (t : Text) : Prop :=
  ∃ field body, field ≠ [] ∧ (∀ c ∈ field, inWord c = true) ∧ Balanced body ∧
    t = field ++ (anySuffix ++ '(' :: (body ++ [')']))

theorem lambda?_eq_some {s t r : Text} : lambda? s = some (t, r) ↔ IsLambda t ∧ s = t ++ r := by
  rw [lambda?_eq_some_iff]
  constructor
  · rintro ⟨field, body, hne, hfield, hbal, ht, hs⟩
    exact ⟨⟨field, body, hne, hfield, hbal, ht⟩, hs⟩
  · rintro ⟨⟨field, body, hne, hfield, hbal, ht⟩, hs⟩
    exact ⟨field, body, hne, hfield, hbal, ht, hs⟩

/-- **The scan for a call reads exactly a call**, whatever stands behind it. -/
theorem call?_eq_some_iff {s t r : Text} : call? s = some (t, r) ↔ Shaped .call t ∧ s = t ++ r := by
  constructor
  · intro h
    exact ⟨shaped_call h, (call?_append h).2.symm⟩
  · rintro ⟨⟨op, blanks, arguments, hblanks, hbal, rfl⟩, rfl⟩
    have hends : Ends (blanks ++ '(' :: (arguments ++ ')' :: r)) :=
      ends_append hblanks (Or.inr (ends_cons (by decide) _))
    have happ : op.name ++ (blanks ++ '(' :: (arguments ++ [')'])) ++ r =
        op.name ++ (blanks ++ '(' :: (arguments ++ ')' :: r)) := by simp
    have hword := (plainWord_predicate op).inWord
    rw [happ, call?, word_append_of_ends hword hends, afterWord_append_of_ends hword hends,
      predicate_ofName?_name]
    simp only [Option.isSome_some, if_true]
    rw [List.takeWhile_append_of_pos hblanks, List.dropWhile_append_of_pos hblanks,
      List.takeWhile_cons_of_neg (by decide), List.dropWhile_cons_of_neg (by decide),
      group?_of_balanced hbal]
    simp [after]

/-- A lambda does not begin with a blank. -/
theorem IsLambda.head {t : Text} (h : IsLambda t) (r : Text) :
    ∀ c, (t ++ r).head? = some c → Text.isBlank c = false := by
  obtain ⟨field, body, hne, hfield, -, rfl⟩ := h
  rw [List.append_assoc]
  exact isBlank_head_of_word hne hfield

/-- Nor does it end with one. -/
theorem IsLambda.stripped {t : Text} (h : IsLambda t) : t.Stripped := by
  refine ⟨fun c hc => h.head [] c (by rwa [List.append_nil]), fun c hc => ?_⟩
  obtain ⟨field, body, -, -, -, rfl⟩ := h
  simp only [← List.append_assoc, ← List.cons_append, List.getLast?_concat] at hc
  cases hc
  decide

/-- **The scan for a wrapped lambda reads exactly a lambda in parentheses**, whatever stands behind
    it. -/
theorem wrappedLambda?_eq_some_iff {s t r : Text} :
    wrappedLambda? s = some (t, r) ↔ ∃ blanks u blanks', (∀ c ∈ blanks, Text.isBlank c = true) ∧
      IsLambda u ∧ (∀ c ∈ blanks', Text.isBlank c = true) ∧
      t = '(' :: (blanks ++ (u ++ (blanks' ++ [')']))) ∧ s = t ++ r := by
  constructor
  · intro h
    have hs := (wrappedLambda?_append h).2.symm
    unfold wrappedLambda? at h
    split at h
    · rename_i s
      obtain ⟨⟨u, r'⟩, hu, h⟩ := Option.bind_eq_some_iff.1 h
      obtain ⟨v, hv, rfl⟩ := after_eq_some_iff.1 h
      obtain ⟨blanks', hblanks', rfl, -⟩ := closing?_eq_some_iff.1 hv
      exact ⟨s.takeWhile Text.isBlank, u, blanks', fun _ hc => List.mem_takeWhile_imp hc,
        (lambda?_eq_some.1 hu).1, hblanks', by simp, hs⟩
    · cases h
  · rintro ⟨blanks, u, blanks', hblanks, hu, hblanks', rfl, rfl⟩
    have hhead := hu.head (blanks' ++ ')' :: r)
    have hdrop := dropWhile_of_head hhead
    have htake : (u ++ (blanks' ++ ')' :: r)).takeWhile Text.isBlank = [] := by
      have hall := List.takeWhile_append_dropWhile (p := Text.isBlank)
        (l := u ++ (blanks' ++ ')' :: r))
      rw [hdrop] at hall
      exact List.append_left_eq_self.1 hall
    have happ : '(' :: (blanks ++ (u ++ (blanks' ++ [')']))) ++ r =
        '(' :: (blanks ++ (u ++ (blanks' ++ ')' :: r))) := by simp
    have hlambda : lambda? (u ++ (blanks' ++ ')' :: r)) = some (u, blanks' ++ ')' :: r) :=
      lambda?_eq_some.2 ⟨hu, rfl⟩
    have hclosing : closing? (blanks' ++ ')' :: r) = some (blanks' ++ [')'], r) :=
      closing?_eq_some_iff.2 ⟨blanks', hblanks', rfl, by simp⟩
    rw [happ, wrappedLambda?, List.dropWhile_append_of_pos hblanks, hdrop, hlambda,
      Option.bind_some]
    simp only
    rw [hclosing, List.takeWhile_append_of_pos hblanks, htake]
    simp [after]

/-- A lambda is no call. -/
theorem IsLambda.call?_eq_none {t : Text} (h : IsLambda t) (r : Text) : call? (t ++ r) = none := by
  obtain ⟨field, body, hne, hfield, -, rfl⟩ := h
  have hname : Predicate.ofName? (field ++ anySuffix) = none := by
    apply predicate_ofName?_eq_none
    intro op hop
    have hcollection := collection?_predicate op
    rw [← hop, collection?_eq_some_iff.2 ⟨hne, rfl⟩] at hcollection
    cases hcollection
  have happ : field ++ (anySuffix ++ '(' :: (body ++ [')'])) ++ r =
      field ++ anySuffix ++ '(' :: (body ++ ')' :: r) := by simp
  rw [happ]
  exact Token.call?_eq_none (inWord_append_anySuffix hfield) (ends_cons (by decide) _)
    (Or.inl hname)

/-- The first character of a text that begins with a word. -/
theorem exists_head {w : Text} (hne : w ≠ []) (r : Text) : ∃ c s, w ++ r = c :: s ∧ c ∈ w := by
  cases w with
  | nil => exact absurd rfl hne
  | cons c w => exact ⟨c, _, rfl, List.mem_cons_self ..⟩

/-- **A call is one token**, with blanks behind its name or not, whatever follows. -/
theorem scans_of_shaped_call {policy : QuotePolicy} {t : Text} (h : Shaped .call t) (r : Text) :
    Scans policy (t ++ r) [(.call, t)] r := by
  have hcall : call? (t ++ r) = some (t, r) := call?_eq_some_iff.2 ⟨h, rfl⟩
  obtain ⟨op, blanks, arguments, -, -, rfl⟩ := h
  have hword := plainWord_predicate op
  rw [List.append_assoc op.name] at hcall ⊢
  obtain ⟨c, s, hcs, hc⟩ := exists_head hword.ne_nil (blanks ++ '(' :: (arguments ++ [')']) ++ r)
  rw [hcs] at hcall ⊢
  apply Scans.single (inWord_iff.1 (hword.inWord c hc)).1
  rw [lexeme_of_inWord (hword.inWord c hc) (hword.quoteFree c hc).1, wordLexeme, hcall]

/-- **A lambda is one token**, unless its field begins with a quote. -/
theorem scans_of_isLambda {policy : QuotePolicy} {t : Text} (h : IsLambda t)
    (hquote : t.head? ≠ some '\'') (r : Text) : Scans policy (t ++ r) [(.lambda, t)] r := by
  have hlambda : lambda? (t ++ r) = some (t, r) := lambda?_eq_some.2 ⟨h, rfl⟩
  have hcall := h.call?_eq_none r
  obtain ⟨field, body, hne, hfield, -, rfl⟩ := h
  rw [List.append_assoc field] at hlambda hcall ⊢
  obtain ⟨c, s, hcs, hc⟩ := exists_head hne (anySuffix ++ '(' :: (body ++ [')']) ++ r)
  have hc' : c ≠ '\'' := by
    rintro rfl
    apply hquote
    cases field with
    | nil => exact absurd rfl hne
    | cons d field =>
      cases hcs
      rfl
  rw [hcs] at hlambda hcall ⊢
  apply Scans.single (inWord_iff.1 (hfield c hc)).1
  rw [lexeme_of_inWord (hfield c hc) hc', wordLexeme, hcall]
  simp only [hlambda]

/-- **A lambda in parentheses is one token**, with blanks inside them or not. -/
theorem scans_of_wrapped {policy : QuotePolicy} {blanks u blanks' : Text}
    (hblanks : ∀ c ∈ blanks, Text.isBlank c = true) (h : IsLambda u)
    (hblanks' : ∀ c ∈ blanks', Text.isBlank c = true) (r : Text) :
    Scans policy ('(' :: (blanks ++ (u ++ (blanks' ++ [')']))) ++ r)
      [(.lambda, '(' :: (blanks ++ (u ++ (blanks' ++ [')']))))] r := by
  have hwrapped : wrappedLambda? ('(' :: (blanks ++ (u ++ (blanks' ++ [')']))) ++ r) =
      some ('(' :: (blanks ++ (u ++ (blanks' ++ [')']))), r) :=
    wrappedLambda?_eq_some_iff.2 ⟨blanks, u, blanks', hblanks, h, hblanks', rfl, rfl⟩
  rw [List.cons_append] at hwrapped ⊢
  apply Scans.single (by decide)
  rw [lexeme, hwrapped]

/-- What the scan reads as a lambda has the form of one. -/
theorem IsLambda.lambdaForm {t : Text} (h : IsLambda t) : LambdaForm t := by
  obtain ⟨field, body, hne, hfield, hbal, rfl⟩ := h
  have hlen := List.length_pos_iff.2 hne
  refine ⟨field ++ anySuffix, '(' :: (body ++ [')']), inWord_append_anySuffix hfield, ⟨field, rfl⟩,
    ?_, hbal.enclosed, by simp⟩
  rw [List.length_append, show anySuffix.length = 4 from rfl]
  omega

/-! ## Literals -/

/-- Up to the closing quote, each quote is doubled; and behind it stands none. -/
theorem of_closeQuote_doubled {s t r : Text} (h : closeQuote .doubled s = some (t, r)) :
    (∃ u, t = Literal.doubleQuotes u ++ ['\'']) ∧ ∀ r', r ≠ '\'' :: r' := by
  fun_induction closeQuote .doubled s generalizing t with
  | case1 => cases h
  | case2 s' _ ih =>
    obtain ⟨v, hv, rfl⟩ := after_eq_some_iff.1 h
    obtain ⟨⟨u, rfl⟩, hr⟩ := ih hv
    exact ⟨⟨'\'' :: u, by rw [Literal.doubleQuotes_cons_quote]; rfl⟩, hr⟩
  | case3 s' hlast =>
    cases h
    exact ⟨⟨[], rfl⟩, fun r' hr => hlast r' rfl hr⟩
  | case4 c s' hc ih =>
    obtain ⟨v, hv, rfl⟩ := after_eq_some_iff.1 h
    obtain ⟨⟨u, rfl⟩, hr⟩ := ih hv
    exact ⟨⟨c :: u, by rw [Literal.doubleQuotes_cons_of_ne hc]; rfl⟩, hr⟩

/-- Where the first quote closes, none stands before it. -/
theorem of_closeQuote_literal {s t r : Text} (h : closeQuote .literal s = some (t, r)) :
    ∃ u, '\'' ∉ u ∧ t = u ++ ['\''] := by
  fun_induction closeQuote .literal s generalizing t with
  | case1 => cases h
  | case2 s' hpolicy => cases hpolicy
  | case3 s' =>
    cases h
    exact ⟨[], by simp, rfl⟩
  | case4 c s' hc ih =>
    obtain ⟨v, hv, rfl⟩ := after_eq_some_iff.1 h
    obtain ⟨u, hu, rfl⟩ := ih hv
    refine ⟨c :: u, ?_, rfl⟩
    rw [List.mem_cons, not_or]
    exact ⟨fun heq => hc heq.symm, hu⟩

theorem quotedForm_of_quoted? {policy : QuotePolicy} {s t r : Text}
    (h : quoted? policy s = some (t, r)) : QuotedForm policy t r := by
  unfold quoted? at h
  split at h
  · obtain ⟨v, hv, rfl⟩ := after_eq_some_iff.1 h
    cases policy with
    | doubled =>
      obtain ⟨⟨u, rfl⟩, hr⟩ := of_closeQuote_doubled hv
      exact ⟨⟨u, rfl⟩, hr⟩
    | literal =>
      obtain ⟨u, hu, rfl⟩ := of_closeQuote_literal hv
      exact ⟨u, hu, rfl⟩
  · cases h

/-! ## One token -/

/-- A word runs up to where it ends. -/
theorem ends_afterWord (s : Text) : Ends (afterWord s) := by
  intro c r h
  have hhead := List.head?_dropWhile_not inWord s
  rw [show s.dropWhile inWord = c :: r from h] at hhead
  simpa using hhead

/-- A word has the form of its own kind. -/
theorem formed_ofWord {policy : QuotePolicy} {w r : Text} (hne : w ≠ [])
    (hw : ∀ c ∈ w, inWord c = true) (hr : Ends r) : Formed policy (Kind.ofWord w) w r := by
  by_cases hbare : Kind.ofWord w = .bare
  · have hkeywords : ∀ w ∈ keywords, Kind.ofWord w ≠ .bare := by decide
    rw [hbare]
    exact ⟨hne, hw, fun hmem => hkeywords w hmem hbare, hr⟩
  · rcases mem_keywords_of_ofWord hbare with hmem | ⟨op, rfl⟩
    · simp only [List.mem_cons, List.not_mem_nil, or_false] at hmem
      rcases hmem with rfl | rfl | rfl | rfl
      · rw [show Kind.ofWord "and".toList = .and by decide]
        exact ⟨rfl, hr⟩
      · rw [show Kind.ofWord "or".toList = .or by decide]
        exact ⟨rfl, hr⟩
      · rw [show Kind.ofWord "not".toList = .not by decide]
        exact ⟨rfl, hr⟩
      · rw [show Kind.ofWord "in".toList = .isIn by decide]
        exact ⟨rfl, hr⟩
    · rw [ofWord_comparison]
      exact ⟨⟨op, rfl⟩, hr⟩

/-- **What the scan reads has the form of its kind.** -/
theorem formed_lexeme (policy : QuotePolicy) {c : Char} {s : Text} (hc : Text.isBlank c = false) :
    Formed policy (lexeme policy (c :: s)).kind (lexeme policy (c :: s)).text
      (lexeme policy (c :: s)).rest := by
  unfold lexeme
  split
  · split
    · rename_i t r h
      obtain ⟨blanks, u, blanks', hblanks, hu, hblanks', rfl, -⟩ := wrappedLambda?_eq_some_iff.1 h
      exact Or.inr ⟨blanks, u, blanks', hblanks, hu.lambdaForm, hblanks', rfl⟩
    · rfl
  · rfl
  · rfl
  · rename_i h₁ h₂ h₃
    split
    · rename_i t r h
      exact quotedForm_of_quoted? h
    · have hword : inWord c = true := by
        rw [inWord_iff]
        exact ⟨hc, fun h => h₁ s (by rw [h]), fun h => h₂ s (by rw [h]), fun h => h₃ s (by rw [h])⟩
      unfold wordLexeme
      split
      · rename_i t r h
        obtain ⟨op, blanks, arguments, hblanks, hbal, rfl⟩ := shaped_call h
        exact ⟨op, blanks, _, hblanks, hbal.enclosed, rfl⟩
      · split
        · rename_i t r h
          exact Or.inl (lambda?_eq_some.1 h).1.lambdaForm
        · refine formed_ofWord ?_ (fun _ hd => List.mem_takeWhile_imp hd) (ends_afterWord _)
          rw [word, List.takeWhile_cons_of_pos hword]
          exact List.cons_ne_nil _ _

/-! ## All tokens -/

/-- A token behind a cursor was read off the front of the text at its place. -/
theorem exists_lexeme_of_mem_drain {policy : QuotePolicy} {cur : Cursor} {t : Token}
    (h : t ∈ (cur.drain policy).1) :
    ∃ front c s, Text.isBlank c = false ∧ cur.rest = front ++ c :: s ∧
      t = ⟨(lexeme policy (c :: s)).kind, (lexeme policy (c :: s)).text,
        (cur.pos + front.length : Nat)⟩ := by
  fun_induction Cursor.drain policy cur with
  | case1 => cases h
  | case2 cur u cur' hnext ts last hdrain ih =>
    obtain ⟨gap, c, s, -, hc, hrest, -, rfl, rfl⟩ := Cursor.exists_lexeme_of_next? hnext
    rcases List.mem_cons.1 h with rfl | h
    · exact ⟨gap, c, s, hc, hrest, rfl⟩
    · rw [hdrain] at ih
      obtain ⟨front, d, s', hd, hrest', rfl⟩ := ih h
      refine ⟨gap ++ ((lexeme policy (c :: s)).text ++ front), d, s', hd, ?_, ?_⟩
      · have hread : (lexeme policy (c :: s)).text ++ (front ++ d :: s') = c :: s := by
          rw [← show (lexeme policy (c :: s)).rest = front ++ d :: s' from hrest', lexeme_append]
        rw [hrest, List.append_assoc, List.append_assoc, hread]
      · rw [Token.mk.injEq]
        refine ⟨rfl, rfl, ?_⟩
        simp only [List.length_append]
        omega

/-- **Every token has the form of its kind.**  It stands at its place in the text, and together with
    what follows it there it is what a token of that kind may be. -/
theorem tokenize_formed (policy : QuotePolicy) (text : Text) :
    ∀ t ∈ tokenize policy text, ∃ (n : Nat) (rest : Text), t.pos = n ∧
      text.drop n = t.text ++ rest ∧ Formed policy t.kind t.text rest := by
  intro t ht
  obtain ⟨front, c, s, hc, hrest, rfl⟩ := exists_lexeme_of_mem_drain ht
  have htext : text = front ++ c :: s := hrest
  refine ⟨front.length, (lexeme policy (c :: s)).rest, ?_, ?_, formed_lexeme policy hc⟩
  · simp [Cursor.start]
  · rw [lexeme_append, htext, List.drop_left]

/-- A literal right before another token, a word with a quote, and a lambda in parentheses. -/
def formSample : Text := "f in('it''s')or'a ( t/any(x:x eq ')'))".toList

theorem tokenize_formed_formSample :
    (⟨.lambda, "( t/any(x:x eq ')'))".toList, 18⟩ : Token) ∈ tokenize .doubled formSample ∧
      ∃ (n : Nat) (rest : Text), (18 : Int) = n ∧
        formSample.drop n = "( t/any(x:x eq ')'))".toList ++ rest ∧
        Formed .doubled .lambda "( t/any(x:x eq ')'))".toList rest := by
  have hmem : (⟨.lambda, "( t/any(x:x eq ')'))".toList, 18⟩ : Token) ∈
      tokenize .doubled formSample := by
    decide +kernel
  exact ⟨hmem, tokenize_formed .doubled formSample _ hmem⟩

end QueryFilter.Token
