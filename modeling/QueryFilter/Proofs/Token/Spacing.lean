/-
  SPACING — only the texts of the tokens matter, not the blanks between them.

  1. **Specification** — `withGaps ts gaps`: the texts of the tokens, each with a gap of blanks
     behind it; only the last gap may be empty (`Gaps`).
  2. **Two texts in step** — `Respaced policy r r'`: `r'` has the tokens of `r` and other gaps.
     Looking ahead for parentheses and quotes does not tell the two apart (`solid_eq`,
     `closeQuote_iff`), and a wrapped lambda that begins in one begins in the other, since its word
     and the parenthesis behind that lie within one token (`wrappedLambda?_respaced`).
  3. **One token** — so what was read before `r` is read before `r'` (`lexeme_respaced`), one case
     for each rule of the scan, and by induction both texts have the same tokens
     (`exists_scans_of_respaced`).

  All together: `map_piece_tokenize_withGaps`.
-/
import QueryFilter.Proofs.Token.Ahead

namespace QueryFilter.Token

variable {policy : QuotePolicy}

/-! ## The specification -/

/-- The texts of tokens, each with a gap behind it. -/
def withGaps (ts : List Token) (gaps : List Text) : Text :=
  (List.zipWith (fun t gap => t.text ++ gap) ts gaps).flatten

/-- As many gaps as there are tokens, blank, and none but the last one empty. -/
structure Gaps (n : Nat) (gaps : List Text) : Prop where
  length_eq : gaps.length = n
  blank : ∀ gap ∈ gaps, ∀ c ∈ gap, Text.isBlank c = true
  apart : ∀ gap ∈ gaps.dropLast, gap ≠ []

/-- A text that is empty or starts with a blank. -/
def Apart (r : Text) : Prop := ∀ c s, r = c :: s → Text.isBlank c = true

theorem Apart.ends {r : Text} (h : Apart r) : Ends r := by
  intro c s hr
  simp [inWord, h c s hr]

theorem Apart.ne_cons {r : Text} (h : Apart r) {c : Char} (hc : Text.isBlank c = false) (s : Text) :
    r ≠ c :: s := by
  intro hr
  rw [h c s hr] at hc
  cases hc

theorem QuoteApart.of_apart {r : Text} (h : Apart r) (t : Text) : QuoteApart policy t r :=
  fun _ _ => h.ne_cons (by decide)

/-! ## Two texts in step -/

/-- A text with the tokens of another one and other gaps. -/
inductive Respaced (policy : QuotePolicy) : Text → Text → Prop
  | blanks {r r' : Text} (blank : ∀ c ∈ r, Text.isBlank c = true)
      (blank' : ∀ c ∈ r', Text.isBlank c = true) : Respaced policy r r'
  | token {gap gap' s r' : Text} {c : Char} {l : Lexeme} (blank : ∀ c ∈ gap, Text.isBlank c = true)
      (blank' : ∀ c ∈ gap', Text.isBlank c = true) (start : Text.isBlank c = false)
      (read : lexeme policy (c :: s) = l) (apart : Apart r') (behind : Respaced policy l.rest r') :
      Respaced policy (gap ++ c :: s) (gap' ++ (l.text ++ r'))

namespace Respaced

variable {r r' : Text}

theorem solid_eq (h : Respaced policy r r') : solid r' = solid r := by
  induction h with
  | blanks blank blank' => rw [solid_of_blank blank, solid_of_blank blank']
  | token blank blank' start read apart behind ih =>
    rw [solid_append, solid_append, solid_append, solid_of_blank blank, solid_of_blank blank', ih,
      ← solid_append, ← read, lexeme_append]

/-- Looking for a closing quote does not tell the texts apart. -/
theorem closeQuote_iff (h : Respaced policy r r') :
    closeQuote policy r' = none ↔ closeQuote policy r = none := by
  induction h with
  | blanks blank blank' =>
    have hnil := closeQuote_blank_append policy blank []
    have hnil' := closeQuote_blank_append policy blank' []
    rw [List.append_nil] at hnil hnil'
    rw [hnil, hnil']
  | @token _ _ s _ _ _ blank blank' start read apart behind ih =>
    subst read
    have hformed := QuoteApart.of_formed (formed_lexeme policy (s := s) start)
    rw [closeQuote_blank_append policy blank, closeQuote_blank_append policy blank',
      closeQuote_append_eq_none_iff (QuoteApart.of_apart apart _), ih,
      ← closeQuote_append_eq_none_iff hformed, lexeme_append]

end Respaced

theorem wrappedLambda?_ne_none_iff {s : Text} :
    wrappedLambda? ('(' :: s) ≠ none ↔
      ∃ u q, lambda? (Text.trimStart s) = some (u, q) ∧ closing? q ≠ none := by
  show ((lambda? (Text.trimStart s)).bind _) ≠ none ↔ _
  cases hlambda : lambda? (Text.trimStart s) with
  | none => simp
  | some p =>
    obtain ⟨u, q⟩ := p
    rw [Option.bind_some, ne_eq, after_eq_none_iff]
    constructor
    · intro hclosing
      exact ⟨u, q, rfl, hclosing⟩
    · rintro ⟨u', q', heq, hclosing⟩
      cases heq
      exact hclosing

/-- A word and the parenthesis behind it lie within a token that stands before a blank. -/
theorem exists_of_word_append {w t r q : Text} (hw : ∀ c ∈ w, inWord c = true) (hr : Apart r)
    (h : t ++ r = w ++ '(' :: q) : ∃ t', t = w ++ '(' :: t' := by
  rcases List.append_eq_append_iff.1 h with ⟨a, rfl, hr'⟩ | ⟨a, rfl, ha⟩
  · exfalso
    cases a with
    | nil => exact hr.ne_cons (by decide) _ hr'
    | cons d a => exact hr.ne_cons (inWord_iff.1 (hw d (by simp))).1 _ hr'
  · cases a with
    | nil => exact absurd ha.symm (hr.ne_cons (by decide) _)
    | cons d a =>
      rw [List.cons_append, List.cons.injEq] at ha
      obtain ⟨rfl, -⟩ := ha
      exact ⟨a, rfl⟩

/-- A lambda that begins with a token before one text begins with it before the other. -/
theorem exists_lambda?_of_solid {t r r' u q : Text} (hr' : Apart r') (h : solid r = solid r')
    (hlambda : lambda? (t ++ r') = some (u, q)) :
    ∃ u' q', lambda? (t ++ r) = some (u', q') ∧ solid q' = solid q := by
  obtain ⟨⟨field, body, hne, hfield, -, rfl⟩, happ⟩ := lambda?_eq_some.1 hlambda
  have hw := inWord_append_anySuffix hfield
  have hcollection : collection? (field ++ anySuffix) = some field :=
    collection?_eq_some_iff.2 ⟨hne, rfl⟩
  obtain ⟨t', rfl⟩ : ∃ t', t = field ++ anySuffix ++ '(' :: t' := by
    apply exists_of_word_append (q := body ++ ')' :: q) hw hr'
    rw [happ]
    simp
  have hread : ∀ s, lambda? (field ++ anySuffix ++ '(' :: t' ++ s) =
      after (field ++ anySuffix) (group? (Text.trimStart ('(' :: (t' ++ s)))) := by
    intro s
    have hends : Ends ('(' :: (t' ++ s)) := ends_cons (by decide) _
    have hstart : Text.trimStart ('(' :: (t' ++ s)) = '(' :: (t' ++ s) :=
      List.dropWhile_cons_of_neg (by decide)
    rw [List.append_assoc (field ++ anySuffix), List.cons_append, lambda?,
      word_append_of_ends hw hends, afterWord_append_of_ends hw hends, hcollection, hstart]
    rfl
  have hsolid : solid ('(' :: (t' ++ r)) = solid ('(' :: (t' ++ r')) := by
    rw [solid_cons (by decide), solid_cons (by decide), solid_append, solid_append, h]
  rw [hread] at hlambda
  obtain ⟨g, hgroup, -⟩ := after_eq_some_iff.1 hlambda
  obtain ⟨g', q', hgroup', hq'⟩ := exists_group?_of_solid hsolid hgroup
  exact ⟨_, q', (hread r).trans (after_eq_some_iff.2 ⟨g', hgroup', rfl⟩), hq'⟩

/-- Blanks at the front of a text are trimmed off. -/
theorem trimStart_append {gap s : Text} {c : Char} (hgap : ∀ c ∈ gap, Text.isBlank c = true)
    (hc : Text.isBlank c = false) : Text.trimStart (gap ++ c :: s) = c :: s := by
  rw [Text.trimStart, List.dropWhile_append_of_pos hgap, List.dropWhile_cons_of_neg (by simp [hc])]

/-- A token and what follows it begin as the text did that it was read off. -/
theorem exists_lexeme_text (policy : QuotePolicy) {c : Char} (s : Text)
    (hc : Text.isBlank c = false) :
    ∃ t, (lexeme policy (c :: s)).text = c :: t ∧ s = t ++ (lexeme policy (c :: s)).rest := by
  have happ := lexeme_append policy (c :: s)
  have hne := lexeme_ne_nil policy (s := s) hc
  generalize lexeme policy (c :: s) = l at happ hne ⊢
  obtain ⟨kind, text, rest⟩ := l
  cases text with
  | nil => exact absurd rfl hne
  | cons d t =>
    rw [List.cons_append, List.cons.injEq] at happ
    obtain ⟨rfl, rfl⟩ := happ
    exact ⟨t, rfl, rfl⟩

/-- **A parenthesis that opens no wrapped lambda before one text opens none before the other.** -/
theorem wrappedLambda?_respaced {r r' : Text} (h : Respaced policy r r')
    (hnone : wrappedLambda? ('(' :: r) = none) : wrappedLambda? ('(' :: r') = none := by
  by_contra hsome
  obtain ⟨u, q, hlambda, hclosing⟩ := wrappedLambda?_ne_none_iff.1 hsome
  refine absurd hnone (wrappedLambda?_ne_none_iff.2 ?_)
  cases h with
  | blanks _ blank' =>
    have hnil : Text.trimStart r' = [] := List.dropWhile_eq_nil_iff.2 blank'
    rw [hnil] at hlambda
    cases hlambda
  | @token gap gap' s r' c _ blank blank' start read apart behind =>
    subst read
    obtain ⟨t, ht, hs⟩ := exists_lexeme_text policy s start
    rw [ht, List.cons_append, trimStart_append blank' start, ← List.cons_append] at hlambda
    obtain ⟨u', q', hlambda', hq'⟩ := exists_lambda?_of_solid apart behind.solid_eq.symm hlambda
    refine ⟨u', q', ?_, closing?_ne_none_of_solid hq' hclosing⟩
    rw [trimStart_append blank start, hs]
    exact hlambda'

/-! ## One token -/

theorem call?_append_eq_none_iff {w r : Text} (hw : ∀ c ∈ w, inWord c = true) (hr : Ends r) :
    call? (w ++ r) = none ↔ Predicate.ofName? w = none ∨ group? (Text.trimStart r) = none := by
  rw [call?, word_append_of_ends hw hr, afterWord_append_of_ends hw hr]
  cases hname : Predicate.ofName? w with
  | none => simp
  | some op =>
    simp only [Option.isSome_some, if_true]
    rw [after_eq_none_iff]
    simp [Text.trimStart]

/-- A word that is no call before one text is none before the other. -/
theorem call?_respaced {w r r' : Text} (hw : ∀ c ∈ w, inWord c = true) (hr : Ends r) (hr' : Ends r')
    (h : solid r = solid r') (hnone : call? (w ++ r) = none) : call? (w ++ r') = none := by
  rw [call?_append_eq_none_iff hw hr] at hnone
  rw [call?_append_eq_none_iff hw hr']
  refine hnone.imp_right fun hnone => ?_
  by_contra hgroup
  obtain ⟨⟨g, q⟩, hgroup⟩ := Option.ne_none_iff_exists'.1 hgroup
  obtain ⟨g', q', hgroup', -⟩ := exists_group?_of_solid h hgroup
  rw [hgroup'] at hnone
  cases hnone

/-- What is read as a call, a lambda or a word before one text is read before the other. -/
theorem wordLexeme_respaced {s r' : Text} {l : Lexeme} (hread : wordLexeme s = l)
    (h : Respaced policy l.rest r') (hr' : Apart r') :
    wordLexeme (l.text ++ r') = ⟨l.kind, l.text, r'⟩ := by
  unfold wordLexeme at hread
  split at hread
  · rename_i t r hcall
    subst hread
    have hcall' : call? (t ++ r') = some (t, r') :=
      call?_eq_some_iff.2 ⟨(call?_eq_some_iff.1 hcall).1, rfl⟩
    show wordLexeme (t ++ r') = _
    rw [wordLexeme, hcall']
  · rename_i hcall
    split at hread
    · rename_i t r hlambda
      subst hread
      have hshape := (lambda?_eq_some.1 hlambda).1
      show wordLexeme (t ++ r') = _
      rw [wordLexeme, hshape.call?_eq_none, lambda?_eq_some.2 ⟨hshape, rfl⟩]
    · subst hread
      have hw : ∀ c ∈ word s, inWord c = true := fun _ hc => List.mem_takeWhile_imp hc
      rw [← word_append s] at hcall
      show wordLexeme (word s ++ r') = _
      rw [wordLexeme, call?_respaced hw (ends_afterWord s) hr'.ends h.solid_eq.symm hcall,
        lambda?_eq_none hw hr'.ends (Or.inr (hr'.ne_cons (by decide)))]
      simp only [word_append_of_ends hw hr'.ends, afterWord_append_of_ends hw hr'.ends]

/-- A literal that is read before one text is read before the other. -/
theorem quoted?_respaced {s t r r' : Text} (hread : quoted? policy s = some (t, r))
    (hr' : Apart r') : quoted? policy (t ++ r') = some (t, r') := by
  unfold quoted? at hread
  split at hread
  · obtain ⟨u, hu, rfl⟩ := after_eq_some_iff.1 hread
    rw [List.append_assoc, List.singleton_append, quoted?,
      closeQuote_any_rest hu fun _ => hr'.ne_cons (by decide)]
    rfl
  · cases hread

/-- And where none is read, none is read. -/
theorem quoted?_eq_none_of_respaced {c : Char} {s r' : Text} {l : Lexeme}
    (hc : Text.isBlank c = false) (hread : lexeme policy (c :: s) = l)
    (h : Respaced policy l.rest r') (hr' : Apart r') (hnone : quoted? policy (c :: s) = none) :
    quoted? policy (l.text ++ r') = none := by
  have hformed := QuoteApart.of_formed (formed_lexeme policy (s := s) hc)
  obtain ⟨t, ht, hs⟩ := exists_lexeme_text policy s hc
  rw [hread] at hformed ht hs
  rw [ht] at hformed ⊢
  by_cases hq : c = '\''
  · subst hq
    have hapart : QuoteApart policy t l.rest := hformed.of_append (s := ['\''])
    rw [quoted?, after_eq_none_iff, hs, closeQuote_append_eq_none_iff hapart, ← h.closeQuote_iff,
      ← closeQuote_append_eq_none_iff (QuoteApart.of_apart hr' t)] at hnone
    rw [List.cons_append, quoted?, hnone]
    rfl
  · exact quoted?_eq_none hq _

/-- **What is read before one text is read before the other.** -/
theorem lexeme_respaced {c : Char} {s r' : Text} {l : Lexeme} (hc : Text.isBlank c = false)
    (hread : lexeme policy (c :: s) = l) (h : Respaced policy l.rest r') (hr' : Apart r') :
    lexeme policy (l.text ++ r') = ⟨l.kind, l.text, r'⟩ := by
  obtain ⟨t, ht, -⟩ := exists_lexeme_text policy s hc
  rw [hread] at ht
  by_cases hword : inWord c = true
  · have hnone := quoted?_eq_none_of_respaced hc hread h hr'
    rw [lexeme_word hword] at hread
    rw [ht, List.cons_append, lexeme_word hword, ← List.cons_append, ← ht]
    split at hread
    · rename_i t r hquoted
      subst hread
      rw [quoted?_respaced hquoted hr']
    · rename_i hquoted
      rw [hnone hquoted]
      exact wordLexeme_respaced hread h hr'
  · -- what is neither a blank nor in a word is punctuation
    have hmark : c = '(' ∨ c = ')' ∨ c = ',' := by
      by_contra hnot
      obtain ⟨h₁, hnot⟩ := not_or.1 hnot
      obtain ⟨h₂, h₃⟩ := not_or.1 hnot
      exact hword (inWord_iff.2 ⟨hc, h₁, h₂, h₃⟩)
    rcases hmark with rfl | rfl | rfl
    · cases hwrapped : wrappedLambda? ('(' :: s) with
      | none =>
        rw [lexeme, hwrapped] at hread
        subst hread
        show lexeme policy ('(' :: r') = _
        rw [lexeme, wrappedLambda?_respaced h hwrapped]
      | some p =>
        obtain ⟨u, q⟩ := p
        obtain ⟨blanks, v, blanks', hblanks, hv, hblanks', hu, -⟩ :=
          wrappedLambda?_eq_some_iff.1 hwrapped
        have hwrapped' : wrappedLambda? (u ++ r') = some (u, r') :=
          wrappedLambda?_eq_some_iff.2 ⟨blanks, v, blanks', hblanks, hv, hblanks', hu, rfl⟩
        rw [lexeme, hwrapped] at hread
        subst hread
        show lexeme policy (u ++ r') = _
        rw [hu, List.cons_append] at hwrapped' ⊢
        rw [lexeme, hwrapped']
    · subst hread
      rfl
    · subst hread
      rfl

/-! ## All tokens -/

/-- Two texts in step are read as the same pieces, up to the blanks at their ends. -/
theorem exists_scans_of_respaced {r r' : Text} (h : Respaced policy r r') :
    ∃ pieces q q', Scans policy r pieces q ∧ Text.trimStart q = [] ∧
      Scans policy r' pieces q' ∧ Text.trimStart q' = [] := by
  induction h with
  | @blanks r r' blank blank' =>
    exact ⟨[], r, r', Scans.done r, List.dropWhile_eq_nil_iff.2 blank, Scans.done r',
      List.dropWhile_eq_nil_iff.2 blank'⟩
  | @token gap gap' s r' c l blank blank' start read apart behind ih =>
    obtain ⟨pieces, q, q', hscans, hq, hscans', hq'⟩ := ih
    obtain ⟨t, ht, -⟩ := exists_lexeme_text policy s start
    rw [read] at ht
    have hread := lexeme_respaced start read behind apart
    rw [ht, List.cons_append] at hread
    refine ⟨(l.kind, l.text) :: pieces, q, q',
      Scans.next (trimStart_append blank start) read hscans, hq, ?_, hq'⟩
    rw [ht, List.cons_append]
    exact Scans.next (trimStart_append blank' start) hread hscans'

theorem Gaps.tail {n : Nat} {gap : Text} {gaps : List Text} (h : Gaps (n + 1) (gap :: gaps)) :
    Gaps n gaps := by
  refine ⟨Nat.succ.inj h.length_eq, fun g hg => h.blank g (List.mem_cons_of_mem _ hg),
    fun g hg => ?_⟩
  apply h.apart
  cases gaps with
  | nil => cases hg
  | cons g' gaps => exact List.mem_cons_of_mem _ hg

/-- The tokens behind a cursor, with other gaps, are in step with what is left. -/
theorem respaced_withGaps (cur : Cursor) {lead : Text} {gaps : List Text}
    (hlead : ∀ c ∈ lead, Text.isBlank c = true) (h : Gaps (cur.drain policy).1.length gaps) :
    Respaced policy cur.rest (lead ++ withGaps (cur.drain policy).1 gaps) := by
  fun_induction Cursor.drain policy cur generalizing lead gaps with
  | case1 cur hnext =>
    refine Respaced.blanks (Cursor.blanks_of_next? hnext).1 fun c hc => hlead c ?_
    simpa [withGaps] using hc
  | case2 cur t cur' hnext ts last hdrain ih =>
    obtain ⟨gap, c, s, hgap, hc, hrest, -, rfl, rfl⟩ := Cursor.exists_lexeme_of_next? hnext
    rw [hdrain] at ih
    cases gaps with
    | nil => cases h.length_eq
    | cons gap' gaps =>
      have hblank := h.blank gap' (List.mem_cons_self ..)
      -- the gap behind a token is empty only where no other token follows
      have hapart : Apart (gap' ++ withGaps ts gaps) := by
        intro d u hd
        cases gap' with
        | cons b gap' =>
          cases hd
          exact hblank d (List.mem_cons_self ..)
        | nil =>
          cases gaps with
          | nil =>
            rw [withGaps, List.zipWith_nil_right] at hd
            cases hd
          | cons g gaps => exact absurd rfl (h.apart [] (List.mem_cons_self ..))
      rw [hrest, show withGaps (_ :: ts) (gap' :: gaps) = (_ ++ gap') ++ withGaps ts gaps from rfl,
        List.append_assoc]
      exact Respaced.token hgap hlead hc rfl hapart (ih hblank h.tail)

/-- **Only the texts of the tokens matter, not the blanks between them.** -/
theorem map_piece_tokenize_withGaps (policy : QuotePolicy) (text : Text) {lead : Text}
    {gaps : List Text}
    (hlead : ∀ c ∈ lead, Text.isBlank c = true) (h : Gaps (tokenize policy text).length gaps) :
    (tokenize policy (lead ++ withGaps (tokenize policy text) gaps)).map piece =
      (tokenize policy text).map piece := by
  obtain ⟨pieces, q, q', hscans, hq, hscans', hq'⟩ :=
    exists_scans_of_respaced (respaced_withGaps (Cursor.start text) hlead h)
  rw [show (Cursor.start text).rest = text from rfl] at hscans
  rw [tokenize_of_scans hscans hq]
  exact tokenize_of_scans hscans' hq'

end QueryFilter.Token
