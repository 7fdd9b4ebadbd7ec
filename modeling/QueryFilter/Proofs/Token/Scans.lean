/-
  SCANNING WHAT WAS WRITTEN — which tokens a text falls into when its pieces are known.

  1. **Relation** — `Scans policy s pieces r`: from `s` on, the scan reads these pieces and comes to
     `r`.  Scans compose (`Scans.trans`), so that a text is scanned piece by piece; the places of
     tokens, which nothing that reads them asks for, are left out.
  2. **Bridge** — if only blanks are left, the pieces are the tokens of the text
     (`tokenize_of_scans`).
  3. **Steps** — for each kind of token, a text that is read as that token, whatever stands behind
     it within the stated bounds.
-/
import Mathlib.Data.List.TakeWhile
import QueryFilter.Proofs.Token.Word
import QueryFilter.Token.Cursor

namespace QueryFilter.Token

open Text (AllBlank)

/-- A token without its place. -/
def piece (t : Token) : Kind × Text := (t.kind, t.text)

/-- One token with a given piece. -/
theorem exists_of_map_piece {ts : List Token} {k : Kind} {s : Text} {ps : List (Kind × Text)}
    (h : ts.map piece = (k, s) :: ps) :
    ∃ t rest, ts = t :: rest ∧ t.kind = k ∧ t.text = s ∧ rest.map piece = ps := by
  obtain ⟨t, rest, rfl, ht, hrest⟩ := List.map_eq_cons_iff.1 h
  exact ⟨t, rest, rfl, congrArg Prod.fst ht, congrArg Prod.snd ht, hrest⟩

/-- From a text on, these pieces are read, and this is left. -/
inductive Scans (policy : QuotePolicy) : Text → List (Kind × Text) → Text → Prop
  | done (s : Text) : Scans policy s [] s
  | next {s s' r : Text} {c : Char} {l : Lexeme} {pieces : List (Kind × Text)}
      (start : Text.trimStart s = c :: s') (read : lexeme policy (c :: s') = l)
      (rest : Scans policy l.rest pieces r) : Scans policy s ((l.kind, l.text) :: pieces) r

namespace Scans

variable {policy : QuotePolicy}

/-- Reading goes on where it stopped. -/
theorem trans {s r q : Text} {ps qs : List (Kind × Text)} (h₁ : Scans policy s ps r)
    (h₂ : Scans policy r qs q) : Scans policy s (ps ++ qs) q := by
  induction h₁ with
  | done s => exact h₂
  | next start read _ ih => exact next start read (ih h₂)

/-- A blank before a token is skipped. -/
theorem blank {c : Char} {s r : Text} {p : Kind × Text} {ps : List (Kind × Text)}
    (hc : Text.isBlank c = true) (h : Scans policy s (p :: ps) r) :
    Scans policy (c :: s) (p :: ps) r := by
  cases h with
  | next start read rest =>
    refine next ?_ read rest
    rw [Text.trimStart, List.dropWhile_cons_of_pos hc]
    exact start

/-- Blanks before a token are skipped. -/
theorem blanks {a s r : Text} {p : Kind × Text} {ps : List (Kind × Text)}
    (ha : AllBlank a) (h : Scans policy s (p :: ps) r) : Scans policy (a ++ s) (p :: ps) r := by
  induction a with
  | nil => exact h
  | cons c a ih =>
    exact .blank (ha c (List.mem_cons_self ..)) (ih fun d hd => ha d (List.mem_cons_of_mem _ hd))

/-- One token at the front of a text. -/
theorem single {c : Char} {s t r : Text} {k : Kind} (hc : Text.isBlank c = false)
    (h : lexeme policy (c :: s) = ⟨k, t, r⟩) : Scans policy (c :: s) [(k, t)] r := by
  have hstart : Text.trimStart (c :: s) = c :: s := List.dropWhile_cons_of_neg (by simp [hc])
  exact next hstart h (done r)

end Scans

/-! ## The bridge to the tokens of a text -/

/-- One step of the scan: it ends, or it goes on behind a token. -/
theorem drain_of_none {policy : QuotePolicy} {cur : Cursor} (h : cur.next? policy = none) :
    cur.drain policy = ([], cur.skipBlanks) := by
  rw [Cursor.drain]
  split
  · rfl
  · rename_i heq
    rw [h] at heq
    cases heq

theorem drain_of_some {policy : QuotePolicy} {cur cur' : Cursor} {t : Token}
    (h : cur.next? policy = some (t, cur')) :
    cur.drain policy = (t :: (cur'.drain policy).1, (cur'.drain policy).2) := by
  rw [Cursor.drain]
  split
  · rename_i heq
    rw [h] at heq
    cases heq
  · rename_i heq
    rw [h] at heq
    cases heq
    rfl

/-- With only blanks left there is no token. -/
theorem drain_of_trimStart_nil (policy : QuotePolicy) {s : Text} (pos : Nat)
    (h : Text.trimStart s = []) : ((Cursor.mk s pos).drain policy).1 = [] := by
  have hnext : (Cursor.mk s pos).next? policy = none := by
    simp only [Cursor.next?, Cursor.skipBlanks, h]
  rw [drain_of_none hnext]

/-- Otherwise the token at the front is the first one. -/
theorem drain_of_trimStart_cons (policy : QuotePolicy) {s s' : Text} {c : Char} (pos : Nat)
    (h : Text.trimStart s = c :: s') :
    ∃ t pos', piece t = ((lexeme policy (c :: s')).kind, (lexeme policy (c :: s')).text) ∧
      ((Cursor.mk s pos).drain policy).1 =
        t :: ((Cursor.mk (lexeme policy (c :: s')).rest pos').drain policy).1 := by
  have hnext : ∃ p : Nat, (Cursor.mk s pos).next? policy =
      some (⟨(lexeme policy (c :: s')).kind, (lexeme policy (c :: s')).text, p⟩,
        ⟨(lexeme policy (c :: s')).rest, p + (lexeme policy (c :: s')).text.length⟩) := by
    refine ⟨pos + (s.takeWhile Text.isBlank).length, ?_⟩
    simp only [Cursor.next?, Cursor.skipBlanks, h]
  obtain ⟨p, hnext⟩ := hnext
  refine ⟨⟨(lexeme policy (c :: s')).kind, (lexeme policy (c :: s')).text, p⟩,
    p + (lexeme policy (c :: s')).text.length, rfl, ?_⟩
  rw [drain_of_some hnext]

/-- The tokens of a text begin with the pieces that were read; the others are those of what is
    left. -/
theorem exists_drain_of_scans {policy : QuotePolicy} {s r : Text} {pieces : List (Kind × Text)}
    (h : Scans policy s pieces r) (pos : Nat) :
    ∃ pos', ((Cursor.mk s pos).drain policy).1.map piece =
      pieces ++ ((Cursor.mk r pos').drain policy).1.map piece := by
  -- the scan and the cursor take the same steps, but only the cursor counts places
  induction h generalizing pos with
  | done s => exact ⟨pos, rfl⟩
  | next start read _ ih =>
    subst read
    obtain ⟨t, pos₁, ht, hd⟩ := drain_of_trimStart_cons policy pos start
    obtain ⟨pos', hrest⟩ := ih pos₁
    exact ⟨pos', by rw [hd, List.map_cons, ht, hrest, List.cons_append]⟩

theorem exists_tokens_of_scans {policy : QuotePolicy} {s r : Text} {pieces : List (Kind × Text)}
    (h : Scans policy s pieces r) : ∃ rest, (tokenize policy s).map piece = pieces ++ rest := by
  obtain ⟨pos', hd⟩ := exists_drain_of_scans h 0
  exact ⟨_, hd⟩

/-- Blanks are trimmed off altogether. -/
theorem trimStart_of_allBlank {s : Text} (h : AllBlank s) : Text.trimStart s = [] :=
  List.dropWhile_eq_nil_iff.2 h

/-- **The pieces of a text are its tokens**, if nothing but blanks is left. -/
theorem tokenize_of_scans {policy : QuotePolicy} {s r : Text} {pieces : List (Kind × Text)}
    (h : Scans policy s pieces r) (hr : Text.trimStart r = []) :
    (tokenize policy s).map piece = pieces := by
  obtain ⟨pos', hd⟩ := exists_drain_of_scans h 0
  rw [drain_of_trimStart_nil policy pos' hr] at hd
  rw [tokenize, Cursor.start, hd, List.map_nil, List.append_nil]

/-! ## Words -/

section
variable {policy : QuotePolicy} {r : Text}

/-- A character of a word begins a literal, or else a word. -/
theorem lexeme_word {c : Char} {s : Text} (hc : inWord c = true) :
    lexeme policy (c :: s) =
      match quoted? policy (c :: s) with
      | some (t, r) => ⟨.string, t, r⟩
      | none => wordLexeme (c :: s) := by
  obtain ⟨-, h₁, h₂, h₃⟩ := inWord_iff.1 hc
  unfold lexeme
  split
  · rename_i heq
    cases heq
    exact absurd rfl h₁
  · rename_i heq
    cases heq
    exact absurd rfl h₂
  · rename_i heq
    cases heq
    exact absurd rfl h₃
  · rfl

theorem quoted?_eq_none {c : Char} (hq : c ≠ '\'') (s : Text) : quoted? policy (c :: s) = none := by
  unfold quoted?
  split
  · rename_i heq
    cases heq
    exact absurd rfl hq
  · rfl

/-- A character of a word other than a single quote is no case of its own. -/
theorem lexeme_of_inWord {c : Char} {s : Text} (hc : inWord c = true) (hq : c ≠ '\'') :
    lexeme policy (c :: s) = wordLexeme (c :: s) := by
  rw [lexeme_word hc, quoted?_eq_none hq]

/-- **A plain word is one token**, a keyword or bare, provided that what follows ends it and makes
    it neither the head of a lambda nor the name of a call. -/
theorem scans_word {w : Text} (hw : PlainWord w) (hr : Ends r) (hopen : ∀ s, r ≠ '(' :: s)
    (hcall : Predicate.ofName? w = none ∨ ∀ s, r.dropWhile Text.isBlank ≠ '(' :: s) :
    Scans policy (w ++ r) [(Kind.ofWord w, w)] r := by
  have hlexeme : wordLexeme (w ++ r) = ⟨Kind.ofWord w, w, r⟩ := by
    rw [wordLexeme, call?_eq_none hw.inWord hr hcall, lambda?_eq_none hw.inWord hr (Or.inr hopen)]
    simp only [word_append_of_ends hw.inWord hr, afterWord_append_of_ends hw.inWord hr]
  cases w with
  | nil => exact absurd rfl hw.ne_nil
  | cons c w =>
    have hc := hw.inWord c (List.mem_cons_self ..)
    apply Scans.single (inWord_iff.1 hc).1
    rw [← hlexeme]
    exact lexeme_of_inWord hc (hw.quoteFree c (List.mem_cons_self ..)).1

/-- A word before blanks, unless it is the name of a call. -/
theorem scans_word_blanks {w a : Text} (hw : PlainWord w) (ha : AllBlank a)
    (hne : a ≠ [])
    (hcall : Predicate.ofName? w = none ∨ ∀ s, (a ++ r).dropWhile Text.isBlank ≠ '(' :: s) :
    Scans policy (w ++ (a ++ r)) [(Kind.ofWord w, w)] (a ++ r) := by
  refine scans_word hw (ends_append ha (Or.inl hne)) ?_ hcall
  intro s heq
  cases a with
  | nil => exact hne rfl
  | cons c a =>
    cases heq
    exact absurd (ha '(' (List.mem_cons_self ..)) (by decide)

/-! ## Punctuation -/

theorem scans_closing : Scans policy (')' :: r) [(.closing, [')'])] r :=
  Scans.single (by decide) rfl

theorem scans_comma : Scans policy (',' :: r) [(.comma, [','])] r :=
  Scans.single (by decide) rfl

/-- A parenthesis that opens no wrapped lambda is a token of its own. -/
theorem scans_opening (h : wrappedLambda? ('(' :: r) = none) :
    Scans policy ('(' :: r) [(.opening, ['('])] r := by
  apply Scans.single (by decide)
  rw [lexeme, h]

/-- A parenthesis with no lambda behind it opens no wrapped lambda. -/
theorem wrappedLambda?_eq_none (h : lambda? (r.dropWhile Text.isBlank) = none) :
    wrappedLambda? ('(' :: r) = none := by
  rw [wrappedLambda?, h]
  rfl

/-! ## Quoted literals -/

theorem closeQuote_other {c : Char} (hc : c ≠ '\'') (s : Text) :
    closeQuote policy (c :: s) = after [c] (closeQuote policy s) := by
  rw [closeQuote.eq_def]
  simp [hc]

theorem closeQuote_pair (s : Text) :
    closeQuote .doubled ('\'' :: '\'' :: s) = after ['\'', '\''] (closeQuote .doubled s) := by
  rw [closeQuote.eq_def]
  simp

theorem closeQuote_end (hr : ∀ t, r ≠ '\'' :: t) :
    closeQuote .doubled ('\'' :: r) = some (['\''], r) := by
  rw [closeQuote.eq_def]
  simp only [if_true]
  split
  · exact absurd rfl (hr _)
  · rfl

/-- The scan for the closing quote passes over a text with its quotes doubled. -/
theorem closeQuote_doubleQuotes (s : Text) (hr : ∀ t, r ≠ '\'' :: t) :
    closeQuote .doubled (Literal.doubleQuotes s ++ '\'' :: r) =
      some (Literal.doubleQuotes s ++ ['\''], r) := by
  induction s with
  | nil => exact closeQuote_end hr
  | cons c s ih =>
    by_cases hc : c = '\''
    · subst hc
      show closeQuote .doubled ('\'' :: '\'' :: (Literal.doubleQuotes s ++ '\'' :: r)) = _
      rw [closeQuote_pair, ih]
      rfl
    · have hdouble : Literal.doubleQuotes (c :: s) = c :: Literal.doubleQuotes s := by
        simp [Literal.doubleQuotes, hc]
      rw [hdouble, List.cons_append, closeQuote_other hc, ih]
      rfl

/-- **A quoted text is one token, whatever it holds**, unless another quote follows. -/
theorem scans_quote (s : Text) (hr : ∀ t, r ≠ '\'' :: t) :
    Scans .doubled (Literal.quote s ++ r) [(.string, Literal.quote s)] r := by
  have hquoted : quoted? .doubled ('\'' :: (Literal.doubleQuotes s ++ '\'' :: r)) =
      some (Literal.quote s, r) := by
    rw [quoted?, closeQuote_doubleQuotes s hr]
    rfl
  have happend : Literal.quote s ++ r = '\'' :: (Literal.doubleQuotes s ++ '\'' :: r) := by
    simp [Literal.quote]
  rw [happend]
  apply Scans.single (by decide)
  rw [lexeme, hquoted]
  all_goals
    intro t ht
    cases ht

/-! ## Operands -/

/-- A text that can stand as the value of a condition: a quoted literal or a bare plain word. -/
inductive Operand : Text → Prop
  | quoted (s : Text) : Operand (Literal.quote s)
  | word {w : Text} (plain : PlainWord w) (bare : Kind.ofWord w = .bare) : Operand w

/-- The kind of an operand. -/
def operandKind (v : Text) : Kind := if v.head? = some '\'' then .string else .bare

theorem isValue_operandKind (v : Text) : (operandKind v).isValue = true := by
  unfold operandKind
  split <;> rfl

theorem Operand.balanced {v : Text} (h : Operand v) : Balanced v := by
  cases h with
  | quoted s => exact balanced_quote s
  | word plain bare => exact plain.balanced

/-- **An operand is one token**, under the same provisions as a word. -/
theorem scans_operand {v : Text} (hv : Operand v) (hr : Ends r) (hopen : ∀ s, r ≠ '(' :: s)
    (hcall : Predicate.ofName? v = none ∨ ∀ s, r.dropWhile Text.isBlank ≠ '(' :: s) :
    Scans .doubled (v ++ r) [(operandKind v, v)] r := by
  cases hv with
  | quoted s =>
    refine scans_quote s ?_
    intro t ht
    have hquote := hr '\'' t ht
    revert hquote
    decide
  | word plain bare =>
    have hkind : operandKind v = .bare := by
      rw [operandKind, if_neg]
      intro hhead
      exact (plain.quoteFree '\'' (List.mem_of_head? hhead)).1 rfl
    rw [hkind, ← bare]
    exact scans_word plain hr hopen hcall

/-- **A comparison is three tokens**, with any blanks around its operator. -/
theorem scans_comparison {field value a b : Text} (op : Comparison) (hfield : PlainName field)
    (ha : AllBlank a) (hane : a ≠ []) (hb : AllBlank b) (hbne : b ≠ []) (hvalue : Operand value)
    (hr : Ends r) (hopen : ∀ s, r ≠ '(' :: s)
    (hcall : Predicate.ofName? value = none ∨ ∀ s, r.dropWhile Text.isBlank ≠ '(' :: s) :
    Scans .doubled (field ++ (a ++ (op.name ++ (b ++ (value ++ r)))))
      [(.bare, field), (.comparison, op.name), (operandKind value, value)] r := by
  have hop := plainWord_comparison op
  have hfirst : Scans .doubled (field ++ (a ++ (op.name ++ (b ++ (value ++ r))))) [(.bare, field)]
      (a ++ (op.name ++ (b ++ (value ++ r)))) := by
    rw [← hfield.notKeyword]
    exact scans_word_blanks hfield.toPlainWord ha hane
      (Or.inr (dropWhile_append_ne_opening ha hop.ne_nil hop.inWord _))
  have hsecond : Scans .doubled (op.name ++ (b ++ (value ++ r))) [(.comparison, op.name)]
      (b ++ (value ++ r)) := by
    rw [← ofWord_comparison op]
    exact scans_word_blanks hop hb hbne (Or.inl (predicate_ofName?_comparison op))
  have hthird := scans_operand hvalue hr hopen hcall
  exact hfirst.trans ((hsecond.trans (hthird.blanks hb)).blanks ha)

/-- The tokens of a list of operands: a comma stands between any two. -/
def listPieces (vs : List Text) : List (Kind × Text) :=
  (vs.map fun v => (operandKind v, v)).intersperse (.comma, [','])

/-- A list is its first element and the others, each with a separator before it. -/
theorem joinWith_cons (separator s : Text) (rest : List Text) :
    Text.joinWith separator (s :: rest) = s ++ rest.flatMap fun t => separator ++ t := by
  induction rest generalizing s with
  | nil => simp [Text.joinWith]
  | cons t rest ih =>
    show s ++ separator ++ Text.joinWith separator (t :: rest) = _
    rw [ih, List.flatMap_cons, List.append_assoc, List.append_assoc]

/-- **A list of operands is one token for each, with a comma between any two.** -/
theorem scans_list {vs : List Text} (h : ∀ v ∈ vs, Operand v) :
    Scans .doubled (Text.joinWith ", ".toList vs ++ ')' :: r) (listPieces vs) (')' :: r) := by
  -- behind a value stands a comma or a parenthesis that closes, so that it names no call
  have hstop : ∀ (c : Char) (s t : Text), Text.isBlank c = false → c ≠ '(' →
      (c :: s).dropWhile Text.isBlank ≠ '(' :: t := by
    intro c s t hc hparen heq
    rw [List.dropWhile_cons_of_neg (by simp [hc])] at heq
    cases heq
    exact hparen rfl
  induction vs with
  | nil => exact Scans.done _
  | cons v vs ih =>
    have hv := h v (List.mem_cons_self ..)
    cases vs with
    | nil =>
      exact scans_operand hv (ends_cons (by decide) _) (by simp)
        (Or.inr fun t => hstop _ _ t (by decide) (by decide))
    | cons v' vs =>
      have hrest := ih fun u hu => h u (List.mem_cons_of_mem _ hu)
      have htext : Text.joinWith ", ".toList (v :: v' :: vs) ++ ')' :: r =
          v ++ ',' :: ' ' :: (Text.joinWith ", ".toList (v' :: vs) ++ ')' :: r) := by
        simp [Text.joinWith]
      have hfirst := scans_operand (r := ',' :: ' ' ::
          (Text.joinWith ", ".toList (v' :: vs) ++ ')' :: r)) hv (ends_cons (by decide) _) (by simp)
        (Or.inr fun t => hstop _ _ t (by decide) (by decide))
      obtain ⟨p, ps, hpieces⟩ : ∃ p ps, listPieces (v' :: vs) = p :: ps := by
        cases vs with
        | nil => exact ⟨_, _, rfl⟩
        | cons v'' vs => exact ⟨_, _, rfl⟩
      have hcons : listPieces (v :: v' :: vs) =
          (operandKind v, v) :: (.comma, [',']) :: listPieces (v' :: vs) := rfl
      rw [htext, hcons, hpieces]
      rw [hpieces] at hrest
      exact hfirst.trans (scans_comma.trans (hrest.blank (by decide)))

/-! ## Calls and lambdas -/

/-- A closing parenthesis is found behind blanks. -/
theorem closing?_eq_some_iff {s t r : Text} :
    closing? s = some (t, r) ↔
      ∃ blanks, (∀ c ∈ blanks, Text.isBlank c = true) ∧ t = blanks ++ [')'] ∧ s = t ++ r := by
  constructor
  · intro h
    have hs := (closing?_append h).symm
    unfold closing? at h
    split at h
    · cases h
      exact ⟨_, fun _ hc => List.mem_takeWhile_imp hc, rfl, hs⟩
    · cases h
  · rintro ⟨blanks, hblanks, rfl, rfl⟩
    have happ : blanks ++ [')'] ++ r = blanks ++ ')' :: r := by simp
    rw [happ, closing?, List.dropWhile_append_of_pos hblanks, List.takeWhile_append_of_pos hblanks,
      List.dropWhile_cons_of_neg (by decide), List.takeWhile_cons_of_neg (by decide)]
    simp

theorem closing?_closing : closing? (')' :: r) = some ([')'], r) :=
  closing?_eq_some_iff.2 ⟨[], by simp, rfl, rfl⟩

/-- The suffix of lambdas goes on with the word of a field. -/
theorem inWord_append_anySuffix {field : Text} (h : ∀ c ∈ field, inWord c = true) :
    ∀ c ∈ field ++ anySuffix, inWord c = true := by
  have hall : anySuffix.all inWord = true := by decide
  intro c hc
  rcases List.mem_append.1 hc with hc | hc
  · exact h c hc
  · exact List.all_eq_true.1 hall c hc

/-- A collection field, the suffix of lambdas, and a group. -/
theorem lambda?_of_balanced {field body : Text} (hne : field ≠ [])
    (hfield : ∀ c ∈ field, inWord c = true) (h : Balanced body) :
    lambda? (field ++ (anySuffix ++ '(' :: (body ++ ')' :: r))) =
      some (field ++ (anySuffix ++ '(' :: (body ++ [')'])), r) := by
  have hw := inWord_append_anySuffix hfield
  have hends : Ends ('(' :: (body ++ ')' :: r)) := ends_cons (by decide) _
  have hcollection := collection?_eq_some_iff.2 ⟨hne, rfl⟩
  rw [← List.append_assoc, lambda?, word_append_of_ends hw hends, afterWord_append_of_ends hw hends,
    hcollection, group?_of_balanced h]
  simp [after]

end

end QueryFilter.Token
