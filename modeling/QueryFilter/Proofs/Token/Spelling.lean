/-
  SPELLINGS OF A LAMBDA — the many texts of one lambda, and what they are taken apart into.

  1. **Specification** — `Spelling field v w r text`: the text says of the field `field` that
     the relation `r` holds between some element `v` of it and the value `w`.  Both the whole
     and its condition may stand in parentheses of their own, and there may be blanks wherever
     they do not cut through a word.
  2. **One token** — every spelling is balanced, and so a single token (`scans_of_spelling`).
  3. **Head and body** — the head of a spelling is found past its parentheses and blanks
     (`ofText?_of_spelling`), and its body is scanned as the pieces of the condition
     (`map_piece_unwrap_tokenize`).

  All together: whatever the spelling, the token is taken apart into the field, the variable, the
  operator and the value (`ofToken_of_spelling`).
-/
import QueryFilter.Proofs.Token.Ahead

namespace QueryFilter

open Text (AllBlank allBlank_nil allBlank_space)
open Token

/-! ## The specification -/

namespace Lambda

/-- A field that can stand in front of `/any`: no blank, parenthesis or comma, and no literal begins
    with it. -/
structure CollectionField (field : Text) : Prop where
  ne_nil : field ≠ []
  inWord : ∀ c ∈ field, Token.inWord c = true
  unquoted : field.head? ≠ some '\''

/-- A name that can stand for an element: name characters, and no keyword. -/
structure VariableName (v : Text) : Prop where
  ne_nil : v ≠ []
  isNameChar : ∀ c ∈ v, Text.isNameChar c = true
  notKeyword : Kind.ofWord v = .bare

/-- A text as it is, or in one pair of parentheses with blanks just inside them. -/
inductive MaybeParenthesized (P : Text → Prop) : Text → Prop
  | bare {s : Text} (inner : P s) : MaybeParenthesized P s
  | parenthesized {a s b : Text} (before : AllBlank a) (inner : P s) (behind : AllBlank b) :
      MaybeParenthesized P ('(' :: (a ++ (s ++ (b ++ [')']))))

/-- The texts of a condition on the variable `v` and the value `w`. -/
inductive ConditionSpelling (v w : Text) : Relation → Text → Prop
  /-- Two words that meet need a blank between them. -/
  | comparison (op : Comparison) {a b : Text} (left : AllBlank a) (left_ne_nil : a ≠ [])
      (right : AllBlank b) (right_ne_nil : b ≠ []) :
      ConditionSpelling v w (.compare op) (v ++ (a ++ (op.name ++ (b ++ w))))
  | call (op : Predicate) {a b c d e : Text} (behind_op : AllBlank a) (before_name : AllBlank b)
      (behind_name : AllBlank c) (before_value : AllBlank d) (behind_value : AllBlank e) :
      ConditionSpelling v w (.call op)
        (op.name ++ (a ++ '(' :: ((b ++ (v ++ (c ++ ',' :: (d ++ (w ++ e))))) ++ [')'])))

/-- The texts of a lambda without parentheses around it. -/
inductive BareSpelling (field v w : Text) (r : Relation) : Text → Prop
  | mk {a b c condition d : Text} (before_name : AllBlank a) (behind_name : AllBlank b)
      (before_condition : AllBlank c) (inner : MaybeParenthesized (ConditionSpelling v w r) condition)
      (behind_condition : AllBlank d) :
      BareSpelling field v w r
        (field ++ (anySuffix ++ '(' :: ((a ++ (v ++ (b ++ ':' :: (c ++ (condition ++ d))))) ++ [')'])))

/-- **The texts of a lambda.** -/
def Spelling (field v w : Text) (r : Relation) : Text → Prop :=
  MaybeParenthesized (BareSpelling field v w r)

/-- The values that a condition can be about. -/
def Admits : Relation → Text → Prop
  | .compare _, w => Operand w
  | .call _, w => w.Stripped ∧ w ≠ [] ∧ Balanced w

end Lambda

/-! ## Blanks and names -/

namespace Token

theorem neutral_of_isNameChar {c : Char} (hc : Text.isNameChar c = true) : Neutral c := by
  refine ⟨?_, ?_, ?_, ?_⟩
  all_goals
    rintro rfl
    revert hc
    decide

theorem inWord_of_isNameChar {c : Char} (hc : Text.isNameChar c = true) : inWord c = true := by
  obtain ⟨h₁, h₂, -, -⟩ := neutral_of_isNameChar hc
  refine inWord_iff.2 ⟨?_, h₁, h₂, ?_⟩
  · cases hblank : Text.isBlank c with
    | false => rfl
    | true =>
      rw [Text.isNameChar_of_isBlank hblank] at hc
      cases hc
  · rintro rfl
    revert hc
    decide

theorem balanced_of_allBlank {s : Text} (h : AllBlank s) : Balanced s :=
  balanced_of_neutral fun c hc => neutral_of_isBlank (h c hc)

end Token

namespace Lambda

theorem VariableName.plainName {v : Text} (h : VariableName v) : PlainName v where
  ne_nil := h.ne_nil
  inWord := fun c hc => inWord_of_isNameChar (h.isNameChar c hc)
  quoteFree := fun c hc => (neutral_of_isNameChar (h.isNameChar c hc)).2.2
  notKeyword := h.notKeyword

/-- No name ends in the suffix of lambdas. -/
theorem VariableName.collection? {v : Text} (h : VariableName v) : collection? v = none := by
  cases hcollection : Token.collection? v with
  | none => rfl
  | some field =>
    exfalso
    obtain ⟨-, rfl⟩ := collection?_eq_some_iff.1 hcollection
    have hslash := h.isNameChar '/' (List.mem_append_right _ (by decide))
    revert hslash
    decide

/-- A decidable form of the conditions, for names that are given. -/
theorem variableName_of_all {v : Text} (hne : v ≠ []) (hall : v.all Text.isNameChar = true)
    (hbare : Kind.ofWord v = .bare) : VariableName v :=
  ⟨hne, List.all_eq_true.1 hall, hbare⟩

theorem variableName_binder : VariableName Clause.binder :=
  variableName_of_all (by decide) (by decide) (by decide)

theorem Admits.balanced {r : Relation} {w : Text} (h : Admits r w) : Balanced w := by
  cases r with
  | compare op => exact Operand.balanced h
  | call op => exact h.2.2

/-- An operand fits every condition. -/
theorem admits_of_operand (r : Relation) {w : Text} (h : Operand w) : Admits r w := by
  cases r with
  | compare op => exact h
  | call op => exact ⟨h.stripped, h.ne_nil, h.balanced⟩

/-! ## One token -/

section
variable {field v w : Text} {r : Relation}

theorem MaybeParenthesized.balanced {P : Text → Prop} (hP : ∀ s, P s → Balanced s) {t : Text}
    (h : MaybeParenthesized P t) : Balanced t := by
  cases h with
  | bare inner => exact hP t inner
  | @parenthesized a s b before inner behind =>
    have hinner := (balanced_of_allBlank before).append
      ((hP s inner).append (balanced_of_allBlank behind))
    have htext : '(' :: (a ++ (s ++ (b ++ [')']))) = '(' :: ((a ++ (s ++ b)) ++ [')']) := by simp
    rw [htext]
    exact hinner.parenthesize

theorem balanced_arguments {b c d e : Text} (hv : VariableName v) (hw : Balanced w)
    (hb : AllBlank b) (hc : AllBlank c) (hd : AllBlank d) (he : AllBlank e) :
    Balanced (b ++ (v ++ (c ++ ',' :: (d ++ (w ++ e))))) := by
  have hcomma : Balanced [','] := rfl
  have htail := (balanced_of_allBlank hd).append (hw.append (balanced_of_allBlank he))
  exact (balanced_of_allBlank hb).append (hv.plainName.balanced.append
    ((balanced_of_allBlank hc).append (hcomma.append htail)))

theorem ConditionSpelling.balanced {t : Text} (hv : VariableName v) (hw : Balanced w)
    (h : ConditionSpelling v w r t) : Balanced t := by
  cases h with
  | comparison op left _ right _ =>
    exact hv.plainName.balanced.append ((balanced_of_allBlank left).append
      ((plainWord_comparison op).balanced.append ((balanced_of_allBlank right).append hw)))
  | call op behind_op before_name behind_name before_value behind_value =>
    have hgroup := (balanced_arguments hv hw before_name behind_name before_value
      behind_value).parenthesize
    exact (plainWord_predicate op).balanced.append ((balanced_of_allBlank behind_op).append hgroup)

/-- A spelling without parentheses around it is a lambda. -/
theorem BareSpelling.isLambda {t : Text} (hne : field ≠ []) (hfield : ∀ c ∈ field, inWord c = true)
    (hv : VariableName v) (hw : Balanced w) (h : BareSpelling field v w r t) : IsLambda t := by
  obtain ⟨before_name, behind_name, before_condition, inner, behind_condition⟩ := h
  have hcondition := inner.balanced fun s hs => hs.balanced hv hw
  have hcolon : Balanced [':'] := rfl
  have hbody := (balanced_of_allBlank before_condition).append
    (hcondition.append (balanced_of_allBlank behind_condition))
  refine ⟨field, _, hne, hfield, ?_, rfl⟩
  exact (balanced_of_allBlank before_name).append (hv.plainName.balanced.append
    ((balanced_of_allBlank behind_name).append (hcolon.append hbody)))

/-- **Every spelling of a lambda is one token**, whatever follows. -/
theorem scans_of_spelling {policy : QuotePolicy} {t : Text} (hfield : CollectionField field)
    (hv : VariableName v) (hw : Balanced w) (h : Spelling field v w r t) (rest : Text) :
    Scans policy (t ++ rest) [(.lambda, t)] rest := by
  cases h with
  | bare inner =>
    refine scans_of_isLambda (inner.isLambda hfield.ne_nil hfield.inWord hv hw) ?_ rest
    obtain ⟨-, -, -, -, -⟩ := inner
    intro hhead
    cases field with
    | nil => exact hfield.ne_nil rfl
    | cons c field => exact hfield.unquoted hhead
  | parenthesized before inner behind =>
    exact scans_of_wrapped before (inner.isLambda hfield.ne_nil hfield.inWord hv hw) behind rest

/-- So it is the only token of its text. -/
theorem map_piece_tokenize_of_spelling {policy : QuotePolicy} {t : Text}
    (hfield : CollectionField field) (hv : VariableName v) (hw : Balanced w)
    (h : Spelling field v w r t) : (tokenize policy t).map piece = [(.lambda, t)] := by
  have hscan : Scans policy (t ++ []) [(.lambda, t)] [] := scans_of_spelling hfield hv hw h []
  rw [List.append_nil] at hscan
  exact tokenize_of_scans hscan rfl

/-! ## The head -/

/-- Blanks at the end of a text are trimmed off, up to a character that is none. -/
theorem trimEnd_append {s blanks : Text} {c : Char} (hc : Text.isBlank c = false)
    (hblanks : AllBlank blanks) : Text.trimEnd (s ++ c :: blanks) = s ++ [c] := by
  have hreverse : ∀ d ∈ blanks.reverse, Text.isBlank d = true :=
    fun d hd => hblanks d (List.mem_reverse.1 hd)
  rw [Text.trimEnd, List.reverse_append, List.reverse_cons, List.append_assoc,
    List.dropWhile_append_of_pos hreverse, List.singleton_append,
    List.dropWhile_cons_of_neg (by simp [hc]), List.reverse_cons, List.reverse_reverse]

/-- A text that begins with a word has no parentheses around it. -/
theorem inside_eq_self {u : Text} (hne : u ≠ []) (hu : ∀ c ∈ u, inWord c = true) (s : Text) :
    inside (u ++ s) = u ++ s := by
  obtain ⟨c, s', hcs, hc⟩ := exists_head hne s
  have hparen := (inWord_iff.1 (hu c hc)).2.1
  rw [hcs]
  unfold inside
  split
  · rename_i heq
    cases heq
    exact absurd rfl hparen
  · rfl

/-- Parentheses around a lambda are taken off, and the blanks inside them at its front. -/
theorem trimStart_inside_of_spelling {t : Text} (hne : field ≠ [])
    (hfield : ∀ c ∈ field, inWord c = true) (hv : VariableName v) (hw : Balanced w)
    (h : Spelling field v w r t) :
    ∃ u blanks, BareSpelling field v w r u ∧ AllBlank blanks ∧
      Text.trimStart (inside t.strip) = u ++ blanks := by
  cases h with
  | bare inner =>
    have hstrip := (inner.isLambda hne hfield hv hw).stripped.strip_eq
    refine ⟨t, [], inner, allBlank_nil, ?_⟩
    obtain ⟨-, -, -, -, -⟩ := inner
    rw [hstrip (by simp [hne]), inside_eq_self hne hfield, List.append_nil]
    exact dropWhile_word hne hfield _
  | @parenthesized a u b before inner behind =>
    have hstripped : Text.Stripped ('(' :: (a ++ (u ++ (b ++ [')'])))) := by
      constructor
      · intro c hc
        cases hc
        decide
      · intro c hc
        simp only [← List.append_assoc, ← List.cons_append, List.getLast?_concat] at hc
        cases hc
        decide
    have hinside : inside ('(' :: (a ++ (u ++ (b ++ [')'])))) = a ++ (u ++ b) := by
      have happ : a ++ (u ++ (b ++ [')'])) = (a ++ (u ++ b)) ++ [')'] := by simp
      rw [happ]
      exact List.dropLast_concat
    refine ⟨u, b, inner, behind, ?_⟩
    rw [hstripped.strip_eq (by simp), hinside, Text.trimStart, List.dropWhile_append_of_pos before]
    exact dropWhile_of_head ((inner.isLambda hne hfield hv hw).head b)

/-- **The head of a spelling** is its field and its variable, and its body is the condition, with
    parentheses and blanks around it. -/
theorem ofText?_of_spelling {t : Text} (hne : field ≠ []) (hfield : ∀ c ∈ field, inWord c = true)
    (hv : VariableName v) (hw : Balanced w) (h : Spelling field v w r t) :
    ∃ a condition b, AllBlank a ∧ MaybeParenthesized (ConditionSpelling v w r) condition ∧
      AllBlank b ∧ Head.ofText? t = some ⟨field, v, a ++ (condition ++ b)⟩ := by
  obtain ⟨u, blanks, hu, hblanks, htrim⟩ := trimStart_inside_of_spelling hne hfield hv hw h
  obtain @⟨a, b, c, condition, d, ha, hb, hc, hcondition, hd⟩ := hu
  refine ⟨c, condition, d, hc, hcondition, hd, ?_⟩
  have hsplit : field ++ (anySuffix ++ '(' ::
      ((a ++ (v ++ (b ++ ':' :: (c ++ (condition ++ d))))) ++ [')'])) ++ blanks =
      (field ++ anySuffix) ++ '(' :: (a ++ (v ++ (b ++ ':' ::
        ((c ++ (condition ++ d)) ++ ')' :: blanks)))) := by simp
  rw [hsplit] at htrim
  have hword := inWord_append_anySuffix hfield
  have hends : ∀ s, Ends ('(' :: s) := fun s => ends_cons (by decide) s
  have hname : ∀ s, Text.trimStart (a ++ (v ++ s)) = v ++ s := by
    intro s
    rw [Text.trimStart, List.dropWhile_append_of_pos ha]
    exact dropWhile_word hv.ne_nil hv.plainName.inWord s
  have hcolon : ∀ s, Text.trimStart (b ++ ':' :: s) = ':' :: s := by
    intro s
    rw [Text.trimStart, List.dropWhile_append_of_pos hb]
    exact List.dropWhile_cons_of_neg (by decide)
  obtain ⟨htake, hdrop⟩ := Text.name_split (d := ':') hv.isNameChar hb (by decide)
    ((c ++ (condition ++ d)) ++ ')' :: blanks)
  have hlast := trimEnd_append (s := c ++ (condition ++ d)) (c := ')') (by decide) hblanks
  rw [Head.ofText?, htrim]
  simp only
  rw [word_append_of_ends hword (hends _), afterWord_append_of_ends hword (hends _),
    collection?_eq_some_iff.2 ⟨hne, rfl⟩]
  simp only [hname, hdrop, htake, hcolon, if_neg hv.ne_nil, hlast]
  rw [Text.dropLast?_eq_some_iff.2 rfl]
  rfl

/-! ## The body -/

/-- What may stand behind a condition: blanks, and then nothing or a closing parenthesis. -/
def ConditionEnds (s : Text) : Prop :=
  ∃ blanks rest, AllBlank blanks ∧ s = blanks ++ rest ∧ (rest = [] ∨ ∃ q, rest = ')' :: q)

theorem ConditionEnds.ends {s : Text} (h : ConditionEnds s) : Ends s := by
  obtain ⟨blanks, rest, hblanks, rfl, hrest⟩ := h
  refine ends_append hblanks (Or.inr ?_)
  rcases hrest with rfl | ⟨q, rfl⟩
  · exact ends_nil
  · exact ends_cons (by decide) q

theorem ConditionEnds.dropWhile_ne_opening {s : Text} (h : ConditionEnds s) (q : Text) :
    s.dropWhile Text.isBlank ≠ '(' :: q := by
  obtain ⟨blanks, rest, hblanks, rfl, hrest⟩ := h
  rw [List.dropWhile_append_of_pos hblanks]
  rcases hrest with rfl | ⟨q', rfl⟩
  · simp
  · rw [List.dropWhile_cons_of_neg (by decide)]
    simp

theorem ConditionEnds.ne_opening {s : Text} (h : ConditionEnds s) (q : Text) : s ≠ '(' :: q := by
  rintro rfl
  refine h.dropWhile_ne_opening q ?_
  rw [List.dropWhile_cons_of_neg (by decide)]

/-- The pieces that a condition is scanned as. -/
def conditionPieces (v w : Text) (r : Relation) (condition : Text) : List (Kind × Text) :=
  match r with
  | .compare op => [(.bare, v), (.comparison, op.name), (operandKind w, w)]
  | .call _ => [(.call, condition)]

/-- The first of them is no parenthesis. -/
theorem exists_conditionPieces (v w : Text) (r : Relation) (condition : Text) :
    ∃ p ps, conditionPieces v w r condition = p :: ps ∧ p.1 ≠ .opening := by
  cases r with
  | compare op => exact ⟨_, _, rfl, Kind.noConfusion⟩
  | call op => exact ⟨_, _, rfl, Kind.noConfusion⟩

/-- **A condition is scanned as its pieces.** -/
theorem ConditionSpelling.scans {t s : Text} (hv : VariableName v) (hw : Admits r w)
    (h : ConditionSpelling v w r t) (hs : ConditionEnds s) :
    Scans .doubled (t ++ s) (conditionPieces v w r t) s := by
  cases h with
  | @comparison op a b left left_ne_nil right right_ne_nil =>
    have happ : v ++ (a ++ (op.name ++ (b ++ w))) ++ s =
        v ++ (a ++ (op.name ++ (b ++ (w ++ s)))) := by simp
    rw [happ]
    exact scans_comparison op hv.plainName left left_ne_nil right right_ne_nil hw hs.ends
      hs.ne_opening (Or.inr hs.dropWhile_ne_opening)
  | call op behind_op before_name behind_name before_value behind_value =>
    exact scans_of_shaped_call ⟨op, _, _, behind_op,
      balanced_arguments hv hw.2.2 before_name behind_name before_value behind_value, rfl⟩ s

/-- A condition begins with a word that heads no lambda. -/
theorem ConditionSpelling.exists_word {t : Text} (hv : VariableName v)
    (h : ConditionSpelling v w r t) (s : Text) :
    ∃ word rest, t ++ s = word ++ rest ∧ word ≠ [] ∧ (∀ c ∈ word, inWord c = true) ∧
      Ends rest ∧ Token.collection? word = none := by
  cases h with
  | @comparison op a b left left_ne_nil right right_ne_nil =>
    exact ⟨v, a ++ (op.name ++ (b ++ (w ++ s))), by simp, hv.ne_nil, hv.plainName.inWord,
      ends_append left (Or.inl left_ne_nil), hv.collection?⟩
  | @call op a b c d e behind_op =>
    have hop := plainWord_predicate op
    exact ⟨op.name, a ++ '(' :: ((b ++ (v ++ (c ++ ',' :: (d ++ (w ++ e))))) ++ ')' :: s), by simp,
      hop.ne_nil, hop.inWord, ends_append behind_op (Or.inr (ends_cons (by decide) _)),
      collection?_predicate op⟩

/-- A parenthesis before a condition is a token of its own. -/
theorem ConditionSpelling.scans_opening {t a : Text} (hv : VariableName v)
    (h : ConditionSpelling v w r t) (ha : AllBlank a) (s : Text) :
    Scans .doubled ('(' :: (a ++ (t ++ s))) [(.opening, ['('])] (a ++ (t ++ s)) := by
  obtain ⟨word, rest, htext, hne, hword, hends, hcollection⟩ := h.exists_word hv s
  refine Token.scans_opening (wrappedLambda?_eq_none ?_)
  rw [List.dropWhile_append_of_pos ha, htext, dropWhile_word hne hword]
  exact lambda?_eq_none hword hends (Or.inl hcollection)

/-- Tokens that begin with no parenthesis stand in none. -/
theorem unwrap_eq_self {body : List Token} {p : Kind × Text} {ps : List (Kind × Text)}
    (h : body.map piece = p :: ps) (hp : p.1 ≠ .opening) : unwrap body = body := by
  obtain ⟨t, rest, rfl, hkind, -⟩ := exists_of_map_piece h
  show (if t.kind = .opening ∧ _ then _ else _) = _
  rw [if_neg]
  rintro ⟨hopening, -⟩
  exact hp (by rw [← hkind, hopening])

/-- **The body of a spelling is scanned as the pieces of its condition**, in parentheses or not. -/
theorem map_piece_unwrap_tokenize {a condition b : Text} (hv : VariableName v) (hw : Admits r w)
    (ha : AllBlank a) (h : MaybeParenthesized (ConditionSpelling v w r) condition)
    (hb : AllBlank b) :
    ∃ t, ConditionSpelling v w r t ∧
      (unwrap (tokenize .doubled (a ++ (condition ++ b)))).map piece = conditionPieces v w r t := by
  cases h with
  | bare inner =>
    obtain ⟨p, ps, hpieces, hp⟩ := exists_conditionPieces v w r condition
    have hscan := inner.scans hv hw ⟨b, [], hb, (List.append_nil b).symm, Or.inl rfl⟩
    rw [hpieces] at hscan
    have htokens := tokenize_of_scans (hscan.blanks ha) (trimStart_of_allBlank hb)
    refine ⟨condition, inner, ?_⟩
    rw [unwrap_eq_self htokens hp, htokens, hpieces]
  | @parenthesized a' t b' before inner behind =>
    obtain ⟨p, ps, hpieces, -⟩ := exists_conditionPieces v w r t
    have hscan := inner.scans hv hw ⟨b', ')' :: b, behind, rfl, Or.inr ⟨b, rfl⟩⟩
    rw [hpieces] at hscan
    have hinner := (hscan.blanks before).trans (scans_closing.blanks behind)
    have hall := ((inner.scans_opening hv before _).trans hinner).blanks ha
    have htext : a ++ ('(' :: (a' ++ (t ++ (b' ++ [')']))) ++ b) =
        a ++ '(' :: (a' ++ (t ++ (b' ++ ')' :: b))) := by simp
    refine ⟨t, inner, ?_⟩
    rw [htext, hpieces]
    exact piece_unwrap (tokenize_of_scans hall (trimStart_of_allBlank hb))

/-- The pieces of a condition say what it says. -/
theorem condition?_of_pieces {body : List Token} {t : Text} (index : Int) (hv : VariableName v)
    (hw : Admits r w) (h : ConditionSpelling v w r t)
    (hbody : body.map piece = conditionPieces v w r t) :
    condition? index body = .ok (some (v, r.name, w)) := by
  refine condition?_eq_some_iff.2 ?_
  cases h with
  | comparison op =>
    obtain ⟨s, body₁, rfl, hs, hstext, h₁⟩ := exists_of_map_piece hbody
    obtain ⟨o, body₂, rfl, ho, hotext, h₂⟩ := exists_of_map_piece h₁
    obtain ⟨value, body₃, rfl, hvalue, hvtext, h₃⟩ := exists_of_map_piece h₂
    rw [List.map_eq_nil_iff.1 h₃]
    refine Or.inr ⟨s, o, value, rfl, hs, ho, ?_, hstext, hotext, hvtext⟩
    rw [hvalue]
    exact isValue_operandKind w
  | call op behind_op before_name behind_name before_value behind_value =>
    obtain ⟨call, rest, rfl, hkind, htext, hrest⟩ := exists_of_map_piece hbody
    rw [List.map_eq_nil_iff.1 hrest]
    obtain ⟨hstripped, hne, -⟩ := hw
    have hname := hv.plainName
    have hcomma : ',' ∉ v := fun hmem => (inWord_iff.1 (hname.inWord _ hmem)).2.2.2 rfl
    refine Or.inl ⟨call, rfl, hkind, Call.ofToken_eq_ok_iff.2 ⟨_, ?_,
      Call.fieldAndValue?_blanks hname.stripped hv.ne_nil hcomma hstripped hne before_name
        behind_name before_value behind_value⟩⟩
    rw [htext]
    exact Call.nameAndArguments?_call op _ behind_op

/-! ## The whole -/

/-- **Whatever its spelling, a lambda is taken apart into what it says.** -/
theorem ofToken_of_spelling {t : Token} (index : Int) (hne : field ≠ [])
    (hfield : ∀ c ∈ field, inWord c = true) (hv : VariableName v) (hw : Admits r w)
    (h : Spelling field v w r t.text) :
    ofToken .doubled index t = .ok ⟨field, v, r.name, w⟩ := by
  obtain ⟨a, condition, b, ha, hcondition, hb, hhead⟩ :=
    ofText?_of_spelling hne hfield hv hw.balanced h
  obtain ⟨c, hc, hbody⟩ := map_piece_unwrap_tokenize hv hw ha hcondition hb
  exact ofToken_eq_ok_iff.2 ⟨_, hhead, rfl, rfl, condition?_of_pieces index hv hw hc hbody⟩

/-- What is written for a lambda is one of its spellings, in parentheses without blanks. -/
theorem exists_bareSpelling_anyText (r : Relation) (field w : Text) :
    ∃ u, BareSpelling field Clause.binder w r u ∧
      Clause.anyText field (Clause.relationText r Clause.binder w) =
        '(' :: ([] ++ (u ++ ([] ++ [')']))) := by
  have hcondition : ConditionSpelling Clause.binder w r
      (Clause.relationText r Clause.binder w) := by
    cases r with
    | compare op =>
      have h := ConditionSpelling.comparison (v := Clause.binder) (w := w) op allBlank_space
        (by simp) allBlank_space (by simp)
      simpa [Clause.relationText] using h
    | call op =>
      have h := ConditionSpelling.call (v := Clause.binder) (w := w) op allBlank_nil allBlank_nil
        allBlank_nil allBlank_space allBlank_nil
      simpa [Clause.relationText] using h
  refine ⟨_, .mk allBlank_nil allBlank_nil allBlank_nil
    (.parenthesized allBlank_nil hcondition allBlank_nil) allBlank_nil, ?_⟩
  simp [Clause.anyText, anySuffix]

theorem spelling_anyText (r : Relation) (field w : Text) :
    Spelling field Clause.binder w r
      (Clause.anyText field (Clause.relationText r Clause.binder w)) := by
  obtain ⟨u, hu, htext⟩ := exists_bareSpelling_anyText r field w
  rw [htext]
  exact .parenthesized allBlank_nil hu allBlank_nil

/-- What is written for a lambda is one token, whatever its field is made of. -/
theorem scans_anyText {policy : QuotePolicy} (hne : field ≠ [])
    (hfield : ∀ c ∈ field, inWord c = true) (hw : Balanced w) (rest : Text) :
    Scans policy (Clause.anyText field (Clause.relationText r Clause.binder w) ++ rest)
      [(.lambda, Clause.anyText field (Clause.relationText r Clause.binder w))] rest := by
  obtain ⟨u, hu, htext⟩ := exists_bareSpelling_anyText r field w
  rw [htext]
  exact scans_of_wrapped allBlank_nil (hu.isLambda hne hfield variableName_binder hw)
    allBlank_nil rest

end

end Lambda

end QueryFilter
