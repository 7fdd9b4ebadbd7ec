/-
  WORDS — where a bare word ends, and which texts are words.

  1. **The end of a word** — a word is read up to a text that ENDS it (`Ends`): one that is empty or
     starts with a blank, a parenthesis or a comma, such as any text of blanks (`AllBlank`) that is
     not empty.  Behind a word and no opening parenthesis there is no lambda; without a predicate
     name, or without a parenthesis behind the blanks, there is no call.
  2. **Plain words** — non-empty, and free of everything that ends a word or quotes a
     literal.  The keywords, the names of relations and every numeral are plain words, and a
     numeral is none of the former.
-/
import QueryFilter.Proofs.Literal.ReadWrite
import QueryFilter.Proofs.Token.Group

namespace QueryFilter

/-! ## Blanks -/

namespace Text

/-- Nothing but blanks, perhaps nothing at all. -/
def AllBlank (s : Text) : Prop := ∀ c ∈ s, isBlank c = true

theorem allBlank_nil : AllBlank [] := by simp [AllBlank]

theorem allBlank_space : AllBlank [' '] := by
  intro c hc
  rw [List.mem_singleton.1 hc]
  rfl

end Text

namespace Token

open Text (AllBlank)

/-! ## The end of a word -/

/-- A text that no word runs into. -/
def Ends (r : Text) : Prop := ∀ c s, r = c :: s → inWord c = false

theorem ends_nil : Ends [] := by
  intro c s h
  cases h

theorem ends_cons {c : Char} (h : inWord c = false) (s : Text) : Ends (c :: s) := by
  intro d t heq
  cases heq
  exact h

theorem word_append_of_ends {w r : Text} (hw : ∀ c ∈ w, inWord c = true) (hr : Ends r) :
    word (w ++ r) = w := by
  rw [word, List.takeWhile_append_of_pos hw]
  cases r with
  | nil => simp
  | cons c s => rw [List.takeWhile_cons_of_neg (by simp [hr c s rfl]), List.append_nil]

theorem afterWord_append_of_ends {w r : Text} (hw : ∀ c ∈ w, inWord c = true) (hr : Ends r) :
    afterWord (w ++ r) = r := by
  rw [afterWord, List.dropWhile_append_of_pos hw]
  cases r with
  | nil => rfl
  | cons c s => rw [List.dropWhile_cons_of_neg (by simp [hr c s rfl])]

/-- Blanks end a word, and so does what follows them if it does. -/
theorem ends_append {a s : Text} (ha : AllBlank a) (h : a ≠ [] ∨ Ends s) : Ends (a ++ s) := by
  cases a with
  | nil =>
    rcases h with h | h
    · exact absurd rfl h
    · exact h
  | cons c a => exact ends_cons (by simp [inWord, ha c (List.mem_cons_self ..)]) _

/-- Only an opening parenthesis starts a group. -/
theorem group?_eq_none {r : Text} (h : ∀ s, r ≠ '(' :: s) : group? r = none := by
  unfold group?
  split
  · rename_i s
    exact absurd rfl (h s)
  · rfl

/-- A word that has no collection field, or has no group right behind it, heads no lambda. -/
theorem lambda?_eq_none {w r : Text} (hw : ∀ c ∈ w, inWord c = true) (hr : Ends r)
    (hlambda : collection? w = none ∨ ∀ s, r ≠ '(' :: s) : lambda? (w ++ r) = none := by
  rw [lambda?, word_append_of_ends hw hr, afterWord_append_of_ends hw hr]
  rcases hlambda with hcollection | hopen
  · rw [hcollection]
    rfl
  · rw [group?_eq_none hopen]
    split <;> rfl

/-- A word that is no predicate name, or has no group behind the blanks, is no call. -/
theorem call?_eq_none {w r : Text} (hw : ∀ c ∈ w, inWord c = true) (hr : Ends r)
    (hcall : Predicate.ofName? w = none ∨ ∀ s, r.dropWhile Text.isBlank ≠ '(' :: s) :
    call? (w ++ r) = none := by
  rw [call?, word_append_of_ends hw hr, afterWord_append_of_ends hw hr]
  rcases hcall with hname | hopen
  · rw [hname]
    rfl
  · simp only [group?_eq_none hopen]
    split <;> rfl

/-- The collection field is cut off the word exactly. -/
theorem collection?_eq_some_iff {w field : Text} :
    collection? w = some field ↔ field ≠ [] ∧ w = field ++ anySuffix := by
  rw [collection?]
  constructor
  · intro h
    split at h
    · rename_i hcond
      cases h
      refine ⟨?_, hcond.2⟩
      intro hnil
      have hlen := congrArg List.length hnil
      rw [List.length_take] at hlen
      simp only [List.length_nil] at hlen
      omega
    · cases h
  · rintro ⟨hne, rfl⟩
    have hlen : 0 < field.length := List.length_pos_iff.2 hne
    have htake : (field ++ anySuffix).take ((field ++ anySuffix).length - anySuffix.length) =
        field := by
      rw [List.length_append, Nat.add_sub_cancel, List.take_left]
    simp only [htake]
    rw [if_pos]
    constructor
    · rw [List.length_append]
      omega
    · trivial

/-! ## Plain words -/

/-- A non-empty text that reads as one word wherever it stands, in a group or outside. -/
structure PlainWord (w : Text) : Prop where
  ne_nil : w ≠ []
  inWord : ∀ c ∈ w, Token.inWord c = true
  quoteFree : QuoteFree w

/-- A plain word that is no keyword, and so can name a field. -/
structure PlainName (w : Text) : Prop extends PlainWord w where
  notKeyword : Kind.ofWord w = .bare

/-- A character of a word is no parenthesis, no comma and no blank. -/
theorem inWord_iff {c : Char} :
    inWord c = true ↔ Text.isBlank c = false ∧ c ≠ '(' ∧ c ≠ ')' ∧ c ≠ ',' := by
  simp [inWord, and_assoc]

/-- Nothing is taken off the front of a text that starts with no blank. -/
theorem dropWhile_of_head {s : Text} (h : ∀ c, s.head? = some c → Text.isBlank c = false) :
    s.dropWhile Text.isBlank = s := by
  cases s with
  | nil => rfl
  | cons c s => exact List.dropWhile_cons_of_neg (by simp [h c rfl])

/-- Behind the blanks of a text stands no blank. -/
theorem isBlank_of_trimStart {s s' : Text} {c : Char} (h : Text.trimStart s = c :: s') :
    Text.isBlank c = false := by
  have hhead := List.head?_dropWhile_not Text.isBlank s
  rw [show s.dropWhile Text.isBlank = c :: s' from h] at hhead
  simpa using hhead

theorem isBlank_head_of_word {w r : Text} (hne : w ≠ []) (hw : ∀ c ∈ w, inWord c = true) :
    ∀ c, (w ++ r).head? = some c → Text.isBlank c = false := by
  intro c hc
  cases w with
  | nil => exact absurd rfl hne
  | cons d w =>
    cases hc
    exact (inWord_iff.1 (hw c (List.mem_cons_self ..))).1

/-- Nothing is taken off the front of a word. -/
theorem dropWhile_word {w : Text} (hne : w ≠ []) (hw : ∀ c ∈ w, inWord c = true) (r : Text) :
    (w ++ r).dropWhile Text.isBlank = w ++ r :=
  dropWhile_of_head (isBlank_head_of_word hne hw)

/-- A text that begins neither with a parenthesis nor with blanks and one. -/
theorem dropWhile_append_ne_opening {a w : Text} (ha : AllBlank a) (hne : w ≠ [])
    (hw : ∀ c ∈ w, inWord c = true) (r s : Text) :
    (a ++ (w ++ r)).dropWhile Text.isBlank ≠ '(' :: s := by
  rw [List.dropWhile_append_of_pos ha, dropWhile_word hne hw]
  cases w with
  | nil => exact absurd rfl hne
  | cons c w =>
    intro heq
    rw [List.cons_append, List.cons.injEq] at heq
    exact (inWord_iff.1 (hw c (List.mem_cons_self ..))).2.1 heq.1

theorem PlainWord.neutral {w : Text} (h : PlainWord w) : ∀ c ∈ w, Neutral c := by
  intro c hc
  obtain ⟨-, h₁, h₂, -⟩ := inWord_iff.1 (h.inWord c hc)
  exact ⟨h₁, h₂, (h.quoteFree c hc).1, (h.quoteFree c hc).2⟩

theorem PlainWord.balanced {w : Text} (h : PlainWord w) : Balanced w :=
  balanced_of_neutral h.neutral

/-- A plain word is not quoted. -/
theorem PlainWord.unquote? {w : Text} (h : PlainWord w) : Literal.unquote? w = none := by
  cases w with
  | nil => rfl
  | cons c s =>
    have hc := h.quoteFree c (List.mem_cons_self ..)
    exact Literal.unquote?_eq_none hc.1 hc.2

/-- A decidable form of plainness, for words that are given. -/
theorem plainWord_of_all {w : Text} (hne : w ≠ [])
    (hall : w.all (fun c => inWord c && c != '\'' && c != '"') = true) : PlainWord w := by
  have h := List.all_eq_true.1 hall
  refine ⟨hne, fun c hc => ?_, fun c hc => ?_⟩
  · have := h c hc
    simp only [Bool.and_eq_true] at this
    exact this.1.1
  · have := h c hc
    simp only [Bool.and_eq_true, bne_iff_ne, ne_eq] at this
    exact ⟨this.1.2, this.2⟩

theorem plainWord_comparison (op : Comparison) : PlainWord op.name := by
  cases op <;> exact plainWord_of_all (by decide) (by decide)

theorem plainWord_predicate (op : Predicate) : PlainWord op.name := by
  cases op <;> exact plainWord_of_all (by decide) (by decide)

/-- The name of a predicate ends in no suffix of lambdas. -/
theorem collection?_predicate (op : Predicate) : collection? op.name = none := by
  cases op <;> decide

theorem ofWord_comparison (op : Comparison) : Kind.ofWord op.name = .comparison := by
  cases op <;> decide

theorem predicate_ofName?_comparison (op : Comparison) : Predicate.ofName? op.name = none := by
  cases op <;> decide

@[simp] theorem predicate_ofName?_name (op : Predicate) : Predicate.ofName? op.name = some op := by
  cases op <;> decide

/-- Only its own name finds a predicate. -/
theorem eq_name_of_ofName? {w : Text} {op : Predicate} (h : Predicate.ofName? w = some op) :
    w = op.name := by
  have hname := List.find?_some h
  exact (of_decide_eq_true hname).symm

theorem predicate_ofName?_eq_none {w : Text} (h : ∀ op : Predicate, w ≠ op.name) :
    Predicate.ofName? w = none := by
  cases hp : Predicate.ofName? w with
  | none => rfl
  | some op => exact absurd (eq_name_of_ofName? hp) (h op)

/-- Only the six names are comparison words. -/
theorem ofWord_eq_comparison {w : Text} (h : Kind.ofWord w = .comparison) :
    ∃ op : Comparison, w = op.name := by
  unfold Kind.ofWord at h
  split at h
  · cases h
  · split at h
    · cases h
    · split at h
      · cases h
      · split at h
        · cases h
        · split at h
          · rename_i hop
            obtain ⟨op, hop⟩ := Option.isSome_iff_exists.1 hop
            have hname := List.find?_some hop
            exact ⟨op, (of_decide_eq_true hname).symm⟩
          · cases h

/-- A word that is no bare word is one of the keywords. -/
theorem mem_keywords_of_ofWord {w : Text} (h : Kind.ofWord w ≠ .bare) :
    w ∈ ["and".toList, "or".toList, "not".toList, "in".toList] ∨
      ∃ op : Comparison, w = op.name := by
  by_cases hop : Kind.ofWord w = .comparison
  · exact Or.inr (ofWord_eq_comparison hop)
  · left
    unfold Kind.ofWord at h hop
    grind

/-! ## Numerals are plain words -/

/-- No digit of any script is a blank. -/
theorem isBlank_of_digit? {c : Char} (h : (Text.digit? c).isSome) : Text.isBlank c = false := by
  obtain ⟨d, hd⟩ := Option.isSome_iff_exists.1 h
  obtain ⟨z, hz, hdz⟩ := List.exists_of_findSome?_eq_some hd
  have hrange : z ≤ c.toNat ∧ c.toNat < z + 10 := by
    split at hdz
    · assumption
    · cases hdz
  -- the tables lie apart: no ten digits overlap with a range of blanks
  have hapart : ∀ z ∈ 0x30 :: Text.zeros, ∀ r ∈ Text.blankRanges, r.2 < z ∨ z + 10 ≤ r.1 := by
    decide
  cases hb : Text.isBlank c with
  | false => rfl
  | true =>
    obtain ⟨r, hr, hlo, hhi⟩ := Ranges.covers_eq_true_iff.1 hb
    rcases hapart z hz r hr with hlt | hge
    · omega
    · omega

theorem inWord_of_inNumeral {c : Char} (h : Numeral.InNumeral c) : inWord c = true := by
  rcases h with hd | hmem
  · rw [inWord_iff]
    refine ⟨isBlank_of_digit? hd, ?_, ?_, ?_⟩
    all_goals
      rintro rfl
      revert hd
      decide
  · simp only [List.mem_cons, List.not_mem_nil, or_false] at hmem
    rcases hmem with rfl | rfl | rfl | rfl | rfl <;> decide

theorem plainWord_of_read? {t : Text} {n : Numeral} (h : Numeral.read? t = some n) :
    PlainWord t := by
  refine ⟨?_, fun c hc => ?_, fun c hc => ?_⟩
  · rintro rfl
    rw [Numeral.read?_nil] at h
    cases h
  · exact inWord_of_inNumeral (Numeral.mem_of_read? h c hc)
  · exact Literal.not_quote_of_inNumeral (Numeral.mem_of_read? h c hc)

/-- A numeral is no keyword. -/
theorem ofWord_of_read? {t : Text} {n : Numeral} (h : Numeral.read? t = some n) :
    Kind.ofWord t = .bare := by
  by_cases hbare : Kind.ofWord t = .bare
  · exact hbare
  · exfalso
    rcases mem_keywords_of_ofWord hbare with hmem | ⟨op, rfl⟩
    · have hnone : ∀ w ∈ ["and".toList, "or".toList, "not".toList, "in".toList],
          Numeral.read? w = none := by decide
      rw [hnone t hmem] at h
      cases h
    · have hnone : Numeral.read? op.name = none := by cases op <;> decide
      rw [hnone] at h
      cases h

/-- A numeral is no predicate name. -/
theorem predicate_ofName?_of_read? {t : Text} {n : Numeral} (h : Numeral.read? t = some n) :
    Predicate.ofName? t = none := by
  apply predicate_ofName?_eq_none
  rintro op rfl
  have hnone : Numeral.read? op.name = none := by cases op <;> decide
  rw [hnone] at h
  cases h

end Token

end QueryFilter
