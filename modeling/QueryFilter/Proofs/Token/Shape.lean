/-
  THE SHAPE OF A TOKEN — what the kind of a scanned token tells about its text.

  1. **Specification** — `Shaped kind text`: punctuation is its character, a literal starts with a
     quote, a call is a predicate name with blanks and a group, and a word is made of word
     characters and its kind is the one that the word has.
  2. **One token** — what the scan reads off the front of a text has the shape of its kind
     (`shaped_lexeme`), one case for each rule of the scan.
  3. **All tokens** — so every token of a text is shaped, and its characters are among those of the
     text (`shaped_of_mem`, `sublist_of_mem`).
-/
import QueryFilter.Proofs.Token.Scans

namespace QueryFilter.Token

/-! ## The shape of a kind -/

/-- What the kind of a token says about its text. -/
def Shaped : Kind → Text → Prop
  | .opening, t => t = ['(']
  | .closing, t => t = [')']
  | .comma, t => t = [',']
  | .string, t => ∃ s, t = '\'' :: s
  | .call, t => ∃ (op : Predicate) (blanks arguments : Text),
      (∀ c ∈ blanks, Text.isBlank c = true) ∧ Balanced arguments ∧
        t = op.name ++ (blanks ++ '(' :: (arguments ++ [')']))
  | .lambda, _ => True
  | kind, t => t ≠ [] ∧ (∀ c ∈ t, inWord c = true) ∧ Kind.ofWord t = kind

/-- A word has the shape of its own kind. -/
theorem shaped_ofWord {t : Text} (hne : t ≠ []) (ht : ∀ c ∈ t, inWord c = true) :
    Shaped (Kind.ofWord t) t := by
  cases hk : Kind.ofWord t with
  | and | or | not | isIn | comparison | bare => exact ⟨hne, ht, hk⟩
  | lambda => trivial
  | opening | closing | comma | string | call =>
    exfalso
    rcases mem_keywords_of_ofWord (by rw [hk]; decide) with hmem | ⟨op, rfl⟩
    · have hkinds : ∀ w ∈ ["and".toList, "or".toList, "not".toList, "in".toList],
          Kind.ofWord w ∈ [Kind.and, .or, .not, .isIn] := by decide
      have hin := hkinds t hmem
      rw [hk] at hin
      revert hin
      decide
    · rw [ofWord_comparison] at hk
      cases hk

/-! ## One token -/

/-- What the scan for a call reads is a call. -/
theorem shaped_call {s t r : Text} (h : call? s = some (t, r)) : Shaped .call t := by
  unfold call? at h
  split at h
  · rename_i hname
    obtain ⟨op, hop⟩ := Option.isSome_iff_exists.1 hname
    obtain ⟨u, hu, rfl⟩ := after_eq_some_iff.1 h
    obtain ⟨arguments, hbal, rfl, -⟩ := group?_eq_some_iff.1 hu
    refine ⟨op, (afterWord s).takeWhile Text.isBlank, arguments, ?_, hbal, ?_⟩
    · exact fun _ hc => List.mem_takeWhile_imp hc
    · rw [eq_name_of_ofName? hop, List.append_assoc]
  · cases h

theorem shaped_wordLexeme {c : Char} {s : Text} (hc : inWord c = true) :
    Shaped (wordLexeme (c :: s)).kind (wordLexeme (c :: s)).text := by
  unfold wordLexeme
  split
  · rename_i t r h
    exact shaped_call h
  · split
    · trivial
    · apply shaped_ofWord
      · rw [word, List.takeWhile_cons_of_pos hc]
        exact List.cons_ne_nil _ _
      · exact fun _ hd => List.mem_takeWhile_imp hd

/-- **The token at the front of a text has the shape of its kind.** -/
theorem shaped_lexeme (policy : QuotePolicy) {c : Char} {s : Text} (hc : Text.isBlank c = false) :
    Shaped (lexeme policy (c :: s)).kind (lexeme policy (c :: s)).text := by
  unfold lexeme
  split
  · split
    · trivial
    · rfl
  · rfl
  · rfl
  · rename_i h₁ h₂ h₃
    split
    · rename_i t r h
      unfold quoted? at h
      split at h
      · obtain ⟨u, -, rfl⟩ := after_eq_some_iff.1 h
        exact ⟨u, rfl⟩
      · cases h
    · apply shaped_wordLexeme
      rw [inWord_iff]
      exact ⟨hc, fun h => h₁ s (by rw [h]), fun h => h₂ s (by rw [h]), fun h => h₃ s (by rw [h])⟩

/-! ## All tokens -/

/-- Every token of a text was read off the front of some later part of it. -/
theorem exists_lexeme_of_mem {policy : QuotePolicy} {s : Text} {t : Token}
    (h : t ∈ tokenize policy s) :
    ∃ c s', Text.isBlank c = false ∧ (c :: s').Sublist s ∧
      piece t = ((lexeme policy (c :: s')).kind, (lexeme policy (c :: s')).text) := by
  have hdrain : ∀ (n : Nat) (s : Text) (pos : Nat), s.length = n →
      t ∈ ((Cursor.mk s pos).drain policy).1 →
      ∃ c s', Text.isBlank c = false ∧ (c :: s').Sublist s ∧
        piece t = ((lexeme policy (c :: s')).kind, (lexeme policy (c :: s')).text) := by
    intro n
    induction n using Nat.strongRecOn with
    | ind n ih =>
      intro s pos hn ht
      cases hs : Text.trimStart s with
      | nil =>
        rw [drain_of_trimStart_nil policy pos hs] at ht
        cases ht
      | cons c s' =>
        have hsub : (c :: s').Sublist s := hs ▸ List.dropWhile_sublist _
        have hc := isBlank_of_trimStart hs
        obtain ⟨t₀, pos', ht₀, hd⟩ := drain_of_trimStart_cons policy pos hs
        rw [hd] at ht
        rcases List.mem_cons.1 ht with rfl | ht
        · exact ⟨c, s', hc, hsub, ht₀⟩
        · -- the rest is shorter, since the token took at least one character
          have happ := lexeme_append policy (c :: s')
          have hne := List.length_pos_iff.2 (lexeme_ne_nil policy (s := s') hc)
          have hrest : (lexeme policy (c :: s')).rest.Sublist s := by
            refine List.Sublist.trans ?_ hsub
            conv => rhs; rw [← happ]
            exact List.sublist_append_right _ _
          have hlen : (lexeme policy (c :: s')).rest.length < n := by
            have hadd := congrArg List.length happ
            have hle := hsub.length_le
            rw [List.length_append] at hadd
            omega
          obtain ⟨d, s'', hd, hsub', hp⟩ := ih _ hlen _ pos' rfl ht
          exact ⟨d, s'', hd, hsub'.trans hrest, hp⟩
  exact hdrain _ s 0 rfl h

/-- **Every token of a text is shaped.** -/
theorem shaped_of_mem {policy : QuotePolicy} {s : Text} {t : Token} (h : t ∈ tokenize policy s) :
    Shaped t.kind t.text := by
  obtain ⟨c, s', hc, -, hp⟩ := exists_lexeme_of_mem h
  have hkind : t.kind = (lexeme policy (c :: s')).kind := congrArg Prod.fst hp
  have htext : t.text = (lexeme policy (c :: s')).text := congrArg Prod.snd hp
  rw [hkind, htext]
  exact shaped_lexeme policy hc

/-- A comparison token of a text is the word of a comparison. -/
theorem comparison_of_mem {policy : QuotePolicy} {s : Text} {t : Token} (h : t ∈ tokenize policy s)
    (hk : t.kind = .comparison) : ∃ op : Comparison, t.text = op.name := by
  have hshaped := shaped_of_mem h
  rw [hk] at hshaped
  exact ofWord_eq_comparison hshaped.2.2

/-- The characters of a token stand in the text, in their order. -/
theorem sublist_of_mem {policy : QuotePolicy} {s : Text} {t : Token} (h : t ∈ tokenize policy s) :
    t.text.Sublist s := by
  obtain ⟨c, s', -, hsub, hp⟩ := exists_lexeme_of_mem h
  have htext : t.text = (lexeme policy (c :: s')).text := congrArg Prod.snd hp
  rw [htext]
  refine List.Sublist.trans ?_ hsub
  conv => rhs; rw [← lexeme_append policy (c :: s')]
  exact List.sublist_append_left _ _

end QueryFilter.Token
