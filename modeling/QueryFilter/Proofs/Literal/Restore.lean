/-
  LITERALS RESTORED — which literals survive a round through text, and which tokens do.

  1. **Values** — a text, an integer within the limit of digits, and whatever some token is read as
     (`Restorable`) can be written, and what was written is read as the very same literal.  So
     reading and writing a token twice is the same as doing it once.
  2. **Tokens** — the scan and the reader are told separately what two quotes in a literal mean, but
     the writer always doubles.  Where the scan ends a literal, its text is the quoted form of what
     the reader makes of it, under either policy: with doubled quotes the pairs inside collapse, and
     without them there is no quote inside (`exists_quote_of_quotedForm`).
-/
import QueryFilter.Proofs.Token.Form

namespace QueryFilter

/-! ## Values -/

namespace Literal

/-- The literals that a round through text gives back. -/
inductive Restorable : Literal → Prop
  | text (s : Text) : Restorable (.text s)
  /-- An integer that is not too long to be written. -/
  | int {n : Int} (digits : (Nat.toDigits 10 n.natAbs).length ≤ Integer.digitLimit) :
      Restorable (.int n)
  /-- What a token stands for, whether it is well formed or not. -/
  | read (token : Text) : Restorable (read .doubled token)

/-- What a token was read as is written in a way that is read as the same. -/
theorem exists_read_of_read (token : Text) :
    ∃ w, (read .doubled token).write = .ok w ∧ read .doubled w = read .doubled token := by
  rcases read_cases .doubled token with ⟨q, inner, s, -, hr⟩ | ⟨n, v, hn, hv, hr⟩ | ⟨-, -, hr⟩
  · rw [hr]
    exact ⟨quote s, rfl, read_quote s⟩
  · obtain ⟨w, hw, hread, -⟩ := write_ofNumeral? .doubled hn hv
    rw [hr]
    exact ⟨w, hw, hread⟩
  · -- a raw token is written as it stands
    exact ⟨token, by rw [hr]; rfl, rfl⟩

/-- **Reading undoes writing**, for a text of any content, an integer within the limit, and whatever
    a token is read as; and after one round a token no longer changes. -/
theorem read_write_restorable :
    (∀ v : Literal, v.Restorable → ∃ w, v.write = .ok w ∧ read .doubled w = v) ∧
      ∀ token, ∃ w, (read .doubled token).write = .ok w ∧ (read .doubled w).write = .ok w := by
  constructor
  · intro v h
    cases h with
    | text s => exact ⟨quote s, rfl, read_quote s⟩
    | @int n digits =>
      refine ⟨Integer.numeral n, ?_, read_numeral .doubled digits⟩
      rw [write, Integer.text?, if_pos digits]
      rfl
    | read token => exact exists_read_of_read token
  · intro token
    obtain ⟨w, hw⟩ := exists_write_read .doubled token
    exact ⟨w, hw, canonical_of_write_read hw⟩

/-- Quotes at both ends of a text, a negative integer, and a token in double quotes with
    a pair of them inside. -/
theorem read_write_restorable_samples :
    (∃ w, (Literal.text "''a'".toList).write = .ok w ∧ read .doubled w = .text "''a'".toList) ∧
      (∃ w, (Literal.int (-120)).write = .ok w ∧ read .doubled w = .int (-120)) ∧
      ∃ w, (read .doubled "\"a\"\"'\"".toList).write = .ok w ∧ read .doubled w = .text "a\"'".toList := by
  have hread : read .doubled "\"a\"\"'\"".toList = .text "a\"'".toList := by decide
  refine ⟨read_write_restorable.1 _ (.text _), read_write_restorable.1 _ (.int (by decide)), ?_⟩
  have hround := read_write_restorable.1 _ (.read "\"a\"\"'\"".toList)
  rwa [hread] at hround ⊢

end Literal

/-! ## Tokens -/

namespace Token

open Literal (quote doubleQuotes)

/-- Read without collapsing, a text with its quotes doubled stays doubled. -/
theorem read_literal_quote (s : Text) :
    Literal.read .literal (quote s) = .text (doubleQuotes s) := by
  rw [Literal.read, Literal.unquote?_quote]

/-- A text in the form of a literal is a quoted text, and the reader finds that text. -/
theorem exists_quote_of_quotedForm {policy : QuotePolicy} {t r : Text} (h : QuotedForm policy t r) :
    ∃ s, t = quote s ∧ Literal.read policy t = .text s := by
  cases policy with
  | doubled =>
    obtain ⟨⟨s, rfl⟩, -⟩ := h
    exact ⟨s, rfl, Literal.read_quote s⟩
  | literal =>
    obtain ⟨s, hs, rfl⟩ := h
    have hself := Literal.doubleQuotes_eq_self hs
    have hquote : '\'' :: (s ++ ['\'']) = quote s := by
      rw [quote, hself]
      rfl
    refine ⟨s, hquote, ?_⟩
    rw [hquote, read_literal_quote, hself]

/-- **A literal survives reading and writing character for character**, under either policy. -/
theorem write_read_string_token (policy : QuotePolicy) (text : Text) :
    ∀ t ∈ tokenize policy text, t.kind = .string → ∃ s, Literal.read policy t.text = .text s ∧
      (Literal.read policy t.text).write = .ok t.text := by
  intro t ht hkind
  obtain ⟨c, s', hc, -, hpiece⟩ := exists_lexeme_of_mem ht
  have hscanned : t.kind = (lexeme policy (c :: s')).kind := congrArg Prod.fst hpiece
  have hcut : t.text = (lexeme policy (c :: s')).text := congrArg Prod.snd hpiece
  have hform := formed_lexeme policy (s := s') hc
  rw [← hscanned, hkind, ← hcut] at hform
  obtain ⟨s, htext, hread⟩ := exists_quote_of_quotedForm hform
  refine ⟨s, hread, ?_⟩
  rw [hread, htext]
  rfl

/-- A run of quotes ends one literal under one policy, and is two more literals under the other. -/
def quotesSample : Text := "a eq 'O''''' or b eq ''".toList

theorem write_read_string_token_quotesSample :
    ((⟨.string, "'O'''''".toList, 5⟩ : Token) ∈ tokenize .doubled quotesSample ∧
      ∃ s, Literal.read .doubled "'O'''''".toList = .text s ∧
        (Literal.read .doubled "'O'''''".toList).write = .ok "'O'''''".toList) ∧
    (⟨.string, "''".toList, 8⟩ : Token) ∈ tokenize .literal quotesSample ∧
      ∃ s, Literal.read .literal "''".toList = .text s ∧
        (Literal.read .literal "''".toList).write = .ok "''".toList := by
  have hdoubled : (⟨.string, "'O'''''".toList, 5⟩ : Token) ∈ tokenize .doubled quotesSample := by
    decide +kernel
  have hliteral : (⟨.string, "''".toList, 8⟩ : Token) ∈ tokenize .literal quotesSample := by
    decide +kernel
  exact ⟨⟨hdoubled, write_read_string_token .doubled quotesSample _ hdoubled rfl⟩, hliteral,
    write_read_string_token .literal quotesSample _ hliteral rfl⟩

end Token

end QueryFilter
