/-
  THE TOKEN SCAN — filter text to tokens, in one pass from left to right.

  At a character that is not blank the first matching rule wins:

  1. `(` opens a wrapped lambda if one stands there, else it is a token of its own;
  2. `)` and `,` are tokens of their own;
  3. a single quote starts a literal, if that is ever closed;
  4. a predicate name with a group behind it is a call;
  5. a word `field/any` with a group behind it is a lambda;
  6. any other word is a keyword or a bare word.

  The scan only cuts.  An unclosed quote or group falls back to a later rule, and judging the result
  is left to the reader of the tokens.  `Cursor.next?` reads one token, and `Cursor.drain` reads all
  of them; each token is non-empty, so the remaining text shrinks and the scan ends.
-/
import QueryFilter.Token.Scan

namespace QueryFilter.Token

/-! ## One token -/

/-- The token at the front of a text, before it has a place, and the rest of the text. -/
structure Lexeme where
  kind : Kind
  text : Text
  rest : Text
deriving DecidableEq, Repr, Inhabited

/-- The call, lambda, keyword or bare word at the front of a text. -/
def wordLexeme (s : Text) : Lexeme :=
  match call? s with
  | some (t, r) => ⟨.call, t, r⟩
  | none =>
    match lambda? s with
    | some (t, r) => ⟨.lambda, t, r⟩
    | none => ⟨Kind.ofWord (word s), word s, afterWord s⟩

/-- The token at the front of a text that does not start with a blank. -/
def lexeme (policy : QuotePolicy) (s : Text) : Lexeme :=
  match s with
  | '(' :: r =>
    match wrappedLambda? s with
    | some (t, r) => ⟨.lambda, t, r⟩
    | none => ⟨.opening, ['('], r⟩
  | ')' :: r => ⟨.closing, [')'], r⟩
  | ',' :: r => ⟨.comma, [','], r⟩
  | _ =>
    match quoted? policy s with
    | some (t, r) => ⟨.string, t, r⟩
    | none => wordLexeme s

theorem wordLexeme_append (s : Text) : (wordLexeme s).text ++ (wordLexeme s).rest = s := by
  unfold wordLexeme
  split
  · rename_i t r h
    exact (call?_append h).2
  · split
    · rename_i t r h
      exact (lambda?_append h).2
    · exact word_append s

/-- A token and what follows it are the text. -/
theorem lexeme_append (policy : QuotePolicy) (s : Text) :
    (lexeme policy s).text ++ (lexeme policy s).rest = s := by
  unfold lexeme
  split
  · split
    · rename_i t r h
      exact (wrappedLambda?_append h).2
    · rfl
  · rfl
  · rfl
  · split
    · rename_i t r h
      exact (quoted?_append h).2
    · exact wordLexeme_append s

theorem wordLexeme_ne_nil {c : Char} {s : Text} (hc : inWord c = true) :
    (wordLexeme (c :: s)).text ≠ [] := by
  unfold wordLexeme
  split
  · rename_i t r h
    exact (call?_append h).1
  · split
    · rename_i t r h
      exact (lambda?_append h).1
    · simp [word, hc]

/-- A token that starts at a character which is not blank has at least that character. -/
theorem lexeme_ne_nil (policy : QuotePolicy) {c : Char} {s : Text} (hc : Text.isBlank c = false) :
    (lexeme policy (c :: s)).text ≠ [] := by
  unfold lexeme
  split
  · split
    · rename_i t r h
      exact (wrappedLambda?_append h).1
    · simp
  · simp
  · simp
  · rename_i h₁ h₂ h₃
    split
    · rename_i t r h
      exact (quoted?_append h).1
    · apply wordLexeme_ne_nil
      have h₁ : c ≠ '(' := fun h => h₁ s (by rw [h])
      have h₂ : c ≠ ')' := fun h => h₂ s (by rw [h])
      have h₃ : c ≠ ',' := fun h => h₃ s (by rw [h])
      simp [inWord, hc, h₁, h₂, h₃]

/-! ## All tokens -/

/-- A place in a text: what is still to be scanned, and the offset of its first character. -/
structure Cursor where
  rest : Text
  pos : Nat
deriving DecidableEq, Repr, Inhabited

namespace Cursor

/-- The cursor before the first character of a text. -/
def start (text : Text) : Cursor := ⟨text, 0⟩

/-- The cursor past the blanks in front of it. -/
def skipBlanks (cur : Cursor) : Cursor :=
  ⟨Text.trimStart cur.rest, cur.pos + (cur.rest.takeWhile Text.isBlank).length⟩

/-- The next token and the cursor behind it; `none` when only blanks are left. -/
def next? (policy : QuotePolicy) (cur : Cursor) : Option (Token × Cursor) :=
  let here := cur.skipBlanks
  match here.rest with
  | [] => none
  | c :: s =>
    let l := lexeme policy (c :: s)
    some (⟨l.kind, l.text, here.pos⟩, ⟨l.rest, here.pos + l.text.length⟩)

/-- Reading a token leaves less to scan. -/
theorem next?_rest_lt {policy : QuotePolicy} {cur cur' : Cursor} {t : Token}
    (h : cur.next? policy = some (t, cur')) : cur'.rest.length < cur.rest.length := by
  simp only [next?] at h
  split at h
  · cases h
  · rename_i c s hs
    cases h
    have hs : cur.rest.dropWhile Text.isBlank = c :: s := hs
    have hc : Text.isBlank c = false := by
      have := List.head?_dropWhile_not Text.isBlank cur.rest
      simpa [hs] using this
    have hlen : (cur.rest.dropWhile Text.isBlank).length ≤ cur.rest.length :=
      (List.dropWhile_suffix _).length_le
    have hpos := List.length_pos_iff.2 (lexeme_ne_nil policy (s := s) hc)
    have happ := congrArg List.length (lexeme_append policy (c :: s))
    rw [List.length_append, ← hs] at happ
    rw [← hs] at hpos
    show (lexeme policy (c :: s)).rest.length < _
    rw [← hs]
    omega

/-- All remaining tokens, and the cursor behind the blanks that follow the last of them. -/
def drain (policy : QuotePolicy) (cur : Cursor) : List Token × Cursor :=
  match _h : cur.next? policy with
  | none => ([], cur.skipBlanks)
  | some (t, cur') =>
    let (ts, last) := drain policy cur'
    (t :: ts, last)
termination_by cur.rest.length
decreasing_by exact next?_rest_lt _h

end Cursor

/-- The tokens of a filter text. -/
def tokenize (policy : QuotePolicy) (text : Text) : List Token :=
  ((Cursor.start text).drain policy).1

/-- A literal that is never closed falls apart into words. -/
example : (tokenize .doubled "a eq 'x y".toList).map Token.text =
    ["a".toList, "eq".toList, "'x".toList, "y".toList] := by
  decide +kernel

/-- Parentheses inside quotes do not end a call. -/
example : (tokenize .doubled "contains(a, ')') or (t/any(x:x eq 1))".toList).map Token.kind =
    [.call, .or, .lambda] := by
  decide +kernel

end QueryFilter.Token
