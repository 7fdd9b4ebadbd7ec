/-
  SCANNERS — reading one construct off the front of a text.

  Each scanner returns the piece that it read and the rest of the text, or `none` if the construct
  does not stand there; the piece and the rest together are always the text that came in
  (`…_append`).  The constructs:

  * a WORD runs up to a blank, a parenthesis or a comma;
  * a QUOTED LITERAL runs to its closing single quote, which the quote policy decides;
  * a GROUP runs from `(` to the parenthesis that closes it.  Parentheses inside quotes, single or
    double, do not count, and a quote is over at the next quote of the same sort: a doubled quote
    closes and opens again, which comes to the same;
  * a CALL is a predicate name, blanks, and a group;
  * a LAMBDA is a word `field/any` with a group right behind it, and a WRAPPED LAMBDA is one in
    parentheses of its own.
-/
import QueryFilter.Policy
import QueryFilter.Text.Blank
import QueryFilter.Token.Basic

namespace QueryFilter.Token

/-- What a scanner read, and what is left. -/
abbrev Scanned := Option (Text × Text)

/-- Put `front` before what was read. -/
def after (front : Text) (scanned : Scanned) : Scanned :=
  scanned.map fun (piece, rest) => (front ++ piece, rest)

theorem after_eq_some_iff {front t r : Text} {scanned : Scanned} :
    after front scanned = some (t, r) ↔ ∃ u, scanned = some (u, r) ∧ t = front ++ u := by
  simp only [after, Option.map_eq_some_iff, Prod.mk.injEq, Prod.exists]
  constructor
  · rintro ⟨u, r', h, rfl, rfl⟩
    exact ⟨u, h, rfl⟩
  · rintro ⟨u, h, rfl⟩
    exact ⟨u, r, h, rfl, rfl⟩

theorem after_eq_none_iff {front : Text} {scanned : Scanned} :
    after front scanned = none ↔ scanned = none :=
  Option.map_eq_none_iff

/-! ## Words -/

/-- A character that a word may hold. -/
def inWord (c : Char) : Bool := !(Text.isBlank c || c == '(' || c == ')' || c == ',')

/-- The word at the front of a text. -/
def word (s : Text) : Text := s.takeWhile inWord

/-- What follows the word at the front of a text. -/
def afterWord (s : Text) : Text := s.dropWhile inWord

theorem word_append (s : Text) : word s ++ afterWord s = s := List.takeWhile_append_dropWhile

/-! ## Quoted literals -/

/-- The rest of a literal whose opening quote has been read. -/
def closeQuote (policy : QuotePolicy) : Text → Scanned
  | [] => none
  | c :: s =>
    if c = '\'' then
      match policy, s with
      | .doubled, '\'' :: s' => after ['\'', '\''] (closeQuote policy s')
      | _, _ => some (['\''], s)
    else after [c] (closeQuote policy s)

/-- A literal in single quotes. -/
def quoted? (policy : QuotePolicy) : Text → Scanned
  | '\'' :: s => after ['\''] (closeQuote policy s)
  | _ => none

theorem closeQuote_append {policy : QuotePolicy} {s t r : Text}
    (h : closeQuote policy s = some (t, r)) : t ++ r = s := by
  fun_induction closeQuote policy s generalizing t with
  | case1 => cases h
  | case2 s' _ ih =>
    obtain ⟨u, hu, rfl⟩ := after_eq_some_iff.1 h
    simp [ih hu]
  | case3 => cases h; rfl
  | case4 c s _ ih =>
    obtain ⟨u, hu, rfl⟩ := after_eq_some_iff.1 h
    simp [ih hu]

theorem quoted?_append {policy : QuotePolicy} {s t r : Text} (h : quoted? policy s = some (t, r)) :
    t ≠ [] ∧ t ++ r = s := by
  unfold quoted? at h
  split at h
  · obtain ⟨u, hu, rfl⟩ := after_eq_some_iff.1 h
    simp [closeQuote_append hu]
  · cases h

/-! ## Groups -/

/-- The quote that is open after `c`, given the one that was open before it. -/
def nextQuote : Option Char → Char → Option Char
  | some q, c => if c = q then none else some q
  | none, c => if c = '\'' ∨ c = '"' then some c else none

/-- The rest of a group, with `depth` further groups open inside it and possibly a quote. -/
def closeGroup : Nat → Option Char → Text → Scanned
  | _, _, [] => none
  | depth, some q, c :: s => after [c] (closeGroup depth (nextQuote (some q) c) s)
  | depth, none, c :: s =>
    if c = '(' then after [c] (closeGroup (depth + 1) none s)
    else if c = ')' then
      match depth with
      | 0 => some ([c], s)
      | depth + 1 => after [c] (closeGroup depth none s)
    else after [c] (closeGroup depth (nextQuote none c) s)

/-- A group in parentheses. -/
def group? : Text → Scanned
  | '(' :: s => after ['('] (closeGroup 0 none s)
  | _ => none

theorem closeGroup_append {depth : Nat} {quote : Option Char} {s t r : Text}
    (h : closeGroup depth quote s = some (t, r)) : t ++ r = s := by
  fun_induction closeGroup depth quote s generalizing t with
  | case1 => cases h
  | case2 depth q c s ih =>
    obtain ⟨u, hu, rfl⟩ := after_eq_some_iff.1 h
    simp [ih hu]
  | case3 depth s ih =>
    obtain ⟨u, hu, rfl⟩ := after_eq_some_iff.1 h
    simp [ih hu]
  | case4 => cases h; rfl
  | case5 s _ depth ih =>
    obtain ⟨u, hu, rfl⟩ := after_eq_some_iff.1 h
    simp [ih hu]
  | case6 depth c s _ _ ih =>
    obtain ⟨u, hu, rfl⟩ := after_eq_some_iff.1 h
    simp [ih hu]

theorem group?_append {s t r : Text} (h : group? s = some (t, r)) : t ≠ [] ∧ t ++ r = s := by
  unfold group? at h
  split at h
  · obtain ⟨u, hu, rfl⟩ := after_eq_some_iff.1 h
    simp [closeGroup_append hu]
  · cases h

/-! ## Calls and lambdas -/

/-- A predicate name, blanks, and a group. -/
def call? (s : Text) : Scanned :=
  if (Predicate.ofName? (word s)).isSome then
    let r := afterWord s
    after (word s ++ r.takeWhile Text.isBlank) (group? (r.dropWhile Text.isBlank))
  else none

/-- The ending that makes a word the head of a lambda. -/
def anySuffix : Text := "/any".toList

/-- The collection field of a word that heads a lambda: what stands before its ending, if that is
    not empty. -/
def collection? (w : Text) : Option Text :=
  let field := w.take (w.length - anySuffix.length)
  if anySuffix.length < w.length ∧ w = field ++ anySuffix then some field else none

/-- A word `field/any` and the group right behind it. -/
def lambda? (s : Text) : Scanned :=
  if (collection? (word s)).isSome then after (word s) (group? (afterWord s)) else none

/-- A closing parenthesis, blanks before it allowed. -/
def closing? (s : Text) : Scanned :=
  match s.dropWhile Text.isBlank with
  | ')' :: r => some (s.takeWhile Text.isBlank ++ [')'], r)
  | _ => none

/-- A lambda in parentheses of its own, blanks inside them allowed. -/
def wrappedLambda? : Text → Scanned
  | '(' :: s =>
    (lambda? (s.dropWhile Text.isBlank)).bind fun (body, r) =>
      after ('(' :: s.takeWhile Text.isBlank ++ body) (closing? r)
  | _ => none

theorem call?_append {s t r : Text} (h : call? s = some (t, r)) : t ≠ [] ∧ t ++ r = s := by
  unfold call? at h
  split at h
  · obtain ⟨u, hu, rfl⟩ := after_eq_some_iff.1 h
    obtain ⟨hne, hur⟩ := group?_append hu
    refine ⟨by simp [hne], ?_⟩
    rw [List.append_assoc, hur, List.append_assoc, List.takeWhile_append_dropWhile, word_append]
  · cases h

theorem lambda?_append {s t r : Text} (h : lambda? s = some (t, r)) : t ≠ [] ∧ t ++ r = s := by
  unfold lambda? at h
  split at h
  · obtain ⟨u, hu, rfl⟩ := after_eq_some_iff.1 h
    obtain ⟨hne, hur⟩ := group?_append hu
    exact ⟨by simp [hne], by rw [List.append_assoc, hur, word_append]⟩
  · cases h

theorem closing?_append {s t r : Text} (h : closing? s = some (t, r)) : t ++ r = s := by
  unfold closing? at h
  split at h
  · rename_i r' hr
    cases h
    rw [List.append_assoc, List.singleton_append, ← hr, List.takeWhile_append_dropWhile]
  · cases h

theorem wrappedLambda?_append {s t r : Text} (h : wrappedLambda? s = some (t, r)) :
    t ≠ [] ∧ t ++ r = s := by
  unfold wrappedLambda? at h
  split at h
  · rename_i s
    obtain ⟨⟨body, r'⟩, hb, h⟩ := Option.bind_eq_some_iff.1 h
    obtain ⟨u, hu, rfl⟩ := after_eq_some_iff.1 h
    refine ⟨by simp, ?_⟩
    simp only [List.append_assoc, List.cons_append]
    rw [closing?_append hu, (lambda?_append hb).2, List.takeWhile_append_dropWhile]
  · cases h

end QueryFilter.Token
