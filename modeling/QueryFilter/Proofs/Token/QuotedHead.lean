/-
  QUOTED HEADS — when a quoted literal behind a parenthesis is taken for the head of a lambda.

  Behind an opening parenthesis the scan looks for a lambda before it looks for a literal, and a
  quote may stand in a word.  So `('a/any(` begins like a lambda whose field is `'a`.

  1. **Doubled quotes** — a stretch without quotes stands in a text exactly where it stands in the
     text with its quotes doubled (`exists_of_doubleQuotes_append`).
  2. **Lambdas** — exactly a non-empty word, the suffix of lambdas, and a group
     (`lambda?_eq_some_iff`).
  3. **Quoted heads** — a literal heads a lambda only if its text holds `/any(` behind word
     characters, and the parentheses opened there are closed somewhere, in the literal or behind it
     (`lambda?_quote_iff`).  In particular a list whose first value has no `/any(` is safe
     (`lambda?_list_eq_none`).
-/
import QueryFilter.Proofs.Token.Scans

namespace QueryFilter

namespace Literal

/-! ## Doubled quotes -/

theorem doubleQuotes_append (s t : Text) :
    doubleQuotes (s ++ t) = doubleQuotes s ++ doubleQuotes t :=
  List.flatMap_append

/-- Without quotes there is nothing to double. -/
theorem doubleQuotes_eq_self {s : Text} (h : '\'' ∉ s) : doubleQuotes s = s := by
  induction s with
  | nil => rfl
  | cons c s ih =>
    have hc : c ≠ '\'' := fun heq => h (heq ▸ List.mem_cons_self ..)
    rw [doubleQuotes_cons_of_ne hc, ih fun hmem => h (List.mem_cons_of_mem _ hmem)]

/-- The doubled text has the characters of the text. -/
theorem mem_doubleQuotes {c : Char} {s : Text} : c ∈ doubleQuotes s ↔ c ∈ s := by
  induction s with
  | nil => exact Iff.rfl
  | cons d s ih =>
    by_cases hd : d = '\''
    · subst hd
      rw [doubleQuotes_cons_quote, List.mem_cons, List.mem_cons, ih, List.mem_cons]
      constructor
      · rintro (h | h | h)
        · exact Or.inl h
        · exact Or.inl h
        · exact Or.inr h
      · rintro (h | h)
        · exact Or.inl h
        · exact Or.inr (Or.inr h)
    · rw [doubleQuotes_cons_of_ne hd, List.mem_cons, List.mem_cons, ih]

/-- A character other than a quote stands between the doubled forms of what stands around it. -/
theorem exists_of_doubleQuotes_cons {s u w : Text} {c : Char} (hc : c ≠ '\'')
    (h : doubleQuotes s = u ++ c :: w) :
    ∃ u' w', s = u' ++ c :: w' ∧ doubleQuotes u' = u ∧ doubleQuotes w' = w := by
  induction s generalizing u with
  | nil =>
    cases u with
    | nil => cases h
    | cons x u => cases h
  | cons d s ih =>
    by_cases hd : d = '\''
    · -- the pair lies in front of `c` as a whole
      subst hd
      rw [doubleQuotes_cons_quote] at h
      cases u with
      | nil =>
        rw [List.nil_append, List.cons.injEq] at h
        exact absurd h.1.symm hc
      | cons x u =>
        rw [List.cons_append, List.cons.injEq] at h
        cases u with
        | nil =>
          rw [List.nil_append, List.cons.injEq] at h
          exact absurd h.2.1.symm hc
        | cons y u =>
          rw [List.cons_append, List.cons.injEq] at h
          obtain ⟨u', w', rfl, rfl, rfl⟩ := ih h.2.2
          refine ⟨'\'' :: u', w', rfl, ?_, rfl⟩
          rw [doubleQuotes_cons_quote, ← h.1, ← h.2.1]
    · rw [doubleQuotes_cons_of_ne hd] at h
      cases u with
      | nil =>
        rw [List.nil_append, List.cons.injEq] at h
        exact ⟨[], s, by rw [h.1]; rfl, rfl, h.2⟩
      | cons x u =>
        rw [List.cons_append, List.cons.injEq] at h
        obtain ⟨u', w', rfl, rfl, rfl⟩ := ih h.2
        exact ⟨d :: u', w', rfl, by rw [doubleQuotes_cons_of_ne hd, h.1], rfl⟩

/-- **A stretch without quotes stands between the doubled forms of what stands around it.** -/
theorem exists_of_doubleQuotes_append {s u p w : Text} (hp : '\'' ∉ p)
    (h : doubleQuotes s = u ++ (p ++ w)) :
    p = [] ∨ ∃ u' w', s = u' ++ (p ++ w') ∧ doubleQuotes u' = u ∧ doubleQuotes w' = w := by
  induction p generalizing s u with
  | nil => exact Or.inl rfl
  | cons c p ih =>
    -- cut at the first character; the rest of the stretch then begins what is left
    right
    have hc : c ≠ '\'' := fun heq => hp (heq ▸ List.mem_cons_self ..)
    obtain ⟨u', s', rfl, rfl, hs'⟩ := exists_of_doubleQuotes_cons hc h
    rcases ih (u := []) (fun hmem => hp (List.mem_cons_of_mem _ hmem)) hs' with
      rfl | ⟨u'', w', rfl, hu'', rfl⟩
    · exact ⟨u', s', rfl, rfl, hs'⟩
    · have hnil : u'' = [] := by
        cases u'' with
        | nil => rfl
        | cons x u'' =>
          have hmem := mem_doubleQuotes.2 (List.mem_cons_self (a := x) (l := u''))
          rw [hu''] at hmem
          cases hmem
      subst hnil
      exact ⟨u', w', rfl, rfl, rfl⟩

end Literal

namespace Token

open Literal (quote doubleQuotes)

/-! ## Lambdas -/

/-- **A lambda is a non-empty word, the suffix of lambdas, and a group.** -/
theorem lambda?_eq_some_iff {s t r : Text} :
    lambda? s = some (t, r) ↔ ∃ field body, field ≠ [] ∧ (∀ c ∈ field, inWord c = true) ∧
      Balanced body ∧ t = field ++ (anySuffix ++ '(' :: (body ++ [')'])) ∧ s = t ++ r := by
  constructor
  · intro h
    have hs := (lambda?_append h).2.symm
    unfold lambda? at h
    split at h
    · rename_i hcollection
      obtain ⟨field, hfield⟩ := Option.isSome_iff_exists.1 hcollection
      obtain ⟨hne, hword⟩ := collection?_eq_some_iff.1 hfield
      obtain ⟨u, hu, rfl⟩ := after_eq_some_iff.1 h
      obtain ⟨body, hbal, rfl, -⟩ := group?_eq_some_iff.1 hu
      refine ⟨field, body, hne, ?_, hbal, by rw [hword, List.append_assoc], hs⟩
      intro c hc
      have hmem : c ∈ word s := by
        rw [hword]
        exact List.mem_append_left _ hc
      exact List.mem_takeWhile_imp hmem
    · cases h
  · rintro ⟨field, body, hne, hfield, hbal, rfl, rfl⟩
    have happ : field ++ (anySuffix ++ '(' :: (body ++ [')'])) ++ r =
        field ++ (anySuffix ++ '(' :: (body ++ ')' :: r)) := by simp
    rw [happ]
    exact lambda?_of_balanced hne hfield hbal

/-! ## Quoted heads -/

/-- A head with an opening parenthesis at its end lies in the literal that it begins in: it reaches
    neither the closing quote as its last character nor what stands behind that. -/
theorem head_in_literal {p s tail rest : Text} (hp : ∀ c ∈ p, inWord c = true)
    (htail : ∀ c s, tail = c :: s → inWord c = false ∧ c ≠ '(')
    (h : s ++ '\'' :: tail = (p ++ ['(']) ++ rest) :
    ∃ y, s = (p ++ ['(']) ++ y ∧ y ++ '\'' :: tail = rest := by
  rcases List.append_eq_append_iff.1 h with ⟨y, hy, hrest⟩ | ⟨y, hy, hrest⟩
  · -- the head reaches at least to the end of the literal: then `y` would begin with the quote
    cases y with
    | nil =>
      rw [List.append_nil] at hy
      exact ⟨[], by rw [← hy, List.append_nil], hrest⟩
    | cons z y =>
      exfalso
      rw [List.cons_append, List.cons.injEq] at hrest
      cases y with
      | nil =>
        have hlast := congrArg List.getLast? hy
        rw [List.getLast?_concat, List.getLast?_concat, ← hrest.1] at hlast
        cases hlast
      | cons c y =>
        obtain ⟨hc, hparen⟩ := htail c _ hrest.2
        have hmem : c ∈ p ++ ['('] := by rw [hy]; simp
        rcases List.mem_append.1 hmem with hmem | hmem
        · rw [hp c hmem] at hc
          cases hc
        · exact hparen (List.mem_singleton.1 hmem)
  · exact ⟨y, hy, hrest.symm⟩

/-- **A quoted literal heads a lambda exactly if its text holds `/any(` behind word characters, and
    what stands behind that closes the parenthesis.** -/
theorem lambda?_quote_iff {v tail r : Text}
    (htail : ∀ c s, tail = c :: s → inWord c = false ∧ c ≠ '(') :
    (∃ t, lambda? (quote v ++ tail) = some (t, r)) ↔
      ∃ u w body, v = u ++ ("/any(".toList ++ w) ∧ (∀ c ∈ u, inWord c = true) ∧ Balanced body ∧
        doubleQuotes w ++ '\'' :: tail = body ++ ')' :: r := by
  have hquote : quote v ++ tail = '\'' :: (doubleQuotes v ++ '\'' :: tail) := by simp [quote]
  have hsuffix : ∀ s : Text, anySuffix ++ '(' :: s = "/any(".toList ++ s := fun s => rfl
  constructor
  · rintro ⟨t, h⟩
    obtain ⟨field, body, hne, hfield, hbal, rfl, heq⟩ := lambda?_eq_some_iff.1 h
    cases field with
    | nil => exact absurd rfl hne
    | cons q u =>
      have hcut : doubleQuotes v ++ '\'' :: tail =
          ((u ++ anySuffix) ++ ['(']) ++ (body ++ ')' :: r) := by
        rw [hquote, List.append_assoc, List.cons_append, List.cons.injEq] at heq
        rw [heq.2]
        simp
      have hword := inWord_append_anySuffix fun c hc => hfield c (List.mem_cons_of_mem _ hc)
      obtain ⟨y, hy, hrest⟩ := head_in_literal hword htail hcut
      rw [List.append_assoc u, List.append_assoc u] at hy
      rcases Literal.exists_of_doubleQuotes_append (by decide) hy with hnil | ⟨u', w, rfl, rfl, rfl⟩
      · cases hnil
      · exact ⟨u', w, body, rfl,
          fun c hc => hfield c (List.mem_cons_of_mem _ (Literal.mem_doubleQuotes.2 hc)),
          hbal, hrest⟩
  · rintro ⟨u, w, body, rfl, hu, hbal, heq⟩
    refine ⟨('\'' :: doubleQuotes u) ++ (anySuffix ++ '(' :: (body ++ [')'])), ?_⟩
    refine lambda?_eq_some_iff.2 ⟨'\'' :: doubleQuotes u, body, List.cons_ne_nil _ _, ?_, hbal,
      rfl, ?_⟩
    · intro c hc
      rcases List.mem_cons.1 hc with rfl | hc
      · decide
      · exact hu c (Literal.mem_doubleQuotes.1 hc)
    · have hany : doubleQuotes "/any(".toList = "/any(".toList :=
        Literal.doubleQuotes_eq_self (by decide)
      rw [hquote, Literal.doubleQuotes_append, Literal.doubleQuotes_append, hany, List.append_assoc,
        List.append_assoc, heq]
      simp [anySuffix]

/-- Behind the first element of a list stands a comma or the closing parenthesis. -/
theorem behind_first (rest : List Text) (r : Text) :
    ∀ c s, (rest.flatMap fun t => ", ".toList ++ t) ++ ')' :: r = c :: s →
      inWord c = false ∧ c ≠ '(' := by
  intro c s h
  cases rest with
  | nil =>
    cases h
    decide
  | cons t rest =>
    cases h
    decide

/-- **Behind the parenthesis of a list stands no lambda**, if no `/any(` stands in its first
    value. -/
theorem lambda?_list_eq_none {vs : List Text} (h : ∀ v ∈ vs, Operand v)
    (hfirst : ∀ s, vs.head? = some (quote s) → ¬ "/any(".toList <:+: s) (r : Text) :
    lambda? (Text.joinWith ", ".toList vs ++ ')' :: r) = none := by
  cases vs with
  | nil => rfl
  | cons v rest =>
    rw [joinWith_cons, List.append_assoc]
    have htail := behind_first rest r
    cases h v (List.mem_cons_self ..) with
    | quoted s =>
      cases hlambda : lambda?
          (quote s ++ ((rest.flatMap fun t => ", ".toList ++ t) ++ ')' :: r)) with
      | none => rfl
      | some p =>
        exfalso
        obtain ⟨u, w, body, rfl, -⟩ := (lambda?_quote_iff htail).1 ⟨p.1, hlambda⟩
        exact hfirst _ rfl ⟨u, w, by rw [List.append_assoc]⟩
    | word plain bare =>
      apply lambda?_eq_none plain.inWord
      · exact fun c s heq => (htail c s heq).1
      · exact Or.inr fun s heq => (htail _ s heq).2 rfl

end Token

end QueryFilter
