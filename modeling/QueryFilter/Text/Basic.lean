/-
  TEXT — the character lists that every other module reads and writes.

  A filter is scanned from the left, cut at single characters and glued together again, so a text is
  a plain `List Char`: the scanners are recursions on it, and every offset counts characters.  This
  file holds the small operations that more than one module needs, and for each cut the law that
  nothing is lost: a cut text is its pieces put back together.
-/

namespace QueryFilter

/-- A text is the list of its characters. -/
abbrev Text := List Char

namespace Text

/-! ## Cutting, filling, joining -/

/-- Cut at the first `c`: what stands before it and what stands after it; `none` if there is no
    `c`. -/
def cut? (c : Char) : Text → Option (Text × Text)
  | [] => none
  | d :: s => if d = c then some ([], s) else (cut? c s).map fun (a, b) => (d :: a, b)

/-- The text without its last character, provided that this is `c`. -/
def dropLast? (c : Char) (s : Text) : Option Text :=
  if s.getLast? = some c then some s.dropLast else none

/-- Digits with zeros in front that make them at least `width` long. -/
def zeroPad (width : Nat) (digits : Text) : Text :=
  List.replicate (width - digits.length) '0' ++ digits

/-- A number in base ten with at least `width` digits. -/
def fixedWidth (width n : Nat) : Text := zeroPad width (Nat.toDigits 10 n)

/-- Texts with a separator between them. -/
def joinWith (separator : Text) : List Text → Text
  | [] => []
  | [s] => s
  | s :: rest => s ++ separator ++ joinWith separator rest

/-- The first piece of a cut has no `c`, and the two pieces around a `c` are the text. -/
theorem cut?_eq_some_iff {c : Char} {s a b : Text} :
    cut? c s = some (a, b) ↔ c ∉ a ∧ s = a ++ c :: b := by
  induction s generalizing a with
  | nil => simp [cut?]
  | cons d s ih =>
    by_cases h : d = c
    · subst h
      cases a with
      | nil => simp [cut?, eq_comm]
      | cons x a => simp [cut?]; intro hx _ hd; exact absurd hd hx
    · cases a with
      | nil => simp [cut?, h]
      | cons x a =>
        simp only [cut?, h, if_false, Option.map_eq_some_iff, Prod.mk.injEq, List.cons.injEq,
          Prod.exists, List.mem_cons, not_or, List.cons_append]
        constructor
        · rintro ⟨a', b', hab, ⟨rfl, rfl⟩, rfl⟩
          exact ⟨⟨fun e => h e.symm, (ih.1 hab).1⟩, rfl, (ih.1 hab).2⟩
        · rintro ⟨⟨_, ha⟩, rfl, hs⟩
          exact ⟨a, b, ih.2 ⟨ha, hs⟩, ⟨rfl, rfl⟩, rfl⟩

/-- Only a text without `c` has no cut there. -/
theorem cut?_eq_none_iff {c : Char} {s : Text} : cut? c s = none ↔ c ∉ s := by
  induction s with
  | nil => simp [cut?]
  | cons d s ih =>
    by_cases hd : d = c
    · simp [cut?, hd]
    · simp [cut?, hd, ih, Ne.symm hd]

/-- What is left at an offset begins with the character there. -/
theorem drop_eq_cons {s : Text} {i : Nat} {c : Char} (h : s[i]? = some c) :
    s.drop i = c :: s.drop (i + 1) := by
  obtain ⟨hlen, hc⟩ := List.getElem?_eq_some_iff.1 h
  rw [List.drop_eq_getElem_cons hlen, hc]

/-- Dropping a last `c` undoes appending it. -/
theorem dropLast?_eq_some_iff {c : Char} {s t : Text} : dropLast? c s = some t ↔ s = t ++ [c] := by
  unfold dropLast?
  constructor
  · intro h
    split at h
    · rename_i hl
      obtain ⟨u, hu⟩ := List.getLast?_eq_some_iff.1 hl
      cases h
      simp [hu]
    · cases h
  · rintro rfl
    simp

end Text

end QueryFilter
