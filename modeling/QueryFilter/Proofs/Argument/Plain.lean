/-
  PLAIN ARGUMENTS — the values that come back from filter text as they went in.

  1. **Specification** — `Argument.Plain`: truth values, integers within the digit limit, texts with
     any content, dates, date-times within the calendar, operators, and raw tokens that are bare
     words with no meaning of their own.
  2. **Timestamps** — digits and five marks, one of them the final `Z`, which no numeral and no
     keyword has (`mem_of_text?`).
  3. **Writing** — a plain argument is written as a quoted text or as a word that stands for itself
     (`Argument.Plain.write_cases`).
-/
import QueryFilter.Fault
import QueryFilter.Proofs.Time.Calendar
import QueryFilter.Proofs.Token.Scans

namespace QueryFilter

open Token (PlainWord Operand Kind)

/-! ## Timestamps -/

theorem isDigit_of_mem_fixedWidth {width n : Nat} {c : Char} (h : c ∈ Text.fixedWidth width n) :
    c.isDigit = true := by
  rw [Text.fixedWidth, Text.zeroPad, List.mem_append] at h
  rcases h with h | h
  · rw [(List.mem_replicate.1 h).2]
    decide
  · exact Nat.isDigit_of_mem_toDigits (by decide) (by decide) h

/-- The marks between the digits of a timestamp. -/
def timestampMarks : List Char := ['-', 'T', ':', '.', 'Z']

/-- A timestamp ends with `Z`, and all its characters are digits and marks. -/
theorem mem_of_text? {t : Instant} {w : Text} (h : t.text? = some w) :
    'Z' ∈ w ∧ ∀ c ∈ w, c.isDigit = true ∨ c ∈ timestampMarks := by
  unfold Instant.text? at h
  split at h
  · cases h
  · obtain ⟨date, -, rfl⟩ := Option.map_eq_some_iff.1 h
    refine ⟨by simp, ?_⟩
    intro c hc
    have hmark : ∀ m ∈ timestampMarks, c = m → c ∈ timestampMarks := fun m hm heq => heq ▸ hm
    simp only [Date.text, Instant.clockText, List.mem_append, List.mem_cons, List.not_mem_nil,
      or_false] at hc
    rcases hc with (((hc | rfl | hc) | rfl | hc) | rfl | (((hc | rfl | hc) | rfl | hc) | rfl | hc))
      | rfl
    all_goals first
      | exact Or.inl (isDigit_of_mem_fixedWidth hc)
      | exact Or.inr (by decide)

/-- A word that stands for itself wherever it is a value. -/
structure Token.PlainValue (w : Text) : Prop extends PlainName w where
  canonical : Literal.Canonical w
  noCall : Predicate.ofName? w = none

/-- A word with a character that no keyword, predicate or numeral has. -/
structure Token.Marked (w : Text) : Prop extends PlainWord w where
  mark : 'Z' ∈ w

namespace Token.Marked

variable {w : Text}

theorem bare (h : Marked w) : Kind.ofWord w = .bare := by
  by_cases hbare : Kind.ofWord w = .bare
  · exact hbare
  · exfalso
    have hmark := h.mark
    rcases mem_keywords_of_ofWord hbare with hmem | ⟨op, rfl⟩
    · have hnone : ∀ w ∈ ["and".toList, "or".toList, "not".toList, "in".toList], 'Z' ∉ w := by
        decide
      exact hnone w hmem hmark
    · revert hmark
      cases op <;> decide

theorem noCall (h : Marked w) : Predicate.ofName? w = none := by
  apply predicate_ofName?_eq_none
  rintro op rfl
  have hmark := h.mark
  revert hmark
  cases op <;> decide

theorem canonical (h : Marked w) : Literal.Canonical w := by
  apply Literal.canonical_of_raw h.toPlainWord.unquote?
  cases hn : Numeral.read? w with
  | none => rfl
  | some n =>
    exfalso
    have hz : ¬ Numeral.InNumeral 'Z' := by
      simp only [Numeral.InNumeral]
      decide
    exact hz (Numeral.mem_of_read? hn 'Z' h.mark)

theorem plainValue (h : Marked w) : PlainValue w := ⟨⟨h.toPlainWord, h.bare⟩, h.canonical, h.noCall⟩

end Token.Marked

/-- A timestamp is a plain word with a mark. -/
theorem marked_of_text? {t : Instant} {w : Text} (h : t.text? = some w) : Token.Marked w := by
  obtain ⟨hz, hall⟩ := mem_of_text? h
  have hchar : ∀ c ∈ w, Token.inWord c = true ∧ c ≠ '\'' ∧ c ≠ '"' := by
    intro c hc
    rcases hall c hc with hdigit | hmark
    · have hnumeral : Numeral.InNumeral c := Or.inl (by rw [Text.digit?_of_isDigit hdigit]; rfl)
      exact ⟨Token.inWord_of_inNumeral hnumeral, Literal.not_quote_of_inNumeral hnumeral⟩
    · have hmarks : timestampMarks.all fun c => Token.inWord c && c != '\'' && c != '"' := by decide
      have hc := List.all_eq_true.1 hmarks c hmark
      simp only [Bool.and_eq_true, bne_iff_ne, ne_eq] at hc
      exact ⟨hc.1.1, hc.1.2, hc.2⟩
  exact ⟨⟨List.ne_nil_of_mem hz, fun c hc => (hchar c hc).1, fun c hc => (hchar c hc).2⟩, hz⟩

/-! ## Plain arguments -/

namespace Argument

/-- A value that a filter text holds without loss. -/
inductive Plain : Argument → Prop
  | bool (b : Bool) : Plain (.literal (.bool b))
  /-- An integer within the digit limit. -/
  | int {n : Int} (short : (Nat.toDigits 10 n.natAbs).length ≤ Integer.digitLimit) :
      Plain (.literal (.int n))
  /-- A text, whatever it holds. -/
  | text (s : Text) : Plain (.literal (.text s))
  | operator (op : Operator) : Plain (.operator op)
  | date (d : Date) : Plain (.literal (.date d))
  /-- A date-time within the calendar. -/
  | dateTime {t : DateTime} (writable : t.instant.text?.isSome = true) :
      Plain (.literal (.dateTime t))
  /-- A bare word that is no keyword, no name of a predicate and no numeral. -/
  | raw {w : Text} (name : Token.PlainName w) (noCall : Predicate.ofName? w = none)
      (noNumeral : Numeral.read? w = none) : Plain (.literal (.raw w))

/-- A quoted text is no name of a predicate. -/
theorem predicate_ofName?_quote (s : Text) : Predicate.ofName? (Literal.quote s) = none := by
  apply Token.predicate_ofName?_eq_none
  intro op heq
  have hhead : op.name.head? = some '\'' := by
    rw [← heq]
    rfl
  revert hhead
  cases op <;> decide

/-- **A plain argument is written as a quoted text or as a word that stands for itself.** -/
theorem Plain.write_cases {a : Argument} (h : a.Plain) :
    (∃ s, a.text? = some s ∧ a.write = .ok (Literal.quote s)) ∨
      ∃ w, a.write = .ok w ∧ Token.PlainValue w := by
  cases h with
  | bool b =>
    right
    cases b with
    | false =>
      exact ⟨"false".toList, rfl, ⟨⟨Token.plainWord_of_all (by decide) (by decide), by decide⟩,
        Literal.canonical_of_raw (by decide) (by decide), by decide⟩⟩
    | true =>
      exact ⟨"true".toList, rfl, ⟨⟨Token.plainWord_of_all (by decide) (by decide), by decide⟩,
        Literal.canonical_of_raw (by decide) (by decide), by decide⟩⟩
  | @int n short =>
    right
    have hn := Numeral.read?_numeral n
    refine ⟨Integer.numeral n, ?_, ⟨⟨Token.plainWord_of_read? hn, Token.ofWord_of_read? hn⟩,
      Literal.canonical_numeral short, Token.predicate_ofName?_of_read? hn⟩⟩
    have htext : Integer.text? n = some (Integer.numeral n) := by rw [Integer.text?, if_pos short]
    show ((Literal.orElse .digitLimit (Integer.text? n)).mapError _) = _
    rw [htext]
    rfl
  | text s => exact Or.inl ⟨s, rfl, rfl⟩
  | operator op => exact Or.inl ⟨op.name, rfl, rfl⟩
  | date d =>
    right
    obtain ⟨w, hw⟩ := Option.isSome_iff_exists.1 d.text?_instant_isSome
    refine ⟨w, ?_, (marked_of_text? hw).plainValue⟩
    show ((Literal.orElse .dateRange d.instant.text?).mapError _) = _
    rw [hw]
    rfl
  | @dateTime t writable =>
    right
    obtain ⟨w, hw⟩ := Option.isSome_iff_exists.1 writable
    refine ⟨w, ?_, (marked_of_text? hw).plainValue⟩
    show ((Literal.orElse .dateRange t.instant.text?).mapError _) = _
    rw [hw]
    rfl
  | @raw w name noCall noNumeral =>
    exact Or.inr ⟨w, rfl, ⟨name, Literal.canonical_of_raw name.toPlainWord.unquote? noNumeral,
      noCall⟩⟩

/-- The text of a plain argument is an operand that stands for itself. -/
theorem Plain.exists_write {a : Argument} (h : a.Plain) :
    ∃ w, a.write = .ok w ∧ Operand w ∧ Literal.Canonical w ∧ Predicate.ofName? w = none := by
  rcases h.write_cases with ⟨s, -, hw⟩ | ⟨w, hw, hplain⟩
  · exact ⟨Literal.quote s, hw, .quoted s, Literal.canonical_quote s, predicate_ofName?_quote s⟩
  · exact ⟨w, hw, .word hplain.toPlainWord hplain.notKeyword, hplain.canonical, hplain.noCall⟩

end Argument

end QueryFilter
