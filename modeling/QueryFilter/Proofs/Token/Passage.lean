/-
  LITERALS PASSED — both scans that meet a quoted text go past it as a whole, whatever it holds.

  The scan for a closing quote knows pairs of quotes, and the scan for the end of a group does not:
  it leaves the literal at the first quote of a pair and enters it again at the second.

  1. **Inside a group** — `Within front start depth quote`: behind `front` the scan of the group at
     offset `start` has found no end yet (`exists_within_iff`), and goes on from that state,
     whatever follows (`Within.group?_append`).
  2. **Literals** — a written text ends where it ends for the one scan, unless another quote follows
     (`quoted?_quote_iff`), and leaves the state of the other as it was (`inside_quote_text`).

  All together: `write_text_passed`.
-/
import QueryFilter.Proofs.Token.Form

namespace QueryFilter.Token

open Literal (quote doubleQuotes)

/-! ## Inside a group -/

/-- Behind `front`, the scan of the group that begins at offset `start` has not come to an end:
    besides that group `depth` more are open, and perhaps a quote. -/
structure Within (front : Text) (start depth : Nat) (quoted : Option Char) : Prop where
  opening : front[start]? = some '('
  state : inside 0 none (front.drop (start + 1)) = some (depth, quoted)

variable {front : Text} {start depth depth' : Nat} {quoted quoted' : Option Char}

/-- What follows is scanned from the state behind `front`. -/
theorem Within.append (h : Within front start depth quoted) {v : Text}
    (hv : inside depth quoted v = some (depth', quoted')) :
    Within (front ++ v) start depth' quoted' := by
  have hlen := (List.getElem?_eq_some_iff.1 h.opening).1
  refine ⟨by rw [List.getElem?_append_left hlen, h.opening], ?_⟩
  rw [List.drop_append_of_le_length hlen, inside_append, h.state]
  exact hv

/-- **The scan goes on from the state that it is in.** -/
theorem Within.group?_append (h : Within front start depth quoted) (r : Text) :
    group? ((front ++ r).drop start) = after (front.drop start) (closeGroup depth quoted r) := by
  have hlen := (List.getElem?_eq_some_iff.1 h.opening).1
  rw [List.drop_append_of_le_length (Nat.le_of_lt hlen), Text.drop_eq_cons h.opening,
    List.cons_append, group?,
    closeGroup_append_of_inside h.state, after_after, List.singleton_append]

/-- **The scan is within a group as long as it has found no end.** -/
theorem exists_within_iff (hopen : front[start]? = some '(') :
    (∃ depth quoted, Within front start depth quoted) ↔ group? (front.drop start) = none := by
  rw [Text.drop_eq_cons hopen, group?, after_eq_none_iff, closeGroup_eq_none_iff]
  constructor
  · rintro ⟨depth, quoted, h⟩
    exact ⟨_, h.state⟩
  · rintro ⟨⟨depth, quoted⟩, h⟩
    exact ⟨depth, quoted, hopen, h⟩

/-! ## Literals -/

/-- **A quoted text ends at its own last quote**, exactly if no other quote follows. -/
theorem quoted?_quote_iff (s behind : Text) :
    quoted? .doubled (quote s ++ behind) = some (quote s, behind) ↔ ∀ r, behind ≠ '\'' :: r := by
  constructor
  · intro h
    exact (quotedForm_of_quoted? h).2
  · intro h
    have hquote : quote s ++ behind = '\'' :: (doubleQuotes s ++ '\'' :: behind) := by simp [quote]
    rw [hquote, quoted?, closeQuote_doubleQuotes s h]
    rfl

/-- A quoted text leaves any depth as it was. -/
theorem inside_quote_text (depth : Nat) (s : Text) :
    inside depth none (quote s) = some (depth, none) := by
  have hbalanced : inside 0 none (quote s) = some (0, none) := balanced_quote s
  simpa using inside_add depth hbalanced

/-- No group ends within a quoted text. -/
theorem exists_inside_of_prefix (depth : Nat) {s v : Text} (hv : v <+: quote s) :
    ∃ depth' quoted', inside depth none v = some (depth', quoted') := by
  obtain ⟨v', hv'⟩ := hv
  have hall := inside_quote_text depth s
  rw [← hv', inside_append] at hall
  obtain ⟨⟨depth', quoted'⟩, hstate, -⟩ := Option.bind_eq_some_iff.1 hall
  exact ⟨depth', quoted', hstate⟩

/-- **Both scans pass a written text as one.**  Where it stands, the scan for its closing
    quote ends with it, exactly if no quote follows.  The scan of a group that comes to it
    outside quotes finds no end within it, is outside quotes behind it with the same groups
    open, and goes on from there. -/
theorem write_text_passed (s : Text) : ∃ w, (Literal.text s).write = .ok w ∧
    ∀ before behind : Text,
      (quoted? .doubled ((before ++ (w ++ behind)).drop before.length) = some (w, behind) ↔
        ∀ r, behind ≠ '\'' :: r) ∧
      ∀ start depth, Within before start depth none →
        (∀ v, v <+: w → group? ((before ++ v).drop start) = none) ∧
        Within (before ++ w) start depth none ∧
        group? ((before ++ (w ++ behind)).drop start) =
          after ((before ++ w).drop start) (closeGroup depth none behind) := by
  refine ⟨quote s, rfl, fun before behind => ⟨?_, fun start depth h => ?_⟩⟩
  · rw [List.drop_left]
    exact quoted?_quote_iff s behind
  · have hpassed : Within (before ++ quote s) start depth none :=
      h.append (inside_quote_text depth s)
    refine ⟨fun v hv => ?_, hpassed, ?_⟩
    · obtain ⟨depth', quoted', hstate⟩ := exists_inside_of_prefix depth hv
      have hwithin := h.append hstate
      exact (exists_within_iff hwithin.opening).1 ⟨depth', quoted', hwithin⟩
    · rw [← List.append_assoc]
      exact hpassed.group?_append behind

/-- A text with quotes of both sorts and parentheses, as an argument within two groups. -/
theorem write_text_passed_argumentSample :
    Within "x (f(g, ".toList 2 1 none ∧ ∃ w, (Literal.text "')\"('".toList).write = .ok w ∧
      quoted? .doubled (("x (f(g, ".toList ++ (w ++ ")) y".toList)).drop 8) =
        some (w, ")) y".toList) ∧
      Within ("x (f(g, ".toList ++ w) 2 1 none := by
  have hstart : Within "x (f(g, ".toList 2 1 none := ⟨rfl, rfl⟩
  obtain ⟨w, hw, hpassed⟩ := write_text_passed "')\"('".toList
  obtain ⟨hquoted, hgroup⟩ := hpassed "x (f(g, ".toList ")) y".toList
  exact ⟨hstart, w, hw, hquoted.2 (by rintro r ⟨⟩), (hgroup 2 1 hstart).2.1⟩

end QueryFilter.Token
