/-
  PLACES — where the tokens of a text stand in it.

  1. **Specification** — `Segments pos s tokens`: from the offset `pos` on, `s` is blanks and tokens
     by turns, each token at the offset that it carries, and blanks alone behind the last one.
  2. **One token** — a token of the scan is not empty and has no blank at its ends
     (`stripped_lexeme`), and one step of the cursor takes blanks and a token off the
     text (`exists_of_next?`).
  3. **Program = specification** — so the tokens of a text are its segments, and the cursor behind
     them is at the end of it (`segments_drain`), by induction along the scan.
  4. **What segments are** — each is found in the text at its offset, they follow each other without
     overlap, and what lies in none of them is blank.

  All together: `tokenize_segments`.
-/
import QueryFilter.Proofs.Token.Call

namespace QueryFilter.Token

variable {policy : QuotePolicy}

/-! ## The specification -/

/-- From an offset on, a text is blanks and tokens by turns. -/
inductive Segments : Nat → Text → List Token → Prop
  | blanks {pos : Nat} {s : Text} (blank : ∀ c ∈ s, Text.isBlank c = true) : Segments pos s []
  | token {pos : Nat} {gap rest : Text} {t : Token} {ts : List Token}
      (blank : ∀ c ∈ gap, Text.isBlank c = true) (place : t.pos = (pos + gap.length : Nat))
      (ne_nil : t.text ≠ []) (stripped : t.text.Stripped)
      (behind : Segments (pos + gap.length + t.text.length) rest ts) :
      Segments pos (gap ++ (t.text ++ rest)) (t :: ts)

/-- The token is found in a text at its own offset. -/
def StandsIn (t : Token) (text : Text) : Prop :=
  ∃ n : Nat, t.pos = n ∧ (text.drop n).take t.text.length = t.text

/-- The token lies over an offset. -/
def Covers (t : Token) (i : Nat) : Prop := t.pos ≤ i ∧ i < t.pos + t.text.length

/-- The token is found in a text, within the stretch of another one. -/
structure StandsWithin (c : Token) (text : Text) (t : Token) : Prop where
  standsIn : c.StandsIn text
  start_le : t.pos ≤ c.pos
  end_le : c.pos + c.text.length ≤ t.pos + t.text.length

/-- A token that stands in a text stands within itself. -/
theorem StandsIn.within_self {t : Token} {text : Text} (h : t.StandsIn text) :
    t.StandsWithin text t :=
  ⟨h, Int.le_refl _, Int.le_refl _⟩

/-! ## One token -/

/-- A text that ends in a character which is not blank. -/
theorem isBlank_of_getLast?_concat {u : Text} {x : Char} (hx : Text.isBlank x = false) :
    ∀ c, (u ++ [x]).getLast? = some c → Text.isBlank c = false := by
  intro c hc
  rw [List.getLast?_concat] at hc
  cases hc
  exact hx

/-- What is read up to the closing quote ends in it. -/
theorem exists_of_closeQuote {s t r : Text} (h : closeQuote policy s = some (t, r)) :
    ∃ u, t = u ++ ['\''] := by
  fun_induction closeQuote policy s generalizing t with
  | case1 => cases h
  | case2 s' _ ih =>
    obtain ⟨t', ht', rfl⟩ := after_eq_some_iff.1 h
    obtain ⟨u, rfl⟩ := ih ht'
    exact ⟨'\'' :: '\'' :: u, rfl⟩
  | case3 =>
    cases h
    exact ⟨[], rfl⟩
  | case4 c s _ ih =>
    obtain ⟨t', ht', rfl⟩ := after_eq_some_iff.1 h
    obtain ⟨u, rfl⟩ := ih ht'
    exact ⟨c :: u, rfl⟩

/-- A lambda in parentheses of its own ends in the second of them. -/
theorem exists_of_wrappedLambda? {s t r : Text} (h : wrappedLambda? s = some (t, r)) :
    ∃ u, t = u ++ [')'] := by
  unfold wrappedLambda? at h
  split at h
  · obtain ⟨⟨body, r'⟩, -, h⟩ := Option.bind_eq_some_iff.1 h
    obtain ⟨u, hu, rfl⟩ := after_eq_some_iff.1 h
    obtain ⟨blanks, -, rfl, -⟩ := closing?_eq_some_iff.1 hu
    exact ⟨_, (List.append_assoc ..).symm⟩
  · cases h

/-- A call, a lambda or a word has no blank at its end. -/
theorem isBlank_getLast_wordLexeme (s : Text) :
    ∀ c, (wordLexeme s).text.getLast? = some c → Text.isBlank c = false := by
  -- whatever ends with a group ends with its parenthesis
  have hgroup : ∀ {front s t r : Text}, after front (group? s) = some (t, r) →
      ∃ u, t = u ++ [')'] := by
    intro front s t r h
    obtain ⟨g, hg, rfl⟩ := after_eq_some_iff.1 h
    obtain ⟨u, -, rfl, -⟩ := group?_eq_some_iff.1 hg
    exact ⟨front ++ '(' :: u, by simp⟩
  unfold wordLexeme
  split
  · rename_i t r h
    unfold call? at h
    split at h
    · obtain ⟨u, rfl⟩ := hgroup h
      exact isBlank_of_getLast?_concat (by decide)
    · cases h
  · split
    · rename_i t r h
      unfold lambda? at h
      split at h
      · obtain ⟨u, rfl⟩ := hgroup h
        exact isBlank_of_getLast?_concat (by decide)
      · cases h
    · intro c hc
      have hword : inWord c = true := List.mem_takeWhile_imp (List.mem_of_getLast? hc)
      exact (inWord_iff.1 hword).1

/-- **A token of the scan has no blank at its ends.** -/
theorem stripped_lexeme (policy : QuotePolicy) {c : Char} {s : Text} (hc : Text.isBlank c = false) :
    (lexeme policy (c :: s)).text.Stripped := by
  constructor
  · -- the text starts with the token, so both have the same first character
    intro d hd
    have happ := congrArg List.head? (lexeme_append policy (c :: s))
    rw [List.head?_append, hd] at happ
    cases happ
    exact hc
  · unfold lexeme
    split
    · split
      · rename_i t r h
        obtain ⟨u, rfl⟩ := exists_of_wrappedLambda? h
        exact isBlank_of_getLast?_concat (by decide)
      · exact isBlank_of_getLast?_concat (u := []) (by decide)
    · exact isBlank_of_getLast?_concat (u := []) (by decide)
    · exact isBlank_of_getLast?_concat (u := []) (by decide)
    · split
      · rename_i t r h
        unfold quoted? at h
        split at h
        · obtain ⟨u, hu, rfl⟩ := after_eq_some_iff.1 h
          obtain ⟨v, rfl⟩ := exists_of_closeQuote hu
          rw [← List.append_assoc]
          exact isBlank_of_getLast?_concat (by decide)
        · cases h
      · exact isBlank_getLast_wordLexeme _

/-! ## One step of the cursor -/

namespace Cursor

/-- The cursor skips blanks, reads the token behind them, and goes on behind that. -/
theorem exists_lexeme_of_next? {cur cur' : Cursor} {t : Token}
    (h : cur.next? policy = some (t, cur')) :
    ∃ gap c s, (∀ d ∈ gap, Text.isBlank d = true) ∧ Text.isBlank c = false ∧
      cur.rest = gap ++ c :: s ∧ Text.trimStart cur.rest = c :: s ∧
      t = ⟨(lexeme policy (c :: s)).kind, (lexeme policy (c :: s)).text,
        (cur.pos + gap.length : Nat)⟩ ∧
      cur' = ⟨(lexeme policy (c :: s)).rest,
        cur.pos + gap.length + (lexeme policy (c :: s)).text.length⟩ := by
  simp only [next?] at h
  split at h
  · cases h
  · rename_i c s hs
    cases h
    have hrest : cur.rest.dropWhile Text.isBlank = c :: s := hs
    refine ⟨cur.rest.takeWhile Text.isBlank, c, s, fun _ hd => List.mem_takeWhile_imp hd,
      isBlank_of_trimStart hs, ?_, hs, rfl, rfl⟩
    rw [← hrest, List.takeWhile_append_dropWhile]

/-- The cursor goes on behind blanks and a token. -/
theorem exists_of_next? {cur cur' : Cursor} {t : Token} (h : cur.next? policy = some (t, cur')) :
    ∃ gap, (∀ c ∈ gap, Text.isBlank c = true) ∧ cur.rest = gap ++ (t.text ++ cur'.rest) ∧
      t.pos = (cur.pos + gap.length : Nat) ∧ cur'.pos = cur.pos + gap.length + t.text.length ∧
      t.text ≠ [] ∧ t.text.Stripped := by
  obtain ⟨gap, c, s, hgap, hc, hrest, -, rfl, rfl⟩ := exists_lexeme_of_next? h
  refine ⟨gap, hgap, ?_, rfl, rfl, lexeme_ne_nil policy hc, stripped_lexeme policy hc⟩
  rw [hrest, lexeme_append]

/-- The cursor finds no token only before blanks, and comes to the end behind them. -/
theorem blanks_of_next? {cur : Cursor} (h : cur.next? policy = none) :
    (∀ c ∈ cur.rest, Text.isBlank c = true) ∧ cur.skipBlanks = ⟨[], cur.pos + cur.rest.length⟩ := by
  simp only [next?] at h
  split at h
  · rename_i hs
    have hdrop : cur.rest.dropWhile Text.isBlank = [] := hs
    have htake : cur.rest.takeWhile Text.isBlank = cur.rest := by
      have happ := List.takeWhile_append_dropWhile (p := Text.isBlank) (l := cur.rest)
      rwa [hdrop, List.append_nil] at happ
    refine ⟨fun c hc => ?_, ?_⟩
    · rw [← htake] at hc
      exact List.mem_takeWhile_imp hc
    · rw [skipBlanks, htake, Text.trimStart, hdrop]
  · cases h

end Cursor

/-! ## All tokens -/

/-- **The tokens behind a cursor are the segments of what is left**, and end where that ends. -/
theorem segments_drain (policy : QuotePolicy) (cur : Cursor) :
    Segments cur.pos cur.rest (cur.drain policy).1 ∧
      (cur.drain policy).2 = ⟨[], cur.pos + cur.rest.length⟩ := by
  fun_induction Cursor.drain policy cur with
  | case1 cur hnext =>
    obtain ⟨hblank, hend⟩ := Cursor.blanks_of_next? hnext
    exact ⟨.blanks hblank, hend⟩
  | case2 cur t cur' hnext ts last hdrain ih =>
    obtain ⟨gap, hblank, hrest, hpos, hpos', hne, hstripped⟩ := Cursor.exists_of_next? hnext
    rw [hdrain] at ih
    obtain ⟨hbehind, hend⟩ := ih
    rw [hpos'] at hbehind
    refine ⟨hrest ▸ .token hblank hpos hne hstripped hbehind, ?_⟩
    have hlen := congrArg List.length hrest
    rw [List.length_append, List.length_append] at hlen
    rw [show last = _ from hend, hpos', Cursor.mk.injEq]
    refine ⟨rfl, ?_⟩
    omega

theorem segments_tokenize (policy : QuotePolicy) (text : Text) :
    Segments 0 text (tokenize policy text) :=
  (segments_drain policy (Cursor.start text)).1

/-! ## What segments are -/

namespace Segments

variable {pos : Nat} {s : Text} {ts : List Token}

/-- No segment is empty or has a blank at its ends. -/
theorem stripped_of_mem (h : Segments pos s ts) : ∀ t ∈ ts, t.text ≠ [] ∧ t.text.Stripped := by
  induction h with
  | blanks => simp
  | token _ _ hne hstripped _ ih =>
    intro u hu
    rcases List.mem_cons.1 hu with rfl | hu
    · exact ⟨hne, hstripped⟩
    · exact ih u hu

/-- Behind a text up to the offset, each token stands in the whole. -/
theorem standsIn_of_mem (h : Segments pos s ts) {front : Text} (hfront : front.length = pos) :
    ∀ t ∈ ts, t.StandsIn (front ++ s) := by
  induction h generalizing front with
  | blanks => simp
  | @token pos gap rest t ts _ hplace _ _ _ ih =>
    intro u hu
    rcases List.mem_cons.1 hu with rfl | hu
    · refine ⟨pos + gap.length, hplace, ?_⟩
      have hlen : (front ++ gap).length = pos + gap.length := by rw [List.length_append, hfront]
      rw [← List.append_assoc, ← hlen, List.drop_left, List.take_left]
    · have hlen : (front ++ gap ++ t.text).length = pos + gap.length + t.text.length := by
        rw [List.length_append, List.length_append, hfront]
      have hstands := ih hlen u hu
      rwa [List.append_assoc, List.append_assoc] at hstands

theorem le_pos_of_mem (h : Segments pos s ts) : ∀ t ∈ ts, (pos : Int) ≤ t.pos := by
  induction h with
  | blanks => simp
  | token _ hplace _ _ _ ih =>
    intro u hu
    rcases List.mem_cons.1 hu with rfl | hu
    · omega
    · have hle := ih u hu
      omega

/-- **Segments follow each other without overlap.** -/
theorem pairwise (h : Segments pos s ts) :
    ts.Pairwise fun (t u : Token) => t.pos < u.pos ∧ t.pos + t.text.length ≤ u.pos := by
  induction h with
  | blanks => exact .nil
  | @token pos gap rest t ts _ hplace hne _ hbehind ih =>
    refine .cons (fun u hu => ?_) ih
    have hle := hbehind.le_pos_of_mem u hu
    have hlen := List.length_pos_iff.2 hne
    omega

/-- **What lies in no segment is blank.** -/
theorem isBlank_of_not_covers (h : Segments pos s ts) {i : Nat} {c : Char} (hc : s[i]? = some c)
    (hout : ∀ t ∈ ts, ¬ t.Covers (pos + i)) : Text.isBlank c = true := by
  induction h generalizing i with
  | blanks hblank => exact hblank c (List.mem_of_getElem? hc)
  | @token pos gap rest t ts hblank hplace hne _ _ ih =>
    -- the character lies in the gap, under the token, or behind it
    have hnot := hout t (List.mem_cons_self ..)
    rw [Covers] at hnot
    by_cases hgap : i < gap.length
    · rw [List.getElem?_append_left hgap] at hc
      exact hblank c (List.mem_of_getElem? hc)
    · rw [List.getElem?_append_right (by omega), List.getElem?_append_right (by omega)] at hc
      refine ih hc fun u hu => ?_
      have hplace' : pos + gap.length + t.text.length + (i - gap.length - t.text.length) =
          pos + i := by
        omega
      rw [hplace']
      exact hout u (List.mem_cons_of_mem _ hu)

end Segments

/-- A token of a text stands in it. -/
theorem standsIn_of_mem_tokenize {text : Text} {t : Token} (h : t ∈ tokenize policy text) :
    t.StandsIn text := by
  have hstart : ([] : Text).length = 0 := rfl
  exact (segments_tokenize policy text).standsIn_of_mem hstart t h

/-- **The scan loses nothing.**  Each token is a stretch of the text at its own offset, not
    empty and without blanks at its ends; the stretches follow each other without overlap;
    all that lies between them is blank; and the scan ends at the end of the text, where a
    second one finds nothing. -/
theorem tokenize_segments (policy : QuotePolicy) (text : Text) :
    (∀ t ∈ tokenize policy text, t.text ≠ [] ∧ t.StandsIn text ∧ t.text.Stripped) ∧
    ((tokenize policy text).Pairwise fun (t u : Token) => t.pos < u.pos ∧ t.pos + t.text.length ≤ u.pos) ∧
    (∀ i c, text[i]? = some c → (∀ t ∈ tokenize policy text, ¬ t.Covers i) →
      Text.isBlank c = true) ∧
    ((Cursor.start text).drain policy).2 = ⟨[], text.length⟩ ∧
    ((Cursor.start text).drain policy).2.drain policy = ([], ⟨[], text.length⟩) := by
  have hsegments := segments_tokenize policy text
  have hend : ((Cursor.start text).drain policy).2 = ⟨[], text.length⟩ := by
    rw [(segments_drain policy (Cursor.start text)).2]
    simp [Cursor.start]
  refine ⟨fun t ht => ?_, hsegments.pairwise, fun i c hc hout => ?_, hend, ?_⟩
  · obtain ⟨hne, hstripped⟩ := hsegments.stripped_of_mem t ht
    exact ⟨hne, standsIn_of_mem_tokenize ht, hstripped⟩
  · refine hsegments.isBlank_of_not_covers hc fun t ht => ?_
    rw [Nat.zero_add]
    exact hout t ht
  · rw [hend]
    have hblank : ((Cursor.mk [] text.length).drain policy).1 = [] :=
      drain_of_trimStart_nil policy text.length rfl
    exact Prod.ext hblank (segments_drain policy ⟨[], text.length⟩).2

end QueryFilter.Token
