/-
  BODIES — the call in the body of a lambda, seen from the text around the lambda.

  A lambda token is scanned once more, from the first character of its body, and the tokens of that
  scan count their places from there.

  1. **The call in its lambda** — a call that makes up a body stands in the lambda token behind a
     head, the colon, and a lead of blanks and a parenthesis, and its place is the length of the
     lead (`exists_lead`, `exists_split_of_bodyCall`).
  2. **No earlier call** — nothing before that looks like a call: the head has a word that ends in
     `/any`, and a name that a colon follows (`CallFree`).
  3. **Its place from outside** — so within the lambda the call does not stand at its own place in
     the text around, but where that place is counted from the start of the body
     (`not_standsWithin_of_bodyCall`, `exists_start_of_bodyCall`).
-/
import QueryFilter.Proofs.Token.Lambda
import QueryFilter.Proofs.Token.Place

namespace QueryFilter.Token

open Lambda (BodyCall)

variable {policy : QuotePolicy}

/-! ## Texts without calls -/

/-- A text that begins like a call. -/
def BeginsCall (s : Text) : Prop :=
  ∃ (op : Predicate) (blanks r : Text), (∀ c ∈ blanks, Text.isBlank c = true) ∧
    s = op.name ++ (blanks ++ '(' :: r)

theorem beginsCall_append {s : Text} (h : BeginsCall s) (r : Text) : BeginsCall (s ++ r) := by
  obtain ⟨op, blanks, r', hblanks, rfl⟩ := h
  exact ⟨op, blanks, r' ++ r, hblanks, by simp⟩

theorem beginsCall_of_shaped {t : Text} (h : Shaped .call t) : BeginsCall t := by
  obtain ⟨op, blanks, arguments, hblanks, -, rfl⟩ := h
  exact ⟨op, blanks, arguments ++ [')'], hblanks, rfl⟩

/-- No call begins in `s`, with `r` behind it. -/
def CallFree (s r : Text) : Prop := ∀ k < s.length, ¬ BeginsCall ((s ++ r).drop k)

theorem CallFree.append {s t r : Text} (hs : CallFree s (t ++ r)) (ht : CallFree t r) :
    CallFree (s ++ t) r := by
  intro k hk
  rw [List.length_append] at hk
  by_cases hks : k < s.length
  · rw [List.append_assoc]
    exact hs k hks
  · have hdrop : (s ++ t ++ r).drop k = (t ++ r).drop (k - s.length) := by
      rw [List.append_assoc, List.drop_append, List.drop_eq_nil_of_le (by omega), List.nil_append]
    rw [hdrop]
    exact ht _ (by omega)

/-- A part of a text that a call could begin at, from there on. -/
theorem exists_drop_append {s : Text} (r : Text) {k : Nat} (hk : k < s.length) :
    ∃ u, u ≠ [] ∧ u <:+ s ∧ (s ++ r).drop k = u ++ r := by
  refine ⟨s.drop k, ?_, List.drop_suffix k s, List.drop_append_of_le_length (Nat.le_of_lt hk)⟩
  intro hnil
  have hlen := congrArg List.length hnil
  rw [List.length_drop, List.length_nil] at hlen
  omega

/-- A call begins with a name character. -/
theorem callFree_of_not_name {s : Text} (h : ∀ c ∈ s, Text.isNameChar c = false) (r : Text) :
    CallFree s r := by
  rintro k hk ⟨op, blanks, r', hblanks, heq⟩
  obtain ⟨u, hne, hsuffix, hdrop⟩ := exists_drop_append r hk
  cases u with
  | nil => exact hne rfl
  | cons c u =>
    have hname := (Call.name_split op r' hblanks).1
    rw [← heq, hdrop, List.cons_append,
      List.takeWhile_cons_of_neg (by simp [h c (hsuffix.subset (List.mem_cons_self ..))])] at hname
    exact (plainWord_predicate op).ne_nil hname.symm

/-- The name of a call does not end in the suffix of lambdas. -/
theorem callFree_collection {field : Text} (hfield : ∀ c ∈ field, inWord c = true) (r : Text) :
    CallFree (field ++ anySuffix) ('(' :: r) := by
  rintro k hk ⟨op, blanks, r', hblanks, heq⟩
  obtain ⟨u, hne, hsuffix, hdrop⟩ := exists_drop_append ('(' :: r) hk
  have hu : ∀ c ∈ u, inWord c = true := fun c hc =>
    inWord_append_anySuffix hfield c (hsuffix.subset hc)
  have hplain := plainWord_predicate op
  -- the word at the front is what is left of the field, and it is the name
  have hends : Ends (blanks ++ '(' :: r') := by
    cases blanks with
    | nil => exact ends_cons (by decide) _
    | cons b blanks =>
      have hb := hblanks b (List.mem_cons_self ..)
      exact ends_cons (by simp [inWord, hb]) _
  have hword := congrArg word (hdrop.symm.trans heq)
  rw [word_append_of_ends hu (ends_cons (by decide) _),
    word_append_of_ends hplain.inWord hends] at hword
  have hlast : u.getLast? = some 'y' := by
    obtain ⟨v, hv⟩ := hsuffix
    have happ := congrArg List.getLast? hv
    rw [List.getLast?_append, List.getLast?_append, show anySuffix.getLast? = some 'y' from rfl]
      at happ
    cases hu' : u.getLast? with
    | none => exact absurd (List.getLast?_eq_none_iff.1 hu') hne
    | some c =>
      rw [hu'] at happ
      exact happ
  rw [hword] at hlast
  revert hlast
  cases op <;> decide

/-- A name that a colon follows is no name of a call. -/
theorem callFree_binder {binder gap : Text} (hbinder : ∀ c ∈ binder, Text.isNameChar c = true)
    (hgap : ∀ c ∈ gap, Text.isBlank c = true) (r : Text) :
    CallFree binder (gap ++ ':' :: r) := by
  rintro k hk ⟨op, blanks, r', hblanks, heq⟩
  obtain ⟨u, hne, hsuffix, hdrop⟩ := exists_drop_append (gap ++ ':' :: r) hk
  have hu : ∀ c ∈ u, Text.isNameChar c = true := fun c hc => hbinder c (hsuffix.subset hc)
  have hrest : (gap ++ ':' :: r).dropWhile Text.isNameChar = gap ++ ':' :: r := by
    cases gap with
    | nil => exact List.dropWhile_cons_of_neg (by decide)
    | cons c gap =>
      exact List.dropWhile_cons_of_neg
        (by simp [Text.isNameChar_of_isBlank (hgap c (List.mem_cons_self ..))])
  -- behind the name stand a colon here, and a parenthesis in a call
  have hbehind := (Call.name_split op r' hblanks).2
  rw [← heq, hdrop, List.dropWhile_append_of_pos hu, hrest] at hbehind
  have hnext := congrArg (List.dropWhile Text.isBlank) hbehind
  rw [List.dropWhile_append_of_pos hgap, List.dropWhile_append_of_pos hblanks,
    List.dropWhile_cons_of_neg (by decide), List.dropWhile_cons_of_neg (by decide)] at hnext
  cases hnext

/-! ## The call in its lambda -/

/-- The one token of a body stands behind blanks and a parenthesis, and counts them. -/
theorem exists_lead {body : Text} {call : Token}
    (h : Lambda.unwrap (tokenize policy body) = [call]) :
    ∃ lead tail, body = lead ++ (call.text ++ tail) ∧ call.pos = lead.length ∧
      ∀ c ∈ lead, Text.isBlank c = true ∨ c = '(' := by
  have hsegments := segments_tokenize policy body
  have hshaped : ∀ t ∈ tokenize policy body, Shaped t.kind t.text := fun t ht => shaped_of_mem ht
  cases hts : tokenize policy body with
  | nil =>
    rw [hts] at h
    cases h
  | cons first rest =>
    rw [hts] at h hsegments hshaped
    cases hsegments with
    | @token _ gap behind _ _ hgap hplace _ _ hrest =>
      change (if first.kind = .opening ∧ rest.getLast?.map Token.kind = some .closing then
        rest.dropLast else first :: rest) = [call] at h
      split at h
      · rename_i hkinds
        -- the parenthesis is the first token, and the call the second one
        have hopening : first.text = ['('] := by
          have hfirst := hshaped first (List.mem_cons_self ..)
          rwa [hkinds.1] at hfirst
        cases rest with
        | nil => cases h
        | cons second rest =>
          cases rest with
          | nil => cases h
          | cons third rest =>
            rw [List.dropLast_cons_cons, List.cons.injEq] at h
            obtain ⟨rfl, -⟩ := h
            cases hrest with
            | @token _ gap' behind' _ _ hgap' hplace' _ _ _ =>
              refine ⟨gap ++ '(' :: gap', behind', ?_, ?_, ?_⟩
              · rw [hopening]
                simp
              · rw [hplace', hopening]
                simp only [List.length_append, List.length_cons, List.length_nil]
                omega
              · intro c hc
                rcases List.mem_append.1 hc with hc | hc
                · exact Or.inl (hgap c hc)
                · rcases List.mem_cons.1 hc with rfl | hc
                  · exact Or.inr rfl
                  · exact Or.inl (hgap' c hc)
      · rw [List.cons.injEq] at h
        obtain ⟨rfl, -⟩ := h
        refine ⟨gap, behind, rfl, ?_, fun c hc => Or.inl (hgap c hc)⟩
        rw [hplace]
        simp

/-- **The call of a body in its lambda**: behind a head and the lead of the body, and no call begins
    before. -/
theorem exists_split_of_bodyCall {t call : Token} (h : BodyCall policy t call) :
    ∃ parts head lead tail back, Lambda.Head.ofText? t.text = some parts ∧
      t.text = head ++ (parts.body ++ back) ∧ parts.body = lead ++ (call.text ++ tail) ∧
      head ≠ [] ∧ call.pos = lead.length ∧
      CallFree (head ++ lead) (call.text ++ (tail ++ back)) := by
  obtain ⟨parts, hparts, hbody, -⟩ := h
  obtain ⟨front, gap, gap', back, hsplits⟩ := Lambda.exists_splits_of_ofText? hparts
  obtain ⟨lead, tail, hlead, hpos, hleadChars⟩ := exists_lead hbody
  have hother : ∀ {s : Text}, (∀ c ∈ s, Text.isBlank c = true ∨ c = '(' ∨ c = ':') →
      ∀ r, CallFree s r := by
    intro s hs r
    refine callFree_of_not_name (fun c hc => ?_) r
    rcases hs c hc with hblank | rfl | rfl
    · exact Text.isNameChar_of_isBlank hblank
    · decide
    · decide
  -- from the colon to the front, part by part
  let r := call.text ++ (tail ++ back)
  have hcolon : CallFree (':' :: lead) r := by
    refine hother (fun c hc => ?_) r
    rcases List.mem_cons.1 hc with rfl | hc
    · exact Or.inr (Or.inr rfl)
    · exact (hleadChars c hc).imp_right Or.inl
  have hbinder : CallFree (parts.binder ++ (gap' ++ ':' :: lead)) r := by
    refine CallFree.append ?_
      (CallFree.append (hother (fun c hc => Or.inl (hsplits.gap' c hc)) _) hcolon)
    rw [List.append_assoc, List.cons_append]
    exact callFree_binder hsplits.binder hsplits.gap' _
  have hgroup : CallFree ('(' :: gap ++ (parts.binder ++ (gap' ++ ':' :: lead))) r := by
    refine CallFree.append (hother (fun c hc => ?_) _) hbinder
    rcases List.mem_cons.1 hc with rfl | hc
    · exact Or.inr (Or.inl rfl)
    · exact Or.inl (hsplits.gap c hc)
  have hall : CallFree (front ++ ((parts.field ++ anySuffix) ++
      ('(' :: gap ++ (parts.binder ++ (gap' ++ ':' :: lead))))) r := by
    refine CallFree.append (hother (fun c hc => ?_) _)
      (CallFree.append (callFree_collection hsplits.field _) hgroup)
    exact (hsplits.front c hc).imp_right Or.inl
  refine ⟨parts, front ++ ((parts.field ++ anySuffix) ++ ('(' :: gap ++ (parts.binder ++
    (gap' ++ [':'])))), lead, tail, back, hparts, ?_, hlead, by simp, hpos, ?_⟩
  · rw [hsplits.text_eq]
    simp
  · have hhead : front ++ ((parts.field ++ anySuffix) ++ ('(' :: gap ++ (parts.binder ++
        (gap' ++ [':'])))) ++ lead = front ++ ((parts.field ++ anySuffix) ++
          ('(' :: gap ++ (parts.binder ++ (gap' ++ ':' :: lead)))) := by
      simp
    rw [hhead]
    exact hall

/-- A lambda is longer than the call in its body. -/
theorem length_lt_of_bodyCall {t call : Token} (h : BodyCall policy t call) :
    call.text.length < t.text.length := by
  obtain ⟨parts, head, lead, tail, back, -, htext, hbody, hne, -, -⟩ := exists_split_of_bodyCall h
  have hlen := List.length_pos_iff.2 hne
  rw [htext, hbody]
  simp only [List.length_append]
  omega

/-! ## Its place from outside -/

/-- A stretch of a stretch of a text. -/
theorem take_drop_take_drop {text u : Text} {n m k l : Nat} (hu : (text.drop n).take m = u)
    (hkl : k + l ≤ m) : (u.drop k).take l = (text.drop (n + k)).take l := by
  rw [← hu, List.drop_take, List.drop_drop, List.take_take, Nat.min_eq_left (by omega)]

/-- **The call of a body does not stand at its place in the text around the lambda.** -/
theorem not_standsWithin_of_bodyCall {text : Text} {t call : Token} (h : BodyCall policy t call)
    (ht : t.StandsIn text) : ¬ call.StandsWithin text t := by
  rintro ⟨⟨n', hn', hcall⟩, hstart, hend⟩
  obtain ⟨n, hn, hlambda⟩ := ht
  obtain ⟨parts, head, lead, tail, back, -, htext, hbody, hne, hpos, hfree⟩ :=
    exists_split_of_bodyCall h
  have hlen := List.length_pos_iff.2 hne
  -- seen from the lambda, the call would stand before its true place
  obtain ⟨k, rfl⟩ : ∃ k, n' = n + k := ⟨n' - n, by omega⟩
  have hk : k < (head ++ lead).length := by
    rw [List.length_append]
    omega
  have hbegins : BeginsCall (t.text.drop k) := by
    have hslice : (t.text.drop k).take call.text.length = call.text := by
      rw [take_drop_take_drop hlambda (by omega), hcall]
    have happ := List.take_append_drop call.text.length (t.text.drop k)
    rw [hslice] at happ
    rw [← happ]
    exact beginsCall_append (beginsCall_of_shaped h.shaped) _
  have hsplit : t.text = head ++ lead ++ (call.text ++ (tail ++ back)) := by
    rw [htext, hbody]
    simp
  rw [hsplit] at hbegins
  exact hfree k hk hbegins

/-- **It stands there once its place is counted from the start of the body.** -/
theorem exists_start_of_bodyCall {text : Text} {t call : Token} (h : BodyCall policy t call)
    (ht : t.StandsIn text) :
    ∃ (parts : Lambda.Head) (start : Nat), Lambda.Head.ofText? t.text = some parts ∧
      (text.drop start).take parts.body.length = parts.body ∧
      StandsWithin ⟨call.kind, call.text, start + call.pos⟩ text t := by
  obtain ⟨n, hn, hlambda⟩ := ht
  obtain ⟨parts, head, lead, tail, back, hparts, htext, hbody, -, hpos, -⟩ :=
    exists_split_of_bodyCall h
  have hlen := congrArg List.length htext
  have hlenBody := congrArg List.length hbody
  simp only [List.length_append] at hlen hlenBody
  have hstart : (text.drop (n + head.length)).take parts.body.length = parts.body := by
    rw [← take_drop_take_drop hlambda (by omega), htext, List.drop_left, List.take_left]
  refine ⟨parts, n + head.length, hparts, hstart, ⟨n + head.length + lead.length, ?_, ?_⟩, ?_, ?_⟩
  · show ((n + head.length : Nat) : Int) + call.pos = _
    rw [hpos]
    omega
  · show (text.drop (n + head.length + lead.length)).take call.text.length = call.text
    rw [← take_drop_take_drop hstart (by omega), hbody, List.drop_left, List.take_left]
  · show t.pos ≤ ((n + head.length : Nat) : Int) + call.pos
    omega
  · show ((n + head.length : Nat) : Int) + call.pos + call.text.length ≤ t.pos + t.text.length
    omega

end QueryFilter.Token
