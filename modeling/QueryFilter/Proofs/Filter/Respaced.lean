/-
  RESPACED FILTERS — a filter text with other gaps between its tokens is the same filter.

  1. **Faults** — two faults are `Alike` if they have the same cause and index, and blame
     a token of the same kind and text.  Then they have the same message: no message
     tells where a token stands.
  2. **Tokens** — two tokens that differ in their places alone are interchangeable, since nothing
     that takes a token apart asks for its place (`interchangeable_of_piece`).

  All together: `ofText_withGaps`.
-/
import QueryFilter.Proofs.Filter.Failure
import QueryFilter.Proofs.Filter.InStep
import QueryFilter.Proofs.Token.Spacing

namespace QueryFilter

open Token (piece tokenize withGaps Gaps)

/-! ## Faults -/

/-- Two faults that differ at most in the place of the token that they blame. -/
structure ReadFault.Alike (e e' : ReadFault) : Prop where
  cause : e'.cause = e.cause
  index : e'.index = e.index
  culprit : e'.culprit.map piece = e.culprit.map piece

namespace ReadFault.Alike

theorem refl (e : ReadFault) : e.Alike e := ⟨rfl, rfl, rfl⟩

theorem culprit_text {e e' : ReadFault} (h : e.Alike e') :
    e'.culprit.map Token.text = e.culprit.map Token.text := by
  have hpieces := congrArg (Option.map Prod.snd) h.culprit
  rwa [Option.map_map, Option.map_map] at hpieces

theorem shown {e e' : ReadFault} (h : e.Alike e') : e'.shown = e.shown := by
  have hshown : ∀ e : ReadFault,
      e.shown = ((e.culprit.map Token.text).map Text.display).getD "nothing".toList := by
    intro e
    unfold ReadFault.shown
    cases e.culprit with
    | none => rfl
    | some t => rfl
  rw [hshown, hshown, h.culprit_text]

/-- **Faults that are alike have the same message.** -/
theorem message {e e' : ReadFault} (h : e.Alike e') : e'.message = e.message := by
  have hplace : e'.place = e.place := by
    unfold ReadFault.place
    rw [h.index]
  unfold ReadFault.message
  rw [h.cause]
  cases e.cause <;> simp only [lambdaMessage, h.shown, hplace]

end ReadFault.Alike

/-! ## Tokens -/

section
variable {policy : QuotePolicy} {t t' : Token} (h : piece t' = piece t)

include h

theorem ReadFault.alike_blame (cause : ReadFault.Cause) (index : Int) :
    ReadFault.Alike ⟨cause, index, some t⟩ ⟨cause, index, some t'⟩ :=
  ⟨rfl, rfl, congrArg some h⟩

theorem Call.agree_ofToken (index : Int) :
    Agree ReadFault.Alike Eq (Call.ofToken index t) (Call.ofToken index t') := by
  have htext : t'.text = t.text := congrArg Prod.snd h
  rw [Call.ofToken, Call.ofToken, htext]
  split
  · exact .error (ReadFault.alike_blame h _ _)
  · split
    · exact .error (ReadFault.alike_blame h _ _)
    · exact .ok rfl

/-- The body of a lambda is scanned by itself, so that its tokens have the same places too. -/
theorem Lambda.agree_ofToken (index : Int) :
    Agree ReadFault.Alike Eq (Lambda.ofToken policy index t) (Lambda.ofToken policy index t') := by
  have htext : t'.text = t.text := congrArg Prod.snd h
  rw [Lambda.ofToken, Lambda.ofToken, htext]
  split
  · exact .error (ReadFault.alike_blame h _ _)
  · refine (Agree.refl ReadFault.Alike.refl _).bind ?_
    rintro found _ rfl
    split
    · exact .error (ReadFault.alike_blame h _ _)
    · split
      · exact .ok rfl
      · exact .error (ReadFault.alike_blame h _ _)

/-- **Tokens that differ in their places alone are interchangeable.** -/
theorem interchangeable_of_piece : Interchangeable policy policy ReadFault.Alike t t' where
  kind := congrArg Prod.fst h
  text := congrArg Prod.snd h
  value := rfl
  call := by
    intro index
    refine (Call.agree_ofToken h index).bind ?_
    rintro call _ rfl
    simp only
    split
    · exact .error (ReadFault.alike_blame h _ _)
    · exact .ok rfl
  lambda := by
    intro index
    refine (Lambda.agree_ofToken h index).bind ?_
    rintro lambda _ rfl
    split
    · exact .error (ReadFault.alike_blame h _ _)
    · exact .ok rfl
  blame := ReadFault.alike_blame h

end

/-! ## Filters -/

namespace Filter

/-- Texts with the same pieces are the same filter, or fail alike. -/
theorem agree_ofText {policy : QuotePolicy} {text text' : Text}
    (h : (tokenize policy text').map piece = (tokenize policy text).map piece) :
    (∃ f, ofText policy text = .ok f ∧ ofText policy text' = .ok f) ∨
    ∃ e e', ofText policy text = .error (.reading e) ∧ ofText policy text' = .error (.reading e') ∧
      e.Alike e' := by
  have htokens : List.Forall₂ (Interchangeable policy policy ReadFault.Alike) (tokenize policy text)
      (tokenize policy text') := by
    have hpieces := List.forall₂_map_left_iff.1 (List.forall₂_map_right_iff.1
      (List.forall₂_eq_eq_eq.symm ▸ h.symm))
    exact hpieces.imp fun t t' ht => interchangeable_of_piece ht.symm
  have hagree := agree_ofTokens (fun _ _ => ReadFault.Alike.refl _) htokens
  cases hfilter : ofText policy text with
  | ok f =>
    rw [show ofTokens policy (tokenize policy text) = .ok f from hfilter] at hagree
    generalize hfilter' : ofTokens policy (tokenize policy text') = x' at hagree
    cases hagree with
    | ok result => exact Or.inl ⟨f, rfl, by rw [ofText, hfilter', result]⟩
  | error fault =>
    obtain ⟨e, -, -, rfl, -⟩ := exists_broken_of_ofText hfilter
    rw [show ofTokens policy (tokenize policy text) = .error (.reading e) from hfilter] at hagree
    generalize hfilter' : ofTokens policy (tokenize policy text') = x' at hagree
    cases hagree with
    | error hfault =>
      cases hfault with
      | reading halike => exact Or.inr ⟨e, _, rfl, hfilter', halike⟩
      | same => exact Or.inr ⟨e, e, rfl, hfilter', ReadFault.Alike.refl e⟩

/-- **A filter text with other gaps between its tokens is the same filter.**  It has the same
    tokens, and reading it gives the same parts, or a fault with the same message at the same
    token. -/
theorem ofText_withGaps (policy : QuotePolicy) (text : Text) {lead : Text} {gaps : List Text}
    (hlead : ∀ c ∈ lead, Text.isBlank c = true) (h : Gaps (tokenize policy text).length gaps) :
    (tokenize policy (lead ++ withGaps (tokenize policy text) gaps)).map piece =
      (tokenize policy text).map piece ∧
    ((∃ f, ofText policy text = .ok f ∧
        ofText policy (lead ++ withGaps (tokenize policy text) gaps) = .ok f) ∨
      ∃ e e', ofText policy text = .error (.reading e) ∧
        ofText policy (lead ++ withGaps (tokenize policy text) gaps) = .error (.reading e') ∧
        e'.message = e.message ∧ e'.culprit.map Token.text = e.culprit.map Token.text ∧
        e'.index = e.index) := by
  have hpieces := Token.map_piece_tokenize_withGaps policy text hlead h
  refine ⟨hpieces, (agree_ofText hpieces).imp_right ?_⟩
  rintro ⟨e, e', he, he', halike⟩
  exact ⟨e, e', he, he', halike.message, halike.culprit_text, halike.index⟩

/-- A filter with as few blanks as its tokens need. -/
def tightSample : Text := "(a eq 1)and b in('x','y')or t/any( v:v ne 2)".toList

theorem ofText_withGaps_tightSample :
    Gaps (tokenize .doubled tightSample).length (List.replicate 15 [' ']) ∧
    ∃ f, ofText .doubled tightSample = .ok f ∧
      ofText .doubled "\t( a eq 1 ) and b in ( 'x' , 'y' ) or t/any( v:v ne 2) ".toList = .ok f := by
  have hlead : ∀ c ∈ ['\t'], Text.isBlank c = true := by
    intro c hc
    rw [List.mem_singleton.1 hc]
    decide
  have hgaps : Gaps (tokenize .doubled tightSample).length (List.replicate 15 [' ']) := by
    refine ⟨by decide +kernel, fun gap hgap c hc => ?_, fun gap hgap => ?_⟩
    · rw [List.eq_of_mem_replicate hgap, List.mem_singleton] at hc
      rw [hc]
      decide
    · rw [List.eq_of_mem_replicate (List.dropLast_subset _ hgap)]
      exact List.cons_ne_nil _ _
  have htext : ['\t'] ++ withGaps (tokenize .doubled tightSample) (List.replicate 15 [' ']) =
      "\t( a eq 1 ) and b in ( 'x' , 'y' ) or t/any( v:v ne 2) ".toList := by decide +kernel
  have hok : (ofText .doubled tightSample).isOk = true := by decide +kernel
  refine ⟨hgaps, ?_⟩
  rw [← htext]
  rcases (ofText_withGaps .doubled tightSample hlead hgaps).2 with hsame | ⟨e, -, he, -⟩
  · exact hsame
  · rw [he] at hok
    cases hok

end Filter

end QueryFilter
