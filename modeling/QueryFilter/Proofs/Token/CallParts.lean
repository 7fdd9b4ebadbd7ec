/-
  THE PARTS OF A CALL — which texts are calls, and that a call falls into its parts in one way only.

  1. **Specification** — a `Cut` of a text: stripped, the text is a name, blanks, and an argument
     list in parentheses, and the first comma of that list has something other than blanks at either
     side.  What stands behind this comma is free: commas, parentheses, quotes, line ends.
  2. **One way** — the name ends at the first character that is none of a name, the blanks at
     the first that is not blank, and the field at the first comma, so that two cuts of a text
     are the same (`Cut.unique`).
  3. **Exact** — a call token is taken apart exactly if its text has a cut, and into the parts of
     the cut (`ofToken_eq_ok_iff_cut`).

  All together, with the way back: a call that is put together from a name, a field and a value,
  blanks between them as one likes, is taken apart into the same three (`ofToken_exact`).
-/
import QueryFilter.Proofs.Token.Call

namespace QueryFilter

open Text (AllBlank)

/-! ## Blank texts -/

/-- Nothing is left of a text by stripping exactly if it is blank. -/
theorem Text.strip_eq_nil_iff {s : Text} : strip s = [] ↔ AllBlank s := by
  constructor
  · intro h
    obtain ⟨a, b, ha, hb, hs⟩ := exists_blanks_strip s
    rw [h, List.nil_append] at hs
    rw [hs]
    intro c hc
    exact (List.mem_append.1 hc).elim (ha c) (hb c)
  · intro h
    have hstart : trimStart s = [] := List.dropWhile_eq_nil_iff.2 h
    rw [strip, hstart]
    rfl

namespace Call

/-! ## The specification -/

/-- The places at which a call is cut: behind its name, before the parenthesis, and at the first
    comma between the parentheses. -/
structure Cut where
  name : Text
  gap : Text
  left : Text
  right : Text
deriving DecidableEq, Repr

/-- The argument list of a cut. -/
def Cut.arguments (cut : Cut) : Text := cut.left ++ ',' :: cut.right

/-- The call that a cut leaves: the two sides of the comma without the blanks around them. -/
def Cut.call (cut : Cut) : Call := ⟨cut.name, cut.left.strip, cut.right.strip⟩

/-- **The cuts of a text.** -/
structure Cut.Of (cut : Cut) (s : Text) : Prop where
  name_ne_nil : cut.name ≠ []
  isNameChar : ∀ c ∈ cut.name, Text.isNameChar c = true
  gap_blank : AllBlank cut.gap
  no_comma : ',' ∉ cut.left
  left_not_blank : ¬ AllBlank cut.left
  right_not_blank : ¬ AllBlank cut.right
  eq : s.strip = cut.name ++ (cut.gap ++ '(' :: (cut.arguments ++ [')']))

/-! ## One way -/

/-- A name, blanks and a parenthesis are found again from the left. -/
theorem split_of_name {name gap : Text} (r : Text) (hname : ∀ c ∈ name, Text.isNameChar c = true)
    (hgap : AllBlank gap) :
    (name ++ (gap ++ '(' :: r)).takeWhile Text.isNameChar = name ∧
      ((name ++ (gap ++ '(' :: r)).dropWhile Text.isNameChar).takeWhile Text.isBlank = gap ∧
      ((name ++ (gap ++ '(' :: r)).dropWhile Text.isNameChar).dropWhile Text.isBlank =
        '(' :: r := by
  obtain ⟨htake, hdrop⟩ := Text.name_split hname hgap (d := '(') (by decide) r
  refine ⟨htake, ?_, ?_⟩
  · rw [hdrop, List.takeWhile_append_of_pos hgap, List.takeWhile_cons_of_neg (by decide),
      List.append_nil]
  · rw [hdrop, List.dropWhile_append_of_pos hgap, List.dropWhile_cons_of_neg (by decide)]

/-- **A text has one cut at most.** -/
theorem Cut.unique {s : Text} {cut cut' : Cut} (h : cut.Of s) (h' : cut'.Of s) : cut = cut' := by
  obtain ⟨htake, hgap, hrest⟩ := split_of_name (cut.arguments ++ [')']) h.isNameChar h.gap_blank
  obtain ⟨htake', hgap', hrest'⟩ :=
    split_of_name (cut'.arguments ++ [')']) h'.isNameChar h'.gap_blank
  rw [← h.eq] at htake hgap hrest
  rw [← h'.eq] at htake' hgap' hrest'
  have hname : cut.name = cut'.name := htake.symm.trans htake'
  have hblanks : cut.gap = cut'.gap := hgap.symm.trans hgap'
  have hlist : cut.arguments = cut'.arguments := by
    have hinside := List.cons.inj (hrest.symm.trans hrest')
    exact List.append_cancel_right hinside.2
  -- the first comma is the only place where the list can be cut
  have hcut : Text.cut? ',' cut.arguments = some (cut.left, cut.right) :=
    Text.cut?_eq_some_iff.2 ⟨h.no_comma, rfl⟩
  have hcut' : Text.cut? ',' cut'.arguments = some (cut'.left, cut'.right) :=
    Text.cut?_eq_some_iff.2 ⟨h'.no_comma, rfl⟩
  rw [hlist, hcut', Option.some.injEq, Prod.mk.injEq] at hcut
  obtain ⟨name, gap, left, right⟩ := cut
  obtain ⟨name', gap', left', right'⟩ := cut'
  simp only at hname hblanks hcut
  rw [hname, hblanks, hcut.1, hcut.2]

/-! ## Exact -/

/-- The name and the argument list of a call are those that its stripped text is made of. -/
theorem nameAndArguments?_eq_some_iff {s name arguments : Text} :
    nameAndArguments? s = some (name, arguments) ↔
      name ≠ [] ∧ (∀ c ∈ name, Text.isNameChar c = true) ∧
        ∃ gap, AllBlank gap ∧ s.strip = name ++ (gap ++ '(' :: (arguments ++ [')'])) := by
  constructor
  · intro h
    unfold nameAndArguments? at h
    simp only at h
    split at h
    · rename_i rest hrest
      split at h
      · cases h
      · rename_i hne
        obtain ⟨arguments', hlast, heq⟩ := Option.map_eq_some_iff.1 h
        cases heq
        refine ⟨hne, fun _ hc => List.mem_takeWhile_imp hc,
          (s.strip.dropWhile Text.isNameChar).takeWhile Text.isBlank,
          fun _ hc => List.mem_takeWhile_imp hc, ?_⟩
        rw [← Text.dropLast?_eq_some_iff.1 hlast, ← hrest, List.takeWhile_append_dropWhile,
          List.takeWhile_append_dropWhile]
    · cases h
  · rintro ⟨hne, hname, gap, hgap, hs⟩
    obtain ⟨htake, -, hrest⟩ := split_of_name (arguments ++ [')']) hname hgap
    unfold nameAndArguments?
    simp only [hs, htake, hrest]
    rw [if_neg hne, Text.dropLast?_eq_some_iff.2 rfl]
    rfl

/-- The field and the value of an argument list stand at the sides of its first comma, and
    neither side is blank. -/
theorem fieldAndValue?_eq_some_iff {arguments field value : Text} :
    fieldAndValue? arguments = some (field, value) ↔
      ∃ left right : Text, ',' ∉ left ∧ arguments = left ++ ',' :: right ∧ ¬ AllBlank left ∧
        ¬ AllBlank right ∧ field = left.strip ∧ value = right.strip := by
  constructor
  · intro h
    obtain ⟨left, right, hcomma, hlist, rfl, rfl, hfield, hvalue⟩ := fieldAndValue?_cases h
    exact ⟨left, right, hcomma, hlist, fun hblank => hfield (Text.strip_eq_nil_iff.2 hblank),
      fun hblank => hvalue (Text.strip_eq_nil_iff.2 hblank), rfl, rfl⟩
  · rintro ⟨left, right, hcomma, rfl, hleft, hright, rfl, rfl⟩
    rw [fieldAndValue?, Text.cut?_eq_some_iff.2 ⟨hcomma, rfl⟩, Option.bind_some]
    simp only
    rw [if_neg]
    rintro (hnil | hnil)
    · exact hleft (Text.strip_eq_nil_iff.1 hnil)
    · exact hright (Text.strip_eq_nil_iff.1 hnil)

/-- **A call token is taken apart exactly if its text has a cut**, and into the parts of the cut. -/
theorem ofToken_eq_ok_iff_cut {index : Int} {t : Token} {call : Call} :
    ofToken index t = .ok call ↔ ∃ cut : Cut, cut.Of t.text ∧ cut.call = call := by
  rw [ofToken_eq_ok_iff]
  constructor
  · rintro ⟨arguments, hname, hfield⟩
    obtain ⟨hne, hchars, gap, hgap, hs⟩ := nameAndArguments?_eq_some_iff.1 hname
    obtain ⟨left, right, hcomma, rfl, hleft, hright, hf, hv⟩ := fieldAndValue?_eq_some_iff.1 hfield
    refine ⟨⟨call.name, gap, left, right⟩, ⟨hne, hchars, hgap, hcomma, hleft, hright, hs⟩, ?_⟩
    rw [Cut.call, ← hf, ← hv]
  · rintro ⟨cut, h, rfl⟩
    refine ⟨cut.arguments, ?_, ?_⟩
    · exact nameAndArguments?_eq_some_iff.2
        ⟨h.name_ne_nil, h.isNameChar, cut.gap, h.gap_blank, h.eq⟩
    · exact fieldAndValue?_eq_some_iff.2
        ⟨cut.left, cut.right, h.no_comma, rfl, h.left_not_blank, h.right_not_blank, rfl, rfl⟩

/-! ## Calls put together -/

/-- The calls that can be put together: a name made of name characters, and a field and a value that
    are stripped and not empty, the field without a comma. -/
structure Sound (call : Call) : Prop where
  name_ne_nil : call.name ≠ []
  isNameChar : ∀ c ∈ call.name, Text.isNameChar c = true
  field_ne_nil : call.field ≠ []
  field_stripped : call.field.Stripped
  no_comma : ',' ∉ call.field
  value_ne_nil : call.value ≠ []
  value_stripped : call.value.Stripped

/-- The texts of a call, with blanks wherever they may stand. -/
inductive Padded (call : Call) : Text → Prop
  | mk {a b c d e f g : Text} (before_name : AllBlank a) (behind_name : AllBlank b)
      (before_field : AllBlank c) (behind_field : AllBlank d) (before_value : AllBlank e)
      (behind_value : AllBlank f) (behind_call : AllBlank g) :
      Padded call (a ++ (call.name ++ (b ++ '(' ::
        ((c ++ (call.field ++ (d ++ ',' :: (e ++ (call.value ++ f))))) ++ ')' :: g))))

/-- The blanks around a call do not belong to it. -/
theorem strip_padded {a name b list g : Text} (hne : name ≠ [])
    (hname : ∀ c ∈ name, Text.isNameChar c = true) (ha : AllBlank a) (hg : AllBlank g) :
    (a ++ (name ++ (b ++ '(' :: (list ++ ')' :: g)))).strip =
      name ++ (b ++ '(' :: (list ++ [')'])) := by
  have hstripped : Text.Stripped (name ++ (b ++ '(' :: (list ++ [')']))) := by
    constructor
    · intro c hc
      obtain ⟨first, rest, rfl⟩ := List.exists_cons_of_ne_nil hne
      obtain rfl : first = c := Option.some.inj hc
      cases hblank : Text.isBlank first with
      | false => rfl
      | true =>
        have hnone := Text.isNameChar_of_isBlank hblank
        rw [hname first (List.mem_cons_self ..)] at hnone
        cases hnone
    · intro c hc
      simp only [← List.append_assoc, ← List.cons_append, List.getLast?_concat] at hc
      cases hc
      decide
  have hstrip := hstripped.strip_append (by simp) ha hg
  simpa using hstrip

/-- **A call that was put together is taken apart into its parts.** -/
theorem ofToken_of_padded (index : Int) {t : Token} {call : Call} {s : Text} (ht : t.text = s)
    (hsound : call.Sound) (h : Padded call s) : ofToken index t = .ok call := by
  cases h with
  | mk ha hb hc hd he hf hg =>
    refine ofToken_eq_ok_iff.2 ⟨_, nameAndArguments?_eq_some_iff.2
      ⟨hsound.name_ne_nil, hsound.isNameChar, _, hb, ?_⟩,
      fieldAndValue?_blanks hsound.field_stripped hsound.field_ne_nil hsound.no_comma
        hsound.value_stripped hsound.value_ne_nil hc hd he hf⟩
    rw [ht]
    exact strip_padded hsound.name_ne_nil hsound.isNameChar ha hg

/-! ## All together -/

/-- **Taking calls apart is exact.**  A token is taken apart exactly if its text has a cut, and into
    the parts of the cut; a text has one cut at most; and a call that is put together from a name, a
    field and a value, with any blanks between them, is taken apart into the same. -/
theorem ofToken_exact :
    (∀ index t call, ofToken index t = .ok call ↔ ∃ cut : Cut, cut.Of t.text ∧ cut.call = call) ∧
      (∀ (s : Text) (cut cut' : Cut), cut.Of s → cut'.Of s → cut = cut') ∧
      ∀ (index : Int) (t : Token) (call : Call), call.Sound → Padded call t.text →
        ofToken index t = .ok call :=
  ⟨fun _ _ _ => ofToken_eq_ok_iff_cut, fun _ _ _ h h' => Cut.unique h h',
    fun index _ _ hsound h => ofToken_of_padded index rfl hsound h⟩

/-- A value with a line end, a comma, a quote and parentheses that do not match. -/
def paddedSample : Call := ⟨"Név_2".toList, "a(b".toList, "x,\n)')".toList⟩

/-- The sample, put together with blanks of several sorts. -/
def paddedText : Text := "\u3000Név_2 \t(\n a(b\u00a0,x,\n)') )\n".toList

theorem ofToken_exact_paddedSample :
    paddedSample.Sound ∧ Padded paddedSample paddedText ∧
      ofToken 4 ⟨.call, paddedText, 7⟩ = .ok paddedSample ∧
      ∃ cut : Cut, cut.Of paddedText ∧ cut.call = paddedSample ∧
        ∀ cut' : Cut, cut'.Of paddedText → cut' = cut := by
  have hblank : ∀ s : Text, s.all Text.isBlank = true → AllBlank s := fun _ h =>
    List.all_eq_true.1 h
  have hends : ∀ {s : Text} (a b : Char), s.head? = some a → s.getLast? = some b →
      Text.isBlank a = false → Text.isBlank b = false → s.Stripped := fun _ _ ha hb hna hnb =>
    ⟨fun _ hc => Option.some.inj (ha.symm.trans hc) ▸ hna,
      fun _ hc => Option.some.inj (hb.symm.trans hc) ▸ hnb⟩
  have hsound : paddedSample.Sound :=
    { name_ne_nil := by decide
      isNameChar := List.all_eq_true.1 (by decide +kernel)
      field_ne_nil := by decide
      field_stripped := hends 'a' 'b' rfl rfl (by decide) (by decide)
      no_comma := by decide
      value_ne_nil := by decide
      value_stripped := hends 'x' ')' rfl rfl (by decide) (by decide) }
  have hpadded : Padded paddedSample paddedText :=
    .mk (hblank "\u3000".toList (by decide)) (hblank " \t".toList (by decide))
      (hblank "\n ".toList (by decide)) (hblank "\u00a0".toList (by decide))
      (hblank [] (by decide)) (hblank " ".toList (by decide)) (hblank "\n".toList (by decide))
  have hcall := ofToken_exact.2.2 4 ⟨.call, paddedText, 7⟩ paddedSample hsound hpadded
  obtain ⟨cut, hcut, heq⟩ := (ofToken_exact.1 _ _ _).1 hcall
  exact ⟨hsound, hpadded, hcall, cut, hcut, heq, fun cut' h => ofToken_exact.2.1 _ _ _ h hcut⟩

end Call

end QueryFilter
