/-
  CALLS TAKEN APART — which name, field and value a scanned call has, and which text has given ones.

  1. **Stripped texts** — no blank at either end.  `Text.strip` gives the stripped middle of a text
     (`exists_blanks_strip`, `stripped_strip`), and finds any stripped text between blanks again
     (`Stripped.strip_append`).
  2. **Name and arguments** — the name of a scanned call is its predicate, blanks behind it or not
     (`nameAndArguments?_call`).
  3. **Field and value** — of an argument list both are stripped and not empty, and the field has no
     comma (`fieldAndValue?_cases`); any two such texts are the field and the value of the list that
     they are written as (`fieldAndValue?_join`).
-/
import QueryFilter.Proofs.Token.Shape
import QueryFilter.Token.Call

namespace QueryFilter

/-! ## Stripped texts -/

namespace Text

/-- A text without blanks at its two ends. -/
structure Stripped (s : Text) : Prop where
  head : ∀ c, s.head? = some c → isBlank c = false
  last : ∀ c, s.getLast? = some c → isBlank c = false

/-- A text of characters that are not blank is stripped. -/
theorem stripped_of_forall {s : Text} (h : ∀ c ∈ s, isBlank c = false) : Stripped s :=
  ⟨fun c hc => h c (List.mem_of_head? hc), fun c hc => h c (List.mem_of_getLast? hc)⟩

/-- Stripping cuts blanks off both ends. -/
theorem exists_blanks_strip (s : Text) :
    ∃ a b, (∀ c ∈ a, isBlank c = true) ∧ (∀ c ∈ b, isBlank c = true) ∧ s = a ++ (strip s ++ b) := by
  refine ⟨s.takeWhile isBlank, ((trimStart s).reverse.takeWhile isBlank).reverse, ?_, ?_, ?_⟩
  · exact fun _ hc => List.mem_takeWhile_imp hc
  · exact fun _ hc => List.mem_takeWhile_imp (List.mem_reverse.1 hc)
  · have hend : strip s ++ ((trimStart s).reverse.takeWhile isBlank).reverse = trimStart s := by
      rw [strip, trimEnd, ← List.reverse_append, List.takeWhile_append_dropWhile,
        List.reverse_reverse]
    rw [hend]
    exact List.takeWhile_append_dropWhile.symm

theorem stripped_strip (s : Text) : Stripped (strip s) := by
  have hlast : ∀ c, (strip s).getLast? = some c → isBlank c = false := by
    intro c hc
    rw [strip, trimEnd, List.getLast?_reverse] at hc
    have hhead := List.head?_dropWhile_not isBlank (trimStart s).reverse
    rw [hc] at hhead
    simpa using hhead
  refine ⟨?_, hlast⟩
  intro c hc
  -- the first character left by trimming the end is the first one of what was trimmed
  obtain ⟨t, ht⟩ : ∃ t, trimStart s = strip s ++ t := by
    refine ⟨((trimStart s).reverse.takeWhile isBlank).reverse, ?_⟩
    rw [strip, trimEnd, ← List.reverse_append, List.takeWhile_append_dropWhile,
      List.reverse_reverse]
  have hhead := List.head?_dropWhile_not isBlank s
  rw [show s.dropWhile isBlank = strip s ++ t from ht, List.head?_append, hc] at hhead
  simpa using hhead

/-- A stripped text is found again between blanks. -/
theorem Stripped.strip_append {s a b : Text} (h : Stripped s) (hne : s ≠ [])
    (ha : ∀ c ∈ a, isBlank c = true) (hb : ∀ c ∈ b, isBlank c = true) :
    strip (a ++ (s ++ b)) = s := by
  have hstart : trimStart (a ++ (s ++ b)) = s ++ b := by
    rw [trimStart, List.dropWhile_append_of_pos ha]
    cases s with
    | nil => exact absurd rfl hne
    | cons c s =>
      rw [List.cons_append, List.dropWhile_cons_of_neg (by simp [h.head c rfl])]
  have hend : (s ++ b).reverse.dropWhile isBlank = s.reverse := by
    have hb' : ∀ c ∈ b.reverse, isBlank c = true := fun c hc => hb c (List.mem_reverse.1 hc)
    rw [List.reverse_append, List.dropWhile_append_of_pos hb']
    cases hs : s.reverse with
    | nil => rfl
    | cons c t =>
      have hc : isBlank c = false := by
        apply h.last
        rw [← List.head?_reverse, hs]
        rfl
      rw [List.dropWhile_cons_of_neg (by simp [hc])]
  rw [strip, hstart, trimEnd, hend, List.reverse_reverse]

theorem Stripped.strip_eq {s : Text} (h : Stripped s) (hne : s ≠ []) : strip s = s := by
  have hstrip := h.strip_append hne (a := []) (b := []) (by simp) (by simp)
  rwa [List.nil_append, List.append_nil] at hstrip

/-- Characters that are not blank survive stripping. -/
theorem filter_strip {p : Char → Bool} (hp : ∀ c, p c = true → isBlank c = false) (s : Text) :
    (strip s).filter p = s.filter p := by
  have hnone : ∀ t : Text, (∀ c ∈ t, isBlank c = true) → t.filter p = [] := by
    intro t ht
    rw [List.filter_eq_nil_iff]
    intro c hc hpc
    have hblank := hp c hpc
    rw [ht c hc] at hblank
    cases hblank
  obtain ⟨a, b, ha, hb, hs⟩ := exists_blanks_strip s
  conv => rhs; rw [hs]
  rw [List.filter_append, List.filter_append, hnone a ha, hnone b hb, List.nil_append,
    List.append_nil]

theorem strip_sublist (s : Text) : (strip s).Sublist s := by
  obtain ⟨a, b, -, -, hs⟩ := exists_blanks_strip s
  conv => rhs; rw [hs]
  exact (List.sublist_append_left _ _).trans (List.sublist_append_right _ _)

/-- No blank is a name character. -/
theorem isNameChar_of_isBlank {c : Char} (h : isBlank c = true) : isNameChar c = false := by
  obtain ⟨b, hb, hlo, hhi⟩ := Ranges.covers_eq_true_iff.1 h
  unfold isNameChar
  split
  · rename_i hascii
    have hlow : ∀ n : Fin 128, blankRanges.covers n = true →
        (Char.ofNat n).isAlphanum = false ∧ (Char.ofNat n == '_') = false := by decide
    have hc := hlow ⟨c.toNat, hascii⟩ h
    simp only [Char.ofNat_toNat] at hc
    simp [hc]
  · -- above ASCII, the two tables lie apart
    have hapart : ∀ b ∈ blankRanges, ∀ r ∈ nameRanges, b.2 < r.1 ∨ r.2 < b.1 := by
      decide +kernel
    cases hn : nameRanges.covers c.toNat with
    | false => rfl
    | true =>
      obtain ⟨r, hr, hlo', hhi'⟩ := Ranges.covers_eq_true_iff.1 hn
      rcases hapart b hb r hr with hlt | hlt
      · omega
      · omega

/-- A name ends where blanks, or a character that is no name character, follow it. -/
theorem name_split {name blanks : Text} {d : Char} (hname : ∀ c ∈ name, isNameChar c = true)
    (hblanks : AllBlank blanks) (hd : isNameChar d = false) (r : Text) :
    (name ++ (blanks ++ d :: r)).takeWhile isNameChar = name ∧
      (name ++ (blanks ++ d :: r)).dropWhile isNameChar = blanks ++ d :: r := by
  obtain ⟨c, s, hcs, hc⟩ : ∃ c s, blanks ++ d :: r = c :: s ∧ isNameChar c = false := by
    cases blanks with
    | nil => exact ⟨d, r, rfl, hd⟩
    | cons c blanks => exact ⟨c, _, rfl, isNameChar_of_isBlank (hblanks c (List.mem_cons_self ..))⟩
  rw [List.takeWhile_append_of_pos hname, List.dropWhile_append_of_pos hname, hcs,
    List.takeWhile_cons_of_neg (by simp [hc]), List.dropWhile_cons_of_neg (by simp [hc]),
    List.append_nil]
  exact ⟨rfl, rfl⟩

end Text

theorem Token.PlainWord.stripped {w : Text} (h : PlainWord w) : w.Stripped :=
  Text.stripped_of_forall fun c hc => (inWord_iff.1 (h.inWord c hc)).1

theorem Token.Operand.stripped {v : Text} (h : Operand v) : v.Stripped := by
  cases h with
  | quoted s =>
    constructor
    · intro c hc
      cases hc
      decide
    · intro c hc
      rw [Literal.quote, List.getLast?_concat] at hc
      cases hc
      decide
  | word plain bare => exact plain.stripped

theorem Token.Operand.ne_nil {v : Text} (h : Operand v) : v ≠ [] := by
  cases h with
  | quoted s => exact List.cons_ne_nil _ _
  | word plain bare => exact plain.ne_nil

namespace Call

/-! ## Name and arguments -/

/-- The name of a predicate ends where blanks or a parenthesis follow it. -/
theorem name_split (op : Predicate) {blanks : Text} (r : Text)
    (hblanks : ∀ c ∈ blanks, Text.isBlank c = true) :
    (op.name ++ (blanks ++ '(' :: r)).takeWhile Text.isNameChar = op.name ∧
      (op.name ++ (blanks ++ '(' :: r)).dropWhile Text.isNameChar = blanks ++ '(' :: r := by
  have hname : op.name.all Text.isNameChar = true := by cases op <;> decide
  exact Text.name_split (List.all_eq_true.1 hname) hblanks (by decide) r

/-- **A scanned call gives its predicate and what stands between its parentheses.** -/
theorem nameAndArguments?_call (op : Predicate) {blanks : Text} (arguments : Text)
    (hblanks : ∀ c ∈ blanks, Text.isBlank c = true) :
    nameAndArguments? (op.name ++ (blanks ++ '(' :: (arguments ++ [')']))) =
      some (op.name, arguments) := by
  have hplain := Token.plainWord_predicate op
  obtain ⟨htake, hdrop⟩ := name_split op (arguments ++ [')']) hblanks
  have hstripped : Text.Stripped (op.name ++ (blanks ++ '(' :: (arguments ++ [')']))) := by
    constructor
    · exact Token.isBlank_head_of_word hplain.ne_nil hplain.inWord
    · intro c hc
      simp only [← List.append_assoc, ← List.cons_append, List.getLast?_concat] at hc
      cases hc
      decide
  rw [nameAndArguments?, hstripped.strip_eq (by simp)]
  rw [htake, hdrop, List.dropWhile_append_of_pos hblanks, List.dropWhile_cons_of_neg (by decide)]
  simp only
  rw [if_neg hplain.ne_nil, Text.dropLast?_eq_some_iff.2 rfl]
  rfl

/-! ## Field and value -/

/-- **The field and the value of an argument list are stripped, not empty, and at the first
    comma.** -/
theorem fieldAndValue?_cases {arguments field value : Text}
    (h : fieldAndValue? arguments = some (field, value)) :
    ∃ a b, ',' ∉ a ∧ arguments = a ++ ',' :: b ∧ field = Text.strip a ∧ value = Text.strip b ∧
      field ≠ [] ∧ value ≠ [] := by
  obtain ⟨⟨a, b⟩, hcut, hparts⟩ := Option.bind_eq_some_iff.1 h
  obtain ⟨hcomma, rfl⟩ := Text.cut?_eq_some_iff.1 hcut
  simp only at hparts
  split at hparts
  · cases hparts
  · rename_i hne
    cases hparts
    exact ⟨a, b, hcomma, rfl, rfl, rfl, fun hnil => hne (Or.inl hnil),
      fun hnil => hne (Or.inr hnil)⟩

/-- A field and a value that a call can be written from and read back as. -/
structure Writable (field value : Text) : Prop where
  field_stripped : field.Stripped
  field_ne_nil : field ≠ []
  no_comma : ',' ∉ field
  value_stripped : value.Stripped
  value_ne_nil : value ≠ []
  balanced : Token.Balanced (field ++ (", ".toList ++ value))

/-- **A field and a value are found among blanks**, at either side of the first comma. -/
theorem fieldAndValue?_blanks {a b c d field value : Text} (hfield : field.Stripped)
    (hne : field ≠ []) (hcomma : ',' ∉ field) (hvalue : value.Stripped) (hne' : value ≠ [])
    (ha : Text.AllBlank a) (hb : Text.AllBlank b) (hc : Text.AllBlank c) (hd : Text.AllBlank d) :
    fieldAndValue? (a ++ (field ++ (b ++ ',' :: (c ++ (value ++ d))))) = some (field, value) := by
  have hnone : ∀ {gap : Text}, Text.AllBlank gap → ',' ∉ gap := by
    intro gap hgap hmem
    have hblank := hgap _ hmem
    revert hblank
    decide
  have hcut : Text.cut? ',' (a ++ (field ++ (b ++ ',' :: (c ++ (value ++ d))))) =
      some (a ++ (field ++ b), c ++ (value ++ d)) := by
    refine Text.cut?_eq_some_iff.2 ⟨?_, by simp⟩
    simp [hnone ha, hcomma, hnone hb]
  rw [fieldAndValue?, hcut, Option.bind_some]
  simp only
  rw [hfield.strip_append hne ha hb, hvalue.strip_append hne' hc hd, if_neg]
  rintro (hnil | hnil)
  · exact hne hnil
  · exact hne' hnil

/-- **A field and a value are read back from the list that they are written as.** -/
theorem fieldAndValue?_join {field value : Text} (h : Writable field value) :
    fieldAndValue? (field ++ (", ".toList ++ value)) = some (field, value) := by
  have hlist := fieldAndValue?_blanks h.field_stripped h.field_ne_nil h.no_comma h.value_stripped
    h.value_ne_nil Text.allBlank_nil Text.allBlank_nil Text.allBlank_space Text.allBlank_nil
  rwa [List.append_nil] at hlist

/-! ## Call tokens -/

/-- Where a call stands does not matter for what it is. -/
theorem ofToken_eq_ok_iff {index : Int} {t : Token} {call : Call} :
    ofToken index t = .ok call ↔
      ∃ arguments, nameAndArguments? t.text = some (call.name, arguments) ∧
        fieldAndValue? arguments = some (call.field, call.value) := by
  unfold ofToken
  constructor
  · intro h
    split at h
    · cases h
    · rename_i name arguments hname
      split at h
      · cases h
      · rename_i field value hfield
        cases h
        exact ⟨arguments, hname, hfield⟩
  · rintro ⟨arguments, hname, hfield⟩
    rw [hname]
    simp only [hfield]

/-- A call that cannot be taken apart is to blame itself. -/
theorem fault_of_ofToken {index : Int} {t : Token} {e : ReadFault}
    (h : ofToken index t = .error e) :
    e.index = index ∧ e.culprit = some t ∧
      (e.cause = .malformedCall ∧ nameAndArguments? t.text = none ∨
        ∃ name, e.cause = .incompleteCall name) := by
  unfold ofToken at h
  split at h
  · rename_i hnone
    cases h
    exact ⟨rfl, rfl, Or.inl ⟨rfl, hnone⟩⟩
  · split at h
    · cases h
      exact ⟨rfl, rfl, Or.inr ⟨_, rfl⟩⟩
    · cases h

/-- **A scanned call has a name and parentheses**, so that it can only lack a field or a value. -/
theorem incomplete_of_shaped {index : Int} {t : Token} {e : ReadFault}
    (hshaped : Token.Shaped .call t.text) (h : ofToken index t = .error e) :
    ∃ name, e.cause = .incompleteCall name := by
  obtain ⟨-, -, ⟨-, hnone⟩ | hincomplete⟩ := fault_of_ofToken h
  · obtain ⟨op, blanks, arguments, hblanks, -, htext⟩ := hshaped
    rw [htext, nameAndArguments?_call op arguments hblanks] at hnone
    cases hnone
  · exact hincomplete

/-- **The parts of a scanned call**: its predicate, and the field and the value of its arguments. -/
theorem ofToken_of_shaped {index : Int} {t : Token} {call : Call}
    (hshaped : Token.Shaped .call t.text) (h : ofToken index t = .ok call) :
    ∃ (op : Predicate) (arguments : Text), call.name = op.name ∧ Token.Balanced arguments ∧
      arguments.Sublist t.text ∧ fieldAndValue? arguments = some (call.field, call.value) := by
  obtain ⟨op, blanks, arguments, hblanks, hbal, htext⟩ := hshaped
  obtain ⟨arguments', hname, hfield⟩ := ofToken_eq_ok_iff.1 h
  rw [htext, nameAndArguments?_call op arguments hblanks] at hname
  simp only [Option.some.injEq, Prod.mk.injEq] at hname
  obtain ⟨hname, rfl⟩ := hname
  refine ⟨op, arguments, hname.symm, hbal, ?_, hfield⟩
  rw [htext]
  refine List.Sublist.trans ?_ (List.sublist_append_right _ _)
  refine List.Sublist.trans ?_ (List.sublist_append_right _ _)
  exact (List.sublist_append_left _ _).trans (List.sublist_cons_self _ _)

/-- **A call that was written is taken apart into what it was written from.** -/
theorem ofToken_written (index : Int) {t : Token} (op : Predicate) {field value : Text}
    (ht : t.text = op.name ++ '(' :: ((field ++ (", ".toList ++ value)) ++ [')']))
    (h : Writable field value) : ofToken index t = .ok ⟨op.name, field, value⟩ := by
  refine ofToken_eq_ok_iff.2 ⟨field ++ (", ".toList ++ value), ?_, ?_⟩
  · rw [ht]
    have hnone : ∀ c ∈ ([] : Text), Text.isBlank c = true := by simp
    exact nameAndArguments?_call op _ hnone
  · exact fieldAndValue?_join h

end Call

end QueryFilter
