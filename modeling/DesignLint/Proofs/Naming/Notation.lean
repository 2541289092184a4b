import DesignLint.Proofs.Naming.Templates
import DesignLint.Text.Search

namespace DesignLint

namespace Text

variable {needle new : List Char}

theorem replaceFrom_skip (skip : Nat) (s : List Char) :
    replaceFrom needle new skip s = replaceFrom needle new 0 (s.drop skip) := by
  induction skip generalizing s with
  | zero => rfl
  | succ skip ih =>
    cases s with
    | nil => rfl
    | cons c cs => exact ih cs

theorem replaceAll_needle_append (h : needle ≠ []) (rest : List Char) :
    replaceAll needle new (needle ++ rest) = new ++ replaceAll needle new rest := by
  obtain ⟨c, cs, rfl⟩ := List.exists_cons_of_ne_nil h
  have hprefix : (c :: cs).isPrefixOf (c :: cs ++ rest) = true :=
    List.isPrefixOf_iff_prefix.mpr (List.prefix_append _ _)
  rw [List.cons_append] at hprefix
  rw [replaceAll, List.cons_append, replaceFrom, if_pos hprefix, replaceFrom_skip]
  simp [replaceAll]

theorem replaceAll_cons {c : Char} {rest : List Char} (h : ¬ needle <+: c :: rest) :
    replaceAll needle new (c :: rest) = c :: replaceAll needle new rest := by
  rw [replaceAll, replaceFrom, if_neg (by rwa [List.isPrefixOf_iff_prefix]), replaceAll]

end Text

namespace NamePart

def marked : List Char :=
  "()[]\x7b\x7d?*+-|^$\\.&~# \t\n\r\x0b\x0c".toList

def escaped (c : Char) : List Char :=
  if c ∈ marked then ['\\', c] else [c]

def escapedText (s : List Char) : List Char :=
  s.flatMap escaped

def written : NamePart → List Char
  | literal c => escaped c
  | word => ['\\', 'w', '+']
  | optionalWord => ['\\', 'w', '*']

-- The whole template is escaped first; the placeholders are then found by their escaped form.
def expression (template : String) : String :=
  let named := Text.replaceAll (escapedText wordPlaceholder) (written word)
    (escapedText template.toList)
  let typed := Text.replaceAll (escapedText optionalPlaceholder) (written optionalWord) named
  String.ofList ('^' :: typed ++ ['$'])

theorem exists_written (part : NamePart) :
    ∃ c cs, part.written = c :: cs ∧ (c = '\\' ∨ c ∉ marked) := by
  cases part with
  | literal c =>
    rw [written, escaped]
    by_cases h : c ∈ marked
    · exact ⟨'\\', [c], if_pos h, .inl rfl⟩
    · exact ⟨c, [], if_neg h, .inr h⟩
  | word => exact ⟨'\\', ['w', '+'], rfl, .inl rfl⟩
  | optionalWord => exact ⟨'\\', ['w', '*'], rfl, .inl rfl⟩

theorem ne_of_flatMap_written {parts : List NamePart} {c : Char} {rest : List Char}
    (h : parts.flatMap written = c :: rest) : c = '\\' ∨ c ∉ marked := by
  cases parts with
  | nil => cases h
  | cons part parts =>
    obtain ⟨d, ds, hpart, hd⟩ := exists_written part
    rw [List.flatMap_cons, hpart] at h
    obtain ⟨rfl, -⟩ := List.cons.inj h
    exact hd

-- The part at the front of a written text; a letter behind a backslash is never an escaped one.
def firstWritten : List Char → Option (NamePart × List Char)
  | '\\' :: 'w' :: '+' :: rest => some (word, rest)
  | '\\' :: 'w' :: '*' :: rest => some (optionalWord, rest)
  | '\\' :: c :: rest => some (literal c, rest)
  | c :: rest => some (literal c, rest)
  | [] => none

theorem firstWritten_append (part : NamePart) (rest : List Char) :
    firstWritten (part.written ++ rest) = some (part, rest) := by
  cases part with
  | literal c =>
    rw [written, escaped]
    by_cases h : c ∈ marked
    · have hw : c ≠ 'w' := by
        rintro rfl
        exact absurd h (by decide)
      rw [if_pos h]
      simp [firstWritten, hw]
    · have hbackslash : c ≠ '\\' := by
        rintro rfl
        exact absurd h (by decide)
      rw [if_neg h]
      simp [firstWritten, hbackslash]
  | word => rfl
  | optionalWord => rfl

theorem prefix_of_flatMap_written {parts others : List NamePart}
    (h : parts.flatMap written <+: others.flatMap written) : parts <+: others := by
  induction parts generalizing others with
  | nil => exact List.nil_prefix
  | cons part parts ih =>
    obtain ⟨more, h⟩ := h
    rw [List.flatMap_cons, List.append_assoc] at h
    have hfirst := congrArg firstWritten h
    rw [firstWritten_append] at hfirst
    cases others with
    | nil => cases hfirst
    | cons other others =>
      rw [List.flatMap_cons, firstWritten_append] at hfirst
      obtain ⟨rfl, hrest⟩ := Prod.mk.inj (Option.some.inj hfirst)
      exact List.cons_prefix_cons.mpr ⟨rfl, ih ⟨more, hrest⟩⟩

theorem escapedText_eq (s : List Char) : escapedText s = (s.map literal).flatMap written := by
  rw [escapedText, List.flatMap_map]
  rfl

section Replacing

variable {us new : List Char}

theorem replaceAll_placeholder (hus : us.head? = some '\x7b') (parts : List NamePart) :
    Text.replaceAll (escapedText us) new ((us.map literal ++ parts).flatMap written) =
      new ++ Text.replaceAll (escapedText us) new (parts.flatMap written) := by
  have hne : escapedText us ≠ [] := by
    obtain ⟨tail, rfl⟩ := List.head?_eq_some_iff.mp hus
    exact List.cons_ne_nil _ _
  rw [List.flatMap_append, ← escapedText_eq, Text.replaceAll_needle_append hne]

theorem replaceAll_part (hus : us.head? = some '\x7b') {part : NamePart} {parts : List NamePart}
    (h : ¬ us.map literal <+: part :: parts) :
    Text.replaceAll (escapedText us) new ((part :: parts).flatMap written) =
      part.written ++ Text.replaceAll (escapedText us) new (parts.flatMap written) := by
  obtain ⟨tail, hfront⟩ : ∃ tail, escapedText us = '\\' :: '\x7b' :: tail := by
    obtain ⟨tail, rfl⟩ := List.head?_eq_some_iff.mp hus
    exact ⟨escapedText tail, rfl⟩
  have hother {c : Char} (hc : c ≠ '\\') (rest : List Char) :
      Text.replaceAll (escapedText us) new (c :: rest) =
        c :: Text.replaceAll (escapedText us) new rest := by
    refine Text.replaceAll_cons fun hprefix => ?_
    rw [hfront] at hprefix
    exact hc (List.cons_prefix_cons.mp hprefix).1.symm
  have hfirst : ¬ escapedText us <+: part.written ++ parts.flatMap written := by
    intro hprefix
    rw [escapedText_eq, ← List.flatMap_cons] at hprefix
    exact h (prefix_of_flatMap_written hprefix)
  rw [List.flatMap_cons]
  cases part with
  | literal c =>
    rw [written, escaped] at hfirst ⊢
    by_cases hc : c ∈ marked
    · rw [if_pos hc] at hfirst ⊢
      -- behind an escaped backslash comes the start of another part, which is never a brace
      have hsecond : ¬ escapedText us <+: c :: parts.flatMap written := by
        intro hprefix
        rw [hfront] at hprefix
        obtain ⟨rest, hrest⟩ := (List.cons_prefix_cons.mp hprefix).2
        rcases ne_of_flatMap_written hrest.symm with hbrace | hbrace
        · exact absurd hbrace (by decide)
        · exact hbrace (by decide)
      simp only [List.cons_append, List.nil_append] at hfirst ⊢
      rw [Text.replaceAll_cons hfirst, Text.replaceAll_cons hsecond]
    · rw [if_neg hc] at hfirst ⊢
      exact Text.replaceAll_cons hfirst
  | word =>
    simp only [written, List.cons_append, List.nil_append] at hfirst ⊢
    rw [Text.replaceAll_cons hfirst, hother (by decide), hother (by decide)]
  | optionalWord =>
    simp only [written, List.cons_append, List.nil_append] at hfirst ⊢
    rw [Text.replaceAll_cons hfirst, hother (by decide), hother (by decide)]

theorem replaceAll_without_brace (hus : us.head? = some '\x7b') {before : List Char}
    (h : '\x7b' ∉ before) (parts : List NamePart) :
    Text.replaceAll (escapedText us) new ((before.map literal ++ parts).flatMap written) =
      escapedText before ++ Text.replaceAll (escapedText us) new (parts.flatMap written) := by
  induction before with
  | nil => rfl
  | cons c before ih =>
    obtain ⟨hc, hbefore⟩ := not_or.mp (List.mem_cons.not.mp h)
    have hnot : ¬ us.map literal <+: literal c :: (before.map literal ++ parts) := by
      obtain ⟨tail, rfl⟩ := List.head?_eq_some_iff.mp hus
      intro hprefix
      exact hc (NamePart.literal.inj (List.cons_prefix_cons.mp hprefix).1)
    have hescaped : escapedText (c :: before) = (literal c).written ++ escapedText before :=
      List.flatMap_cons
    rw [List.map_cons, List.cons_append, replaceAll_part hus hnot, ih hbefore, hescaped,
      List.append_assoc]

end Replacing

-- What stands at the front of the parts as plain characters stands at the front of the template.
def Leads (parts : List NamePart) (template : List Char) : Prop :=
  ∀ us : List Char, us.map literal <+: parts → us <+: template

theorem leads_nil : Leads [] [] := by
  intro us h
  obtain rfl : us = [] := List.map_eq_nil_iff.mp (List.prefix_nil.mp h)
  exact List.nil_prefix

theorem Leads.cons {parts : List NamePart} {template : List Char} (h : Leads parts template)
    (c : Char) : Leads (literal c :: parts) (c :: template) := by
  intro us hus
  cases us with
  | nil => exact List.nil_prefix
  | cons d us =>
    obtain ⟨hd, hrest⟩ := List.cons_prefix_cons.mp hus
    exact List.cons_prefix_cons.mpr ⟨NamePart.literal.inj hd, h us hrest⟩

theorem Leads.append {parts : List NamePart} {template : List Char} (h : Leads parts template)
    (before : List Char) : Leads (before.map literal ++ parts) (before ++ template) := by
  induction before with
  | nil => exact h
  | cons c before ih => exact ih.cons c

theorem leads_map_literal (template : List Char) : Leads (template.map literal) template := by
  have h := leads_nil.append template
  rwa [List.append_nil, List.append_nil] at h

-- The parts of a template of which only one placeholder has been replaced yet.
structure HalfRead (template : List Char) (parts : List NamePart) : Prop where
  named : Text.replaceAll (escapedText wordPlaceholder) (written word) (escapedText template) =
    parts.flatMap written
  typed : Text.replaceAll (escapedText optionalPlaceholder) (written optionalWord)
    (parts.flatMap written) = (readFrom 0 template).flatMap written
  leads : Leads parts template

theorem head?_wordPlaceholder : wordPlaceholder.head? = some '\x7b' := rfl

theorem head?_optionalPlaceholder : optionalPlaceholder.head? = some '\x7b' := rfl

namespace HalfRead

variable {template : List Char} {parts : List NamePart}

theorem beforeWord (h : HalfRead template parts) :
    HalfRead (wordPlaceholder ++ template) (word :: parts) := by
  have hliteral (us : List Char) (hus : us.map literal <+: word :: parts) : us = [] := by
    cases us with
    | nil => rfl
    | cons c us => cases (List.cons_prefix_cons.mp hus).1
  refine ⟨?_, ?_, ?_⟩
  · have happend : escapedText (wordPlaceholder ++ template) =
        escapedText wordPlaceholder ++ escapedText template := List.flatMap_append
    rw [happend, Text.replaceAll_needle_append (by decide), h.named, List.flatMap_cons]
  · have hnot : ¬ optionalPlaceholder.map literal <+: word :: parts := fun hus =>
      absurd (hliteral _ hus) (by decide)
    rw [readFrom_word, replaceAll_part head?_optionalPlaceholder hnot, h.typed, List.flatMap_cons]
  · intro us hus
    obtain rfl := hliteral us hus
    exact List.nil_prefix

theorem beforeCharacter (h : HalfRead template parts) {c : Char}
    (hword : ¬ wordPlaceholder <+: c :: template)
    (hoptional : ¬ optionalPlaceholder <+: c :: template) :
    HalfRead (c :: template) (literal c :: parts) := by
  refine ⟨?_, ?_, h.leads.cons c⟩
  · have hnot : ¬ wordPlaceholder.map literal <+: literal c :: template.map literal :=
      fun hus => hword (leads_map_literal (c :: template) _ hus)
    have hnamed := h.named
    rw [escapedText_eq template] at hnamed
    rw [escapedText_eq (c :: template), List.map_cons, replaceAll_part head?_wordPlaceholder hnot,
      hnamed, List.flatMap_cons]
  · have hnot : ¬ optionalPlaceholder.map literal <+: literal c :: parts :=
      fun hus => hoptional (h.leads.cons c _ hus)
    rw [readFrom_itself hword hoptional, replaceAll_part head?_optionalPlaceholder hnot, h.typed,
      List.flatMap_cons]

-- No word placeholder starts inside the other one.
theorem named_append_optional (template : List Char) :
    Text.replaceAll (escapedText wordPlaceholder) (written word)
        (escapedText (optionalPlaceholder ++ template)) =
      escapedText optionalPlaceholder ++
        Text.replaceAll (escapedText wordPlaceholder) (written word) (escapedText template) := by
  have hoptional : optionalPlaceholder = '\x7b' :: ['t', 'y', 'p', 'e', '\x7d'] := rfl
  have hword : wordPlaceholder = '\x7b' :: ['n', 'a', 'm', 'e', '\x7d'] := rfl
  have hnot : ¬ wordPlaceholder.map literal <+:
      literal '\x7b' :: (['t', 'y', 'p', 'e', '\x7d'].map literal ++ template.map literal) := by
    intro hprefix
    rw [hword] at hprefix
    have hsecond := (List.cons_prefix_cons.mp (List.cons_prefix_cons.mp hprefix).2).1
    exact absurd (NamePart.literal.inj hsecond) (by decide)
  rw [escapedText_eq (optionalPlaceholder ++ template), hoptional, List.map_append, List.map_cons,
    List.cons_append, replaceAll_part head?_wordPlaceholder hnot,
    replaceAll_without_brace head?_wordPlaceholder (by decide), ← escapedText_eq]
  rfl

theorem beforeOptional (h : HalfRead template parts) :
    HalfRead (optionalPlaceholder ++ template) (optionalPlaceholder.map literal ++ parts) := by
  refine ⟨?_, ?_, h.leads.append optionalPlaceholder⟩
  · rw [named_append_optional, h.named, List.flatMap_append, ← escapedText_eq]
  · rw [readFrom_optionalWord, replaceAll_placeholder head?_optionalPlaceholder, h.typed,
      List.flatMap_cons]

end HalfRead

theorem expression_eq (template : String) :
    expression template = String.ofList ('^' :: (read template).flatMap written ++ ['$']) := by
  obtain ⟨parts, h⟩ : ∃ parts, HalfRead template.toList parts := by
    induction template.toList using template_induction with
    | nil => exact ⟨[], rfl, rfl, leads_nil⟩
    | word template ih => exact ⟨_, ih.choose_spec.beforeWord⟩
    | optionalWord template ih => exact ⟨_, ih.choose_spec.beforeOptional⟩
    | itself c template hword hoptional ih =>
      exact ⟨_, ih.choose_spec.beforeCharacter hword hoptional⟩
  rw [expression, h.named, h.typed, read]

end NamePart

end DesignLint
