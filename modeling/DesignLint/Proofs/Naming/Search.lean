import DesignLint.Pattern.Reader
import DesignLint.Proofs.Naming.Notation
import DesignLint.Proofs.Text.Codes

namespace DesignLint

namespace Marks

theorem any_of_serves {test : List Char → Bool} {text : List Char} {m : Marks}
    (h : m.serves test text = true) : m.any id = true := by
  induction text generalizing m with
  | nil =>
    cases m with
    | nil => cases h
    | cons here m =>
      rw [serves, Bool.and_eq_true] at h
      rw [List.any_cons, id, h.1, Bool.true_or]
  | cons c cs ih =>
    cases m with
    | nil => cases h
    | cons here m =>
      rw [serves, Bool.or_eq_true, Bool.and_eq_true] at h
      rw [List.any_cons, Bool.or_eq_true]
      exact h.imp And.left ih

theorem inter_cons_cons (a b : Bool) (m n : Marks) :
    inter (a :: m) (b :: n) = (a && b) :: inter m n := rfl

theorem any_inter_finish (m : Marks) (before : Option Char) (text : List Char) :
    (m.inter (anchored .finish before text)).any id =
      m.serves (Anchor.holds none · .finish) text := by
  induction text generalizing m before with
  | nil => cases m <;> simp [inter, anchored, serves, Anchor.holds]
  | cons c cs ih =>
    cases m with
    | nil => rfl
    | cons here m =>
      rw [anchored, inter_cons_cons, List.any_cons, ih m (some c), serves]
      rfl

theorem all_inter_start (text : List Char) :
    (all text).inter (anchored .start none text) = atStart text := by
  have hlater (c : Char) (cs : List Char) :
      inter (List.replicate (cs.length + 1) true) (anchored .start (some c) cs) =
        List.replicate (cs.length + 1) false := by
    induction cs generalizing c with
    | nil => rfl
    | cons d cs ih =>
      rw [List.length_cons, List.replicate_succ, anchored, inter_cons_cons, ih d]
      rfl
  cases text with
  | nil => rfl
  | cons c cs =>
    rw [all, List.length_cons, List.replicate_succ, anchored, inter_cons_cons, hlater c cs]
    rfl

end Marks

namespace Pattern

theorem sequence_cons (p : Pattern) {rest : List Pattern} (h : rest ≠ []) :
    sequence (p :: rest) = seq p (sequence rest) := by
  cases rest with
  | nil => exact absurd rfl h
  | cons q rest => rfl

theorem isRegular_sequence {ps : List Pattern} (h : ∀ p ∈ ps, p.isRegular = true) :
    (sequence ps).isRegular = true := by
  induction ps with
  | nil => rfl
  | cons p rest ih =>
    obtain ⟨hp, hrest⟩ := List.forall_mem_cons.mp h
    cases rest with
    | nil => exact hp
    | cons q rest =>
      rw [sequence_cons p (List.cons_ne_nil q rest), isRegular, hp, ih hrest]
      rfl

theorem holds_literal (c : Char) :
    CharClass.holds ⟨false, [.single c], .exact⟩ = (c == ·) := by
  funext d
  rw [CharClass.holds, List.any_cons, List.any_nil, CharClass.meets_exact, Bool.or_false,
    Bool.bne_false, Bool.eq_iff_iff, CharItem.holds_single, beq_iff_eq]
  exact ⟨fun h => (Text.codeOf_injective h).symm, fun h => h ▸ rfl⟩

def wordClass : CharClass := ⟨false, [.word true], .exact⟩

theorem holds_wordClass : wordClass.holds = Text.isWord := by
  funext c
  rw [wordClass, CharClass.holds, List.any_cons, List.any_nil, CharClass.meets_exact,
    Bool.or_false, Bool.bne_false, CharItem.holds, beq_true]

namespace Reader

-- A draft that nothing but plain parts has been read into.
def ready (parts : List Part) : Draft :=
  { branches := { parts := parts } }

theorem escape?_of_not_alphanum {c : Char} (h : c.isAlphanum = false) (rest : List Char) :
    escape? {} (c :: rest) = some (.item (literal c), 1) := by
  have hne {d : Char} (hd : d.isAlphanum = true) : c ≠ d := by
    rintro rfl
    exact absurd hd (by simp [h])
  have hdigit : ¬ c.isDigit = true := by
    intro hdigit
    simp [Char.isAlphanum, hdigit] at h
  have hkind : kind? false c = none := by
    rw [kind?] <;> exact hne (by decide)
  have hsingle : single? (c :: rest) = some (.single c, 1) := by
    rw [single?, if_neg (by simp [h])] <;> exact hne (by decide)
  rw [escape?, if_neg hdigit, hkind, hsingle]
  · rfl
  all_goals exact hne (by decide)

theorem token?_of_not_marked {c : Char} (h : c ∉ NamePart.marked) (rest : List Char) :
    token? {} (c :: rest) = some (.item (literal c), 1) := by
  have hne {d : Char} (hd : d ∈ NamePart.marked) : c ≠ d := by
    rintro rfl
    exact h hd
  rw [token?]
  · rfl
  all_goals exact hne (by decide)

theorem draftFrom_token {parts : List Part} {c : Char} {rest : List Char} {t : Token} {width : Nat}
    {d : Draft} (htoken : token? {} (c :: rest) = some (t, width))
    (hadd : (ready parts).add t = some d) :
    draftFrom (ready parts) 0 (c :: rest) = draftFrom d (width - 1) rest := by
  have hflags : (ready parts).flags = {} := rfl
  rw [draftFrom, hflags, htoken]
  simp only [hadd]
  rfl

theorem repetition_of_plain {rest : List Char} (hask : rest.head? ≠ some '?')
    (hplus : rest.head? ≠ some '+') (least : Nat) (most : Option Nat) (width : Nat) :
    repetition least most width rest = (.times least most .greedy, width) := by
  cases rest with
  | nil => rfl
  | cons c rest =>
    rw [repetition]
    · rintro more hmore
      exact hask (congrArg List.head? hmore)
    · rintro more hmore
      exact hplus (congrArg List.head? hmore)

theorem pattern?_ready (parts : List Part) :
    (ready parts).pattern? = some (sequence (parts.reverse.map Part.pattern)) := rfl

end Reader

end Pattern

namespace NamePart

def asPattern : NamePart → Pattern
  | literal c => .literal c
  | word => .repeated (.oneOf Pattern.wordClass) 1 none .greedy
  | optionalWord => .repeated (.oneOf Pattern.wordClass) 0 none .greedy

def isLiteral : NamePart → Bool
  | literal _ => true
  | _ => false

def asPart (part : NamePart) : Pattern.Reader.Part :=
  ⟨part.asPattern, part.isLiteral⟩

section Reading

open Pattern.Reader

theorem draftFrom_literal (done : List Part) (c : Char) (rest : List Char) :
    draftFrom (ready done) 0 ((literal c).written ++ rest) =
      draftFrom (ready ((literal c).asPart :: done)) 0 rest := by
  rw [written, escaped]
  by_cases h : c ∈ marked
  · have hnone : marked.all (fun c => !c.isAlphanum) = true := by decide
    have hplain : c.isAlphanum = false := by simpa using List.all_eq_true.mp hnone c h
    have htoken : token? {} ('\\' :: c :: rest) = some (.item (Pattern.literal c), 2) := by
      rw [token?, escape?_of_not_alphanum hplain]
      rfl
    rw [if_pos h]
    exact draftFrom_token htoken rfl
  · rw [if_neg h]
    exact draftFrom_token (token?_of_not_marked h rest) rfl

theorem draftFrom_written (done : List Part) (part : NamePart) {rest : List Char}
    (hask : rest.head? ≠ some '?') (hplus : rest.head? ≠ some '+') :
    draftFrom (ready done) 0 (part.written ++ rest) =
      draftFrom (ready (part.asPart :: done)) 0 rest := by
  have hclass (tail : List Char) : draftFrom (ready done) 0 ('\\' :: 'w' :: tail) =
      draftFrom (ready (⟨.oneOf Pattern.wordClass, true⟩ :: done)) 0 tail := by
    have htoken : token? {} ('\\' :: 'w' :: tail) =
        some (.item (.oneOf Pattern.wordClass), 2) := rfl
    exact draftFrom_token htoken rfl
  cases part with
  | literal c => exact draftFrom_literal done c rest
  | word =>
    have htoken : token? {} ('+' :: rest) = some (.times 1 none .greedy, 1) := by
      rw [token?, repetition_of_plain hask hplus]
    rw [written, List.cons_append, List.cons_append, hclass]
    exact draftFrom_token htoken rfl
  | optionalWord =>
    have htoken : token? {} ('*' :: rest) = some (.times 0 none .greedy, 1) := by
      rw [token?, repetition_of_plain hask hplus]
    rw [written, List.cons_append, List.cons_append, hclass]
    exact draftFrom_token htoken rfl

theorem draftFrom_parts (done : List Part) (parts : List NamePart) :
    draftFrom (ready done) 0 (parts.flatMap written ++ ['$']) =
      some (ready (⟨.anchor .finish, false⟩ :: (parts.map asPart).reverse ++ done)) := by
  induction parts generalizing done with
  | nil => exact draftFrom_token rfl rfl
  | cons part parts ih =>
    -- a repetition would take a question mark or a plus behind it as a mark of its greed
    have hplain {c : Char} (hc : c ∈ marked) (hne : c ≠ '\\') (hfinish : c ≠ '$') :
        (parts.flatMap written ++ ['$']).head? ≠ some c := by
      intro hhead
      cases hparts : parts.flatMap written with
      | nil =>
        rw [hparts] at hhead
        exact hfinish (Option.some.inj hhead).symm
      | cons d rest =>
        rw [hparts] at hhead
        obtain rfl : d = c := Option.some.inj hhead
        exact (ne_of_flatMap_written hparts).elim hne (· hc)
    rw [List.flatMap_cons, List.append_assoc,
      draftFrom_written done part (hplain (by decide) (by decide) (by decide))
        (hplain (by decide) (by decide) (by decide)), ih]
    simp

theorem read?_expression (template : String) :
    Pattern.read? (expression template) = some (Pattern.sequence
      (.anchor .start :: (read template).map asPattern ++ [.anchor .finish])) := by
  have hstart (rest : List Char) :
      draftFrom (ready []) 0 ('^' :: rest) =
        draftFrom (ready [⟨.anchor .start, false⟩]) 0 rest := by
    have htoken : token? {} ('^' :: rest) = some (.anchor .start, 1) := rfl
    exact draftFrom_token htoken rfl
  have hclosed : Pattern.endsOpen ('^' :: (read template).flatMap written ++ ['$']) = false := by
    rw [Pattern.endsOpen, List.reverse_append]
    rfl
  have hdraft : draftFrom {} 0 ('^' :: (read template).flatMap written ++ ['$']) =
      some (ready (⟨.anchor .finish, false⟩ :: ((read template).map asPart).reverse ++
        [⟨.anchor .start, false⟩])) :=
    (hstart _).trans (draftFrom_parts _ (read template))
  rw [expression_eq, Pattern.read?, String.toList_ofList, hclosed, if_neg Bool.false_ne_true,
    hdraft, Option.bind_some, pattern?_ready]
  simp [asPart, Function.comp_def]

end Reading

section Sweeping

theorem isRegular_asPattern (part : NamePart) : part.asPattern.isRegular = true := by
  cases part <;> rfl

theorem move_asPattern (part : NamePart) (text : List Char) (m : Marks) :
    part.asPattern.move text m = move text m part := by
  cases part with
  | literal c => rw [asPattern, Pattern.literal, Pattern.move, Pattern.holds_literal, move]
  | optionalWord =>
    rw [asPattern, Pattern.move, Pattern.holds_wordClass, Nat.zero_min, Marks.iterate, move]
  | word =>
    have hone : min 1 (text.length + 1) = 1 := Nat.min_eq_left (Nat.le_add_left 1 text.length)
    have hstep (f : Marks → Marks) : Marks.iterate f 1 m = f m := by
      rw [Marks.iterate]
      split
      next heq => exact heq.symm
      next => rfl
    rw [asPattern, Pattern.move, hone, hstep, Pattern.move, Pattern.holds_wordClass, move]

theorem serves_move (test : List Char → Bool) (part : NamePart) (parts : List NamePart)
    (text : List Char) (m : Marks) :
    (move text m part).serves (afterParts test parts) text =
      m.serves (afterParts test (part :: parts)) text := by
  cases part with
  | literal c => exact Marks.serves_advance _ _ text m
  | optionalWord =>
    rw [move, Marks.serves_carry, Bool.false_and, Bool.false_or]
    rfl
  | word =>
    rw [move, Marks.serves_carry, Bool.false_and, Bool.false_or, Marks.serves_advance]
    rfl

def closes : List Char → Bool :=
  (Anchor.holds none · .finish)

theorem closes_iff {rest : List Char} : closes rest = true ↔ rest = [] ∨ rest = ['\n'] := by
  rw [closes, Anchor.holds, Bool.or_eq_true, List.isEmpty_iff, beq_iff_eq]

theorem any_move_sequence (parts : List NamePart) (text : List Char) (m : Marks) :
    ((Pattern.sequence (parts.map asPattern ++ [.anchor .finish])).move text m).any id =
      m.serves (afterParts closes parts) text := by
  induction parts generalizing m with
  | nil => exact Marks.any_inter_finish m none text
  | cons part parts ih =>
    rw [List.map_cons, List.cons_append, Pattern.sequence_cons _ (by simp), Pattern.move,
      move_asPattern, ← serves_move]
    split
    next => exact ih _
    next hnone =>
      -- without marks the sweep stops here, and without marks no rest is served
      rw [Bool.eq_iff_iff]
      exact ⟨fun h => absurd h hnone, fun h => absurd (Marks.any_of_serves h) hnone⟩

theorem foundIn_sequence (parts : List NamePart) (text : List Char) :
    (Pattern.sequence (.anchor .start :: parts.map asPattern ++ [.anchor .finish])).foundIn text =
      afterParts closes parts text := by
  have hregular : (Pattern.sequence
      (.anchor .start :: parts.map asPattern ++ [.anchor .finish])).isRegular = true := by
    refine Pattern.isRegular_sequence fun p hp => ?_
    rcases List.mem_append.mp hp with hp | hp
    · rcases List.mem_cons.mp hp with rfl | hp
      · rfl
      · obtain ⟨part, -, rfl⟩ := List.mem_map.mp hp
        exact isRegular_asPattern part
    · rw [List.mem_singleton.mp hp]
      rfl
  have hstart : (Marks.atStart text).any id = true := rfl
  rw [Pattern.foundIn, if_pos hregular, Pattern.sweeps, List.cons_append,
    Pattern.sequence_cons _ (by simp), Pattern.move, Pattern.move, Marks.all_inter_start,
    if_pos hstart, any_move_sequence, Marks.serves_atStart]

end Sweeping

theorem afterParts_closes_iff {template name : List Char} :
    afterParts closes (readFrom 0 template) name = true ↔ Fills template name ∨
      ∃ bare, name = bare ++ ['\n'] ∧ Fills template bare := by
  rw [afterParts_iff]
  constructor
  · rintro ⟨bare, rest, rfl, h, hrest⟩
    rw [← fills_iff_spells] at h
    rcases closes_iff.mp hrest with rfl | rfl
    · left
      rwa [List.append_nil]
    · exact .inr ⟨bare, rfl, h⟩
  · rintro (h | ⟨bare, rfl, h⟩)
    · exact ⟨name, [], by simp, fills_iff_spells.mp h, rfl⟩
    · exact ⟨bare, ['\n'], rfl, fills_iff_spells.mp h, rfl⟩

theorem matchesName_by_filling (template name : String) :
    (matchesName template name = true ↔ Fills template.toList name.toList ∨
      ∃ bare, name.toList = bare ++ ['\n'] ∧ Fills template.toList bare) ∧
    ∃ p, Pattern.read? (expression template) = some p ∧
      p.foundIn name.toList = matchesName template name := by
  refine ⟨matchesName_iff, _, read?_expression template, ?_⟩
  rw [foundIn_sequence, Bool.eq_iff_iff, matchesName_iff]
  exact afterParts_closes_iff

end NamePart

end DesignLint
