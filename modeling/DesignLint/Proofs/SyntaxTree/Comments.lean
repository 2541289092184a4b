import DesignLint.Proofs.SyntaxTree.Uncommented
import Mathlib.Data.List.Flatten
import Mathlib.Data.List.Induction

namespace DesignLint

namespace ParseTree

def extended? (clause : ParseTree) : Option ParseTree :=
  (clause.fieldChild? "value").or clause.namedChildren.head?

def lastExtended? (parts : List ParseTree) : Option ParseTree :=
  ((parts.filter fun c => c.type = "extends_clause").filterMap extended?).getLast?

def isBareSuperclass (part : ParseTree) : Bool :=
  part.type ∉ ["extends_clause", "implements_clause", "comment"]

def superclassNode? (t : ParseTree) : Option ParseTree :=
  (lastExtended? t.heritage).or (t.heritage.find? isBareSuperclass)

inductive ReadsComment (source : Source) (t : ParseTree) : Prop
  | interface {clause comment : ParseTree} (hk : t.kind source = .classDecl)
      (hclause : clause ∈ t.heritage) (htype : clause.type = "implements_clause")
      (hcomment : comment ∈ clause.namedChildren) (hloose : comment.isLooseComment)
  | superclass {comment : ParseTree} (hk : t.kind source = .classDecl)
      (hcomment : t.superclassNode? = some comment) (hloose : comment.isLooseComment)
      (hother : t.uncommented.superclassNode?.map (text source) ≠ some (comment.text source))
  | module {args comment next : ParseTree} (hk : t.kind source = .importDecl)
      (htype : t.type = "call_expression") (hargs : t.fieldChild? "arguments" = some args)
      (hopen : args.isOpen) (hcomment : args.namedChildren.head? = some comment)
      (hloose : comment.isLooseComment)
      (hnext : args.namedChildren.find? (fun c => !isLooseComment c) = some next)
      (hname : next.isComment = false)

theorem lastExtended?_concat (parts : List ParseTree) (part : ParseTree) :
    lastExtended? (parts ++ [part]) =
      if part.type = "extends_clause" then (extended? part).or (lastExtended? parts)
      else lastExtended? parts := by
  rw [lastExtended?, List.filter_append, List.filterMap_append, List.getLast?_append]
  by_cases he : part.type = "extends_clause"
  · cases hx : extended? part <;> simp [he, hx, lastExtended?]
  · simp [he, lastExtended?]

theorem superclassIn_eq (source : Source) (got : Option String) (part : ParseTree) :
    superclassIn source got part =
      if part.type = "extends_clause" then ((extended? part).map (text source)).or got
      else if isBareSuperclass part then got.or (some (part.text source))
      else got := by
  rw [superclassIn]
  by_cases he : part.type = "extends_clause"
  · rw [if_pos he, if_pos he, extended?]
    cases (part.fieldChild? "value").or part.namedChildren.head? <;> rfl
  · by_cases hi : part.type = "implements_clause"
    · simp [hi, isBareSuperclass]
    · by_cases hc : part.type = "comment" <;> simp [he, hi, hc, isComment, isBareSuperclass]

theorem foldl_superclassIn (source : Source) (parts : List ParseTree) :
    parts.foldl (superclassIn source) none =
      ((lastExtended? parts).or (parts.find? isBareSuperclass)).map (text source) := by
  induction parts using List.reverseRecOn with
  | nil => simp [lastExtended?]
  | append_singleton parts part ih =>
    rw [List.foldl_append, List.foldl_cons, List.foldl_nil, superclassIn_eq, ih,
      lastExtended?_concat, List.find?_append]
    by_cases he : part.type = "extends_clause"
    · have hb : isBareSuperclass part = false := by simp [isBareSuperclass, he]
      rw [if_pos he, if_pos he]
      cases extended? part <;> simp [hb]
    · rw [if_neg he, if_neg he]
      cases hb : isBareSuperclass part <;> cases lastExtended? parts <;> simp [hb]

theorem superclass_eq (source : Source) (t : ParseTree) :
    t.heritage.foldl (superclassIn source) none = t.superclassNode?.map (text source) := by
  rw [foldl_superclassIn, superclassNode?]

theorem extended?_uncommented (clause : ParseTree) :
    extended? clause.uncommented =
      ((clause.fieldChild? "value").or
        (clause.namedChildren.find? fun c => !isLooseComment c)).map uncommented := by
  rw [extended?, fieldChild?_uncommented, namedChildren_uncommented, List.head?_map,
    List.head?_filter]
  cases clause.fieldChild? "value" <;> rfl

theorem extended?_uncommented_of_solid {clause : ParseTree}
    (h : ∀ c ∈ extended? clause, isLooseComment c = false) :
    extended? clause.uncommented = (extended? clause).map uncommented := by
  rw [extended?_uncommented, extended?]
  rw [extended?] at h
  cases hv : clause.fieldChild? "value" with
  | some value => rfl
  | none =>
    cases hn : clause.namedChildren with
    | nil => rfl
    | cons c rest =>
      have hc : isLooseComment c = false := h c (by simp [hv, hn])
      simp [hc]

theorem lastExtended?_uncommentedAll {parts : List ParseTree}
    (h : ∀ c ∈ lastExtended? parts, isLooseComment c = false) :
    lastExtended? (uncommentedAll parts) = (lastExtended? parts).map uncommented := by
  induction parts using List.reverseRecOn with
  | nil => rfl
  | append_singleton parts part ih =>
    rw [lastExtended?_concat] at h ⊢
    rw [uncommentedAll_eq, List.filter_append, List.map_append, ← uncommentedAll_eq]
    by_cases he : part.type = "extends_clause"
    · have hs : isLooseComment part = false := not_isLooseComment_of_type he (by decide)
      rw [if_pos he] at h ⊢
      have hu : extended? part.uncommented = (extended? part).map uncommented :=
        extended?_uncommented_of_solid fun c hc => h c (by simp_all)
      rw [List.filter_cons_of_pos (by simp [hs]), List.filter_nil, List.map_singleton,
        lastExtended?_concat, type_uncommented, if_pos he, hu]
      cases hx : extended? part with
      | some c => rfl
      | none => exact ih fun c hc => h c (by simp [hx, hc])
    · rw [if_neg he] at h ⊢
      cases hs : isLooseComment part <;> simp [hs, lastExtended?_concat, he, ih h]

theorem superclassNode?_uncommented {t : ParseTree}
    (h : ∀ c ∈ t.superclassNode?, isLooseComment c = false) :
    t.uncommented.superclassNode? = t.superclassNode?.map uncommented := by
  have hl : lastExtended? t.uncommented.heritage =
      (lastExtended? t.heritage).map uncommented := by
    rw [heritage_uncommented, ← uncommentedAll_eq]
    exact lastExtended?_uncommentedAll fun c hc => h c (by simp_all [superclassNode?])
  have hb : t.uncommented.heritage.find? isBareSuperclass =
      (t.heritage.find? isBareSuperclass).map uncommented := by
    rw [heritage_uncommented]
    refine find?_uncommented (by simp [isBareSuperclass]) (fun c hc => ?_) t.heritage
    exact not_isLooseComment_of_type rfl fun he => by simp [isBareSuperclass, he] at hc
  rw [superclassNode?, superclassNode?, hl, hb]
  cases lastExtended? t.heritage <;> rfl

theorem superclass_uncommented_eq_iff (source : Source) (t : ParseTree) :
    t.uncommented.heritage.foldl (superclassIn source) none =
        t.heritage.foldl (superclassIn source) none ↔
      ∀ c ∈ t.superclassNode?, isLooseComment c →
        t.uncommented.superclassNode?.map (text source) = some (c.text source) := by
  rw [superclass_eq, superclass_eq]
  constructor
  · intro h c hc _
    rw [h, Option.mem_def.mp hc, Option.map_some]
  · intro h
    cases hc : t.superclassNode? with
    | none => rw [superclassNode?_uncommented (by simp [hc]), hc, Option.map_none]
    | some c =>
      cases hl : isLooseComment c with
      | true => exact h c hc hl
      | false =>
        rw [superclassNode?_uncommented (by simp [hc, hl]), hc]
        simp

theorem interfacesIn_of_isLooseComment {source : Source} {part : ParseTree}
    (h : part.isLooseComment) : interfacesIn source part = [] := by
  have hc : part.type = "comment" := of_decide_eq_true (isComment_of_isLooseComment h)
  simp [interfacesIn, hc]

theorem interfacesIn_uncommented_sublist (source : Source) (part : ParseTree) :
    (interfacesIn source part.uncommented).Sublist (interfacesIn source part) := by
  rw [interfacesIn, interfacesIn, type_uncommented, namedChildren_uncommented, List.map_map]
  split
  · simp only [Function.comp_def, text_uncommented]
    exact List.filter_sublist.map _
  · exact List.Sublist.refl _

theorem interfacesIn_uncommented_eq_iff (source : Source) (part : ParseTree) :
    interfacesIn source part.uncommented = interfacesIn source part ↔
      (part.type = "implements_clause" → ∀ c ∈ part.namedChildren, isLooseComment c = false) := by
  have hs := interfacesIn_uncommented_sublist source part
  rw [← hs.length_eq]
  by_cases hi : part.type = "implements_clause"
  · simp [interfacesIn, hi, namedChildren_uncommented, List.length_filter_eq_length_iff]
  · simp [interfacesIn, hi]

theorem flatMap_eq_flatMap_iff {α β : Type} {f g : α → List β} (h : ∀ a, (f a).Sublist (g a))
    (l : List α) : l.flatMap f = l.flatMap g ↔ ∀ a ∈ l, f a = g a := by
  induction l with
  | nil => simp
  | cons a l ih =>
    rw [List.flatMap_cons, List.flatMap_cons, List.forall_mem_cons, ← ih]
    constructor
    · intro he
      have hl := congrArg List.length he
      have ha := (h a).length_le
      have hrest : (l.flatMap f).length ≤ (l.flatMap g).length :=
        (List.Sublist.flatMap_right l fun a _ => h a).length_le
      simp only [List.length_append] at hl
      exact List.append_inj he (by omega)
    · rintro ⟨ha, hrest⟩
      rw [ha, hrest]

theorem interfaces_uncommented_eq_iff (source : Source) (t : ParseTree) :
    t.uncommented.heritage.flatMap (interfacesIn source) =
        t.heritage.flatMap (interfacesIn source) ↔
      ∀ part ∈ t.heritage, part.type = "implements_clause" →
        ∀ c ∈ part.namedChildren, isLooseComment c = false := by
  have hf : t.uncommented.heritage.flatMap (interfacesIn source) =
      t.heritage.flatMap fun part => interfacesIn source part.uncommented := by
    rw [heritage_uncommented, List.flatMap_map]
    exact flatMap_filter_of_nil
      (fun part hp => interfacesIn_of_isLooseComment (by simpa using hp)) t.heritage
  rw [hf, flatMap_eq_flatMap_iff (interfacesIn_uncommented_sublist source)]
  simp only [interfacesIn_uncommented_eq_iff]

theorem find?_placed {p : ParseTree → Bool} (i : Nat) (cs : List ParseTree) :
    ((placed i cs).find? fun e => p e.2).map Prod.snd = cs.find? p := by
  induction cs generalizing i with
  | nil => rfl
  | cons c cs ih => cases h : p c <;> simp [placed, h, ih]

def requiredIn? (i : Nat) (args : ParseTree) (first : Option ParseTree) : Option (List Nat) :=
  if args.isOpen && first.any (fun c => !isComment c) then
    some (if args.isWrapper then [i] else [i, 0])
  else none

theorem requiredAddress?_eq (t : ParseTree) :
    t.requiredAddress? =
      ((placed 0 t.children).find? fun e => e.2.label.field = some "arguments").bind
        fun e => requiredIn? e.1 e.2 e.2.namedChildren.head? := by
  rw [requiredAddress?]
  cases (placed 0 t.children).find? fun e => e.2.label.field = some "arguments" with
  | none => rfl
  | some e =>
    obtain ⟨i, args⟩ := e
    simp only [Option.bind_some, requiredIn?]
    cases args.namedChildren with
    | nil => simp
    | cons first rest =>
      have hb : (!args.named || args.isComment || first.isComment) =
          !(args.isOpen && !first.isComment) := by simp [isOpen]
      simp only [List.head?_cons, Option.any_some, hb]
      by_cases h : (args.isOpen && !first.isComment) = true <;>
        by_cases hw : args.isWrapper = true <;> simp [h, hw]

theorem requiredAddress?_uncommented_eq_iff (t : ParseTree) :
    t.uncommented.requiredAddress? = t.requiredAddress? ↔
      ∀ args ∈ t.fieldChild? "arguments", args.isOpen →
        ∀ c ∈ args.namedChildren.head?, isLooseComment c →
          ∀ d ∈ args.namedChildren.find? (fun c => !isLooseComment c), isComment d := by
  rw [requiredAddress?_eq, requiredAddress?_eq, find?_placed_uncommented, fieldChild?,
    ← find?_placed 0]
  cases (placed 0 t.children).find? fun e => e.2.label.field = some "arguments" with
  | none => simp
  | some e =>
    obtain ⟨i, args⟩ := e
    simp only [Option.map_some, Option.bind_some, Option.mem_def, Option.some.injEq,
      forall_eq']
    rw [namedChildren_uncommented, List.head?_map, List.head?_filter, requiredIn?, requiredIn?]
    cases args.namedChildren with
    | nil => simp
    | cons c rest =>
      cases hl : isLooseComment c with
      | false => simp [hl]
      | true =>
        have hc : isComment c := isComment_of_isLooseComment hl
        cases ho : args.isOpen <;> cases hd : rest.find? (fun c => !isLooseComment c) <;>
          simp [hl, hc, ho, hd]

theorem not_readsComment_iff (source : Source) (t : ParseTree) :
    ¬ ReadsComment source t ↔
      (t.kind source = .classDecl →
        t.uncommented.heritage.foldl (superclassIn source) none =
            t.heritage.foldl (superclassIn source) none ∧
          t.uncommented.heritage.flatMap (interfacesIn source) =
            t.heritage.flatMap (interfacesIn source)) ∧
      (t.kind source = .importDecl ∧ t.type = "call_expression" →
        t.uncommented.requiredAddress? = t.requiredAddress?) := by
  rw [superclass_uncommented_eq_iff, interfaces_uncommented_eq_iff,
    requiredAddress?_uncommented_eq_iff]
  constructor
  · intro h
    refine ⟨fun hk => ⟨fun c hc hl => ?_, fun clause hm ht c hc => ?_⟩, ?_⟩
    · by_contra hne
      exact h (.superclass hk hc hl hne)
    · by_contra hl
      exact h (.interface hk hm ht hc (by simpa using hl))
    · rintro ⟨hk, ht⟩ args ha ho c hc hl d hd
      by_contra hn
      exact h (.module hk ht ha ho hc hl hd (by simpa using hn))
  · rintro ⟨hclass, hmodule⟩ hr
    cases hr with
    | interface hk hm ht hc hl => simp [(hclass hk).2 _ hm ht _ hc] at hl
    | superclass hk hc hl hne => exact hne ((hclass hk).1 _ hc hl)
    | module hk ht ha ho hc hl hd hn => simp [hmodule ⟨hk, ht⟩ _ ha ho _ hc hl _ hd] at hn

theorem detail_uncommented_eq_iff (source : Source) (t : ParseTree)
    (target : Role → Option ParseTree) :
    detail source t.uncommented (fun role => (target role).map uncommented) =
        detail source t target ↔
      (t.kind source = .classDecl →
        t.uncommented.heritage.foldl (superclassIn source) none =
            t.heritage.foldl (superclassIn source) none ∧
          t.uncommented.heritage.flatMap (interfacesIn source) =
            t.heritage.flatMap (interfacesIn source)) := by
  rw [detail, detail, kind_uncommented]
  cases hk : t.kind source <;> simp [importOf_uncommented, Function.comp_def]

end ParseTree

namespace SyntaxTree

open ParseTree

theorem nodeOf_uncommented_eq_iff (source : Source) (t : ParseTree) :
    nodeOf source t.uncommented = nodeOf source t ↔ ¬ ReadsComment source t := by
  have target (role : Role) : (t.uncommented.links.lookup role).map Prod.snd =
      ((t.links.lookup role).map Prod.snd).map uncommented := by
    rw [links_uncommented, lookup_map fun e : Nat × ParseTree => (e.1, uncommented e.2)]
    simp [Function.comp_def]
  have addresses : t.uncommented.links.map (fun (e : Role × Nat × ParseTree) => (e.1, [e.2.1])) =
      t.links.map fun e => (e.1, [e.2.1]) := by
    simp [links_uncommented, Function.comp_def]
  have required (a b : Option (List Nat)) :
      (a.map (Role.source, ·)).toList = (b.map (Role.source, ·)).toList ↔ a = b := by
    cases a <;> cases b <;> simp
  rw [not_readsComment_iff]
  simp only [nodeOf, Node.mk.injEq, kind_uncommented, type_uncommented, label_uncommented,
    text_uncommented, operator?_uncommented, target, addresses, name?_uncommented,
    detail_uncommented_eq_iff, true_and]
  rw [and_comm]
  refine and_congr_right fun _ => ?_
  by_cases h : t.kind source = .importDecl ∧ t.type = "call_expression"
  · rw [if_pos h, if_pos h, List.append_right_inj, required]
    exact ⟨fun he _ => he, fun he => he h⟩
  · rw [if_neg h, if_neg h]
    exact ⟨fun _ hn => absurd hn h, fun _ => rfl⟩

theorem fold_of_isComment {source : Source} {t : ParseTree} (h : t.isComment) :
    fold source t = [] := by
  obtain ⟨n, cs⟩ := t
  simp [fold, h]

end SyntaxTree

namespace Outline

open DesignLint.Tree ParseTree

mutual
theorem fold_uncommented (source : Source) (above : List ParseTree) (address : List Nat) :
    ∀ t : ParseTree, SyntaxTree.fold source t.uncommented =
      mapAll (fun s => SyntaxTree.nodeOf source (uncommented s.tree))
        (gather (locate above address t))
  | .node n cs => by
    have ho : ParseTree.isOpen (.node n (uncommentedAll cs)) = ParseTree.isOpen (.node n cs) := rfl
    have hw : ParseTree.isWrapper (.node n (uncommentedAll cs)) =
      ParseTree.isWrapper (.node n cs) := rfl
    rw [uncommented, SyntaxTree.fold, foldAll_uncommented source (.node n cs :: above) address 0 cs,
      locate, gather, ← ParseTree.not_isOpen_node, ho, hw]
    by_cases ho : ParseTree.isOpen (.node n cs)
    · by_cases hw : ParseTree.isWrapper (.node n cs)
      · simp [ho, hw]
      · simp [ho, hw, mapAll, Tree.map, uncommented]
    · simp [ho, mapAll]

theorem foldAll_uncommented (source : Source) (above : List ParseTree) (address : List Nat)
    (i : Nat) :
    ∀ cs : List ParseTree, SyntaxTree.foldAll source (uncommentedAll cs) =
      mapAll (fun s => SyntaxTree.nodeOf source (uncommented s.tree))
        (gatherAll (locateAll above address i cs))
  | [] => rfl
  | c :: cs => by
    rw [uncommentedAll, locateAll, gatherAll, mapAll_append,
      ← fold_uncommented source above (i :: address) c,
      ← foldAll_uncommented source above address (i + 1) cs]
    by_cases h : isLooseComment c
    · have hc : isComment (uncommented c) := by simpa using isComment_of_isLooseComment h
      rw [if_pos h, SyntaxTree.fold_of_isComment hc, List.nil_append]
    · rw [if_neg h, SyntaxTree.foldAll]
end

theorem ofParse_uncommented (source : Source) (t : ParseTree) :
    SyntaxTree.ofParse source t.uncommented =
      (ofTree t).map fun s => SyntaxTree.nodeOf source (uncommented s.tree) := by
  obtain ⟨n, cs⟩ := t
  have hf := foldAll_uncommented source [.node n cs] [] 0 cs
  rw [uncommented, SyntaxTree.ofParse, ofTree, Tree.map, children, hf]
  rfl

theorem ofParse_uncommented_eq_iff (source : Source) (t : ParseTree) :
    SyntaxTree.ofParse source t.uncommented = SyntaxTree.ofParse source t ↔
      ∀ s ∈ t.spots.preorder, Place.isKept s → ¬ ReadsComment source s.tree := by
  rw [ofParse_uncommented, ofParse_eq_map, map_eq_map_iff, (isOutline_ofTree t).preorder]
  simp only [List.mem_filter, and_imp, label, SyntaxTree.nodeOf_uncommented_eq_iff]

def commentedInterface : ParseTree :=
  .node ⟨"program", 0, 29, true, none⟩ [
    .node ⟨"class_declaration", 0, 29, true, none⟩ [
      .node ⟨"class", 0, 5, false, none⟩ [],
      .node ⟨"type_identifier", 6, 7, true, some "name"⟩ [],
      .node ⟨"class_heritage", 8, 26, true, none⟩ [
        .node ⟨"implements_clause", 8, 26, true, none⟩ [
          .node ⟨"implements", 8, 18, false, none⟩ [],
          .node ⟨"comment", 19, 24, true, none⟩ [],
          .node ⟨"type_identifier", 25, 26, true, none⟩ []]],
      .node ⟨"class_body", 27, 29, true, some "body"⟩ [
        .node ⟨"\x7b", 27, 28, false, none⟩ [],
        .node ⟨"\x7d", 28, 29, false, none⟩ []]]]

def commentedInterfaceSource : Source :=
  Text.Utf8.encode "class A implements /*c*/ B \x7b\x7d"

theorem ofParse_uncommented_ne :
    SyntaxTree.ofParse commentedInterfaceSource commentedInterface.uncommented ≠
      SyntaxTree.ofParse commentedInterfaceSource commentedInterface := by
  intro h
  have hd := congrArg (fun t => t.preorder.map Node.detail) h
  revert hd
  decide +kernel

end Outline

end DesignLint
