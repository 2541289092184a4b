import DesignLint.Proofs.SyntaxTree.Readings

namespace DesignLint

namespace ParseTree

def fieldless (t : ParseTree) : ParseTree :=
  .node t.core t.children

def enclosedIn (w : ParseNode) (front back : List ParseTree) (t : ParseTree) : ParseTree :=
  .node { w with field := t.label.field } (front ++ t.fieldless :: back)

theorem width_fieldless (t : ParseTree) : t.fieldless.width = t.width := by
  obtain ⟨n, cs⟩ := t
  rw [fieldless, width, width]
  rfl

theorem core_unwrap?_fieldless (t : ParseTree) :
    (unwrap? t.fieldless).map core = (unwrap? t).map core := by
  obtain ⟨n, cs⟩ := t
  have hwrapper : isWrapper (fieldless (.node n cs)) = isWrapper (.node n cs) := rfl
  rw [fieldless] at hwrapper ⊢
  rw [unwrap?, unwrap?, hwrapper]
  split
  · rfl
  · rfl

theorem fold_fieldless (source : Source) (t : ParseTree) :
    SyntaxTree.fold source t.fieldless = SyntaxTree.fold source t := by
  obtain ⟨n, cs⟩ := t
  rw [fieldless, SyntaxTree.fold, SyntaxTree.fold]
  rfl

theorem isOpen_iff {t : ParseTree} :
    t.isOpen = true ↔ t.named = true ∧ t.isComment = false := by
  rw [isOpen, Bool.and_eq_true_iff, Bool.not_eq_true']

theorem width_of_closed {t : ParseTree} (h : t.isOpen = false) : t.width = 0 := by
  obtain ⟨n, cs⟩ := t
  rw [width, ← not_isOpen_node, h]
  rfl

theorem forestWidth_of_closed {cs : List ParseTree} (h : ∀ c ∈ cs, isOpen c = false) :
    forestWidth cs = 0 := by
  induction cs with
  | nil => rfl
  | cons c cs ih =>
    rw [forestWidth, width_of_closed (h c (by simp)), ih fun d hd => h d (by simp [hd])]

theorem fold_of_closed (source : Source) {t : ParseTree} (h : t.isOpen = false) :
    SyntaxTree.fold source t = [] := by
  obtain ⟨n, cs⟩ := t
  rw [SyntaxTree.fold, ← not_isOpen_node, h]
  rfl

theorem foldAll_of_closed (source : Source) {cs : List ParseTree}
    (h : ∀ c ∈ cs, isOpen c = false) : SyntaxTree.foldAll source cs = [] := by
  induction cs with
  | nil => rfl
  | cons c cs ih =>
    rw [SyntaxTree.foldAll, fold_of_closed source (h c (by simp)),
      ih fun d hd => h d (by simp [hd]), List.nil_append]

theorem foldAll_append (source : Source) (xs ys : List ParseTree) :
    SyntaxTree.foldAll source (xs ++ ys) =
      SyntaxTree.foldAll source xs ++ SyntaxTree.foldAll source ys := by
  induction xs with
  | nil => rfl
  | cons x xs ih =>
    rw [List.cons_append, SyntaxTree.foldAll, ih, SyntaxTree.foldAll, List.append_assoc]

section Enclosed

variable {w : ParseNode} {front back : List ParseTree} {t : ParseTree}

theorem isOpen_enclosedIn (hnamed : w.named = true) (hw : w.type ∈ wrapperTypes) :
    isOpen (enclosedIn w front back t) = true := by
  refine isOpen_iff.mpr ⟨hnamed, decide_eq_false fun he => ?_⟩
  change w.type = "comment" at he
  rw [he] at hw
  revert hw
  decide

theorem alike_enclosedIn (hnamed : w.named = true) (hw : w.type ∈ wrapperTypes)
    (hfront : ∀ b ∈ front, isOpen b = false) (hback : ∀ b ∈ back, isOpen b = false)
    (ht : t.isOpen = true) : Alike (enclosedIn w front back t) t := by
  have hwrapper : isWrapper (enclosedIn w front back t) = true := decide_eq_true hw
  have hopen : isOpen (enclosedIn w front back t) = true := isOpen_enclosedIn hnamed hw
  have hinner : isOpen t.fieldless = true := ht
  obtain ⟨hn, hc⟩ := isOpen_iff.mp ht
  obtain ⟨hn', hc'⟩ := isOpen_iff.mp hopen
  refine ⟨rfl, hn'.trans hn.symm, hc'.trans hc.symm, ?_, ?_⟩
  · rw [enclosedIn] at hwrapper hopen ⊢
    rw [width, ← not_isOpen_node, hopen, hwrapper, forestWidth_append, forestWidth,
      forestWidth_of_closed hfront, forestWidth_of_closed hback, width_fieldless]
    exact Nat.zero_add _
  · rw [enclosedIn] at hwrapper ⊢
    rw [unwrap?, hwrapper, if_pos rfl, unwrapFirst?_of_closed hfront hinner,
      core_unwrap?_fieldless]

theorem fold_enclosedIn (source : Source) (hnamed : w.named = true) (hw : w.type ∈ wrapperTypes)
    (hfront : ∀ b ∈ front, isOpen b = false) (hback : ∀ b ∈ back, isOpen b = false) :
    SyntaxTree.fold source (enclosedIn w front back t) = SyntaxTree.fold source t := by
  have hwrapper : isWrapper (enclosedIn w front back t) = true := decide_eq_true hw
  have hopen : isOpen (enclosedIn w front back t) = true := isOpen_enclosedIn hnamed hw
  rw [enclosedIn] at hwrapper hopen ⊢
  rw [SyntaxTree.fold, ← not_isOpen_node, hopen, hwrapper, foldAll_append, SyntaxTree.foldAll,
    foldAll_of_closed source hfront, foldAll_of_closed source hback, fold_fieldless]
  exact List.append_nil _

end Enclosed

section Swap

variable {source : Source} {n : ParseNode} {before after : List ParseTree} {a b : ParseTree}

theorem face_swap (h : b.label = a.label) :
    face (.node n (before ++ b :: after)) = face (.node n (before ++ a :: after)) := by
  simp only [face, Tree.children, List.map_append, List.map_cons, h]
  rfl

theorem find?_placed_swap {γ : Type} (g : ParseTree → γ) (h : Alike b a) {field : String}
    (hg : (∀ c ∈ before, holds field c = false) → holds field a = true → g b = g a) :
    ((placed 0 (before ++ b :: after)).find? fun e => holds field e.2).map (Prod.map id g) =
      ((placed 0 (before ++ a :: after)).find? fun e => holds field e.2).map (Prod.map id g) := by
  have hholds : holds field b = holds field a := by rw [holds, holds, h.field]
  rw [placed_append, placed_append, placed, placed, h.width, List.find?_append, List.find?_append]
  cases hfound : (placed 0 before).find? fun e => holds field e.2 with
  | some e => rfl
  | none =>
    have hbefore : ∀ c ∈ before, holds field c = false := by
      have hnone : none = before.find? (holds field) := by rw [← find?_placed 0, hfound]; rfl
      simpa using List.find?_eq_none.mp hnone.symm
    rw [List.find?_cons, List.find?_cons, hholds]
    cases ha : holds field a with
    | false => rfl
    | true => simp [hg hbefore ha]

theorem fieldChild?_swap {γ : Type} (g : ParseTree → γ) (h : Alike b a) {field : String}
    (hg : (∀ c ∈ before, holds field c = false) → holds field a = true → g b = g a) :
    (fieldChild? (.node n (before ++ b :: after)) field).map g =
      (fieldChild? (.node n (before ++ a :: after)) field).map g := by
  have hplaced (cs : List ParseTree) : (fieldChild? (.node n cs) field).map g =
      (((placed 0 cs).find? fun e => holds field e.2).map (Prod.map id g)).map Prod.snd := by
    rw [Option.map_map, fieldChild?, ← find?_placed 0, Option.map_map]
    rfl
  rw [hplaced, hplaced, find?_placed_swap g h hg]

theorem operator?_swap (h : Alike b a)
    (hfirst : ¬ ((∀ c ∈ before, holds "operator" c = false) ∧ holds "operator" a = true)) :
    operator? source (.node n (before ++ b :: after)) =
      operator? source (.node n (before ++ a :: after)) := by
  rw [operator?, operator?, fieldChild?_swap (text source) h fun hb ha => absurd ⟨hb, ha⟩ hfirst]
  rfl

theorem requiredAddress?_swap (h : Alike b a)
    (hface : (∀ c ∈ before, holds "arguments" c = false) → holds "arguments" a = true →
      b.face = a.face) :
    requiredAddress? (.node n (before ++ b :: after)) =
      requiredAddress? (.node n (before ++ a :: after)) := by
  have hswap : ((placed 0 (before ++ b :: after)).find? fun e => holds "arguments" e.2).map
        (Prod.map id face) =
      ((placed 0 (before ++ a :: after)).find? fun e => holds "arguments" e.2).map
        (Prod.map id face) := find?_placed_swap face h hface
  rw [requiredAddress?_eq, requiredAddress?_eq]
  change ((placed 0 (before ++ b :: after)).find? fun e => holds "arguments" e.2).bind _ =
    ((placed 0 (before ++ a :: after)).find? fun e => holds "arguments" e.2).bind _
  cases hb : (placed 0 (before ++ b :: after)).find? fun e => holds "arguments" e.2 with
  | none =>
    rw [hb] at hswap
    rw [Option.map_eq_none_iff.mp hswap.symm]
  | some e =>
    rw [hb] at hswap
    obtain ⟨d, hd, hde⟩ := Option.map_eq_some_iff.mp hswap.symm
    obtain ⟨hposition, hsame⟩ := Prod.mk.inj hde
    rw [hd, Option.bind_some, Option.bind_some, requiredIn?_of_face hsame d.1]
    exact congrArg (fun i => requiredIn? i _ _) hposition.symm

theorem heritage_append (n : ParseNode) (xs ys : List ParseTree) :
    heritage (.node n (xs ++ ys)) = heritage (.node n xs) ++ heritage (.node n ys) := by
  simp only [heritage, namedChildren, Tree.children, List.filter_append, List.flatMap_append]

theorem heritage_singleton (n : ParseNode) (t : ParseTree) :
    heritage (.node n [t]) =
      if t.named = true ∧ t.type = "class_heritage" then t.namedChildren else [] := by
  by_cases hn : t.named = true <;> by_cases ht : t.type = "class_heritage" <;>
    simp [heritage, namedChildren, Tree.children, hn, ht]

structure PartsAlike (source : Source) (xs ys : List ParseTree) : Prop where
  superclass : ∀ got, xs.foldl (superclassIn source) got = ys.foldl (superclassIn source) got
  interfaces : xs.flatMap (interfacesIn source) = ys.flatMap (interfacesIn source)

namespace PartsAlike

theorem refl (xs : List ParseTree) : PartsAlike source xs xs := ⟨fun _ => rfl, rfl⟩

theorem append {xs ys xs' ys' : List ParseTree} (h : PartsAlike source xs ys)
    (h' : PartsAlike source xs' ys') : PartsAlike source (xs ++ xs') (ys ++ ys') where
  superclass got := by
    rw [List.foldl_append, List.foldl_append, h.superclass, h'.superclass]
  interfaces := by
    rw [List.flatMap_append, List.flatMap_append, h.interfaces, h'.interfaces]

theorem of_face (h : b.face = a.face) : PartsAlike source [b] [a] where
  superclass got := superclassIn_of_face h source got
  interfaces := by
    rw [List.flatMap_singleton, List.flatMap_singleton, interfacesIn_of_face h]

theorem of_label (h : b.label = a.label) (hextends : a.type ≠ "extends_clause")
    (himplements : a.type ≠ "implements_clause") : PartsAlike source [b] [a] where
  superclass got := superclassIn_of_label h hextends source got
  interfaces := by
    rw [List.flatMap_singleton, List.flatMap_singleton, interfacesIn_of_label h himplements]

theorem namedChildren_swap (hnamed : b.named = a.named) (h : PartsAlike source [b] [a]) :
    PartsAlike source (namedChildren (.node n (before ++ b :: after)))
      (namedChildren (.node n (before ++ a :: after))) := by
  simp only [namedChildren, Tree.children, List.filter_append, List.filter_cons, hnamed]
  refine (refl _).append ?_
  split
  · exact h.append (refl _)
  · exact refl _

theorem heritage_swap (hlabel : b.label = a.label)
    (h : a.type = "class_heritage" → PartsAlike source b.namedChildren a.namedChildren) :
    PartsAlike source (heritage (.node n (before ++ b :: after)))
      (heritage (.node n (before ++ a :: after))) := by
  have hnamed : b.named = a.named := congrArg ParseNode.named hlabel
  have htype : b.type = a.type := congrArg ParseNode.type hlabel
  rw [List.append_cons, List.append_cons before a]
  simp only [heritage_append, heritage_singleton, hnamed, htype]
  refine ((refl _).append ?_).append (refl _)
  split
  · next hclause => exact h hclause.2
  · exact refl _

end PartsAlike

theorem foldAll_swap (h : SyntaxTree.fold source b = SyntaxTree.fold source a) :
    SyntaxTree.foldAll source (before ++ b :: after) =
      SyntaxTree.foldAll source (before ++ a :: after) := by
  rw [foldAll_append, foldAll_append, SyntaxTree.foldAll, SyntaxTree.foldAll, h]

theorem specifiers_swap (h : Alike b a) (hlabel : b.label = a.label)
    (hclause : a.type ≠ "import_clause") :
    specifiers source (.node n (before ++ b :: after)) =
      specifiers source (.node n (before ++ a :: after)) := by
  have htype : b.type = a.type := congrArg ParseNode.type hlabel
  have hkeyword : hasTypeKeyword (.node n (before ++ b :: after)) =
      hasTypeKeyword (.node n (before ++ a :: after)) :=
    hasTypeKeyword_of_labels (Prod.mk.inj (face_swap hlabel)).2
  have hplaced : (placedNamed (.node n (before ++ b :: after))).filter
        (fun e => e.2.type = "import_clause") =
      (placedNamed (.node n (before ++ a :: after))).filter
        fun e => e.2.type = "import_clause" := by
    simp only [placedNamed, Tree.children, List.filter_filter, placed_append, placed, h.width]
    simp only [List.filter_append, List.filter_cons, htype, hclause, decide_false, Bool.false_and,
      Bool.false_eq_true, if_false]
  rw [specifiers, specifiers, hplaced, hkeyword]

theorem readsAlike_swap_of_label (h : Alike b a) (hlabel : b.label = a.label)
    (harguments : n.type = "call_expression" → (∀ c ∈ before, holds "arguments" c = false) →
      holds "arguments" a = true → b.face = a.face)
    (hheritage : a.type = "class_heritage" → PartsAlike source b.namedChildren a.namedChildren)
    (hclause : n.type = "import_statement" → a.type ≠ "import_clause") :
    ReadsAlike source (.node n (before ++ b :: after)) (.node n (before ++ a :: after)) where
  label := rfl
  links := coreLinks_congr rfl (core_linked?_swap h)
  operator := operator?_of_face (face_swap hlabel) source
  module hcall := by
    rw [requiredModule?_eq, requiredModule?_eq, fieldChild?_swap face h (harguments hcall),
      fieldChild?_swap Tree.label h fun _ _ => hlabel]
  address hcall := requiredAddress?_swap h (harguments hcall)
  superclass _ := (PartsAlike.heritage_swap hlabel hheritage).superclass none
  interfaces _ := (PartsAlike.heritage_swap hlabel hheritage).interfaces
  keyword _ := hasTypeKeyword_of_labels (Prod.mk.inj (face_swap hlabel)).2
  specifiers himport := specifiers_swap h hlabel (hclause himport)

theorem readsAlike_swap (h : Alike b a) (hcall : n.type ≠ "call_expression")
    (hclass : Kind.ofType n.type ≠ .classDecl) (himport : n.type ≠ "import_statement")
    (hoperator : ¬ ((∀ c ∈ before, holds "operator" c = false) ∧ holds "operator" a = true)) :
    ReadsAlike source (.node n (before ++ b :: after)) (.node n (before ++ a :: after)) where
  label := rfl
  links := coreLinks_congr rfl (core_linked?_swap h)
  operator := operator?_swap h hoperator
  module he := absurd he hcall
  address he := absurd he hcall
  superclass he := absurd he hclass
  interfaces he := absurd he hclass
  keyword he := absurd he himport
  specifiers he := absurd he himport

end Swap

end ParseTree

namespace Place

structure Enclosable (p c : Place) : Prop where
  child : c.parent? = some p
  solid : ParseTree.isOpen c.tree = true
  operator : p.fieldChild? "operator" ≠ some c
  call : ParseTree.type p.tree ≠ "call_expression"
  arguments : ∀ q : Place, p.parent? = some q → ParseTree.type q.tree = "call_expression" →
    q.fieldChild? "arguments" ≠ some p
  classLike : Kind.ofType (ParseTree.type p.tree) ≠ .classDecl
  heritage : ParseTree.type p.tree ∉ ["class_heritage", "extends_clause", "implements_clause"]
  statement : ParseTree.type p.tree ≠ "import_statement"
  clause : ∀ a ∈ p :: p.ancestors, ∀ q, a.parent? = some q →
    ParseTree.type q.tree = "import_statement" → ParseTree.type a.tree ≠ "import_clause"

section Put

variable {source : Source} {x y p c : Place} {i : Nat} {path : List Nat} {u : ParseTree}

theorem alike_put (h : x.follow path = some c) (hu : ParseTree.Alike u c.tree) :
    ParseTree.Alike (x.tree.put path u) x.tree := by
  induction path generalizing x with
  | nil =>
    obtain rfl := Option.some.inj h
    exact hu
  | cons i rest ih =>
    obtain ⟨y, hy, hrest⟩ := Option.bind_eq_some_iff.mp h
    obtain ⟨before, after, -, htree, hput⟩ := Tree.exists_put hy rest u
    rw [hput, htree]
    exact (ih hrest).swap

theorem face_put (h : x.follow (i :: path) = some c) (hpath : path ≠ []) :
    ParseTree.face (x.tree.put (i :: path) u) = ParseTree.face x.tree := by
  obtain ⟨y, hy, hrest⟩ := Option.bind_eq_some_iff.mp h
  obtain ⟨before, after, -, htree, hput⟩ := Tree.exists_put hy path u
  rw [hput, htree]
  exact ParseTree.face_swap (Tree.label_put hpath y.tree u)

theorem fieldChild?_eq_of_first {field : String} {before after : List ParseTree}
    (hy : x.child? before.length = some y)
    (htree : x.tree = .node x.label (before ++ y.tree :: after))
    (hbefore : ∀ b ∈ before, ParseTree.holds field b = false)
    (hfield : ParseTree.holds field y.tree = true) : x.fieldChild? field = some y := by
  obtain ⟨d, -, rfl⟩ := Spot.child?_eq_some_iff.mp hy
  refine (Spot.find?_children_eq_some_iff (ParseTree.holds field)).mpr
    ⟨before, d, after, ?_, hfield, hbefore, rfl⟩
  rw [htree]
  rfl

theorem eq_of_follow_singleton (he : Enclosable p c) (h : x.follow [i] = some c) : x = p := by
  rw [Spot.follow_singleton] at h
  exact Option.some.inj ((Spot.parent?_of_child? h).symm.trans he.child)

theorem mem_ancestors_of_follow (he : Enclosable p c) (h : x.follow (i :: path) = some c) :
    x ∈ p :: p.ancestors := by
  obtain ⟨between, hbetween⟩ := Spot.exists_ancestors_of_follow_cons h
  rw [← Spot.ancestors_of_parent? he.child, hbetween]
  simp

theorem partsAlike_put (he : Enclosable p c) (h : x.follow (i :: path) = some c)
    (htype : ParseTree.type x.tree = "class_heritage") :
    ParseTree.PartsAlike source (ParseTree.namedChildren (x.tree.put (i :: path) u))
      (ParseTree.namedChildren x.tree) := by
  obtain ⟨y, hy, hpath⟩ := Option.bind_eq_some_iff.mp h
  obtain ⟨before, after, -, htree, hput⟩ := Tree.exists_put hy path u
  rw [hput, htree]
  cases path with
  | nil =>
    obtain rfl := eq_of_follow_singleton he h
    exact absurd htype fun hclause => he.heritage (by simp [hclause])
  | cons j rest =>
    have hlabel := Tree.label_put (List.cons_ne_nil j rest) y.tree u
    refine ParseTree.PartsAlike.namedChildren_swap (congrArg ParseNode.named hlabel) ?_
    cases rest with
    | nil =>
      obtain rfl := eq_of_follow_singleton he hpath
      refine .of_label hlabel (fun hclause => he.heritage ?_) fun hclause => he.heritage ?_
      · simp [hclause]
      · simp [hclause]
    | cons k rest => exact .of_face (face_put hpath (List.cons_ne_nil k rest))

-- Only the holder of the enclosed node sees another label below it, and only the holder of that one
-- has a child whose children have other labels.
theorem readsAlike_put (source : Source) (he : Enclosable p c) (h : x.follow (i :: path) = some c)
    (hu : ParseTree.Alike u c.tree) :
    ParseTree.ReadsAlike source (x.tree.put (i :: path) u) x.tree := by
  obtain ⟨y, hy, hpath⟩ := Option.bind_eq_some_iff.mp h
  obtain ⟨before, after, rfl, htree, hput⟩ := Tree.exists_put hy path u
  have halike : ParseTree.Alike (y.tree.put path u) y.tree := alike_put hpath hu
  have hparent : y.parent? = some x := Spot.parent?_of_child? hy
  rw [hput, htree]
  cases path with
  | nil =>
    obtain rfl := Option.some.inj hpath
    obtain rfl := eq_of_follow_singleton he h
    refine ParseTree.readsAlike_swap halike he.call he.classLike he.statement ?_
    rintro ⟨hbefore, hfield⟩
    exact he.operator (fieldChild?_eq_of_first hy htree hbefore hfield)
  | cons j rest =>
    have hlabel := Tree.label_put (List.cons_ne_nil j rest) y.tree u
    refine ParseTree.readsAlike_swap_of_label halike hlabel (fun hcall hbefore hfield => ?_)
      (partsAlike_put he hpath) fun himport => ?_
    · refine face_put hpath ?_
      rintro rfl
      obtain rfl := eq_of_follow_singleton he hpath
      exact he.arguments x hparent hcall (fieldChild?_eq_of_first hy htree hbefore hfield)
    · exact he.clause y (mem_ancestors_of_follow he hpath) x hparent himport

theorem fold_put (he : Enclosable p c) (h : x.follow path = some c)
    (hu : ParseTree.Alike u c.tree)
    (hfold : SyntaxTree.fold source u = SyntaxTree.fold source c.tree) :
    SyntaxTree.fold source (x.tree.put path u) = SyntaxTree.fold source x.tree := by
  induction path generalizing x with
  | nil =>
    obtain rfl := Option.some.inj h
    exact hfold
  | cons i rest ih =>
    have hnode := (readsAlike_put source he h hu).nodeOf
    obtain ⟨y, hy, hrest⟩ := Option.bind_eq_some_iff.mp h
    obtain ⟨before, after, -, htree, hput⟩ := Tree.exists_put hy rest u
    rw [hput, htree] at hnode ⊢
    rw [SyntaxTree.fold, SyntaxTree.fold, hnode, ParseTree.foldAll_swap (ih hrest)]
    rfl

theorem ofParse_put {t : ParseTree} (hc : c ∈ t.spots.preorder) (he : Enclosable p c)
    (hu : ParseTree.Alike u c.tree)
    (hfold : SyntaxTree.fold source u = SyntaxTree.fold source c.tree) :
    SyntaxTree.ofParse source (t.put c.address.reverse u) = SyntaxTree.ofParse source t := by
  have hroot := Tree.mem_spots_iff.mp hc
  cases hpath : c.address.reverse with
  | nil =>
    rw [hpath] at hroot
    obtain rfl := Option.some.inj hroot
    cases he.child
  | cons i path =>
    rw [hpath] at hroot
    have hnode := (readsAlike_put source he hroot hu).nodeOf
    obtain ⟨y, hy, hrest⟩ := Option.bind_eq_some_iff.mp hroot
    obtain ⟨before, after, -, htree, hput⟩ := Tree.exists_put hy path u
    change SyntaxTree.ofParse source ((Spot.root t).tree.put (i :: path) u) =
      SyntaxTree.ofParse source (Spot.root t).tree
    rw [hput, htree] at hnode ⊢
    rw [SyntaxTree.ofParse, SyntaxTree.ofParse, hnode]
    exact congrArg (Tree.node _) (ParseTree.foldAll_swap (fold_put he hrest hu hfold))

end Put

end Place

theorem SyntaxTree.ofParse_enclosed (source : Source) {t : ParseTree} {p c : Place} {w : ParseNode}
    {front back : List ParseTree} (hc : c ∈ t.spots.preorder) (he : p.Enclosable c)
    (hnamed : w.named = true) (hw : w.type ∈ ParseTree.wrapperTypes)
    (hfront : ∀ b ∈ front, ParseTree.isOpen b = false)
    (hback : ∀ b ∈ back, ParseTree.isOpen b = false) :
    ofParse source (t.put c.address.reverse (ParseTree.enclosedIn w front back c.tree)) =
      ofParse source t :=
  Place.ofParse_put hc he (ParseTree.alike_enclosedIn hnamed hw hfront hback he.solid)
    (ParseTree.fold_enclosedIn source hnamed hw hfront hback)

def bareCondition : ParseTree :=
  .node ⟨"if_statement", 0, 14, true, none⟩ [
    .node ⟨"if", 0, 2, false, none⟩ [],
    .node ⟨"comment", 3, 7, true, none⟩ [],
    .node ⟨"identifier", 9, 10, true, some "condition"⟩ [],
    .node ⟨"statement_block", 12, 14, true, some "consequence"⟩ []]

def bareConditionSource : Source :=
  "if /**/ (a) {}".toUTF8.toList

theorem Place.enclosable_bareCondition :
    Enclosable (.root bareCondition)
      ⟨.node ⟨"identifier", 9, 10, true, some "condition"⟩ [], [bareCondition], [2]⟩ where
  child := rfl
  solid := rfl
  operator h := by
    have hnone : fieldChild? (.root bareCondition) "operator" = none := rfl
    rw [hnone] at h
    cases h
  call := by decide
  arguments _ h := nomatch h
  classLike := by decide
  heritage := by decide
  statement := by decide
  clause a ha q hq := by
    obtain rfl := List.mem_singleton.mp ha
    cases hq

theorem SyntaxTree.ofParse_enclosed_bareCondition :
    ofParse bareConditionSource (bareCondition.put [2]
        (ParseTree.enclosedIn ⟨"parenthesized_expression", 8, 11, true, none⟩
          [.node ⟨"(", 8, 9, false, none⟩ []] [.node ⟨")", 10, 11, false, none⟩ []]
          (.node ⟨"identifier", 9, 10, true, some "condition"⟩ []))) =
      ofParse bareConditionSource bareCondition :=
  ofParse_enclosed bareConditionSource (Tree.mem_spots_iff.mpr rfl) Place.enclosable_bareCondition
    rfl (by decide) (by decide) (by decide)

end DesignLint
