import DesignLint.Proofs.SyntaxTree.Outline

namespace DesignLint.ParseTree

def isLooseComment (t : ParseTree) : Bool :=
  t.isComment && t.label.field.isNone

mutual
def uncommented : ParseTree → ParseTree
  | .node n cs => .node n (uncommentedAll cs)

def uncommentedAll : List ParseTree → List ParseTree
  | [] => []
  | c :: cs =>
    if isLooseComment c then uncommentedAll cs else uncommented c :: uncommentedAll cs
end

theorem uncommentedAll_eq (cs : List ParseTree) :
    uncommentedAll cs = (cs.filter fun c => !isLooseComment c).map uncommented := by
  induction cs with
  | nil => rfl
  | cons c cs ih => by_cases h : c.isLooseComment <;> simp [uncommentedAll, h, ih]

theorem children_uncommented (t : ParseTree) :
    t.uncommented.children = (t.children.filter fun c => !isLooseComment c).map uncommented := by
  obtain ⟨n, cs⟩ := t
  rw [uncommented, Tree.children, Tree.children, uncommentedAll_eq]

@[simp] theorem label_uncommented (t : ParseTree) : t.uncommented.label = t.label := by
  obtain ⟨n, cs⟩ := t
  rw [uncommented, Tree.label, Tree.label]

@[simp] theorem type_uncommented (t : ParseTree) : t.uncommented.type = t.type := by
  rw [type, type, label_uncommented]

@[simp] theorem named_uncommented (t : ParseTree) : t.uncommented.named = t.named := by
  rw [named, named, label_uncommented]

@[simp] theorem text_uncommented (source : Source) (t : ParseTree) :
    t.uncommented.text source = t.text source := by
  rw [text, text, label_uncommented]

@[simp] theorem isComment_uncommented (t : ParseTree) :
    t.uncommented.isComment = t.isComment := by
  rw [isComment, isComment, type_uncommented]

@[simp] theorem isWrapper_uncommented (t : ParseTree) :
    t.uncommented.isWrapper = t.isWrapper := by
  rw [isWrapper, isWrapper, type_uncommented]

@[simp] theorem isOpen_uncommented (t : ParseTree) : t.uncommented.isOpen = t.isOpen := by
  rw [isOpen, isOpen, named_uncommented, isComment_uncommented]

@[simp] theorem isLooseComment_uncommented (t : ParseTree) :
    t.uncommented.isLooseComment = t.isLooseComment := by
  rw [isLooseComment, isLooseComment, isComment_uncommented, label_uncommented]

theorem isComment_of_isLooseComment {t : ParseTree} (h : t.isLooseComment) : t.isComment := by
  rw [isLooseComment, Bool.and_eq_true] at h
  exact h.1

theorem not_isLooseComment_of_field {t : ParseTree} {field : String}
    (h : t.label.field = some field) : t.isLooseComment = false := by
  simp [isLooseComment, h]

theorem not_isLooseComment_of_type {t : ParseTree} {type : String} (h : t.type = type)
    (hne : type ≠ "comment") : t.isLooseComment = false := by
  simp [isLooseComment, isComment, h, hne]

theorem decide_type_and_not_isLooseComment {type : String} (hne : type ≠ "comment")
    (t : ParseTree) :
    (decide (t.type = type) && !isLooseComment t) = decide (t.type = type) := by
  by_cases h : t.type = type
  · simp [h, not_isLooseComment_of_type h hne]
  · simp [h]

theorem namedChildren_uncommented (t : ParseTree) :
    t.uncommented.namedChildren =
      (t.namedChildren.filter fun c => !isLooseComment c).map uncommented := by
  rw [namedChildren, namedChildren, children_uncommented, List.filter_map, List.filter_filter,
    List.filter_filter]
  simp [Bool.and_comm]

-- A test that no loose comment passes finds the same child.
theorem find?_uncommented {p : ParseTree → Bool} (hu : ∀ c, p (uncommented c) = p c)
    (hl : ∀ c, p c → c.isLooseComment = false) (cs : List ParseTree) :
    ((cs.filter fun c => !isLooseComment c).map uncommented).find? p =
      (cs.find? p).map uncommented := by
  rw [List.find?_map, List.find?_filter]
  congr 2
  funext c
  have := hl c
  cases h : p c <;> simp_all

theorem fieldChild?_uncommented (t : ParseTree) (field : String) :
    t.uncommented.fieldChild? field = (t.fieldChild? field).map uncommented := by
  rw [fieldChild?, fieldChild?, children_uncommented]
  refine find?_uncommented (by simp) (fun c hc => ?_) t.children
  exact not_isLooseComment_of_field (of_decide_eq_true hc)

theorem operator?_uncommented (source : Source) (t : ParseTree) :
    operator? source t.uncommented = operator? source t := by
  simp [operator?, fieldChild?_uncommented, Function.comp_def]

theorem requiredModule?_uncommented (source : Source) (t : ParseTree) :
    requiredModule? source t.uncommented = requiredModule? source t := by
  have hargs (args : ParseTree) : args.uncommented.namedChildren.filter (fun c => !isComment c) =
      (args.namedChildren.filter (fun c => !isComment c)).map uncommented := by
    rw [namedChildren_uncommented, List.filter_map, List.filter_filter]
    congr 1
    refine List.filter_congr fun c _ => ?_
    have := @isComment_of_isLooseComment c
    cases h : c.isLooseComment <;> simp_all
  rw [requiredModule?, requiredModule?, fieldChild?_uncommented, fieldChild?_uncommented]
  cases t.fieldChild? "function" with
  | none => rfl
  | some function =>
    rw [Option.map_some, Option.bind_eq_bind, Option.bind_some, Option.bind_eq_bind,
      Option.bind_some, type_uncommented, text_uncommented]
    congr 1
    funext _
    cases t.fieldChild? "arguments" with
    | none => rfl
    | some args =>
      rw [Option.map_some, Option.bind_some, Option.bind_some, hargs]
      generalize args.namedChildren.filter (fun c => !isComment c) = found
      rcases found with _ | ⟨arg, _ | ⟨next, rest⟩⟩ <;> simp

theorem kind_uncommented (source : Source) (t : ParseTree) :
    kind source t.uncommented = kind source t := by
  rw [kind, kind, type_uncommented, operator?_uncommented, requiredModule?_uncommented]

theorem width_of_isComment {t : ParseTree} (h : t.isComment) : width t = 0 := by
  obtain ⟨n, cs⟩ := t
  simp [width, h]

mutual
theorem width_uncommented : ∀ t : ParseTree, width t.uncommented = width t
  | .node n cs => by
    have hc : isComment (.node n (uncommentedAll cs)) = isComment (.node n cs) := rfl
    have hw : isWrapper (.node n (uncommentedAll cs)) = isWrapper (.node n cs) := rfl
    rw [uncommented, width, width, forestWidth_uncommentedAll cs, hc, hw]

theorem forestWidth_uncommentedAll :
    ∀ cs : List ParseTree, forestWidth (uncommentedAll cs) = forestWidth cs
  | [] => rfl
  | c :: cs => by
    rw [uncommentedAll, forestWidth]
    split
    · next h =>
      rw [forestWidth_uncommentedAll cs, width_of_isComment (isComment_of_isLooseComment h),
        Nat.zero_add]
    · rw [forestWidth, width_uncommented c, forestWidth_uncommentedAll cs]
end

theorem placed_uncommented (i : Nat) (cs : List ParseTree) :
    placed i (uncommentedAll cs) =
      ((placed i cs).filter fun e => !isLooseComment e.2).map fun e => (e.1, uncommented e.2) := by
  induction cs generalizing i with
  | nil => rfl
  | cons c cs ih =>
    rw [uncommentedAll, placed]
    by_cases h : isLooseComment c
    · have hw := width_of_isComment (isComment_of_isLooseComment h)
      rw [if_pos h, ih, List.filter_cons_of_neg (by simp [h]), hw, Nat.add_zero]
    · rw [if_neg h, placed, ih, width_uncommented, List.filter_cons_of_pos (by simp [h]),
        List.map_cons]

theorem placed_children_uncommented (t : ParseTree) :
    placed 0 t.uncommented.children =
      ((placed 0 t.children).filter fun e => !isLooseComment e.2).map
        fun e => (e.1, uncommented e.2) := by
  obtain ⟨n, cs⟩ := t
  exact placed_uncommented 0 cs

theorem placedNamed_uncommented (t : ParseTree) :
    t.uncommented.placedNamed =
      (t.placedNamed.filter fun e => !isLooseComment e.2).map fun e => (e.1, uncommented e.2) := by
  rw [placedNamed, placedNamed, placed_children_uncommented, List.filter_map, List.filter_filter,
    List.filter_filter]
  simp [Bool.and_comm]

theorem find?_placed_uncommented (t : ParseTree) (field : String) :
    (placed 0 t.uncommented.children).find? (fun e => e.2.label.field = some field) =
      ((placed 0 t.children).find? fun e => e.2.label.field = some field).map
        fun e => (e.1, uncommented e.2) := by
  rw [placed_children_uncommented, List.find?_map, List.find?_filter]
  congr 2
  funext e
  have := @not_isLooseComment_of_field e.2 field
  by_cases h : e.2.label.field = some field <;> simp_all

mutual
theorem unwrap?_uncommented : ∀ t : ParseTree, unwrap? t.uncommented = (unwrap? t).map uncommented
  | .node n cs => by
    have hw : isWrapper (.node n (uncommentedAll cs)) = isWrapper (.node n cs) := rfl
    rw [uncommented, unwrap?, unwrap?, unwrapFirst?_uncommentedAll cs, hw]
    split
    · rfl
    · rw [Option.map_some, uncommented]

theorem unwrapFirst?_uncommentedAll :
    ∀ cs : List ParseTree, unwrapFirst? (uncommentedAll cs) = (unwrapFirst? cs).map uncommented
  | [] => rfl
  | c :: cs => by
    rw [uncommentedAll, unwrapFirst?]
    by_cases h : isLooseComment c
    · have hc := isComment_of_isLooseComment h
      simp [h, hc, unwrapFirst?_uncommentedAll cs]
    · rw [if_neg h, unwrapFirst?, named_uncommented, isComment_uncommented,
        unwrap?_uncommented c, unwrapFirst?_uncommentedAll cs]
      split <;> rfl
end

theorem linked?_uncommented (t : ParseTree) (field : String) :
    linked? t.uncommented field =
      (linked? t field).map fun e => (e.1, uncommented e.2) := by
  rw [linked?, linked?, find?_placed_uncommented]
  cases (placed 0 t.children).find? fun e => e.2.label.field = some field with
  | none => rfl
  | some e =>
    obtain ⟨i, c⟩ := e
    simp only [Option.map_some, named_uncommented, unwrap?_uncommented]
    cases unwrap? c with
    | none => simp
    | some d =>
      by_cases hd : d.isComment <;> by_cases hn : c.named <;> simp [hd, hn, Option.filter_some]

theorem lookup_map {α β γ : Type} [BEq α] (f : β → γ) (key : α) (table : List (α × β)) :
    (table.map fun e => (e.1, f e.2)).lookup key = (table.lookup key).map f := by
  induction table with
  | nil => rfl
  | cons e rest ih =>
    obtain ⟨k, v⟩ := e
    cases h : key == k <;> simp [List.lookup_cons, h, ih]

theorem links_uncommented (t : ParseTree) :
    t.uncommented.links = t.links.map fun e => (e.1, e.2.1, uncommented e.2.2) := by
  symm
  rw [links, links, type_uncommented]
  refine (List.foldl_hom (List.map _) fun got e => ?_).symm
  obtain ⟨role, field⟩ := e
  simp only [linked?_uncommented, lookup_map (fun e : Nat × ParseTree => (e.1, uncommented e.2)),
    Option.isSome_map]
  split
  · rfl
  · cases linked? t field <;> simp

theorem hasTypeKeyword_uncommented (t : ParseTree) :
    t.uncommented.hasTypeKeyword = t.hasTypeKeyword := by
  rw [hasTypeKeyword, hasTypeKeyword, children_uncommented, List.any_map, List.any_filter]
  congr 1
  funext c
  by_cases h : c.type = "type"
  · simp [h, not_isLooseComment_of_type h]
  · simp [h]

theorem flatMap_filter_of_nil {α β : Type} {p : α → Bool} {f : α → List β}
    (h : ∀ a, p a = false → f a = []) (l : List α) : (l.filter p).flatMap f = l.flatMap f := by
  induction l with
  | nil => rfl
  | cons a l ih => cases ha : p a <;> simp [ha, ih, h]

theorem filter_placedNamed_uncommented (t : ParseTree) {type : String} (hne : type ≠ "comment") :
    t.uncommented.placedNamed.filter (fun e => e.2.type = type) =
      (t.placedNamed.filter fun e => e.2.type = type).map fun e => (e.1, uncommented e.2) := by
  rw [placedNamed_uncommented, List.filter_map, List.filter_filter]
  congr 1
  refine List.filter_congr fun e _ => ?_
  simp only [Function.comp_def, type_uncommented, decide_type_and_not_isLooseComment hne]

theorem namedSpecifier?_uncommented (source : Source) (typeOnly : Bool) (address : List Nat)
    (t : ParseTree) :
    namedSpecifier? source typeOnly address t.uncommented =
      namedSpecifier? source typeOnly address t := by
  simp [namedSpecifier?, fieldChild?_uncommented, hasTypeKeyword_uncommented, Function.comp_def]

theorem specifiersIn_of_isLooseComment {source : Source} {typeOnly : Bool} {address : List Nat}
    {t : ParseTree} (h : t.isLooseComment) : specifiersIn source typeOnly address t = [] := by
  have hc : t.type = "comment" := of_decide_eq_true (isComment_of_isLooseComment h)
  simp [specifiersIn, hc]

theorem specifiersIn_uncommented (source : Source) (typeOnly : Bool) (address : List Nat)
    (t : ParseTree) :
    specifiersIn source typeOnly address t.uncommented =
      specifiersIn source typeOnly address t := by
  have named : t.uncommented.placedNamed.filterMap (fun e =>
        namedSpecifier? source typeOnly (address ++ [e.1]) e.2) =
      t.placedNamed.filterMap fun e => namedSpecifier? source typeOnly (address ++ [e.1]) e.2 := by
    rw [placedNamed_uncommented, List.filterMap_map, List.filterMap_filter]
    congr 1
    funext e
    by_cases h : isLooseComment e.2
    · have hc : e.2.type = "comment" := of_decide_eq_true (isComment_of_isLooseComment h)
      simp [h, namedSpecifier?, hc]
    · simp [h, namedSpecifier?_uncommented]
  rw [specifiersIn, specifiersIn, filter_placedNamed_uncommented t (by decide), named]
  simp [Function.comp_def]

theorem specifiers_uncommented (source : Source) (t : ParseTree) :
    specifiers source t.uncommented = specifiers source t := by
  rw [specifiers, specifiers, filter_placedNamed_uncommented t (by decide),
    hasTypeKeyword_uncommented, List.flatMap_map]
  congr 1
  funext e
  obtain ⟨i, clause⟩ := e
  simp only [placedNamed_uncommented, List.flatMap_map, specifiersIn_uncommented]
  exact flatMap_filter_of_nil (fun d hd => specifiersIn_of_isLooseComment (by simpa using hd)) _

theorem importOf_uncommented (source : Source) (t : ParseTree) (nameNode : Option ParseTree) :
    importOf source t.uncommented (nameNode.map uncommented) = importOf source t nameNode := by
  simp [importOf, requiredModule?_uncommented, specifiers_uncommented, hasTypeKeyword_uncommented,
    Function.comp_def]

theorem name?_uncommented (source : Source) (t : ParseTree) (target : Role → Option ParseTree) :
    name? source t.uncommented (fun role => (target role).map uncommented) =
      name? source t target := by
  simp [name?, kind_uncommented, importOf_uncommented, Function.comp_def]

theorem heritage_uncommented (t : ParseTree) :
    t.uncommented.heritage =
      (t.heritage.filter fun c => !isLooseComment c).map uncommented := by
  have hs : t.uncommented.namedChildren.filter (fun c => c.type = "class_heritage") =
      (t.namedChildren.filter fun c => c.type = "class_heritage").map uncommented := by
    rw [namedChildren_uncommented, List.filter_map, List.filter_filter]
    congr 1
    refine List.filter_congr fun c _ => ?_
    simp only [Function.comp_def, type_uncommented]
    exact decide_type_and_not_isLooseComment (by decide) c
  rw [heritage, heritage, hs, List.flatMap_map, List.filter_flatMap, List.map_flatMap]
  simp only [namedChildren_uncommented]

end DesignLint.ParseTree
