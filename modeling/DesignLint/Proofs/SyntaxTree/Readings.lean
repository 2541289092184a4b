import DesignLint.Proofs.SyntaxTree.Fields

namespace DesignLint

namespace Kind

theorem mem_table_of_ofType {type : String} {kind : Kind} (h : ofType type = kind)
    (hother : kind ≠ other) : (type, kind) ∈ table := by
  rw [ofType] at h
  cases hl : table.lookup type with
  | none =>
    rw [hl] at h
    exact absurd h.symm hother
  | some k =>
    rw [hl] at h
    obtain ⟨before, after, hsplit, -⟩ := List.lookup_eq_some_iff.mp hl
    rw [hsplit]
    simp [← h]

theorem type_of_call {type : String} (h : ofType type = call) : type = "call_expression" := by
  have htable : ∀ e ∈ table, e.2 = call → e.1 = "call_expression" := by decide
  exact htable _ (mem_table_of_ofType h (by decide)) rfl

theorem type_of_importDecl {type : String} (h : ofType type = importDecl) :
    type = "import_statement" := by
  have htable : ∀ e ∈ table, e.2 = importDecl → e.1 = "import_statement" := by decide
  exact htable _ (mem_table_of_ofType h (by decide)) rfl

end Kind

namespace ParseTree

def face (t : ParseTree) : ParseNode × List ParseNode :=
  (t.label, t.children.map Tree.label)

def core (t : ParseTree) : ParseNode :=
  { t.label with field := none }

theorem text_eq (source : Source) :
    text source = (fun n : ParseNode => source.slice n.start n.stop) ∘ Tree.label := rfl

theorem label_fieldChild? (t : ParseTree) (field : String) :
    (t.fieldChild? field).map Tree.label =
      (t.children.map Tree.label).find? fun n => n.field = some field := by
  rw [fieldChild?, List.find?_map]
  rfl

theorem labels_namedChildren (t : ParseTree) :
    t.namedChildren.map Tree.label = (t.children.map Tree.label).filter (·.named) := by
  rw [namedChildren, List.filter_map]
  rfl

def literal? (source : Source) (ns : List ParseNode) : Option String :=
  match ns.filter fun n => !(n.type = "comment" : Bool) with
  | [n] => if n.type = "string" then some (stripQuotes (source.slice n.start n.stop)) else none
  | _ => none

theorem literal?_face (source : Source) (t : ParseTree) :
    literal? source (t.face.2.filter (·.named)) =
      match t.namedChildren.filter (!·.isComment) with
      | [arg] => if arg.type = "string" then some (stripQuotes (arg.text source)) else none
      | _ => none := by
  have hlabels : (t.face.2.filter (·.named)).filter (fun n => !(n.type = "comment" : Bool)) =
      (t.namedChildren.filter (!isComment ·)).map Tree.label := by
    rw [face, ← labels_namedChildren, List.filter_map]
    rfl
  rw [literal?, hlabels]
  rcases t.namedChildren.filter (!isComment ·) with _ | ⟨arg, _ | ⟨next, rest⟩⟩ <;> rfl

theorem requiredModule?_eq (source : Source) (t : ParseTree) :
    requiredModule? source t =
      ((t.fieldChild? "function").map Tree.label).bind fun f =>
        if f.type = "identifier" ∧ source.slice f.start f.stop = "require" then
          ((t.fieldChild? "arguments").map face).bind fun e =>
            literal? source (e.2.filter (·.named))
        else none := by
  rw [requiredModule?]
  cases t.fieldChild? "function" with
  | none => rfl
  | some f =>
    rw [Option.map_some, Option.bind_some, Option.bind_eq_bind, Option.bind_some]
    by_cases hrequire : f.type = "identifier" ∧ f.text source = "require"
    · rw [guard, if_pos hrequire]
      refine Eq.trans ?_ (if_pos hrequire).symm
      cases t.fieldChild? "arguments" with
      | none => rfl
      | some args => exact (literal?_face source args).symm
    · rw [guard, if_neg hrequire]
      exact (if_neg hrequire).symm

section Face

variable {a b : ParseTree}

theorem text_eq_of_label (h : a.label = b.label) (source : Source) :
    a.text source = b.text source := by
  rw [text, text, h]

theorem text_fieldChild?_of_labels (h : a.children.map Tree.label = b.children.map Tree.label)
    (source : Source) (field : String) :
    (a.fieldChild? field).map (text source) = (b.fieldChild? field).map (text source) := by
  rw [text_eq, ← Option.map_map, ← Option.map_map, label_fieldChild?, label_fieldChild?, h]

theorem labels_namedChildren_of_labels
    (h : a.children.map Tree.label = b.children.map Tree.label) :
    a.namedChildren.map Tree.label = b.namedChildren.map Tree.label := by
  rw [labels_namedChildren, labels_namedChildren, h]

theorem texts_namedChildren_of_labels (h : a.children.map Tree.label = b.children.map Tree.label)
    (source : Source) :
    a.namedChildren.map (text source) = b.namedChildren.map (text source) := by
  rw [text_eq, ← List.map_map, ← List.map_map, labels_namedChildren_of_labels h]

theorem hasTypeKeyword_of_labels (h : a.children.map Tree.label = b.children.map Tree.label) :
    a.hasTypeKeyword = b.hasTypeKeyword := by
  have hany (t : ParseTree) : t.hasTypeKeyword =
      (t.children.map Tree.label).any fun n => !n.named && n.type = "type" := by
    rw [List.any_map]
    rfl
  rw [hany, hany, h]

theorem operator?_of_face (h : a.face = b.face) (source : Source) :
    operator? source a = operator? source b := by
  obtain ⟨hlabel, hlabels⟩ := Prod.mk.inj h
  have htype : a.type = b.type := congrArg ParseNode.type hlabel
  rw [operator?, operator?, htype, text_fieldChild?_of_labels hlabels]

theorem superclassIn_of_face (h : a.face = b.face) (source : Source) (got : Option String) :
    superclassIn source got a = superclassIn source got b := by
  obtain ⟨hlabel, hlabels⟩ := Prod.mk.inj h
  have htype : a.type = b.type := congrArg ParseNode.type hlabel
  have hbare : isBareSuperclass a = isBareSuperclass b := by
    rw [isBareSuperclass, isBareSuperclass, htype]
  have hextended : (extended? a).map (text source) = (extended? b).map (text source) := by
    rw [extended?, extended?, Option.map_or, Option.map_or, text_fieldChild?_of_labels hlabels,
      ← List.head?_map, ← List.head?_map, texts_namedChildren_of_labels hlabels]
  rw [superclassIn_eq, superclassIn_eq, htype, hbare, hextended, text_eq_of_label hlabel]

theorem superclassIn_of_label (h : a.label = b.label) (hclause : b.type ≠ "extends_clause")
    (source : Source) (got : Option String) :
    superclassIn source got a = superclassIn source got b := by
  have htype : a.type = b.type := congrArg ParseNode.type h
  have hbare : isBareSuperclass a = isBareSuperclass b := by
    rw [isBareSuperclass, isBareSuperclass, htype]
  rw [superclassIn_eq, superclassIn_eq, htype, if_neg hclause, if_neg hclause, hbare,
    text_eq_of_label h]

theorem interfacesIn_of_face (h : a.face = b.face) (source : Source) :
    interfacesIn source a = interfacesIn source b := by
  obtain ⟨hlabel, hlabels⟩ := Prod.mk.inj h
  have htype : a.type = b.type := congrArg ParseNode.type hlabel
  have htexts := congrArg
    (List.map fun s : String => String.ofList (Text.trim (Text.upTo '<' s.toList)))
    (texts_namedChildren_of_labels hlabels source)
  rw [List.map_map, List.map_map] at htexts
  rw [interfacesIn, interfacesIn, htype]
  split
  · exact htexts
  · rfl

theorem interfacesIn_of_label (h : a.label = b.label) (hclause : b.type ≠ "implements_clause")
    (source : Source) : interfacesIn source a = interfacesIn source b := by
  have htype : a.type = b.type := congrArg ParseNode.type h
  rw [interfacesIn, interfacesIn, htype, if_neg hclause, if_neg hclause]

theorem requiredIn?_of_face (h : a.face = b.face) (i : Nat) :
    requiredIn? i a a.namedChildren.head? = requiredIn? i b b.namedChildren.head? := by
  obtain ⟨hlabel, hlabels⟩ := Prod.mk.inj h
  have hany (t : ParseTree) : t.namedChildren.head?.any (fun c => !isComment c) =
      (t.namedChildren.map Tree.label).head?.any fun n => !(n.type = "comment" : Bool) := by
    rw [List.head?_map, Option.any_map]
    rfl
  have hopen : a.isOpen = b.isOpen := by
    rw [isOpen, isOpen, named, named, isComment, isComment, type, type, hlabel]
  have hwrapper : a.isWrapper = b.isWrapper := by
    rw [isWrapper, isWrapper, type, type, hlabel]
  rw [requiredIn?, requiredIn?, hany, hany, labels_namedChildren_of_labels hlabels, hopen, hwrapper]

end Face

structure Alike (a b : ParseTree) : Prop where
  field : a.label.field = b.label.field
  named : a.named = b.named
  isComment : a.isComment = b.isComment
  width : a.width = b.width
  inner : (unwrap? a).map core = (unwrap? b).map core

theorem forestWidth_append (xs ys : List ParseTree) :
    forestWidth (xs ++ ys) = forestWidth xs + forestWidth ys := by
  induction xs with
  | nil => simp [forestWidth]
  | cons x xs ih => rw [List.cons_append, forestWidth, ih, forestWidth, Nat.add_assoc]

theorem placed_append (i : Nat) (xs ys : List ParseTree) :
    placed i (xs ++ ys) = placed i xs ++ placed (i + forestWidth xs) ys := by
  induction xs generalizing i with
  | nil => rfl
  | cons x xs ih =>
    rw [List.cons_append, placed, ih, placed, forestWidth, List.cons_append, Nat.add_assoc]

def glance (e : Nat × ParseTree) : Nat × Option String × Bool × Option ParseNode :=
  (e.1, e.2.label.field, e.2.named, (unwrap? e.2).map core)

theorem core_linked? (t : ParseTree) (field : String) :
    (linked? t field).map (fun e => (e.1, core e.2)) =
      (((placed 0 t.children).map glance).find? fun g => g.2.1 = some field).bind fun g =>
        if g.2.2.1 then (g.2.2.2.filter fun n => !(n.type = "comment" : Bool)).map (g.1, ·)
        else none := by
  rw [linked?_eq, List.find?_map]
  change _ = (((placed 0 t.children).find? fun e => holds field e.2).map glance).bind _
  cases (placed 0 t.children).find? fun e => holds field e.2 with
  | none => rfl
  | some e =>
    obtain ⟨i, c⟩ := e
    simp only [Option.bind_some, Option.map_some, glance]
    cases c.named with
    | false => rfl
    | true =>
      cases unwrap? c with
      | none => rfl
      | some d =>
        have hcomment : d.core.type = "comment" ↔ d.isComment = true := by
          rw [isComment]
          exact decide_eq_true_iff.symm
        by_cases hd : d.isComment = true
        · simp [Option.filter_some, hd, hcomment]
        · simp [Option.filter_some, hd, hcomment]

section Swap

variable {n : ParseNode} {before after : List ParseTree} {a b : ParseTree}

theorem unwrapFirst?_swap (h : Alike a b) :
    (unwrapFirst? (before ++ a :: after)).map core =
      (unwrapFirst? (before ++ b :: after)).map core := by
  induction before with
  | nil =>
    have hopen : a.isOpen = b.isOpen := by rw [isOpen, isOpen, h.named, h.isComment]
    rw [List.nil_append, List.nil_append, unwrapFirst?_cons, unwrapFirst?_cons, hopen]
    split
    · exact h.inner
    · rfl
  | cons c rest ih =>
    rw [List.cons_append, List.cons_append, unwrapFirst?_cons, unwrapFirst?_cons]
    split
    · rfl
    · exact ih

theorem Alike.swap (h : Alike a b) :
    Alike (.node n (before ++ a :: after)) (.node n (before ++ b :: after)) where
  field := rfl
  named := rfl
  isComment := rfl
  width := by
    have hforest : forestWidth (before ++ a :: after) = forestWidth (before ++ b :: after) := by
      rw [forestWidth_append, forestWidth_append, forestWidth, forestWidth, h.width]
    rw [ParseTree.width, ParseTree.width, hforest]
    rfl
  inner := by
    have hwrapper : isWrapper (.node n (before ++ a :: after)) =
      isWrapper (.node n (before ++ b :: after)) := rfl
    rw [unwrap?, unwrap?, hwrapper]
    split
    · exact unwrapFirst?_swap h
    · rfl

theorem core_linked?_swap (h : Alike a b) (field : String) :
    (linked? (.node n (before ++ a :: after)) field).map (fun e => (e.1, core e.2)) =
      (linked? (.node n (before ++ b :: after)) field).map fun e => (e.1, core e.2) := by
  have hglance (i : Nat) : glance (i, a) = glance (i, b) := by
    rw [glance, glance, h.field, h.named, h.inner]
  have hplaced : (placed 0 (before ++ a :: after)).map glance =
      (placed 0 (before ++ b :: after)).map glance := by
    rw [placed_append, placed_append, placed, placed, h.width, List.map_append, List.map_append,
      List.map_cons, List.map_cons, hglance]
  rw [core_linked?, core_linked?]
  simp only [Tree.children, hplaced]

end Swap

theorem map_gathered {β γ : Type} (g : β → γ) (target : String → Option β)
    (fields : List (Role × String)) :
    (gathered target fields).map (fun e => (e.1, g e.2)) =
      gathered (fun field => (target field).map g) fields := by
  refine (List.foldl_hom (List.map _) fun got e => ?_).symm
  simp only [lookup_map g, Option.isSome_map]
  split
  · rfl
  · cases target e.2 <;> simp

def coreLinks (t : ParseTree) : List (Role × Nat × ParseNode) :=
  t.links.map fun e => (e.1, e.2.1, core e.2.2)

theorem coreLinks_congr {a b : ParseTree} (htype : a.type = b.type)
    (h : ∀ field, (linked? a field).map (fun e => (e.1, core e.2)) =
      (linked? b field).map fun e => (e.1, core e.2)) : coreLinks a = coreLinks b := by
  have hcore (t : ParseTree) : coreLinks t =
      gathered (fun field => (linked? t field).map fun e => (e.1, core e.2))
        (Role.ofType t.type) := by
    rw [coreLinks, links_eq_gathered, map_gathered fun e : Nat × ParseTree => (e.1, core e.2)]
  rw [hcore, hcore, htype, funext h]

structure ReadsAlike (source : Source) (a b : ParseTree) : Prop where
  label : a.label = b.label
  links : coreLinks a = coreLinks b
  operator : operator? source a = operator? source b
  module : b.type = "call_expression" → requiredModule? source a = requiredModule? source b
  address : b.type = "call_expression" → a.requiredAddress? = b.requiredAddress?
  superclass : Kind.ofType b.type = .classDecl →
    a.heritage.foldl (superclassIn source) none = b.heritage.foldl (superclassIn source) none
  interfaces : Kind.ofType b.type = .classDecl →
    a.heritage.flatMap (interfacesIn source) = b.heritage.flatMap (interfacesIn source)
  keyword : b.type = "import_statement" → a.hasTypeKeyword = b.hasTypeKeyword
  specifiers : b.type = "import_statement" → specifiers source a = specifiers source b

theorem kind_cases (source : Source) (t : ParseTree) :
    t.kind source = Kind.ofType t.type ∨ t.kind source = .logical ∨
      (t.kind source = .importDecl ∧ t.type = "call_expression") := by
  rw [kind]
  split
  · next hk =>
    split
    · split
      · exact .inr (.inl rfl)
      · exact .inl hk.symm
    · exact .inl hk.symm
  · next hk =>
    split
    · exact .inr (.inr ⟨rfl, Kind.type_of_call hk⟩)
    · exact .inl hk.symm
  · exact .inl rfl

theorem type_of_importDecl {source : Source} {t : ParseTree} (h : t.kind source = .importDecl)
    (hcall : t.type ≠ "call_expression") : t.type = "import_statement" := by
  rcases kind_cases source t with hk | hk | ⟨-, hk⟩
  · exact Kind.type_of_importDecl (hk.symm.trans h)
  · cases h.symm.trans hk
  · exact absurd hk hcall

theorem ofType_of_classDecl {source : Source} {t : ParseTree} (h : t.kind source = .classDecl) :
    Kind.ofType t.type = .classDecl := by
  rcases kind_cases source t with hk | hk | ⟨hk, -⟩
  · exact hk.symm.trans h
  · cases h.symm.trans hk
  · cases h.symm.trans hk

namespace ReadsAlike

variable {source : Source} {a b : ParseTree}

theorem type (h : ReadsAlike source a b) : a.type = b.type :=
  congrArg ParseNode.type h.label

theorem text (h : ReadsAlike source a b) : a.text source = b.text source :=
  text_eq_of_label h.label source

theorem kind (h : ReadsAlike source a b) : a.kind source = b.kind source := by
  rw [ParseTree.kind, ParseTree.kind, h.type, h.operator]
  cases hk : Kind.ofType b.type with
  | call => rw [h.module (Kind.type_of_call hk)]
  | _ => rfl

theorem lookup (h : ReadsAlike source a b) (role : Role) :
    (a.links.lookup role).map (fun e => (e.1, core e.2)) =
      (b.links.lookup role).map fun e => (e.1, core e.2) := by
  have hlinks := congrArg (List.lookup role) h.links
  rwa [coreLinks, coreLinks, lookup_map fun e : Nat × ParseTree => (e.1, core e.2),
    lookup_map fun e : Nat × ParseTree => (e.1, core e.2)] at hlinks

theorem target (h : ReadsAlike source a b) (role : Role) :
    ((a.links.lookup role).map Prod.snd).map (ParseTree.text source) =
      ((b.links.lookup role).map Prod.snd).map (ParseTree.text source) := by
  have hcore := congrArg (Option.map fun e : Nat × ParseNode =>
    source.slice e.2.start e.2.stop) (h.lookup role)
  rw [Option.map_map, Option.map_map] at hcore
  rw [Option.map_map, Option.map_map]
  exact hcore

theorem importOf (h : ReadsAlike source a b) (hk : b.kind source = .importDecl) :
    ParseTree.importOf source a ((a.links.lookup .source).map Prod.snd) =
      ParseTree.importOf source b ((b.links.lookup .source).map Prod.snd) := by
  rw [ParseTree.importOf, ParseTree.importOf, h.type]
  split
  · next hcall => rw [h.module hcall]
  · next hcall =>
    have htype : b.type = "import_statement" := type_of_importDecl hk hcall
    have hname := congrArg (Option.map stripQuotes) (h.target .source)
    simp only [Option.map_map, Function.comp_def] at hname
    simp only [h.keyword htype, h.specifiers htype, Option.map_map, Function.comp_def, hname]

theorem name? (h : ReadsAlike source a b) :
    ParseTree.name? source a (fun role => (a.links.lookup role).map Prod.snd) =
      ParseTree.name? source b fun role => (b.links.lookup role).map Prod.snd := by
  simp only [ParseTree.name?, h.kind, h.text, h.target]
  split
  · rfl
  · rfl
  · next hk => rw [h.importOf hk]
  · rfl

theorem detail (h : ReadsAlike source a b) :
    ParseTree.detail source a (fun role => (a.links.lookup role).map Prod.snd) =
      ParseTree.detail source b fun role => (b.links.lookup role).map Prod.snd := by
  have hreturn := congrArg (Option.map fun s : String =>
    String.ofList (Text.trim (s.toList.dropWhile (· == ':')))) (h.target .returnType)
  simp only [Option.map_map, Function.comp_def] at hreturn
  rw [ParseTree.detail, ParseTree.detail, h.kind, h.type]
  split
  · next hk =>
    have hclass : Kind.ofType b.type = .classDecl := ofType_of_classDecl hk
    rw [h.superclass hclass, h.interfaces hclass]
  · simp only [Option.map_map, Function.comp_def, hreturn]
  · simp only [Option.map_map, Function.comp_def, hreturn]
  · simp only [Option.map_map, Function.comp_def, hreturn]
  · simp only [Option.map_map, Function.comp_def, hreturn]
  · rfl
  · next hk => rw [h.importOf hk]
  · rfl

theorem nodeOf (h : ReadsAlike source a b) :
    SyntaxTree.nodeOf source a = SyntaxTree.nodeOf source b := by
  have haddresses := congrArg (List.map fun e : Role × Nat × ParseNode => (e.1, [e.2.1])) h.links
  simp only [coreLinks, List.map_map, Function.comp_def] at haddresses
  simp only [SyntaxTree.nodeOf, h.kind, h.type, h.label, h.text, h.operator, h.name?, h.detail,
    haddresses]
  split
  · next hcall => rw [h.address hcall.2]
  · rfl

end ReadsAlike

end ParseTree

end DesignLint
