import DesignLint.Proofs.SyntaxTree.Comments
import DesignLint.Proofs.Tree.Ways
import Mathlib.Data.List.Nodup

namespace DesignLint

def ParseTree.holds (field : String) (t : ParseTree) : Bool :=
  t.label.field = some field

namespace Place

inductive StandsFor : Place → Place → Prop
  | self {c : Place} : ParseTree.isWrapper c.tree = false → StandsFor c c
  | inside {c d q : Place} : ParseTree.isWrapper c.tree = true →
      c.children.find? (fun d => ParseTree.isOpen d.tree) = some d → StandsFor d q → StandsFor c q

def fieldChild? (p : Place) (field : String) : Option Place :=
  p.children.find? fun c => ParseTree.holds field c.tree

def Links (p : Place) (field : String) (q : Place) : Prop :=
  ∃ c, p.fieldChild? field = some c ∧ ParseTree.isOpen c.tree = true ∧ StandsFor c q

def LinksRole (p : Place) (role : Role) (q : Place) : Prop :=
  ∃ before field after, Role.ofType (ParseTree.type p.tree) = before ++ (role, field) :: after ∧
    p.Links field q ∧ ∀ earlier, (role, earlier) ∈ before → ∀ d, ¬ p.Links earlier d

def fieldRoles (p : Place) : List Role :=
  (Role.ofType (ParseTree.type p.tree)).map Prod.fst

end Place

namespace ParseTree

theorem unwrapFirst?_cons (c : ParseTree) (cs : List ParseTree) :
    unwrapFirst? (c :: cs) = if c.isOpen then unwrap? c else unwrapFirst? cs := by
  rw [unwrapFirst?]
  rfl

theorem unwrap?_of_not_isWrapper {t : ParseTree} (h : t.isWrapper = false) :
    unwrap? t = some t := by
  obtain ⟨n, cs⟩ := t
  rw [unwrap?, h]
  rfl

theorem unwrap?_of_isComment {t : ParseTree} (h : t.isComment = true) : unwrap? t = some t := by
  have htype : t.type = "comment" := of_decide_eq_true h
  refine unwrap?_of_not_isWrapper ?_
  rw [isWrapper, htype]
  decide

theorem linked?_eq (t : ParseTree) (field : String) :
    linked? t field = ((placed 0 t.children).find? fun e => holds field e.2).bind fun e =>
      if e.2.named then ((unwrap? e.2).filter fun d => !d.isComment).map (e.1, ·) else none := by
  simp only [linked?, holds]
  cases (placed 0 t.children).find? fun e => e.2.label.field = some field with
  | none => rfl
  | some e => rfl

theorem unwrapFirst?_of_closed {before after : List ParseTree} {c : ParseTree}
    (hbefore : ∀ b ∈ before, isOpen b = false) (hc : c.isOpen = true) :
    unwrapFirst? (before ++ c :: after) = unwrap? c := by
  induction before with
  | nil =>
    rw [List.nil_append, unwrapFirst?_cons, if_pos hc]
  | cons b rest ih =>
    rw [List.cons_append, unwrapFirst?_cons, ih fun d hd => hbefore d (by simp [hd]),
      hbefore b (by simp), if_neg Bool.false_ne_true]

theorem find?_placed_eq_some_iff (test : ParseTree → Bool) {cs : List ParseTree} {i j : Nat}
    {c : ParseTree} :
    (placed i cs).find? (fun e => test e.2) = some (j, c) ↔
      ∃ before after, cs = before ++ c :: after ∧ test c = true ∧
        (∀ b ∈ before, test b = false) ∧ j = i + forestWidth before := by
  induction cs generalizing i with
  | nil => simp [placed]
  | cons d ds ih =>
    have hstep : (placed i (d :: ds)).find? (fun e => test e.2) =
        if test d then some (i, d) else (placed (i + width d) ds).find? fun e => test e.2 := by
      cases hd : test d <;> simp [placed, hd]
    rw [hstep]
    cases hd : test d with
    | true =>
      rw [if_pos rfl]
      constructor
      · rintro ⟨⟩
        exact ⟨[], ds, rfl, hd, by simp, rfl⟩
      · rintro ⟨before, after, hcs, hc, hbefore, rfl⟩
        cases before with
        | nil =>
          obtain ⟨rfl, -⟩ := List.cons.inj hcs
          rfl
        | cons b rest =>
          obtain ⟨rfl, -⟩ := List.cons.inj hcs
          simp [hbefore d (by simp)] at hd
    | false =>
      rw [if_neg Bool.false_ne_true, ih]
      constructor
      · rintro ⟨before, after, rfl, hc, hbefore, rfl⟩
        refine ⟨d :: before, after, rfl, hc, List.forall_mem_cons.mpr ⟨hd, hbefore⟩, ?_⟩
        rw [forestWidth, Nat.add_assoc]
      · rintro ⟨before, after, hcs, hc, hbefore, rfl⟩
        cases before with
        | nil =>
          obtain ⟨rfl, -⟩ := List.cons.inj hcs
          simp [hc] at hd
        | cons b rest =>
          obtain ⟨rfl, rfl⟩ := List.cons.inj hcs
          refine ⟨rest, after, rfl, hc, fun x hx => hbefore x (by simp [hx]), ?_⟩
          rw [forestWidth, Nat.add_assoc]

def gathered {β : Type} (target : String → Option β) (fields : List (Role × String)) :
    List (Role × β) :=
  fields.foldl (fun got e =>
    if (got.lookup e.1).isSome then got else got ++ ((target e.2).map (e.1, ·)).toList) []

theorem links_eq_gathered (t : ParseTree) :
    t.links = gathered (linked? t) (Role.ofType t.type) := by
  rw [links, gathered]
  congr 1
  funext got e
  obtain ⟨role, field⟩ := e
  cases hl : linked? t field <;> simp [hl]

-- Of the fields that give one role, the first that links anything counts.
theorem lookup_gathered {β : Type} (target : String → Option β) (fields : List (Role × String))
    (role : Role) :
    (gathered target fields).lookup role =
      fields.findSome? fun e => if e.1 = role then target e.2 else none := by
  have h (got : List (Role × β)) :
      (fields.foldl (fun got e =>
        if (got.lookup e.1).isSome then got
        else got ++ ((target e.2).map (e.1, ·)).toList) got).lookup role =
      (got.lookup role).or
        (fields.findSome? fun e => if e.1 = role then target e.2 else none) := by
    induction fields generalizing got with
    | nil => simp
    | cons e rest ih =>
      obtain ⟨r, field⟩ := e
      rw [List.foldl_cons, ih, List.findSome?_cons]
      cases hgot : got.lookup r with
      | some _ =>
        by_cases hr : r = role
        · subst hr
          simp [hgot]
        · simp [hr]
      | none =>
        cases target field with
        | none => simp
        | some _ =>
          by_cases hr : r = role
          · subst hr
            simp [hgot, List.lookup_append]
          · have hne : (role == r) = false := by simp [Ne.symm hr]
            simp [hr, hne, List.lookup_append, List.lookup_cons]
  exact h []

theorem lookup_links (t : ParseTree) (role : Role) :
    (links t).lookup role =
      (Role.ofType t.type).findSome? fun e => if e.1 = role then linked? t e.2 else none := by
  rw [links_eq_gathered, lookup_gathered]

theorem literal_of_required {source : Source} {t : ParseTree}
    (hkind : t.kind source = .importDecl) (htype : t.type = "call_expression") :
    ∃ args arg : ParseTree, t.fieldChild? "arguments" = some args ∧
      args.namedChildren.filter (fun c => !c.isComment) = [arg] ∧ arg.type = "string" := by
  have hcall : Kind.ofType t.type = .call := by
    rw [htype]
    decide
  have hrequired : (requiredModule? source t).isSome := by
    by_contra hnone
    simp [kind, hcall, hnone] at hkind
  obtain ⟨module, hmodule⟩ := Option.isSome_iff_exists.mp hrequired
  rw [requiredModule?] at hmodule
  obtain ⟨function, -, hmodule⟩ := Option.bind_eq_some_iff.mp hmodule
  obtain ⟨-, -, hmodule⟩ := Option.bind_eq_some_iff.mp hmodule
  obtain ⟨args, hargs, harg⟩ := Option.bind_eq_some_iff.mp hmodule
  split at harg
  · next arg hone =>
    refine ⟨args, arg, hargs, hone, ?_⟩
    by_contra hstring
    simp [hstring] at harg
  · cases harg

theorem unwrap?_arguments {args arg : ParseTree} {first : ParseTree} {rest : List ParseTree}
    (hone : args.namedChildren.filter (fun c => !c.isComment) = [arg]) (harg : arg.type = "string")
    (hfirst : args.namedChildren = first :: rest) (hcomment : first.isComment = false)
    (hw : args.isWrapper = true) : unwrap? args = some arg := by
  obtain rfl : first = arg := by
    rw [hfirst, List.filter_cons_of_pos (by simp [hcomment])] at hone
    exact (List.cons.inj hone).1
  obtain ⟨n, cs⟩ := args
  obtain ⟨before, after, rfl, hbefore, hnamed, -⟩ := List.filter_eq_cons_iff.mp hfirst
  have hopen : isOpen first = true := by simp [isOpen, hnamed, hcomment]
  have hplain : isWrapper first = false := by
    rw [isWrapper, harg]
    decide
  rw [unwrap?, hw, if_pos rfl, unwrapFirst?_of_closed _ hopen]
  · exact unwrap?_of_not_isWrapper hplain
  · intro b hb
    simp [isOpen, hbefore b hb]

theorem linked?_arguments_of_required {source : Source} {t : ParseTree} {path : List Nat}
    (hkind : t.kind source = .importDecl) (htype : t.type = "call_expression")
    (h : t.requiredAddress? = some path) :
    ∃ i d, t.linked? "arguments" = some (i, d) ∧ (path = [i] ∨ path = [i, 0]) := by
  rw [requiredAddress?_eq] at h
  obtain ⟨⟨i, args⟩, hplaced, hin⟩ := Option.bind_eq_some_iff.mp h
  have hargs : t.fieldChild? "arguments" = some args := by
    rw [fieldChild?, ← find?_placed 0, hplaced]
    rfl
  obtain ⟨args', arg, hargs', hone, harg⟩ := literal_of_required hkind htype
  obtain rfl : args' = args := Option.some.inj (hargs'.symm.trans hargs)
  rw [requiredIn?] at hin
  split at hin
  · next hopen =>
    obtain ⟨hopen, hfirst⟩ := Bool.and_eq_true_iff.mp hopen
    obtain ⟨hnamed, hsolid⟩ := Bool.and_eq_true_iff.mp hopen
    have hlinked {d : ParseTree} (hd : unwrap? args' = some d)
        (hcomment : d.isComment = false) : t.linked? "arguments" = some (i, d) := by
      simp [linked?_eq, holds, hplaced, hnamed, hd, hcomment]
    obtain rfl := Option.some.inj hin
    cases hw : isWrapper args' with
    | false =>
      have hself := unwrap?_of_not_isWrapper hw
      exact ⟨i, args', hlinked hself (by simpa using hsolid), .inr (by simp)⟩
    | true =>
      cases hchildren : namedChildren args' with
      | nil => simp [hchildren] at hfirst
      | cons first rest =>
        have hcomment : first.isComment = false := by simpa [hchildren] using hfirst
        have hunwrap := unwrap?_arguments hone harg hchildren hcomment hw
        have hstring : arg.isComment = false := by
          rw [isComment, harg]
          decide
        exact ⟨i, arg, hlinked hunwrap hstring, .inl (by simp)⟩
  · cases hin

end ParseTree

theorem Role.eq_of_field {type field : String} {role other : Role}
    (h : (role, field) ∈ ofType type) (h' : (other, field) ∈ ofType type) : role = other := by
  have htable : ∀ e ∈ table, (e.2.map Prod.snd).Nodup := by decide
  rw [ofType] at h h'
  cases hl : table.lookup type with
  | none =>
    rw [hl] at h
    cases h
  | some fields =>
    rw [hl] at h h'
    obtain ⟨before, after, hsplit, -⟩ := List.lookup_eq_some_iff.mp hl
    have hnodup := htable (type, fields) (by simp [hsplit])
    exact congrArg Prod.fst (List.inj_on_of_nodup_map hnodup h h' rfl)

namespace Outline

open DesignLint.Tree

def grown (p : Place) : Tree Place :=
  .node p (gatherAll (locateAll (p.tree :: p.above) p.address 0 p.tree.children))

theorem gatherAll_append (a b : List (Tree Place)) :
    gatherAll (a ++ b) = gatherAll a ++ gatherAll b := by
  induction a with
  | nil => rfl
  | cons c cs ih => rw [List.cons_append, gatherAll, ih, gatherAll, List.append_assoc]

theorem gather_of_closed {above : List ParseTree} {address : List Nat} {t : ParseTree}
    (h : t.isOpen = false) : gather (locate above address t) = [] := by
  obtain ⟨n, cs⟩ := t
  rw [locate, gather, h]
  rfl

theorem gatherAll_of_closed {above : List ParseTree} {address : List Nat} {cs : List ParseTree}
    (i : Nat) (h : ∀ c ∈ cs, ParseTree.isOpen c = false) :
    gatherAll (locateAll above address i cs) = [] := by
  induction cs generalizing i with
  | nil => rfl
  | cons c cs ih =>
    rw [locateAll, gatherAll, gather_of_closed (h c (by simp)),
      ih (i + 1) fun d hd => h d (by simp [hd]), List.nil_append]

mutual
theorem length_gather (above : List ParseTree) (address : List Nat) :
    ∀ t : ParseTree, (gather (locate above address t)).length = t.width
  | .node n cs => by
    rw [locate, gather, ParseTree.width, ← ParseTree.not_isOpen_node]
    by_cases ho : ParseTree.isOpen (.node n cs)
    · by_cases hw : ParseTree.isWrapper (.node n cs)
      · simp [ho, hw, length_gatherAll]
      · simp [ho, hw]
    · simp [ho]

theorem length_gatherAll (above : List ParseTree) (address : List Nat) (i : Nat) :
    ∀ cs : List ParseTree,
      (gatherAll (locateAll above address i cs)).length = ParseTree.forestWidth cs
  | [] => rfl
  | c :: cs => by
    rw [locateAll, gatherAll, ParseTree.forestWidth, List.length_append, length_gather,
      length_gatherAll above address (i + 1) cs]
end

-- The first node of those that an open node gives way to is the one that it stands for.
theorem gather_of_standsFor {c q : Place} (h : c.StandsFor q)
    (ho : ParseTree.isOpen c.tree = true) :
    ParseTree.isOpen q.tree = true ∧ ParseTree.unwrap? c.tree = some q.tree ∧
      ∃ rest, gather (locate c.above c.address c.tree) = grown q :: rest := by
  induction h with
  | @self c hw =>
    obtain ⟨⟨n, cs⟩, above, address⟩ := c
    refine ⟨ho, ?_, [], ?_⟩
    · rw [ParseTree.unwrap?, hw]
      rfl
    · rw [locate, gather, ho, hw]
      rfl
  | @inside c d q hw hd hq ih =>
    obtain ⟨before, first, after, hcs, hfirst, hbefore, rfl⟩ :=
      (Spot.find?_children_eq_some_iff ParseTree.isOpen).mp hd
    obtain ⟨⟨n, cs⟩, above, address⟩ := c
    obtain ⟨hopen, hunwrap, rest, hgather⟩ := ih hfirst
    obtain rfl : cs = before ++ first :: after := hcs
    refine ⟨hopen, ?_, ?_⟩
    · rw [ParseTree.unwrap?, hw, if_pos rfl, ParseTree.unwrapFirst?_of_closed hbefore hfirst,
        hunwrap]
    · rw [locate, gather, ho, hw, locateAll_append, gatherAll_append,
        gatherAll_of_closed 0 hbefore, locateAll, gatherAll, Nat.zero_add, hgather]
      exact ⟨_, rfl⟩

mutual
theorem exists_standsFor (above : List ParseTree) (address : List Nat) {d : ParseTree} :
    ∀ t : ParseTree, ParseTree.unwrap? t = some d →
      ∃ q : Place, Place.StandsFor ⟨t, above, address⟩ q ∧ q.tree = d
  | .node n cs => by
    intro h
    rw [ParseTree.unwrap?] at h
    cases hw : ParseTree.isWrapper (.node n cs) with
    | false =>
      rw [hw] at h
      exact ⟨_, .self hw, Option.some.inj h⟩
    | true =>
      rw [hw] at h
      obtain ⟨c, q, hc, hq, hd⟩ :=
        exists_standsFor_first ⟨.node n cs, above, address⟩ [] cs rfl (by simp) h
      exact ⟨q, .inside hw hc hq, hd⟩

theorem exists_standsFor_first (s : Place) {d : ParseTree} (before : List ParseTree) :
    ∀ cs : List ParseTree, s.tree.children = before ++ cs →
      (∀ b ∈ before, ParseTree.isOpen b = false) → ParseTree.unwrapFirst? cs = some d →
      ∃ c q : Place, s.children.find? (fun c => ParseTree.isOpen c.tree) = some c ∧
        c.StandsFor q ∧ q.tree = d
  | [] => by
    intro _ _ h
    cases h
  | c :: cs => by
    intro hcs hbefore h
    rw [ParseTree.unwrapFirst?_cons] at h
    cases ho : ParseTree.isOpen c with
    | true =>
      rw [if_pos ho] at h
      obtain ⟨q, hq, hd⟩ := exists_standsFor (s.tree :: s.above) (before.length :: s.address) c h
      exact ⟨_, q, (Spot.find?_children_eq_some_iff ParseTree.isOpen).mpr
        ⟨before, c, cs, hcs, ho, hbefore, rfl⟩, hq, hd⟩
    | false =>
      rw [ho, if_neg Bool.false_ne_true] at h
      refine exists_standsFor_first s (before ++ [c]) cs (by simpa using hcs) ?_ h
      intro b hb
      rcases List.mem_append.mp hb with hb | hb
      · exact hbefore b hb
      · rwa [List.mem_singleton.mp hb]
end

theorem linked?_of_links {p q : Place} {field : String} (h : p.Links field q) :
    ∃ i, ParseTree.linked? p.tree field = some (i, q.tree) ∧
      (grown p).children[i]? = some (grown q) := by
  obtain ⟨c, hc, ho, hq⟩ := h
  obtain ⟨before, d, after, hcs, hfield, hbefore, rfl⟩ :=
    (Spot.find?_children_eq_some_iff (ParseTree.holds field)).mp hc
  obtain ⟨hopen, hunwrap, rest, hgather⟩ := gather_of_standsFor hq ho
  refine ⟨ParseTree.forestWidth before, ?_, ?_⟩
  · have hplaced := (ParseTree.find?_placed_eq_some_iff (ParseTree.holds field)).mpr
      ⟨before, after, hcs, hfield, hbefore, (Nat.zero_add _).symm⟩
    have hnamed : ParseTree.named d = true := (Bool.and_eq_true_iff.mp ho).1
    have hcomment : (!ParseTree.isComment q.tree) = true := (Bool.and_eq_true_iff.mp hopen).2
    rw [ParseTree.linked?_eq, hplaced]
    simp only [Option.bind_some, hnamed, hunwrap, Option.filter_some, hcomment, if_true,
      Option.map_some]
  · have hlength := length_gatherAll (p.tree :: p.above) p.address 0 before
    rw [grown, Tree.children, hcs, locateAll_append, gatherAll_append, locateAll, gatherAll,
      Nat.zero_add, hgather, ← hlength, List.getElem?_append_right (Nat.le_refl _)]
    simp

theorem links_of_linked? {p : Place} {field : String} {i : Nat} {d : ParseTree}
    (h : ParseTree.linked? p.tree field = some (i, d)) :
    ∃ q, p.Links field q ∧ q.tree = d := by
  rw [ParseTree.linked?_eq] at h
  obtain ⟨⟨j, c⟩, hplaced, hunwrap⟩ := Option.bind_eq_some_iff.mp h
  obtain ⟨before, after, hcs, hfield, hbefore, -⟩ :=
    (ParseTree.find?_placed_eq_some_iff (ParseTree.holds field)).mp hplaced
  cases hnamed : ParseTree.named c with
  | false => simp [hnamed] at hunwrap
  | true =>
    simp only [hnamed, if_true, Option.map_eq_some_iff, Option.filter_eq_some_iff] at hunwrap
    obtain ⟨e, ⟨he, hcomment⟩, hd⟩ := hunwrap
    obtain rfl : e = d := (Prod.mk.inj hd).2
    have hopen : ParseTree.isOpen c = true := by
      rw [ParseTree.isOpen, hnamed, Bool.true_and, Bool.not_eq_true']
      by_contra hc
      have hself := ParseTree.unwrap?_of_isComment (by simpa using hc)
      rw [he] at hself
      obtain rfl := Option.some.inj hself
      exact hc (by simpa using hcomment)
    obtain ⟨q, hq, hd⟩ := exists_standsFor (p.tree :: p.above) (before.length :: p.address) c he
    exact ⟨q, ⟨_, (Spot.find?_children_eq_some_iff (ParseTree.holds field)).mpr
      ⟨before, c, after, hcs, hfield, hbefore, rfl⟩, hopen, hq⟩, hd⟩

theorem lookup_links_of_linksRole {p q : Place} {role : Role} (h : p.LinksRole role q) :
    ∃ i, (ParseTree.links p.tree).lookup role = some (i, q.tree) ∧
      (grown p).children[i]? = some (grown q) := by
  obtain ⟨before, field, after, hfields, hlinks, hearlier⟩ := h
  obtain ⟨i, hlinked, hchild⟩ := linked?_of_links hlinks
  refine ⟨i, ?_, hchild⟩
  rw [ParseTree.lookup_links, List.findSome?_eq_some_iff]
  refine ⟨before, (role, field), after, hfields, by simpa using hlinked, ?_⟩
  rintro ⟨r, earlier⟩ hm
  by_cases hr : r = role
  · subst hr
    rw [if_pos rfl]
    cases hl : ParseTree.linked? p.tree earlier with
    | none => rfl
    | some e =>
      obtain ⟨d, hd, -⟩ := links_of_linked? hl
      exact absurd hd (hearlier earlier hm d)
  · exact if_neg hr

theorem linksRole_of_lookup_links {p : Place} {role : Role} {i : Nat} {d : ParseTree}
    (h : (ParseTree.links p.tree).lookup role = some (i, d)) :
    ∃ q, p.LinksRole role q ∧ (grown p).children[i]? = some (grown q) := by
  rw [ParseTree.lookup_links, List.findSome?_eq_some_iff] at h
  obtain ⟨before, ⟨r, field⟩, after, hfields, hlinked, hbefore⟩ := h
  by_cases hr : r = role
  · subst hr
    rw [if_pos rfl] at hlinked
    obtain ⟨q, hq, -⟩ := links_of_linked? hlinked
    obtain ⟨j, hj, hchild⟩ := linked?_of_links hq
    obtain rfl : j = i := (Prod.mk.inj (Option.some.inj (hj.symm.trans hlinked))).1
    refine ⟨q, ⟨before, field, after, hfields, hq, fun earlier hm e he => ?_⟩, hchild⟩
    obtain ⟨k, hk, -⟩ := linked?_of_links he
    have hnone := hbefore _ hm
    rw [if_pos rfl, hk] at hnone
    cases hnone
  · rw [if_neg hr] at hlinked
    cases hlinked

theorem mem_fieldRoles_of_lookup {p : Place} {role : Role} {e : Nat × ParseTree}
    (h : (ParseTree.links p.tree).lookup role = some e) : role ∈ p.fieldRoles := by
  obtain ⟨q, ⟨before, field, after, hfields, -⟩, -⟩ := linksRole_of_lookup_links h
  exact List.mem_map.mpr ⟨(role, field), by simp [hfields], rfl⟩

theorem address_of_standsFor {c q : Place} (h : c.StandsFor q) :
    ∃ path, q.address = path ++ c.address := by
  induction h with
  | self hw => exact ⟨[], rfl⟩
  | @inside c d q hw hd hq ih =>
    obtain ⟨path, hpath⟩ := ih
    obtain ⟨before, first, after, -, -, -, rfl⟩ :=
      (Spot.find?_children_eq_some_iff ParseTree.isOpen).mp hd
    exact ⟨path ++ [before.length], by simpa using hpath⟩

theorem field_eq_of_links {p q : Place} {field other : String} (h : p.Links field q)
    (h' : p.Links other q) : field = other := by
  obtain ⟨c, hc, -, hq⟩ := h
  obtain ⟨c', hc', -, hq'⟩ := h'
  obtain ⟨before, d, after, hcs, hfield, -, rfl⟩ :=
    (Spot.find?_children_eq_some_iff (ParseTree.holds field)).mp hc
  obtain ⟨before', d', after', hcs', hfield', -, rfl⟩ :=
    (Spot.find?_children_eq_some_iff (ParseTree.holds other)).mp hc'
  obtain ⟨path, hpath⟩ := address_of_standsFor hq
  obtain ⟨path', hpath'⟩ := address_of_standsFor hq'
  -- one node stands in one child only, and a child holds one field
  have haddress := hpath.symm.trans hpath'
  have hlength : path.length = path'.length := by
    have := congrArg List.length haddress
    simp at this
    omega
  have hposition : before.length = before'.length := by
    simpa using (List.append_inj haddress hlength).2
  have hsplit := List.append_inj (hcs.symm.trans hcs') hposition
  obtain rfl : d = d' := (List.cons.inj hsplit.2).1
  have hsame := (of_decide_eq_true hfield).symm.trans (of_decide_eq_true hfield')
  exact Option.some.inj hsame

end Outline

end DesignLint
