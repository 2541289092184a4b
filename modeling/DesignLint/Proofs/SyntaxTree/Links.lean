import DesignLint.Proofs.SyntaxTree.Fields

namespace DesignLint.Outline

open DesignLint.Tree

mutual
theorem eq_grown_of_mem_gather (above : List ParseTree) (address : List Nat) :
    ∀ t : ParseTree, ∀ o ∈ gather (locate above address t), o = grown o.label
  | .node n cs => by
    intro o ho
    rw [locate, gather] at ho
    cases hopen : ParseTree.isOpen (.node n cs) with
    | false => simp [hopen] at ho
    | true =>
      cases hw : ParseTree.isWrapper (.node n cs) with
      | true =>
        simp only [hopen, hw, Bool.not_true, Bool.false_eq_true, if_false, if_true] at ho
        exact eq_grown_of_mem_gatherAll (.node n cs :: above) address 0 cs o ho
      | false =>
        simp only [hopen, hw, Bool.not_true, Bool.false_eq_true, if_false] at ho
        obtain rfl := List.mem_singleton.mp ho
        rfl

theorem eq_grown_of_mem_gatherAll (above : List ParseTree) (address : List Nat) (i : Nat) :
    ∀ cs : List ParseTree, ∀ o ∈ gatherAll (locateAll above address i cs), o = grown o.label
  | [] => by simp [locateAll, gatherAll]
  | c :: cs => by
    intro o ho
    rw [locateAll, gatherAll] at ho
    rcases List.mem_append.mp ho with ho | ho
    · exact eq_grown_of_mem_gather above (i :: address) c o ho
    · exact eq_grown_of_mem_gatherAll above address (i + 1) cs o ho
end

theorem tree_eq_grown_of_follow {z w : Spot Place} {path : List Nat} (hz : z.tree = grown z.label)
    (h : z.follow path = some w) : w.tree = grown w.label := by
  induction path generalizing z with
  | nil =>
    obtain rfl := Option.some.inj h
    exact hz
  | cons i rest ih =>
    obtain ⟨y, hy, hrest⟩ := Option.bind_eq_some_iff.mp h
    obtain ⟨o, ho, rfl⟩ := Spot.child?_eq_some_iff.mp hy
    rw [hz, grown, Tree.children] at ho
    exact ih (eq_grown_of_mem_gatherAll _ _ _ _ _ (List.mem_of_getElem? ho)) hrest

theorem tree_eq_grown {t : ParseTree} {z : Spot Place} (h : z ∈ (ofTree t).spots.preorder) :
    z.tree = grown z.label := by
  refine tree_eq_grown_of_follow ?_ (mem_spots_iff.mp h)
  change ofTree t = grown (Spot.root t)
  rw [ofTree, spots, children_locate]
  rfl

theorem child?_of_grown {t : ParseTree} {z : Spot Place} {q : Place} {i : Nat}
    (hz : z ∈ (ofTree t).spots.preorder) (h : (grown z.label).children[i]? = some (grown q)) :
    ∃ w ∈ (ofTree t).spots.preorder, z.child? i = some w ∧ w.label = q := by
  rw [← tree_eq_grown hz] at h
  have hchild := Spot.child?_eq_some_iff.mpr ⟨_, h, rfl⟩
  exact ⟨_, child?_mem_spots hz hchild, hchild, rfl⟩

theorem eq_of_label_eq {t : ParseTree} {z w : Spot Place} (hz : z ∈ (ofTree t).spots.preorder)
    (hw : w ∈ (ofTree t).spots.preorder) (h : z.label = w.label) : z = w := by
  have hnodup : ((ofTree t).spots.preorder.map fun s => s.label.address).Nodup := by
    have hlabels := nodup_address_ofTree t
    rwa [← preorder_spots, List.map_map] at hlabels
  exact List.inj_on_of_nodup_map hnodup hz hw (congrArg Spot.address h)

def site (source : Source) (z : Spot Place) : Site :=
  z.map (label source)

theorem preorder_spots_ofParse (source : Source) (t : ParseTree) :
    (SyntaxTree.ofParse source t).spots.preorder =
      (ofTree t).spots.preorder.map (site source) := by
  rw [ofParse_eq_map, preorder_spots_map]
  rfl

theorem lookup_links_nodeOf (source : Source) (t : ParseTree) (role : Role) :
    (SyntaxTree.nodeOf source t).links.lookup role =
      ((t.links.lookup role).map fun e => [e.1]).or
        (if t.kind source = .importDecl ∧ t.type = "call_expression" ∧ role = .source then
          t.requiredAddress? else none) := by
  have haddresses : (t.links.map fun e => (e.1, [e.2.1])).lookup role =
      (t.links.lookup role).map fun e => [e.1] :=
    ParseTree.lookup_map (fun e : Nat × ParseTree => [e.1]) role t.links
  by_cases hrequired : t.kind source = .importDecl ∧ t.type = "call_expression"
  · simp only [SyntaxTree.nodeOf, hrequired, and_self, if_true, true_and, List.lookup_append,
      haddresses]
    congr 1
    cases t.requiredAddress? with
    | none => simp
    | some path =>
      by_cases hr : role = .source
      · simp [hr]
      · have hne : (role == Role.source) = false := by simp [hr]
        simp [hr, hne, List.lookup_cons]
  · have hnot : ¬ (t.kind source = .importDecl ∧ t.type = "call_expression" ∧ role = .source) :=
      fun h => hrequired ⟨h.1, h.2.1⟩
    rw [if_neg hnot, Option.or_none]
    simp only [SyntaxTree.nodeOf, hrequired, if_false, haddresses]

theorem link_site (source : Source) (z : Spot Place) (role : Role) :
    (site source z).link role =
      (((SyntaxTree.nodeOf source z.label.tree).links.lookup role).filter (· != [])).bind
        (site source z).follow := by
  have hlabel : (site source z).tree.label = SyntaxTree.nodeOf source z.label.tree :=
    Spot.label_map (label source) z
  rw [Site.link, SyntaxTree.linkAddress, Site.code, hlabel]

theorem link_site_of_field {source : Source} {z : Spot Place} {role : Role}
    (h : role ∈ z.label.fieldRoles) :
    (site source z).link role =
      ((ParseTree.links z.label.tree).lookup role).bind fun e => (site source z).child? e.1 := by
  have hsource : ¬ (ParseTree.kind source z.label.tree = .importDecl ∧
      ParseTree.type z.label.tree = "call_expression" ∧ role = .source) := by
    rintro ⟨-, htype, rfl⟩
    rw [Place.fieldRoles, htype] at h
    revert h
    decide
  rw [link_site, lookup_links_nodeOf, if_neg hsource, Option.or_none]
  cases (ParseTree.links z.label.tree).lookup role with
  | none => rfl
  | some e => exact Spot.follow_singleton _ _

theorem link_site_of_no_field {source : Source} {z : Spot Place} {role : Role} {u : Site}
    (h : role ∉ z.label.fieldRoles) (hu : (site source z).link role = some u) :
    role = .source ∧ ParseTree.kind source z.label.tree = .importDecl ∧
      ParseTree.type z.label.tree = "call_expression" ∧
      ∃ path, ParseTree.requiredAddress? z.label.tree = some path ∧
        (site source z).follow path = some u := by
  have hlinks : (ParseTree.links z.label.tree).lookup role = none := by
    cases hl : (ParseTree.links z.label.tree).lookup role with
    | none => rfl
    | some e => exact absurd (mem_fieldRoles_of_lookup hl) h
  rw [link_site, lookup_links_nodeOf, hlinks, Option.map_none, Option.none_or] at hu
  by_cases hrequired : ParseTree.kind source z.label.tree = .importDecl ∧
      ParseTree.type z.label.tree = "call_expression" ∧ role = .source
  · rw [if_pos hrequired] at hu
    obtain ⟨path, hpath, hfollow⟩ := Option.bind_eq_some_iff.mp hu
    exact ⟨hrequired.2.2, hrequired.1, hrequired.2.1, path,
      (Option.filter_eq_some_iff.mp hpath).1, hfollow⟩
  · rw [if_neg hrequired] at hu
    cases hu

structure LinksByField (source : Source) (o : Tree Place) (z : Spot Place) : Prop where
  target : ∀ role ∈ z.label.fieldRoles, ∀ u, (site source z).link role = some u ↔
    ∃ w ∈ o.spots.preorder, w.parent? = some z ∧ z.label.LinksRole role w.label ∧
      u = site source w
  child : ∀ role ∈ z.label.fieldRoles, ∀ u, (site source z).link role = some u →
    u.parent? = some (site source z)
  apart : ∀ role ∈ z.label.fieldRoles, ∀ other ∈ z.label.fieldRoles, role ≠ other →
    ∀ u v, (site source z).link role = some u → (site source z).link other = some v →
      u.address ≠ v.address
  required : ∀ role ∉ z.label.fieldRoles, ∀ u, (site source z).link role = some u →
    role = .source ∧ (site source z).kind = .importDecl ∧
      ParseTree.type z.label.tree = "call_expression" ∧
      ∃ a, (site source z).link .arguments = some a ∧ a.parent? = some (site source z) ∧
        (u = a ∨ u.parent? = some a)

theorem target_of_link {source : Source} {t : ParseTree} {z : Spot Place} {role : Role} {u : Site}
    (hz : z ∈ (ofTree t).spots.preorder) (hrole : role ∈ z.label.fieldRoles)
    (hu : (site source z).link role = some u) :
    ∃ w ∈ (ofTree t).spots.preorder, w.parent? = some z ∧ z.label.LinksRole role w.label ∧
      u = site source w := by
  rw [link_site_of_field hrole] at hu
  obtain ⟨⟨i, d⟩, hlookup, hchild⟩ := Option.bind_eq_some_iff.mp hu
  obtain ⟨q, hq, hgrown⟩ := linksRole_of_lookup_links hlookup
  obtain ⟨w, hw, hzw, rfl⟩ := child?_of_grown hz hgrown
  refine ⟨w, hw, Spot.parent?_of_child? hzw, hq, ?_⟩
  rw [site, child?_map, hzw] at hchild
  exact (Option.some.inj hchild).symm

theorem link_of_target {source : Source} {t : ParseTree} {z w : Spot Place} {role : Role}
    (hz : z ∈ (ofTree t).spots.preorder) (hw : w ∈ (ofTree t).spots.preorder)
    (hrole : role ∈ z.label.fieldRoles) (h : z.label.LinksRole role w.label) :
    (site source z).link role = some (site source w) := by
  obtain ⟨i, hlookup, hgrown⟩ := lookup_links_of_linksRole h
  obtain ⟨w', hw', hzw, hlabel⟩ := child?_of_grown hz hgrown
  obtain rfl : w' = w := eq_of_label_eq hw' hw hlabel
  rw [link_site_of_field hrole, hlookup, Option.bind_some, site, child?_map, hzw]
  rfl

theorem linksByField {source : Source} {t : ParseTree} {z : Spot Place}
    (hz : z ∈ (ofTree t).spots.preorder) : LinksByField source (ofTree t) z where
  target := by
    intro role hrole u
    constructor
    · exact target_of_link hz hrole
    · rintro ⟨w, hw, -, hlinks, rfl⟩
      exact link_of_target hz hw hrole hlinks
  child := by
    intro role hrole u hu
    rw [link_site_of_field hrole] at hu
    obtain ⟨e, -, hchild⟩ := Option.bind_eq_some_iff.mp hu
    exact Spot.parent?_of_child? hchild
  apart := by
    intro role hrole other hother hne u v hu hv haddress
    obtain ⟨w, hw, -, hlinks, rfl⟩ := target_of_link hz hrole hu
    obtain ⟨w', hw', -, hlinks', rfl⟩ := target_of_link hz hother hv
    obtain rfl : w = w' := eq_of_address_eq hw hw' haddress
    obtain ⟨before, field, after, hfields, hfield, -⟩ := hlinks
    obtain ⟨before', field', after', hfields', hfield', -⟩ := hlinks'
    obtain rfl := field_eq_of_links hfield hfield'
    have hmem : (role, field) ∈ Role.ofType (ParseTree.type z.label.tree) := by
      rw [hfields]
      simp
    have hmem' : (other, field) ∈ Role.ofType (ParseTree.type z.label.tree) := by
      rw [hfields']
      simp
    exact hne (Role.eq_of_field hmem hmem')
  required := by
    intro role hrole u hu
    obtain ⟨rfl, hkind, htype, path, hpath, hfollow⟩ := link_site_of_no_field hrole hu
    have hsite : (site source z).kind = .importDecl :=
      (congrArg Node.kind (Spot.label_map (label source) z)).trans hkind
    refine ⟨rfl, hsite, htype, ?_⟩
    obtain ⟨i, d, hlinked, hcases⟩ := ParseTree.linked?_arguments_of_required hkind htype hpath
    have harguments : Role.arguments ∈ z.label.fieldRoles := by
      rw [Place.fieldRoles, htype]
      decide
    have hlookup : (ParseTree.links z.label.tree).lookup .arguments = some (i, d) := by
      have hfields : Role.ofType "call_expression" =
          [(.callee, "function"), (.arguments, "arguments")] := by decide
      simp [ParseTree.lookup_links, htype, hfields, hlinked]
    have hlink : (site source z).link .arguments = (site source z).child? i := by
      rw [link_site_of_field harguments, hlookup, Option.bind_some]
    rcases hcases with rfl | rfl
    · rw [Spot.follow_singleton] at hfollow
      exact ⟨u, hlink.trans hfollow, Spot.parent?_of_child? hfollow, .inl rfl⟩
    · obtain ⟨a, ha, hu⟩ := Option.bind_eq_some_iff.mp hfollow
      rw [Spot.follow_singleton] at hu
      exact ⟨a, hlink.trans ha, Spot.parent?_of_child? ha, .inr (Spot.parent?_of_child? hu)⟩

theorem parent?_of_link {source : Source} {t : ParseTree} {s u : Site} {role : Role}
    (hs : s ∈ (SyntaxTree.ofParse source t).spots.preorder) (hrole : role ≠ .source)
    (h : s.link role = some u) : u.parent? = some s := by
  rw [preorder_spots_ofParse] at hs
  obtain ⟨z, hz, rfl⟩ := List.mem_map.mp hs
  by_cases hfield : role ∈ z.label.fieldRoles
  · exact (linksByField hz).child role hfield u h
  · exact absurd ((linksByField hz).required role hfield u h).1 hrole

theorem ofParse_links (source : Source) (t : ParseTree) :
    ∃ o : Tree Place, IsOutline t o ∧
      (SyntaxTree.ofParse source t).spots.preorder = o.spots.preorder.map (site source) ∧
      ∀ z ∈ o.spots.preorder, LinksByField source o z :=
  ⟨ofTree t, isOutline_ofTree t, preorder_spots_ofParse source t, fun _ => linksByField⟩

end DesignLint.Outline
