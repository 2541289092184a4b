import DesignLint.Metric.Branch
import DesignLint.Proofs.SyntaxTree.Links

namespace DesignLint

abbrev SyntaxTree.sites (root : SyntaxTree) : List Site :=
  root.spots.preorder

abbrev SyntaxTree.visitedSites (root : SyntaxTree) (limit : Int) : List Site :=
  root.visited limit

theorem SyntaxTree.chainLength_eq_elim (t : SyntaxTree) :
    t.chainLength = (t.link .alternate).elim 1 fun a =>
      if a.kind = .branch then 1 + a.chainLength else 2 := by
  rw [chainLength]
  split
  · next h => rw [h, Option.elim_none]
  · next a h => rw [h, Option.elim_some]

namespace Site

def elseIf? (s : Site) : Option Site :=
  (s.link .alternate).filter fun a : Site => a.kind = .branch

def hasElse (s : Site) : Bool :=
  (s.link .alternate).any fun a : Site => a.kind ≠ .branch

def startsChain (s : Site) : Bool :=
  s.kind = .branch && s.isChainRoot

def afterAlternates : Nat → Site → Option Site
  | 0, s => some s
  | n + 1, s => (s.link .alternate).bind (afterAlternates n)

variable {s u p r : Site} {role : Role}

theorem tree_link (s : Site) (role : Role) : (s.link role).map Spot.tree = s.code.link role := by
  rw [link, SyntaxTree.link]
  cases s.code.linkAddress role with
  | none => rfl
  | some path => exact Spot.tree_follow s path

theorem size_lt_of_link (h : s.link role = some u) : u.code.size < s.code.size := by
  have hlink := tree_link s role
  rw [h] at hlink
  exact SyntaxTree.size_link_lt hlink.symm

theorem link_of_elseIf? (h : s.elseIf? = some u) :
    s.link .alternate = some u ∧ u.kind = .branch := by
  obtain ⟨hlink, hkind⟩ := Option.filter_eq_some_iff.mp h
  exact ⟨hlink, of_decide_eq_true hkind⟩

theorem size_lt_of_elseIf? (h : s.elseIf? = some u) : u.code.size < s.code.size :=
  size_lt_of_link (link_of_elseIf? h).1

def chain (s : Site) : List Site :=
  match h : s.elseIf? with
  | none => [s]
  | some next =>
    have : next.code.size < s.code.size := size_lt_of_elseIf? h
    s :: next.chain
termination_by s.code.size

theorem chain_of_none (h : s.elseIf? = none) : s.chain = [s] := by
  rw [chain]
  split
  · rfl
  · next hnext => cases h.symm.trans hnext

theorem chain_of_some (h : s.elseIf? = some u) : s.chain = s :: u.chain := by
  rw [chain]
  split
  · next hnone => cases h.symm.trans hnone
  · next hnext =>
    obtain rfl := Option.some.inj (h.symm.trans hnext)
    rfl

theorem self_mem_chain (s : Site) : s ∈ s.chain := by
  cases h : s.elseIf? with
  | none => simp [chain_of_none h]
  | some next => simp [chain_of_some h]

theorem exists_afterAlternates_eq_none (s : Site) : ∃ n, s.afterAlternates n = none := by
  cases h : s.link .alternate with
  | none => exact ⟨1, by rw [afterAlternates, h]; rfl⟩
  | some u =>
    obtain ⟨n, hn⟩ := exists_afterAlternates_eq_none u
    exact ⟨n + 1, by rw [afterAlternates, h]; exact hn⟩
termination_by s.code.size
decreasing_by exact size_lt_of_link h

theorem mem_chain_of_elseIf? (hp : p ∈ r.chain) (h : p.elseIf? = some s) : s ∈ r.chain := by
  induction r using chain.induct with
  | case1 r hr =>
    rw [chain_of_none hr, List.mem_singleton] at hp
    subst hp
    cases h.symm.trans hr
  | case2 r next hr _ ih =>
    rw [chain_of_some hr] at hp ⊢
    rcases List.mem_cons.mp hp with rfl | hp
    · obtain rfl := Option.some.inj (h.symm.trans hr)
      exact List.mem_cons_of_mem _ (self_mem_chain s)
    · exact List.mem_cons_of_mem _ (ih hp)

theorem eq_or_exists_elseIf?_of_mem_chain (h : s ∈ r.chain) :
    s = r ∨ ∃ p ∈ r.chain, p.elseIf? = some s := by
  induction r using chain.induct with
  | case1 r hr =>
    rw [chain_of_none hr] at h
    exact .inl (List.mem_singleton.mp h)
  | case2 r next hr _ ih =>
    rw [chain_of_some hr] at h ⊢
    rcases List.mem_cons.mp h with rfl | h
    · exact .inl rfl
    · rcases ih h with rfl | ⟨p, hp, hnext⟩
      · exact .inr ⟨r, List.mem_cons_self, hr⟩
      · exact .inr ⟨p, List.mem_cons_of_mem _ hp, hnext⟩

theorem exists_follow_of_mem_chain (h : s ∈ r.chain) : ∃ path, r.follow path = some s := by
  induction r using chain.induct with
  | case1 r hr =>
    rw [chain_of_none hr, List.mem_singleton] at h
    exact ⟨[], by rw [h]; rfl⟩
  | case2 r next hr _ ih =>
    rw [chain_of_some hr] at h
    rcases List.mem_cons.mp h with rfl | h
    · exact ⟨[], rfl⟩
    · obtain ⟨path, hpath⟩ := ih h
      obtain ⟨way, -, hway⟩ := Option.bind_eq_some_iff.mp (link_of_elseIf? hr).1
      exact ⟨way ++ path, by rw [Spot.follow_append, hway]; exact hpath⟩

theorem kind_of_mem_chain (hr : r.kind = .branch) (h : s ∈ r.chain) : s.kind = .branch := by
  rcases eq_or_exists_elseIf?_of_mem_chain h with rfl | ⟨p, -, hp⟩
  · exact hr
  · exact (link_of_elseIf? hp).2

theorem eq_or_mem_ancestors_of_mem_chain (h : s ∈ r.chain) : r = s ∨ r ∈ s.ancestors := by
  obtain ⟨path, hpath⟩ := exists_follow_of_mem_chain h
  cases path with
  | nil => exact .inl (Option.some.inj hpath)
  | cons i rest =>
    obtain ⟨between, hbetween⟩ := Spot.exists_ancestors_of_follow_cons hpath
    exact .inr (by simp [hbetween])

theorem size_le_of_mem_chain (h : s ∈ r.chain) : s.code.size ≤ r.code.size := by
  obtain ⟨path, hpath⟩ := exists_follow_of_mem_chain h
  have htree := Spot.tree_follow r path
  rw [hpath] at htree
  exact Tree.size_follow_le htree.symm

theorem nodup_chain (r : Site) : r.chain.Nodup := by
  induction r using chain.induct with
  | case1 r hr =>
    rw [chain_of_none hr]
    exact List.nodup_singleton r
  | case2 r next hr _ ih =>
    rw [chain_of_some hr, List.nodup_cons]
    refine ⟨fun hmem => ?_, ih⟩
    have hle := size_le_of_mem_chain hmem
    have hlt := size_lt_of_elseIf? hr
    omega

theorem chainLength_eq (r : Site) :
    r.code.chainLength = r.chain.length + if r.chain.getLast?.any hasElse then 1 else 0 := by
  induction r using chain.induct with
  | case1 r hr =>
    rw [SyntaxTree.chainLength_eq_elim, ← tree_link, chain_of_none hr]
    cases hlink : r.link .alternate with
    | none => simp [hasElse, hlink]
    | some a =>
      have hkind : ¬ a.kind = .branch := by simpa [elseIf?, hlink] using hr
      have hcode : ¬ SyntaxTree.kind a.tree = .branch := hkind
      simp [hasElse, hlink, hkind, hcode]
  | case2 r next hr _ ih =>
    obtain ⟨hlink, hkind⟩ := link_of_elseIf? hr
    have hcode : SyntaxTree.kind next.tree = .branch := hkind
    have hlast : (r :: next.chain).getLast? = next.chain.getLast? :=
      List.getLast?_cons_of_ne_nil (List.ne_nil_of_mem (self_mem_chain next))
    rw [SyntaxTree.chainLength_eq_elim, ← tree_link, chain_of_some hr, hlink, hlast,
      List.length_cons, Option.map_some, Option.elim_some, if_pos hcode]
    change 1 + next.code.chainLength = _
    omega

section InTree

variable {root : SyntaxTree}

theorem isLinkOf_of_link (h : p.link role = some s) : s.isLinkOf p role = true := by
  obtain ⟨path, hpath, hfollow⟩ := Option.bind_eq_some_iff.mp h
  rw [isLinkOf, hpath, Option.any_some]
  exact decide_eq_true (Spot.address_of_follow hfollow).symm

theorem link_of_isLinkOf (hs : s ∈ root.sites) (hp : s.parent? = some p)
    (h : s.isLinkOf p role = true) : p.link role = some s := by
  obtain ⟨-, i, hi⟩ := Tree.exists_child?_of_parent? hs hp
  rw [isLinkOf] at h
  cases hpath : p.code.linkAddress role with
  | none => simp [hpath] at h
  | some path =>
    have haddress : path.reverse ++ p.address = [i] ++ p.address := by
      rw [hpath, Option.any_some, decide_eq_true_iff, Spot.address_of_child? hi] at h
      exact h
    obtain rfl : path = [i] := by simpa using List.append_cancel_right haddress
    rw [link, hpath, Option.bind_some, Spot.follow_singleton, hi]

theorem mem_sites_of_mem_chain (hr : r ∈ root.sites) (h : s ∈ r.chain) :
    s ∈ root.sites := by
  obtain ⟨path, hpath⟩ := exists_follow_of_mem_chain h
  exact Tree.follow_mem_spots hr hpath

theorem exists_elseIf?_of_not_isChainRoot (hs : s ∈ root.sites) (hk : s.kind = .branch)
    (h : s.isChainRoot = false) :
    ∃ p ∈ root.sites, s.parent? = some p ∧ p.kind = .branch ∧ p.elseIf? = some s := by
  rw [isChainRoot] at h
  cases hp : s.parent? with
  | none => simp [hp] at h
  | some p =>
    obtain ⟨hkind, hlink⟩ : kind p = .branch ∧ s.isLinkOf p .alternate = true := by
      simpa [hp] using h
    refine ⟨p, (Tree.exists_child?_of_parent? hs hp).1, rfl, hkind, ?_⟩
    rw [elseIf?, link_of_isLinkOf hs hp hlink, Option.filter_some, hk]
    rfl

theorem exists_startsChain (hs : s ∈ root.sites) (hk : s.kind = .branch) :
    ∃ r ∈ root.sites, r.startsChain = true ∧ s ∈ r.chain := by
  induction s, hs using Tree.parent_induction with
  | step s hs ih =>
    cases h : isChainRoot s with
    | true => exact ⟨s, hs, by simp [startsChain, hk, h], self_mem_chain s⟩
    | false =>
      obtain ⟨p, hp, hparent, hkind, hnext⟩ := exists_elseIf?_of_not_isChainRoot hs hk h
      obtain ⟨r, hr, hstarts, hmem⟩ := ih p hp hparent hkind
      exact ⟨r, hr, hstarts, mem_chain_of_elseIf? hmem hnext⟩

variable (hbelow : ∀ s ∈ root.sites, ∀ u : Site, s.link .alternate = some u → u.parent? = some s)
include hbelow

theorem parent?_of_elseIf? (hp : p ∈ root.sites) (h : p.elseIf? = some s) :
    s.parent? = some p :=
  hbelow p hp s (link_of_elseIf? h).1

theorem not_isChainRoot_of_elseIf? (hp : p ∈ root.sites) (hk : p.kind = .branch)
    (h : p.elseIf? = some s) : s.isChainRoot = false := by
  rw [isChainRoot, parent?_of_elseIf? hbelow hp h]
  simp [hk, isLinkOf_of_link (link_of_elseIf? h).1]

-- Upwards from a branch that two chains share: its parent is in both, until one of them starts.
theorem eq_of_mem_chain {q : Site} (hr : r ∈ root.sites) (hq : q ∈ root.sites)
    (hs : r.startsChain = true) (hs' : q.startsChain = true) (h : s ∈ r.chain) (h' : s ∈ q.chain) :
    r = q := by
  obtain ⟨hrk, hrr⟩ : r.kind = .branch ∧ r.isChainRoot = true := by simpa [startsChain] using hs
  obtain ⟨hqk, hqr⟩ : q.kind = .branch ∧ q.isChainRoot = true := by simpa [startsChain] using hs'
  have hmem := mem_sites_of_mem_chain hr h
  induction s, hmem using Tree.parent_induction with
  | step s _ ih =>
    rcases eq_or_exists_elseIf?_of_mem_chain h with rfl | ⟨p, hp, hnext⟩
    · rcases eq_or_exists_elseIf?_of_mem_chain h' with rfl | ⟨p, hp, hnext⟩
      · rfl
      · have hroot := not_isChainRoot_of_elseIf? hbelow (mem_sites_of_mem_chain hq hp)
          (kind_of_mem_chain hqk hp) hnext
        simp [hrr] at hroot
    · have hmem := mem_sites_of_mem_chain hr hp
      rcases eq_or_exists_elseIf?_of_mem_chain h' with rfl | ⟨p', hp', hnext'⟩
      · have hroot := not_isChainRoot_of_elseIf? hbelow hmem (kind_of_mem_chain hrk hp) hnext
        simp [hqr] at hroot
      · have hparent := parent?_of_elseIf? hbelow hmem hnext
        have hparent' := parent?_of_elseIf? hbelow (mem_sites_of_mem_chain hq hp') hnext'
        obtain rfl := Option.some.inj (hparent.symm.trans hparent')
        exact ih p hmem hparent hp hp'

end InTree

end Site

structure FormsChains (root : SyntaxTree) : Prop where
  ends : ∀ s ∈ root.sites, s.kind = .branch → ∃ n, s.afterAlternates n = none
  partition : ∀ s ∈ root.sites, s.kind = .branch →
    ∃! r, r ∈ root.sites ∧ r.startsChain = true ∧ s ∈ r.chain
  members : ∀ r ∈ root.sites, r.startsChain = true → r.chain.Nodup ∧
    ∀ s ∈ r.chain, s ∈ root.sites ∧ s.kind = .branch ∧ (r = s ∨ r ∈ s.ancestors)
  length : ∀ r ∈ root.sites, r.startsChain = true →
    r.code.chainLength = r.chain.length + if r.chain.getLast?.any Site.hasElse then 1 else 0

open Site in
theorem formsChains_ofParse (source : Source) (t : ParseTree) :
    FormsChains (SyntaxTree.ofParse source t) where
  ends s _ _ := s.exists_afterAlternates_eq_none
  partition s hs hk := by
    obtain ⟨r, hr, hstarts, hmem⟩ := exists_startsChain hs hk
    refine ⟨r, ⟨hr, hstarts, hmem⟩, ?_⟩
    rintro q ⟨hq, hstarts', hmem'⟩
    have hbelow : ∀ s ∈ (SyntaxTree.ofParse source t).sites, ∀ u : Site,
        s.link .alternate = some u → u.parent? = some s :=
      fun s hs u => Outline.parent?_of_link hs (by decide)
    exact eq_of_mem_chain hbelow hq hr hstarts' hstarts hmem' hmem
  members r hr hstarts := by
    have hkind : r.kind = .branch := by
      rw [startsChain, Bool.and_eq_true_iff] at hstarts
      exact of_decide_eq_true hstarts.1
    refine ⟨r.nodup_chain, fun s hs => ⟨mem_sites_of_mem_chain hr hs, ?_, ?_⟩⟩
    · exact kind_of_mem_chain hkind hs
    · exact eq_or_mem_ancestors_of_mem_chain hs
  length r _ _ := r.chainLength_eq

end DesignLint
