import DesignLint.Metric.Callable
import DesignLint.Proofs.Tree.Levels
import DesignLint.SyntaxTree.Fold

namespace DesignLint

namespace Tree

variable {α : Type} {t u : Tree α}

theorem subtrees_eq (t : Tree α) : t.subtrees = t :: forestSubtrees t.children := by
  obtain ⟨a, cs⟩ := t
  rw [subtrees, children]

theorem mem_forestSubtrees {cs : List (Tree α)} :
    u ∈ forestSubtrees cs ↔ ∃ c ∈ cs, u ∈ c.subtrees := by
  rw [forestSubtrees_eq_flatMap, List.mem_flatMap]

theorem exists_child_of_follow {i : Nat} {rest : List Nat} (h : t.follow (i :: rest) = some u) :
    ∃ c ∈ t.children, c.follow rest = some u := by
  rw [follow] at h
  split at h
  · next c hc => exact ⟨c, List.mem_of_getElem? hc, h⟩
  · cases h

theorem mem_subtrees_of_follow {path : List Nat} (h : t.follow path = some u) :
    u ∈ t.subtrees := by
  rw [subtrees_eq]
  induction path generalizing t with
  | nil =>
    obtain rfl := Option.some.inj h
    exact List.mem_cons_self
  | cons i rest ih =>
    obtain ⟨c, hc, hfollow⟩ := exists_child_of_follow h
    have hbelow : u ∈ c.subtrees := by
      rw [subtrees_eq]
      exact ih hfollow
    exact List.mem_cons_of_mem _ (mem_forestSubtrees.mpr ⟨c, hc, hbelow⟩)

mutual
theorem subtrees_sublist_of_mem :
    ∀ t : Tree α, ∀ u ∈ t.subtrees, u.subtrees.Sublist t.subtrees
  | node a cs => by
    intro u hu
    rw [subtrees] at hu ⊢
    rcases List.mem_cons.mp hu with rfl | hu
    · rw [subtrees]
    · exact (subtrees_sublist_of_mem_forest cs u hu).cons _

theorem subtrees_sublist_of_mem_forest :
    ∀ cs : List (Tree α), ∀ u ∈ forestSubtrees cs, u.subtrees.Sublist (forestSubtrees cs)
  | [] => by
    intro u hu
    cases hu
  | c :: cs => by
    intro u hu
    rw [forestSubtrees] at hu ⊢
    rcases List.mem_append.mp hu with hu | hu
    · exact (subtrees_sublist_of_mem c u hu).trans (List.sublist_append_left _ _)
    · exact (subtrees_sublist_of_mem_forest cs u hu).trans (List.sublist_append_right _ _)
end

theorem walk_sublist_subtrees (limit : Int) (withRoot : Bool) (t : Tree α) :
    (t.walk limit withRoot).Sublist t.subtrees := by
  rw [walk_eq_within, within, ← map_snd_leveled 0 t]
  exact List.filter_sublist.map Prod.snd

end Tree

namespace SyntaxTree

variable {f g body : SyntaxTree} {limit : Int}

theorem subtrees_link_sublist {role : Role} {u : SyntaxTree} (h : f.link role = some u) :
    u.subtrees.Sublist (Tree.forestSubtrees f.children) := by
  obtain ⟨path, hpath, hfollow⟩ := Option.bind_eq_some_iff.mp h
  cases path with
  | nil => simp [linkAddress, Option.filter_eq_some_iff] at hpath
  | cons i rest =>
    obtain ⟨c, hc, hbelow⟩ := Tree.exists_child_of_follow hfollow
    refine Tree.subtrees_sublist_of_mem_forest _ u ?_
    exact Tree.mem_forestSubtrees.mpr ⟨c, hc, Tree.mem_subtrees_of_follow hbelow⟩

theorem isDecision_of_opensScope (h : g.kind.opensScope = true) : g.isDecision = true := by
  rw [isDecision]
  cases hk : g.kind <;> simp [hk, Kind.opensScope] at h ⊢

theorem bodyNodes_sublist (limit : Int) (g : SyntaxTree) :
    (g.bodyNodes limit).Sublist (Tree.forestSubtrees g.children) := by
  rw [bodyNodes]
  split
  · next body hbody =>
    exact (Tree.walk_sublist_subtrees limit true body).trans (subtrees_link_sublist hbody)
  · exact List.nil_sublist _

def statements (limit : Int) (f : SyntaxTree) : List SyntaxTree :=
  match f.link .body with
  | some body => if body.kind = .block then body.walk limit false else []
  | none => []

theorem statementCount_eq (limit : Int) (f : SyntaxTree) :
    f.statementCount limit = (f.statements limit).countP (·.label.isStatement) := by
  rw [statementCount, statements]
  cases f.link .body with
  | none => rfl
  | some body =>
    dsimp only
    split <;> rfl

theorem statements_sublist (limit : Int) (g : SyntaxTree) :
    (g.statements limit).Sublist (Tree.forestSubtrees g.children) := by
  rw [statements]
  split
  · next body hbody =>
    split
    · exact (Tree.walk_sublist_subtrees limit false body).trans (subtrees_link_sublist hbody)
    · exact List.nil_sublist _
  · exact List.nil_sublist _

theorem complexity_le_of_le {narrow wide : Int} (h : narrow ≤ wide) (f : SyntaxTree) :
    f.complexity narrow ≤ f.complexity wide := by
  refine Nat.add_le_add_left (List.Sublist.countP_le ?_) 1
  rw [bodyNodes, bodyNodes]
  split
  · exact Tree.walk_sublist_of_le h true _
  · exact .refl _

theorem statementCount_le_of_le {narrow wide : Int} (h : narrow ≤ wide) (f : SyntaxTree) :
    f.statementCount narrow ≤ f.statementCount wide := by
  rw [statementCount_eq, statementCount_eq]
  refine List.Sublist.countP_le ?_
  rw [statements, statements]
  split
  · split
    · exact Tree.walk_sublist_of_le h false _
    · exact .refl _
  · exact .refl _

theorem complexity_of_height_le (h : f.link .body = some body)
    (hlimit : Int.ofNat body.height ≤ limit) :
    f.complexity limit = 1 + body.subtrees.countP isDecision := by
  rw [complexity, bodyNodes, h]
  dsimp only
  rw [Tree.walk_of_height_le hlimit, if_pos rfl]

theorem statementCount_of_height_le (h : f.link .body = some body)
    (hlimit : Int.ofNat body.height ≤ limit) :
    f.statementCount limit =
      if body.kind = .block then
        (Tree.forestSubtrees body.children).countP (·.label.isStatement) else 0 := by
  rw [statementCount_eq, statements, h]
  dsimp only
  rw [Tree.walk_of_height_le hlimit]
  split <;> rfl

theorem complexity_lt_of_mem (h : f.link .body = some body)
    (hlimit : Int.ofNat body.height ≤ limit) (hg : g ∈ body.subtrees)
    (hscope : g.kind.opensScope = true) : g.complexity limit < f.complexity limit := by
  have hinner : (g.bodyNodes limit).countP isDecision ≤
      (Tree.forestSubtrees g.children).countP isDecision := (bodyNodes_sublist limit g).countP_le
  have hself : g.subtrees.countP isDecision =
      (Tree.forestSubtrees g.children).countP isDecision + 1 := by
    rw [Tree.subtrees_eq, List.countP_cons_of_pos (isDecision_of_opensScope hscope)]
  have houter : g.subtrees.countP isDecision ≤ body.subtrees.countP isDecision :=
    (Tree.subtrees_sublist_of_mem body g hg).countP_le
  rw [complexity_of_height_le h hlimit, complexity]
  omega

theorem statementCount_le_of_mem (h : f.link .body = some body)
    (hlimit : Int.ofNat body.height ≤ limit) (hblock : body.kind = .block)
    (hg : g ∈ body.subtrees) (hscope : g.kind.opensScope = true) :
    g.statementCount limit ≤ f.statementCount limit := by
  -- a block is no function, so the function stands below it
  have hbelow : g ∈ Tree.forestSubtrees body.children := by
    rw [Tree.subtrees_eq] at hg
    rcases List.mem_cons.mp hg with rfl | hg
    · rw [hblock] at hscope
      cases hscope
    · exact hg
  have hsub : g.subtrees.Sublist (Tree.forestSubtrees body.children) :=
    Tree.subtrees_sublist_of_mem_forest _ g hbelow
  rw [Tree.subtrees_eq] at hsub
  rw [statementCount_of_height_le h hlimit, if_pos hblock, statementCount_eq]
  exact ((statements_sublist limit g).trans ((List.sublist_cons_self _ _).trans hsub)).countP_le

theorem metrics_of_nested (h : f.link .body = some body) :
    (∀ narrow wide : Int, narrow ≤ wide →
      f.complexity narrow ≤ f.complexity wide ∧
      f.statementCount narrow ≤ f.statementCount wide) ∧
    ∀ limit, Int.ofNat body.height ≤ limit →
      f.complexity limit = f.complexity (Int.ofNat body.height) ∧
      f.statementCount limit = f.statementCount (Int.ofNat body.height) ∧
      ∀ g ∈ body.subtrees, Kind.opensScope (kind g) = true →
        complexity limit g < f.complexity limit ∧
        (body.kind = .block → statementCount limit g ≤ f.statementCount limit) := by
  refine ⟨fun narrow wide hle => ?_, fun limit hlimit => ⟨?_, ?_, ?_⟩⟩
  · exact ⟨complexity_le_of_le hle f, statementCount_le_of_le hle f⟩
  · rw [complexity_of_height_le h hlimit, complexity_of_height_le h (Int.le_refl _)]
  · rw [statementCount_of_height_le h hlimit, statementCount_of_height_le h (Int.le_refl _)]
  · intro g hg hscope
    refine ⟨complexity_lt_of_mem h hlimit hg hscope, fun hblock => ?_⟩
    exact statementCount_le_of_mem h hlimit hblock hg hscope

def curriedSource : Source :=
  Text.Utf8.encode "function f() \x7b return x => y => \x7b if (y) return x; \x7d; \x7d"

def curriedTree : ParseTree :=
  let named (type : String) (field : Option String) (start stop : Nat) (cs : List ParseTree) :
      ParseTree := .node ⟨type, start, stop, true, field⟩ cs
  named "function_declaration" none 0 55 [
    named "identifier" (some "name") 9 10 [],
    named "statement_block" (some "body") 13 55 [
      named "return_statement" none 15 53 [
        named "arrow_function" none 22 52 [
          named "identifier" (some "parameter") 22 23 [],
          named "arrow_function" (some "body") 27 52 [
            named "identifier" (some "parameter") 27 28 [],
            named "statement_block" (some "body") 32 52 [
              named "if_statement" none 34 50 [
                named "identifier" (some "condition") 38 39 [],
                named "return_statement" (some "consequence") 41 50 []]]]]]]]

def curried : SyntaxTree :=
  ofParse curriedSource curriedTree

theorem metrics_of_curried :
    ∃ body, curried.link .body = some body ∧ body.kind = .block ∧
      Int.ofNat body.height ≤ 50 ∧
      ∃ g ∈ body.subtrees, Kind.opensScope (kind g) = true ∧
        complexity 50 g < curried.complexity 50 ∧
        statementCount 50 g ≤ curried.statementCount 50 ∧
        (complexity 50 g, statementCount 50 g) = (2, 2) ∧
        (curried.complexity 50, curried.statementCount 50) = (4, 3) := by
  obtain ⟨body, hbody, hinner⟩ : ∃ body, curried.link .body = some body ∧
      (body.kind = .block && decide (Int.ofNat body.height ≤ 50) && body.subtrees.any fun g =>
        (kind g).opensScope && decide ((complexity 50 g, statementCount 50 g) = (2, 2))) = true :=
    (Option.any_eq_true _ _).mp (by decide +kernel)
  simp only [Bool.and_eq_true, decide_eq_true_eq] at hinner
  obtain ⟨⟨hblock, hheight⟩, hany⟩ := hinner
  obtain ⟨g, hg, hmetrics⟩ := List.any_eq_true.mp hany
  obtain ⟨hscope, hmetrics⟩ := Bool.and_eq_true_iff.mp hmetrics
  obtain ⟨-, hdeep⟩ := metrics_of_nested hbody
  obtain ⟨hcomplexity, hstatements⟩ := (hdeep 50 hheight).2.2 g hg hscope
  refine ⟨body, hbody, hblock, hheight, g, hg, hscope, hcomplexity, hstatements hblock, ?_, ?_⟩
  · exact of_decide_eq_true hmetrics
  · decide +kernel

end SyntaxTree

end DesignLint
