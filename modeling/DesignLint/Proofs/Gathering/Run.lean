import DesignLint.Context
import DesignLint.Proofs.Assoc
import DesignLint.Proofs.Tree.Walk

namespace DesignLint

namespace Site

def isClassLike (s : Site) : Bool :=
  s.kind = .classDecl || s.kind = .interfaceDecl

def isNumbered (s : Site) : Bool :=
  s.kind = .object && Declaration.isObjectInterface s

def use? (s : Site) : Option Use :=
  match s.kind with
  | .call => Use.ofCall? s.code
  | .member => Use.ofMember? s.code
  | _ => none

end Site

namespace SiteIndex

theorem lookup_cons_eq {α : Type} (kind k : Kind) (a : α) (rest : List (Kind × α)) :
    ((k, a) :: rest).lookup kind = if k = kind then some a else rest.lookup kind := by
  by_cases hk : k = kind
  · simp [hk]
  · have hne : (kind == k) = false := beq_false_of_ne fun h => hk h.symm
    rw [List.lookup_cons, hne, if_neg hk]

theorem ofKind_add (i : SiteIndex) (s : Site) (kind : Kind) :
    (i.add s).ofKind kind = i.ofKind kind ++ if s.kind = kind then [s] else [] := by
  simp only [add, ofKind]
  induction i.byKind with
  | nil => by_cases hs : s.kind = kind <;> simp [addTo, lookup_cons_eq, hs]
  | cons e rest ih =>
    obtain ⟨k, sites⟩ := e
    by_cases hk : k = s.kind
    · by_cases hs : s.kind = kind <;> simp [addTo, lookup_cons_eq, hk, hs]
    · rw [addTo, if_neg hk, lookup_cons_eq, lookup_cons_eq]
      by_cases hkind : k = kind
      · have hs : s.kind ≠ kind := fun h => hk (hkind.trans h.symm)
        simp [hkind, hs]
      · rw [if_neg hkind, if_neg hkind, ih]

end SiteIndex

namespace Gathering

def registration? (limit : Int) (file : String) (objects : Nat) (s : Site) : Option Declaration :=
  if s.isClassLike then some (Declaration.ofClass limit file s)
  else if s.isNumbered then some (Declaration.ofObject limit file (objects + 1) s)
  else none

def registrationsFrom (limit : Int) (file : String) (objects : Nat) : List Site → List Declaration
  | [] => []
  | s :: rest =>
    (registration? limit file objects s).toList ++
      registrationsFrom limit file (objects + if s.isNumbered then 1 else 0) rest

def registrations (limit : Int) (file : String) (sites : List Site) : List Declaration :=
  registrationsFrom limit file 0 sites

def classDeclarations (limit : Int) (file : String) (sites : List Site) : List Declaration :=
  (sites.filter Site.isClassLike).map (Declaration.ofClass limit file)

theorem registrationsFrom_append (limit : Int) (file : String) (objects : Nat)
    (a b : List Site) :
    registrationsFrom limit file objects (a ++ b) =
      registrationsFrom limit file objects a ++
        registrationsFrom limit file (objects + a.countP Site.isNumbered) b := by
  induction a generalizing objects with
  | nil => rfl
  | cons s rest ih =>
    rw [List.cons_append, registrationsFrom, ih, registrationsFrom, List.append_assoc,
      List.countP_cons, Nat.add_assoc, Nat.add_comm (rest.countP _)]

theorem registrations_concat (limit : Int) (file : String) (sites : List Site) (s : Site) :
    registrations limit file (sites ++ [s]) = registrations limit file sites ++
      (registration? limit file (sites.countP Site.isNumbered) s).toList := by
  simp [registrations, registrationsFrom_append, registrationsFrom]

theorem classDeclarations_concat (limit : Int) (file : String) (sites : List Site) (s : Site) :
    classDeclarations limit file (sites ++ [s]) = classDeclarations limit file sites ++
      if s.isClassLike then [Declaration.ofClass limit file s] else [] := by
  cases h : s.isClassLike <;> simp [classDeclarations, List.filter_append, h]

def recordAll (ds : List Declaration) : Inheritance :=
  ds.foldl (fun g d => g.record d.name d.superclass) []

theorem recordAll_concat (ds : List Declaration) (d : Declaration) :
    recordAll (ds ++ [d]) = (recordAll ds).record d.name d.superclass := by
  simp [recordAll]

def step (limit : Int) (file : String) (g : Gathering) (s : Site) : Gathering where
  index := g.index.add s
  registry := (registration? limit file g.objects s).elim g.registry g.registry.register
  objects := g.objects + if s.isNumbered then 1 else 0
  declared := g.declared ++ if s.isClassLike then [Declaration.ofClass limit file s] else []
  inheritance :=
    if s.isClassLike then
      let d := Declaration.ofClass limit file s
      g.inheritance.record d.name d.superclass
    else g.inheritance
  uses := g.uses ++ s.use?.toList
  marked := g.marked

theorem dispatch_walker (limit : Int) (file : String) (g : Gathering) (s : Site) :
    (walker limit file).dispatch Site.kind g s = step limit file g s := by
  cases ho : Declaration.isObjectInterface s <;> cases h : s.kind <;>
    simp [walker, Walker.dispatch, Walker.registered, Walker.on, Walker.onEnd, step, h, ho, visit,
      addClass, addObject, addUse, registration?, Site.isClassLike, Site.isNumbered, Site.use?]

structure Gathered (limit : Int) (file : String) (sites : List Site) (g : Gathering) : Prop where
  inOrder : g.index.inOrder = sites
  ofKind : ∀ kind, g.index.ofKind kind = sites.filter fun s => s.kind = kind
  objects : g.objects = sites.countP Site.isNumbered
  declared : g.declared = classDeclarations limit file sites
  registry : g.registry = Assoc.putAll Declaration.name (registrations limit file sites)
  inheritance : g.inheritance = recordAll (classDeclarations limit file sites)
  uses : g.uses = sites.filterMap Site.use?

variable {limit : Int} {file : String} {sites : List Site} {g : Gathering}

theorem gathered_step (h : Gathered limit file sites g) (s : Site) :
    Gathered limit file (sites ++ [s]) (step limit file g s) where
  inOrder := by simp [step, SiteIndex.add, h.inOrder]
  ofKind := by
    intro kind
    rw [step, SiteIndex.ofKind_add, h.ofKind, List.filter_append]
    by_cases hs : s.kind = kind <;> simp [hs]
  objects := by simp [step, h.objects]
  declared := by simp [step, h.declared, classDeclarations_concat]
  registry := by
    rw [registrations_concat, step, h.objects, h.registry]
    cases registration? limit file (sites.countP Site.isNumbered) s with
    | none => simp
    | some d => exact (Assoc.putAll_concat _ _ d).symm
  inheritance := by
    rw [classDeclarations_concat, step, h.inheritance]
    cases s.isClassLike <;> simp [recordAll_concat]
  uses := by cases hu : s.use? <;> simp [step, h.uses, hu]

theorem gathered_foldl (h : Gathered limit file sites g) (rest : List Site) :
    Gathered limit file (sites ++ rest) (rest.foldl (step limit file) g) := by
  induction rest generalizing sites g with
  | nil => simpa using h
  | cons s rest ih => simpa using ih (gathered_step h s)

theorem gathered_empty (limit : Int) (file : String) : Gathered limit file [] {} where
  inOrder := rfl
  ofKind := fun _ => rfl
  objects := rfl
  declared := rfl
  registry := rfl
  inheritance := rfl
  uses := rfl

end Gathering

namespace Context

def slashed (path : String) : String :=
  String.ofList (path.toList.map fun c => if c = '\\' then '/' else c)

theorem exists_gathered (path : String) (limit : Int) (root : SyntaxTree) :
    ∃ g : Gathering, Gathering.Gathered limit (slashed path) (root.visited limit) g ∧
      Context.collect path limit root =
        ⟨slashed path, limit, g.close, (root.visited limit).length⟩ := by
  refine ⟨(root.visited limit).foldl (Gathering.step limit (slashed path)) {}, ?_, ?_⟩
  · simpa using Gathering.gathered_foldl (Gathering.gathered_empty limit (slashed path))
      (root.visited limit)
  · have hd : (Gathering.walker limit (slashed path)).dispatch Site.kind =
        Gathering.step limit (slashed path) := by
      funext g s
      exact Gathering.dispatch_walker limit (slashed path) g s
    rw [← hd, ← Tree.walk_spots]
    rfl

theorem sites_collect (path : String) (limit : Int) (root : SyntaxTree) (first second : Kind)
    (rest : List Kind) :
    (collect path limit root).sites (first :: second :: rest) =
      (root.visited limit).filter fun s => (first :: second :: rest).contains (Site.kind s) := by
  obtain ⟨g, hg, hc⟩ := exists_gathered path limit root
  rw [hc]
  change g.index.inOrder.filter _ = _
  rw [hg.inOrder]
  rfl

theorem sites_collect_single (path : String) (limit : Int) (root : SyntaxTree) (kind : Kind) :
    (collect path limit root).sites [kind] =
      (root.visited limit).filter fun s => Site.kind s = kind := by
  obtain ⟨g, hg, hc⟩ := exists_gathered path limit root
  rw [hc]
  exact hg.ofKind kind

end Context

end DesignLint
