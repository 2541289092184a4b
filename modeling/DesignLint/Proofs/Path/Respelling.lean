import DesignLint.Proofs.Path.Directories
import Mathlib.Data.List.Induction
import Mathlib.Logic.Relation

namespace DesignLint

namespace Text

theorem split_append (separator : Char) (a b : List Char) :
    split separator (a ++ separator :: b) = split separator a ++ split separator b := by
  induction a with
  | nil => simp [split]
  | cons c cs ih =>
    rw [List.cons_append, split, split, ih]
    by_cases hc : c = separator
    · rw [if_pos hc, if_pos hc, List.cons_append]
    · rw [if_neg hc, if_neg hc]
      cases hcs : split separator cs with
      | nil => exact absurd hcs (split_ne_nil separator cs)
      | cons part parts => rfl

theorem not_mem_of_mem_split {separator : Char} {s part : List Char}
    (h : part ∈ split separator s) : separator ∉ part := by
  induction s generalizing part with
  | nil =>
    obtain rfl := List.mem_singleton.mp h
    exact List.not_mem_nil
  | cons c cs ih =>
    rw [split] at h
    by_cases hc : c = separator
    · rw [if_pos hc] at h
      rcases List.mem_cons.mp h with rfl | h
      · exact List.not_mem_nil
      · exact ih h
    · rw [if_neg hc] at h
      cases hcs : split separator cs with
      | nil => exact absurd hcs (split_ne_nil separator cs)
      | cons first parts =>
        rw [hcs] at h ih
        rcases List.mem_cons.mp h with rfl | h
        · intro hm
          rcases List.mem_cons.mp hm with he | hm
          · exact hc he.symm
          · exact ih List.mem_cons_self hm
        · exact ih (List.mem_cons_of_mem first h)

end Text

namespace Path

open Relation (ReflTransGen)

structure IsName (segment : List Char) : Prop where
  nonempty : segment ≠ []
  notHere : segment ≠ ['.']
  notAbove : segment ≠ ['.', '.']
  noSlash : '/' ∉ segment

inductive Shortens : List (List Char) → List (List Char) → Prop
  | blank (before after : List (List Char)) : Shortens (before ++ [] :: after) (before ++ after)
  | here (before after : List (List Char)) : Shortens (before ++ ['.'] :: after) (before ++ after)
  | detour (before : List (List Char)) {name : List Char} (h : IsName name)
      (after : List (List Char)) :
      Shortens (before ++ name :: ['.', '.'] :: after) (before ++ after)

theorem Shortens.append {a b : List (List Char)} (h : Shortens a b) (rest : List (List Char)) :
    Shortens (a ++ rest) (b ++ rest) := by
  cases h with
  | blank before after => simpa using blank before (after ++ rest)
  | here before after => simpa using here before (after ++ rest)
  | detour before hname after => simpa using detour before hname (after ++ rest)

section Push

variable (rooted : Bool) (before : List (List Char))

@[simp] theorem pushSegment_nil : pushSegment rooted before [] = before := by
  simp [pushSegment]

@[simp] theorem pushSegment_here : pushSegment rooted before ['.'] = before := by
  simp [pushSegment]

theorem pushSegment_name {name : List Char} (h : IsName name) :
    pushSegment rooted before name = name :: before := by
  simp [pushSegment, h.nonempty, h.notHere, h.notAbove]

theorem pushSegment_above_name {name : List Char} (h : IsName name) :
    pushSegment rooted (name :: before) ['.', '.'] = before := by
  simp [pushSegment, h.notAbove]

theorem pushSegment_above_above :
    pushSegment rooted (['.', '.'] :: before) ['.', '.'] = ['.', '.'] :: ['.', '.'] :: before := by
  simp [pushSegment]

theorem foldl_pushSegment_of_shortens {a b : List (List Char)} (h : Shortens a b) :
    a.foldl (pushSegment rooted) before = b.foldl (pushSegment rooted) before := by
  cases h with
  | blank => simp
  | here => simp
  | detour _ hname => simp [pushSegment_name _ _ hname, pushSegment_above_name _ _ hname]

end Push

def IsTidy (segments : List (List Char)) : Prop :=
  ∃ ups names, segments = List.replicate ups ['.', '.'] ++ names ∧ ∀ name ∈ names, IsName name

theorem IsTidy.nonempty {segments : List (List Char)} (h : IsTidy segments) {s : List Char}
    (hs : s ∈ segments) : s ≠ [] := by
  obtain ⟨ups, names, rfl, hnames⟩ := h
  rcases List.mem_append.mp hs with hs | hs
  · rw [List.eq_of_mem_replicate hs]
    simp
  · exact (hnames s hs).nonempty

theorem segment_cases {segment : List Char} (h : '/' ∉ segment) :
    segment = [] ∨ segment = ['.'] ∨ segment = ['.', '.'] ∨ IsName segment := by
  by_cases hnil : segment = []
  · exact .inl hnil
  · by_cases hhere : segment = ['.']
    · exact .inr (.inl hhere)
    · by_cases habove : segment = ['.', '.']
      · exact .inr (.inr (.inl habove))
      · exact .inr (.inr (.inr ⟨hnil, hhere, habove, h⟩))

theorem tidy_above {ups : Nat} {names : List (List Char)} (hnames : ∀ name ∈ names, IsName name) :
    ∃ tidied, pushSegment false (List.replicate ups ['.', '.'] ++ names).reverse ['.', '.'] =
        tidied.reverse ∧ IsTidy tidied ∧
      ReflTransGen Shortens (List.replicate ups ['.', '.'] ++ names ++ [['.', '.']]) tidied := by
  cases names using List.reverseRecOn with
  | nil =>
    have hups : List.replicate ups ['.', '.'] ++ [['.', '.']] =
        List.replicate (ups + 1) ['.', '.'] := List.replicate_succ'.symm
    refine ⟨List.replicate (ups + 1) ['.', '.'], ?_, ⟨ups + 1, [], by simp, by simp⟩, ?_⟩
    · cases ups with
      | zero => rfl
      | succ n =>
        rw [List.append_nil, List.reverse_replicate, List.reverse_replicate, List.replicate_succ,
          pushSegment_above_above, List.replicate_succ, List.replicate_succ]
    · rw [List.append_nil, hups]
  | append_singleton names name =>
    have hname : IsName name := hnames name (by simp)
    refine ⟨List.replicate ups ['.', '.'] ++ names, ?_, ⟨ups, names, rfl, ?_⟩, ?_⟩
    · rw [← List.append_assoc, List.reverse_append, List.reverse_singleton,
        List.singleton_append, pushSegment_above_name _ _ hname]
    · intro n hn
      exact hnames n (by simp [hn])
    · have hdetour := Shortens.detour (List.replicate ups ['.', '.'] ++ names) hname []
      exact .single (by simpa using hdetour)

-- A step of the walk along the segments, which keeps its stack reversed.
theorem tidy_step {segments : List (List Char)} (h : IsTidy segments) {segment : List Char}
    (hsegment : '/' ∉ segment) :
    ∃ tidied, pushSegment false segments.reverse segment = tidied.reverse ∧ IsTidy tidied ∧
      ReflTransGen Shortens (segments ++ [segment]) tidied := by
  rcases segment_cases hsegment with rfl | rfl | rfl | hname
  · exact ⟨segments, pushSegment_nil .., h, .single (by simpa using Shortens.blank segments [])⟩
  · exact ⟨segments, pushSegment_here .., h, .single (by simpa using Shortens.here segments [])⟩
  · obtain ⟨ups, names, rfl, hnames⟩ := h
    exact tidy_above hnames
  · obtain ⟨ups, names, rfl, hnames⟩ := h
    refine ⟨List.replicate ups ['.', '.'] ++ (names ++ [segment]), ?_, ⟨ups, _, rfl, ?_⟩, ?_⟩
    · rw [pushSegment_name _ _ hname]
      simp
    · intro n hn
      rcases List.mem_append.mp hn with hn | hn
      · exact hnames n hn
      · rwa [List.mem_singleton.mp hn]
    · rw [List.append_assoc]

theorem tidy_walk {segments : List (List Char)} (h : ∀ s ∈ segments, '/' ∉ s) :
    ∃ tidied, segments.foldl (pushSegment false) [] = tidied.reverse ∧ IsTidy tidied ∧
      ReflTransGen Shortens segments tidied := by
  induction segments using List.reverseRecOn with
  | nil => exact ⟨[], rfl, ⟨0, [], rfl, by simp⟩, .refl⟩
  | append_singleton segments segment ih =>
    obtain ⟨walked, hfold, hwalked, hshortens⟩ := ih fun s hs => h s (by simp [hs])
    obtain ⟨tidied, hpush, htidied, hstep⟩ := tidy_step hwalked (h segment (by simp))
    refine ⟨tidied, ?_, htidied, ?_⟩
    · rw [List.foldl_append, hfold, List.foldl_cons, List.foldl_nil, hpush]
    · exact (hshortens.lift (· ++ [segment]) fun a b hab => hab.append [segment]).trans hstep

def spelled (segments : List (List Char)) : List Char :=
  if segments = [] then ['.'] else Text.join ['/'] segments

theorem join_ne_nil {segments : List (List Char)} (h : IsTidy segments) (hne : segments ≠ []) :
    Text.join ['/'] segments ≠ [] := by
  cases segments with
  | nil => exact absurd rfl hne
  | cons first rest =>
    have hfirst : first ≠ [] := h.nonempty List.mem_cons_self
    cases rest with
    | nil => simpa [Text.join, List.intercalate] using hfirst
    | cons second rest => simp [Text.join, List.intercalate, hfirst]

theorem rootOf_cons_of_ne {c : Char} (h : c ≠ '/') (rest : List Char) :
    rootOf (c :: rest) = [] := by
  rw [rootOf] <;> simp [h]

theorem rootOf_slash_ne_nil (rest : List Char) : rootOf ('/' :: rest) ≠ [] := by
  rw [rootOf.eq_def]
  split <;> simp_all

theorem rootOf_eq_nil_iff (path : List Char) : rootOf path = [] ↔ isAbsolute path = false := by
  cases path with
  | nil => decide
  | cons c rest =>
    by_cases hc : c = '/'
    · subst hc
      exact iff_of_false (rootOf_slash_ne_nil rest) (by simp [isAbsolute])
    · exact iff_of_true (rootOf_cons_of_ne hc rest) (by simpa [isAbsolute] using hc)

theorem exists_tidy_normal {path : List Char} (h : isAbsolute path = false) :
    ∃ segments, IsTidy segments ∧ ReflTransGen Shortens (Text.split '/' path) segments ∧
      normal path = spelled segments := by
  have hroot : rootOf path = [] := (rootOf_eq_nil_iff path).mpr h
  obtain ⟨segments, hfold, htidy, hshortens⟩ :=
    tidy_walk fun s (hs : s ∈ Text.split '/' path) => Text.not_mem_of_mem_split hs
  refine ⟨segments, htidy, hshortens, ?_⟩
  simp only [normal, hroot, ne_eq, not_true_eq_false, decide_false, hfold, List.reverse_reverse,
    List.nil_append]
  by_cases hnil : segments = []
  · simp [spelled, hnil, Text.join, List.intercalate]
  · rw [spelled, if_neg hnil, if_neg (join_ne_nil htidy hnil)]

theorem rootOf_append_cons {c : Char} (h : c ≠ '/') (head a b : List Char) :
    rootOf (head ++ c :: a) = rootOf (head ++ c :: b) := by
  match head with
  | [] => rw [List.nil_append, List.nil_append, rootOf_cons_of_ne h, rootOf_cons_of_ne h]
  | [x] => by_cases hx : x = '/' <;> simp [rootOf, hx, h]
  | [x, y] => by_cases hx : x = '/' <;> by_cases hy : y = '/' <;> simp [rootOf, hx, hy, h]
  | x :: y :: z :: more =>
    by_cases hx : x = '/' <;> by_cases hy : y = '/' <;> by_cases hz : z = '/' <;>
      simp [rootOf, hx, hy, hz]

theorem not_isAbsolute_of_prefix {a b : List Char} (h : a <+: b) (hb : isAbsolute b = false) :
    isAbsolute a = false := by
  obtain ⟨rest, rfl⟩ := h
  cases a with
  | nil => rfl
  | cons c cs => simpa [isAbsolute] using hb

theorem directory_prefix (path : List Char) : directory path <+: path := by
  have hdrop (test : Char → Bool) (s : List Char) : Text.dropEndWhile test s <+: s := by
    have hreverse : Text.dropEndWhile test s <+: s.reverse.reverse :=
      List.reverse_prefix.mpr (List.dropWhile_suffix test)
    rwa [List.reverse_reverse] at hreverse
  have hhead : (path.reverse.dropWhile (· != '/')).reverse <+: path := hdrop (· != '/') path
  simp only [directory]
  split
  · exact hhead
  · exact (hdrop (· == '/') _).trans hhead

theorem exists_lead (dir : List Char) :
    ∃ lead, ∀ path, isAbsolute path = false → join dir path = lead ++ path := by
  by_cases h : (dir.isEmpty || dir.getLast? == some '/') = true
  · refine ⟨dir, fun path hpath => ?_⟩
    rw [join, hpath, if_neg Bool.false_ne_true, if_pos h]
  · refine ⟨dir ++ ['/'], fun path hpath => ?_⟩
    rw [join, hpath, if_neg Bool.false_ne_true, if_neg h, List.append_assoc, List.singleton_append]

theorem not_isAbsolute_join {dir path : List Char} (hdir : isAbsolute dir = false)
    (hpath : isAbsolute path = false) : isAbsolute (join dir path) = false := by
  rw [join, hpath, if_neg Bool.false_ne_true]
  cases dir with
  | nil => exact hpath
  | cons c cs =>
    split
    · exact hdir
    · exact hdir

theorem shortens_join {path : List Char} (h : isAbsolute path = false) (dir : List Char) :
    ReflTransGen Shortens (Text.split '/' dir ++ Text.split '/' path)
      (Text.split '/' (join dir path)) := by
  rw [join, h, if_neg Bool.false_ne_true]
  split
  · next hdir =>
    rcases Bool.or_eq_true_iff.mp hdir with hdir | hdir
    · obtain rfl := List.isEmpty_iff.mp hdir
      exact .single (Shortens.blank [] (Text.split '/' path))
    · obtain ⟨init, rfl⟩ := List.getLast?_eq_some_iff.mp (beq_iff_eq.mp hdir)
      rw [List.append_assoc, List.singleton_append, Text.split_append, Text.split_append,
        List.append_assoc]
      exact .single (Shortens.blank (Text.split '/' init) (Text.split '/' path))
  · rw [Text.split_append]

theorem normal_join_eq {u v w : List Char} (hu : ∃ rest, u = '.' :: rest)
    (h : ∀ before, Shortens (before ++ Text.split '/' w) (before ++ Text.split '/' v))
    (dir : List Char) : normal (join dir (u ++ '/' :: w)) = normal (join dir (u ++ '/' :: v)) := by
  obtain ⟨rest, rfl⟩ := hu
  obtain ⟨lead, hlead⟩ := exists_lead dir
  have hroot : rootOf (lead ++ '.' :: (rest ++ '/' :: w)) =
      rootOf (lead ++ '.' :: (rest ++ '/' :: v)) := rootOf_append_cons (by decide) _ _ _
  have hsplit (x : List Char) : Text.split '/' (lead ++ '.' :: (rest ++ '/' :: x)) =
      Text.split '/' (lead ++ '.' :: rest) ++ Text.split '/' x := by
    rw [← Text.split_append]
    simp
  have hshortens := h (Text.split '/' (lead ++ '.' :: rest))
  rw [← hsplit, ← hsplit] at hshortens
  rw [List.cons_append, List.cons_append, hlead _ rfl, hlead _ rfl]
  simp only [normal, hroot, foldl_pushSegment_of_shortens _ _ hshortens]

theorem prefix_append_slash (head : List Char) (hhead : '/' ∉ head) {u v : List Char}
    (h : head ++ ['/'] <+: u ++ '/' :: v) (w : List Char) : head ++ ['/'] <+: u ++ '/' :: w := by
  have hfirst (x : List Char) : u ++ ['/'] <+: u ++ '/' :: x := ⟨x, by simp⟩
  rcases List.prefix_or_prefix_of_prefix h (hfirst v) with hshort | ⟨rest, hlong⟩
  · exact hshort.trans (hfirst w)
  · cases rest using List.reverseRecOn with
    | nil =>
      rw [← hlong, List.append_nil]
      exact hfirst w
    | append_singleton rest c =>
      -- the first slash would stand within the head
      rw [← List.append_assoc] at hlong
      have hinit : u ++ ['/'] ++ rest = head := (List.append_inj' hlong rfl).1
      exact absurd (by simp [← hinit]) hhead

theorem split_here (path : String) :
    Text.split '/' ("./" ++ path).toList = ['.'] :: Text.split '/' path.toList := by
  rw [String.toList_append]
  exact Text.split_append '/' ['.'] path.toList

theorem split_detour {name : String} (h : IsName name.toList) (path : String) :
    Text.split '/' (name ++ "/../" ++ path).toList =
      name.toList :: ['.', '.'] :: Text.split '/' path.toList := by
  have hup : Text.split '/' ('.' :: '.' :: '/' :: path.toList) =
      ['.', '.'] :: Text.split '/' path.toList := Text.split_append '/' ['.', '.'] path.toList
  rw [← hup, ← Text.split_append_cons h.noSlash]
  simp

end Path

namespace PathClassifier

variable {c : PathClassifier} {path : String}

theorem exists_dot_of_isRelative (h : isRelative path = true) :
    ∃ rest, path.toList = '.' :: rest := by
  simp only [isRelative, Bool.or_eq_true, decide_eq_true_eq, Text.startsWith,
    List.isPrefixOf_iff_prefix] at h
  rcases h with ((⟨rest, h⟩ | ⟨rest, h⟩) | rfl) | rfl
  · exact ⟨'/' :: rest, h.symm⟩
  · exact ⟨'.' :: '/' :: rest, h.symm⟩
  · exact ⟨[], rfl⟩
  · exact ⟨['.'], rfl⟩

theorem not_isAbsolute_of_isRelative (h : isRelative path = true) :
    Path.isAbsolute path.toList = false := by
  obtain ⟨rest, hpath⟩ := exists_dot_of_isRelative h
  rw [hpath]
  rfl

theorem isExternal_of_isRelative (h : isRelative path = true) : c.isExternal path = false := by
  rw [isExternal, h]
  rfl

theorem resolveImport_of_isRelative (h : isRelative path = true) (halias : c.aliasFor path = none)
    (importer : String) :
    c.resolveImport path importer = String.ofList (Path.normal
      (Path.join (Path.directory (Path.slashed importer.toList)) path.toList)) := by
  rw [resolveImport, halias, isExternal_of_isRelative h, not_isAbsolute_of_isRelative h]
  rfl

def StartsRelative (path : String) : Prop :=
  Text.startsWith path "./" = true ∨ Text.startsWith path "../" = true

theorem StartsRelative.isRelative (h : StartsRelative path) : isRelative path = true := by
  rcases h with h | h <;> simp [PathClassifier.isRelative, h]

theorem StartsRelative.respelled {u v : String} (h : StartsRelative (u ++ "/" ++ v)) (w : String) :
    StartsRelative (u ++ "/" ++ w) := by
  have hlist (x : String) : (u ++ "/" ++ x).toList = u.toList ++ '/' :: x.toList := by simp
  simp only [StartsRelative, Text.startsWith, List.isPrefixOf_iff_prefix, hlist] at h ⊢
  refine h.imp (fun h => ?_) (fun h => ?_)
  · exact Path.prefix_append_slash ['.'] (by decide) h _
  · exact Path.prefix_append_slash ['.', '.'] (by decide) h _

theorem resolveImport_eq_of_shortens {u v w : String} (h : StartsRelative (u ++ "/" ++ v))
    (hshortens : ∀ before, Path.Shortens (before ++ Text.split '/' w.toList)
      (before ++ Text.split '/' v.toList))
    (hv : c.aliasFor (u ++ "/" ++ v) = none) (hw : c.aliasFor (u ++ "/" ++ w) = none)
    (importer : String) :
    c.resolveImport (u ++ "/" ++ w) importer = c.resolveImport (u ++ "/" ++ v) importer := by
  have hlist (x : String) : (u ++ "/" ++ x).toList = u.toList ++ '/' :: x.toList := by simp
  have hu : ∃ rest, u.toList = '.' :: rest := by
    obtain ⟨rest, hrest⟩ := exists_dot_of_isRelative h.isRelative
    rw [hlist] at hrest
    cases hu : u.toList with
    | nil =>
      rw [hu] at hrest
      cases hrest
    | cons d ds =>
      rw [hu] at hrest
      obtain ⟨rfl, -⟩ := List.cons.inj hrest
      exact ⟨ds, rfl⟩
  rw [resolveImport_of_isRelative (h.respelled w).isRelative hw,
    resolveImport_of_isRelative h.isRelative hv, hlist, hlist, Path.normal_join_eq hu hshortens]

theorem exists_tidy_resolveImport (h : isRelative path = true) (halias : c.aliasFor path = none)
    {importer : String} (himporter : Path.isAbsolute (Path.slashed importer.toList) = false) :
    ∃ segments, Path.IsTidy segments ∧
      Relation.ReflTransGen Path.Shortens
        (Text.split '/' (Path.directory (Path.slashed importer.toList)) ++
          Text.split '/' path.toList) segments ∧
      (c.resolveImport path importer).toList = Path.spelled segments := by
  have hpath := not_isAbsolute_of_isRelative h
  have hdir := Path.not_isAbsolute_of_prefix (Path.directory_prefix _) himporter
  obtain ⟨segments, htidy, hshortens, hnormal⟩ :=
    Path.exists_tidy_normal (Path.not_isAbsolute_join hdir hpath)
  refine ⟨segments, htidy, (Path.shortens_join hpath _).trans hshortens, ?_⟩
  rw [resolveImport_of_isRelative h halias, String.toList_ofList, hnormal]

theorem resolveImport_respelled (c : PathClassifier) (importer : String) {u v s : String}
    (hrelative : StartsRelative (u ++ "/" ++ v)) (hs : Path.IsName s.toList)
    (haliases : ∀ path ∈ [u ++ "/" ++ v, u ++ "/./" ++ v, u ++ "/" ++ s ++ "/../" ++ v],
      c.aliasFor path = none) :
    c.resolveImport (u ++ "/./" ++ v) importer = c.resolveImport (u ++ "/" ++ v) importer ∧
    c.resolveImport (u ++ "/" ++ s ++ "/../" ++ v) importer =
      c.resolveImport (u ++ "/" ++ v) importer ∧
    (Path.isAbsolute (Path.slashed importer.toList) = false →
      ∃ segments, Path.IsTidy segments ∧
        Relation.ReflTransGen Path.Shortens
          (Text.split '/' (Path.directory (Path.slashed importer.toList)) ++
            Text.split '/' (u ++ "/" ++ v).toList) segments ∧
        (c.resolveImport (u ++ "/" ++ v) importer).toList = Path.spelled segments) := by
  have hhere : u ++ "/./" ++ v = u ++ "/" ++ ("./" ++ v) := by
    simp [← String.toList_inj]
  have hdetour : u ++ "/" ++ s ++ "/../" ++ v = u ++ "/" ++ (s ++ "/../" ++ v) := by
    simp [← String.toList_inj]
  rw [hhere, hdetour] at haliases ⊢
  have hplain := haliases _ List.mem_cons_self
  refine ⟨?_, ?_, exists_tidy_resolveImport hrelative.isRelative hplain⟩
  · refine resolveImport_eq_of_shortens hrelative (fun before => ?_) hplain
      (haliases _ (by simp)) importer
    rw [Path.split_here]
    exact Path.Shortens.here before _
  · refine resolveImport_eq_of_shortens hrelative (fun before => ?_) hplain
      (haliases _ (by simp)) importer
    rw [Path.split_detour hs]
    exact Path.Shortens.detour before hs _

def shopAlias : PathClassifier where
  aliases := [("@shop", "src/shop")]

theorem resolveImport_respelled_above_root :
    StartsRelative "../../../shop/b" ∧ Path.IsName "shared".toList ∧
    (∀ path ∈ ["../../../shop/b", "../../../shop/./b", "../../../shop/shared/../b"],
      shopAlias.aliasFor path = none) ∧
    shopAlias.resolveImport "../../../shop/./b" "src\\domain\\a.js" = "../shop/b" ∧
    shopAlias.resolveImport "../../../shop/shared/../b" "src\\domain\\a.js" = "../shop/b" ∧
    ∃ segments, Path.IsTidy segments ∧ "../shop/b".toList = Path.spelled segments := by
  have hrelative : StartsRelative "../../../shop/b" := .inr (by decide +kernel)
  have hname : Path.IsName "shared".toList := by constructor <;> decide
  have haliases : ∀ path ∈ ["../../../shop/b", "../../../shop/./b", "../../../shop/shared/../b"],
      shopAlias.aliasFor path = none := by decide +kernel
  have hplain : shopAlias.resolveImport "../../../shop/b" "src\\domain\\a.js" = "../shop/b" := by
    decide +kernel
  obtain ⟨hhere, hdetour, htidy⟩ :=
    resolveImport_respelled shopAlias "src\\domain\\a.js" (u := "../../../shop") (v := "b")
      (s := "shared") hrelative hname haliases
  obtain ⟨segments, hsegments, -, hspelled⟩ := htidy (by decide)
  refine ⟨hrelative, hname, haliases, hhere.trans hplain, hdetour.trans hplain, segments,
    hsegments, ?_⟩
  rw [← hspelled]
  exact congrArg String.toList hplain.symm

end PathClassifier

end DesignLint
