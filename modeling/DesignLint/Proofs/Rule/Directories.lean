import DesignLint.Proofs.Path.Directories
import DesignLint.Proofs.Rule.Completion

namespace DesignLint

namespace Path

@[mk_iff]
structure IsDirectoryName (name : String) : Prop where
  nonempty : name ≠ ""
  notHere : name ≠ "."
  notAbove : name ≠ ".."
  spelled : ∀ c ∈ name.toList, Glob.IsPlain c ∧ c ≠ '/'

-- The characters of the name are gone through, not all characters there are.
instance (name : String) : Decidable (IsDirectoryName name) :=
  letI : Decidable (∀ c ∈ name.toList, Glob.IsPlain c ∧ c ≠ '/') :=
    List.decidableBAll _ name.toList
  decidable_of_iff _ (isDirectoryName_iff name).symm

theorem IsDirectoryName.noSlash {name : String} (h : IsDirectoryName name) :
    '/' ∉ name.toList := by
  intro hm
  exact (h.spelled '/' hm).2 rfl

theorem IsDirectoryName.plain {name : String} (h : IsDirectoryName name) :
    ∀ c ∈ name.toList, Glob.IsPlain c := by
  intro c hc
  exact (h.spelled c hc).1

theorem directories_slash_cons (path : List Char) :
    directories ('/' :: path) = [] :: directories path := by
  have hempty : '/' ∉ ([] : List Char) := List.not_mem_nil
  exact directories_append_cons hempty path

theorem mem_directories_dropDots {name : List Char} (hone : name ≠ ['.'])
    (htwo : name ≠ ['.', '.']) (path : List Char) :
    name ∈ directories (dropDots path) ↔ name ∈ directories path := by
  fun_induction dropDots path with
  | case1 rest ih =>
    have hdot : '/' ∉ ['.'] := by decide
    have hhead : directories ('.' :: '/' :: rest) = ['.'] :: directories rest :=
      directories_append_cons hdot rest
    rw [ih, hhead, List.mem_cons, or_iff_right hone]
  | case2 rest ih =>
    have hdots : '/' ∉ ['.', '.'] := by decide
    have hhead : directories ('.' :: '.' :: '/' :: rest) = ['.', '.'] :: directories rest :=
      directories_append_cons hdots rest
    rw [ih, hhead, List.mem_cons, or_iff_right htwo]
  | case3 => rfl

theorem mem_directories_dropWhile {name : List Char} (hne : name ≠ []) (path : List Char) :
    name ∈ directories (path.dropWhile (· == '/')) ↔ name ∈ directories path := by
  induction path with
  | nil => rfl
  | cons c cs ih =>
    by_cases hc : c = '/'
    · subst hc
      rw [List.dropWhile_cons_of_pos (by simp), ih, directories_slash_cons, List.mem_cons,
        or_iff_right hne]
    · rw [List.dropWhile_cons_of_neg (by simpa using hc)]

theorem mem_directories_comparable {name path : String} (h : IsDirectoryName name)
    (slashes : '\\' ∉ path.toList) :
    name.toList ∈ directories (comparable path.toList) ↔
      name.toList ∈ directories path.toList := by
  have hone : name.toList ≠ ['.'] := fun he => h.notHere (String.toList_inj.mp he)
  have htwo : name.toList ≠ ['.', '.'] := fun he => h.notAbove (String.toList_inj.mp he)
  rw [comparable, slashed_of_not_mem slashes, mem_directories_dropDots hone htwo]

-- In front of the first segment there is no slash, unless one is put there.
theorem occurs_between_slashes_iff {name : List Char} (hne : name ≠ []) (hname : '/' ∉ name)
    (path : List Char) :
    Text.occurs ('/' :: (name ++ ['/'])) ('/' :: path) = true ↔ name ∈ directories path := by
  have hcons : name ∈ directories ('/' :: path) ↔ name ∈ directories path := by
    rw [directories_slash_cons, List.mem_cons, or_iff_right hne]
  have hfirst : ¬ ∃ after, '/' :: path = name ++ '/' :: after := by
    rintro ⟨after, he⟩
    cases name with
    | nil => exact hne rfl
    | cons c cs =>
      obtain ⟨rfl, -⟩ := List.cons.inj he
      exact hname List.mem_cons_self
  rw [← hcons, mem_directories_iff hname, or_iff_right hfirst, Text.occurs_iff]
  constructor
  · rintro ⟨before, after, he⟩
    exact ⟨before, after, by simpa using he⟩
  · rintro ⟨before, after, he⟩
    exact ⟨before, after, by simpa using he⟩

end Path

theorem Glob.matchesPath_of_isDirectoryName {name path : String} (h : Path.IsDirectoryName name)
    (slashes : '\\' ∉ path.toList) :
    matchesPath (Path.comparable path.toList) (directory name.toList) = true ↔
      name.toList ∈ Path.directories path.toList := by
  rw [matchesPath_directory h.plain h.noSlash, Path.mem_directories_comparable h slashes]

theorem Trial.any_map {α β : Type} (f : β → α) (test : α → Trial Bool) (items : List β) :
    any test (items.map f) = any (fun b => test (f b)) items := by
  induction items with
  | nil => rfl
  | cons b rest ih => rw [List.map_cons, any, any, ih]

def Path.liesIn (names : List String) (path : String) : Bool :=
  names.any fun name => name.toList ∈ directories path.toList

namespace PathClassifier

def directoryGlob (name : String) : String :=
  "**/" ++ name ++ "/**"

theorem matchesAny_directoryGlobs {names : List String}
    (hnames : ∀ name ∈ names, Path.IsDirectoryName name) {path : String}
    (slashes : '\\' ∉ path.toList) :
    matchesAny (Path.comparable path.toList) (names.map fun name => .text (directoryGlob name)) =
      .ok (Path.liesIn names path) := by
  rw [matchesAny, Trial.any_map]
  refine (Trial.any_congr fun name hname => ?_).trans (Trial.any_ok _ names)
  have hglob : (directoryGlob name).toList = Glob.directory name.toList := by
    simp [directoryGlob, Glob.directory]
  have hmatch : Glob.matchesPath (Path.comparable path.toList) (directoryGlob name).toList =
      decide (name.toList ∈ Path.directories path.toList) := by
    rw [hglob, Bool.eq_iff_iff, decide_eq_true_iff,
      Glob.matchesPath_of_isDirectoryName (hnames name hname) slashes]
  exact congrArg Except.ok hmatch

end PathClassifier

theorem Repository.inDirectory_betweenSlashes {names : List String}
    (hnames : ∀ name ∈ names, Path.IsDirectoryName name) (path : String) :
    inDirectory path (names.map fun name => .text ("/" ++ name ++ "/")) =
      .ok (Path.liesIn names path) := by
  rw [inDirectory, anyWithin, Trial.any_map]
  refine (Trial.any_congr fun name hname => ?_).trans (Trial.any_ok _ names)
  have h := hnames name hname
  have hne : name.toList ≠ [] := fun he => h.nonempty (String.toList_inj.mp he)
  have hword : ("/" ++ name ++ "/").toList = '/' :: (name.toList ++ ['/']) := by simp
  have hoccurs : Text.occurs ("/" ++ name ++ "/").toList
      ('/' :: path.toList.dropWhile (· == '/')) =
        decide (name.toList ∈ Path.directories path.toList) := by
    rw [hword, Bool.eq_iff_iff, decide_eq_true_iff, Path.occurs_between_slashes_iff hne h.noSlash,
      Path.mem_directories_dropWhile hne]
  exact congrArg Except.ok hoccurs

def Layer.directoryNames (l : Layer) : List String :=
  l.patterns.filterMap fun v =>
    v.asText?.map fun glob => String.ofList (Glob.directoryName glob.toList)

theorem PathClassifier.classify_eq_find? {c : PathClassifier} (haliases : c.aliases = [])
    (hpatterns : ∀ l ∈ c.layers,
      l.patterns = l.directoryNames.map fun name => .text (directoryGlob name))
    (hnames : ∀ l ∈ c.layers, ∀ name ∈ l.directoryNames, Path.IsDirectoryName name)
    {path : String} (hpath : path ≠ "") (slashes : '\\' ∉ path.toList) :
    c.classify path = .ok (c.layers.find? fun l => Path.liesIn l.directoryNames path) := by
  rw [classify, if_neg hpath, resolveAlias_of_aliases haliases]
  refine (Trial.find?_congr fun l hl => ?_).trans (Trial.find?_ok _ c.layers)
  rw [hpatterns l hl, matchesAny_directoryGlobs (hnames l hl) slashes]

namespace Architecture

theorem patterns_defaults : ∀ l ∈ defaultSettings.classifier.layers,
    l.patterns = l.directoryNames.map fun name => .text (PathClassifier.directoryGlob name) := by
  have hall : defaultSettings.classifier.layers.Forall fun l =>
      l.patterns = l.directoryNames.map fun name => .text (PathClassifier.directoryGlob name) :=
    ⟨rfl, rfl, rfl, rfl⟩
  exact List.forall_iff_forall_mem.mp hall

theorem directoryNames_defaults : ∀ l ∈ defaultSettings.classifier.layers,
    ∀ name ∈ l.directoryNames, Path.IsDirectoryName name := by
  decide +kernel

theorem directoryTests_agree {path : String} (slashes : '\\' ∉ path.toList) :
    (∀ name, Path.IsDirectoryName name →
      PathClassifier.matches path [.text ("**/" ++ name ++ "/**")] =
        .ok (decide (name.toList ∈ Path.directories path.toList)) ∧
      Repository.inDirectory path [.text ("/" ++ name ++ "/")] =
        .ok (decide (name.toList ∈ Path.directories path.toList))) ∧
    (path ≠ "" → ∃ o, Settings.ofOptions schema.defaults = .ok o ∧
      o.classifier.layers.map (fun l => (l.level, l.name, l.directoryNames)) =
        [(1, "entities", ["entities", "domain"]),
         (2, "use-cases", ["use-cases", "application", "services"]),
         (3, "adapters", ["adapters", "controllers", "presenters", "gateways"]),
         (4, "frameworks", ["frameworks", "infrastructure", "external"])] ∧
      o.classifier.classify path = .ok (o.classifier.layers.find? fun l =>
        l.directoryNames.any fun name => name.toList ∈ Path.directories path.toList)) := by
  constructor
  · intro name h
    have hnames : ∀ n ∈ [name], Path.IsDirectoryName n := by simpa using h
    have hmatches := PathClassifier.matchesAny_directoryGlobs hnames slashes
    have hwithin := Repository.inDirectory_betweenSlashes hnames path
    constructor
    · simpa [PathClassifier.matches, PathClassifier.directoryGlob, Path.liesIn] using hmatches
    · simpa [Path.liesIn] using hwithin
  · intro hpath
    refine ⟨defaultSettings, ofOptions_defaults, by decide +kernel, ?_⟩
    exact PathClassifier.classify_eq_find? rfl patterns_defaults directoryNames_defaults hpath
      slashes

theorem directoryTests_agree_dottedPath :
    '\\' ∉ "../src//use-cases/domain.js".toList ∧ Path.IsDirectoryName "use-cases" ∧
    PathClassifier.matches "../src//use-cases/domain.js" [.text "**/use-cases/**"] = .ok true ∧
    Repository.inDirectory "../src//use-cases/domain.js" [.text "/domain/"] = .ok false ∧
    ∃ o, Settings.ofOptions schema.defaults = .ok o ∧ ∃ l,
      o.classifier.classify "../src//use-cases/domain.js" = .ok (some l) ∧
        l.name = "use-cases" := by
  have slashes : '\\' ∉ "../src//use-cases/domain.js".toList := by decide
  have hname : Path.IsDirectoryName "use-cases" := by decide
  obtain ⟨htests, hclassify⟩ := directoryTests_agree slashes
  obtain ⟨o, ho, -, hlayer⟩ := hclassify (by decide)
  obtain rfl := Except.ok.inj (ofOptions_defaults.symm.trans ho)
  refine ⟨slashes, hname, (htests "use-cases" hname).1, (htests "domain" (by decide)).2,
    _, ho, _, hlayer, rfl⟩

end Architecture

end DesignLint
