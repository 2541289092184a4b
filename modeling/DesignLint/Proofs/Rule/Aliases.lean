import DesignLint.Proofs.Path.Respelling
import DesignLint.Proofs.Rule.ImportCircles
import DesignLint.Proofs.Text.Codes

namespace DesignLint

namespace Glob

def single (c : Char) : Item :=
  if IsPlain c then .literal c else .oneOf false [(c, c)]

theorem admits_single {c d : Char} : (single c).admits d = true ↔ d = c := by
  rw [single]
  split
  · exact beq_iff_eq
  · simp only [Item.admits, List.any_cons, List.any_nil, Bool.or_false, Bool.bne_false, between,
      Bool.and_eq_true, decide_eq_true_eq]
    constructor
    · rintro ⟨hle, hge⟩
      exact Text.codeOf_injective (Nat.le_antisymm hge hle)
    · rintro rfl
      exact ⟨Nat.le_refl _, Nat.le_refl _⟩

theorem matchItems_single {text s : List Char} :
    matchItems (text.map single) s = true ↔ s = text := by
  induction text generalizing s with
  | nil => exact List.isEmpty_iff
  | cons c rest ih =>
    have hone : matchItems (single c :: rest.map single) s =
        Marks.afterOne (single c).admits (matchItems (rest.map single)) s := by
      rw [matchItems]
      rw [single]
      split <;> simp
    rw [List.map_cons, hone]
    cases s with
    | nil => simp [Marks.afterOne]
    | cons d ds => simp [Marks.afterOne, admits_single, ih]

-- A character with a meaning of its own stands for itself between brackets.
def spelling (text : List Char) : List Char :=
  text.flatMap fun c => if IsPlain c then [c] else ['[', c, ']']

theorem itemsFrom_bracket {c : Char} (h : ¬ IsPlain c) (rest : List Char) :
    itemsFrom 0 ('[' :: c :: ']' :: rest) = .oneOf false [(c, c)] :: itemsFrom 0 rest := by
  have hc : c = '*' ∨ c = '?' ∨ c = '[' := by
    simpa only [IsPlain, not_and_or, not_not] using h
  rcases hc with rfl | rfl | rfl <;> simp [itemsFrom, bracket?, bracketItem, ranges]

theorem itemsFrom_spelling (text : List Char) :
    itemsFrom 0 (spelling text) = text.map single := by
  induction text with
  | nil => rfl
  | cons c rest ih =>
    have hcons : spelling (c :: rest) =
        (if IsPlain c then [c] else ['[', c, ']']) ++ spelling rest := rfl
    rw [hcons, List.map_cons, ← ih, single]
    by_cases hc : IsPlain c
    · have hword : ∀ d ∈ [c], IsPlain d := by simpa using hc
      rw [if_pos hc, if_pos hc]
      exact itemsFrom_append hword (spelling rest)
    · rw [if_neg hc, if_neg hc]
      exact itemsFrom_bracket hc (spelling rest)

theorem head?_spelling (text : List Char) : (spelling text).head? ≠ some '*' := by
  cases text with
  | nil => simp [spelling]
  | cons c rest =>
    by_cases hc : IsPlain c
    · simpa [spelling, hc] using hc.1
    · simp [spelling, hc]

theorem matchesPath_spelling {text path : List Char} :
    matchesPath path (spelling text) = true ↔ path = text := by
  have hwhole : matches? (spelling text) path = true ↔ path = text := by
    rw [matches?, covers_eq_matchItems, itemsFrom_spelling, matchItems_single]
  rw [matchesPath, Bool.or_false, hwhole]
  intro rest hglob
  exact head?_spelling text (by rw [hglob, List.head?_cons])

end Glob

namespace PathClassifier

def firstLayer (c : PathClassifier) (path : List Char) : Trial (Option Layer) :=
  Trial.find? (fun l => matchesAny path l.patterns) c.layers

variable {c : PathClassifier} {path : String}

@[simp] theorem resolveAlias_layers (layers : List Layer) :
    ({ c with layers }).resolveAlias path = c.resolveAlias path := rfl

theorem classify_eq_firstLayer (h : path ≠ "") :
    c.classify path = c.firstLayer (Path.comparable (c.resolveAlias path).toList) := by
  rw [classify, if_neg h]
  rfl

theorem classify_of_aliasFor (h : path ≠ "") (halias : c.aliasFor path = none) :
    c.classify path = c.firstLayer (Path.comparable path.toList) := by
  rw [classify_eq_firstLayer h, resolveAlias, halias]

def soleLayer (text : List Char) : Layer :=
  ⟨"sole", 0, [.text (String.ofList (Glob.spelling text))]⟩

theorem firstLayer_soleLayer (text path : List Char) :
    ({ c with layers := [soleLayer text] }).firstLayer path =
      .ok (if path = text then some (soleLayer text) else none) := by
  have hpattern : matchesAny path (soleLayer text).patterns = .ok (decide (path = text)) := by
    have hmatch : Glob.matchesPath path (Glob.spelling text) = decide (path = text) := by
      rw [Bool.eq_iff_iff, Glob.matchesPath_spelling, decide_eq_true_iff]
    simp [matchesAny, soleLayer, Trial.any, Value.asText, Except.map, hmatch]
    split <;> simp_all
  rw [firstLayer, Trial.find?, hpattern]
  by_cases h : path = text <;> simp [h, Trial.find?]

theorem classify_eq_firstLayer_iff :
    (∀ layers, ({ c with layers }).classify path =
        ({ c with layers }).firstLayer (Path.comparable path.toList)) ↔
      path ≠ "" ∧ Path.comparable (c.resolveAlias path).toList = Path.comparable path.toList := by
  constructor
  · intro h
    have hsole := h [soleLayer (Path.comparable path.toList)]
    rw [firstLayer_soleLayer, if_pos rfl] at hsole
    have hpath : path ≠ "" := by
      rintro rfl
      cases hsole
    refine ⟨hpath, ?_⟩
    rw [classify_eq_firstLayer hpath, firstLayer_soleLayer, resolveAlias_layers] at hsole
    by_contra hother
    rw [if_neg hother] at hsole
    cases hsole
  · rintro ⟨hpath, hsame⟩ layers
    rw [classify_eq_firstLayer hpath, resolveAlias_layers, hsame]

end PathClassifier

namespace Architecture

def checkAssigned (r : Reporter) (o : Settings) (from_ : Standpoint) (site : Site) (path : String)
    (layer : Trial (Option Layer)) : Findings :=
  let target := o.classifier.resolveImport path r.file
  .given (PathClassifier.matches target o.crossCuts) fun shared =>
    if shared then .none
    else .given layer fun layer =>
      checkTarget r o from_ ⟨(site.link .source).getD site, path, target, false, layer⟩

theorem importLayer_looked_up_twice (r : Reporter) (o : Settings) (from_ : Standpoint)
    (site : Site) {path : String} (hinternal : o.classifier.isExternal path = false) :
    let target := o.classifier.resolveImport path r.file
    checkImport r o from_ site path =
      checkAssigned r o from_ site path (o.classifier.classify target) ∧
    (PathClassifier.isRelative path = true → o.classifier.aliasFor path = none →
      target = String.ofList (Path.normal
        (Path.join (Path.directory (Path.slashed r.file.toList)) path.toList))) ∧
    (target ≠ "" → o.classifier.aliasFor target = none →
      o.classifier.classify target =
        o.classifier.firstLayer (Path.comparable target.toList)) ∧
    ((∀ layers, ({ o.classifier with layers }).classify target =
        ({ o.classifier with layers }).firstLayer (Path.comparable target.toList)) ↔
      target ≠ "" ∧
        Path.comparable (o.classifier.resolveAlias target).toList =
          Path.comparable target.toList) := by
  intro target
  refine ⟨?_, ?_, PathClassifier.classify_of_aliasFor,
    PathClassifier.classify_eq_firstLayer_iff⟩
  · rw [checkImport, hinternal, if_neg Bool.false_ne_true]
    rfl
  · intro hrelative halias
    exact PathClassifier.resolveImport_of_isRelative hrelative halias r.file

def aliasEntries : Assoc String :=
  [("@infra/*", "src/infrastructure/*"), ("domain", "infrastructure")]

def aliasOptions : Fields :=
  Assoc.put "path_aliases" (.table (aliasEntries.map fun e => (e.1, .text e.2))) schema.defaults

def aliasSettings : Settings :=
  { defaultSettings with
    classifier :=
      { defaultSettings.classifier with
        aliases := PathClassifier.aliasesOf aliasEntries } }

theorem ofOptions_alias : Settings.ofOptions aliasOptions = .ok aliasSettings :=
  ofOptions_of_sorted aliasSettings.classifier.layers aliasEntries rfl (by decide) rfl

theorem exists_layer_of_name {t : Trial (Option Layer)} {name : String}
    (h : t.toOption.join.map (·.name) = some name) :
    ∃ l : Layer, t = .ok (some l) ∧ l.name = name := by
  obtain ⟨l, hl, hname⟩ := Option.map_eq_some_iff.mp h
  cases t with
  | error misfit => cases hl
  | ok found =>
    obtain rfl : found = some l := hl
    exact ⟨l, rfl, hname⟩

theorem importLayer_looked_up_twice_behind_alias :
    Settings.ofOptions aliasOptions = .ok aliasSettings ∧
    aliasSettings.classifier.isExternal "@infra/db" = false ∧
    ∃ s ∈ (importFile "src/domain/a.js" "@infra/db").sites [.importDecl], ∃ l : Layer,
      l.name = "frameworks" ∧
      aliasSettings.classifier.firstLayer (Path.comparable "src/infrastructure/db".toList) =
        .ok (some l) ∧
      checkImport (reporter .warning (importFile "src/domain/a.js" "@infra/db")) aliasSettings
          ⟨none, true⟩ s "@infra/db" =
        checkAssigned (reporter .warning (importFile "src/domain/a.js" "@infra/db")) aliasSettings
          ⟨none, true⟩ s "@infra/db" (.ok (some l)) := by
  have hinternal : aliasSettings.classifier.isExternal "@infra/db" = false := by decide +kernel
  have htarget : aliasSettings.classifier.resolveImport "@infra/db"
      (importFile "src/domain/a.js" "@infra/db").path = "src/infrastructure/db" := by
    decide +kernel
  obtain ⟨s, hs, -⟩ := exists_importSite
    (show _ = true by decide +kernel : ((importFile "src/domain/a.js" "@infra/db").sites
      [.importDecl]).any (fun s => s.code.import?.any fun i => i.module = "@infra/db") = true)
  obtain ⟨hcheck, -, hlayer, -⟩ := importLayer_looked_up_twice
    (reporter .warning (importFile "src/domain/a.js" "@infra/db")) aliasSettings ⟨none, true⟩ s
    hinternal
  obtain ⟨l, hl, hname⟩ : ∃ l : Layer, aliasSettings.classifier.firstLayer
      (Path.comparable "src/infrastructure/db".toList) = .ok (some l) ∧ l.name = "frameworks" :=
    exists_layer_of_name (by decide +kernel)
  rw [htarget] at hcheck hlayer
  rw [hlayer (by decide) (by decide +kernel), hl] at hcheck
  exact ⟨ofOptions_alias, hinternal, s, hs, l, hname, hl, hcheck⟩

theorem importLayer_rewritten_by_alias :
    Settings.ofOptions aliasOptions = .ok aliasSettings ∧
    PathClassifier.isRelative "../domain/user" = true ∧
    aliasSettings.classifier.isExternal "../domain/user" = false ∧
    aliasSettings.classifier.resolveImport "../domain/user" "services/a.js" = "domain/user" ∧
    (∃ l : Layer, l.name = "frameworks" ∧
      aliasSettings.classifier.classify "domain/user" = .ok (some l)) ∧
    (∃ l : Layer, l.name = "entities" ∧
      aliasSettings.classifier.firstLayer (Path.comparable "domain/user".toList) = .ok (some l)) ∧
    (Detector.check ⟨.architecture aliasSettings, .warning⟩ (fun _ => false)
      (importFile "services/a.js" "../domain/user")).Reports dependencyRuleViolation := by
  obtain ⟨assigned, hassigned, hname⟩ : ∃ l : Layer,
      aliasSettings.classifier.classify "domain/user" = .ok (some l) ∧ l.name = "frameworks" :=
    exists_layer_of_name (by decide +kernel)
  obtain ⟨matched, hmatched, hname'⟩ : ∃ l : Layer, aliasSettings.classifier.firstLayer
      (Path.comparable "domain/user".toList) = .ok (some l) ∧ l.name = "entities" :=
    exists_layer_of_name (by decide +kernel)
  refine ⟨ofOptions_alias, by decide +kernel, by decide +kernel, by decide +kernel,
    ⟨assigned, hname, hassigned⟩, ⟨matched, hname', hmatched⟩, by decide +kernel⟩

end Architecture

end DesignLint
