import DesignLint.Proofs.Metric.Chains
import DesignLint.Proofs.Rule.Completion

namespace DesignLint.OpenClosed

def Settings.excludes (o : Settings) (path : String) : Bool :=
  o.excludedFiles.any fun v => isFoundIn v path.toList

def Settings.mentions (o : Settings) (f : Site) : Bool :=
  o.extensionPatterns.any fun v =>
    isFoundIn (.text ("\\b" ++ v.plain ++ "\\b")) (Text.lower f.code.text.toList)

def callsDynamically (f : Site) : Bool :=
  dynamicCalls.any fun call => call.foundIn f.code.text.toList

def isJudged (s : Site) : Bool :=
  [Kind.selection, .branch, .binary, .assignment, .classDecl].contains s.kind

def checkProfiled (r : Reporter) (o : Settings) (profiles : Profiles) (f : Site) : Findings :=
  match profiles.get? f.address with
  | some p => checkFunction r o f p
  | none => .none

variable {r : Reporter} {o : Settings} {m : Message}

theorem any_searches {items : List Value} (f : Value → Value)
    (h : ∀ v ∈ items, isReadable (f v)) (text : List Char) :
    Trial.any (fun v => searches (f v) text) items =
      .ok (items.any fun v => isFoundIn (f v) text) := by
  rw [← Trial.any_ok]
  exact Trial.any_congr fun v hv => searches_eq_ok (h v hv) text

theorem stopped_checkProfiled (fits : o.Fits) (profiles : Profiles) (f : Site) :
    (checkProfiled r o profiles f).stopped = none := by
  rw [checkProfiled]
  split
  · exact stopped_checkFunction r fits f _
  · rfl

def profiles (o : Settings) (sites : List Site) : Profiles :=
  (sites.filter isJudged).foldl (note o) []

theorem about_check (fits : o.Fits) {path : String} {limit : Int} {root : SyntaxTree}
    (hpath : o.excludes (Context.slashed path) = false) :
    (check r o (.collect path limit root)).about m =
      ((root.visited limit).filter isJudged).flatMap (fun s => (checkSite r o s).about m) ++
      ((root.visited limit).filter fun f => (Site.kind f).opensScope).flatMap fun f =>
        (checkProfiled r o (profiles o (root.visited limit)) f).about m := by
  have hexcluded : Trial.any (fun v => searches v (Context.slashed path).toList) o.excludedFiles =
      .ok false := by
    rw [any_searches (fun v => v) fits.excludedFiles]
    exact congrArg Except.ok hpath
  have hjudged : (Context.collect path limit root).sites
      [.selection, .branch, .binary, .assignment, .classDecl] =
      (root.visited limit).filter isJudged := Context.sites_collect ..
  have hscopes : (Context.collect path limit root).sites [.function, .arrow, .method] =
      (root.visited limit).filter fun f => (Site.kind f).opensScope := by
    rw [Context.sites_collect]
    refine List.filter_congr fun f _ => ?_
    cases Site.kind f <;> rfl
  have hcheck : check r o (.collect path limit root) =
      .each (checkSite r o) ((root.visited limit).filter isJudged) ++
      .each (checkProfiled r o (profiles o (root.visited limit)))
        ((root.visited limit).filter fun f => (Site.kind f).opensScope) := by
    rw [check, hjudged, hscopes]
    change Findings.given
      (Trial.any (fun v => searches v (Context.slashed path).toList) o.excludedFiles) _ = _
    rw [hexcluded]
    rfl
  rw [hcheck, Findings.about_append, Findings.about_each, Findings.about_each]
  · exact fun f _ => stopped_checkProfiled fits _ f
  · exact fun s _ => stopped_checkSite r fits s
  · exact Findings.stopped_each fun s _ => stopped_checkSite r fits s

theorem flatMap_filter_ite {α β : Type} (p q : α → Bool) (f : α → β) (l : List α) :
    (l.filter p).flatMap (fun a => if q a then [f a] else []) =
      (l.filter fun a => p a && q a).map f := by
  rw [Findings.flatMap_ite, List.filter_filter]
  simp only [Bool.and_comm]

theorem about_checkSwitch (s : Site)
    (hm : m.id ∉ [tooManySwitchCases.id, extensionViolation.id, magicTypeValues.id]) :
    (checkSwitch r o s).about m = [] := by
  simp only [List.mem_cons, List.not_mem_nil, or_false, not_or] at hm
  rw [checkSwitch]
  split
  · rfl
  · simp [Findings.about_append, Reporter.about_report, hm]

theorem about_checkBranch (s : Site) (hm : m.id ≠ typeCheckViolation.id) :
    (checkBranch r o s).about m =
      if s.isChainRoot && o.maxChain < Int.ofNat s.code.chainLength then
        (r.report longIfElseChain s
          [("count", .int (Int.ofNat s.code.chainLength)), ("max", .int o.maxChain)]).about m
      else [] := by
  rw [checkBranch, Findings.about_append (by simp), Findings.about_when, List.append_right_eq_self]
  split
  · rfl
  · split
    · simp [Reporter.about_report, hm]
    · rfl

theorem about_checkBinary (s : Site) (hm : m.id ≠ modificationRisk.id) :
    (checkBinary r o s).about m = [] := by
  rw [Findings.about_eq_nil_iff]
  rintro ⟨x, hx, hid⟩
  obtain ⟨pattern, -, hx⟩ := Findings.mem_diagnostics_each hx
  obtain ⟨found, -, hx⟩ := Findings.mem_diagnostics_given hx
  rw [Reporter.message_of_mem_when hx] at hid
  exact hm hid.symm

theorem about_checkAssignment (s : Site) (hm : m.id ≠ directTypeManipulation.id) :
    (checkAssignment r s).about m = [] := by
  simp [checkAssignment, Reporter.about_report, hm]

theorem about_checkClass (s : Site) (hm : m.id ≠ hardcodedTypeHandling.id) :
    (checkClass r s).about m = [] := by
  rw [checkClass]
  split
  · rfl
  · simp [Reporter.about_report, hm]

theorem about_checkSite_of_function (s : Site)
    (hm : m.id ∈ [missingAbstraction.id, lackOfPolymorphism.id, conditionalComplexity.id]) :
    (checkSite r o s).about m = [] := by
  have hne (id : String)
      (hid : id ∉ [missingAbstraction.id, lackOfPolymorphism.id, conditionalComplexity.id]) :
      m.id ≠ id := fun he => hid (he ▸ hm)
  rw [checkSite]
  split
  · refine about_checkSwitch s fun hid => ?_
    simp only [List.mem_cons, List.not_mem_nil, or_false] at hid
    rcases hid with hid | hid | hid
    · exact hne _ (by decide) hid
    · exact hne _ (by decide) hid
    · exact hne _ (by decide) hid
  · rw [about_checkBranch s (hne _ (by decide)), Reporter.about_report,
      if_neg (hne longIfElseChain.id (by decide)), ite_self]
  · exact about_checkBinary s (hne _ (by decide))
  · exact about_checkAssignment s (hne _ (by decide))
  · exact about_checkClass s (hne _ (by decide))

def chainDiagnostic (r : Reporter) (o : Settings) (s : Site) : Diagnostic :=
  r.diagnostic longIfElseChain s
    [("count", .int (Int.ofNat s.code.chainLength)), ("max", .int o.maxChain)]

theorem about_checkSite_longIfElseChain (s : Site) :
    (checkSite r o s).about longIfElseChain =
      if s.startsChain && o.maxChain < Int.ofNat s.code.chainLength then [chainDiagnostic r o s]
      else [] := by
  rw [checkSite, Site.startsChain]
  split
  · next hk =>
    rw [about_checkSwitch s (by decide), hk]
    rfl
  · next hk =>
    rw [about_checkBranch s (by decide), Reporter.about_report, if_pos rfl, hk]
    rfl
  · next hk =>
    rw [about_checkBinary s (by decide), hk]
    rfl
  · next hk =>
    rw [about_checkAssignment s (by decide), hk]
    rfl
  · next hbranch _ _ =>
    rw [about_checkClass s (by decide), decide_eq_false hbranch]
    rfl

theorem about_checkFunction (fits : o.Fits) (f : Site) (p : Profile) :
    (checkFunction r o f p).about m =
      if o.mentions f then [] else
        (if o.maxTypeTests < Int.ofNat p.typeTests then
          (r.report missingAbstraction f [("name", .text f.functionName)]).about m else []) ++
        (if f.kind != .arrow && (2 < p.idioms.length && !callsDynamically f) then
          (r.report lackOfPolymorphism f []).about m else []) ++
        (if f.kind != .arrow && ((p.hasSwitch || p.hasChain) && 1 < p.typeTests) then
          (r.report conditionalComplexity f [("name", .text f.functionName)]).about m else []) := by
  have hmentions : mentionsExtension o f = .ok (o.mentions f) :=
    any_searches _ fits.extensionPatterns _
  rw [checkFunction, hmentions, Findings.given]
  cases o.mentions f with
  | true => rfl
  | false => cases f.kind != .arrow <;> simp [Findings.about_append, callsDynamically]

theorem about_checkProfiled_longIfElseChain (fits : o.Fits) (profiles : Profiles) (f : Site) :
    (checkProfiled r o profiles f).about longIfElseChain = [] := by
  have hids : longIfElseChain.id ≠ missingAbstraction.id ∧
      longIfElseChain.id ≠ lackOfPolymorphism.id ∧
      longIfElseChain.id ≠ conditionalComplexity.id := by decide
  rw [checkProfiled]
  split
  · simp [about_checkFunction fits, Reporter.about_report, hids]
  · rfl

def longChains (o : Settings) (sites : List Site) : List Site :=
  sites.filter fun s => s.startsChain && o.maxChain < Int.ofNat s.code.chainLength

theorem mem_visited_of_mem_chain {limit : Int} {root : SyntaxTree} {s c : Site}
    (hs : s ∈ root.visited limit) (hc : c ∈ root.sites) (h : s ∈ c.chain) :
    c ∈ root.visited limit := by
  obtain ⟨path, hpath⟩ := Site.exists_follow_of_mem_chain h
  have hlength := (Tree.mem_visited_iff.mp hs).2
  rw [Spot.address_of_follow hpath, List.length_append] at hlength
  exact Tree.mem_visited_iff.mpr ⟨hc, by omega⟩

theorem about_check_longIfElseChain (fits : o.Fits) {path : String} {limit : Int}
    {root : SyntaxTree} (hpath : o.excludes (Context.slashed path) = false) :
    (check r o (.collect path limit root)).about longIfElseChain =
      (longChains o (root.visited limit)).map (chainDiagnostic r o) := by
  have hjudged (s : Site) :
      (isJudged s && (s.startsChain && decide (o.maxChain < Int.ofNat s.code.chainLength))) =
        (s.startsChain && decide (o.maxChain < Int.ofNat s.code.chainLength)) := by
    by_cases hk : s.kind = .branch <;> simp [isJudged, Site.startsChain, hk]
  have hfunctions : ((root.visited limit).filter fun f => (Site.kind f).opensScope).flatMap
      (fun f => (checkProfiled r o (profiles o (root.visited limit)) f).about longIfElseChain) =
        [] :=
    List.flatMap_eq_nil_iff.mpr fun f _ => about_checkProfiled_longIfElseChain fits _ f
  rw [about_check fits hpath, hfunctions, List.append_nil]
  simp only [about_checkSite_longIfElseChain, flatMap_filter_ite, hjudged]
  rfl

theorem longIfElseChain_reported_per_chain (source : Source) (t : ParseTree) :
    FormsChains (.ofParse source t) ∧
    ∀ {r : Reporter} {o : Settings} {path : String} {limit : Int},
      o.Fits → o.excludes (Context.slashed path) = false →
      (∀ s ∈ (SyntaxTree.ofParse source t).visitedSites limit, s.kind = .branch →
        ∃ c ∈ (SyntaxTree.ofParse source t).visitedSites limit,
          c.startsChain = true ∧ s ∈ c.chain) ∧
      (check r o (.collect path limit (.ofParse source t))).about longIfElseChain =
        (longChains o ((SyntaxTree.ofParse source t).visitedSites limit)).map
          (chainDiagnostic r o) := by
  refine ⟨formsChains_ofParse source t, fun fits hpath => ⟨fun s hs hk => ?_, ?_⟩⟩
  · obtain ⟨c, hc, hstarts, hmem⟩ := Site.exists_startsChain (Tree.mem_visited_iff.mp hs).1 hk
    exact ⟨c, mem_visited_of_mem_chain hs hc hmem, hstarts, hmem⟩
  · exact about_check_longIfElseChain fits hpath

def elseIfLadder : Nat → ParseTree
  | 0 => .node ⟨"if_statement", 0, 0, true, none⟩ []
  | n + 1 => .node ⟨"if_statement", 0, 0, true, none⟩
      [.node ⟨"else_clause", 0, 0, true, some "alternative"⟩ [elseIfLadder n]]

theorem longIfElseChain_of_elseIfLadder :
    ((check ⟨"ocp-violation", .warning, "src/a.js"⟩ (.ofOptions schema.defaults)
      (.collect "src/a.js" 50 (.ofParse [] (elseIfLadder 4)))).about
        longIfElseChain).length = 1 := by
  have hpath : (Settings.ofOptions schema.defaults).excludes (Context.slashed "src/a.js") =
      false := by decide +kernel
  obtain ⟨-, hreports⟩ :=
    (longIfElseChain_reported_per_chain [] (elseIfLadder 4)).2 fits_defaults hpath
  rw [hreports, List.length_map]
  decide +kernel

end DesignLint.OpenClosed
