import DesignLint.Proofs.Rule.LongChains
import Mathlib.Data.Finset.Card

namespace DesignLint

def Site.owns (f s : Site) : Bool :=
  s.enclosingScope.any fun g => g.address = f.address

namespace OpenClosed

def typeTestsOf (sites : List Site) (f : Site) : List String :=
  (sites.filter fun s => s.kind = .binary && f.owns s).filterMap fun s => typeTest? s.code.text

def isSelective (o : Settings) (s : Site) : Bool :=
  (s.kind = .selection && !isExempt o s (discriminantText s)) ||
    (s.startsChain && 2 < s.code.chainLength)

def selects (o : Settings) (sites : List Site) (f : Site) : Bool :=
  sites.any fun s => f.owns s && isSelective o s

def isProfiled (o : Settings) (sites : List Site) (f : Site) : Bool :=
  !(typeTestsOf sites f).isEmpty || selects o sites f

structure Profile.Describes (o : Settings) (sites : List Site) (f : Site) (p : Profile) : Prop where
  typeTests : p.typeTests = (typeTestsOf sites f).length
  nodup : p.idioms.Nodup
  idioms : ∀ idiom, idiom ∈ p.idioms ↔ idiom ∈ typeTestsOf sites f
  selects : (p.hasSwitch || p.hasChain) = selects o sites f

structure Profiles.Describe (o : Settings) (sites : List Site) (f : Site) (ps : Profiles) :
    Prop where
  isSome : (ps.get? f.address).isSome = isProfiled o sites f
  profile : ((ps.get? f.address).getD {}).Describes o sites f

variable {o : Settings} {sites : List Site} {f s : Site}

theorem Profiles.get?_cons (a b : List Nat) (p : Profile) (rest : Profiles) :
    get? b ((a, p) :: rest) = if a = b then some p else rest.get? b := by
  by_cases h : a = b
  · simp [get?, h]
  · have hne : (b == a) = false := by simp [Ne.symm h]
    simp [get?, h, hne, List.lookup_cons]

theorem Profiles.get?_update (a b : List Nat) (change : Profile → Profile) (ps : Profiles) :
    (ps.update a change).get? b =
      if a = b then some (change ((ps.get? b).getD {})) else ps.get? b := by
  induction ps with
  | nil => rw [update, get?_cons]; rfl
  | cons e rest ih =>
    obtain ⟨c, p⟩ := e
    rw [update]
    by_cases hc : c = a
    · subst hc
      rw [if_pos rfl, get?_cons, get?_cons]
      split <;> rfl
    · rw [if_neg hc, get?_cons, get?_cons, ih]
      by_cases hb : c = b
      · have ha : ¬ a = b := fun he => hc (hb.trans he.symm)
        rw [if_pos hb, if_pos hb, if_neg ha]
      · rw [if_neg hb, if_neg hb]

def testsAt (s : Site) : List String :=
  if s.kind = .binary then (typeTest? s.code.text).toList else []

theorem typeTestsOf_concat (sites : List Site) (f s : Site) :
    typeTestsOf (sites ++ [s]) f = typeTestsOf sites f ++ if f.owns s then testsAt s else [] := by
  rw [typeTestsOf, List.filter_append, List.filterMap_append]
  by_cases hk : s.kind = .binary <;> cases ho : f.owns s <;>
    cases ht : typeTest? s.code.text <;> simp [hk, ho, ht, testsAt, typeTestsOf]

theorem selects_concat (o : Settings) (sites : List Site) (f s : Site) :
    selects o (sites ++ [s]) f = (selects o sites f || (f.owns s && isSelective o s)) := by
  simp [selects]

inductive Contributes (o : Settings) (s : Site) : Option (Profile → Profile) → Prop
  | nothing (hs : isSelective o s = false) (ht : testsAt s = []) : Contributes o s none
  | selection {change : Profile → Profile} (hs : isSelective o s = true) (ht : testsAt s = [])
      (tests : ∀ p, (change p).typeTests = p.typeTests) (idioms : ∀ p, (change p).idioms = p.idioms)
      (marks : ∀ p, ((change p).hasSwitch || (change p).hasChain) = true) :
      Contributes o s (some change)
  | typeTest {idiom : String} (hs : isSelective o s = false) (ht : testsAt s = [idiom]) :
      Contributes o s (some fun p =>
        { p with typeTests := p.typeTests + 1, idioms := p.idioms.insert idiom })

theorem contributes (o : Settings) (s : Site) : Contributes o s (contribution o s) := by
  rw [contribution]
  split
  · next hk =>
    cases he : isExempt o s (discriminantText s) with
    | true =>
      refine .nothing ?_ (by simp [testsAt, hk])
      simp [isSelective, Site.startsChain, hk, he]
    | false =>
      exact .selection (by simp [isSelective, hk, he]) (by simp [testsAt, hk]) (fun _ => rfl)
        (fun _ => rfl) fun _ => rfl
  · next hk =>
    cases hc : s.isChainRoot && 2 < s.code.chainLength with
    | true =>
      refine .selection ?_ (by simp [testsAt, hk]) (fun _ => rfl) (fun _ => rfl) fun p => ?_
      · simpa [isSelective, Site.startsChain, hk] using hc
      · exact Bool.or_true p.hasSwitch
    | false =>
      refine .nothing ?_ (by simp [testsAt, hk])
      simpa [isSelective, Site.startsChain, hk] using hc
  · next hk =>
    have hs : isSelective o s = false := by simp [isSelective, Site.startsChain, hk]
    cases ht : typeTest? s.code.text with
    | none => exact .nothing hs (by simp [testsAt, hk, ht])
    | some idiom => exact .typeTest hs (by simp [testsAt, hk, ht])
  · next hselection hbranch hbinary =>
    refine .nothing ?_ ?_
    · rw [isSelective, Site.startsChain, decide_eq_false hselection, decide_eq_false hbranch]
      rfl
    · rw [testsAt, if_neg hbinary]

theorem get?_note (o : Settings) (ps : Profiles) (f s : Site) :
    (note o ps s).get? f.address =
      if f.owns s then
        ((contribution o s).map fun change => change ((ps.get? f.address).getD {})).or
          (ps.get? f.address)
      else ps.get? f.address := by
  rw [note, Site.owns]
  cases contribution o s with
  | none => simp
  | some change =>
    cases s.enclosingScope with
    | none => simp
    | some g => simp [Profiles.get?_update]

theorem Profiles.Describe.of_same {ps ps' : Profiles} {sites' : List Site}
    (h : ps.Describe o sites f) (hget : ps'.get? f.address = ps.get? f.address)
    (htests : typeTestsOf sites' f = typeTestsOf sites f)
    (hselects : selects o sites' f = selects o sites f) : ps'.Describe o sites' f where
  isSome := by rw [hget, h.isSome, isProfiled, isProfiled, htests, hselects]
  profile := by
    rw [hget]
    exact ⟨htests ▸ h.profile.typeTests, h.profile.nodup, htests ▸ h.profile.idioms,
      hselects ▸ h.profile.selects⟩

-- A place that the function owns adds to its profile, and any other leaves it as it was.
theorem describe_note {ps : Profiles} (h : ps.Describe o sites f) (s : Site) :
    (note o ps s).Describe o (sites ++ [s]) f := by
  have hget := get?_note o ps f s
  have htests := typeTestsOf_concat sites f s
  have hselects := selects_concat o sites f s
  cases ho : f.owns s with
  | false =>
    simp only [ho, Bool.false_eq_true, if_false, Bool.false_and, Bool.or_false, List.append_nil]
      at hget htests hselects
    exact h.of_same hget htests hselects
  | true =>
    have hc := contributes o s
    simp only [ho, if_true, Bool.true_and] at hget htests hselects
    generalize contribution o s = c at hc hget
    cases hc with
    | nothing hs ht =>
      rw [ht, List.append_nil] at htests
      rw [hs, Bool.or_false] at hselects
      exact h.of_same hget htests hselects
    | selection hs ht tests idioms marks =>
      rw [ht, List.append_nil] at htests
      rw [hs, Bool.or_true] at hselects
      rw [Option.map_some, Option.some_or] at hget
      refine ⟨by simp [hget, isProfiled, hselects], ?_⟩
      rw [hget, Option.getD_some]
      refine ⟨?_, ?_, ?_, ?_⟩
      · rw [tests, htests, h.profile.typeTests]
      · rw [idioms]
        exact h.profile.nodup
      · rw [idioms, htests]
        exact h.profile.idioms
      · rw [marks, hselects]
    | @typeTest idiom hs ht =>
      rw [ht] at htests
      rw [hs, Bool.or_false] at hselects
      rw [Option.map_some, Option.some_or] at hget
      refine ⟨by simp [hget, isProfiled, htests], ?_⟩
      rw [hget, Option.getD_some]
      refine ⟨?_, h.profile.nodup.insert, fun name => ?_, ?_⟩
      · rw [htests, List.length_append, ← h.profile.typeTests]
        rfl
      · rw [List.mem_insert_iff, h.profile.idioms, htests, List.mem_append, List.mem_singleton,
          or_comm]
      · rw [hselects]
        exact h.profile.selects

theorem describe_foldl {ps : Profiles} (h : ps.Describe o sites f) (rest : List Site) :
    (rest.foldl (note o) ps).Describe o (sites ++ rest) f := by
  induction rest generalizing sites ps with
  | nil => simpa using h
  | cons s rest ih => simpa using ih (describe_note h s)

theorem describe_empty (o : Settings) (f : Site) : Profiles.Describe o [] f [] where
  isSome := rfl
  profile := ⟨rfl, List.nodup_nil, fun _ => Iff.rfl, rfl⟩

theorem profiles_eq_foldl (o : Settings) (sites : List Site) :
    profiles o sites = sites.foldl (note o) [] := by
  have hstep (ps : Profiles) (s : Site) :
      (if isJudged s then note o ps s else ps) = note o ps s := by
    cases hj : isJudged s with
    | true => rfl
    | false =>
      have hnone : contribution o s = none := by
        rw [contribution]
        split
        · next hk => simp [isJudged, hk] at hj
        · next hk => simp [isJudged, hk] at hj
        · next hk => simp [isJudged, hk] at hj
        · rfl
      rw [if_neg Bool.false_ne_true, note, hnone]
  rw [profiles, List.foldl_filter]
  simp only [hstep]

theorem describe_profiles (o : Settings) (sites : List Site) (f : Site) :
    (profiles o sites).Describe o sites f := by
  rw [profiles_eq_foldl]
  exact describe_foldl (describe_empty o f) sites

theorem Profile.Describes.length_idioms {p : Profile} (h : p.Describes o sites f) :
    p.idioms.length = (typeTestsOf sites f).toFinset.card := by
  have hsame : p.idioms.toFinset = (typeTestsOf sites f).toFinset := by
    ext idiom
    rw [List.mem_toFinset, List.mem_toFinset, h.idioms]
  rw [← hsame, List.toFinset_card_of_nodup h.nodup]

def lacksAbstraction (o : Settings) (sites : List Site) (f : Site) : Bool :=
  o.maxTypeTests < Int.ofNat (typeTestsOf sites f).length

def lacksPolymorphism (sites : List Site) (f : Site) : Bool :=
  f.kind != .arrow && (2 < (typeTestsOf sites f).toFinset.card && !callsDynamically f)

def isComplex (o : Settings) (sites : List Site) (f : Site) : Bool :=
  f.kind != .arrow && (selects o sites f && 1 < (typeTestsOf sites f).length)

variable {r : Reporter} {m : Message}

def verdict (r : Reporter) (o : Settings) (sites : List Site) (f : Site) (m : Message) :
    List Diagnostic :=
  (if lacksAbstraction o sites f then
    (r.report missingAbstraction f [("name", .text f.functionName)]).about m else []) ++
  (if lacksPolymorphism sites f then (r.report lackOfPolymorphism f []).about m else []) ++
  (if isComplex o sites f then
    (r.report conditionalComplexity f [("name", .text f.functionName)]).about m else [])

theorem about_checkProfiled (fits : o.Fits) {ps : Profiles} (h : ps.Describe o sites f) :
    (checkProfiled r o ps f).about m =
      if isProfiled o sites f && !o.mentions f then verdict r o sites f m else [] := by
  have hsome := h.isSome
  have hprofile := h.profile
  rw [checkProfiled]
  cases hp : ps.get? f.address with
  | none =>
    rw [hp] at hsome
    rw [← hsome]
    rfl
  | some p =>
    rw [hp] at hsome hprofile
    replace hprofile : p.Describes o sites f := hprofile
    simp only [about_checkFunction fits, hprofile.typeTests, hprofile.length_idioms,
      hprofile.selects, ← hsome]
    cases o.mentions f with
    | true => rfl
    | false => simp [verdict, lacksAbstraction, lacksPolymorphism, isComplex]

def isAnswerable (o : Settings) (sites : List Site) (f : Site) : Bool :=
  f.kind.opensScope && (isProfiled o sites f && !o.mentions f)

theorem about_check_of_function (fits : o.Fits) {path : String} {limit : Int} {root : SyntaxTree}
    (hpath : o.excludes (Context.slashed path) = false)
    (hm : m.id ∈ [missingAbstraction.id, lackOfPolymorphism.id, conditionalComplexity.id])
    {condition : Site → Bool} {data : Site → Fields}
    (hverdict : ∀ f, verdict r o (root.visitedSites limit) f m =
      if condition f then [r.diagnostic m f (data f)] else []) :
    (check r o (.collect path limit root)).about m =
      ((root.visitedSites limit).filter fun f =>
        isAnswerable o (root.visitedSites limit) f && condition f).map
          fun f => r.diagnostic m f (data f) := by
  have hsites : ((root.visitedSites limit).filter isJudged).flatMap
      (fun s => (checkSite r o s).about m) = [] :=
    List.flatMap_eq_nil_iff.mpr fun s _ => about_checkSite_of_function s hm
  have hfunction (f : Site) : (checkProfiled r o (profiles o (root.visitedSites limit)) f).about m =
      if isProfiled o (root.visitedSites limit) f && !o.mentions f && condition f then
        [r.diagnostic m f (data f)] else [] := by
    rw [about_checkProfiled fits (describe_profiles o (root.visitedSites limit) f), hverdict]
    cases isProfiled o (root.visitedSites limit) f && !o.mentions f <;> rfl
  rw [about_check fits hpath, hsites, List.nil_append]
  simp only [hfunction, flatMap_filter_ite, isAnswerable, Bool.and_assoc]

structure ReportsByProfile (r : Reporter) (o : Settings) (sites : List Site) (found : Findings) :
    Prop where
  missingAbstraction : found.about missingAbstraction =
    (sites.filter fun f => isAnswerable o sites f && lacksAbstraction o sites f).map fun f =>
      r.diagnostic missingAbstraction f [("name", .text f.functionName)]
  lackOfPolymorphism : found.about lackOfPolymorphism =
    (sites.filter fun f => isAnswerable o sites f && lacksPolymorphism sites f).map fun f =>
      r.diagnostic lackOfPolymorphism f []
  conditionalComplexity : found.about conditionalComplexity =
    (sites.filter fun f => isAnswerable o sites f && isComplex o sites f).map fun f =>
      r.diagnostic conditionalComplexity f [("name", .text f.functionName)]

theorem check_reportsByProfile (r : Reporter) (fits : o.Fits) (limit : Int) (root : SyntaxTree)
    {path : String} (hpath : o.excludes (Context.slashed path) = false) :
    (∀ f, (profiles o (root.visitedSites limit)).Describe o (root.visitedSites limit) f) ∧
      ReportsByProfile r o (root.visitedSites limit) (check r o (.collect path limit root)) := by
  have hids : missingAbstraction.id ≠ lackOfPolymorphism.id ∧
      missingAbstraction.id ≠ conditionalComplexity.id ∧
      lackOfPolymorphism.id ≠ conditionalComplexity.id := by decide
  refine ⟨describe_profiles o _, ?_, ?_, ?_⟩
  · refine about_check_of_function fits hpath (by decide) fun f => ?_
    simp [verdict, Reporter.about_report, hids]
  · refine about_check_of_function fits hpath (by decide) fun f => ?_
    simp [verdict, Reporter.about_report, hids, hids.1.symm]
  · refine about_check_of_function fits hpath (by decide) fun f => ?_
    simp [verdict, Reporter.about_report, hids.2.1.symm, hids.2.2.symm]

def typeTest : ParseTree :=
  .node ⟨"binary_expression", 0, 14, true, none⟩ []

def testingFunction : ParseTree :=
  .node ⟨"function_declaration", 0, 14, true, none⟩
    [typeTest, typeTest, .node ⟨"arrow_function", 0, 14, true, none⟩ [typeTest], typeTest, typeTest]

theorem reportsByProfile_testingFunction :
    ((check ⟨"ocp-violation", .warning, "src/a.js"⟩ (.ofOptions schema.defaults)
      (.collect "src/a.js" 50 (.ofParse "x instanceof A".toUTF8.toList testingFunction))).about
        missingAbstraction).length = 1 := by
  have hpath : (Settings.ofOptions schema.defaults).excludes (Context.slashed "src/a.js") =
      false := by decide +kernel
  rw [(check_reportsByProfile _ fits_defaults _ _ hpath).2.missingAbstraction, List.length_map]
  decide +kernel

end OpenClosed

end DesignLint
