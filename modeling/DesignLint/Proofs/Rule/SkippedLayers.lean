import DesignLint.Proofs.Rule.ImportCircles

namespace DesignLint

theorem Trial.mem_of_find? {α : Type} {test : α → Trial Bool} {items : List α} {a : α}
    (h : find? test items = .ok (some a)) : a ∈ items := by
  induction items with
  | nil => cases h
  | cons b rest ih =>
    rw [find?] at h
    split at h
    · cases h
    · obtain rfl := Option.some.inj (Except.ok.inj h)
      exact List.mem_cons_self
    · exact List.mem_cons_of_mem b (ih h)

namespace Findings

variable {m : Message} {x : Diagnostic} {a b : Findings}

theorem mem_left_of_not_reports (hx : x ∈ (a ++ b).diagnostics) (hid : x.message.id = m.id)
    (hb : ¬ b.Reports m) : x ∈ a.diagnostics := by
  rcases mem_diagnostics_append hx with ha | hx
  · exact ha
  · exact absurd ⟨x, hx, hid⟩ hb

theorem mem_right_of_not_reports (hx : x ∈ (a ++ b).diagnostics) (hid : x.message.id = m.id)
    (ha : ¬ a.Reports m) : x ∈ b.diagnostics := by
  rcases mem_diagnostics_append hx with hx | hb
  · exact absurd ⟨x, hx, hid⟩ ha
  · exact hb

end Findings

namespace PathClassifier

variable {c : PathClassifier}

theorem mem_layers_of_classify {path : String} {l : Layer}
    (h : c.classify path = .ok (some l)) : l ∈ c.layers := by
  rw [classify] at h
  split at h
  · cases h
  · exact Trial.mem_of_find? h

def nearer (best : Option Layer) (l : Layer) : Option Layer :=
  match best with
  | none => some l
  | some b => if l.level < b.level then some l else some b

theorem foldl_nearer (layers : List Layer) (b : Layer) :
    ∃ n ∈ b :: layers, layers.foldl nearer (some b) = some n ∧
      ∀ l ∈ b :: layers, n.level ≤ l.level := by
  induction layers generalizing b with
  | nil => exact ⟨b, by simp, rfl, by simp⟩
  | cons l rest ih =>
    by_cases hl : l.level < b.level
    · obtain ⟨n, hn, hfold, hleast⟩ := ih l
      have hnl : n.level ≤ l.level := hleast l List.mem_cons_self
      refine ⟨n, List.mem_cons_of_mem b hn, ?_, ?_⟩
      · rw [List.foldl_cons, nearer, if_pos hl, hfold]
      · intro k hk
        rcases List.mem_cons.mp hk with rfl | hk
        · omega
        · exact hleast k hk
    · obtain ⟨n, hn, hfold, hleast⟩ := ih b
      have hnb : n.level ≤ b.level := hleast b List.mem_cons_self
      refine ⟨n, ?_, ?_, ?_⟩
      · rcases List.mem_cons.mp hn with rfl | hn
        · exact List.mem_cons_self
        · simp [hn]
      · rw [List.foldl_cons, nearer, if_neg hl, hfold]
      · intro k hk
        rcases List.mem_cons.mp hk with rfl | hk
        · exact hnb
        · rcases List.mem_cons.mp hk with rfl | hk
          · omega
          · exact hleast k (List.mem_cons_of_mem b hk)

structure IsNext (c : PathClassifier) (l n : Layer) : Prop where
  listed : n ∈ c.layers
  outside : l.level < n.level
  nearest : ∀ m ∈ c.layers, l.level < m.level → n.level ≤ m.level

theorem exists_isNext {l m : Layer} (hm : m ∈ c.layers) (hlm : l.level < m.level) :
    ∃ n, c.nextLayer l = some n ∧ c.IsNext l n := by
  have hmem (k : Layer) : k ∈ c.layers.filter (fun o => decide (l.level < o.level)) ↔
      k ∈ c.layers ∧ l.level < k.level := by simp
  have hnext : c.nextLayer l =
      (c.layers.filter fun o => decide (l.level < o.level)).foldl nearer none := rfl
  rw [hnext]
  cases hfilter : c.layers.filter fun o => decide (l.level < o.level) with
  | nil =>
    have hm' := (hmem m).mpr ⟨hm, hlm⟩
    rw [hfilter] at hm'
    cases hm'
  | cons b rest =>
    rw [hfilter] at hmem
    obtain ⟨n, hn, hfold, hleast⟩ := foldl_nearer rest b
    obtain ⟨hlisted, houtside⟩ := (hmem n).mp hn
    exact ⟨n, hfold, hlisted, houtside, fun k hk hlk => hleast k ((hmem k).mpr ⟨hk, hlk⟩)⟩

theorem IsNext.level_lt_iff {l n m : Layer} (h : c.IsNext l n) :
    n.level < m.level ↔ ∃ k ∈ c.layers, l.level < k.level ∧ k.level < m.level := by
  constructor
  · intro hnm
    exact ⟨n, h.listed, h.outside, hnm⟩
  · rintro ⟨k, hk, hlk, hkm⟩
    have hnk : n.level ≤ k.level := h.nearest k hk hlk
    omega

theorem eq_of_level_eq (hlevels : (c.layers.map (·.level)).Nodup) {l m : Layer}
    (hl : l ∈ c.layers) (hm : m ∈ c.layers) (h : l.level = m.level) : l = m :=
  List.inj_on_of_nodup_map hlevels hl hm h

end PathClassifier

namespace Architecture

theorem layers_of_ofOptions {options : Fields} {o : Settings}
    (h : Settings.ofOptions options = .ok o) :
    Layer.ofTable (Options.entries options "layers") = .ok o.classifier.layers ∧
      (o.classifier.layers.map (·.level)).Nodup := by
  cases hlayers : Layer.ofTable (Options.entries options "layers") with
  | error e =>
    simp only [Settings.ofOptions, hlayers, bind, Except.bind] at h
    cases h
  | ok layers =>
    simp only [Settings.ofOptions, hlayers, bind, Except.bind, PathClassifier.build] at h
    by_cases hnodup : (layers.map (·.level)).Nodup
    · rw [if_pos hnodup] at h
      cases haliases : PathClassifier.aliasTexts (Options.entries options "path_aliases") with
      | error e =>
        rw [haliases] at h
        cases h
      | ok entries =>
        rw [haliases] at h
        obtain rfl := Except.ok.inj h
        exact ⟨rfl, hnodup⟩
    · rw [if_neg hnodup] at h
      cases h

def skipData (inner outer next : String) : Fields :=
  [("currentLayer", .text inner), ("targetLayer", .text outer),
   ("intermediateLayer", .text next)]

variable {r : Reporter} {o : Settings} {from_ : Standpoint} {t : Target} {x : Diagnostic}

theorem mem_checkTarget_skip (hx : x ∈ (checkTarget r o from_ t).diagnostics)
    (hid : x.message.id = skipLayerViolation.id) :
    ∃ inner outer, from_.layer = some inner ∧ t.layer = some outer ∧
      1 < outer.level - inner.level ∧
      x = r.diagnostic skipLayerViolation t.site (skipData inner.name outer.name
        (((o.classifier.nextLayer inner).map (·.name)).getD "")) := by
  rw [checkTarget] at hx
  have hx := Findings.mem_left_of_not_reports hx hid (not_reports_checkDatabase (by decide))
  have hx := Findings.mem_left_of_not_reports hx hid (not_reports_checkUserInterface (by decide))
  have hx := Findings.mem_left_of_not_reports hx hid (not_reports_checkBoundary (by decide))
  have hbefore : ¬ (between from_ t (checkLayers r) ++ checkFramework r o from_ t ++
      between from_ t (checkEntity r)).Reports skipLayerViolation := by
    rw [Findings.reports_append_iff_left (not_reports_checkEntity (by decide)),
      Findings.reports_append_iff_left (not_reports_checkFramework (by decide))]
    exact not_reports_checkLayers (by decide)
  have hx := Findings.mem_right_of_not_reports hx hid hbefore
  rw [between] at hx
  split at hx
  · next inner outer hinner houter =>
    obtain ⟨hapart, hx⟩ := Findings.mem_diagnostics_when hx
    exact ⟨inner, outer, hinner, houter, by simpa using hapart, Reporter.eq_of_mem_report hx⟩
  · cases hx

theorem mem_checkImport_skip {site : Site} {path : String}
    (hx : x ∈ (checkImport r o from_ site path).diagnostics)
    (hid : x.message.id = skipLayerViolation.id) :
    ∃ inner outer, from_.layer = some inner ∧
      o.classifier.classify (o.classifier.resolveImport path r.file) = .ok (some outer) ∧
      1 < outer.level - inner.level ∧
      x = r.diagnostic skipLayerViolation ((site.link .source).getD site) (skipData inner.name
        outer.name (((o.classifier.nextLayer inner).map (·.name)).getD "")) := by
  simp only [checkImport] at hx
  split at hx
  · obtain ⟨inner, outer, -, hnone, -⟩ := mem_checkTarget_skip hx hid
    cases hnone
  · obtain ⟨shared, -, hx⟩ := Findings.mem_diagnostics_given hx
    cases shared with
    | true => cases hx
    | false =>
      obtain ⟨layer, hlayer, hx⟩ := Findings.mem_diagnostics_given hx
      obtain ⟨inner, outer, hinner, houter, hapart, hx⟩ := mem_checkTarget_skip hx hid
      subst houter
      exact ⟨inner, outer, hinner, hlayer, hapart, hx⟩

theorem mem_checkSite {s : Site} (hx : x ∈ (checkSite r o from_ s).diagnostics) :
    ∃ i, s.code.import? = some i ∧ x ∈ (checkImport r o from_ s i.module).diagnostics := by
  rw [checkSite] at hx
  split at hx
  · cases hx
  · next i hi =>
    split at hx
    · cases hx
    · obtain ⟨shared, -, hx⟩ := Findings.mem_diagnostics_given hx
      cases shared with
      | true => cases hx
      | false => exact ⟨i, hi, hx⟩

theorem mem_check {c : Context} (hx : x ∈ (check r o c).diagnostics) :
    ∃ layer isBusiness, o.classifier.classify c.path = .ok layer ∧
      ∃ s ∈ c.sites [.importDecl], x ∈ (checkSite r o ⟨layer, isBusiness⟩ s).diagnostics := by
  rw [check] at hx
  obtain ⟨isTest, -, hx⟩ := Findings.mem_diagnostics_given hx
  cases isTest with
  | true => cases hx
  | false =>
    obtain ⟨shared, -, hx⟩ := Findings.mem_diagnostics_given hx
    cases shared with
    | true => cases hx
    | false =>
      obtain ⟨layer, hlayer, hx⟩ := Findings.mem_diagnostics_given hx
      obtain ⟨isBusiness, -, hx⟩ := Findings.mem_diagnostics_given hx
      obtain ⟨s, hs, hx⟩ := Findings.mem_diagnostics_each hx
      exact ⟨layer, isBusiness, hlayer, s, hs, hx⟩

def HasBetween (c : PathClassifier) (inner outer : Layer) : Prop :=
  ∃ l ∈ c.layers, inner.level < l.level ∧ l.level < outer.level

def NamesBetween (c : PathClassifier) (inner outer : Layer) (x : Diagnostic) : Prop :=
  ∃ l ∈ c.layers, Assoc.get? "intermediateLayer" x.data = some (.text l.name) ∧
    inner.level < l.level ∧ l.level < outer.level

structure SkipReport (o : Settings) (c : Context) (x : Diagnostic) (inner outer next : Layer) :
    Prop where
  file : o.classifier.classify c.path = .ok (some inner)
  target : ∃ s ∈ c.sites [.importDecl], ∃ i, s.code.import? = some i ∧
    o.classifier.classify (o.classifier.resolveImport i.module c.path) = .ok (some outer) ∧
    x.location = .ofSite c.path ((s.link .source).getD s)
  apart : 1 < outer.level - inner.level
  data : x.data = skipData inner.name outer.name next.name
  next : o.classifier.IsNext inner next

theorem exists_skipReport {severity : Severity} {c : Context}
    (hx : x ∈ (check (reporter severity c) o c).diagnostics)
    (hid : x.message.id = skipLayerViolation.id) :
    ∃ inner outer next, SkipReport o c x inner outer next := by
  obtain ⟨layer, isBusiness, hlayer, s, hs, hx⟩ := mem_check hx
  obtain ⟨i, hi, hx⟩ := mem_checkSite hx
  obtain ⟨inner, outer, rfl, houter, hapart, rfl⟩ := mem_checkImport_skip hx hid
  have hlevels : inner.level < outer.level := by omega
  obtain ⟨next, hnext, isNext⟩ :=
    PathClassifier.exists_isNext (PathClassifier.mem_layers_of_classify houter) hlevels
  refine ⟨inner, outer, next, hlayer, ⟨s, hs, i, hi, houter, rfl⟩, hapart, ?_, isNext⟩
  rw [hnext]
  rfl

theorem SkipReport.namesBetween_iff {c : Context} {inner outer next : Layer}
    (h : SkipReport o c x inner outer next) :
    NamesBetween o.classifier inner outer x ↔ HasBetween o.classifier inner outer := by
  constructor
  · rintro ⟨l, hl, -, hlevels⟩
    exact ⟨l, hl, hlevels⟩
  · intro hbetween
    have hnext : next.level < outer.level := h.next.level_lt_iff.mpr hbetween
    have hname : Assoc.get? "intermediateLayer" x.data = some (.text next.name) := by
      rw [h.data]
      rfl
    exact ⟨next, h.next.listed, hname, h.next.outside, hnext⟩

theorem SkipReport.next_eq_target {c : Context} {inner outer next : Layer}
    (h : SkipReport o c x inner outer next)
    (hlevels : (o.classifier.layers.map (·.level)).Nodup)
    (hgap : ¬ HasBetween o.classifier inner outer) : next = outer := by
  obtain ⟨s, -, i, -, houter, -⟩ := h.target
  have hlisted : outer ∈ o.classifier.layers := PathClassifier.mem_layers_of_classify houter
  have happart := h.apart
  have hle : next.level ≤ outer.level := h.next.nearest outer hlisted (by omega)
  have hge : ¬ next.level < outer.level := fun hlt => hgap (h.next.level_lt_iff.mp hlt)
  exact PathClassifier.eq_of_level_eq hlevels h.next.listed hlisted (by omega)

theorem skipLayer_names_next {options : Fields} (h : Settings.ofOptions options = .ok o)
    (severity : Severity) (probe : String → Bool) (c : Context)
    (hx : x ∈ (Detector.check ⟨.architecture o, severity⟩ probe c).diagnostics)
    (hid : x.message.id = skipLayerViolation.id) :
    Layer.ofTable (Options.entries options "layers") = .ok o.classifier.layers ∧
    ∃ inner outer next, SkipReport o c x inner outer next ∧
      (NamesBetween o.classifier inner outer x ↔ HasBetween o.classifier inner outer) ∧
      (¬ HasBetween o.classifier inner outer → next = outer) := by
  obtain ⟨hlayers, hlevels⟩ := layers_of_ofOptions h
  obtain ⟨inner, outer, next, hreport⟩ := exists_skipReport hx hid
  exact ⟨hlayers, inner, outer, next, hreport, hreport.namesBetween_iff,
    hreport.next_eq_target hlevels⟩

theorem exists_skip_of_any {r : Reporter} {o : Settings} {c : Context} {next : String}
    (h : (check r o c).diagnostics.any (fun x => x.message.id = skipLayerViolation.id &&
      (Assoc.get? "intermediateLayer" x.data).bind Value.asText? = some next) = true) :
    ∃ x ∈ (check r o c).diagnostics, x.message.id = skipLayerViolation.id ∧
      Assoc.get? "intermediateLayer" x.data = some (.text next) := by
  obtain ⟨x, hx, h⟩ := List.any_eq_true.mp h
  obtain ⟨hid, hname⟩ := Bool.and_eq_true_iff.mp h
  obtain ⟨v, hv, htext⟩ := Option.bind_eq_some_iff.mp (of_decide_eq_true hname)
  obtain rfl := Value.asText?_eq_some.mp htext
  exact ⟨x, hx, of_decide_eq_true hid, hv⟩

def skippingFile : Context :=
  importFile "src/domain/a.js" "../controllers/b"

theorem exists_skip_of_skippingFile :
    ∃ x ∈ (Detector.check ⟨.architecture defaultSettings, .warning⟩ (fun _ => false)
        skippingFile).diagnostics,
      x.message.id = skipLayerViolation.id ∧
      Assoc.get? "intermediateLayer" x.data = some (.text "use-cases") :=
  exists_skip_of_any (by decide +kernel)

theorem skipLayer_names_next_of_skippingFile :
    Settings.ofOptions schema.defaults = .ok defaultSettings ∧
    ∃ x ∈ (Detector.check ⟨.architecture defaultSettings, .warning⟩ (fun _ => false)
        skippingFile).diagnostics,
      x.message.id = skipLayerViolation.id ∧
      ∃ inner outer next, SkipReport defaultSettings skippingFile x inner outer next ∧
        next.name = "use-cases" ∧
        (NamesBetween defaultSettings.classifier inner outer x ↔
          HasBetween defaultSettings.classifier inner outer) := by
  obtain ⟨x, hx, hid, hname⟩ := exists_skip_of_skippingFile
  obtain ⟨-, inner, outer, next, hreport, hiff, -⟩ :=
    skipLayer_names_next ofOptions_defaults .warning (fun _ => false) skippingFile hx hid
  rw [hreport.data] at hname
  exact ⟨ofOptions_defaults, x, hx, hid, inner, outer, next, hreport,
    Value.text.inj (Option.some.inj hname), hiff⟩

def sparseLayers : Fields :=
  let layer (level : Int) (pattern : String) : Value :=
    .table [("patterns", Options.texts [pattern]), ("level", .int level)]
  [("core", layer 1 "**/core/**"), ("shell", layer 3 "**/shell/**")]

def sparseOptions : Fields :=
  Assoc.put "layers" (.table sparseLayers) schema.defaults

def sparseSettings : Settings :=
  { defaultSettings with
    classifier :=
      { layers := (sparseLayers.mapM fun e => Layer.ofEntry e.1 e.2).toOption.getD [] } }

theorem ofOptions_sparse : Settings.ofOptions sparseOptions = .ok sparseSettings :=
  ofOptions_of_sorted sparseSettings.classifier.layers [] rfl (by decide) rfl

theorem levels_sparse : ∀ inner ∈ sparseSettings.classifier.layers,
    ∀ outer ∈ sparseSettings.classifier.layers, 1 < outer.level - inner.level →
      inner.name = "core" ∧ outer.name = "shell" := by
  decide

theorem not_hasBetween_sparse : ∀ inner ∈ sparseSettings.classifier.layers,
    ∀ outer ∈ sparseSettings.classifier.layers,
      ¬ HasBetween sparseSettings.classifier inner outer := by
  unfold HasBetween
  decide

theorem skipLayer_names_target :
    Settings.ofOptions sparseOptions = .ok sparseSettings ∧
    ∃ x ∈ (Detector.check ⟨.architecture sparseSettings, .warning⟩ (fun _ => false)
        (importFile "src/core/a.js" "../shell/b")).diagnostics,
      x.message.id = skipLayerViolation.id ∧ x.data = skipData "core" "shell" "shell" ∧
      ∀ inner ∈ sparseSettings.classifier.layers, ∀ outer ∈ sparseSettings.classifier.layers,
        ¬ NamesBetween sparseSettings.classifier inner outer x := by
  obtain ⟨x, hx, hid, hname⟩ : ∃ x ∈ (Detector.check ⟨.architecture sparseSettings, .warning⟩
      (fun _ => false) (importFile "src/core/a.js" "../shell/b")).diagnostics,
      x.message.id = skipLayerViolation.id ∧
      Assoc.get? "intermediateLayer" x.data = some (.text "shell") :=
    exists_skip_of_any (by decide +kernel)
  obtain ⟨inner, outer, next, hreport⟩ := exists_skipReport hx hid
  obtain ⟨s, -, i, -, houter, -⟩ := hreport.target
  obtain ⟨hinner, houter⟩ := levels_sparse inner
    (PathClassifier.mem_layers_of_classify hreport.file) outer
    (PathClassifier.mem_layers_of_classify houter) hreport.apart
  have hdata := hreport.data
  have hnext : next.name = "shell" := by
    rw [hdata] at hname
    exact Value.text.inj (Option.some.inj hname)
  rw [hinner, houter, hnext] at hdata
  refine ⟨ofOptions_sparse, x, hx, hid, hdata, ?_⟩
  intro inner hinner outer houter hbetween
  obtain ⟨l, hl, -, hlevels⟩ := hbetween
  exact not_hasBetween_sparse inner hinner outer houter ⟨l, hl, hlevels⟩

end Architecture

end DesignLint
