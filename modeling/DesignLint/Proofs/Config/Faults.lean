import DesignLint.CommandLine.Response
import DesignLint.Proofs.Rule.Completion

namespace DesignLint

def Foreseen {α : Type} (x : Except ConfigError α) : Prop :=
  ∀ e, x = .error e → e.category = .invalid

namespace Foreseen

variable {α β : Type} {x : Except ConfigError α}

theorem ok (a : α) : Foreseen (.ok a) := by
  intro e h
  cases h

theorem error {e : ConfigError} (h : e.category = .invalid) :
    Foreseen (.error e : Except ConfigError α) := by
  rintro _ ⟨⟩
  exact h

theorem bind {f : α → Except ConfigError β} (hx : Foreseen x)
    (hf : ∀ a, x = .ok a → Foreseen (f a)) : Foreseen (x >>= f) := by
  cases x with
  | error e => exact error (hx e rfl)
  | ok a => exact hf a rfl

theorem map (hx : Foreseen x) (f : α → β) : Foreseen (x.map f) := by
  cases x with
  | error e => exact error (hx e rfl)
  | ok a => exact ok (f a)

theorem ne_error (hx : Foreseen x) {e : ConfigError} (he : e.category ≠ .invalid) :
    x ≠ .error e :=
  fun h => he (hx e h)

end Foreseen

namespace Schema

theorem foreseen_set (s : Schema) (options : Fields) (key : String) (value : Value) :
    Foreseen (s.set options key value) := by
  rw [set]
  split
  · exact .error rfl
  · split
    · exact .ok _
    · exact .error rfl

theorem foreseen_setAll (s : Schema) (options given : Fields) :
    Foreseen (s.setAll options given) := by
  induction given generalizing options with
  | nil => exact .ok options
  | cons entry rest ih =>
    rw [setAll]
    cases h : s.set options entry.1 entry.2 with
    | ok options => exact ih options
    | error e => exact .error (foreseen_set s options _ _ e h)

theorem foreseen_load (s : Schema) {given : Value}
    (h : given.isPresent → ∃ fields, given = .table fields) : Foreseen (s.load given) := by
  unfold load
  split
  · next fields => exact foreseen_setAll s s.defaults fields
  · next htable =>
    have hp : ¬ given.isPresent := fun hp => (h hp).elim htable
    rw [if_neg hp]
    exact .ok _

theorem load_eq_notTable (s : Schema) {given : Value} (hp : given.isPresent)
    (ht : ∀ fields, given ≠ .table fields) : s.load given = .error .notTable := by
  rw [load, if_pos hp]
  exact ht

end Schema

namespace Rule

theorem foreseen_loadOptions (r : Rule) {given : Value}
    (h : given.isPresent → ∃ fields, given = .table fields) : Foreseen (r.loadOptions given) := by
  have hload : Foreseen (r.schema.load given) := r.schema.foreseen_load h
  cases r with
  | repository =>
    refine hload.bind fun o _ => ?_
    rw [Repository.checkOptions]
    split
    · exact .ok o
    · exact .error rfl
  | _ => exact hload

theorem loadOptions_eq_notTable (r : Rule) {given : Value} (hp : given.isPresent)
    (ht : ∀ fields, given ≠ .table fields) : r.loadOptions given = .error .notTable := by
  have hload : r.schema.load given = .error .notTable := r.schema.load_eq_notTable hp ht
  cases r with
  | repository =>
    rw [loadOptions, hload]
    rfl
  | _ => exact hload

end Rule

namespace Settings

structure LooseEntry (r : Rule) (fields : Fields) : Prop where
  known : ∀ key ∈ fields.keys, key ∈ entryKeys
  enabled : ∃ enabled, enabledOf r.id fields = .ok enabled
  severity : ∃ severity, severityOf fields = .ok severity
  options : ∃ v, Assoc.get? "options" fields = some v ∧ v.isPresent ∧ ∀ t, v ≠ .table t

theorem unknownKeys_eq_nil_iff (known : List String) (fields : Fields) :
    unknownKeys known fields = [] ↔ ∀ key ∈ fields.keys, key ∈ known := by
  rw [unknownKeys, ← List.length_eq_zero_iff, List.length_mergeSort, List.length_eq_zero_iff,
    List.filter_eq_nil_iff]
  simp

theorem readEntry_table {r : Rule} {fields : Fields} (h : ∀ key ∈ fields.keys, key ∈ entryKeys) :
    readEntry r (.table fields) = (do
      let enabled ← enabledOf r.id fields
      let severity ← severityOf fields
      let options ← r.loadOptions ((Assoc.get? "options" fields).getD .null)
      return ⟨enabled, severity, options⟩) := by
  simp only [readEntry, entryFields, bind, Except.bind, (unknownKeys_eq_nil_iff _ _).mpr h]

theorem readEntry_eq_notTable {r : Rule} {fields : Fields} (h : LooseEntry r fields) :
    readEntry r (.table fields) = .error .notTable := by
  obtain ⟨enabled, henabled⟩ := h.enabled
  obtain ⟨severity, hseverity⟩ := h.severity
  obtain ⟨v, hv, hp, ht⟩ := h.options
  rw [readEntry_table h.known, henabled, hseverity, hv, Option.getD_some,
    r.loadOptions_eq_notTable hp ht]
  rfl

theorem table_of_options {rule : String} {entry v : Value} {fields : Fields}
    (h : entryFields rule entry = .ok fields) (hv : Assoc.get? "options" fields = some v) :
    entry = .table fields := by
  cases entry with
  | table given => rw [Except.ok.inj h]
  | bool b =>
    obtain rfl := Except.ok.inj h
    simp [Assoc.get?] at hv
  | text s =>
    obtain rfl := Except.ok.inj h
    simp [Assoc.get?] at hv
  | _ => cases h

theorem foreseen_entryFields (rule : String) (entry : Value) :
    Foreseen (entryFields rule entry) := by
  rw [entryFields.eq_def]
  split
  · exact .ok _
  · exact .ok _
  · exact .ok _
  · exact .error rfl

theorem foreseen_enabledOf (rule : String) (fields : Fields) :
    Foreseen (enabledOf rule fields) := by
  rw [enabledOf]
  split
  · exact .ok _
  · exact .ok _
  · exact .error rfl

theorem foreseen_severityOf (fields : Fields) : Foreseen (severityOf fields) := by
  rw [severityOf]
  split
  · next v _ =>
    rw [Severity.ofValue]
    split
    · exact .ok _
    · exact .error rfl
  · exact .ok _

theorem foreseen_readEntry {r : Rule} {entry : Value}
    (h : ∀ fields, entry = .table fields → ¬ LooseEntry r fields) :
    Foreseen (readEntry r entry) := by
  refine (foreseen_entryFields r.id entry).bind fun fields hfields => ?_
  split
  · next hknown =>
    refine (foreseen_enabledOf r.id fields).bind fun enabled henabled => ?_
    refine (foreseen_severityOf fields).bind fun severity hseverity => ?_
    refine (r.foreseen_loadOptions fun hp => ?_).bind fun options _ => .ok _
    cases hv : Assoc.get? "options" fields with
    | none => simp [hv, Value.isPresent] at hp
    | some v =>
      simp only [hv, Option.getD_some] at hp ⊢
      by_contra hnone
      exact h fields (table_of_options hfields hv) {
        known := (unknownKeys_eq_nil_iff _ _).mp hknown
        enabled := ⟨enabled, henabled⟩
        severity := ⟨severity, hseverity⟩
        options := ⟨v, hv, hp, fun t ht => hnone ⟨t, ht⟩⟩ }
  · exact .error rfl

def Accepts (e : String × Value) : Prop :=
  ∃ r setting, Rule.named? e.1 = some r ∧ readEntry r e.2 = .ok setting

def LooseOptions (entries : Fields) : Prop :=
  ∃ before r fields after, entries = before ++ (Rule.id r, .table fields) :: after ∧
    (∀ e ∈ before, Accepts e) ∧ LooseEntry r fields

theorem lay_eq_notTable {entries : Fields} (h : LooseOptions entries) (s : Settings) :
    s.lay entries = .error .notTable := by
  obtain ⟨before, r, fields, after, rfl, haccepts, hloose⟩ := h
  induction before generalizing s with
  | nil =>
    rw [List.nil_append, lay, Rule.named?_id]
    simp only [readEntry_eq_notTable hloose]
  | cons e rest ih =>
    obtain ⟨q, setting, hq, hread⟩ := haccepts e (by simp)
    rw [List.cons_append, lay, hq]
    simp only [hread]
    exact ih (s.set q setting) fun x hx => haccepts x (by simp [hx])

theorem foreseen_lay {entries : Fields} (h : ¬ LooseOptions entries) (s : Settings) :
    Foreseen (s.lay entries) := by
  induction entries generalizing s with
  | nil => exact .ok s
  | cons e rest ih =>
    obtain ⟨id, entry⟩ := e
    rw [lay]
    cases hr : Rule.named? id with
    | none => exact .error rfl
    | some r =>
      obtain rfl : r.id = id := by simpa using List.find?_some hr
      dsimp only
      cases hread : readEntry r entry with
      | error e =>
        -- nothing stands before this entry, so it would be the first that is not accepted
        refine .error (foreseen_readEntry (fun fields he hloose => h ?_) e hread)
        subst he
        exact ⟨[], r, fields, rest, rfl, by simp, hloose⟩
      | ok setting =>
        refine ih (fun hrest => h ?_) (s.set r setting)
        obtain ⟨before, q, fields, after, rfl, haccepts, hloose⟩ := hrest
        refine ⟨(r.id, entry) :: before, q, fields, after, rfl, ?_, hloose⟩
        exact List.forall_mem_cons.mpr ⟨⟨r, setting, hr, hread⟩, haccepts⟩

end Settings

def aliasTargets (o : Fields) : List Value :=
  (Options.entries o "path_aliases").map Prod.snd

def Rule.LooseAlias (o : Fields) : Rule → Prop
  | inversion => ¬ AreTexts (aliasTargets o)
  | architecture =>
    (∃ layers, Layer.ofTable (Options.entries o "layers") = .ok layers ∧
      (layers.map Layer.level).Nodup) ∧ ¬ AreTexts (aliasTargets o)
  | _ => False

namespace PathClassifier

theorem aliasTexts_eq_ok {entries : Fields} (h : AreTexts (entries.map Prod.snd)) :
    ∃ texts, aliasTexts entries = .ok texts := by
  induction entries with
  | nil => exact ⟨[], rfl⟩
  | cons e rest ih =>
    obtain ⟨short, target⟩ := e
    obtain ⟨s, rfl⟩ := h.eq_text (v := target) (by simp)
    obtain ⟨texts, hrest⟩ := ih h.tail
    refine ⟨(short, s) :: texts, ?_⟩
    rw [aliasTexts, hrest]
    rfl

theorem aliasTexts_eq_aliasTarget {entries : Fields} (h : ¬ AreTexts (entries.map Prod.snd)) :
    aliasTexts entries = .error .aliasTarget := by
  induction entries with
  | nil => exact absurd (by simp [AreTexts]) h
  | cons e rest ih =>
    obtain ⟨short, target⟩ := e
    cases target with
    | text s =>
      have hrest : ¬ AreTexts (rest.map Prod.snd) := fun hr =>
        h (List.forall_mem_cons.mpr ⟨rfl, hr⟩)
      rw [aliasTexts, ih hrest]
      rfl
    | _ => rfl

end PathClassifier

theorem Layer.foreseen_ofTable (entries : Fields) : Foreseen (ofTable entries) := by
  have hentry (e : String × Value) : Foreseen (ofEntry e.1 e.2) := by
    rw [ofEntry.eq_def]
    split
    · split
      · exact .ok _
      · exact .error rfl
    · exact .error rfl
  refine Foreseen.bind ?_ fun layers _ => .ok _
  induction entries with
  | nil => exact .ok []
  | cons e rest ih =>
    rw [List.mapM_cons]
    exact (hentry e).bind fun layer _ => ih.bind fun layers _ => .ok _

namespace Checker

theorem build_eq_aliasTarget {r : Rule} {o : Fields} (h : r.LooseAlias o) :
    build r o = .error .aliasTarget := by
  cases r with
  | inversion =>
    have htargets := PathClassifier.aliasTexts_eq_aliasTarget h
    simp [build, Inversion.Settings.ofOptions, PathClassifier.build, htargets, Except.map]
  | architecture =>
    obtain ⟨⟨layers, hlayers, hnodup⟩, halias⟩ := h
    have htargets := PathClassifier.aliasTexts_eq_aliasTarget halias
    simp [build, Architecture.Settings.ofOptions, hlayers, PathClassifier.build, hnodup, htargets,
      Except.map, bind, Except.bind]
  | _ => exact h.elim

theorem build_eq_ok {r : Rule} {o : Fields} (h : ¬ r.LooseAlias o) (hr : r ≠ .architecture) :
    ∃ c, build r o = .ok c := by
  cases r with
  | inversion =>
    obtain ⟨texts, htexts⟩ := PathClassifier.aliasTexts_eq_ok (not_not.mp h)
    rw [build, Inversion.Settings.ofOptions, PathClassifier.build, if_pos (by simp), htexts]
    exact ⟨_, rfl⟩
  | architecture => exact absurd rfl hr
  | _ => exact ⟨_, rfl⟩

theorem foreseen_build {r : Rule} {o : Fields} (h : ¬ r.LooseAlias o) : Foreseen (build r o) := by
  by_cases hr : r = .architecture
  · subst hr
    refine Foreseen.map ?_ _
    refine (Layer.foreseen_ofTable _).bind fun layers hlayers => ?_
    refine Foreseen.bind ?_ fun classifier _ => .ok _
    rw [PathClassifier.build]
    split
    · next hnodup =>
      have halias : AreTexts (aliasTargets o) := by
        by_contra halias
        exact h ⟨⟨layers, hlayers, hnodup⟩, halias⟩
      obtain ⟨texts, htexts⟩ := PathClassifier.aliasTexts_eq_ok halias
      rw [htexts]
      exact .ok _
    · exact .error rfl
  · obtain ⟨c, hc⟩ := build_eq_ok h hr
    rw [hc]
    exact .ok c

end Checker

namespace Detector

def LooseAliases (settings : Settings) (only : List String) : Prop :=
  (∀ id ∈ only, ∃ r : Rule, r.id = id) ∧
    ∃ r, isSelected settings only r ∧ r.LooseAlias (settings r).options

theorem foreseen_buildFrom {settings : Settings} {rules : List Rule}
    (h : ∀ r ∈ rules, ¬ r.LooseAlias (settings r).options) :
    Foreseen (buildFrom settings rules) := by
  induction rules with
  | nil => exact .ok []
  | cons r rest ih =>
    rw [buildFrom]
    cases hr : Checker.build r (settings r).options with
    | error e => exact .error (Checker.foreseen_build (h r (by simp)) e hr)
    | ok c => exact (ih fun q hq => h q (by simp [hq])).map _

-- A layer that cannot be read is found before any alias, so it matters that the rule with layers
-- is built after the other rule with aliases.
theorem buildFrom_eq_aliasTarget {settings : Settings} {rules : List Rule} {r : Rule}
    (sorted : rules.Pairwise fun q r => q ≠ .architecture ∨ r = .repository ∨ r = .naming)
    (hr : r ∈ rules) (h : r.LooseAlias (settings r).options) :
    buildFrom settings rules = .error .aliasTarget := by
  induction rules with
  | nil => cases hr
  | cons q rest ih =>
    obtain ⟨hq, hrest⟩ := List.pairwise_cons.mp sorted
    by_cases hloose : q.LooseAlias (settings q).options
    · rw [buildFrom, Checker.build_eq_aliasTarget hloose]
    · have hmem : r ∈ rest := by
        rcases List.mem_cons.mp hr with rfl | hmem
        · exact absurd h hloose
        · exact hmem
      have hne : q ≠ .architecture := by
        rcases hq r hmem with hne | rfl | rfl
        · exact hne
        · exact h.elim
        · exact h.elim
      obtain ⟨c, hc⟩ := Checker.build_eq_ok hloose hne
      rw [buildFrom, hc, ih hrest hmem]
      rfl

theorem foreseen_build {settings : Settings} {only : List String}
    (h : ¬ LooseAliases settings only) : Foreseen (build settings only) := by
  rw [build]
  split
  · exact .error rfl
  · next hknown =>
    refine foreseen_buildFrom fun r hr hloose => h ⟨?_, r, ?_, hloose⟩
    · exact (find?_unknown_eq_none_iff only).mp hknown
    · exact (List.mem_filter.mp hr).2

theorem build_eq_aliasTarget {settings : Settings} {only : List String}
    (h : LooseAliases settings only) : build settings only = .error .aliasTarget := by
  obtain ⟨hknown, r, hselected, hloose⟩ := h
  have hfind : only.find? (fun id => (Rule.named? id).isNone) = none :=
    (find?_unknown_eq_none_iff only).mpr hknown
  have sorted : Rule.all.Pairwise fun q r =>
      q ≠ .architecture ∨ r = .repository ∨ r = .naming := by decide
  rw [build, hfind]
  exact buildFrom_eq_aliasTarget (sorted.filter _)
    (List.mem_filter.mpr ⟨r.mem_all, hselected⟩) hloose

end Detector

section Configured

variable {rules : Fields} {only : List String}

theorem configured_of_looseOptions (h : Settings.LooseOptions rules) :
    (Settings.read (.table rules) >>= fun s => Detector.build s only) = .error .notTable := by
  rw [Settings.read, Settings.lay_eq_notTable h]
  rfl

theorem configured_of_looseAliases {settings : Settings}
    (hread : Settings.read (.table rules) = .ok settings)
    (h : Detector.LooseAliases settings only) :
    (Settings.read (.table rules) >>= fun s => Detector.build s only) = .error .aliasTarget := by
  rw [hread]
  exact Detector.build_eq_aliasTarget h

theorem foreseen_configured (hoptions : ¬ Settings.LooseOptions rules)
    (haliases : ∀ settings, Settings.read (.table rules) = .ok settings →
      ¬ Detector.LooseAliases settings only) :
    Foreseen (Settings.read (.table rules) >>= fun s => Detector.build s only) :=
  (Settings.foreseen_lay hoptions .default).bind fun settings hread =>
    Detector.foreseen_build (haliases settings hread)

end Configured

theorem configuration_faults (rules : Fields) (only : List String) :
    let configured := Settings.read (.table rules) >>= fun settings => Detector.build settings only
    (configured = .error .notTable ↔ Settings.LooseOptions rules) ∧
    (configured = .error .aliasTarget ↔ ∃ settings, Settings.read (.table rules) = .ok settings ∧
      Detector.LooseAliases settings only) ∧
    ∀ e, configured = .error e → e ≠ .notTable → e ≠ .aliasTarget →
      e.category = .invalid ∧ Response.ofError e = .fault e.message := by
  intro configured
  by_cases hoptions : Settings.LooseOptions rules
  · have hconfigured : configured = .error .notTable := configured_of_looseOptions hoptions
    have hread : Settings.read (.table rules) = .error .notTable :=
      Settings.lay_eq_notTable hoptions .default
    simp [hconfigured, hoptions, hread]
  · by_cases haliases : ∃ settings, Settings.read (.table rules) = .ok settings ∧
        Detector.LooseAliases settings only
    · obtain ⟨settings, hread, hloose⟩ := haliases
      have hconfigured : configured = .error .aliasTarget :=
        configured_of_looseAliases hread hloose
      simp [hconfigured, hoptions, hread, hloose]
    · have hforeseen : Foreseen configured := foreseen_configured hoptions
        fun settings hread hloose => haliases ⟨settings, hread, hloose⟩
      refine ⟨iff_of_false (hforeseen.ne_error (by decide)) hoptions,
        iff_of_false (hforeseen.ne_error (by decide)) haliases, fun e he _ _ => ?_⟩
      have hinvalid : e.category = .invalid := hforeseen e he
      exact ⟨hinvalid, by rw [Response.ofError, hinvalid]⟩

def listedOptions : Fields :=
  [("srp-violation", .table [("options", .list [.int 1])])]

def numberedAlias : Fields :=
  [("dip-violation", .table [("options", .table [("pathAliases", .table [("@a", .int 1)])])])]

theorem configuration_breaks :
    (∃ e, (Settings.read (.table listedOptions) >>= fun settings => Detector.build settings []) =
      .error e ∧ e.category ≠ .invalid ∧ (Response.ofError e).exitCode ≠ 2) ∧
    ∃ e, (Settings.read (.table numberedAlias) >>= fun settings => Detector.build settings []) =
      .error e ∧ e.category ≠ .invalid ∧ (Response.ofError e).exitCode ≠ 2 := by
  refine ⟨⟨.notTable, ?_, by decide, by decide⟩, ⟨.aliasTarget, ?_, by decide, by decide⟩⟩
  · refine configured_of_looseOptions ⟨[], .responsibility, _, [], rfl, by simp, ?_⟩
    exact ⟨by decide, ⟨true, rfl⟩, ⟨.warning, rfl⟩, ⟨_, rfl, by decide, by simp⟩⟩
  · obtain ⟨setting, hentry, henabled, halias⟩ : ∃ setting, Settings.readEntry .inversion (.table
        [("options", .table [("pathAliases", .table [("@a", .int 1)])])]) = .ok setting ∧
        setting.enabled = true ∧ ¬ AreTexts (aliasTargets setting.options) := by
      rw [Settings.readEntry_table (by decide)]
      exact ⟨_, rfl, rfl, by decide⟩
    have hnamed : Rule.named? "dip-violation" = some .inversion := Rule.named?_id .inversion
    have hread : Settings.read (.table numberedAlias) =
        .ok (Settings.default.set .inversion setting) := by
      simp only [numberedAlias, Settings.read, Settings.lay, hnamed, hentry]
    exact configured_of_looseAliases hread ⟨by simp, .inversion, henabled, halias⟩

end DesignLint
