import DesignLint.Proofs.Assoc
import DesignLint.Proofs.Config.Faults

namespace DesignLint

-- Type names keep truth values and whole numbers apart, and all lists together.
theorem Value.suits_iff {default : Value} (settable : default.typeName ∉ ["NoneType", "float"])
    (value : Value) : value.suits default = true ↔ value.typeName = default.typeName := by
  cases default with
  | null => exact absurd (by decide) settable
  | real x => exact absurd (by simp [typeName]) settable
  | _ => cases value <;> simp [suits, typeName]

namespace Schema

structure IsProper (s : Schema) : Prop where
  distinct : s.defaults.keys.Nodup
  settable : ∀ e ∈ s.defaults, e.2.typeName ∉ ["NoneType", "float"]

theorem IsProper.eq_of_mem {s : Schema} (proper : s.IsProper) {field : String} {a b : Value}
    (ha : (field, a) ∈ s.defaults) (hb : (field, b) ∈ s.defaults) : a = b := by
  have hget := Assoc.get?_of_mem proper.distinct ha
  rw [Assoc.get?_of_mem proper.distinct hb] at hget
  exact (Option.some.inj hget).symm

def Admits (s : Schema) (e : String × Value) : Prop :=
  ∃ default, (s.fieldOf e.1, default) ∈ s.defaults ∧ e.2.typeName = default.typeName

inductive Blames (s : Schema) (e : String × Value) : ConfigError → Prop
  | unknown (h : s.fieldOf e.1 ∉ s.defaults.keys) : Blames s e (.unknownOption e.1 s.owner)
  | mistyped {default : Value} (h : (s.fieldOf e.1, default) ∈ s.defaults)
      (ht : e.2.typeName ≠ default.typeName) :
      Blames s e (.mistypedOption e.1 s.owner default.typeName e.2.typeName)

def lastGiven (s : Schema) (given : Fields) (field : String) : Option Value :=
  (given.reverse.find? fun e => s.fieldOf e.1 = field).map Prod.snd

def filled (s : Schema) (given : Fields) : Fields :=
  Assoc.fill (fun e => s.fieldOf e.1) Prod.snd s.defaults given

section Proper

variable {s : Schema} {e : String × Value} {given : Fields}

theorem set_of_admits (proper : s.IsProper) (h : s.Admits e) (options : Fields) :
    s.set options e.1 e.2 = .ok (Assoc.put (s.fieldOf e.1) e.2 options) := by
  obtain ⟨default, hmem, ht⟩ := h
  have hsuits : e.2.suits default = true :=
    (Value.suits_iff (proper.settable _ hmem) e.2).mpr ht
  rw [set, Assoc.get?_of_mem proper.distinct hmem]
  exact if_pos hsuits

theorem exists_blames (proper : s.IsProper) (h : ¬ s.Admits e) (options : Fields) :
    ∃ err, s.set options e.1 e.2 = .error err ∧ s.Blames e err := by
  rw [set]
  cases hget : Assoc.get? (s.fieldOf e.1) s.defaults with
  | none =>
    refine ⟨_, rfl, .unknown fun hkey => ?_⟩
    obtain ⟨⟨name, default⟩, hmem, hname⟩ := List.mem_map.mp hkey
    obtain rfl : name = s.fieldOf e.1 := hname
    rw [Assoc.get?_of_mem proper.distinct hmem] at hget
    cases hget
  | some default =>
    have hmem := Assoc.mem_of_get? hget
    have ht : e.2.typeName ≠ default.typeName := fun ht => h ⟨default, hmem, ht⟩
    have hsuits : ¬ e.2.suits default = true :=
      fun hs => ht ((Value.suits_iff (proper.settable _ hmem) e.2).mp hs)
    exact ⟨_, if_neg hsuits, .mistyped hmem ht⟩

theorem setAll_append (proper : s.IsProper) {before : Fields} (h : ∀ x ∈ before, s.Admits x)
    (after options : Fields) :
    s.setAll options (before ++ after) =
      s.setAll (Assoc.fill (fun e => s.fieldOf e.1) Prod.snd options before) after := by
  induction before generalizing options with
  | nil => rfl
  | cons x rest ih =>
    rw [List.cons_append, setAll, set_of_admits proper (h x (by simp))]
    exact ih (fun y hy => h y (by simp [hy])) _

theorem load_of_admits (proper : s.IsProper) (h : ∀ x ∈ given, s.Admits x) :
    s.load (.table given) = .ok (s.filled given) := by
  have hall := setAll_append proper h [] s.defaults
  rwa [List.append_nil] at hall

theorem load_of_first (proper : s.IsProper) {before : Fields}
    (hbefore : ∀ x ∈ before, s.Admits x) (he : ¬ s.Admits e) (after : Fields) :
    ∃ err, s.load (.table (before ++ e :: after)) = .error err ∧ s.Blames e err := by
  obtain ⟨err, hset, hblames⟩ := exists_blames proper he
    (Assoc.fill (fun e => s.fieldOf e.1) Prod.snd s.defaults before)
  refine ⟨err, ?_, hblames⟩
  rw [load, setAll_append proper hbefore, setAll, hset]

theorem get?_filled (proper : s.IsProper) {field : String} {default : Value}
    (h : (field, default) ∈ s.defaults) (given : Fields) :
    Assoc.get? field (s.filled given) = some ((s.lastGiven given field).getD default) := by
  rw [filled, Assoc.get?_fill, Assoc.get?_of_mem proper.distinct h, lastGiven]
  cases (given.reverse.find? fun e => s.fieldOf e.1 = field) <;> rfl

theorem keys_filled (h : ∀ x ∈ given, s.Admits x) : (s.filled given).keys = s.defaults.keys := by
  apply Assoc.keys_fill
  intro x hx
  obtain ⟨default, hmem, -⟩ := h x hx
  exact List.mem_map_of_mem hmem

theorem typeName_of_lastGiven (proper : s.IsProper) (h : ∀ x ∈ given, s.Admits x) {field : String}
    {default : Value} (hfield : (field, default) ∈ s.defaults) :
    ((s.lastGiven given field).getD default).typeName = default.typeName := by
  rw [lastGiven]
  cases hfind : given.reverse.find? fun e => s.fieldOf e.1 = field with
  | none => rfl
  | some x =>
    obtain ⟨other, hother, ht⟩ := h x (List.mem_reverse.mp (List.mem_of_find?_eq_some hfind))
    have hname : s.fieldOf x.1 = field := by simpa using List.find?_some hfind
    rw [hname] at hother
    rwa [proper.eq_of_mem hother hfield] at ht

end Proper

theorem Blames.category {s : Schema} {e : String × Value} {err : ConfigError}
    (h : s.Blames e err) : err.category = .invalid := by
  cases h <;> rfl

theorem Blames.message {s : Schema} {e : String × Value} {err : ConfigError}
    (h : s.Blames e err) :
    ∃ before after, err.message = before ++ e.1 ++ "' for " ++ s.owner ++ after := by
  cases h with
  | unknown h =>
    refine ⟨"Unknown option '", "", ?_⟩
    rw [String.append_empty]
    rfl
  | @mistyped default h ht =>
    refine ⟨"Option '", " expects " ++ default.typeName ++ ", got " ++ e.2.typeName, ?_⟩
    simp only [← String.append_assoc]
    rfl

end Schema

theorem Rule.isProper_schema (r : Rule) : r.schema.IsProper := by
  cases r <;> exact ⟨by decide, by decide +kernel⟩

namespace Rule

-- The pattern that the repository rule ends up with; the other rules have none.
def HasAllowedPattern (r : Rule) (given : Fields) : Prop :=
  r = .repository →
    (r.schema.lastGiven given "repository_pattern").getD (.text "interface") ∈
      [.text "interface", .text "class"]

theorem checkOptions_filled {given : Fields}
    (h : ∀ e ∈ given, Repository.schema.Admits e) :
    ∃ pattern, (Repository.schema.lastGiven given "repository_pattern").getD (.text "interface") =
        .text pattern ∧
      Repository.checkOptions (Repository.schema.filled given) =
        if pattern = "interface" ∨ pattern = "class" then .ok (Repository.schema.filled given)
        else .error (.badRepositoryPattern pattern) := by
  have proper : Repository.schema.IsProper := isProper_schema .repository
  have hmem : ("repository_pattern", Value.text "interface") ∈ Repository.schema.defaults :=
    List.mem_cons_self
  have ht := Schema.typeName_of_lastGiven proper h hmem
  have hget := Schema.get?_filled proper hmem given
  cases hv : (Repository.schema.lastGiven given "repository_pattern").getD (.text "interface") with
  | text pattern =>
    rw [hv] at hget
    refine ⟨pattern, rfl, ?_⟩
    simp only [Repository.checkOptions, Options.word, hget]
  | _ =>
    rw [hv] at ht
    exact absurd ht (by simp [Value.typeName])

theorem loadOptions_of_admits {r : Rule} {given : Fields} (h : ∀ e ∈ given, r.schema.Admits e) :
    (r.HasAllowedPattern given ∧ r.loadOptions (.table given) = .ok (r.schema.filled given)) ∨
      ∃ pattern, ¬ r.HasAllowedPattern given ∧
        (r.schema.lastGiven given "repository_pattern").getD (.text "interface") = .text pattern ∧
        r.loadOptions (.table given) = .error (.badRepositoryPattern pattern) := by
  have hload := Schema.load_of_admits r.isProper_schema h
  by_cases hr : r = .repository
  · subst hr
    obtain ⟨pattern, hpattern, hcheck⟩ := checkOptions_filled h
    have hloaded : loadOptions .repository (.table given) =
        Repository.checkOptions (Repository.schema.filled given) := by
      rw [loadOptions, hload]
      rfl
    have hallowed : HasAllowedPattern .repository given ↔
        pattern = "interface" ∨ pattern = "class" := by
      simp only [HasAllowedPattern, schema, hpattern, forall_const]
      simp
    by_cases hp : pattern = "interface" ∨ pattern = "class"
    · rw [if_pos hp] at hcheck
      exact .inl ⟨hallowed.mpr hp, hloaded.trans hcheck⟩
    · rw [if_neg hp] at hcheck
      exact .inr ⟨pattern, mt hallowed.mp hp, hpattern, hloaded.trans hcheck⟩
  · refine .inl ⟨fun he => absurd he hr, ?_⟩
    rw [← hload]
    cases r with
    | repository => exact absurd rfl hr
    | _ => rfl

theorem loadOptions_of_first {r : Rule} {before : Fields} {e : String × Value}
    (hbefore : ∀ x ∈ before, r.schema.Admits x) (he : ¬ r.schema.Admits e) (after : Fields) :
    ∃ err, r.loadOptions (.table (before ++ e :: after)) = .error err ∧ r.schema.Blames e err := by
  obtain ⟨err, hload, hblames⟩ := Schema.load_of_first r.isProper_schema hbefore he after
  refine ⟨err, ?_, hblames⟩
  cases r with
  | repository =>
    rw [loadOptions, hload]
    rfl
  | _ => exact hload

theorem exists_loadOptions_iff (r : Rule) (given : Fields) :
    (∃ o, r.loadOptions (.table given) = .ok o) ↔
      (∀ e ∈ given, r.schema.Admits e) ∧ r.HasAllowedPattern given := by
  classical
  constructor
  · rintro ⟨o, ho⟩
    have hall : ∀ e ∈ given, r.schema.Admits e := by
      by_contra hnot
      obtain ⟨e, he⟩ : ∃ e, given.find? (fun e => ¬ r.schema.Admits e) = some e := by
        rw [← Option.isSome_iff_exists, List.find?_isSome]
        simpa using hnot
      obtain ⟨hfails, before, after, rfl, hbefore⟩ := List.find?_eq_some_iff_append.mp he
      have hadmits : ∀ x ∈ before, r.schema.Admits x := fun x hx => by simpa using hbefore x hx
      have hrefused : ¬ r.schema.Admits e := by simpa using hfails
      obtain ⟨err, herr, -⟩ := loadOptions_of_first hadmits hrefused after
      rw [herr] at ho
      cases ho
    refine ⟨hall, ?_⟩
    rcases loadOptions_of_admits hall with ⟨hallowed, -⟩ | ⟨pattern, -, -, herr⟩
    · exact hallowed
    · rw [herr] at ho
      cases ho
  · rintro ⟨hall, hallowed⟩
    rcases loadOptions_of_admits hall with ⟨-, ho⟩ | ⟨pattern, hnot, -⟩
    · exact ⟨_, ho⟩
    · exact absurd hallowed hnot

theorem loadOptions_by_keys (r : Rule) (given : Fields) :
    ((∃ o, r.loadOptions (.table given) = .ok o) ↔
      (∀ e ∈ given, r.schema.Admits e) ∧ r.HasAllowedPattern given) ∧
    (∀ o, r.loadOptions (.table given) = .ok o →
      o.keys = r.schema.defaults.keys ∧
      ∀ field default, (field, default) ∈ r.schema.defaults →
        Assoc.get? field o = some ((r.schema.lastGiven given field).getD default)) ∧
    (∀ before e after, given = before ++ e :: after → (∀ x ∈ before, r.schema.Admits x) →
      ¬ r.schema.Admits e →
      ∃ err, r.loadOptions (.table given) = .error err ∧ r.schema.Blames e err ∧
        err.category = .invalid ∧
        ∃ head tail, err.message = head ++ e.1 ++ "' for " ++ r.schema.owner ++ tail) ∧
    ((∀ e ∈ given, r.schema.Admits e) → ¬ r.HasAllowedPattern given →
      ∃ pattern, (r.schema.lastGiven given "repository_pattern").getD (.text "interface") =
          .text pattern ∧
        r.loadOptions (.table given) = .error (.badRepositoryPattern pattern) ∧
        (ConfigError.badRepositoryPattern pattern).category = .invalid) := by
  refine ⟨exists_loadOptions_iff r given, ?_, ?_, ?_⟩
  · intro o ho
    have hall := ((exists_loadOptions_iff r given).mp ⟨o, ho⟩).1
    rcases loadOptions_of_admits hall with ⟨-, hfilled⟩ | ⟨pattern, -, -, herr⟩
    · obtain rfl := Except.ok.inj (ho.symm.trans hfilled)
      exact ⟨Schema.keys_filled hall, fun field default hmem =>
        Schema.get?_filled r.isProper_schema hmem given⟩
    · rw [herr] at ho
      cases ho
  · rintro before e after rfl hbefore he
    obtain ⟨err, herr, hblames⟩ := loadOptions_of_first hbefore he after
    exact ⟨err, herr, hblames, hblames.category, hblames.message⟩
  · intro hall hnot
    rcases loadOptions_of_admits hall with ⟨hallowed, -⟩ | ⟨pattern, -, hpattern, herr⟩
    · exact absurd hallowed hnot
    · exact ⟨pattern, hpattern, herr, rfl⟩

def competingKeys : Fields := [("maxMethods", .int 5), ("max_methods", .int 7)]

def refusedKeys : Fields :=
  [("maxMethods", .int 5), ("max_methods", .bool true), ("depth", .int 1)]

theorem loadOptions_of_competingKeys :
    (∃ o, segregation.loadOptions (.table competingKeys) = .ok o ∧
      Assoc.get? "max_methods" o = some (.int 7) ∧
      Assoc.get? "max_unused_methods" o = some (.int 3)) ∧
    segregation.loadOptions (.table refusedKeys) =
      .error (.mistypedOption "max_methods" "ISPOptions" "int" "bool") := by
  have hcamel : segregation.schema.fieldOf "maxMethods" = "max_methods" := by
    with_unfolding_all rfl
  have hsnake : segregation.schema.fieldOf "max_methods" = "max_methods" := by
    with_unfolding_all rfl
  have hdefault : ("max_methods", Value.int 10) ∈ segregation.schema.defaults :=
    List.mem_cons_self
  have hfirst : segregation.schema.Admits ("maxMethods", .int 5) :=
    ⟨.int 10, hcamel ▸ hdefault, rfl⟩
  have hsecond : segregation.schema.Admits ("max_methods", .int 7) :=
    ⟨.int 10, hsnake ▸ hdefault, rfl⟩
  constructor
  · obtain ⟨o, ho⟩ := (loadOptions_by_keys segregation competingKeys).1.mpr
      ⟨by simpa [competingKeys] using ⟨hfirst, hsecond⟩, fun h => by cases h⟩
    have hfields := ((loadOptions_by_keys segregation competingKeys).2.1 o ho).2
    refine ⟨o, ho, ?_, ?_⟩
    · rw [hfields _ _ hdefault]
      simp [Schema.lastGiven, competingKeys, hsnake]
    · rw [hfields "max_unused_methods" (.int 3) (List.mem_cons_of_mem _ List.mem_cons_self)]
      simp [Schema.lastGiven, competingKeys, hsnake, hcamel]
  · have hrefused : ¬ segregation.schema.Admits ("max_methods", .bool true) := by
      rintro ⟨default, hmem, ht⟩
      rw [hsnake] at hmem
      rw [(isProper_schema segregation).eq_of_mem hmem hdefault] at ht
      exact absurd ht (by simp [Value.typeName])
    obtain ⟨err, herr, hblames, -⟩ := (loadOptions_by_keys segregation refusedKeys).2.2.1
      [("maxMethods", .int 5)] ("max_methods", .bool true) [("depth", .int 1)] rfl
      (by simpa using hfirst) hrefused
    rw [herr]
    cases hblames with
    | unknown h => exact absurd (List.mem_map_of_mem hdefault) (hsnake ▸ h)
    | @mistyped default hmem ht =>
      rw [hsnake] at hmem
      rw [(isProper_schema segregation).eq_of_mem hmem hdefault]
      rfl

end Rule

end DesignLint
