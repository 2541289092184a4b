import DesignLint.Diagnostic.Findings

namespace DesignLint.Trial

variable {α β : Type}

def Settles (t : Trial α) : Prop :=
  ∃ a, t = .ok a

theorem settles_ok (a : α) : Settles (.ok a) :=
  ⟨a, rfl⟩

theorem Settles.map {t : Trial α} (h : t.Settles) (f : α → β) : Settles (t.map f) := by
  obtain ⟨a, rfl⟩ := h
  exact settles_ok (f a)

theorem settles_any {test : α → Trial Bool} {items : List α}
    (h : ∀ a ∈ items, (test a).Settles) : (any test items).Settles := by
  induction items with
  | nil => exact settles_ok false
  | cons a rest ih =>
    obtain ⟨b, hb⟩ := h a (by simp)
    rw [any, hb]
    cases b with
    | true => exact settles_ok true
    | false => exact ih fun x hx => h x (by simp [hx])

theorem any_asText_eq_ok {test : String → Bool} {items : List Value} {b : Bool}
    (h : any (fun v => v.asText.map test) items = .ok b) :
    b = true ↔ ∃ s, Value.text s ∈ items ∧ test s = true := by
  induction items with
  | nil =>
    obtain rfl := Except.ok.inj h
    simp
  | cons v rest ih =>
    cases v with
    | text s =>
      rw [any, Value.asText, Except.map] at h
      cases hs : test s with
      | true =>
        rw [hs] at h
        obtain rfl := Except.ok.inj h
        exact iff_of_true rfl ⟨s, by simp, hs⟩
      | false =>
        rw [hs] at h
        rw [ih h]
        constructor
        · rintro ⟨w, hw, ht⟩
          exact ⟨w, List.mem_cons_of_mem _ hw, ht⟩
        · rintro ⟨w, hw, ht⟩
          rcases List.mem_cons.mp hw with he | hw
          · obtain rfl := Value.text.inj he
            rw [hs] at ht
            cases ht
          · exact ⟨w, hw, ht⟩
    | _ => cases h

theorem any_congr {test test' : α → Trial Bool} {items : List α}
    (h : ∀ a ∈ items, test a = test' a) : any test items = any test' items := by
  induction items with
  | nil => rfl
  | cons a rest ih => rw [any, any, h a (by simp), ih fun b hb => h b (by simp [hb])]

theorem find?_congr {test test' : α → Trial Bool} {items : List α}
    (h : ∀ a ∈ items, test a = test' a) : find? test items = find? test' items := by
  induction items with
  | nil => rfl
  | cons a rest ih => rw [find?, find?, h a (by simp), ih fun b hb => h b (by simp [hb])]

theorem settles_find? {test : α → Trial Bool} {items : List α}
    (h : ∀ a ∈ items, (test a).Settles) : (find? test items).Settles := by
  induction items with
  | nil => exact settles_ok none
  | cons a rest ih =>
    obtain ⟨b, hb⟩ := h a (by simp)
    rw [find?, hb]
    cases b with
    | true => exact settles_ok (some a)
    | false => exact ih fun x hx => h x (by simp [hx])

end DesignLint.Trial

namespace DesignLint.Findings

variable {α : Type}

@[simp] theorem stopped_append {a b : Findings} (h : a.stopped = .none) :
    (a ++ b).stopped = b.stopped := by
  simp [append_def, andThen, h]

@[simp] theorem stopped_append_eq_none_iff {a b : Findings} :
    (a ++ b).stopped = .none ↔ a.stopped = .none ∧ b.stopped = .none := by
  obtain ⟨ds, s⟩ := a
  cases s <;> simp [append_def, andThen]

@[simp] theorem diagnostics_append {a b : Findings} (h : a.stopped = .none) :
    (a ++ b).diagnostics = a.diagnostics ++ b.diagnostics := by
  simp [append_def, andThen, h]

@[simp] theorem stopped_when {condition : Bool} {f : Findings} (h : f.stopped = .none) :
    (when condition f).stopped = .none := by
  cases condition
  · rfl
  · exact h

@[simp] theorem diagnostics_when (condition : Bool) (f : Findings) :
    (when condition f).diagnostics = if condition then f.diagnostics else [] := by
  cases condition <;> rfl

@[simp] theorem stopped_given {t : Trial α} {search : α → Findings} (ht : t.Settles)
    (h : ∀ a, (search a).stopped = .none) : (given t search).stopped = .none := by
  obtain ⟨a, rfl⟩ := ht
  exact h a

theorem stopped_each {search : α → Findings} {items : List α}
    (h : ∀ a ∈ items, (search a).stopped = .none) : (each search items).stopped = .none := by
  induction items with
  | nil => rfl
  | cons a rest ih =>
    rw [each, stopped_append (h a (by simp))]
    exact ih fun b hb => h b (by simp [hb])

theorem diagnostics_each {search : α → Findings} {items : List α}
    (h : ∀ a ∈ items, (search a).stopped = .none) :
    (each search items).diagnostics = items.flatMap fun a => (search a).diagnostics := by
  induction items with
  | nil => rfl
  | cons a rest ih =>
    rw [each, diagnostics_append (h a (by simp)), ih fun b hb => h b (by simp [hb]),
      List.flatMap_cons]

theorem isSome_stopped_each (search : α → Findings) (items : List α) :
    (each search items).stopped.isSome ↔ ∃ a ∈ items, (search a).stopped.isSome := by
  induction items with
  | nil => simp [each, none]
  | cons a rest ih =>
    cases ha : (search a).stopped with
    | none => simp [each, ha, ih]
    | some m => simp [each, append_def, andThen, ha]

theorem stopped_each_eq_none_iff {search : α → Findings} {items : List α} :
    (each search items).stopped = .none ↔ ∀ a ∈ items, (search a).stopped = .none := by
  constructor
  · intro h a ha
    have heach : (each search items).stopped.isSome = false := by rw [h]; rfl
    cases hs : (search a).stopped with
    | none => rfl
    | some m =>
      rw [(isSome_stopped_each search items).mpr ⟨a, ha, by simp [hs]⟩] at heach
      cases heach
  · exact stopped_each

theorem exists_of_stopped_given {t : Trial α} {search : α → Findings}
    (h : (given t search).stopped = .none) : ∃ a, t = .ok a ∧ (search a).stopped = .none := by
  cases t with
  | ok a => exact ⟨a, rfl, h⟩
  | error m => cases h

section Members

variable {x : Diagnostic}

theorem mem_diagnostics_append {a b : Findings} (h : x ∈ (a ++ b).diagnostics) :
    x ∈ a.diagnostics ∨ x ∈ b.diagnostics := by
  obtain ⟨ds, s⟩ := a
  cases s with
  | some m => exact .inl h
  | none => exact List.mem_append.mp h

theorem mem_diagnostics_when {condition : Bool} {f : Findings}
    (h : x ∈ (when condition f).diagnostics) : condition = true ∧ x ∈ f.diagnostics := by
  cases condition with
  | true => exact ⟨rfl, h⟩
  | false => cases h

theorem mem_diagnostics_given {t : Trial α} {search : α → Findings}
    (h : x ∈ (given t search).diagnostics) : ∃ a, t = .ok a ∧ x ∈ (search a).diagnostics := by
  cases t with
  | ok a => exact ⟨a, rfl, h⟩
  | error m => cases h

theorem mem_diagnostics_each {search : α → Findings} {items : List α}
    (h : x ∈ (each search items).diagnostics) : ∃ a ∈ items, x ∈ (search a).diagnostics := by
  induction items with
  | nil => cases h
  | cons a rest ih =>
    rcases mem_diagnostics_append h with ha | hrest
    · exact ⟨a, List.mem_cons_self, ha⟩
    · obtain ⟨b, hb, hx⟩ := ih hrest
      exact ⟨b, List.mem_cons_of_mem _ hb, hx⟩

end Members

def Reports (f : Findings) (m : Message) : Prop :=
  ∃ x ∈ f.diagnostics, x.message.id = m.id

instance (f : Findings) (m : Message) : Decidable (f.Reports m) :=
  inferInstanceAs (Decidable (∃ x ∈ f.diagnostics, _))

section Reports

variable {m : Message}

@[simp] theorem not_reports_none : ¬ none.Reports m := by
  simp [Reports, none]

@[simp] theorem not_reports_stop (misfit : Misfit) (m : Message) : ¬ (stop misfit).Reports m := by
  simp [Reports, stop]

theorem reports_append_iff_left {a b : Findings} (hb : ¬ b.Reports m) :
    (a ++ b).Reports m ↔ a.Reports m := by
  constructor
  · rintro ⟨x, hx, hid⟩
    rcases mem_diagnostics_append hx with ha | hx
    · exact ⟨x, ha, hid⟩
    · exact absurd ⟨x, hx, hid⟩ hb
  · rintro ⟨x, hx, hid⟩
    obtain ⟨ds, s⟩ := a
    cases s with
    | some misfit => exact ⟨x, hx, hid⟩
    | none => exact ⟨x, List.mem_append_left _ hx, hid⟩

@[simp] theorem reports_when {condition : Bool} {f : Findings} :
    (when condition f).Reports m ↔ condition = true ∧ f.Reports m := by
  cases condition <;> simp [when]

@[simp] theorem reports_given {t : Trial α} {search : α → Findings} :
    (given t search).Reports m ↔ ∃ a, t = .ok a ∧ (search a).Reports m := by
  cases t with
  | ok a => simp [given]
  | error misfit => simp [given, Reports, stop]

theorem reports_given_unless {t : Trial Bool} {f : Findings} :
    (given t fun b => if b then none else f).Reports m ↔ t = .ok false ∧ f.Reports m := by
  rw [reports_given]
  constructor
  · rintro ⟨b, hb, hreports⟩
    cases b with
    | true => exact absurd hreports not_reports_none
    | false => exact ⟨hb, hreports⟩
  · rintro ⟨hb, hreports⟩
    exact ⟨false, hb, hreports⟩

end Reports

def about (m : Message) (f : Findings) : List Diagnostic :=
  f.diagnostics.filter fun d => d.message.id = m.id

section About

variable {m : Message}

theorem about_eq_nil_iff {f : Findings} : f.about m = [] ↔ ¬ f.Reports m := by
  simp [about, Reports, List.filter_eq_nil_iff]

theorem about_append {a b : Findings} (h : a.stopped = .none) :
    (a ++ b).about m = a.about m ++ b.about m := by
  rw [about, diagnostics_append h, List.filter_append]
  rfl

@[simp] theorem about_when (condition : Bool) (f : Findings) :
    (when condition f).about m = if condition then f.about m else [] := by
  cases condition <;> rfl

theorem about_each {search : α → Findings} {items : List α}
    (h : ∀ a ∈ items, (search a).stopped = .none) :
    (each search items).about m = items.flatMap fun a => (search a).about m := by
  rw [about, diagnostics_each h, List.filter_flatMap]
  rfl

theorem flatMap_ite {β : Type} (p : α → Bool) (f : α → β) (items : List α) :
    items.flatMap (fun a => if p a then [f a] else []) = (items.filter p).map f := by
  induction items with
  | nil => rfl
  | cons a rest ih => cases ha : p a <;> simp [ha, ih]

theorem about_each_eq_map {search : α → Findings} {items : List α} {p : α → Bool}
    {x : α → Diagnostic} (h : ∀ a ∈ items, (search a).stopped = .none)
    (hx : ∀ a ∈ items, (search a).about m = if p a then [x a] else []) :
    (each search items).about m = (items.filter p).map x := by
  rw [about_each h, ← flatMap_ite, List.flatMap_def, List.flatMap_def, List.map_congr_left hx]

end About

def All (p : Diagnostic → Prop) (f : Findings) : Prop :=
  ∀ d ∈ f.diagnostics, p d

section All

variable {p : Diagnostic → Prop}

@[simp] theorem all_none : All p none := by
  simp [All, none]

@[simp] theorem all_stop (m : Misfit) : All p (stop m) := by
  simp [All, stop]

@[simp] theorem all_append {a b : Findings} (ha : All p a) (hb : All p b) : All p (a ++ b) := by
  intro d hd
  obtain ⟨ds, s⟩ := a
  cases s with
  | some m => exact ha d hd
  | none =>
    rcases List.mem_append.mp hd with h | h
    · exact ha d h
    · exact hb d h

@[simp] theorem all_when {condition : Bool} {f : Findings} (h : All p f) :
    All p (when condition f) := by
  cases condition
  · exact all_none
  · exact h

@[simp] theorem all_given {t : Trial α} {search : α → Findings} (h : ∀ a, All p (search a)) :
    All p (given t search) := by
  cases t with
  | ok a => exact h a
  | error m => exact all_stop m

theorem all_each_of_mem {search : α → Findings} {items : List α}
    (h : ∀ a ∈ items, All p (search a)) : All p (each search items) := by
  intro x hx
  obtain ⟨a, ha, hsearch⟩ := mem_diagnostics_each hx
  exact h a ha x hsearch

@[simp] theorem all_each {search : α → Findings} {items : List α} (h : ∀ a, All p (search a)) :
    All p (each search items) :=
  all_each_of_mem fun a _ => h a

end All

end DesignLint.Findings

namespace DesignLint.Reporter

def Signs (r : Reporter) (d : Diagnostic) : Prop :=
  d.rule = r.rule ∧ d.severity = r.severity ∧ d.location.file = r.file

theorem eq_of_mem_report {r : Reporter} {m : Message} {s : Site} {data : Fields} {x : Diagnostic}
    (h : x ∈ (r.report m s data).diagnostics) :
    x = ⟨r.rule, m, .ofSite r.file s, r.severity, data⟩ :=
  List.mem_singleton.mp h

theorem message_of_mem_when {r : Reporter} {condition : Bool} {m : Message} {s : Site}
    {data : Fields} {x : Diagnostic}
    (h : x ∈ (Findings.when condition (r.report m s data)).diagnostics) : x.message = m := by
  rw [eq_of_mem_report (Findings.mem_diagnostics_when h).2]

@[simp] theorem reports_report {r : Reporter} {m n : Message} {s : Site} {data : Fields} :
    (r.report m s data).Reports n ↔ m.id = n.id := by
  simp [Findings.Reports, report, Findings.one]

def diagnostic (r : Reporter) (m : Message) (s : Site) (data : Fields) : Diagnostic :=
  ⟨r.rule, m, .ofSite r.file s, r.severity, data⟩

theorem about_report (r : Reporter) (m n : Message) (s : Site) (data : Fields) :
    (r.report n s data).about m = if m.id = n.id then [r.diagnostic n s data] else [] := by
  by_cases h : m.id = n.id <;>
    simp [Findings.about, report, diagnostic, Findings.one, h, eq_comm]

@[simp] theorem stopped_report (r : Reporter) (m : Message) (s : Site) (data : Fields) :
    (r.report m s data).stopped = none := by
  rw [report, Findings.one]

@[simp] theorem diagnostics_report_ne_nil (r : Reporter) (m : Message) (s : Site)
    (data : Fields) : (r.report m s data).diagnostics ≠ [] := by
  simp [report, Findings.one]

end DesignLint.Reporter
