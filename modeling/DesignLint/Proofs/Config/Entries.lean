import DesignLint.Proofs.Config.Faults
import Mathlib.Data.List.Nodup

namespace DesignLint.Settings

def readAlone (x : String × Value) : Except ConfigError (Rule × Setting) :=
  match Rule.named? x.1 with
  | none => .error (.unknownRule x.1)
  | some r => (readEntry r x.2).map fun setting => (r, setting)

theorem lay_cons (s : Settings) (x : String × Value) (rest : Fields) :
    s.lay (x :: rest) = readAlone x >>= fun given => (s.set given.1 given.2).lay rest := by
  obtain ⟨id, entry⟩ := x
  rw [lay, readAlone]
  cases Rule.named? id with
  | none => rfl
  | some r =>
    dsimp only
    cases readEntry r entry <;> rfl

theorem read_singleton (x : String × Value) :
    read (.table [x]) = (readAlone x).map fun given => default.set given.1 given.2 := by
  rw [read, lay_cons]
  cases readAlone x <;> rfl

theorem read_singleton_eq_error_iff {x : String × Value} {e : ConfigError} :
    read (.table [x]) = .error e ↔ readAlone x = .error e := by
  rw [read_singleton]
  cases readAlone x <;> simp [Except.map]

theorem exists_read_singleton_iff {x : String × Value} :
    (∃ s, read (.table [x]) = .ok s) ↔ ∃ given, readAlone x = .ok given := by
  rw [read_singleton]
  cases readAlone x <;> simp [Except.map]

theorem lay_cons_eq_ok {s t : Settings} {x : String × Value} {rest : Fields}
    (h : s.lay (x :: rest) = .ok t) :
    ∃ given, readAlone x = .ok given ∧ (s.set given.1 given.2).lay rest = .ok t := by
  rw [lay_cons] at h
  cases hx : readAlone x with
  | error e =>
    rw [hx] at h
    cases h
  | ok given =>
    rw [hx] at h
    exact ⟨given, rfl, h⟩

theorem lay_append {before : Fields} (h : ∀ x ∈ before, ∃ given, readAlone x = .ok given)
    (s : Settings) : ∃ t : Settings, ∀ rest, s.lay (before ++ rest) = t.lay rest := by
  induction before generalizing s with
  | nil => exact ⟨s, fun _ => rfl⟩
  | cons x before ih =>
    obtain ⟨given, hx⟩ := h x (by simp)
    obtain ⟨t, ht⟩ := ih (fun y hy => h y (by simp [hy])) (s.set given.1 given.2)
    refine ⟨t, fun rest => ?_⟩
    rw [List.cons_append, lay_cons, hx]
    exact ht rest

theorem lay_eq_error {before after : Fields} {x : String × Value} {e : ConfigError}
    (h : ∀ y ∈ before, ∃ given, readAlone y = .ok given) (hx : readAlone x = .error e)
    (s : Settings) : s.lay (before ++ x :: after) = .error e := by
  obtain ⟨t, ht⟩ := lay_append h s
  rw [ht, lay_cons, hx]
  rfl

theorem exists_lay_eq_ok_iff (s : Settings) (entries : Fields) :
    (∃ t, s.lay entries = .ok t) ↔ ∀ x ∈ entries, ∃ given, readAlone x = .ok given := by
  constructor
  · induction entries generalizing s with
    | nil => simp
    | cons x rest ih =>
      rintro ⟨t, ht⟩
      obtain ⟨given, hx, hrest⟩ := lay_cons_eq_ok ht
      exact List.forall_mem_cons.mpr ⟨⟨given, hx⟩, ih (s.set given.1 given.2) ⟨t, hrest⟩⟩
  · intro h
    obtain ⟨t, ht⟩ := lay_append h s
    exact ⟨t, by simpa [lay] using ht []⟩

theorem id_of_readAlone {x : String × Value} {given : Rule × Setting}
    (h : readAlone x = .ok given) : given.1.id = x.1 := by
  rw [readAlone] at h
  split at h
  · cases h
  · next r hr =>
    have hid : r.id = x.1 := by simpa using List.find?_some hr
    cases hentry : readEntry r x.2 with
    | error e =>
      rw [hentry] at h
      cases h
    | ok setting =>
      rw [hentry] at h
      obtain rfl := Except.ok.inj h
      exact hid

theorem rule_of_readAlone {r : Rule} {x : String × Value} {given : Rule × Setting}
    (h : readAlone x = .ok given) (hr : x.1 = r.id) : given.1 = r := by
  have hnamed := Rule.named?_id given.1
  rw [id_of_readAlone h, hr, Rule.named?_id] at hnamed
  exact (Option.some.inj hnamed).symm

theorem lay_of_not_mem {s t : Settings} {entries : Fields} (h : s.lay entries = .ok t) {r : Rule}
    (hr : r.id ∉ entries.keys) : t r = s r := by
  induction entries generalizing s with
  | nil => rw [Except.ok.inj h]
  | cons x rest ih =>
    obtain ⟨given, hx, hlay⟩ := lay_cons_eq_ok h
    have hne : r ≠ given.1 := by
      rintro rfl
      exact hr (by simp [Assoc.keys, id_of_readAlone hx])
    have hrest : r.id ∉ Assoc.keys rest := fun hm => hr (List.mem_cons_of_mem _ hm)
    rw [ih hlay hrest, set, if_neg hne]

theorem lay_of_mem {s t : Settings} {entries : Fields} (distinct : entries.keys.Nodup)
    (h : s.lay entries = .ok t) {x : String × Value} (hx : x ∈ entries) {given : Rule × Setting}
    (hgiven : readAlone x = .ok given) : t given.1 = given.2 := by
  induction entries generalizing s with
  | nil => cases hx
  | cons y rest ih =>
    obtain ⟨hy, hrest⟩ := List.nodup_cons.mp distinct
    obtain ⟨other, hother, hlay⟩ := lay_cons_eq_ok h
    rcases List.mem_cons.mp hx with rfl | hmem
    · obtain rfl := Except.ok.inj (hgiven.symm.trans hother)
      have hnot : given.1.id ∉ Assoc.keys rest := by rwa [id_of_readAlone hgiven]
      rw [lay_of_not_mem hlay hnot, set, if_pos rfl]
    · exact ih hrest hlay hmem

theorem eq_of_lay_perm {s t t' : Settings} {entries entries' : Fields}
    (distinct : entries.keys.Nodup) (perm : entries'.Perm entries)
    (h : s.lay entries = .ok t) (h' : s.lay entries' = .ok t') : t' = t := by
  have hkeys : (Assoc.keys entries').Perm (Assoc.keys entries) := perm.map Prod.fst
  funext r
  by_cases hr : r.id ∈ entries.keys
  · obtain ⟨x, hx, hid⟩ := List.mem_map.mp hr
    obtain ⟨given, hgiven⟩ := (exists_lay_eq_ok_iff s entries).mp ⟨t, h⟩ x hx
    obtain rfl : given.1 = r := rule_of_readAlone hgiven hid
    rw [lay_of_mem distinct h hx hgiven,
      lay_of_mem (hkeys.nodup_iff.mpr distinct) h' (perm.mem_iff.mpr hx) hgiven]
  · rw [lay_of_not_mem h hr, lay_of_not_mem h' fun hm => hr (hkeys.mem_iff.mp hm)]

theorem lay_perm {s t : Settings} {entries entries' : Fields} (distinct : entries.keys.Nodup)
    (perm : entries'.Perm entries) (h : s.lay entries = .ok t) : s.lay entries' = .ok t := by
  have hall := (exists_lay_eq_ok_iff s entries).mp ⟨t, h⟩
  obtain ⟨t', h'⟩ := (exists_lay_eq_ok_iff s entries').mpr fun x hx => hall x (perm.mem_iff.mp hx)
  rw [h', eq_of_lay_perm distinct perm h h']

theorem exists_read_eq_error_iff (entries : Fields) :
    (∃ e, read (.table entries) = .error e) ↔
      ∃ x ∈ entries, ∃ e, read (.table [x]) = .error e := by
  have herror {x : Except ConfigError Settings} : (∃ e, x = .error e) ↔ ¬ ∃ s, x = .ok s := by
    cases x <;> simp
  have hentries : (∃ s, read (.table entries) = .ok s) ↔
      ∀ x ∈ entries, ∃ s, read (.table [x]) = .ok s := by
    simp only [exists_read_singleton_iff]
    exact exists_lay_eq_ok_iff default entries
  simp only [herror, hentries, not_forall, exists_prop]

structure EachAlone (entries : Fields) (s : Settings) : Prop where
  unmentioned : ∀ r : Rule, r.id ∉ entries.keys → s r = default r
  mentioned : ∀ (r : Rule) (entry : Value), (r.id, entry) ∈ entries →
    ∃ alone, read (.table [(r.id, entry)]) = .ok alone ∧ s r = alone r
  reordered : ∀ entries' : Fields, entries'.Perm entries → read (.table entries') = .ok s

theorem eachAlone_of_read {entries : Fields} (distinct : entries.keys.Nodup) {s : Settings}
    (h : read (.table entries) = .ok s) : EachAlone entries s where
  unmentioned := fun r hr => lay_of_not_mem h hr
  mentioned := by
    intro r entry hmem
    obtain ⟨given, hgiven⟩ := (exists_lay_eq_ok_iff default entries).mp ⟨s, h⟩ _ hmem
    obtain rfl : given.1 = r := rule_of_readAlone hgiven rfl
    refine ⟨default.set given.1 given.2, by rw [read_singleton, hgiven]; rfl, ?_⟩
    rw [lay_of_mem distinct h hmem hgiven, set, if_pos rfl]
  reordered := fun entries' perm => lay_perm distinct perm h

theorem read_by_entries (entries : Fields) (distinct : entries.keys.Nodup) :
    ((∃ e, read (.table entries) = .error e) ↔
      ∃ x ∈ entries, ∃ e, read (.table [x]) = .error e) ∧
    (∀ before x after e, entries = before ++ x :: after →
      (∀ y ∈ before, ∃ s, read (.table [y]) = .ok s) → read (.table [x]) = .error e →
      read (.table entries) = .error e) ∧
    ∀ s, read (.table entries) = .ok s → EachAlone entries s := by
  refine ⟨exists_read_eq_error_iff entries, ?_, fun s => eachAlone_of_read distinct⟩
  rintro before x after e rfl hbefore hx
  refine lay_eq_error (fun y hy => ?_) (read_singleton_eq_error_iff.mp hx) default
  exact exists_read_singleton_iff.mp (hbefore y hy)

def mixedEntries : Fields :=
  [("naming-conventions", .text "Error"), ("srp-violation", .text "off"),
   ("isp-violation", .table [("options", .table [("maxMethods", .int 5)])])]

def faultyEntries : Fields :=
  [("srp-violation", .text "off"), ("isp-violation", .int 3), ("unheard-of", .bool true)]

theorem read_mixedEntries :
    (mixedEntries.keys.Nodup ∧ ∃ s, read (.table mixedEntries) = .ok s ∧
      EachAlone mixedEntries s ∧ (s .naming).enabled = true ∧ (s .naming).severity = .error ∧
      (s .responsibility).enabled = false ∧
      Options.number (s .segregation).options "max_methods" = 5) ∧
    faultyEntries.keys.Nodup ∧
      read (.table faultyEntries) = .error (.badEntry "isp-violation") := by
  have hnaming : readAlone ("naming-conventions", .text "Error") =
      .ok (.naming, ⟨true, .error, Naming.schema.defaults⟩) := by with_unfolding_all rfl
  have hresponsibility : readAlone ("srp-violation", .text "off") =
      .ok (.responsibility, ⟨false, .warning, Responsibility.schema.defaults⟩) := by
    with_unfolding_all rfl
  have hsegregation : readAlone ("isp-violation",
      .table [("options", .table [("maxMethods", .int 5)])]) =
      .ok (.segregation, ⟨true, .warning, Assoc.put "max_methods" (.int 5)
        Segregation.schema.defaults⟩) := by with_unfolding_all rfl
  have hfaulty : readAlone ("isp-violation", .int 3) = .error (.badEntry "isp-violation") := rfl
  refine ⟨⟨by decide, ?_⟩, by decide, ?_⟩
  · obtain ⟨s, hs⟩ := (exists_lay_eq_ok_iff default mixedEntries).mpr (by
      simp only [mixedEntries, List.forall_mem_cons]
      exact ⟨⟨_, hnaming⟩, ⟨_, hresponsibility⟩, ⟨_, hsegregation⟩, by simp⟩)
    have each := (read_by_entries mixedEntries (by decide)).2.2 s hs
    have entry {x given} (hx : x ∈ mixedEntries) (h : readAlone x = .ok given) :
        s given.1 = given.2 := lay_of_mem (by decide) hs hx h
    refine ⟨s, hs, each, ?_, ?_, ?_, ?_⟩
    · rw [entry (by simp [mixedEntries]) hnaming]
    · rw [entry (by simp [mixedEntries]) hnaming]
    · rw [entry (by simp [mixedEntries]) hresponsibility]
    · rw [entry (by simp [mixedEntries]) hsegregation]
      rfl
  · refine (read_by_entries faultyEntries (by decide)).2.1 [_] _ _ _ rfl ?_
      (read_singleton_eq_error_iff.mpr hfaulty)
    exact List.forall_mem_singleton.mpr (exists_read_singleton_iff.mpr ⟨_, hresponsibility⟩)

end DesignLint.Settings
