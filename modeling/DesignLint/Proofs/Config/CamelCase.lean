import DesignLint.Proofs.Config.OptionKeys
import Mathlib.Data.List.Basic

namespace DesignLint

namespace Text

theorem lowerAfter_of_ascii {s : List Char} (h : ∀ c ∈ s, c.toNat < 128) (before : List Char) :
    lowerAfter before s = s.map Char.toLower := by
  induction s generalizing before with
  | nil => rfl
  | cons c rest ih =>
    have hc : c.toNat < 128 := h c List.mem_cons_self
    have hsigma : c ≠ 'Σ' := by
      rintro rfl
      exact absurd hc (by decide)
    have hdotted : c ≠ 'İ' := by
      rintro rfl
      exact absurd hc (by decide)
    rw [lowerAfter, ih (fun d hd => h d (List.mem_cons_of_mem c hd)), if_neg hsigma,
      if_neg hdotted, lowerChar, if_pos hc]
    rfl

end Text

namespace CamelCase

def spellsWord : List Char → Bool
  | [] => false
  | c :: cs => c.isLower && cs.all fun d => d.isLower || d.isDigit

def isWord (w : String) : Bool :=
  spellsWord w.toList

def capitalized (w : String) : String :=
  match w.toList with
  | [] => ""
  | c :: cs => String.ofList (c.toUpper :: cs)

def join : List String → String
  | [] => ""
  | w :: rest => w ++ String.join (rest.map capitalized)

def words (key : String) : List String :=
  (Text.split '_' key.toList).map String.ofList

def ofKey (key : String) : String :=
  join (words key)

def isKeyChar (c : Char) : Bool :=
  c.isLower || c.isDigit || c == '_'

section Characters

variable {c : Char}

theorem toNat_lt_of_isKeyChar (h : isKeyChar c = true) : c.toNat < 128 := by
  have hle {d : Char} (hd : c.val ≤ d.val) (hascii : d.toNat < 128) : c.toNat < 128 :=
    Nat.lt_of_le_of_lt (UInt32.le_iff_toNat_le.mp hd) hascii
  rcases (by simpa [isKeyChar, or_assoc] using h : c.isLower ∨ c.isDigit ∨ c = '_')
    with hlower | hdigit | rfl
  · have hz : c.val ≤ 'z'.val := of_decide_eq_true (Bool.and_eq_true_iff.mp hlower).2
    exact hle hz (by decide)
  · have hnine : c.val ≤ '9'.val := of_decide_eq_true (Bool.and_eq_true_iff.mp hdigit).2
    exact hle hnine (by decide)
  · decide

theorem forall_ascii (p : Char → Prop) (hall : ∀ n < 128, p (Char.ofNat n))
    (h : c.toNat < 128) : p c := by
  have hc := hall c.toNat h
  rwa [Char.ofNat_toNat] at hc

theorem plain_of_isKeyChar (h : isKeyChar c = true) :
    c.toNat < 128 ∧ c.isUpper = false ∧ c.toLower = c := by
  have hascii := toNat_lt_of_isKeyChar h
  have hplain := forall_ascii
    (fun d => isKeyChar d = true → d.isUpper = false ∧ d.toLower = d) (by decide) hascii
  exact ⟨hascii, hplain h⟩

theorem capital_of_isLower (h : c.isLower = true) :
    c.toUpper.toNat < 128 ∧ c.toUpper.isUpper = true ∧ c.toUpper.toLower = c := by
  have hkey : isKeyChar c = true := by simp [isKeyChar, h]
  have hcapital := forall_ascii
    (fun d => d.isLower = true →
      d.toUpper.toNat < 128 ∧ d.toUpper.isUpper = true ∧ d.toUpper.toLower = d)
    (by decide) (toNat_lt_of_isKeyChar hkey)
  exact hcapital h

end Characters

def parted (c : Char) : List Char :=
  if c.isUpper then ['_', c.toLower] else [c.toLower]

theorem snakeCase_ofList {c : Char} {cs : List Char} (h : ∀ d ∈ c :: cs, d.toNat < 128) :
    snakeCase (String.ofList (c :: cs)) = String.ofList (c.toLower :: cs.flatMap parted) := by
  have hparts : ∀ d ∈ cs.flatMap fun c => if c.isUpper then ['_', c] else [c], d.toNat < 128 := by
    intro d hd
    obtain ⟨e, he, hde⟩ := List.mem_flatMap.mp hd
    have hascii := h e (List.mem_cons_of_mem c he)
    split at hde
    · rcases List.mem_cons.mp hde with rfl | hde
      · decide
      · rwa [List.mem_singleton.mp hde]
    · rwa [List.mem_singleton.mp hde]
  have hall : ∀ d ∈ c :: cs.flatMap fun c => if c.isUpper then ['_', c] else [c],
      d.toNat < 128 := List.forall_mem_cons.mpr ⟨h c List.mem_cons_self, hparts⟩
  rw [snakeCase, String.toList_ofList]
  dsimp only
  rw [Text.lower, Text.lowerAfter_of_ascii hall, List.map_cons, List.map_flatMap]
  congr 3
  funext d
  rw [parted]
  split <;> rfl

theorem flatMap_parted {s : List Char} (h : ∀ c ∈ s, isKeyChar c = true) :
    s.flatMap parted = s := by
  induction s with
  | nil => rfl
  | cons c cs ih =>
    obtain ⟨-, hupper, hlower⟩ := plain_of_isKeyChar (h c List.mem_cons_self)
    rw [List.flatMap_cons, ih fun d hd => h d (List.mem_cons_of_mem c hd), parted, hupper, hlower]
    rfl

theorem snakeCase_eq_self {key : String} (h : ∀ c ∈ key.toList, isKeyChar c = true) :
    snakeCase key = key := by
  cases hkey : key.toList with
  | nil =>
    obtain rfl : key = "" := String.toList_inj.mp hkey
    rfl
  | cons c cs =>
    rw [hkey] at h
    have hlist : key = String.ofList (c :: cs) := by rw [← hkey, String.ofList_toList]
    rw [hlist, snakeCase_ofList fun d hd => (plain_of_isKeyChar (h d hd)).1,
      flatMap_parted fun d hd => h d (List.mem_cons_of_mem c hd),
      (plain_of_isKeyChar (h c List.mem_cons_self)).2.2]

section Words

variable {w : String} {ws : List String}

theorem exists_of_isWord (h : isWord w = true) :
    ∃ c cs, w.toList = c :: cs ∧ c.isLower = true ∧ ∀ d ∈ c :: cs, isKeyChar d = true := by
  rw [isWord] at h
  cases hw : w.toList with
  | nil =>
    rw [hw] at h
    cases h
  | cons c cs =>
    rw [hw] at h
    obtain ⟨hc, hcs⟩ := Bool.and_eq_true_iff.mp h
    refine ⟨c, cs, rfl, hc, List.forall_mem_cons.mpr ⟨by simp [isKeyChar, hc], fun d hd => ?_⟩⟩
    have hd := List.all_eq_true.mp hcs d hd
    rw [isKeyChar, hd, Bool.true_or]

theorem flatMap_parted_capitalized (h : isWord w = true) :
    (capitalized w).toList.flatMap parted = '_' :: w.toList := by
  obtain ⟨c, cs, hw, hc, hcs⟩ := exists_of_isWord h
  obtain ⟨-, hupper, hlower⟩ := capital_of_isLower hc
  rw [capitalized, hw, String.toList_ofList, List.flatMap_cons, parted, hupper, hlower,
    flatMap_parted fun d hd => hcs d (List.mem_cons_of_mem c hd)]
  rfl

theorem ascii_capitalized (h : isWord w = true) :
    ∀ d ∈ (capitalized w).toList, d.toNat < 128 := by
  obtain ⟨c, cs, hw, hc, hcs⟩ := exists_of_isWord h
  rw [capitalized, hw, String.toList_ofList]
  refine List.forall_mem_cons.mpr ⟨(capital_of_isLower hc).1, fun d hd => ?_⟩
  exact (plain_of_isKeyChar (hcs d (List.mem_cons_of_mem c hd))).1

theorem toList_intercalate_cons (w : String) (ws : List String) :
    ("_".intercalate (w :: ws)).toList = w.toList ++ ws.flatMap fun v => '_' :: v.toList := by
  rw [String.toList_intercalate]
  induction ws generalizing w with
  | nil => simp
  | cons v ws ih =>
    rw [List.map_cons, List.map_cons, List.intercalate_cons_cons, ← List.map_cons, ih,
      List.flatMap_cons, List.append_assoc]
    rfl

theorem isKeyChar_of_mem_intercalate (h : ∀ w ∈ ws, isWord w = true) :
    ∀ c ∈ ("_".intercalate ws).toList, isKeyChar c = true := by
  cases ws with
  | nil => intro c hc; cases hc
  | cons w rest =>
    have hword {v : String} (hv : v ∈ w :: rest) {c : Char} (hc : c ∈ v.toList) :
        isKeyChar c = true := by
      obtain ⟨d, ds, hlist, -, hds⟩ := exists_of_isWord (h v hv)
      exact hds c (hlist ▸ hc)
    intro c hc
    rw [toList_intercalate_cons, List.mem_append, List.mem_flatMap] at hc
    rcases hc with hc | ⟨v, hv, hc⟩
    · exact hword List.mem_cons_self hc
    · rcases List.mem_cons.mp hc with rfl | hc
      · rfl
      · exact hword (List.mem_cons_of_mem w hv) hc

theorem snakeCase_join (h : ∀ w ∈ ws, isWord w = true) :
    snakeCase (join ws) = "_".intercalate ws := by
  cases ws with
  | nil => rfl
  | cons w rest =>
    obtain ⟨c, cs, hw, -, hcs⟩ := exists_of_isWord (h w List.mem_cons_self)
    have hrest : ∀ v ∈ rest, isWord v = true := fun v hv => h v (List.mem_cons_of_mem w hv)
    have hjoin : join (w :: rest) =
        String.ofList (c :: (cs ++ rest.flatMap fun v => (capitalized v).toList)) := by
      apply String.toList_inj.mp
      rw [join, String.toList_append, hw, String.toList_join, String.toList_ofList,
        List.flatMap_map]
      rfl
    have hascii : ∀ d ∈ c :: (cs ++ rest.flatMap fun v => (capitalized v).toList),
        d.toNat < 128 := by
      intro d hd
      rw [← List.cons_append, List.mem_append, List.mem_flatMap] at hd
      rcases hd with hd | ⟨v, hv, hd⟩
      · exact (plain_of_isKeyChar (hcs d hd)).1
      · exact ascii_capitalized (hrest v hv) d hd
    have hparted : (rest.flatMap fun v => (capitalized v).toList).flatMap parted =
        rest.flatMap fun v => '_' :: v.toList := by
      rw [List.flatMap_assoc]
      exact List.flatMap_congr fun v hv => flatMap_parted_capitalized (hrest v hv)
    apply String.toList_inj.mp
    rw [hjoin, snakeCase_ofList hascii, String.toList_ofList, List.flatMap_append, hparted,
      flatMap_parted fun d hd => hcs d (List.mem_cons_of_mem c hd),
      (plain_of_isKeyChar (hcs c List.mem_cons_self)).2.2, toList_intercalate_cons, hw]
    rfl

end Words

theorem intercalate_words (key : String) : "_".intercalate (words key) = key := by
  have hsplit (s : List Char) : ['_'].intercalate (Text.split '_' s) = s := by
    induction s with
    | nil => rfl
    | cons c cs ih =>
      rw [Text.split]
      split
      · next hc =>
        obtain ⟨part, parts, hparts⟩ := List.exists_cons_of_ne_nil (Text.split_ne_nil '_' cs)
        rw [hparts] at ih ⊢
        rw [List.intercalate_cons_cons, ih, hc]
        rfl
      · split
        · next hnil => exact absurd hnil (Text.split_ne_nil '_' cs)
        · next part parts hparts =>
          rw [hparts] at ih
          rw [← ih]
          cases parts <;> simp [List.intercalate_cons_cons]
  apply String.toList_inj.mp
  rw [String.toList_intercalate, words, List.map_map]
  have hid : (Text.split '_' key.toList).map (String.toList ∘ String.ofList) =
      Text.split '_' key.toList := by simp [Function.comp_def]
  rw [hid]
  exact hsplit key.toList

end CamelCase

open CamelCase (isWord isKeyChar words ofKey)

def ConfigError.respelled (spell : String → String) : ConfigError → ConfigError
  | .unknownOption key owner => .unknownOption (spell key) owner
  | .mistypedOption key owner expected got => .mistypedOption (spell key) owner expected got
  | e => e

def inCamelCase (given : Fields) : Fields :=
  given.map fun e => (ofKey e.1, e.2)

namespace Schema

structure IsSpelled (s : Schema) (field : String) : Prop where
  words : ∀ w ∈ words field, isWord w = true
  mechanical : field ∉ s.spellings.keys ∧ ofKey field ∉ s.spellings.keys

variable {s : Schema} {field : String}

theorem fieldOf_of_not_mem {key : String} (h : key ∉ s.spellings.keys) :
    s.fieldOf key = snakeCase key := by
  have hnone : Assoc.get? key s.spellings = none := by
    rw [← Option.not_isSome_iff_eq_none, Assoc.isSome_get?_iff]
    exact h
  rw [fieldOf, hnone]
  rfl

theorem IsSpelled.fieldOf_self (h : s.IsSpelled field) : s.fieldOf field = field := by
  have hletters := CamelCase.isKeyChar_of_mem_intercalate h.words
  rw [CamelCase.intercalate_words] at hletters
  rw [fieldOf_of_not_mem h.mechanical.1]
  exact CamelCase.snakeCase_eq_self hletters

theorem IsSpelled.fieldOf_ofKey (h : s.IsSpelled field) : s.fieldOf (ofKey field) = field := by
  rw [fieldOf_of_not_mem h.mechanical.2]
  exact (CamelCase.snakeCase_join h.words).trans (CamelCase.intercalate_words field)

theorem set_ofKey (h : s.IsSpelled field) (options : Fields) (value : Value) :
    s.set options (ofKey field) value =
      (s.set options field value).mapError (ConfigError.respelled ofKey) := by
  rw [set, set, h.fieldOf_ofKey, h.fieldOf_self]
  cases Assoc.get? field s.defaults with
  | none => rfl
  | some default =>
    dsimp only
    split <;> rfl

theorem setAll_inCamelCase {given : Fields} (h : ∀ e ∈ given, s.IsSpelled e.1)
    (options : Fields) :
    s.setAll options (inCamelCase given) =
      (s.setAll options given).mapError (ConfigError.respelled ofKey) := by
  induction given generalizing options with
  | nil => rfl
  | cons e rest ih =>
    have hset := set_ofKey (h e List.mem_cons_self) options e.2
    rw [inCamelCase, List.map_cons, ← inCamelCase, setAll, setAll, hset]
    cases s.set options e.1 e.2 with
    | ok options => exact ih (fun x hx => h x (List.mem_cons_of_mem e hx)) options
    | error err => rfl

theorem admits_ofKey_iff (h : s.IsSpelled field) (value : Value) :
    s.Admits (ofKey field, value) ↔ s.Admits (field, value) := by
  rw [Admits, Admits, h.fieldOf_ofKey, h.fieldOf_self]

end Schema

namespace Rule

theorem spellsWord_of_mem (r : Rule) : ∀ field ∈ r.schema.defaults.keys,
    ∀ w ∈ Text.split '_' field.toList, CamelCase.spellsWord w = true := by
  cases r <;> decide +kernel

-- A field with a spelling of its own would be found under the mechanical spelling of that key.
theorem snakeCase_not_mem_of_mem_spellings (r : Rule) :
    ∀ key ∈ r.schema.spellings.keys, snakeCase key ∉ r.schema.defaults.keys := by
  cases r <;> decide

theorem isSpelled_of_mem (r : Rule) {field : String} (h : field ∈ r.schema.defaults.keys) :
    r.schema.IsSpelled field := by
  have hwords : ∀ w ∈ words field, isWord w = true := by
    intro w hw
    obtain ⟨part, hpart, rfl⟩ := List.mem_map.mp hw
    rw [isWord, String.toList_ofList]
    exact r.spellsWord_of_mem field h part hpart
  have hletters := CamelCase.isKeyChar_of_mem_intercalate hwords
  rw [CamelCase.intercalate_words] at hletters
  have hcamel : snakeCase (ofKey field) = field :=
    (CamelCase.snakeCase_join hwords).trans (CamelCase.intercalate_words field)
  refine ⟨hwords, fun hkey => ?_, fun hkey => ?_⟩
  · have hnot := r.snakeCase_not_mem_of_mem_spellings field hkey
    rw [CamelCase.snakeCase_eq_self hletters] at hnot
    exact hnot h
  · have hnot := r.snakeCase_not_mem_of_mem_spellings (ofKey field) hkey
    rw [hcamel] at hnot
    exact hnot h

theorem loadOptions_inCamelCase (r : Rule) {given : Fields}
    (h : ∀ e ∈ given, e.1 ∈ r.schema.defaults.keys) :
    r.loadOptions (.table (inCamelCase given)) =
      (r.loadOptions (.table given)).mapError (ConfigError.respelled ofKey) := by
  have hload : r.schema.load (.table (inCamelCase given)) =
      (r.schema.load (.table given)).mapError (ConfigError.respelled ofKey) :=
    Schema.setAll_inCamelCase (fun e he => r.isSpelled_of_mem (h e he)) r.schema.defaults
  cases r with
  | repository =>
    rw [loadOptions, loadOptions, hload]
    cases schema repository |>.load (.table given) with
    | error err => rfl
    | ok o =>
      change Repository.checkOptions o = (Repository.checkOptions o).mapError _
      rw [Repository.checkOptions]
      split <;> rfl
  | _ => exact hload

inductive LoadsAlike (r : Rule) (given : Fields) : Prop
  | loaded {o : Fields} (h : r.loadOptions (.table given) = .ok o)
      (hcamel : r.loadOptions (.table (inCamelCase given)) = .ok o) : LoadsAlike r given
  | failed {before after : Fields} {e : String × Value} {err : ConfigError}
      (hsplit : given = before ++ e :: after)
      (hbefore : ∀ x ∈ before, r.schema.Admits x ∧ r.schema.Admits (ofKey x.1, x.2))
      (h : r.loadOptions (.table given) = .error err) (hblames : r.schema.Blames e err)
      (hcamel : r.loadOptions (.table (inCamelCase given)) = .error (err.respelled ofKey))
      (hcamelBlames : r.schema.Blames (ofKey e.1, e.2) (err.respelled ofKey)) : LoadsAlike r given
  | refused {pattern : String}
      (h : r.loadOptions (.table given) = .error (.badRepositoryPattern pattern))
      (hcamel : r.loadOptions (.table (inCamelCase given)) =
        .error (.badRepositoryPattern pattern)) : LoadsAlike r given

theorem loadsAlike (r : Rule) {given : Fields} (h : ∀ e ∈ given, e.1 ∈ r.schema.defaults.keys) :
    r.LoadsAlike given := by
  classical
  have hcamel := loadOptions_inCamelCase r h
  by_cases hall : ∀ e ∈ given, r.schema.Admits e
  · rcases loadOptions_of_admits hall with ⟨-, hload⟩ | ⟨pattern, -, -, hload⟩
    · exact .loaded hload (by rw [hcamel, hload]; rfl)
    · exact .refused hload (by rw [hcamel, hload]; rfl)
  · obtain ⟨e, he⟩ : ∃ e, given.find? (fun e => ¬ r.schema.Admits e) = some e := by
      rw [← Option.isSome_iff_exists, List.find?_isSome]
      simpa using hall
    obtain ⟨hfails, before, after, rfl, hfirst⟩ := List.find?_eq_some_iff_append.mp he
    have hrefused : ¬ r.schema.Admits e := by simpa using hfails
    have hadmits : ∀ x ∈ before, r.schema.Admits x := fun x hx => by simpa using hfirst x hx
    have hspelled : ∀ x ∈ before ++ e :: after, r.schema.IsSpelled x.1 :=
      fun x hx => r.isSpelled_of_mem (h x hx)
    obtain ⟨err, hload, hblames⟩ := loadOptions_of_first hadmits hrefused after
    have hcamelAdmits : ∀ x ∈ before, r.schema.Admits (ofKey x.1, x.2) := fun x hx =>
      (Schema.admits_ofKey_iff (hspelled x (by simp [hx])) x.2).mpr (hadmits x hx)
    have hcamelRefused : ¬ r.schema.Admits (ofKey e.1, e.2) := fun hadmit =>
      hrefused ((Schema.admits_ofKey_iff (hspelled e (by simp)) e.2).mp hadmit)
    have hcamelLoad : r.loadOptions (.table (inCamelCase (before ++ e :: after))) =
        .error (err.respelled ofKey) := by
      rw [hcamel, hload]
      rfl
    have hcamelSplit : inCamelCase (before ++ e :: after) =
        inCamelCase before ++ (ofKey e.1, e.2) :: inCamelCase after := by
      simp [inCamelCase]
    have hcamelBefore : ∀ x ∈ inCamelCase before, r.schema.Admits x := by
      intro x hx
      obtain ⟨y, hy, rfl⟩ := List.mem_map.mp hx
      exact hcamelAdmits y hy
    obtain ⟨err', herr', hcamelBlames⟩ :=
      loadOptions_of_first hcamelBefore hcamelRefused (inCamelCase after)
    rw [← hcamelSplit, hcamelLoad] at herr'
    obtain rfl := Except.error.inj herr'
    exact .failed rfl (fun x hx => ⟨hadmits x hx, hcamelAdmits x hx⟩) hload hblames hcamelLoad
      hcamelBlames

theorem options_in_either_spelling :
    (∀ ws : List String, (∀ w ∈ ws, isWord w = true) →
      snakeCase (CamelCase.join ws) = "_".intercalate ws) ∧
    (∀ key : String, (∀ c ∈ key.toList, isKeyChar c = true) → snakeCase key = key) ∧
    ∀ (r : Rule) (given : Fields), (∀ e ∈ given, e.1 ∈ r.schema.defaults.keys) →
      (∀ e ∈ given, ∃ ws : List String, (∀ w ∈ ws, isWord w = true) ∧
        e.1 = "_".intercalate ws ∧ ofKey e.1 = CamelCase.join ws) ∧
      r.LoadsAlike given := by
  refine ⟨fun ws => CamelCase.snakeCase_join, fun key => CamelCase.snakeCase_eq_self, ?_⟩
  intro r given h
  refine ⟨fun e he => ⟨words e.1, ?_, ?_, rfl⟩, loadsAlike r h⟩
  · exact (r.isSpelled_of_mem (h e he)).words
  · exact (CamelCase.intercalate_words e.1).symm

def mistypedSecond : Fields :=
  [("max_methods", .int 7), ("max_unused_methods", .bool true), ("exclude_patterns", .null)]

theorem mistypedSecond_in_either_spelling :
    (∀ w ∈ ["max", "unused", "methods"], isWord w = true) ∧
    snakeCase "maxUnusedMethods" = "max_unused_methods" ∧
    (∀ c ∈ ['m', '_', '2'], isKeyChar c = true) ∧ snakeCase "m_2" = "m_2" ∧
    (∀ e ∈ mistypedSecond, e.1 ∈ segregation.schema.defaults.keys) ∧
    segregation.loadOptions (.table (inCamelCase mistypedSecond)) =
      .error (.mistypedOption "maxUnusedMethods" "ISPOptions" "int" "bool") := by
  have hwords : ∀ w ∈ ["max", "unused", "methods"], isWord w = true := by decide
  have hletters : ∀ c ∈ ['m', '_', '2'], isKeyChar c = true := by simp [isKeyChar]
  have hkeys : ∀ e ∈ mistypedSecond, e.1 ∈ segregation.schema.defaults.keys := by
    simp [mistypedSecond, schema, Segregation.schema, Assoc.keys]
  obtain ⟨hjoined, hself, hload⟩ := options_in_either_spelling
  refine ⟨hwords, hjoined _ hwords, hletters, hself "m_2" hletters, hkeys, ?_⟩
  have herror : segregation.loadOptions (.table mistypedSecond) =
      .error (.mistypedOption "max_unused_methods" "ISPOptions" "int" "bool") := by
    with_unfolding_all rfl
  cases (hload segregation mistypedSecond hkeys).2 with
  | loaded h _ =>
    rw [herror] at h
    cases h
  | failed _ _ h _ hcamel _ =>
    rw [herror] at h
    obtain rfl := Except.error.inj h
    exact hcamel
  | refused h _ =>
    rw [herror] at h
    cases h

end Rule

end DesignLint
