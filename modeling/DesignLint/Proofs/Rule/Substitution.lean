import DesignLint.Proofs.Declaration.Ancestors
import DesignLint.Proofs.Diagnostic.Findings
import DesignLint.Proofs.Gathering.Consistency
import DesignLint.Proofs.SyntaxTree.Outline
import DesignLint.Rule.Substitution

namespace DesignLint.Substitution

structure Substitutes (m b : Method) : Prop where
  guards : m.guards ≤ b.guards
  parameters : b.parameters ≤ m.parameters
  returnsNull : m.returnsNull = true → b.returnsNull = true
  thrown : ∀ t ∈ m.thrown, t ≠ none ∧ t ∈ b.thrown

theorem Substitutes.trans {m b a : Method} (h : Substitutes m b) (h' : Substitutes b a) :
    Substitutes m a where
  guards := Nat.le_trans h.guards h'.guards
  parameters := Nat.le_trans h'.parameters h.parameters
  returnsNull := fun hm => h'.returnsNull (h.returnsNull hm)
  thrown := fun t ht => ⟨(h.thrown t ht).1, (h'.thrown t (h.thrown t ht).2).2⟩

theorem thrown_of_not_throwsNew {override base : List (Option String)}
    (h : throwsNew override base = false) : ∀ t ∈ override, t ≠ none ∧ t ∈ base := by
  intro t ht
  simp only [throwsNew, Bool.or_eq_false_iff, List.any_eq_false] at h
  have hd : isDeclared base t = true := by simpa using h.2 t ht
  simp only [isDeclared, Bool.and_eq_true, List.contains_iff_mem] at hd
  exact ⟨Option.isSome_iff_ne_none.mp hd.1, hd.2⟩

theorem stopped_checkOverride (r : Reporter) (m : Method) (b : Base) :
    (checkOverride r m b).stopped = none := by
  simp [checkOverride, Findings.append_assoc]

theorem checkOverride_clean {r : Reporter} {m : Method} {b : Base}
    (h : (checkOverride r m b).diagnostics = []) :
    demandsMore m b = false ∧ promisesLess m b = false ∧ breaksContract m b = false := by
  simpa [checkOverride, Findings.append_assoc] using h

theorem substitutes_of_clean {r : Reporter} {m b : Method} {name : String}
    (h : (checkOverride r m ⟨name, some b⟩).diagnostics = []) : Substitutes m b := by
  obtain ⟨hd, hp, hc⟩ := checkOverride_clean h
  simp only [demandsMore, Option.map_some, Option.getD_some, Bool.or_eq_false_iff,
    decide_eq_false_iff_not, Nat.not_lt] at hd
  simp only [promisesLess, Option.any_some, Bool.and_eq_false_iff, Bool.not_eq_false'] at hp
  simp only [breaksContract, Option.any_some] at hc
  refine ⟨hd.1, hd.2, ?_, thrown_of_not_throwsNew hc⟩
  intro hm
  rcases hp with hp | hp
  · rw [hm] at hp
    cases hp
  · exact hp

theorem stopped_checkClass (r : Reporter) (o : Settings) (c : Context) (d : Declaration) :
    (checkClass r o c d).stopped = none := by
  have h : (Findings.each (fun e => checkOverride r e.1 e.2) (overrides o c d)).stopped = none :=
    Findings.stopped_each fun e _ => stopped_checkOverride r e.1 e.2
  simp [checkClass, h]

theorem checkOverride_of_clean {r : Reporter} {o : Settings} {c : Context}
    (h : (check r o c).diagnostics = []) {d : Declaration} (hd : d ∈ c.declarations)
    (ho : d.origin = .classDecl) (hs : d.properSuperclass.isSome = true) {m : Method} {b : Base}
    (hm : (m, b) ∈ overrides o c d) : (checkOverride r m b).diagnostics = [] := by
  rw [check, Findings.diagnostics_each fun d _ => stopped_checkClass r o c d,
    List.flatMap_eq_nil_iff] at h
  have hclass := h d (List.mem_filter.mpr ⟨hd, by simp [ho, hs]⟩)
  have hstop : (Findings.each (fun e => checkOverride r e.1 e.2) (overrides o c d)).stopped =
      none := Findings.stopped_each fun e _ => stopped_checkOverride r e.1 e.2
  rw [checkClass, Findings.diagnostics_append hstop, List.append_eq_nil_iff,
    Findings.diagnostics_each fun e _ => stopped_checkOverride r e.1 e.2,
    List.flatMap_eq_nil_iff] at hclass
  exact hclass.1 (m, b) hm

theorem substitutes_of_inherited {r : Reporter} {o : Settings} {c : Context}
    (h : (check r o c).diagnostics = []) {d : Declaration} (hd : d ∈ c.declarations)
    (ho : d.origin = .classDecl) (hs : d.properSuperclass.isSome = true) {m : Method}
    (hm : m ∈ d.methods) (hf : m.form = .method) (hn : m.name ≠ "constructor")
    {e : Declaration} {b : Method}
    (hi : c.inheritance.findInherited c.registry d.name m.name = some (e, b)) :
    Substitutes m b := by
  have hmem : (m, (⟨e.name, some b⟩ : Base)) ∈ overrides o c d := by
    refine List.mem_filterMap.mpr ⟨m, hm, ?_⟩
    simp [hf, hn, baseOf?, hi]
  exact substitutes_of_clean (checkOverride_of_clean h hd ho hs hmem)

theorem detail_of_interface (source : Source) (u : ParseTree)
    (h : (SyntaxTree.nodeOf source u).kind = .interfaceDecl) :
    (SyntaxTree.nodeOf source u).detail = .plain := by
  have hk : u.kind source = .interfaceDecl := h
  simp [SyntaxTree.nodeOf, ParseTree.detail, hk]

abbrev fileContext (path : String) (limit : Int) (source : Source) (t : ParseTree) : Context :=
  Context.collect path limit (SyntaxTree.ofParse source t)

structure Overrides (c : Context) (d : Declaration) (m : Method) (between : List String)
    (top : Declaration) (b : Method) : Prop where
  registered : d ∈ c.registry.declarations
  method : m ∈ d.methods
  form : m.form = .method
  name : m.name ≠ "constructor"
  way : ∃ beyond, c.inheritance.ancestors d.name = between ++ top.name :: beyond
  known : ∀ n ∈ between, (c.registry.get? n).isSome
  knownTop : c.registry.get? top.name = some top
  base : top.method? m.name = some b
  forms : ∀ e, e = d ∨ (∃ n ∈ between ++ [top.name], c.registry.get? n = some e) →
    ∀ x ∈ e.methods, x.name = m.name → x.form = .method

section File

variable {source : Source} {t : ParseTree} {path : String} {limit : Int} {r : Reporter}
  {o : Settings}

theorem origin_of_superclass {d : Declaration}
    (hd : d ∈ (fileContext path limit source t).registry.declarations)
    (ho : d.origin ≠ .object) (hs : d.properSuperclass.isSome = true) : d.origin = .classDecl := by
  obtain ⟨s, hv, hclass⟩ := Context.exists_ofClass_of_mem_registry hd ho
  have hu := hclass.trans (Declaration.uncounted_ofClass limit _ s).symm
  obtain ⟨-, -, hsuper, horigin⟩ := Declaration.facts_of_uncounted_eq hu
  by_cases hk : Site.kind s = .interfaceDecl
  · obtain ⟨u, hlabel⟩ := Outline.exists_nodeOf_of_mem (Tree.label_mem_of_visited hv)
    have hplain : s.label.detail = .plain := by
      rw [hlabel]
      exact detail_of_interface source u (hlabel ▸ hk)
    have hnone : (Declaration.ofClass limit (Context.slashed path) s).superclass = none := by
      change SyntaxTree.superclass (Site.code s) = none
      rw [SyntaxTree.superclass, show (Site.code s).label.detail = .plain from hplain]
    simp [Declaration.properSuperclass, hsuper, hnone] at hs
  · rw [horigin]
    simp [Declaration.ofClass, hk]

theorem substitutes_nearest (clean : (check r o (fileContext path limit source t)).diagnostics = [])
    {d top : Declaration} {m b : Method} {between : List String}
    (h : Overrides (fileContext path limit source t) d m between top b) {e : Declaration}
    {x : Method} (hi : (fileContext path limit source t).inheritance.findInherited
      (fileContext path limit source t).registry d.name m.name = some (e, x)) :
    Substitutes m x := by
  have ho : d.origin ≠ .object := by
    intro hobj
    have hf := Context.form_of_mem_object h.registered hobj h.method
    rw [h.form] at hf
    cases hf
  have hs : d.properSuperclass.isSome = true := by
    obtain ⟨beyond, hway⟩ := h.way
    obtain ⟨p, hp⟩ := Inheritance.exists_parent_of_ancestors hway
    rw [← Context.parentOf_of_mem_registry h.registered ho, hp]
    rfl
  exact substitutes_of_inherited clean (Context.mem_declarations_of_mem_registry h.registered ho)
    (origin_of_superclass h.registered ho hs) hs h.method h.form h.name hi

theorem Overrides.behind {d top e : Declaration} {m b x : Method}
    {nearer between : List String} {n : String}
    (h : Overrides (fileContext path limit source t) d m (nearer ++ n :: between) top b)
    (he : (fileContext path limit source t).registry.get? n = some e)
    (hx : e.method? m.name = some x) :
    Overrides (fileContext path limit source t) e x between top b := by
  have hname : x.name = m.name := by simpa using List.find?_some hx
  have hmem : x ∈ e.methods := List.mem_of_find?_eq_some hx
  obtain ⟨hregistered, hn⟩ := Context.mem_registry_of_get? he
  exact {
    registered := hregistered
    method := hmem
    form := h.forms e (.inr ⟨n, by simp, he⟩) x hmem hname
    name := hname ▸ h.name
    way := by
      obtain ⟨beyond, hway⟩ := h.way
      rw [List.append_assoc, List.cons_append] at hway
      obtain ⟨more, hmore⟩ := Inheritance.prefix_ancestors_of_ancestor hway
      exact ⟨beyond ++ more, by rw [hn, ← hmore]; simp⟩
    known := fun l hl => h.known l (by simp [hl])
    knownTop := h.knownTop
    base := hname ▸ h.base
    forms := by
      rintro f (rfl | ⟨l, hl, hf⟩) y hy hyn
      · exact h.forms f (.inr ⟨n, by simp, he⟩) y hy (hyn.trans hname)
      · exact h.forms f (.inr ⟨l, by simp_all, hf⟩) y hy (hyn.trans hname) }

theorem substitutes_of_no_diagnostics
    (clean : (check r o (fileContext path limit source t)).diagnostics = [])
    {d top : Declaration} {m b : Method} {between : List String}
    (h : Overrides (fileContext path limit source t) d m between top b) : Substitutes m b := by
  -- by the number of ancestors in between: the method is compared with the nearest one that has
  -- the name, and the first method of the name there takes its place further up
  induction hk : between.length using Nat.strongRecOn generalizing d m between with
  | ind k ih =>
    obtain ⟨beyond, hway⟩ := h.way
    obtain ⟨nearer, n, rest, e, x, hsplit, he, hx, hfirst⟩ :=
      Inheritance.firstDeclaring_append beyond h.known h.knownTop h.base
    rw [← hway] at hfirst
    have hmx : Substitutes m x := substitutes_nearest clean h hfirst
    rcases List.eq_nil_or_concat rest with rfl | ⟨rest', z, rfl⟩
    · obtain ⟨-, hlast⟩ := List.append_inj' hsplit rfl
      obtain rfl : top.name = n := by simpa using hlast
      obtain rfl : top = e := Option.some.inj (h.knownTop.symm.trans he)
      obtain rfl : b = x := Option.some.inj (h.base.symm.trans hx)
      exact hmx
    · have hsplit' : between ++ [top.name] = (nearer ++ n :: rest') ++ [z] := by
        simpa using hsplit
      obtain ⟨rfl, -⟩ := List.append_inj' hsplit' rfl
      have hshorter : rest'.length < k := by
        simp at hk
        omega
      exact hmx.trans (ih rest'.length hshorter (h.behind he hx) rfl)

end File

def threeClasses : ParseTree :=
  let named (type : String) (field : Option String) (start stop : Nat) (cs : List ParseTree) :
      ParseTree := .node ⟨type, start, stop, true, field⟩ cs
  let run : ParseTree := named "method_definition" none 0 0 [
    named "property_identifier" (some "name") 3 6 [],
    named "formal_parameters" (some "parameters") 0 0 [named "identifier" none 6 7 []],
    named "statement_block" (some "body") 0 0 [
      named "throw_statement" none 0 0 [named "identifier" none 6 7 []]]]
  let declare (name : Nat) (heritage : List ParseTree) : ParseTree :=
    named "class_declaration" none 0 0 ([named "identifier" (some "name") name (name + 1) []] ++
      heritage ++ [named "class_body" (some "body") 0 0 [run]])
  let extend (parent : Nat) : ParseTree := named "class_heritage" none 0 0 [
    named "extends_clause" none 0 0 [named "identifier" (some "value") parent (parent + 1) []]]
  named "program" none 0 0 [declare 0 [], declare 1 [extend 0], declare 2 [extend 1]]

abbrev threeClassesContext : Context :=
  fileContext "a.js" 500 (Text.Utf8.encode "ABCrunE") threeClasses

theorem substitutes_in_threeClasses :
    (check ⟨"lsp", .warning, "a.js"⟩ ⟨[]⟩ threeClassesContext).diagnostics = [] ∧
    ∃ d top m b, Overrides threeClassesContext d m ["B"] top b ∧ d.name = "C" ∧ top.name = "A" ∧
      Substitutes m b := by
  have clean : (check ⟨"lsp", .warning, "a.js"⟩ ⟨[]⟩ threeClassesContext).diagnostics = [] :=
    List.isEmpty_iff.mp (by decide +kernel)
  have forms : threeClassesContext.registry.declarations.all
      (fun d => d.methods.all fun m => m.form = .method) = true := by decide +kernel
  have hway : threeClassesContext.inheritance.ancestors "C" = ["B", "A"] := by decide +kernel
  have hknown : (threeClassesContext.registry.get? "B").isSome = true := by decide +kernel
  have hm : ((threeClassesContext.registry.get? "C").bind (·.method? "run")).isSome = true := by
    decide +kernel
  have hb : ((threeClassesContext.registry.get? "A").bind (·.method? "run")).isSome = true := by
    decide +kernel
  obtain ⟨m, hm⟩ := Option.isSome_iff_exists.mp hm
  obtain ⟨d, hd, hm⟩ := Option.bind_eq_some_iff.mp hm
  obtain ⟨b, hb⟩ := Option.isSome_iff_exists.mp hb
  obtain ⟨top, htop, hb⟩ := Option.bind_eq_some_iff.mp hb
  obtain ⟨hdmem, hdname⟩ := Context.mem_registry_of_get? hd
  obtain ⟨-, htopname⟩ := Context.mem_registry_of_get? htop
  have hname : m.name = "run" := by simpa using List.find?_some hm
  have hform {e : Declaration} (he : e ∈ threeClassesContext.registry.declarations) :
      ∀ x ∈ e.methods, x.form = .method := by
    simpa using List.all_eq_true.mp (List.all_eq_true.mp forms e he)
  have h : Overrides threeClassesContext d m ["B"] top b := {
    registered := hdmem
    method := List.mem_of_find?_eq_some hm
    form := hform hdmem m (List.mem_of_find?_eq_some hm)
    name := by rw [hname]; decide
    way := ⟨[], by rw [hdname, htopname, hway]; rfl⟩
    known := by simpa using hknown
    knownTop := htopname ▸ htop
    base := hname ▸ hb
    forms := by
      rintro e (rfl | ⟨n, -, he⟩) x hx -
      · exact hform hdmem x hx
      · exact hform (Context.mem_registry_of_get? he).1 x hx }
  exact ⟨clean, d, top, m, b, h, hdname, htopname, substitutes_of_no_diagnostics clean h⟩

end DesignLint.Substitution
