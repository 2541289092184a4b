import DesignLint.Proofs.Diagnostic.Findings
import DesignLint.Rule.Catalog
import DesignLint.SyntaxTree.Fold

namespace DesignLint

namespace Findings

variable {α : Type}

def marks (f : Findings) : List (String × Location) :=
  f.diagnostics.map fun d => (d.message.id, d.location)

structure Thins (f g : Findings) : Prop where
  marks : f.marks.Sublist g.marks
  stopped : f.stopped = g.stopped

@[refl] theorem Thins.refl (f : Findings) : f.Thins f :=
  ⟨List.Sublist.refl _, rfl⟩

theorem Thins.append {f f' g g' : Findings} (h : f.Thins g) (h' : f'.Thins g') :
    (f ++ f').Thins (g ++ g') := by
  obtain ⟨ds, s⟩ := f
  obtain ⟨es, t⟩ := g
  obtain ⟨hmarks, hstopped⟩ := h
  obtain rfl : s = t := hstopped
  cases s with
  | some misfit => exact ⟨hmarks, rfl⟩
  | none =>
    refine ⟨?_, h'.stopped⟩
    have happend := hmarks.append h'.marks
    simpa [Findings.marks, append_def, andThen] using happend

theorem Thins.when_report {r : Reporter} {m : Message} {s : Site} {data data' : Fields}
    {condition condition' : Bool} (h : condition = true → condition' = true) :
    (when condition (r.report m s data)).Thins (when condition' (r.report m s data')) := by
  cases condition with
  | true =>
    rw [h rfl]
    exact ⟨List.Sublist.refl _, rfl⟩
  | false =>
    refine ⟨List.nil_sublist _, ?_⟩
    cases condition' <;> rfl

theorem Thins.given {t : Trial α} {search search' : α → Findings}
    (h : ∀ a, (search a).Thins (search' a)) : (given t search).Thins (given t search') := by
  cases t with
  | ok a => exact h a
  | error misfit => rfl

theorem Thins.each {search search' : α → Findings} {items : List α}
    (h : ∀ a, (search a).Thins (search' a)) : (each search items).Thins (each search' items) := by
  induction items with
  | nil => rfl
  | cons a rest ih => exact (h a).append ih

end Findings

theorem exceeds_of_wider {narrow wide : Int} (h : narrow ≤ wide) {measured : Int}
    (hwide : decide (wide < measured) = true) : decide (narrow < measured) = true :=
  decide_eq_true (Int.lt_of_le_of_lt h (of_decide_eq_true hwide))

open Findings

namespace Responsibility

structure Limits.Within (a b : Limits) : Prop where
  lines : a.lines ≤ b.lines
  statements : a.statements ≤ b.statements
  complexity : a.complexity ≤ b.complexity
  methods : a.methods ≤ b.methods

theorem thins_exceeds (r : Reporter) (m : Message) (s : Site) (name key : String) (measured : Nat)
    {narrow wide : Int} (h : narrow ≤ wide) :
    (exceeds r m s name key measured wide).Thins (exceeds r m s name key measured narrow) :=
  .when_report (exceeds_of_wider h)

variable {a b : Limits}

theorem thins_checkFunction (r : Reporter) (h : a.Within b) (depth : Int) (s : Site) :
    (checkFunction r b depth s).Thins (checkFunction r a depth s) := by
  refine .append (.append ?_ ?_) ?_
  · exact thins_exceeds r _ s _ _ _ h.lines
  · exact thins_exceeds r _ s _ _ _ h.statements
  · exact thins_exceeds r _ s _ _ _ h.complexity

theorem thins_checkClass (r : Reporter) (h : a.Within b) (s : Site) :
    (checkClass r b s).Thins (checkClass r a s) := by
  rw [checkClass, checkClass]
  cases s.code.link .body with
  | none => rfl
  | some body => exact thins_exceeds r _ s _ _ _ h.methods

theorem thins_check (r : Reporter) (h : a.Within b) (c : Context) :
    (check r b c).Thins (check r a c) := by
  refine .each fun s => ?_
  split
  · exact thins_checkClass r h s
  · exact thins_checkFunction r h c.limit s

end Responsibility

namespace OpenClosed

variable {o : Settings} {switchCases chain typeTests : Int}

abbrev Settings.widened (o : Settings) (switchCases chain typeTests : Int) : Settings :=
  { o with maxSwitchCases := switchCases, maxChain := chain, maxTypeTests := typeTests }

theorem thins_checkSwitch (r : Reporter) (h : o.maxSwitchCases ≤ switchCases) (s : Site) :
    (checkSwitch r (o.widened switchCases chain typeTests) s).Thins (checkSwitch r o s) := by
  have hexempt (text : String) :
      isExempt (o.widened switchCases chain typeTests) s text = isExempt o s text := rfl
  simp only [checkSwitch, hexempt]
  split
  · exact .refl _
  · exact .append (.append (.when_report (exceeds_of_wider h)) (.refl _)) (.refl _)

theorem thins_checkBranch (r : Reporter) (h : o.maxChain ≤ chain) (s : Site) :
    (checkBranch r (o.widened switchCases chain typeTests) s).Thins (checkBranch r o s) := by
  refine .append (.when_report fun hlong => ?_) (.refl _)
  rw [Bool.and_eq_true] at hlong ⊢
  exact ⟨hlong.1, exceeds_of_wider h hlong.2⟩

theorem thins_checkFunction (r : Reporter) (h : o.maxTypeTests ≤ typeTests) (s : Site)
    (p : Profile) :
    (checkFunction r (o.widened switchCases chain typeTests) s p).Thins
      (checkFunction r o s p) := by
  refine .given fun mentioned => ?_
  split
  · exact .refl _
  · exact .append (.when_report (exceeds_of_wider h)) (.refl _)

theorem thins_checkSite (r : Reporter) (hcases : o.maxSwitchCases ≤ switchCases)
    (hchain : o.maxChain ≤ chain) (s : Site) :
    (checkSite r (o.widened switchCases chain typeTests) s).Thins (checkSite r o s) := by
  rw [checkSite, checkSite]
  split
  · exact thins_checkSwitch r hcases s
  · exact thins_checkBranch r hchain s
  all_goals exact .refl _

theorem thins_check (r : Reporter) (hcases : o.maxSwitchCases ≤ switchCases)
    (hchain : o.maxChain ≤ chain) (htests : o.maxTypeTests ≤ typeTests) (c : Context) :
    (check r (o.widened switchCases chain typeTests) c).Thins (check r o c) := by
  refine .given fun excluded => ?_
  split
  · exact .refl _
  · refine .append (.each fun s => thins_checkSite r hcases hchain s) (.each fun s => ?_)
    -- what a place adds to a profile depends on no limit
    have hnote : note (o.widened switchCases chain typeTests) = note o := rfl
    rw [hnote]
    split
    · exact thins_checkFunction r htests s _
    · exact .refl _

end OpenClosed

namespace Segregation

variable {o : Settings} {width unused deviation : Int}

abbrev Settings.widened (o : Settings) (width unused deviation : Int) : Settings :=
  { o with maxMethods := width, maxUnused := unused, maxDeviation := deviation }

theorem relevant_widened (c : Context) (d : Declaration) (ms : List Method) :
    relevant (o.widened width unused deviation) c d ms = relevant o c d ms := by
  have hexcluded : isExcluded (o.widened width unused deviation) = isExcluded o := rfl
  have hinherited : isInheritedIn (o.widened width unused deviation) = isInheritedIn o := rfl
  induction ms with
  | nil => rfl
  | cons m rest ih => rw [relevant, relevant, hexcluded, hinherited, ih]

theorem deviates_of_wider {narrow wide : Int} (h : narrow ≤ wide) {ms : List Method}
    (hwide : deviates wide ms = true) : deviates narrow ms = true := by
  obtain ⟨m, hm, hfar⟩ := List.any_eq_true.mp hwide
  have hscaled : narrow * Int.ofNat ms.length ≤ wide * Int.ofNat ms.length :=
    Int.mul_le_mul_of_nonneg_right h (Int.natCast_nonneg ms.length)
  exact List.any_eq_true.mpr ⟨m, hm, exceeds_of_wider hscaled hfar⟩

theorem isMixture_of_wider (h : o.maxDeviation ≤ deviation) {ms : List Method}
    (hwide : isMixture (o.widened width unused deviation) ms = true) :
    isMixture o ms = true := by
  rw [isMixture, Bool.or_eq_true, Bool.and_eq_true] at hwide ⊢
  exact hwide.imp_right fun hfar => ⟨hfar.1, deviates_of_wider h hfar.2⟩

theorem thins_checkMethods (r : Reporter) (hwidth : o.maxMethods ≤ width)
    (hunused : o.maxUnused ≤ unused) (hdeviation : o.maxDeviation ≤ deviation) (d : Declaration)
    (ms : List Method) :
    (checkMethods r (o.widened width unused deviation) d ms).Thins (checkMethods r o d ms) := by
  refine .append (.append (.append ?_ ?_) ?_) (.refl _)
  · exact .when_report (exceeds_of_wider hwidth)
  · exact .when_report (exceeds_of_wider hunused)
  · exact .when_report (isMixture_of_wider hdeviation)

theorem thins_check (r : Reporter) (hwidth : o.maxMethods ≤ width)
    (hunused : o.maxUnused ≤ unused) (hdeviation : o.maxDeviation ≤ deviation) (c : Context) :
    (check r (o.widened width unused deviation) c).Thins (check r o c) := by
  refine .each fun d => ?_
  rw [relevant_widened]
  exact .given fun ms => thins_checkMethods r hwidth hunused hdeviation d ms

end Segregation

namespace Repository

variable {o : Settings} {width : Int}

theorem thins_checkWidth (r : Reporter) (h : o.maxMethods ≤ width) (d : Declaration)
    (count : Nat) :
    (checkWidth r { o with maxMethods := width } d count).Thins (checkWidth r o d count) :=
  .when_report (exceeds_of_wider h)

theorem thins_checkDeclaration (r : Reporter) (h : o.maxMethods ≤ width) (d : Declaration) :
    (checkDeclaration r { o with maxMethods := width } d).Thins (checkDeclaration r o d) := by
  rw [checkDeclaration, checkDeclaration]
  split
  · exact .refl _
  · split
    · exact .append (.append (.refl _) (thins_checkWidth r h d _)) (.refl _)
    · exact .append (.append (.refl _) (thins_checkWidth r h d _)) (.refl _)

theorem thins_check (r : Reporter) (h : o.maxMethods ≤ width) (c : Context) :
    (check r { o with maxMethods := width } c).Thins (check r o c) := by
  refine .given fun inDomain => .each fun s => ?_
  split
  · exact .refl _
  · split
    · exact thins_checkDeclaration r h _
    · exact .refl _

end Repository

inductive Checker.Widens : Checker → Checker → Prop
  | responsibility {a b : Responsibility.Limits} (h : a.Within b) :
      Widens (.responsibility b) (.responsibility a)
  | openClosed {o : OpenClosed.Settings} {switchCases chain typeTests : Int}
      (hcases : o.maxSwitchCases ≤ switchCases) (hchain : o.maxChain ≤ chain)
      (htests : o.maxTypeTests ≤ typeTests) :
      Widens (.openClosed (o.widened switchCases chain typeTests)) (.openClosed o)
  | segregation {o : Segregation.Settings} {width unused deviation : Int}
      (hwidth : o.maxMethods ≤ width) (hunused : o.maxUnused ≤ unused)
      (hdeviation : o.maxDeviation ≤ deviation) :
      Widens (.segregation (o.widened width unused deviation)) (.segregation o)
  | repository {o : Repository.Settings} {width : Int} (hwidth : o.maxMethods ≤ width) :
      Widens (.repository { o with maxMethods := width }) (.repository o)

theorem Detector.marks_sublist_of_widens {wide narrow : Checker} (h : wide.Widens narrow)
    (severity : Severity) (probe : String → Bool) (path : String) (limit : Int)
    (root : SyntaxTree) :
    let found (k : Checker) := Detector.check ⟨k, severity⟩ probe (.collect path limit root)
    (found wide).marks.Sublist (found narrow).marks ∧
      (found wide).stopped = (found narrow).stopped := by
  intro found
  have hthins : (found wide).Thins (found narrow) := by
    cases h with
    | responsibility h => exact Responsibility.thins_check _ h _
    | openClosed hcases hchain htests => exact OpenClosed.thins_check _ hcases hchain htests _
    | segregation hwidth hunused hdeviation =>
      exact Segregation.thins_check _ hwidth hunused hdeviation _
    | repository hwidth => exact Repository.thins_check _ hwidth _
  exact ⟨hthins.marks, hthins.stopped⟩

def repositorySource : Source :=
  Text.Utf8.encode "class UserRepository \x7b a() \x7b\x7d b() \x7b\x7d \x7d"

def repositoryTree : ParseTree :=
  let named (type : String) (field : Option String) (start stop : Nat) (cs : List ParseTree) :
      ParseTree := .node ⟨type, start, stop, true, field⟩ cs
  named "program" none 0 38 [
    named "class_declaration" none 0 38 [
      named "identifier" (some "name") 6 20 [],
      named "class_body" (some "body") 21 38 [
        named "method_definition" none 23 29 [named "property_identifier" (some "name") 23 24 []],
        named "method_definition" none 30 36 [named "property_identifier" (some "name") 30 31 []]]]]

def unreadableWords : Repository.Settings :=
  { Repository.Settings.ofOptions Repository.schema.defaults with
    maxMethods := 1
    storageWords := [.int 7] }

-- The class is reported before its first method makes the rule stop.
theorem Detector.marks_sublist_of_unreadableWords :
    let wide := Checker.repository { unreadableWords with maxMethods := 2 }
    let narrow := Checker.repository unreadableWords
    let found (k : Checker) := Detector.check ⟨k, .warning⟩ (fun _ => false)
      (.collect "src/a.js" 500 (.ofParse repositorySource repositoryTree))
    wide.Widens narrow ∧ (found wide).marks.Sublist (found narrow).marks ∧
      (found wide).stopped = (found narrow).stopped ∧
      (found wide).marks.map Prod.fst = ["wrongDirectory", "missingImplements"] ∧
      (found narrow).marks.map Prod.fst =
        ["wrongDirectory", "missingImplements", "tooManyMethods"] ∧
      (found narrow).stopped = some (.notText "int") := by
  intro wide narrow found
  have hwidens : wide.Widens narrow := .repository (by decide)
  obtain ⟨hmarks, hstopped⟩ := Detector.marks_sublist_of_widens hwidens .warning (fun _ => false)
    "src/a.js" 500 (.ofParse repositorySource repositoryTree)
  refine ⟨hwidens, hmarks, hstopped, ?_, ?_, ?_⟩
  all_goals decide +kernel

end DesignLint
