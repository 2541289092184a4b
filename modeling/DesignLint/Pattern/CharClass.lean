import DesignLint.Text.Blank
import DesignLint.Text.Digit
import DesignLint.Text.Letter
import DesignLint.Text.Surrogate
import DesignLint.Text.Word

namespace DesignLint

inductive CharItem where
  | range (low high : Nat)
  | digit (wanted : Bool)
  | word (wanted : Bool)
  | blank (wanted : Bool)
deriving DecidableEq, Repr

namespace CharItem

def single (c : Char) : CharItem := range (Text.codeOf c) (Text.codeOf c)

def holds (c : Char) : CharItem → Bool
  | range low high => decide (low ≤ Text.codeOf c) && decide (Text.codeOf c ≤ high)
  | digit wanted => Text.isDigit c == wanted
  | word wanted => Text.isWord c == wanted
  | blank wanted => Text.isBlank c == wanted

theorem holds_single {c d : Char} : (single d).holds c = true ↔ Text.codeOf c = Text.codeOf d := by
  simp only [single, holds, Bool.and_eq_true, decide_eq_true_eq]
  omega

end CharItem

inductive CaseRule where
  | exact
  | asciiLetters
  | allLetters
deriving DecidableEq, Repr

namespace CaseRule

def variants (c : Char) : CaseRule → List Char
  | exact => [c]
  | asciiLetters => [c.toLower, c.toUpper]
  | allLetters => Text.sameLetter c

def fold (c : Char) : CaseRule → Char
  | exact => c
  | asciiLetters => c.toLower
  | allLetters => Text.small c

end CaseRule

structure CharClass where
  negated : Bool
  items : List CharItem
  rule : CaseRule := .exact
deriving DecidableEq, Repr

namespace CharClass

def meets (rule : CaseRule) (c : Char) : CharItem → Bool
  | .range low high => (rule.variants c).any fun x => (CharItem.range low high).holds x
  | item => item.holds (rule.fold c)

def holds (k : CharClass) (c : Char) : Bool :=
  k.items.any (meets k.rule c) != k.negated

theorem meets_exact (c : Char) (item : CharItem) : meets .exact c item = item.holds c := by
  cases item <;> simp [meets, CaseRule.variants, CaseRule.fold]

end CharClass

end DesignLint
