import DesignLint.Text.Search

namespace DesignLint

structure OptionForm (α : Type) where
  key : α
  name : String
  letter : Option Char := none
  takesValue : Bool := false

structure WordList (α : Type) where
  used : List (α × String) := []
  others : List String := []

inductive OptionWord (α : Type) where
  | complete (used : List (α × String))
  | pending (used : List (α × String)) (key : α)
  | wrong

namespace OptionForm

variable {α : Type}

def withName? (forms : List (OptionForm α)) (name : List Char) : Option (OptionForm α) :=
  forms.find? fun f => f.name.toList = name

def withLetter? (forms : List (OptionForm α)) (c : Char) : Option (OptionForm α) :=
  forms.find? fun f => f.letter = some c

-- The first letter that takes a value has the rest of the word for it, or else the next word.
def readLetters (forms : List (OptionForm α)) (used : List (α × String)) :
    List Char → OptionWord α
  | [] => .complete used
  | c :: cs =>
    match withLetter? forms c with
    | none => .wrong
    | some f =>
      if !f.takesValue then readLetters forms (used ++ [(f.key, "")]) cs
      else if cs.isEmpty then .pending used f.key
      else .complete (used ++ [(f.key, String.ofList cs)])

def readWord (forms : List (OptionForm α)) (word : List Char) : OptionWord α :=
  let name := Text.upTo '=' word
  let value := word.drop (name.length + 1)
  let hasValue := decide (name.length < word.length)
  match withName? forms name with
  | some f =>
    if f.takesValue then
      (if hasValue then .complete [(f.key, String.ofList value)] else .pending [] f.key)
    else if hasValue then .wrong
    else .complete [(f.key, "")]
  | none =>
    match word with
    | '-' :: '-' :: _ => .wrong
    | _ => readLetters forms [] (word.drop 1)

def isOption (word : String) : Bool :=
  Text.startsWith word "-" && word != "-"

-- Words that are no options are passed over if `mixed`, and end the options otherwise.
def read (forms : List (OptionForm α)) (mixed : Bool) : List String → Option (WordList α)
  | [] => some {}
  | word :: rest =>
    if word = "--" then some { others := rest }
    else if isOption word then
      match readWord forms word.toList, rest with
      | .wrong, _ => none
      | .complete used, rest =>
        (read forms mixed rest).map fun l => { l with used := used ++ l.used }
      | .pending _ _, [] => none
      | .pending used key, value :: rest =>
        (read forms mixed rest).map fun l => { l with used := used ++ (key, value) :: l.used }
    else if mixed then (read forms mixed rest).map fun l => { l with others := word :: l.others }
    else some { others := word :: rest }

end OptionForm

namespace WordList

variable {α : Type} [DecidableEq α]

def uses (l : WordList α) (key : α) : Bool :=
  l.used.any fun u => u.1 = key

def valuesOf (l : WordList α) (key : α) : List String :=
  (l.used.filter fun u => u.1 = key).map Prod.snd

def valueOf? (l : WordList α) (key : α) : Option String :=
  (l.valuesOf key).getLast?

end WordList

end DesignLint
