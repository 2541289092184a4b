import DesignLint.Console.Emoji.AtoE
import DesignLint.Console.Emoji.FtoL
import DesignLint.Console.Emoji.MtoQ
import DesignLint.Console.Emoji.RtoZ
import DesignLint.Text.Blank
import DesignLint.Text.Lowercase
import DesignLint.Text.Search

namespace DesignLint.Console.Emoji

def pairs : List (List Char) → List (String × String)
  | name :: symbol :: rest => (String.ofList name, String.ofList symbol) :: pairs rest
  | _ => []

def symbols : List (String × String) :=
  (codesAtoE ++ codesFtoL ++ codesMtoQ ++ codesRtoZ).flatMap fun line =>
    pairs (Text.split ' ' line.toList)

def forms : List (List Char × Char) :=
  [("-emoji".toList, Char.ofNat 0xFE0F), ("-text".toList, Char.ofNat 0xFE0E)]

def parts (code : List Char) : List Char × List Char :=
  match forms.find? fun form => form.1.isSuffixOf code with
  | some (word, mark) => (code.take (code.length - word.length), [mark])
  | none => (code, [])

def shown (code : List Char) : List Char :=
  let (name, form) := parts code
  match symbols.lookup (String.ofList (Text.lower name)) with
  | some symbol => symbol.toList ++ form
  | none => ':' :: (code ++ [':'])

def code? (s : List Char) : Option (List Char) :=
  let code := s.takeWhile fun c => c != ':' && !Text.isBlank c
  if (s.drop code.length).head? = some ':' then some code else none

-- The first `skip` characters belong to a code already replaced.
def replaceFrom : Nat → List Char → List Char
  | _, [] => []
  | skip + 1, _ :: cs => replaceFrom skip cs
  | 0, c :: cs =>
    match if c = ':' then code? cs else none with
    | some code => shown code ++ replaceFrom (code.length + 1) cs
    | none => c :: replaceFrom 0 cs

def replaced (s : List Char) : List Char :=
  replaceFrom 0 s

end DesignLint.Console.Emoji
