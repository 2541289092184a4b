import DesignLint.Pattern.Reader

namespace DesignLint

def typeTests : List (String × Pattern) := [
  ("typeof", .ofText
    "typeof\\s+\\w+\\s*===\\s*['\"`](string|number|boolean|object|function|undefined)['\"`]"),
  ("instanceof", .ofText "\\w+\\s+instanceof\\s+\\w+"),
  ("constructor", .ofText "\\w+\\.constructor\\s*===\\s*\\w+"),
  ("Array.isArray", .ofText "Array\\.isArray\\s*\\("),
  ("type-property", .ofText "\\w+\\.type\\s*===\\s*['\"`]\\w+['\"`]")]

def typeTest? (text : String) : Option String :=
  (typeTests.find? fun e => e.2.foundIn text.toList).map Prod.fst

end DesignLint
