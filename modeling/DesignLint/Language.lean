import DesignLint.Config.Error
import DesignLint.Text.Lowercase

namespace DesignLint

inductive Language where
  | javascript
  | typescript
  | tsx
deriving DecidableEq, Repr

namespace Language

def name : Language → String
  | javascript => "javascript"
  | typescript => "typescript"
  | tsx => "tsx"

def all : List Language := [javascript, typescript, tsx]

def named (s : String) : Except ConfigError Language :=
  match all.find? fun l => l.name = s with
  | some l => .ok l
  | none => .error (.unsupportedLanguage s)

def extensions : List (String × Language) := [
  (".js", javascript), (".jsx", javascript), (".mjs", javascript), (".cjs", javascript),
  (".ts", typescript), (".mts", typescript), (".cts", typescript), (".tsx", tsx)]

def ofExtension? (extension : String) : Option Language :=
  extensions.lookup (Text.lowered extension)

end Language

end DesignLint
