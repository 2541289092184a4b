import DesignLint.Console.Layout
import DesignLint.Text.Lowercase
import DesignLint.Text.Search

namespace DesignLint.Console

-- A warning sign that asks for its coloured form comes before the bare sign, which it contains.
def icons : List (String × String) := [
  ("✓", "[OK]"), ("✔", "[OK]"), ("✅", "[OK]"),
  ("✗", "[FAIL]"), ("✘", "[FAIL]"), ("❌", "[FAIL]"),
  ("\u26a0\ufe0f", "[WARN]"), ("\u26a0", "[WARN]"), ("\u2139", "[i]"),
  ("→", "->"), ("←", "<-"), ("⇒", "=>"),
  ("…", "..."), ("•", "*"), ("─", "-"), ("│", "|")]

-- A stream without a name for its encoding has that of the system, which is UTF-8.
def isUtf8 (encoding : String) : Bool :=
  if encoding = "" then true
  else
    let name := (Text.lower encoding.toList).map fun c => if c = '_' then '-' else c
    name = "utf-8".toList || name = "utf8".toList

def withoutIcons (text : List Char) : List Char :=
  icons.foldl (fun s icon => Text.replaceAll icon.1.toList icon.2.toList s) text

def adapted (encoding text : String) : String :=
  if isUtf8 encoding then text else String.ofList (withoutIcons text.toList)

def width : Nat := 4000

def line (encoding text : String) : String :=
  String.ofList (page width (visible (adapted encoding text).toList)) ++ "\n"

end DesignLint.Console
