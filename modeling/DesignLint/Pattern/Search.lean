import DesignLint.Pattern.Sweep
import DesignLint.Pattern.Trail

namespace DesignLint.Pattern

def foundIn (p : Pattern) (text : List Char) : Bool :=
  if p.isRegular then p.sweeps text else p.follows text

end DesignLint.Pattern
