import DesignLint.SyntaxTree.Node
import DesignLint.Text.Blank

namespace DesignLint

namespace Site

-- There is none if the declaration has text but no word; without a declaration or without text the
-- word is empty.
def declarationKeyword? (s : Site) : Option String :=
  match s.parent? with
  | none => some ""
  | some (p : Site) =>
    let text := p.code.text.toList
    if text.isEmpty then some ""
    else
      let word := (text.dropWhile Text.isBlank).takeWhile (!Text.isBlank ·)
      if word.isEmpty then none else some (String.ofList word)

def isTopLevel (s : Site) : Bool :=
  let holder := s.parent?.bind Spot.parent?
  let outer := match holder with
    | some h => if h.label.type = "export_statement" then h.parent? else some h
    | none => none
  outer.any fun o => o.label.kind = .program

end Site

end DesignLint
