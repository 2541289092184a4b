import DesignLint.Value.Basic

namespace DesignLint

inductive Piece where
  | text (s : String)
  | slot (key : String)
deriving DecidableEq, Repr

instance : Coe String Piece := ⟨.text⟩

abbrev Template := List Piece

def slot (key : String) : Piece := .slot key

namespace Template

def keys (t : Template) : List String :=
  t.filterMap fun
    | .slot key => some key
    | .text _ => none

def render (data : Fields) : Template → Option String
  | [] => some ""
  | .text s :: rest => (render data rest).map (s ++ ·)
  | .slot key :: rest =>
    match Assoc.get? key data with
    | some v => (render data rest).map (v.plain ++ ·)
    | none => none

theorem render_isSome_iff (data : Fields) (t : Template) :
    (render data t).isSome = true ↔ ∀ key ∈ t.keys, (Assoc.get? key data).isSome = true := by
  induction t with
  | nil => simp [render, keys]
  | cons p rest ih =>
    cases p with
    | text s => simpa [render, keys] using ih
    | slot key =>
      cases h : Assoc.get? key data with
      | none => simp [render, keys, h]
      | some v => simpa [render, keys, h] using ih

def readFrom (inSlot : Bool) (word : List Char) : List Char → Template
  | [] => [.text (String.ofList word.reverse)]
  | '\x7b' :: '\x7b' :: rest => readFrom inSlot ('\x7b' :: word) rest
  | '\x7d' :: rest =>
    if inSlot then .slot (String.ofList word.reverse) :: readFrom false [] rest
    else match rest with
      | '\x7d' :: more => readFrom false ('\x7d' :: word) more
      | more => readFrom false word more
  | '\x7b' :: rest => .text (String.ofList word.reverse) :: readFrom true [] rest
  | c :: rest => readFrom inSlot (c :: word) rest

def read (s : String) : Template := readFrom false [] s.toList

end Template

end DesignLint
