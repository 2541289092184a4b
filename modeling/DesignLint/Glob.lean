import DesignLint.Text.Marks
import DesignLint.Text.Surrogate

namespace DesignLint.Glob

inductive Item where
  | many
  | one
  | literal (c : Char)
  | oneOf (negated : Bool) (ranges : List (Char × Char))
deriving DecidableEq, Repr

def between (ends : Char × Char) (c : Char) : Bool :=
  decide (Text.codeOf ends.1 ≤ Text.codeOf c) && decide (Text.codeOf c ≤ Text.codeOf ends.2)

def Item.admits : Item → Char → Bool
  | many, _ => false
  | one, _ => true
  | literal d, c => c == d
  | oneOf negated ranges, c => (ranges.any fun ends => between ends c) != negated

def matchItems : List Item → List Char → Bool
  | [], s => s.isEmpty
  | .many :: rest, s => Marks.afterRun (fun _ => true) (matchItems rest) s
  | item :: rest, s => Marks.afterOne item.admits (matchItems rest) s

theorem matchItems_many {rest : List Item} {s : List Char} :
    matchItems (.many :: rest) s = true ↔
      ∃ before after, s = before ++ after ∧ matchItems rest after = true := by
  rw [matchItems]
  induction s with
  | nil =>
    constructor
    · exact fun h => ⟨[], [], rfl, h⟩
    · rintro ⟨before, after, h, ht⟩
      simp_all [Marks.afterRun]
  | cons c cs ih =>
    rw [Marks.afterRun, Bool.or_eq_true, Bool.true_and, ih]
    constructor
    · rintro (h | ⟨before, after, rfl, h⟩)
      · exact ⟨[], c :: cs, rfl, h⟩
      · exact ⟨c :: before, after, rfl, h⟩
    · rintro ⟨before, after, h, ht⟩
      cases before with
      | nil => exact .inl (by simpa [h] using ht)
      | cons b before =>
        simp only [List.cons_append, List.cons.injEq] at h
        exact .inr ⟨before, after, h.2, ht⟩

def Item.move (text : List Char) (m : Marks) : Item → Marks
  | many => m.carry (fun _ => true) false text
  | item => m.advance item.admits text

def covers (items : List Item) (text : List Char) : Bool :=
  (items.foldl (Item.move text) (Marks.atStart text)).serves List.isEmpty text

theorem serves_foldl_move (items : List Item) (text : List Char) (m : Marks) :
    (items.foldl (Item.move text) m).serves List.isEmpty text =
      m.serves (matchItems items) text := by
  induction items generalizing m with
  | nil => rfl
  | cons item rest ih =>
    rw [List.foldl_cons, ih]
    cases item with
    | many => rw [Item.move, Marks.serves_carry]; rfl
    | one => exact Marks.serves_advance ..
    | literal c => exact Marks.serves_advance ..
    | oneOf negated ranges => exact Marks.serves_advance ..

theorem covers_eq_matchItems (items : List Item) (text : List Char) :
    covers items text = matchItems items text := by
  rw [covers, serves_foldl_move, Marks.serves_atStart]

-- The closing bracket may not come first, nor first after an exclamation mark.
def bracket? (s : List Char) : Option (List Char) :=
  let lead := match s with
    | '!' :: ']' :: _ => 2
    | '!' :: _ => 1
    | ']' :: _ => 1
    | _ => 0
  let body := (s.drop lead).takeWhile (· != ']')
  if lead + body.length < s.length then some (s.take lead ++ body) else none

-- No hyphen makes a range within the first `skip` characters, and none of the two after such a
-- hyphen does.
def chunks : Nat → List Char → List (List Char)
  | _, [] => [[]]
  | 0, '-' :: cs => [] :: chunks 2 cs
  | skip, c :: cs =>
    match chunks (skip - 1) cs with
    | [] => [[c]]
    | chunk :: rest => (c :: chunk) :: rest

def closeChunks : List (List Char) → List (List Char)
  | [] => []
  | [chunk] => [chunk]
  | [chunk, []] => [chunk ++ ['-']]
  | chunk :: rest => chunk :: closeChunks rest

def dropBackward : List (List Char) → List (List Char)
  | [] => []
  | chunk :: rest =>
    match dropBackward rest with
    | [] => [chunk]
    | next :: more =>
      match chunk.getLast?, next.head? with
      | some low, some high =>
        if Text.codeOf high < Text.codeOf low then (chunk.dropLast ++ next.tail) :: more
        else chunk :: next :: more
      | _, _ => chunk :: next :: more

def ranges : List (List Char) → List (Char × Char)
  | [] => []
  | [chunk] => chunk.map fun c => (c, c)
  | chunk :: next :: more =>
    chunk.map (fun c => (c, c)) ++
      (match chunk.getLast?, next.head? with
        | some low, some high => [(low, high)]
        | _, _ => [('-', '-')]) ++ ranges (next :: more)

def bracketItem (body : List Char) : Item :=
  let parts :=
    if body.contains '-' then
      dropBackward (closeChunks (chunks (if body.head? = some '!' then 2 else 1) body))
    else [body]
  match parts with
  | ('!' :: chunk) :: rest => .oneOf true (ranges (chunk :: rest))
  | _ => .oneOf false (ranges parts)

def itemsFrom : Nat → List Char → List Item
  | _, [] => []
  | skip + 1, _ :: cs => itemsFrom skip cs
  | 0, '*' :: cs => if cs.head? = some '*' then itemsFrom 0 cs else .many :: itemsFrom 0 cs
  | 0, '?' :: cs => .one :: itemsFrom 0 cs
  | 0, '[' :: cs =>
    match bracket? cs with
    | some body => bracketItem body :: itemsFrom (body.length + 1) cs
    | none => .literal '[' :: itemsFrom 0 cs
  | 0, c :: cs => .literal c :: itemsFrom 0 cs

def matches? (glob text : List Char) : Bool :=
  covers (itemsFrom 0 glob) text

-- Directories before a leading double star may be none.
def matchesPath (path glob : List Char) : Bool :=
  matches? glob path ||
    match glob with
    | '*' :: '*' :: '/' :: rest => matches? rest path
    | _ => false

end DesignLint.Glob
