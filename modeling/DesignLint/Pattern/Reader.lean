import DesignLint.Pattern.Search
import DesignLint.Pattern.Token
import DesignLint.Pattern.Width
import DesignLint.Text.WholeNumber

namespace DesignLint.Pattern

namespace Reader

-- Anchors and repetitions may not be repeated.
structure Part where
  pattern : Pattern
  repeatable : Bool

-- Both lists stand last first.
structure Branches where
  alternatives : List Pattern := []
  parts : List Part := []

namespace Branches

def push (b : Branches) (p : Pattern) (repeatable : Bool) : Branches :=
  { b with parts := ⟨p, repeatable⟩ :: b.parts }

def bar (b : Branches) : Branches :=
  ⟨sequence (b.parts.reverse.map Part.pattern) :: b.alternatives, []⟩

def all (b : Branches) : List Pattern := b.bar.alternatives.reverse

def times (b : Branches) (least : Nat) (most : Option Nat) (greed : Greed) : Option Branches :=
  match b.parts with
  | ⟨p, true⟩ :: rest =>
    some { b with parts := ⟨.repeated p least most greed, false⟩ :: rest }
  | _ => none

end Branches

inductive Role where
  | group (number : Nat)
  | scope
  | atomic
  | ahead (wanted : Bool)
  | behind (wanted : Bool)
  | given (number : Nat)

structure Frame where
  role : Role
  branches : Branches
  flags : Flags
  known : Option Nat

structure Draft where
  flags : Flags := {}
  groups : Nat := 0
  widths : List (Nat × Width) := []
  names : List (List Char × Nat) := []
  asked : List Nat := []
  -- While something is matched backwards: how many groups there were before.
  known : Option Nat := none
  branches : Branches := {}
  outer : List Frame := []

namespace Draft

def push (d : Draft) (p : Pattern) (repeatable : Bool) : Draft :=
  { d with branches := d.branches.push p repeatable }

def widthOf (d : Draft) (number : Nat) : Width := (d.widths.lookup number).getD .zero

def isFinished (d : Draft) (number : Nat) : Bool := (d.widths.lookup number).isSome

def mayRefer (d : Draft) (number : Nat) : Bool :=
  match d.known with
  | some known => d.isFinished number && decide (number ≤ known)
  | none => true

def refer (d : Draft) (number : Nat) : Option Draft :=
  if d.isFinished number && d.mayRefer number then some (d.push (.same number d.flags.rule) true)
  else none

def enter (d : Draft) (role : Role) : Draft :=
  { d with branches := {}, outer := ⟨role, d.branches, d.flags, d.known⟩ :: d.outer }

def asks? (d : Draft) (name : List Char) : Option (Nat × List Nat) :=
  if isName name then (d.names.lookup name).map fun number => (number, d.asked)
  else match Text.wholeNumber? name with
    | some (.ofNat (number + 1)) => some (number + 1, (number + 1) :: d.asked)
    | _ => none

def depthLimit : Nat := 490

def opened (d : Draft) : Opening → Option Draft
  | .capture none => some { d.enter (.group (d.groups + 1)) with groups := d.groups + 1 }
  | .capture (some name) =>
    if (d.names.lookup name).isSome then none
    else some { d.enter (.group (d.groups + 1)) with
      groups := d.groups + 1, names := (name, d.groups + 1) :: d.names }
  | .scope on off => some { d.enter .scope with flags := d.flags.change on off }
  | .atomic => some (d.enter .atomic)
  | .ahead wanted => some (d.enter (.ahead wanted))
  | .behind wanted => some { d.enter (.behind wanted) with known := some (d.known.getD d.groups) }
  | .given name => do
    let (number, asked) ← d.asks? name
    guard (d.mayRefer number)
    pure { d.enter (.given number) with asked }

def finished? (d : Draft) : Role → Option Pattern
  | .group number => some (.group number (choice d.branches.all))
  | .scope => some (choice d.branches.all)
  | .atomic => some (.atomic (choice d.branches.all))
  | .ahead wanted => some (.ahead wanted (choice d.branches.all))
  | .behind wanted =>
    let p := choice d.branches.all
    (p.width d.widthOf).fixed?.map fun width => .behind wanted width p
  | .given number =>
    match d.branches.all with
    | [p] => some (.given number p .empty)
    | [p, q] => some (.given number p q)
    | _ => none

def closed (d : Draft) : Option Draft :=
  match d.outer with
  | [] => none
  | frame :: outer => do
    let p ← d.finished? frame.role
    let widths := match frame.role with
      | .group number => (number, p.width d.widthOf) :: d.widths
      | _ => d.widths
    pure { d with
      flags := frame.flags, known := frame.known, widths, outer
      branches := frame.branches.push p true }

def isFresh (d : Draft) : Bool :=
  d.outer.isEmpty && d.branches.alternatives.isEmpty && d.branches.parts.isEmpty

def add (d : Draft) : Token → Option Draft
  | .item p => some (d.push p true)
  | .anchor a => some (d.push (.anchor a) false)
  | .reference number => d.refer number
  | .named name => (d.names.lookup name).bind d.refer
  | .remark => some d
  | .flags f => if d.isFresh then some { d with flags := d.flags.union f } else none
  | .opening o => if d.outer.length < depthLimit then d.opened o else none
  | .closing => d.closed
  | .bar => some { d with branches := d.branches.bar }
  | .times least most greed =>
    if d.flags.once then none
    else (d.branches.times least most greed).map fun branches => { d with branches }

def pattern? (d : Draft) : Option Pattern :=
  if d.outer.isEmpty && d.asked.all (· ≤ d.groups) && !d.flags.conflicting then
    some (choice d.branches.all)
  else none

end Draft

def isSkipped (c : Char) : Bool :=
  c == ' ' || (9 ≤ c.toNat && c.toNat ≤ 13)

def lineFrom (count : Nat) : List Char → Nat
  | [] => count
  | '\\' :: _ :: rest => lineFrom (count + 2) rest
  | c :: rest => if c = '\n' then count + 1 else lineFrom (count + 1) rest

-- The first `skip` characters belong to a token already read.
def draftFrom (d : Draft) : Nat → List Char → Option Draft
  | _, [] => some d
  | skip + 1, _ :: rest => draftFrom d skip rest
  | 0, c :: rest =>
    if d.flags.spaced && isSkipped c then draftFrom d 0 rest
    else if d.flags.spaced && c == '#' then draftFrom d (lineFrom 0 rest) rest
    else match token? d.flags (c :: rest) with
      | some (t, width) =>
        match d.add t with
        | some d => draftFrom d (width - 1) rest
        | none => none
      | none => none

end Reader

def endsOpen (s : List Char) : Bool :=
  (s.reverse.takeWhile (· == '\\')).length % 2 == 1

def read? (s : String) : Option Pattern :=
  if endsOpen s.toList then none
  else (Reader.draftFrom {} 0 s.toList).bind Reader.Draft.pattern?

def ofText (s : String) : Pattern :=
  (read? s).getD never

end DesignLint.Pattern
