import DesignLint.Value.Basic

namespace DesignLint

inductive Misfit where
  | notText (typeName : String)
  | badPattern (text : String)
  | noKeyword
deriving DecidableEq, Repr

abbrev Trial (α : Type) := Except Misfit α

namespace Trial

variable {α : Type}

def any (test : α → Trial Bool) : List α → Trial Bool
  | [] => .ok false
  | a :: rest =>
    match test a with
    | .error e => .error e
    | .ok true => .ok true
    | .ok false => any test rest

def find? (test : α → Trial Bool) : List α → Trial (Option α)
  | [] => .ok none
  | a :: rest =>
    match test a with
    | .error e => .error e
    | .ok true => .ok (some a)
    | .ok false => find? test rest

theorem any_ok (test : α → Bool) (items : List α) :
    any (fun a => .ok (test a)) items = .ok (items.any test) := by
  induction items with
  | nil => rfl
  | cons a rest ih => cases h : test a <;> simp [any, h, ih]

theorem find?_ok (test : α → Bool) (items : List α) :
    find? (fun a => .ok (test a)) items = .ok (items.find? test) := by
  induction items with
  | nil => rfl
  | cons a rest ih => cases h : test a <;> simp [find?, h, ih]

end Trial

def Value.asText (v : Value) : Trial String :=
  match v with
  | .text s => .ok s
  | v => .error (.notText v.typeName)

end DesignLint
