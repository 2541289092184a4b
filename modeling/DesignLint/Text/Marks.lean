namespace DesignLint

-- One mark for each position, from before the first character to after the last.
abbrev Marks := List Bool

namespace Marks

def union (a b : Marks) : Marks := List.zipWith (· || ·) a b

def inter (a b : Marks) : Marks := List.zipWith (· && ·) a b

def advance (test : Char → Bool) (text : List Char) (m : Marks) : Marks :=
  false :: List.zipWith (fun c here => here && test c) text m

-- `reached` tells that a mark comes from before the text.
def carry (test : Char → Bool) (reached : Bool) : List Char → Marks → Marks
  | [], m => [reached || m.headD false]
  | c :: cs, m =>
    (reached || m.headD false) :: carry test ((reached || m.headD false) && test c) cs m.tail

def all (text : List Char) : Marks := List.replicate (text.length + 1) true

def atStart (text : List Char) : Marks := true :: List.replicate text.length false

def serves (test : List Char → Bool) : List Char → Marks → Bool
  | _, [] => false
  | [], here :: _ => here && test []
  | c :: cs, here :: m => (here && test (c :: cs)) || serves test cs m

def afterOne (one : Char → Bool) (test : List Char → Bool) : List Char → Bool
  | [] => false
  | c :: cs => one c && test cs

def afterRun (one : Char → Bool) (test : List Char → Bool) : List Char → Bool
  | [] => test []
  | c :: cs => test (c :: cs) || (one c && afterRun one test cs)

theorem serves_cons (test : List Char → Bool) (text : List Char) (here : Bool) (m : Marks) :
    serves test text (here :: m) = ((here && test text) || serves test text (false :: m)) := by
  cases text <;> simp [serves]

theorem serves_advance (one : Char → Bool) (test : List Char → Bool) (text : List Char)
    (m : Marks) : serves test text (advance one text m) = serves (afterOne one test) text m := by
  induction text generalizing m with
  | nil => cases m <;> simp [advance, serves, afterOne]
  | cons c cs ih =>
    cases m with
    | nil => simp [advance, serves]
    | cons here m =>
      have h := ih m
      simp only [advance] at h
      simp [advance, serves, afterOne, serves_cons test cs (here && one c), h, Bool.and_assoc]

theorem serves_carry (one : Char → Bool) (test : List Char → Bool) (reached : Bool)
    (text : List Char) (m : Marks) :
    serves test text (carry one reached text m) =
      ((reached && afterRun one test text) || serves (afterRun one test) text m) := by
  induction text generalizing reached m with
  | nil => cases m <;> simp [carry, serves, afterRun, Bool.and_or_distrib_right]
  | cons c cs ih =>
    cases m with
    | nil => simp [carry, serves, afterRun, ih, Bool.and_or_distrib_left, Bool.and_assoc]
    | cons here m =>
      simp only [carry, serves, afterRun, ih, List.headD_cons, List.tail_cons]
      cases reached <;> cases here <;> cases test (c :: cs) <;> simp

theorem serves_replicate_false (test : List Char → Bool) (text : List Char) (n : Nat) :
    serves test text (List.replicate n false) = false := by
  induction n generalizing text with
  | zero => cases text <;> rfl
  | succ n ih => cases text <;> simp [List.replicate_succ, serves, ih]

theorem serves_atStart (test : List Char → Bool) (text : List Char) :
    serves test text (atStart text) = test text := by
  cases text with
  | nil => simp [atStart, serves]
  | cons c cs => simp [atStart, serves, serves_replicate_false]

end Marks

end DesignLint
