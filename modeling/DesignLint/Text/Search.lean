namespace DesignLint.Text

def occurs (needle : List Char) : List Char → Bool
  | [] => needle.isEmpty
  | c :: cs => needle.isPrefixOf (c :: cs) || occurs needle cs

theorem occurs_iff {needle s : List Char} :
    occurs needle s = true ↔ ∃ before after, s = before ++ needle ++ after := by
  induction s with
  | nil =>
    constructor
    · intro h
      exact ⟨[], [], by simpa [occurs] using h⟩
    · rintro ⟨before, after, h⟩
      have : needle = [] := by simp_all
      simp [occurs, this]
  | cons c cs ih =>
    rw [occurs, Bool.or_eq_true, ih, List.isPrefixOf_iff_prefix]
    constructor
    · rintro (⟨after, h⟩ | ⟨before, after, h⟩)
      · exact ⟨[], after, by simpa using h.symm⟩
      · exact ⟨c :: before, after, by simp [h]⟩
    · rintro ⟨before, after, h⟩
      cases before with
      | nil => exact .inl ⟨after, by simpa using h.symm⟩
      | cons b before =>
        simp only [List.cons_append, List.cons.injEq] at h
        exact .inr ⟨before, after, h.2⟩

-- The first `skip` characters belong to an occurrence already replaced.
def replaceFrom (needle new : List Char) : Nat → List Char → List Char
  | _, [] => []
  | skip + 1, _ :: cs => replaceFrom needle new skip cs
  | 0, c :: cs =>
    if needle.isPrefixOf (c :: cs) then new ++ replaceFrom needle new (needle.length - 1) cs
    else c :: replaceFrom needle new 0 cs

def replaceAll (needle new s : List Char) : List Char :=
  replaceFrom needle new 0 s

def replaceFirst (needle new : List Char) : List Char → List Char
  | [] => if needle.isEmpty then new else []
  | c :: cs =>
    if needle.isPrefixOf (c :: cs) then new ++ (c :: cs).drop needle.length
    else c :: replaceFirst needle new cs

def split (separator : Char) : List Char → List (List Char)
  | [] => [[]]
  | c :: cs =>
    if c = separator then [] :: split separator cs
    else match split separator cs with
      | [] => [[c]]
      | part :: parts => (c :: part) :: parts

theorem split_ne_nil (separator : Char) (s : List Char) : split separator s ≠ [] := by
  cases s with
  | nil => simp [split]
  | cons c cs =>
    rw [split]
    split
    · simp
    · split <;> simp

def join (separator : List Char) (parts : List (List Char)) : List Char :=
  separator.intercalate parts

def dropEndWhile (test : Char → Bool) (s : List Char) : List Char :=
  (s.reverse.dropWhile test).reverse

def upTo (separator : Char) (s : List Char) : List Char :=
  s.takeWhile (· != separator)

def within (needle s : String) : Bool :=
  occurs needle.toList s.toList

def startsWith (s start : String) : Bool :=
  start.toList.isPrefixOf s.toList

def endsWith (s ending : String) : Bool :=
  ending.toList.isSuffixOf s.toList

end DesignLint.Text
