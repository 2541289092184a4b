import DesignLint.Text.Lowercase

namespace DesignLint.Text

def sharedCapitals : List (List Nat) := [
  [105, 305], [115, 383], [181, 956], [837, 953, 8126], [912, 8147], [944, 8163], [946, 976],
  [949, 1013], [952, 977], [954, 1008], [960, 982], [961, 1009], [962, 963], [966, 981],
  [1074, 7296], [1076, 7297], [1086, 7298], [1089, 7299], [1090, 7300, 7301], [1098, 7302],
  [1123, 7303], [7304, 42571], [7777, 7835], [64261, 64262]]

def small (c : Char) : Char :=
  if c = 'İ' then 'i' else lowerChar c

def partners (c : Char) : List Char :=
  match sharedCapitals.find? (·.contains c.toNat) with
  | some codes => codes.map Char.ofNat
  | none => [c]

def capitals (c : Char) : List Char :=
  let moved := lowerShifts.map fun s => Char.ofNat (Int.toNat (Int.ofNat c.toNat - s.offset))
  ([c, c.toUpper, 'İ'] ++ moved).filter fun x => small x == c

def foreign (c : Char) : List Char :=
  if c = 'i' then ['İ', 'ı'] else if c = 'k' then [Char.ofNat 0x212A]
  else if c = 's' then ['ſ'] else []

def sameLetter (c : Char) : List Char :=
  let d := small c
  if d.toNat < 128 then [d, d.toUpper] ++ foreign d else (partners d).flatMap capitals

end DesignLint.Text
