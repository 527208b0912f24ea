import RouteTypes.Text.Case

/-!
# Spellings of a character

The characters that are equal but for letter case. They have the same lower-case form, or
lower-case forms that share their upper-case form: the final and the medial sigma, or the long
and the round s.
-/

namespace RouteTypes.Text

/-- Groups of lower-case letters that share their upper-case form. -/
def lowerGroups : List (List Nat) :=
  [
    [105, 305], [115, 383], [181, 956], [837, 953, 8126], [912, 8147], [944, 8163], [946, 976],
    [949, 1013], [952, 977], [954, 1008], [960, 982], [961, 1009], [962, 963], [966, 981],
    [1074, 7296], [1076, 7297], [1086, 7298], [1089, 7299], [1090, 7300, 7301], [1098, 7302],
    [1123, 7303], [7304, 42571], [7777, 7835], [64261, 64262]]

/-- The lower-case form of a character as one character. -/
def foldChar (c : Char) : Char :=
  if c == '\u0130' then 'i' else lowerChar c

/-- The lower-case letters that count as equal to a lower-case letter. -/
def lowerEquals (code : Nat) : List Nat :=
  (lowerGroups.find? (·.contains code)).getD [code]

/-- The code points that have the given one as their lower-case form. -/
def foldedTo (code : Nat) : List Nat :=
  let rows := lowerRows.filterMap fun (first, last, step, distance) =>
    let upper := ((code : Int) - distance).toNat
    if first ≤ upper && upper ≤ last && (upper - first) % step == 0 then some upper else none
  let ascii := if 97 ≤ code && code ≤ 122 then [code - 32] else []
  code :: ascii ++ rows ++ if code == 105 then [0x130] else []

/-- The code points of all characters that are equal to the given one but for letter case. -/
def spellings (c : Char) : List Nat :=
  (lowerEquals (foldChar c).toNat).flatMap foldedTo

end RouteTypes.Text
