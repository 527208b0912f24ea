import RouteTypes.Text.Utf8

/-!
# Lines

Texts that come from files have one kind of line end: those of other systems are replaced when
a text is read. Texts of other programs are split at every character that may end a line.
-/

namespace RouteTypes.Text

/-- Replaces the line ends of other systems. -/
def unifyLineEnds : List Char → List Char
  | '\r' :: '\n' :: rest => '\n' :: unifyLineEnds rest
  | '\r' :: rest => '\n' :: unifyLineEnds rest
  | c :: rest => c :: unifyLineEnds rest
  | [] => []

/-- The text of a file. -/
def ofFile (bytes : Bytes) : Except Utf8.Fault String := do
  return String.ofList (unifyLineEnds (← Utf8.decode bytes))

/-- A character that ends a line. -/
def endsLine (c : Char) : Bool :=
  let code := c.toNat
  (10 ≤ code && code ≤ 13) || (28 ≤ code && code ≤ 30) || code == 0x85 || code == 0x2028 ||
    code == 0x2029

/-- The lines of a text, without their ends. The end of the last line may be left out. -/
def lines : List Char → List (List Char)
  | [] => []
  | '\r' :: '\n' :: rest => [] :: lines rest
  | c :: rest =>
    if endsLine c then [] :: lines rest
    else
      match lines rest with
      | first :: others => (c :: first) :: others
      | [] => [[c]]

end RouteTypes.Text
