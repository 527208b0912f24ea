import RouteTypes.FileSystem
import RouteTypes.Text.Lines

/-!
# Built-in commands of the shell

What the commands print and decide that the shell itself provides: printing with and without a
format, tests, and whole numbers with their arithmetic.
-/

namespace RouteTypes.Shell

/-- The bytes of characters. -/
def bytesOf (text : List Char) : Bytes :=
  Utf8.encodeString (String.ofList text)

/-- The value of an octal digit. -/
def octalDigit? (c : Char) : Option Nat :=
  if '0' ≤ c && c ≤ '7' then some (c.toNat - 48) else none

/-- The byte with up to that many octal digits, and what follows them. -/
def octalByte (value : Nat) : List Char → Nat → UInt8 × List Char
  | c :: rest, count + 1 =>
    match octalDigit? c with
    | some digit => octalByte (value * 8 + digit) rest count
    | none => (UInt8.ofNat value, c :: rest)
  | rest, _ => (UInt8.ofNat value, rest)

/-- The control behind a backslash. -/
def control? : Char → Option UInt8
  | 'a' => some 7
  | 'b' => some 8
  | 't' => some 9
  | 'n' => some 10
  | 'v' => some 11
  | 'f' => some 12
  | 'r' => some 13
  | '\\' => some 92
  | _ => none

/-- The byte of an escape, whose backslash has been taken, and what follows. An octal number may
have a zero in front. -/
def escape? : List Char → Option (UInt8 × List Char)
  | '0' :: rest => some (octalByte 0 rest 3)
  | c :: rest =>
    match control? c, octalDigit? c with
    | some byte, _ => some (byte, rest)
    | none, some _ => some (octalByte 0 (c :: rest) 3)
    | none, none => none
  | [] => none

/-- A text with its escapes replaced, and whether it goes on behind the text. -/
def unescape (text : List Char) : Nat → Bytes × Bool
  | 0 => ([], true)
  | count + 1 =>
    match text with
    | [] => ([], true)
    | '\\' :: 'c' :: _ => ([], false)
    | '\\' :: rest =>
      match escape? rest with
      | some (byte, rest) =>
        let (bytes, goes) := unescape rest count
        (byte :: bytes, goes)
      | none =>
        let (bytes, goes) := unescape rest count
        (92 :: bytes, goes)
    | c :: rest =>
      let (bytes, goes) := unescape rest count
      (bytesOf [c] ++ bytes, goes)

/-- What is printed for words. -/
def echo (words : List String) : Bytes :=
  let (plain, words) := match words with
    | "-n" :: rest => (true, rest)
    | rest => (false, rest)
  let text := (" ".intercalate words).toList
  let (bytes, goes) := unescape text (text.length + 1)
  if plain || !goes then bytes else bytes ++ [10]

/-- A whole number with its sign. -/
def integer? (text : String) : Option Int :=
  let trimmed := (text.toList.dropWhile (· == ' ')).reverse.dropWhile (· == ' ') |>.reverse
  match trimmed with
  | '-' :: digits => (String.ofList digits).toNat?.map fun value => -(value : Int)
  | '+' :: digits => (String.ofList digits).toNat?.map fun value => (value : Int)
  | digits => (String.ofList digits).toNat?.map fun value => (value : Int)

/-- A text that fills a width, on the left where it is negative. -/
def padded (left : Bool) (fill : Char) (width : Nat) (text : List Char) : List Char :=
  let gap := List.replicate (width - text.length) fill
  if left then text ++ gap else gap ++ text

/-- What a conversion prints for a word. -/
def converted (conversion : Char) (precision : Option Nat) (word : String) : List Char :=
  match conversion with
  | 's' => match precision with
    | some count => word.toList.take count
    | none => word.toList
  | 'c' => word.toList.take 1
  | 'x' => Nat.toDigits 16 ((integer? word).getD 0).toNat
  | 'X' => (Nat.toDigits 16 ((integer? word).getD 0).toNat).map Char.toUpper
  | 'o' => Nat.toDigits 8 ((integer? word).getD 0).toNat
  | _ => (toString ((integer? word).getD 0)).toList

/-- What one pass through a format prints, and the words that are left. -/
def formatOnce (format : List Char) (words : List String) : Nat → Bytes × List String
  | 0 => ([], words)
  | count + 1 =>
    match format with
    | [] => ([], words)
    | '%' :: '%' :: rest =>
      let (bytes, words) := formatOnce rest words count
      (37 :: bytes, words)
    | '%' :: rest =>
      let flags := rest.takeWhile fun c => c == '-' || c == '0'
      let rest := rest.dropWhile fun c => c == '-' || c == '0'
      let width := ((String.ofList (rest.takeWhile Char.isDigit)).toNat?).getD 0
      let rest := rest.dropWhile Char.isDigit
      let (precision, rest) := match rest with
        | '.' :: more =>
          (some (((String.ofList (more.takeWhile Char.isDigit)).toNat?).getD 0),
            more.dropWhile Char.isDigit)
        | more => (none, more)
      match rest with
      | [] => ([37], words)
      | conversion :: rest =>
        let word := words.headD ""
        let fill := if flags.contains '0' && !flags.contains '-' then '0' else ' '
        let shown := if conversion == 'b' then (unescape word.toList (word.length + 1)).1
          else bytesOf (padded (flags.contains '-') fill width
            (converted conversion precision word))
        let (bytes, words) := formatOnce rest (words.drop 1) count
        (shown ++ bytes, words)
    | '\\' :: rest =>
      match escape? rest with
      | some (byte, rest) =>
        let (bytes, words) := formatOnce rest words count
        (byte :: bytes, words)
      | none =>
        let (bytes, words) := formatOnce rest words count
        (92 :: bytes, words)
    | c :: rest =>
      let (bytes, words) := formatOnce rest words count
      (bytesOf [c] ++ bytes, words)

/-- What a format prints for words: it is used again as long as it takes words. -/
def formatAll (format : List Char) (words : List String) : Nat → Bytes
  | 0 => []
  | count + 1 =>
    let (bytes, left) := formatOnce format words (format.length + 1)
    if left.isEmpty || left.length == words.length then bytes
    else bytes ++ formatAll format left count

/-- Comparisons of whole numbers. -/
def comparison? : String → Option (Int → Int → Bool)
  | "-eq" => some (· == ·)
  | "-ne" => some (· != ·)
  | "-lt" => some fun left right => left < right
  | "-le" => some fun left right => left ≤ right
  | "-gt" => some fun left right => right < left
  | "-ge" => some fun left right => right ≤ left
  | _ => none

/-- The outcome of a test, or the word that is no number. -/
def test (files : FileSystem) : List String → Except String Bool
  | [] => .ok false
  | [word] => .ok (word != "")
  | ["!", word] => .ok (word == "")
  | ["-n", word] => .ok (word != "")
  | ["-z", word] => .ok (word == "")
  | ["-d", path] => .ok (files.isDirectory (FilePath.ofString path))
  | ["-f", path] => .ok ((files.read (FilePath.ofString path)).isOk)
  | ["-s", path] => .ok (((files.read (FilePath.ofString path)).toOption.getD []) != [])
  | [_, path] => .ok ((files.find (FilePath.ofString path)).isOk)
  | [left, "=", right] => .ok (left == right)
  | [left, "!=", right] => .ok (left != right)
  | [left, operator, right] =>
    match comparison? operator, integer? left, integer? right with
    | some compare, some first, some second => .ok (compare first second)
    | _, none, _ => .error left
    | _, _, _ => .error right
  | "!" :: words => (test files words).map not
  | word :: _ => .error word

/-- The operators of expressions with their strength and meaning. -/
def operatorTable : List (List Char × Nat × (Int → Int → Int)) :=
  [(['|', '|'], 1, fun left right => if left != 0 || right != 0 then 1 else 0),
   (['&', '&'], 2, fun left right => if left != 0 && right != 0 then 1 else 0),
   (['=', '='], 3, fun left right => if left == right then 1 else 0),
   (['!', '='], 3, fun left right => if left != right then 1 else 0),
   (['<', '='], 4, fun left right => if left ≤ right then 1 else 0),
   (['>', '='], 4, fun left right => if right ≤ left then 1 else 0),
   (['<'], 4, fun left right => if left < right then 1 else 0),
   (['>'], 4, fun left right => if right < left then 1 else 0),
   (['+'], 5, fun left right => left + right),
   (['-'], 5, fun left right => left - right),
   (['*'], 6, fun left right => left * right),
   (['/'], 6, fun left right => Int.tdiv left right),
   (['%'], 6, fun left right => Int.tmod left right)]

/-- A blank between the parts of an expression. -/
def dropSpaces (text : List Char) : List Char :=
  text.dropWhile (· == ' ')

/-- A character of a name or number. -/
def isOperandChar (c : Char) : Bool :=
  c.isAlphanum || c == '_'

mutual

/-- The value of a term of an expression, and what follows it. -/
def term (bindings : List (String × String)) (text : List Char) : Nat → Int × List Char
  | 0 => (0, text)
  | count + 1 =>
    match dropSpaces text with
    | '-' :: rest =>
      let (value, rest) := term bindings rest count
      (-value, rest)
    | '+' :: rest => term bindings rest count
    | '!' :: rest =>
      let (value, rest) := term bindings rest count
      (if value == 0 then 1 else 0, rest)
    | '(' :: rest =>
      let (value, rest) := operators bindings 0 rest count
      (value, (dropSpaces rest).drop 1)
    | rest =>
      let name := String.ofList (rest.takeWhile isOperandChar)
      let rest := rest.dropWhile isOperandChar
      match integer? name with
      | some value => (value, rest)
      | none => (((bindings.lookup name).bind integer?).getD 0, rest)

/-- Applies the operators behind a value that are stronger than the given strength. -/
def operatorsBehind (bindings : List (String × String)) (strength : Nat) (value : Int)
    (text : List Char) : Nat → Int × List Char
  | 0 => (value, text)
  | count + 1 =>
    let text := dropSpaces text
    match operatorTable.find? fun entry => entry.1.isPrefixOf text && strength < entry.2.1 with
    | none => (value, text)
    | some (sign, level, apply) =>
      let (right, rest) := operators bindings level (text.drop sign.length) count
      operatorsBehind bindings strength (apply value right) rest count

/-- The value of an expression whose operators are stronger than the given strength. -/
def operators (bindings : List (String × String)) (strength : Nat)
    (text : List Char) : Nat → Int × List Char
  | 0 => (0, text)
  | count + 1 =>
    let (value, rest) := term bindings text count
    operatorsBehind bindings strength value rest count

end

/-- The value of an expression. -/
def calculate (bindings : List (String × String)) (text : List Char) : Int :=
  (operators bindings 0 text (4 * text.length + 8)).1

end RouteTypes.Shell
