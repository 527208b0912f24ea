import RouteTypes.Number.Reading
import RouteTypes.Text.Quoted

/-!
# Faults of patterns

What is wrong with a text that is no pattern, and where.
-/

namespace RouteTypes.Pattern

/-- What is wrong with a pattern. -/
inductive Problem where
  | danglingEscape
  | badEscape (escape : String)
  | incompleteEscape (escape : String)
  | largeOctal (escape : String)
  | missing (what : String)
  | unterminatedName (mark : Char)
  | badName (name : String)
  | unknownName (name : String)
  | unknownCharacter (name : String)
  | repeatedName (name : String) (number first : Nat)
  | openGroup
  | noGroup (number : Nat)
  | groupZero
  | groupOfLookbehind
  | unterminatedSet
  | badRange (first last : String)
  | reversedBounds
  | nothingToRepeat
  | repeatedTwice
  | unexpectedEnd
  | unknownExtension (text : String)
  | unterminatedComment
  | unterminatedGroup
  | unbalanced
  | manyBranches
  | lateFlags
  | unknownFlag
  | localeFlag
  | mixedAlphabets
  | alphabetOff
  | globalFlag (on : Bool)
  | flagOnAndOff
  | lookbehindWidth
  | farLookbehind
  | repeatedTemplate (kind : String)
  | hugeCode
  | largeBound
  | longBound (digits : Nat)
  | twoAlphabets
  deriving DecidableEq, Repr

/-- A problem and its position in the pattern. -/
structure Fault where
  problem : Problem
  position : Option Nat
  deriving DecidableEq, Repr

/-- The text of a problem. -/
def Problem.text : Problem → String
  | .danglingEscape => "bad escape (end of pattern)"
  | .badEscape escape => "bad escape " ++ escape
  | .incompleteEscape escape => "incomplete escape " ++ escape
  | .largeOctal escape => s!"octal escape value {escape} outside of range 0-0o377"
  | .missing what => "missing " ++ what
  | .unterminatedName mark => s!"missing {mark}, unterminated name"
  | .badName name => "bad character in group name " ++ Text.quoted name
  | .unknownName name => "unknown group name " ++ Text.quoted name
  | .unknownCharacter name => "undefined character name " ++ Text.quoted name
  | .repeatedName name number first =>
    s!"redefinition of group name {Text.quoted name} as group {number}; was group {first}"
  | .openGroup => "cannot refer to an open group"
  | .noGroup number => s!"invalid group reference {number}"
  | .groupZero => "bad group number"
  | .groupOfLookbehind => "cannot refer to group defined in the same lookbehind subpattern"
  | .unterminatedSet => "unterminated character set"
  | .badRange first last => s!"bad character range {first}-{last}"
  | .reversedBounds => "min repeat greater than max repeat"
  | .nothingToRepeat => "nothing to repeat"
  | .repeatedTwice => "multiple repeat"
  | .unexpectedEnd => "unexpected end of pattern"
  | .unknownExtension text => "unknown extension ?" ++ text
  | .unterminatedComment => "missing ), unterminated comment"
  | .unterminatedGroup => "missing ), unterminated subpattern"
  | .unbalanced => "unbalanced parenthesis"
  | .manyBranches => "conditional backref with more than two branches"
  | .lateFlags => "global flags not at the start of the expression"
  | .unknownFlag => "unknown flag"
  | .localeFlag => "bad inline flags: cannot use 'L' flag with a str pattern"
  | .mixedAlphabets => "bad inline flags: flags 'a', 'u' and 'L' are incompatible"
  | .alphabetOff => "bad inline flags: cannot turn off flags 'a', 'u' and 'L'"
  | .globalFlag true => "bad inline flags: cannot turn on global flag"
  | .globalFlag false => "bad inline flags: cannot turn off global flag"
  | .flagOnAndOff => "bad inline flags: flag turned on and off"
  | .lookbehindWidth => "look-behind requires fixed-width pattern"
  | .farLookbehind => "looks too much behind"
  | .repeatedTemplate kind => "internal: unsupported template operator " ++ kind
  | .hugeCode => "Python int too large to convert to C int"
  | .largeBound => "the repetition number is too large"
  | .longBound digits => (Number.Fault.tooLong digits).message
  | .twoAlphabets => "ASCII and UNICODE flags are incompatible"

/-- The line and the column of a position, both from one. -/
def lineAndColumn (pattern : List Char) (position : Nat) : Nat × Nat :=
  let before := pattern.take position
  (before.count '\n' + 1, (before.reverse.takeWhile (· != '\n')).length + 1)

/-- What the user is told. Line and column are given for patterns of several lines. -/
def Fault.message (fault : Fault) (pattern : String) : String :=
  match fault.position with
  | none => fault.problem.text
  | some position =>
    let (line, column) := lineAndColumn pattern.toList position
    fault.problem.text ++ s!" at position {position}" ++
      if pattern.toList.contains '\n' then s!" (line {line}, column {column})" else ""

end RouteTypes.Pattern
