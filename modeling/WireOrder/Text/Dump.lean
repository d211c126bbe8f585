import WireOrder.Text.GraphemeExtend
import WireOrder.Text.Invisible

/-!
# Values as they are shown

A character or a text is quoted so that what it holds can be told from its
quoted form alone: the quotation mark, the backslash and five control
characters are escaped by a backslash and a letter, and a character that
could not be seen, or that would combine with its neighbour, is shown by its
code point.

Other values are shown for diagnosis on one line: a record by its name and its
labelled parts between braces, a sequence between brackets.
-/

namespace WireOrder.Text

/-! ## Quoted characters and texts -/

/-- The letter that escapes a character which has one. -/
def escapeLetter? : Char → Option Char
  | '\x00' => some '0'
  | '\t' => some 't'
  | '\r' => some 'r'
  | '\n' => some 'n'
  | '\x5c' => some '\x5c'
  | _ => none

/-- Whether a character would go unseen, or change the look of what stands
around it. -/
def isObscure (character : Char) : Bool :=
  extendsGrapheme character || isInvisible character ||
    isDefaultIgnorable character

/-- A character by its code point, in lower-case hexadecimal without
padding. -/
def codePoint (character : Char) : List Char :=
  ['\x5c', 'u', '\x7b'] ++ Nat.toDigits 16 character.toNat ++ ['\x7d']

/-- One character as it appears between quotation marks of the given kind.
Only the mark that encloses the text has to be escaped in it. -/
def escape (mark : Char) (character : Char) : List Char :=
  match escapeLetter? character with
  | some letter => ['\x5c', letter]
  | none =>
      if character = mark then
        ['\x5c', character]
      else if isObscure character then
        codePoint character
      else
        [character]

/-- Characters between two quotation marks. -/
def quoteBetween (mark : Char) (characters : List Char) : String :=
  String.ofList (mark :: characters.flatMap (escape mark) ++ [mark])

/-- A single character in single quotation marks. -/
def quoteCharacter (character : Char) : String :=
  quoteBetween '\x27' [character]

/-- A text in double quotation marks. -/
def quote (text : String) : String :=
  quoteBetween '\x22' text.toList

/-! ## Record notation -/

/-- A record with its parts in the given order, at least one. -/
def record (name : String) (parts : List (String × String)) : String :=
  let shown := parts.map fun (label, value) => label ++ ": " ++ value
  name ++ " \x7b " ++ String.intercalate ", " shown ++ " \x7d"

/-- A sequence of values that are already in written form. -/
def sequence (values : List String) : String :=
  "[" ++ String.intercalate ", " values ++ "]"

/-- A truth value. -/
def truth (value : Bool) : String :=
  if value then "true" else "false"

end WireOrder.Text
