import BoundSql.Text.CodePoint
import BoundSql.Text.Hex
set_option autoImplicit false

/-!
# JSON texts

The tree of what a log line says, and its text as JSON: no blanks, no line breaks, and nothing
but printable ASCII characters.  A code point outside of that range is escaped by its units of
sixteen bits.

The tree is between values and texts.  It has numbers as the texts that they are written as, since a
reader of JSON must find numerals there and a log may have others, and it has the members of an
object in the order in which they are written.  Writing is one function for each kind of tree;
`text` has the recursion, and the commas are in the functions for what is left of a row (`restText`,
`restMembersText`).
-/

namespace BoundSql.Observe

open BoundSql.Text (CodePoint)

/-- What a log line says.  A number is kept as its text. -/
inductive LogTree where
  | null
  | bool (b : Bool)
  | number (text : List Char)
  | string (s : Text)
  | array (items : List LogTree)
  /-- names with values, in the order in which they are written -/
  | object (members : List (Text × LogTree))
  deriving Inhabited

/-- A unit of sixteen bits as an escape. -/
def unitEscape (n : Nat) : List Char := '\\' :: 'u' :: Text.hexFixed 4 n

/-- A character as an escape, by one unit or by two. -/
def charEscape (c : Char) : List Char :=
  let n := c.toNat
  if n < 0x10000 then unitEscape n
  else
    let m := n - 0x10000
    unitEscape (0xD800 + m / 0x400) ++ unitEscape (0xDC00 + m % 0x400)

/-- A character between the quotes. -/
def stringChar (c : Char) : List Char :=
  if c = '"' then ['\\', '"']
  else if c = '\\' then ['\\', '\\']
  else if c = '\n' then ['\\', 'n']
  else if c = '\r' then ['\\', 'r']
  else if c = '\t' then ['\\', 't']
  else if c = '\x0c' then ['\\', 'f']
  else if c = '\x08' then ['\\', 'b']
  else if 0x20 ≤ c.toNat ∧ c.toNat < 0x7F then [c]
  else charEscape c

/-- A code point between the quotes.  The half of a surrogate pair is a unit by itself. -/
def stringPoint : CodePoint → List Char
  | .char c => stringChar c
  | .surrogate n => unitEscape (CodePoint.surrogate n).code

/-- A text between quotes. -/
def stringText (s : Text) : List Char := '"' :: (s.flatMap stringPoint ++ ['"'])

namespace LogTree

mutual

/-- The text of a tree. -/
def text : LogTree → List Char
  | null => ['n', 'u', 'l', 'l']
  | bool true => ['t', 'r', 'u', 'e']
  | bool false => ['f', 'a', 'l', 's', 'e']
  | number s => s
  | string s => stringText s
  | array items => '[' :: (itemsText items ++ [']'])
  | object members => '\x7b' :: (membersText members ++ ['\x7d'])

/-- The texts of the items of an array with commas between them. -/
def itemsText : List LogTree → List Char
  | [] => []
  | t :: ts => t.text ++ restText ts

/-- The texts of further items of an array, each behind a comma. -/
def restText : List LogTree → List Char
  | [] => []
  | t :: ts => ',' :: (t.text ++ restText ts)

/-- The texts of the members of an object with commas between them. -/
def membersText : List (Text × LogTree) → List Char
  | [] => []
  | m :: ms => memberText m ++ restMembersText ms

/-- The texts of further members of an object, each behind a comma. -/
def restMembersText : List (Text × LogTree) → List Char
  | [] => []
  | m :: ms => ',' :: (memberText m ++ restMembersText ms)

/-- The text of one member. -/
def memberText : Text × LogTree → List Char
  | (name, t) => stringText name ++ ':' :: t.text

end

end LogTree

/-- What stands between the quotes is made up code point by code point. -/
theorem stringText_append (s t : Text) :
    stringText (s ++ t) = '"' :: (s.flatMap stringPoint ++ (t.flatMap stringPoint ++ ['"'])) := by
  simp [stringText]

end BoundSql.Observe
