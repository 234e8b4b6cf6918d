import BoundSql.Text.Blank
import BoundSql.Text.CodePoint
set_option autoImplicit false

/-!
# Searching and splitting texts

Finding a part of a text, replacing it, and cutting a text at separators, blanks or line ends.
Texts are lists, so that the same functions serve characters and bytes.

Splitting has two directions and two kinds of separators, a given one or any blanks, and it may be
limited to a number of cuts; what is left over is the last piece, or the first one if the cuts are
made from the right.  An empty separator is the business of whoever calls.  Nothing here fails.
-/

namespace BoundSql.Text

/-! ## Searching -/

/-- The first place from `i` on at which a part stands in a text. -/
def findFrom {α : Type} [BEq α] (part : List α) (i : Nat) : List α → Option Nat
  | [] => if part.isEmpty then some i else none
  | a :: as => if part.isPrefixOf (a :: as) then some i else findFrom part (i + 1) as

/-- The first place at which a part stands in a text. -/
def find? {α : Type} [BEq α] (part text : List α) : Option Nat := findFrom part 0 text

/-- The last place at which a part stands in a text. -/
def findLast? {α : Type} [BEq α] (part text : List α) : Option Nat :=
  (find? part.reverse text.reverse).map fun i => text.length - (i + part.length)

/-- Cuts a text at the first occurrence of a part. -/
def cutAt? {α : Type} [BEq α] (part text : List α) : Option (List α × List α) :=
  (find? part text).map fun i => (text.take i, text.drop (i + part.length))

/-- Cuts a text at the last occurrence of a part. -/
def cutAtLast? {α : Type} [BEq α] (part text : List α) : Option (List α × List α) :=
  (findLast? part text).map fun i => (text.take i, text.drop (i + part.length))

/-! ## Cutting at a separator -/

/-- The pieces between the occurrences of a separator that is not empty, with at most `cuts`
cuts. -/
def splitFrom {α : Type} [BEq α] (separator : List α) : (cuts : Nat) → List α → List (List α)
  | 0, text => [text]
  | cuts + 1, text =>
      match cutAt? separator text with
      | some (front, rest) => front :: splitFrom separator cuts rest
      | none => [text]

/-- The pieces between the occurrences of a separator; a limit counts the cuts from the left. -/
def splitAt {α : Type} [BEq α] (separator : List α) (limit : Option Nat) (text : List α) :
    List (List α) :=
  splitFrom separator (limit.getD text.length) text

/-- The pieces between the occurrences of a separator; a limit counts the cuts from the right. -/
def splitAtRight {α : Type} [BEq α] (separator : List α) (limit : Option Nat) (text : List α) :
    List (List α) :=
  ((splitFrom separator.reverse (limit.getD text.length) text.reverse).map List.reverse).reverse

/-- The words of a text, which stand between runs of blanks; after `cuts` words the rest of the
text is one piece. -/
def wordsFrom {α : Type} (isBlank : α → Bool) : (fuel : Nat) → (cuts : Nat) → List α →
    List (List α)
  | 0, _, _ => []
  | fuel + 1, cuts, text =>
      match text.dropWhile isBlank with
      | [] => []
      | a :: as =>
          match cuts with
          | 0 => [a :: as]
          | cuts + 1 =>
              let word := (a :: as).takeWhile (!isBlank ·)
              word :: wordsFrom isBlank fuel cuts ((a :: as).drop word.length)

/-- The words of a text; a limit counts the cuts from the left. -/
def words {α : Type} (isBlank : α → Bool) (limit : Option Nat) (text : List α) : List (List α) :=
  wordsFrom isBlank (text.length + 1) (limit.getD text.length) text

/-- The words of a text; a limit counts the cuts from the right. -/
def wordsRight {α : Type} (isBlank : α → Bool) (limit : Option Nat) (text : List α) :
    List (List α) :=
  ((words isBlank limit text.reverse).map List.reverse).reverse

/-! ## Replacing -/

/-- Puts `new` in front of the first `count` elements, and behind the last one if the count
reaches so far. -/
def interleave {α : Type} (new : List α) : (count : Nat) → List α → List α
  | 0, text => text
  | _ + 1, [] => new
  | count + 1, a :: as => new ++ a :: interleave new count as

/-- The text with the occurrences of `old`, or the first of them up to a limit, replaced. -/
def replaced {α : Type} [BEq α] (old new : List α) (limit : Option Nat) (text : List α) :
    List α :=
  if old.isEmpty then interleave new (limit.getD (text.length + 1)) text
  else new.intercalate (splitAt old limit text)

/-- How often a part stands in a text without overlapping. -/
def occurrences {α : Type} [BEq α] (part text : List α) : Nat :=
  if part.isEmpty then text.length + 1 else (splitAt part none text).length - 1

/-! ## Lines -/

/-- A character that ends a line. -/
def isLineEnd (c : Char) : Bool :=
  let n := c.toNat
  (10 ≤ n && n ≤ 13) || (28 ≤ n && n ≤ 30) || n == 0x85 || n == 0x2028 || n == 0x2029

/-- The lines of a text, with or without their ends; `line` is the line so far in reverse. -/
def linesFrom (keep : Bool) (line : Text) : Text → List Text
  | [] => if line.isEmpty then [] else [line.reverse]
  | .char '\r' :: .char '\n' :: rest =>
      (line.reverse ++ ofChars (if keep then ['\r', '\n'] else [])) :: linesFrom keep [] rest
  | c :: rest =>
      if c.passes isLineEnd then
        (line.reverse ++ if keep then [c] else []) :: linesFrom keep [] rest
      else linesFrom keep (c :: line) rest

/-- The lines of a text. -/
def lines (keep : Bool) (text : Text) : List Text := linesFrom keep [] text

theorem findFrom_nil_part {α : Type} [BEq α] (i : Nat) (text : List α) :
    findFrom [] i text = some i := by
  cases text <;> simp [findFrom]

end BoundSql.Text
