import BoundSql.Text.CaseData
import BoundSql.Text.Hex
import BoundSql.Text.Letters
set_option autoImplicit false

/-!
# Upper and lower case

The case mappings of whole texts.  A character may be mapped to several, and a capital sigma at
the end of a word becomes the final form of the small letter.

The images of single characters are tables, and texts are mapped character by character except where
a sigma has to look at its neighbours.  Folding is for comparisons without regard to case, and may
change the length of a text as upper case does.  Title case begins a new word behind every character
that has no case.
-/

namespace BoundSql.Text

/-- A run of characters with their images: `count` characters from `first` on at distances of
`step`, whose images follow each other in the same way from the single code point in `image` on;
or one character whose image is all of `image`. -/
structure CaseRun where
  first : Nat
  count : Nat
  step : Nat
  image : List Nat
  deriving DecidableEq, Repr, Inhabited

private def caseNumber (s : String) : Nat := digitsValue 16 s.toList

/-- The run that an entry of the data describes. -/
private def caseRunOf (entry : String) : CaseRun :=
  match entry.splitOn "=" with
  | [key, image] =>
      let image := (image.splitOn ",").map caseNumber
      match key.splitOn "+", key.splitOn "*" with
      | [first, more], _ => ⟨caseNumber first, caseNumber more + 1, 1, image⟩
      | _, [first, more] => ⟨caseNumber first, caseNumber more + 1, 2, image⟩
      | _, _ => ⟨caseNumber key, 1, 1, image⟩
  | _ => ⟨0, 0, 1, []⟩

private def caseRuns (data : String) : List CaseRun := (data.splitOn " ").map caseRunOf

private def upperRuns : List CaseRun := caseRuns upperData
private def lowerRuns : List CaseRun := caseRuns lowerData
private def titleRuns : List CaseRun := caseRuns titleData
private def foldRuns : List CaseRun := caseRuns foldData

/-- Whether a code point belongs to a run. -/
def CaseRun.covers (r : CaseRun) (n : Nat) : Bool :=
  r.first ≤ n && n < r.first + r.count * r.step && (n - r.first) % r.step == 0

/-- The image of a code point of a run. -/
def CaseRun.map (r : CaseRun) (n : Nat) : List Char :=
  match r.image with
  | [i] => [Char.ofNat (i + (n - r.first))]
  | is => is.map Char.ofNat

/-- The image of a character under the mapping that some runs describe. -/
def image? (runs : List CaseRun) (c : Char) : Option (List Char) :=
  (runs.find? (·.covers c.toNat)).map (·.map c.toNat)

/-- The upper case of a character. -/
def upperOf (c : Char) : List Char :=
  if c.toNat < 128 then [c.toUpper] else (image? upperRuns c).getD [c]

/-- The lower case of a character by itself. -/
def lowerOf (c : Char) : List Char :=
  if c.toNat < 128 then [c.toLower] else (image? lowerRuns c).getD [c]

/-- The title case of a character. -/
def titleOf (c : Char) : List Char :=
  if c.toNat < 128 then [c.toUpper] else (image? titleRuns c).getD (upperOf c)

/-- The folded case of a character. -/
def foldOf (c : Char) : List Char :=
  if c.toNat < 128 then [c.toLower] else (image? foldRuns c).getD (lowerOf c)

/-- A character of lower case. -/
def isLowerCase (c : Char) : Bool :=
  if c.toNat < 128 then c.isLower else upperOf c != [c] && lowerOf c == [c]

/-- A character of upper or title case. -/
def isUpperCase (c : Char) : Bool :=
  if c.toNat < 128 then c.isUpper else lowerOf c != [c]

/-- A character that has a case. -/
def isCased (c : Char) : Bool := isLowerCase c || isUpperCase c

/-- A text in upper case. -/
def upper (cs : List Char) : List Char := cs.flatMap upperOf

/-- The lower case of a text; `before` says whether a cased character stands in front of it. -/
def lowerAfter (before : Bool) : List Char → List Char
  | [] => []
  | c :: cs =>
      let here :=
        if c = 'Σ' then if before && !(cs.head?.any isLetter) then ['ς'] else ['σ'] else lowerOf c
      here ++ lowerAfter (isCased c) cs

/-- A text in lower case. -/
def lower (cs : List Char) : List Char := lowerAfter false cs

/-- A text in folded case, for comparing texts without regard to case. -/
def fold (cs : List Char) : List Char := cs.flatMap foldOf

/-- A text whose first character is in title case and the rest in lower case. -/
def capitalized : List Char → List Char
  | [] => []
  | c :: cs => titleOf c ++ lowerAfter (isCased c) cs

/-- A text in which every run of cased characters begins in title case. -/
def titled (before : Bool) : List Char → List Char
  | [] => []
  | c :: cs =>
      (if before then lowerOf c else titleOf c) ++ titled (isCased c) cs

/-- A text with upper and lower case exchanged. -/
def swapped (cs : List Char) : List Char :=
  cs.flatMap fun c => if isUpperCase c then lowerOf c else if isLowerCase c then upperOf c else [c]

theorem upper_append (cs ds : List Char) : upper (cs ++ ds) = upper cs ++ upper ds := by
  simp [upper]

end BoundSql.Text
