import BoundSql.Text.Hex
import BoundSql.Text.NormalData
set_option autoImplicit false

/-!
# The compatibility normal form of names

Two spellings of a name are the same name if their compatibility normal forms agree.  The form
is computed in three steps: every character is replaced by its full compatibility decomposition,
the marks that follow a character are put into the order of their combining classes, and pairs
that have a canonical composite are composed from left to right.

Names come from sources in any spelling, and mappings of names are looked up by the normal form.
For a name in ASCII there is nothing to do (`normalName_of_ascii`).  Korean syllables are decomposed
and composed by arithmetic, everything else by tables.
-/

namespace BoundSql.Text

/-! ## Reading the data -/

/-- A decomposition entry: `count + 1` code points from `first` on have the given image, which
moves along with the code point if there are several. -/
structure Decomposition where
  first : Nat
  count : Nat
  image : List Nat
  deriving DecidableEq, Repr, Inhabited

private def hexValue (s : String) : Nat := digitsValue 16 s.toList

private def decompositionOf (entry : String) : Decomposition :=
  match entry.splitOn "=" with
  | [key, image] =>
      let image := (image.splitOn ",").map hexValue
      match key.splitOn "+" with
      | [first, count] => ⟨hexValue first, hexValue count, image⟩
      | _ => ⟨hexValue key, 0, image⟩
  | _ => ⟨0, 0, []⟩

private def compositionOf (entry : String) : (Nat × Nat) × Nat :=
  match entry.splitOn "=" with
  | [key, composite] =>
      match key.splitOn "," with
      | [first, second] => ((hexValue first, hexValue second), hexValue composite)
      | _ => ((0, 0), 0)
  | _ => ((0, 0), 0)

private def combiningOf (entry : String) : (Nat × Nat) × Nat :=
  match entry.splitOn "=" with
  | [key, combiningClass] =>
      let combiningClass := digitsValue 10 combiningClass.toList
      match key.splitOn "-" with
      | [first, last] => ((hexValue first, hexValue last), combiningClass)
      | _ => ((hexValue key, hexValue key), combiningClass)
  | _ => ((0, 0), 0)

private def decompositions : List Decomposition :=
  (decompositionData.splitOn " ").map decompositionOf

private def compositions : List ((Nat × Nat) × Nat) :=
  (compositionData.splitOn " ").map compositionOf

private def combiningClasses : List ((Nat × Nat) × Nat) :=
  (combiningData.splitOn " ").map combiningOf

/-! ## The three steps -/

/-- First code point of the precomposed Hangul syllables. -/
private def hangulBase : Nat := 0xAC00

/-- The full compatibility decomposition of one code point. -/
def decomposed (n : Nat) : List Nat :=
  if n < 0x80 then [n]
  else if hangulBase ≤ n && n < hangulBase + 11172 then
    let s := n - hangulBase
    let lv := [0x1100 + s / 588, 0x1161 + s % 588 / 28]
    if s % 28 = 0 then lv else lv ++ [0x11A7 + s % 28]
  else
    match decompositions.find? fun d => d.first ≤ n && n ≤ d.first + d.count with
    | some d =>
        match d.image with
        | [m] => [m + (n - d.first)]
        | image => image
    | none => [n]

/-- The combining class of a code point; zero for all that are no marks. -/
def combiningClass (n : Nat) : Nat :=
  if n < 0x300 then 0
  else
    match combiningClasses.find? fun e => e.1.1 ≤ n && n ≤ e.1.2 with
    | some e => e.2
    | none => 0

/-- Inserts a mark before the marks that end the text and have a higher class. -/
private def insertMark (n : Nat) : List Nat → List Nat
  | [] => [n]
  | m :: rest =>
      if combiningClass n < combiningClass m then m :: insertMark n rest else n :: m :: rest

/-- The text with every run of marks in the order of their classes, marks of one class in the
order of the text. -/
def marksOrdered (ns : List Nat) : List Nat :=
  (ns.foldl (fun acc n => if combiningClass n = 0 then n :: acc else insertMark n acc) []).reverse

/-- The canonical composite of two code points. -/
def composite? (a b : Nat) : Option Nat :=
  if 0x1100 ≤ a && a < 0x1113 && 0x1161 ≤ b && b < 0x1176 then
    some (hangulBase + ((a - 0x1100) * 21 + (b - 0x1161)) * 28)
  else if hangulBase ≤ a && a < hangulBase + 11172 && (a - hangulBase) % 28 = 0
      && 0x11A8 ≤ b && b < 0x11C3 then
    some (a + (b - 0x11A7))
  else if b < 0x300 then none
  else (compositions.find? fun e => e.1 == (a, b)).map (·.2)

/-- What composition has built so far: the finished text in reverse, the last starter and the
uncomposed marks behind it in reverse. -/
private structure Composing where
  done : List Nat
  starter : Option Nat
  marks : List Nat

private def Composing.text (s : Composing) : List Nat :=
  s.done.reverse ++ s.starter.toList ++ s.marks.reverse

private def Composing.push (s : Composing) (n : Nat) : Composing :=
  let k := combiningClass n
  let blocked := match s.marks with
    | [] => false
    | m :: _ => combiningClass m ≥ k
  match s.starter with
  | some a =>
      match (if blocked then none else composite? a n) with
      | some c => { s with starter := some c }
      | none =>
          if k = 0 then ⟨s.text.reverse, some n, []⟩ else { s with marks := n :: s.marks }
  | none =>
      if k = 0 then ⟨s.text.reverse, some n, []⟩ else { s with marks := n :: s.marks }

/-- The text with every starter composed with the marks behind it that are not blocked. -/
def composed (ns : List Nat) : List Nat :=
  (ns.foldl Composing.push ⟨[], none, []⟩).text

/-- The compatibility normal form of a name. -/
def normalName (cs : List Char) : List Char :=
  if cs.all fun c => c.toNat < 0x80 then cs
  else (composed (marksOrdered (cs.flatMap fun c => decomposed c.toNat))).map Char.ofNat

theorem normalName_of_ascii {cs : List Char} (h : ∀ c ∈ cs, c.toNat < 0x80) :
    normalName cs = cs := by
  have : cs.all (fun c => c.toNat < 0x80) = true := by
    simpa [List.all_eq_true] using h
  simp [normalName, this]

end BoundSql.Text
