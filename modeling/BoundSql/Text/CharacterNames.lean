import BoundSql.Text.Hex
import BoundSql.Text.Names.Aliases
import BoundSql.Text.Names.Alphabets
import BoundSql.Text.Names.Ancient
import BoundSql.Text.Names.EastAsian
import BoundSql.Text.Names.Mathematics
import BoundSql.Text.Names.Pictures
import BoundSql.Text.Names.Signs
import BoundSql.Text.Names.Syllabaries
import BoundSql.Text.Names.Symbols
set_option autoImplicit false

/-!
# Names of characters

The names by which a text literal may call characters, as Unicode 14 gives them.  A name is read
without regard to the case of its letters, except where it is made by a rule from the character:
ideographs are named by their code points and Korean syllables by their sounds.

A table of names is a list of entries between semicolons, one for each character.  An entry tells
how many words the name shares with the name before, and then its further words; a code point and
an equals sign stand in front where the character does not follow the one before.
-/

namespace BoundSql.Text

/-! ## Tables -/

/-- The code point and the words of a name. -/
structure NamedCode where
  code : Nat
  words : List String
  deriving DecidableEq, Repr, Inhabited

/-- Reads an entry of a table behind another one. -/
def NamedCode.after (last : NamedCode) (entry : String) : NamedCode :=
  match entry.splitOn " " with
  | [] => last
  | mark :: words =>
      let (code, shared) := match mark.splitOn "=" with
        | [code, shared] => (digitsValue 16 code.toList, shared)
        | _ => (last.code + 1, mark)
      ⟨code, last.words.take (digitsValue 10 shared.toList) ++ words⟩

/-- Looks for a name among the entries behind another one. -/
def findEntry (words : List String) (last : NamedCode) : List String → Option Nat
  | [] => none
  | entry :: entries =>
      let named := last.after entry
      if named.words = words then some named.code else findEntry words named entries

/-- The tables, those of common characters first. -/
def nameTables : List String :=
  [alphabetsNames, symbolsNames, aliasNames, syllabariesNames, eastAsianNames, picturesNames,
    mathematicsNames, ancientNames, signsNames]

/-- The code point that a table gives to a name. -/
def tabledCode? (name : String) : Option Nat :=
  nameTables.findSome? fun table => findEntry (name.splitOn " ") ⟨0, []⟩ (table.splitOn ";")

/-! ## Names made by rules -/

/-- The value of a run of hexadecimal digits with capital letters. -/
def capitalHex? (cs : List Char) : Option Nat :=
  if cs.all fun c => c.isDigit || ('A' ≤ c && c ≤ 'F') then some (digitsValue 16 cs) else none

/-- What stands behind the beginning of a text, if it begins so. -/
def afterPrefix? (beginning name : List Char) : Option (List Char) :=
  if beginning.isPrefixOf name then some (name.drop beginning.length) else none

/-- The unified ideographs. -/
def ideographRanges : List (Nat × Nat) :=
  [(0x3400, 0x4DBF), (0x4E00, 0x9FFF), (0x20000, 0x2A6DF), (0x2A700, 0x2B738),
    (0x2B740, 0x2B81D), (0x2B820, 0x2CEA1), (0x2CEB0, 0x2EBE0), (0x30000, 0x3134A)]

/-- The code point of a unified ideograph, which is named by four or five digits. -/
def ideographCode? (name : List Char) : Option Nat := do
  let digits ← afterPrefix? "CJK UNIFIED IDEOGRAPH-".toList name
  let code ← capitalHex? digits
  if (digits.length = 4 || digits.length = 5)
      && ideographRanges.any fun r => r.1 ≤ code && code ≤ r.2 then some code
  else none

/-- Characters that are named by a kind and their code points, in ranges. -/
def codedRanges : List (String × Nat × Nat) :=
  [("CJK COMPATIBILITY IDEOGRAPH-", 0xF900, 0xFA6D),
    ("CJK COMPATIBILITY IDEOGRAPH-", 0xFA70, 0xFAD9),
    ("CJK COMPATIBILITY IDEOGRAPH-", 0x2F800, 0x2FA1D),
    ("KHITAN SMALL SCRIPT CHARACTER-", 0x18B00, 0x18CD5),
    ("NUSHU CHARACTER-", 0x1B170, 0x1B2FB)]

/-- The code point of a character that is named by its kind and its code point, which is written
without leading zeros. -/
def codedName? (name : List Char) : Option Nat :=
  codedRanges.findSome? fun (kind, low, high) => do
    let digits ← afterPrefix? kind.toList name
    let code ← capitalHex? digits
    if low ≤ code && code ≤ high && digits.head? != some '0' then some code else none

/-- The code point of a variation selector under its short name. -/
def selectorCode? (name : List Char) : Option Nat := do
  let digits ← afterPrefix? "VS".toList name
  let n := digitsValue 10 digits
  if digits.all Char.isDigit && digits.head? != some '0' && 1 ≤ n && n ≤ 256 then
    some (if n ≤ 16 then 0xFE00 + (n - 1) else 0xE0100 + (n - 17))
  else none

/-! ## Korean syllables -/

/-- The sounds that begin a Korean syllable. -/
def syllableOnsets : List String :=
  ["G", "GG", "N", "D", "DD", "R", "M", "B", "BB", "S", "SS", "", "J", "JJ", "C", "K", "T", "P",
    "H"]

/-- The vowels of Korean syllables. -/
def syllableVowels : List String :=
  ["A", "AE", "YA", "YAE", "EO", "E", "YEO", "YE", "O", "WA", "WAE", "OE", "YO", "U", "WEO", "WE",
    "WI", "YU", "EU", "YI", "I"]

/-- The sounds that end a Korean syllable. -/
def syllableCodas : List String :=
  ["", "G", "GG", "GS", "N", "NJ", "NH", "D", "L", "LG", "LM", "LB", "LS", "LT", "LP", "LH", "M",
    "B", "BS", "S", "SS", "NG", "J", "C", "K", "T", "P", "H"]

/-- The code point of a Korean syllable.  The sounds are counted through, the last one fastest. -/
def syllableCode? (name : List Char) : Option Nat := do
  let sounds ← afterPrefix? "HANGUL SYLLABLE ".toList name
  syllableOnsets.zipIdx.findSome? fun (onset, i) => do
    let rest ← afterPrefix? onset.toList sounds
    syllableVowels.zipIdx.findSome? fun (vowel, j) => do
      let rest ← afterPrefix? vowel.toList rest
      let k ← syllableCodas.findIdx? fun coda => coda.toList == rest
      pure (0xAC00 + (i * 21 + j) * 28 + k)

/-! ## All names -/

/-- The character with a given name. -/
def characterNamed? (name : List Char) : Option Char :=
  let capital := name.map Char.toUpper
  let code := (syllableCode? name).or <| (ideographCode? name).or <|
    (codedName? capital).or <| (selectorCode? capital).or <| tabledCode? (String.ofList capital)
  code.map Char.ofNat

end BoundSql.Text
