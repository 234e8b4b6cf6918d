import BoundSql.Eval.Arguments
import BoundSql.Text.Case
import BoundSql.Text.Digit
import BoundSql.Text.Identifier
import BoundSql.Text.Search
import BoundSql.Value.Operator
set_option autoImplicit false

/-!
# Methods of texts

What the methods of texts and of strings of bytes answer with.

Texts and strings of bytes share most of their methods, and the shared ones are written once, for
lists of anything (`search`, `splitPieces`, `partitioned`).  What is a blank, a letter or a digit
differs: for texts it is a matter of Unicode, for bytes of ASCII.  Encodings turn one into the
other; a few of them are known, and text that an encoding has no bytes for makes a method fail, as
do bytes that stand for no text.
-/

namespace BoundSql.Eval

open BoundSql.Value
open BoundSql.Text (CodePoint)

/-! ## Parts of texts -/

/-- Texts as a list. -/
def textList (pieces : List Text) : Eval Val := Eval.makeList (pieces.map .str)

/-- A limit on cuts or replacements; a negative one is none. -/
def limitOf (n : Int) : Option Nat := if n < 0 then none else some n.toNat

/-- The part of a row between two optional bounds, and where it begins.  Bounds are moved into the
row, and there is no part if the second comes before the first. -/
def between {α : Type} (items : List α) (start stop : Option Val) :
    Eval (Option (Nat × List α)) := do
  let bound (default : Int) (v : Option Val) : Eval Int := do
    match v with
    | none | some .none => pure default
    | some v => do
        let i ← intArgument v
        pure (if i < 0 then max 0 (i + items.length) else i)
  let first ← bound 0 start
  let last ← bound items.length stop
  let last := min last items.length
  if last < first then pure none
  else pure (some (first.toNat, (items.take last.toNat).drop first.toNat))

/-- Searches a part of a row, from the left or from the right. -/
def search {α : Type} [BEq α] (fromRight : Bool) (items part : List α) (rest : List Val) :
    Eval (Option Nat) := do
  match ← between items rest[0]? rest[1]? with
  | none => pure none
  | some (offset, items) =>
      let found := if fromRight then Text.findLast? part items else Text.find? part items
      pure (found.map (offset + ·))

/-- The place of a part as the answer of a method; with `strict` a part that is not there is
refused. -/
def searchAnswer (strict : Bool) : Option Nat → Eval Val
  | some i => pure (.int i)
  | none => if strict then Eval.fail .wrongValue else pure (.int (-1))

/-- Whether a row begins or ends with a part, or with one of the parts in a tuple; `read` reads a
part, and parts behind the one that fits are not read. -/
def affix {α : Type} [BEq α] (read : Val → Eval (List α)) (atEnd : Bool) (items : List α)
    (args : List Val) (keywords : Keywords) : Eval Val := do
  let args ← positional args keywords 1 3
  let part ← between items args[1]? args[2]?
  let fits (v : Val) : Eval Bool := do
    let p ← read v
    pure (part.any fun r => if atEnd then p.isSuffixOf r.2 else p.isPrefixOf r.2)
  match args.headD .none with
  | .tuple parts => do pure (.bool (← anyElement fits parts))
  | v => do pure (.bool (← fits v))

/-- Takes code points from the ends of a text. -/
def stripped (left right : Bool) (p : CodePoint → Bool) (cs : Text) : Text :=
  let cs := if left then cs.dropWhile p else cs
  if right then Text.dropRightWhile p cs else cs

/-- All code points are characters that pass a test, and there is one. -/
def every (p : Char → Bool) (cs : Text) : Bool := !cs.isEmpty && cs.all (·.passes p)

/-- Whether upper case stands only in front of runs of lower case; `before` says whether a cased
character stands in front, and `seen` whether there was one at all. -/
def isTitled (before seen : Bool) : Text → Bool
  | [] => seen
  | c :: cs =>
      if c.passes Text.isUpperCase then !before && isTitled true true cs
      else if c.passes Text.isLowerCase then before && isTitled true true cs
      else isTitled false seen cs

/-- Pads a text to a width with zeros behind its sign. -/
def zeroFilled (width : Int) (cs : Text) : Text :=
  let zeros : Text := List.replicate (width - cs.length).toNat '0'
  match cs with
  | c :: rest => if c = .char '+' ∨ c = .char '-' then c :: (zeros ++ rest) else zeros ++ cs
  | [] => zeros

/-- A text with tabs replaced by blanks up to the next multiple of a width; `column` counts the
characters since the last line end. -/
def tabsExpanded (size column : Nat) : Text → Text
  | [] => []
  | c :: cs =>
      if c = .char '\t' then
        let n := if size = 0 then 0 else size - column % size
        List.replicate n (.char ' ') ++ tabsExpanded size (column + n) cs
      else if c = .char '\n' ∨ c = .char '\r' then c :: tabsExpanded size 0 cs
      else c :: tabsExpanded size (column + 1) cs

/-! ## Encodings -/

/-- Names of an encoding without regard to case and separators. -/
def encodingName (s : String) : String :=
  String.ofList ((s.toList.map Char.toLower).filter Char.isAlphanum)

/-- The bytes of a text in an encoding. -/
def encodeText (s : Text) (encoding : String) : Eval (List UInt8) :=
  let narrow (bound : Nat) : Eval (List UInt8) :=
    if s.all (·.code < bound) then pure (s.map (·.code.toUInt8)) else Eval.fail .unencodable
  match encodingName encoding with
  | "utf8" => do pure (← Eval.orFail .unencodable (Text.string? s)).toUTF8.toList
  | "ascii" | "usascii" => narrow 128
  | "latin1" | "iso88591" | "latin" => narrow 256
  | _ => Eval.fail .unknownEncoding

/-- The text that bytes stand for in an encoding. -/
def decodeBytes (bs : List UInt8) (encoding : String) : Eval String :=
  match encodingName encoding with
  | "utf8" => Eval.orFail .undecodable (String.fromUTF8? ⟨bs.toArray⟩)
  | "ascii" | "usascii" =>
      if bs.all (· < 128) then pure (String.ofList (bs.map fun b => Char.ofNat b.toNat))
      else Eval.fail .undecodable
  | "latin1" | "iso88591" | "latin" =>
      pure (String.ofList (bs.map fun b => Char.ofNat b.toNat))
  | _ => Eval.fail .unknownEncoding

/-! ## Texts -/

/-- Tests that a text passes or not. -/
def textTest? (name : String) (cs : Text) : Option Bool :=
  let holds (p : Char → Bool) : Bool := cs.any (·.passes p)
  match name with
  | "isdigit" => some (every Text.isDigitChar cs)
  | "isdecimal" => some (every Text.isDecimalDigit cs)
  | "isnumeric" => some (every Text.isNumeric cs)
  | "isalpha" => some (every Text.isLetter cs)
  | "isalnum" => some (every Text.isAlphanumeric cs)
  | "isspace" => some (every Text.isBlank cs)
  | "isupper" => some (holds Text.isUpperCase && !holds Text.isLowerCase)
  | "islower" => some (holds Text.isLowerCase && !holds Text.isUpperCase)
  | "istitle" => some (isTitled false false cs)
  | "isascii" => some (cs.all (·.code < 128))
  | "isidentifier" => some ((Text.string? cs).any fun s => Text.isIdentifier s.toList)
  | "isprintable" => some (cs.all (·.passes Text.isPrintable))
  | _ => none

/-- Changes of a text that take no arguments. -/
def textChange? (name : String) (cs : Text) : Option Text :=
  let change (f : List Char → List Char) : Text := Text.mapRuns f f cs
  match name with
  | "upper" => some (change Text.upper)
  | "lower" => some (change Text.lower)
  | "title" => some (change (Text.titled false))
  | "capitalize" => some (Text.mapRuns Text.capitalized Text.lower cs)
  | "swapcase" => some (change Text.swapped)
  | "casefold" => some (change Text.fold)
  | _ => none

/-- The code points that a method takes off the ends of a text. -/
def stripSet (args : List Val) (keywords : Keywords) : Eval (CodePoint → Bool) := do
  match ← positional args keywords 0 1 with
  | [] | [.none] => pure (·.passes Text.isBlank)
  | v :: _ => do
      let cs ← textArgument v
      pure cs.contains

/-- The pieces that a text is split into. -/
def splitPieces (fromRight : Bool) (cs : Text) (args : List Val) (keywords : Keywords) :
    Eval (List Text) := do
  match ← named args keywords ["sep", "maxsplit"] [] 0 with
  | [separator, limit] => do
      let limit := limitOf (← indexOr (-1) limit)
      match separator.getD .none with
      | .none =>
          let words := if fromRight then Text.wordsRight else Text.words
          pure (words (·.passes Text.isBlank) limit cs)
      | v => do
          let separator ← textArgument v
          if separator.isEmpty then Eval.fail .wrongValue
          pure ((if fromRight then Text.splitAtRight else Text.splitAt) separator limit cs)
  | _ => Eval.fail .wrongType

/-- A text padded to a width; the surplus of uneven padding goes to the left if the width is
uneven too. -/
def justified (name : String) (cs : Text) (args : List Val) (keywords : Keywords) :
    Eval Text := do
  let args ← positional args keywords 1 2
  let width ← indexArgument (args.headD .none)
  let fill ← match args[1]? with
    | none => pure (CodePoint.char ' ')
    | some v => do
        match ← textArgument v with
        | [c] => pure c
        | _ => Eval.fail .wrongType
  let missing := (width - cs.length).toNat
  Eval.room missing
  let pad (n : Nat) := List.replicate n fill
  match name with
  | "ljust" => pure (cs ++ pad missing)
  | "rjust" => pure (pad missing ++ cs)
  | _ =>
      let left := missing / 2 + (if missing % 2 = 1 ∧ width % 2 = 1 then 1 else 0)
      pure (pad left ++ cs ++ pad (missing - left))

/-- The three parts around a separator. -/
def partitioned (fromRight : Bool) (cs separator : Text) : List Text :=
  let cut := if fromRight then Text.cutAtLast? separator cs else Text.cutAt? separator cs
  match cut with
  | some (front, rest) => [front, separator, rest]
  | none => if fromRight then [[], [], cs] else [cs, [], []]

/-- A method of texts, except for those that lay out values. -/
def textMethod (e : Engine) (cs : Text) (name : String) (args : List Val) (keywords : Keywords) :
    Eval Val := do
  let answer (cs : Text) : Eval Val := pure (.str cs)
  match textTest? name cs, textChange? name cs with
  | some b, _ => do
      nothing args keywords
      pure (.bool b)
  | none, some changed => do
      nothing args keywords
      answer changed
  | none, none => do
      match name with
      | "strip" => do answer (stripped true true (← stripSet args keywords) cs)
      | "lstrip" => do answer (stripped true false (← stripSet args keywords) cs)
      | "rstrip" => do answer (stripped false true (← stripSet args keywords) cs)
      | "split" => do textList (← splitPieces false cs args keywords)
      | "rsplit" => do textList (← splitPieces true cs args keywords)
      | "join" => do
          let parts ← e.elements (← single args keywords)
          let parts ← parts.mapM textArgument
          answer (cs.intercalate parts)
      | "replace" => do
          let args ← positional args keywords 2 3
          let parts ← (args.take 2).mapM textArgument
          let limit ← indexOr (-1) args[2]?
          match parts with
          | [old, new] => answer (Text.replaced old new (limitOf limit) cs)
          | _ => Eval.fail .wrongType
      | "startswith" | "endswith" => affix textArgument (name == "endswith") cs args keywords
      | "find" | "rfind" | "index" | "rindex" => do
          let args ← positional args keywords 1 3
          let part ← textArgument (args.headD .none)
          let found ← search (name.startsWith "r") cs part args.tail
          searchAnswer (name.endsWith "index") found
      | "count" => do
          let args ← positional args keywords 1 3
          let part ← textArgument (args.headD .none)
          match ← between cs args[1]? args[2]? with
          | none => pure (.int 0)
          | some (_, cs) => pure (.int (Text.occurrences part cs))
      | "zfill" => do
          let width ← indexArgument (← single args keywords)
          Eval.room width.toNat
          answer (zeroFilled width cs)
      | "center" | "ljust" | "rjust" => do answer (← justified name cs args keywords)
      | "partition" | "rpartition" => do
          let separator ← textArgument (← single args keywords)
          if separator.isEmpty then Eval.fail .wrongValue
          pure (.tuple ((partitioned (name == "rpartition") cs separator).map .str))
      | "splitlines" => do
          match ← named args keywords ["keepends"] [] 0 with
          | [keep] => do textList (Text.lines (← flagArgument keep) cs)
          | _ => Eval.fail .wrongType
      | "removeprefix" => do
          let part ← textArgument (← single args keywords)
          answer (if part.isPrefixOf cs then cs.drop part.length else cs)
      | "removesuffix" => do
          let part ← textArgument (← single args keywords)
          answer (if part.isSuffixOf cs then cs.take (cs.length - part.length) else cs)
      | "expandtabs" => do
          match ← named args keywords ["tabsize"] [] 0 with
          | [size] => do
              let size := (← smallInt (← intOr 8 size)).toNat
              Eval.room (size * cs.count (.char '\t'))
              answer (tabsExpanded size 0 cs)
          | _ => Eval.fail .wrongType
      | "encode" => do
          match ← named args keywords ["encoding", "errors"] [] 0 with
          | encoding :: _ => do
              let encoding ← nameArgument (encoding.getD (.str "utf-8"))
              pure (.bytes (← encodeText cs encoding))
          | _ => Eval.fail .wrongType
      | _ => Eval.fail .missingAttribute

/-! ## Bytes -/

/-- The bytes that an argument has to be. -/
def bytesArgument (v : Val) : Eval (List UInt8) :=
  match v with
  | .bytes bs => pure bs
  | _ => Eval.fail .wrongType

/-- A blank of the ASCII range. -/
def isBlankByte (b : UInt8) : Bool := b == 32 || (9 ≤ b && b ≤ 13)

/-- A byte changed as the character that it stands for. -/
def mapByte (f : Char → Char) (b : UInt8) : UInt8 :=
  if b < 128 then (f (Char.ofNat b.toNat)).toNat.toUInt8 else b

/-- A method of strings of bytes. -/
def bytesMethod (e : Engine) (bs : List UInt8) (name : String) (args : List Val)
    (keywords : Keywords) : Eval Val := do
  let strip (left right : Bool) : Eval Val := do
    let p ← match ← positional args keywords 0 1 with
      | [] | [.none] => pure isBlankByte
      | v :: _ => do
          let set ← bytesArgument v
          pure fun b => set.contains b
    let bs := if left then bs.dropWhile p else bs
    pure (.bytes (if right then (bs.reverse.dropWhile p).reverse else bs))
  match name with
  | "decode" => do
      match ← named args keywords ["encoding", "errors"] [] 0 with
      | encoding :: _ => do
          pure (.str (← decodeBytes bs (← nameArgument (encoding.getD (.str "utf-8")))))
      | _ => Eval.fail .wrongType
  | "hex" => do
      nothing args keywords
      pure (.str (Text.ofChars (bs.flatMap fun b => Text.hexFixed 2 b.toNat)))
  | "upper" => do
      nothing args keywords
      pure (.bytes (bs.map (mapByte Char.toUpper)))
  | "lower" => do
      nothing args keywords
      pure (.bytes (bs.map (mapByte Char.toLower)))
  | "strip" => strip true true
  | "lstrip" => strip true false
  | "rstrip" => strip false true
  | "split" => do
      match ← named args keywords ["sep", "maxsplit"] [] 0 with
      | [separator, limit] => do
          let limit := limitOf (← indexOr (-1) limit)
          let pieces ← match separator.getD .none with
            | .none => pure (Text.words isBlankByte limit bs)
            | v => do
                let separator ← bytesArgument v
                if separator.isEmpty then Eval.fail .wrongValue
                pure (Text.splitAt separator limit bs)
          Eval.makeList (pieces.map .bytes)
      | _ => Eval.fail .wrongType
  | "join" => do
      let parts ← e.elements (← single args keywords)
      pure (.bytes (bs.intercalate (← parts.mapM bytesArgument)))
  | "replace" => do
      let args ← positional args keywords 2 3
      let parts ← (args.take 2).mapM bytesArgument
      let limit ← indexOr (-1) args[2]?
      match parts with
      | [old, new] => pure (.bytes (Text.replaced old new (limitOf limit) bs))
      | _ => Eval.fail .wrongType
  | "startswith" | "endswith" => affix bytesArgument (name == "endswith") bs args keywords
  | "find" | "index" => do
      let args ← positional args keywords 1 3
      let part ← bytesArgument (args.headD .none)
      searchAnswer (name == "index") (← search false bs part args.tail)
  | "count" => do
      let part ← bytesArgument (← single args keywords)
      pure (.int (Text.occurrences part bs))
  | _ => Eval.fail .missingAttribute

end BoundSql.Eval
