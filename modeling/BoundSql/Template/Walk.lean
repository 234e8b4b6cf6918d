import BoundSql.Template.Scan
set_option autoImplicit false

/-!
# Walking over text

Scanning once more, with an offset into the text in the place of the text that is left.  All of it
is loops that look at a character and move an offset on, and nothing about them is taken for
granted.  A loop that does not end comes to nothing at all, and looking at an offset where the text
has no character is a fault of its own, which nothing catches.

The loops follow the shape in which a scanner with an index is usually written: a round looks at the
character at the offset and says how to go on, or what the loop comes to (`Round`).  `loop` is the
only recursion, and it is defined without a reason why it should end.  That all of these loops end,
and that they come to what the functions on texts come to, is a theorem about them and no part of
their definition.
-/

namespace BoundSql.Template

/-! ## Walks and loops -/

/-- Why a walk stops without an answer. -/
inductive Stop where
  /-- there is no character at an offset that was looked at -/
  | outside (i : Nat)
  | failed (f : ScanFailure)
  deriving DecidableEq, Repr, Inhabited

/-- A walk over a text: an answer or a stop, and nothing at all if a loop does not end. -/
abbrev Walk (α : Type) : Type := ExceptT Stop Option α

/-- What one round of a loop comes to. -/
inductive Round (σ α : Type) where
  | again (s : σ)
  | done (a : α)
  deriving DecidableEq, Repr, Inhabited

namespace Walk

section Loops

variable {σ α : Type} (round : σ → Walk (Round σ α))

/-- Goes round and round until the loop is over. -/
def loop (s : σ) : Walk α :=
  round s >>= fun
    -- The call is made by a tactic, so that the term does not keep its place in the file.
    | .again s' => by apply loop; exact s'
    | .done a => pure a
partial_fixpoint

end Loops

section Text

variable (text : String)

/-- The character at an offset. -/
def charAt (i : Nat) : Walk Char :=
  match text.toList[i]? with
  | some c => pure c
  | none => throw (.outside i)

/-- Whether the text goes on with these characters at an offset. -/
def goesOn (i : Nat) (cs : List Char) : Bool := cs.isPrefixOf (text.toList.drop i)

/-- The first offset from `i` on at which a character stands. -/
def find (i : Nat) (c : Char) : Option Nat := ((text.toList.drop i).idxOf? c).map (i + ·)

/-- The text from one offset up to another one. -/
def between (start stop : Nat) : List Char := (text.toList.drop start).take (stop - start)

variable (marker : Int)

/-- Refuses the expression behind the marker at an offset. -/
def refuse {α : Type} (reason : Reason) : Walk α :=
  throw (.failed (.refused (.malformed text marker reason)))

/-! ## String literals and brackets -/

/-- A round of the search for the end of a string literal; its delimiters are so many quotes.  A
backslash takes the next offset along, whether or not a character stands there. -/
def stringRound (quote : Char) (width i : Nat) : Walk (Round Nat Nat) :=
  if i < text.length then do
    let c ← charAt text i
    if c = '\\' then pure (.again (i + 2))
    else if goesOn text i (.replicate width quote) then pure (.done (i + width))
    else if c = '\n' ∧ width = 1 then refuse text marker .unterminatedString
    else pure (.again (i + 1))
  else refuse text marker .unterminatedString

/-- The offset behind the string literal that begins at `start`. -/
def stringEnd (start : Nat) : Walk Nat := do
  let quote ← charAt text start
  let width := if goesOn text start (.replicate 3 quote) then 3 else 1
  loop (stringRound text marker quote width) (start + width)

/-- Refuses the bracket at `start`, which is never closed. -/
def unclosed {α : Type} (start : Nat) : Walk α := do
  refuse text marker (.unbalanced (← charAt text start))

/-- A round at a closing bracket, which has to be the one that is expected first. -/
def closerRound (c : Char) (i : Nat) : List Char → Walk (Round (Nat × List Char) Nat)
  | [] => refuse text marker (.unbalanced c)
  | d :: outer =>
      if d ≠ c then refuse text marker (.unbalanced c)
      else if outer.isEmpty then pure (.done (i + 1))
      else pure (.again (i + 1, outer))

/-- A round at a comment, which goes on behind the line feed that ends it. -/
def commentRound (start i : Nat) (expected : List Char) : Walk (Round (Nat × List Char) Nat) :=
  match find text i '\n' with
  | some lineEnd => pure (.again (lineEnd + 1, expected))
  | none => unclosed text marker start

/-- A round of the search for the bracket that closes the one at `start`: an offset, and the closing
brackets that are expected there, the innermost first. -/
def bracketRound (start : Nat) : Nat × List Char → Walk (Round (Nat × List Char) Nat)
  | (i, expected) =>
      if i < text.length then do
        let c ← charAt text i
        if isQuote c then pure (.again (← stringEnd text marker i, expected))
        else
          match closer? c with
          | some d => pure (.again (i + 1, d :: expected))
          | none =>
              if isCloser c then closerRound text marker c i expected
              else if c = '#' then commentRound text marker start i expected
              else pure (.again (i + 1, expected))
      else unclosed text marker start

/-- The offset behind the bracket that closes the one at `start`. -/
def bracketEnd (start : Nat) : Walk Nat := loop (bracketRound text marker start) (start, [])

/-! ## Access paths -/

/-- A round of the search for the end of a name. -/
def nameRound (i : Nat) : Walk (Round Nat Nat) :=
  if i < text.length then do
    let c ← charAt text i
    if isNameChar c then pure (.again (i + 1)) else pure (.done i)
  else pure (.done i)

/-- The offset behind the name that begins at `start`. -/
def nameEnd (start : Nat) : Walk Nat := loop (nameRound text) start

/-- A round at a dot, which is text if no name follows it. -/
def attributeRound (i : Nat) : Walk (Round Nat Nat) :=
  if i + 1 < text.length then do
    let d ← charAt text (i + 1)
    if isNameStart d then pure (.again (← nameEnd text (i + 1))) else pure (.done i)
  else pure (.done i)

/-- A round of the search for the end of the accesses behind a name. -/
def accessRound (i : Nat) : Walk (Round Nat Nat) :=
  if i < text.length then do
    let c ← charAt text i
    if c = '.' then attributeRound text i
    else if c = '[' then pure (.again (← bracketEnd text marker i))
    else pure (.done i)
  else pure (.done i)

/-- The offset behind the name with accesses that begins at `start`. -/
def pathEnd (start : Nat) : Walk Nat := do
  loop (accessRound text marker) (← nameEnd text start)

end Text

/-! ## Sites -/

section Sites

variable {Code : Type} (compile : List Char → Verdict Code) (text : String)

/-- The site that was made for the marker at an offset, if one was. -/
def made (marker : Int) : Except Unread (Site Code) → Walk (Site Code)
  | .error why => throw (.failed (why.failure text marker))
  | .ok site => pure site

/-- The site that begins at an offset, and the offset behind it. -/
def siteFrom (start : Nat) : Walk (Site Code × Nat) :=
  let marker : Int := (start : Int) - 1
  if start < text.length then do
    let c ← charAt text start
    if c = '(' then do
      let stop ← bracketEnd text marker start
      let inner := between text (start + 1) (stop - 1)
      pure (← made text marker (Site.ofInner compile inner), stop)
    else if isNameStart c then do
      let stop ← pathEnd text marker start
      let source := between text start stop
      pure (← made text marker (Site.make compile source source false), stop)
    else refuse text marker (.unexpected c)
  else refuse text marker .missing

end Sites

end Walk

/-! ## Templates -/

/-- How far a scan has come: the offset, the literal text that is being collected and is no part
yet, by its first offset and the one behind it, whether the text at the offset is inside an SQL
string and behind an escape, and the parts in front. -/
structure Cursor (Code : Type) where
  offset : Nat := 0
  literalStart : Nat := 0
  literalEnd : Nat := 0
  inString : Bool := false
  behindEscape : Bool := false
  parts : List (Part Code) := []
  deriving DecidableEq, Repr, Inhabited

namespace Walk

variable {Code : Type} (settings : Settings) (compile : List Char → Verdict Code) (text : String)

/-- Parts with literal text behind them; no text is no part. -/
def flush (parts : List (Part Code)) (start stop : Nat) : List (Part Code) :=
  if start < stop then parts ++ [.literal (String.ofList (between text start stop))] else parts

/-- A round of the scan. -/
def scanRound (s : Cursor Code) : Walk (Round (Cursor Code) (List (Part Code))) :=
  if s.offset < text.length then do
    let c ← charAt text s.offset
    let behindEscape := c == settings.escape
    if c = settings.marker ∧ s.inString = true ∧ settings.allowMarkersInStrings = false then
      throw (.failed (.refused (.quotedMarker text s.offset)))
    else if c = settings.marker ∧ s.inString = false then
      if s.behindEscape then
        let parts := flush text s.parts s.literalStart (s.literalEnd - 1)
        let literalEnd := s.offset + 1
        pure (.again
          { s with
            offset := literalEnd, literalStart := s.offset, literalEnd, behindEscape, parts })
      else do
        let parts := flush text s.parts s.literalStart s.literalEnd
        let (site, stop) ← siteFrom compile text (s.offset + 1)
        pure (.again
          { s with
            offset := stop, literalStart := stop, literalEnd := stop, behindEscape
            parts := parts ++ [.site site] })
    else
      let inString := if c = '\'' then !s.inString else s.inString
      let literalEnd := s.offset + 1
      pure (.again { s with offset := literalEnd, literalEnd, inString, behindEscape })
  else pure (.done (flush text s.parts s.literalStart s.literalEnd))

/-- The parts of a template text. -/
def scan : Walk (List (Part Code)) := loop (scanRound settings compile text) {}

end Walk

end BoundSql.Template
