import BoundSql.Text.Quoted
set_option autoImplicit false

/-!
# Refusals of template text

Everything that can be wrong with a template before any value is bound: the causes, their
wording, and the details that a caller can read off (the template, an offset into it, and the
text from that offset on).

A scan can also fail although nothing is wrong with the text.  Whoever reads the expressions in it
may run out of stack or of memory, and then nobody can say whether they are expressions at all.
Such a failure is kept apart from the refusals: it has a kind, but no details.
-/

namespace BoundSql.Template

/-- Why no expression follows a marker. -/
inductive Reason where
  /-- the text ends behind the marker -/
  | missing
  /-- nothing stands between the parentheses -/
  | empty
  /-- a bracket is closed that is not the innermost open one, or an open one is never closed -/
  | unbalanced (bracket : Char)
  /-- a string literal of the expression has no end -/
  | unterminatedString
  /-- the character behind the marker begins no expression -/
  | unexpected (c : Char)
  /-- the extracted text is no expression -/
  | invalid (source : String)
  deriving DecidableEq, Repr, Inhabited

/-- A single character as it is shown in a refusal. -/
def shownChar (c : Char) : String := String.ofList (Text.quotedChars [c])

/-- The wording of a reason.  What the reader of expressions has to say about an invalid one is
left out. -/
def Reason.text : Reason → String
  | missing => "expected an expression after the marker"
  | empty => "empty expression"
  | unbalanced c => "unbalanced " ++ shownChar c
  | unterminatedString => "unterminated string literal"
  | unexpected c => "unexpected " ++ shownChar c ++ " after the marker"
  | invalid source => "invalid expression `" ++ source ++ "` (...)"

/-- What a caller can read off a refusal. -/
structure Details where
  template : String
  position : Option Int := none
  subexpression : Option String := none
  deriving DecidableEq, Repr, Inhabited

/-- The text from an offset on; offset `-1` stands for the last character. -/
def textFrom (cs : List Char) (position : Int) : List Char :=
  if position < 0 then cs.drop (cs.length - position.natAbs) else cs.drop position.toNat

/-- A template that was refused. -/
inductive TemplateError where
  /-- a marker inside an SQL string, which the settings do not allow -/
  | quotedMarker (template : String) (position : Int)
  /-- a marker that no expression follows -/
  | malformed (template : String) (position : Int) (reason : Reason)
  /-- a part next to a quote of its neighbour, in a list of parts -/
  | quotedPart (template : String) (position : Nat) (subexpression : String)
  /-- a value that is no template -/
  | unsupported (shown : String)
  deriving DecidableEq, Repr, Inhabited

namespace TemplateError

/-- The name of the kind of refusal. -/
def kind : TemplateError → String
  | quotedMarker .. => "QuotingViolationError"
  | malformed .. => "MalformedExpressionError"
  | quotedPart .. => "QuotingViolationError"
  | unsupported .. => "UnsupportedConstructError"

/-- The details of a refusal. -/
def details : TemplateError → Details
  | quotedMarker template position =>
      ⟨template, some position, some (String.ofList (textFrom template.toList position))⟩
  | malformed template position _ =>
      ⟨template, some position, some (String.ofList (textFrom template.toList position))⟩
  | quotedPart template position subexpression =>
      ⟨template, some (position : Int), some subexpression⟩
  | unsupported shown => ⟨shown, none, none⟩

/-- The wording of a refusal. -/
def message : TemplateError → String
  | quotedMarker template position =>
      "Interpolated arguments should not be quoted, but found quoting in sql`" ++ template
        ++ "` subexpression starting at `"
        ++ String.ofList (textFrom template.toList position) ++ "`"
  | malformed template position reason =>
      "Malformed interpolation in sql`" ++ template ++ "` at offset " ++ toString position ++ ": "
        ++ reason.text
  | quotedPart _ _ subexpression =>
      "Interpolated arguments should not be quoted, but found quoting in subexpression "
        ++ subexpression
  | unsupported shown => "Unexpected value passed to sql: " ++ shown

end TemplateError

/-! ## Failures of a scan -/

/-- What the reader of expressions can run out of. -/
inductive Exhaustion where
  | stack
  | memory
  deriving DecidableEq, Repr, Inhabited

/-- The name of the kind of failure that running out is. -/
def Exhaustion.kind : Exhaustion → String
  | stack => "RecursionError"
  | memory => "MemoryError"

/-- Why template text was not scanned. -/
inductive ScanFailure where
  | refused (e : TemplateError)
  | exhausted (e : Exhaustion)
  deriving DecidableEq, Repr, Inhabited

namespace ScanFailure

/-- The name of the kind of failure. -/
def kind : ScanFailure → String
  | refused e => e.kind
  | exhausted e => e.kind

/-- The details of a failure: those of a refusal. -/
def details? : ScanFailure → Option Details
  | refused e => some e.details
  | exhausted _ => none

end ScanFailure

theorem textFrom_ofNat (cs : List Char) (n : Nat) : textFrom cs (n : Int) = cs.drop n := by
  have h : ¬((n : Int) < 0) := by omega
  simp [textFrom, h]

end BoundSql.Template
