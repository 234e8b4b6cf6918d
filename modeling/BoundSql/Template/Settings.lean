import BoundSql.Text.Blank
set_option autoImplicit false

/-!
# Settings of a template

Which character marks an interpolation, which one takes that meaning away, and whether a marker
inside an SQL string is left as text or refused.  The two characters differ, and neither is the
single quote, which belongs to SQL strings; the type keeps both facts.

Settings come from a caller, from the environment of a program, or are the standard ones, and texts
from outside are checked in the same way each time (`ofTexts`, `ofEnvironment`).  Every refusal says
which setting is wrong.  So there are no templates with settings that a scanner would have to be
afraid of.
-/

namespace BoundSql.Template

/-- How template text is read. -/
structure Settings where
  /-- Leave a marker inside an SQL string as text; otherwise such a marker is refused. -/
  allowMarkersInStrings : Bool := true
  marker : Char := '$'
  escape : Char := '\\'
  marker_ne_escape : marker ≠ escape := by decide
  marker_ne_quote : marker ≠ '\'' := by decide
  escape_ne_quote : escape ≠ '\'' := by decide
  deriving DecidableEq, Repr

instance : Inhabited Settings := ⟨{}⟩

/-- Why settings were refused. -/
inductive SettingsError where
  /-- the marker or the escape is not exactly one character -/
  | notSingle
  /-- the marker and the escape are the same character -/
  | sameCharacter
  /-- the marker or the escape is the single quote -/
  | reservedQuote
  /-- a switch has a text that is no boolean -/
  | notBoolean (value : String)
  deriving DecidableEq, Repr, Inhabited

/-- The text of the refusal. -/
def SettingsError.message : SettingsError → String
  | notSingle => "marker and escape must each be a single character."
  | sameCharacter => "marker and escape must differ."
  | reservedQuote => "The single quote is reserved for SQL string literals."
  | notBoolean value => "Expected a boolean value, got '" ++ value ++ "'."

namespace Settings

/-- Settings from texts for the two characters.  The checks come in the order length, equality,
quote, so that the first one that fails is reported. -/
def ofTexts (allowMarkersInStrings : Bool) (marker escape : String) :
    Except SettingsError Settings :=
  match marker.toList, escape.toList with
  | [m], [e] =>
      if h₁ : m = e then .error .sameCharacter
      else if h₂ : m = '\'' then .error .reservedQuote
      else if h₃ : e = '\'' then .error .reservedQuote
      else .ok ⟨allowMarkersInStrings, m, e, h₁, h₂, h₃⟩
  | _, _ => .error .notSingle

/-- Texts that turn a switch on. -/
def trueTexts : List String := ["1", "true", "yes", "on"]

/-- Texts that turn a switch off. -/
def falseTexts : List String := ["0", "false", "no", "off"]

/-- Reads a switch: blanks around it and the case of its letters do not count, and a missing or
blank text stands for the default. -/
def switch (default : Bool) : Option String → Except SettingsError Bool
  | none => .ok default
  | some value =>
      match Text.trim value.toList with
      | [] => .ok default
      | cs =>
          let word := (String.ofList cs).toLower
          if trueTexts.contains word then .ok true
          else if falseTexts.contains word then .ok false
          else .error (.notBoolean value)

/-- The text of a variable, or the default if the variable is missing or empty. -/
def textOr (default : String) : Option String → String
  | none => default
  | some value => if value.isEmpty then default else value

/-- Settings from the variables of an environment; the switch is read first. -/
def ofEnvironment (lookup : String → Option String) : Except SettingsError Settings := do
  let allow ← switch true (lookup "SQLSTRINGS_ALLOW_MARKERS_IN_STRINGS")
  ofTexts allow (textOr "$" (lookup "SQLSTRINGS_MARKER"))
    (textOr "\\" (lookup "SQLSTRINGS_ESCAPE"))

theorem switch_none (default : Bool) : switch default none = .ok default := rfl

end Settings

end BoundSql.Template
