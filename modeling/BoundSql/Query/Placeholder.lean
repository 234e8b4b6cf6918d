set_option autoImplicit false

/-!
# Placeholders

How the place of a parameter is written in SQL text, and how literal text is guarded where the
writing of placeholders gives the percent sign a meaning.

A style is a function from the number of a parameter to text.  Whether it uses the number decides
whether placeholders can be told apart in the text.  Guarding is needed for one style only, where a
driver reads percent signs: there each of them is doubled in literal text, and nothing else is
changed.
-/

namespace BoundSql.Query

/-- The text of the placeholder at a position. -/
abbrev Placeholder : Type := Int → String

namespace Placeholder

def dollar : Placeholder := fun i => "$" ++ toString i

def qmark : Placeholder := fun _ => "?"

def format : Placeholder := fun _ => "%s"

def numeric : Placeholder := fun i => ":" ++ toString i

/-- The position between two fixed texts. -/
def between (before after : String) : Placeholder := fun i => before ++ toString i ++ after

/-- The named styles, in the order in which a refusal lists them. -/
def styles : List (String × Placeholder) :=
  [("dollar", dollar), ("format", format), ("numeric", numeric), ("qmark", qmark)]

/-- The style of a given name. -/
def ofStyle? (name : String) : Option Placeholder := styles.lookup name

/-- What is said of a name that is no style. -/
def unknownStyleMessage (name : String) : String :=
  "Unsupported paramstyle '" ++ name ++ "'. Expected one of: "
    ++ String.intercalate ", " (styles.map (·.1)) ++ "."

end Placeholder

/-- Literal text with every percent sign doubled. -/
def escapePercentChars (cs : List Char) : List Char :=
  cs.flatMap fun c => if c = '%' then ['%', '%'] else [c]

/-- Literal text with every percent sign doubled. -/
def escapePercent (fragment : String) : String :=
  String.ofList (escapePercentChars fragment.toList)

end BoundSql.Query
