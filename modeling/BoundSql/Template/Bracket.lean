import BoundSql.Template.Error
set_option autoImplicit false

/-!
# Where a bracketed expression ends

Finds the bracket that closes an open one.  String literals and comments of the expression
language are passed over, so that brackets inside them do not count.  Every function here
answers with the text that is left, and that text is always a proper part of what it was given.

The closing brackets that are expected are kept on a stack, so that a bracket of the wrong kind is
found at once, and a failure names the bracket that is to blame or says that a string has no end
(`Reason`).  No token of the language is looked at, only what is needed to pass over strings and
comments; whether the text between is an expression is asked afterwards.
-/

namespace BoundSql.Template

/-! ## String literals -/

/-- The text behind a string literal whose opening delimiter has been read.  A backslash takes
the next character along, and a literal with single delimiters ends at a line feed at the
latest. -/
def skipString (quote : Char) (triple : Bool) : List Char → Option (List Char)
  | [] => none
  | c :: cs =>
      if c = '\\' then
        match cs with
        | [] => none
        | _ :: ds => skipString quote triple ds
      else if c = quote then
        if triple then
          match cs with
          | a :: b :: ds => if a = quote ∧ b = quote then some ds else skipString quote triple cs
          | _ => skipString quote triple cs
        else some cs
      else if c = '\n' ∧ triple = false then none
      else skipString quote triple cs

/-- The text behind a string literal that begins with the quote just read; three quotes in a row
open a literal that ends with three. -/
def afterString (quote : Char) : List Char → Option (List Char)
  | a :: b :: cs =>
      if a = quote ∧ b = quote then skipString quote true cs
      else skipString quote false (a :: b :: cs)
  | cs => skipString quote false cs

/-- The text behind the line feed that ends a comment. -/
def afterComment : List Char → Option (List Char)
  | [] => none
  | c :: cs => if c = '\n' then some cs else afterComment cs

theorem skipString_suffix {quote : Char} {triple : Bool} {cs rest : List Char}
    (h : skipString quote triple cs = some rest) : rest <:+ cs := by
  unfold skipString at h
  split at h
  · cases h
  · rename_i c cs
    split at h
    · split at h
      · cases h
      · rename_i d ds
        exact (skipString_suffix h).trans
          ((List.suffix_cons d ds).trans (List.suffix_cons c (d :: ds)))
    · split at h
      · split at h
        · split at h
          · rename_i a b ds
            split at h
            · obtain rfl : ds = rest := Option.some.inj h
              exact ⟨[c, a, b], rfl⟩
            · exact (skipString_suffix h).trans (List.suffix_cons c (a :: b :: ds))
          · exact (skipString_suffix h).trans (List.suffix_cons c cs)
        · obtain rfl : cs = rest := Option.some.inj h
          exact List.suffix_cons c cs
      · split at h
        · cases h
        · exact (skipString_suffix h).trans (List.suffix_cons c cs)
termination_by cs.length

theorem skipString_length_le {quote : Char} {triple : Bool} {cs rest : List Char}
    (h : skipString quote triple cs = some rest) : rest.length ≤ cs.length :=
  (skipString_suffix h).length_le

theorem afterString_length_le {quote : Char} {cs rest : List Char}
    (h : afterString quote cs = some rest) : rest.length ≤ cs.length := by
  unfold afterString at h
  split at h
  · split at h
    · have := skipString_length_le h
      simp only [List.length_cons]
      omega
    · exact skipString_length_le h
  · exact skipString_length_le h

theorem afterComment_length_lt {cs rest : List Char} (h : afterComment cs = some rest) :
    rest.length < cs.length := by
  induction cs with
  | nil => simp [afterComment] at h
  | cons c cs ih =>
      by_cases hc : c = '\n'
      · simp [afterComment, hc] at h
        simp [h]
      · simp [afterComment, hc] at h
        have := ih h
        simp only [List.length_cons]
        omega

/-! ## Brackets -/

/-- The bracket that closes an opening one. -/
def closer? (c : Char) : Option Char :=
  if c = '(' then some ')' else if c = '[' then some ']' else if c = '\x7b' then some '\x7d'
  else none

/-- A closing bracket. -/
def isCloser (c : Char) : Bool := c == ')' || c == ']' || c == '\x7d'

/-- A character that opens a string literal. -/
def isQuote (c : Char) : Bool := c == '\'' || c == '"'

/-- The text behind the brackets that close `expected`, the innermost first.  `opener` is the
bracket that was opened first and is blamed when the text ends too early. -/
def closeBrackets (opener : Char) (expected : List Char) (cs : List Char) :
    Except Reason (List Char) :=
  match cs with
  | [] => .error (.unbalanced opener)
  | c :: rest =>
      if isQuote c then
        match h : afterString c rest with
        | none => .error .unterminatedString
        | some after =>
            have := afterString_length_le h
            closeBrackets opener expected after
      else
        match closer? c with
        | some d => closeBrackets opener (d :: expected) rest
        | none =>
            if isCloser c then
              match expected with
              | [] => .error (.unbalanced c)
              | [d] => if d = c then .ok rest else .error (.unbalanced c)
              | d :: e :: outer =>
                  if d = c then closeBrackets opener (e :: outer) rest
                  else .error (.unbalanced c)
            else if c = '#' then
              match h : afterComment rest with
              | none => .error (.unbalanced opener)
              | some after =>
                  have := afterComment_length_lt h
                  closeBrackets opener expected after
            else closeBrackets opener expected rest
termination_by cs.length
decreasing_by all_goals simp_wf <;> omega

/-- The text behind the bracket that closes the opening bracket just read. -/
def afterBracket (opener : Char) (cs : List Char) : Except Reason (List Char) :=
  closeBrackets opener (closer? opener).toList cs

theorem closeBrackets_length_lt {opener : Char} {expected cs rest : List Char}
    (h : closeBrackets opener expected cs = .ok rest) : rest.length < cs.length := by
  fun_induction closeBrackets opener expected cs <;> grind

theorem afterBracket_length_lt {opener : Char} {cs rest : List Char}
    (h : afterBracket opener cs = .ok rest) : rest.length < cs.length :=
  closeBrackets_length_lt h

end BoundSql.Template
