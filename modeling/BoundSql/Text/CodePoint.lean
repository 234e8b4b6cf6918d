set_option autoImplicit false

/-!
# Texts of code points

A text of the expression language is a row of code points.  Most code points are characters; the
others are the halves of surrogate pairs, which may stand in a text by themselves although they
are no characters.

Values hold texts of this kind, while templates and SQL text are strings of characters.  Going from
a string to a text loses nothing (`chars_ofChars`); the other way exists for texts without halves of
pairs only (`string?`), and where a half has to be shown, it is shown by its number.
-/

namespace BoundSql

namespace Text

/-- A code point. -/
inductive CodePoint where
  | char (c : Char)
  /-- the half of a surrogate pair, counted from the first one on -/
  | surrogate (n : Fin 0x800)
  deriving DecidableEq, Repr, Inhabited

end Text

/-- A text of the expression language. -/
abbrev Text : Type := List Text.CodePoint

namespace Text

/-- The first half of a surrogate pair. -/
def firstSurrogate : Nat := 0xD800

namespace CodePoint

/-- The number of a code point. -/
def code : CodePoint → Nat
  | char c => c.toNat
  | surrogate n => firstSurrogate + n

/-- The code point of a number. -/
def ofNat? (n : Nat) : Option CodePoint :=
  if firstSurrogate ≤ n ∧ n < firstSurrogate + 0x800 then
    some (surrogate (Fin.ofNat 0x800 (n - firstSurrogate)))
  else if n < 0x110000 then some (char (Char.ofNat n))
  else none

/-- The character that a code point is. -/
def char? : CodePoint → Option Char
  | char c => some c
  | surrogate _ => none

/-- Whether a code point is a character that passes a test. -/
def passes (p : Char → Bool) : CodePoint → Bool
  | char c => p c
  | surrogate _ => false

instance : Coe Char CodePoint := ⟨char⟩

theorem code_of_ofNat? {n : Nat} {c : CodePoint} (h : ofNat? n = some c) : c.code = n := by
  unfold ofNat? at h
  split at h
  · rename_i hn
    obtain ⟨h₁, h₂⟩ := hn
    obtain rfl := Option.some.inj h
    have : n - firstSurrogate < 0x800 := by omega
    simp only [code, Fin.ofNat, Nat.mod_eq_of_lt this]
    omega
  · rename_i hn
    split at h
    · rename_i hm
      obtain rfl := Option.some.inj h
      have hv : n.isValidChar := by
        simp only [firstSurrogate] at hn
        unfold Nat.isValidChar
        omega
      rw [code, Char.ofNat, dif_pos hv]
      rfl
    · simp at h

end CodePoint

/-- The text that characters make. -/
def ofChars (cs : List Char) : Text := cs.map .char

/-- The text that a string holds. -/
def ofString (s : String) : Text := ofChars s.toList

instance : Coe (List Char) Text := ⟨ofChars⟩

instance : Coe String Text := ⟨ofString⟩

/-- The characters of a text. -/
def chars (t : Text) : List Char := t.filterMap CodePoint.char?

/-- A text as a string, if all of its code points are characters. -/
def string? (t : Text) : Option String := (t.mapM CodePoint.char?).map String.ofList

/-- A text as a string, with the replacement character for what is no character. -/
def plain (t : Text) : String := String.ofList (t.map fun c => c.char?.getD '\ufffd')

/-- A text with a mapping of characters applied to each run of characters in it; the run that the
text begins with may have a mapping of its own. -/
def mapRuns (first others : List Char → List Char) (t : Text) : Text := go first [] t
where
  /-- The characters of the run so far stand in reverse. -/
  go (f : List Char → List Char) (run : List Char) : Text → Text
    | [] => ofChars (f run.reverse)
    | .char c :: t => go f (c :: run) t
    | .surrogate n :: t => ofChars (f run.reverse) ++ .surrogate n :: go others [] t

@[simp] theorem chars_ofChars (cs : List Char) : chars (ofChars cs) = cs := by
  induction cs with
  | nil => rfl
  | cons c cs ih => simpa [chars, ofChars, CodePoint.char?] using ih

@[simp] theorem plain_ofString (s : String) : plain (ofString s) = s := by
  have h : (ofChars s.toList).map (fun c => c.char?.getD '\ufffd') = s.toList := by
    generalize s.toList = cs
    induction cs with
    | nil => rfl
    | cons c cs ih => simpa [ofChars, CodePoint.char?] using ih
  simp [plain, ofString, h]

end Text

end BoundSql
