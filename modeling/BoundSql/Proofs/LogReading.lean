import BoundSql.Proofs.Numerals
set_option autoImplicit false

/-!
# Log lines read as JSON

A reader of JSON texts, with all that JSON allows: blanks between the parts, all escapes, numbers
with fractions and exponents.  It reads back what the text of a tree says, if all numbers of the
tree are numerals; a tree with a number that is none has no JSON text.

The reader is written without regard to how log lines are written, so that reading a line back says
something about the line.  Three parts of it are gone through one after the other: numerals
(`numeral?_append`), strings (`string?_text`) and trees (`value?_text`), each of them with some text
behind it, since a reader has to find the end of what it reads.  Where a number is followed by text
that could go on with it, that text is a comma or a closing bracket (`Closes`).

Characters beyond the sixteen bits of a unit are written as two units, and two halves of a pair are
read as one character, even if they stood in the text as two code points.  `joined` is what becomes
of a text by that, and `paired` what becomes of a tree.

A line is one line and can be sent anywhere, since all of its characters are printable ASCII
(`printable_text`).
-/

namespace BoundSql.Observe

open BoundSql.Text (CodePoint)

/-! ## Numerals -/

/-- What stands behind a run of digits. -/
def afterDigits : List Char → Option (List Char)
  | [] => none
  | c :: cs => if c.isDigit then some (cs.dropWhile Char.isDigit) else none

/-- What stands behind the whole part of a numeral. -/
def afterWhole : List Char → Option (List Char)
  | '0' :: cs => some cs
  | cs => afterDigits cs

/-- What stands behind the fraction of a numeral, if there is one. -/
def afterFraction : List Char → Option (List Char)
  | '.' :: cs => afterDigits cs
  | cs => some cs

/-- What stands behind the sign of an exponent, if there is one. -/
def afterSign : List Char → List Char
  | '+' :: cs => cs
  | '-' :: cs => cs
  | cs => cs

/-- What stands behind the exponent of a numeral, if there is one. -/
def afterExponent : List Char → Option (List Char)
  | 'e' :: cs => afterDigits (afterSign cs)
  | 'E' :: cs => afterDigits (afterSign cs)
  | cs => some cs

/-- What stands behind a numeral without a sign. -/
def afterUnsigned (cs : List Char) : Option (List Char) := do
  let cs ← afterWhole cs
  let cs ← afterFraction cs
  afterExponent cs

/-- What stands behind a numeral. -/
def afterNumeral : List Char → Option (List Char)
  | '-' :: cs => afterUnsigned cs
  | cs => afterUnsigned cs

/-- The numeral at the begin of a text, and what stands behind it. -/
def numeral? (cs : List Char) : Option (List Char × List Char) :=
  (afterNumeral cs).map fun rest => (cs.take (cs.length - rest.length), rest)

/-- What stands behind a value ends it: there is nothing, a comma, or a closing bracket. -/
def Closes (rest : List Char) : Prop :=
  ∀ c, rest.head? = some c → c = ',' ∨ c = ']' ∨ c = '\x7d'

/-- A text does not begin with a digit. -/
def NoDigit (rest : List Char) : Prop := ∀ c, rest.head? = some c → c.isDigit = false

theorem Closes.noDigit {rest : List Char} (h : Closes rest) : NoDigit rest := by
  intro c hc
  rcases h c hc with rfl | rfl | rfl <;> rfl

theorem afterDigits_append {ds rest : List Char} (h : IsDigits ds) (hrest : NoDigit rest) :
    afterDigits (ds ++ rest) = some rest := by
  obtain ⟨d, ds, rfl⟩ := List.exists_cons_of_ne_nil h.ne_nil
  obtain ⟨hd, hds⟩ := List.forall_mem_cons.mp h.digits
  rw [List.cons_append, afterDigits, if_pos hd, List.dropWhile_append_of_pos hds]
  cases rest with
  | nil => rfl
  | cons c rest =>
      rw [List.dropWhile_cons_of_neg (by rw [hrest c rfl]; exact Bool.false_ne_true)]

theorem afterWhole_append {whole rest : List Char} (h : IsWhole whole) (hrest : NoDigit rest) :
    afterWhole (whole ++ rest) = some rest := by
  cases h with
  | zero => rfl
  | @digits d ds nonzero digits =>
      rw [← afterDigits_append digits hrest, List.cons_append, afterWhole]
      intro cs hcs
      exact nonzero (List.cons.inj hcs).1

theorem IsExponent.head_cases {exponent : List Char} (h : IsExponent exponent)
    {rest : List Char} (closes : Closes rest) :
    ∀ c, (exponent ++ rest).head? = some c → c = 'e' ∨ c = ',' ∨ c = ']' ∨ c = '\x7d' := by
  intro c hc
  cases h with
  | absent => exact .inr (closes c hc)
  | present => exact .inl (Option.some.inj hc).symm

theorem afterExponent_append {exponent rest : List Char} (h : IsExponent exponent)
    (closes : Closes rest) : afterExponent (exponent ++ rest) = some rest := by
  cases h with
  | absent =>
      cases rest with
      | nil => rfl
      | cons c rest =>
          have hc := closes c rfl
          rcases hc with rfl | rfl | rfl <;> rfl
  | @present sign ds isSign digits =>
      have hdigits := afterDigits_append digits closes.noDigit
      rcases isSign with rfl | rfl <;> exact hdigits

theorem afterFraction_append {fraction exponent rest : List Char} (h : IsFraction fraction)
    (hexponent : IsExponent exponent) (closes : Closes rest) :
    afterFraction (fraction ++ (exponent ++ rest)) = some (exponent ++ rest) := by
  have hhead := hexponent.head_cases closes
  generalize exponent ++ rest = cs at hhead
  cases h with
  | absent =>
      cases cs with
      | nil => rfl
      | cons c cs =>
          rcases hhead c rfl with rfl | rfl | rfl | rfl <;> rfl
  | @present ds digits =>
      refine afterDigits_append digits fun c hc => ?_
      rcases hhead c hc with rfl | rfl | rfl | rfl <;> rfl

theorem afterUnsigned_append {s rest : List Char} (h : IsUnsigned s) (closes : Closes rest) :
    afterUnsigned (s ++ rest) = some rest := by
  cases h with
  | @parts whole fraction exponent isWhole isFraction isExponent =>
      have hbehind : NoDigit (fraction ++ (exponent ++ rest)) := by
        intro c hc
        cases isFraction with
        | absent =>
            rcases isExponent.head_cases closes c hc with rfl | rfl | rfl | rfl <;> rfl
        | present =>
            obtain rfl := Option.some.inj hc
            rfl
      rw [List.append_assoc, List.append_assoc, afterUnsigned,
        afterWhole_append isWhole hbehind]
      have hfraction := afterFraction_append isFraction isExponent closes
      exact (congrArg (· >>= afterExponent) hfraction).trans
        (afterExponent_append isExponent closes)

/-- A numeral begins with a digit or a minus. -/
theorem IsUnsigned.exists_cons {s : List Char} (h : IsUnsigned s) :
    ∃ c cs, s = c :: cs ∧ c.isDigit = true := by
  cases h with
  | parts isWhole isFraction isExponent =>
      cases isWhole with
      | zero => exact ⟨_, _, rfl, rfl⟩
      | digits nonzero digits => exact ⟨_, _, rfl, digits.digits _ List.mem_cons_self⟩

theorem IsNumeral.exists_cons {s : List Char} (h : IsNumeral s) :
    ∃ c cs, s = c :: cs ∧ (c.isDigit = true ∨ c = '-') := by
  cases h with
  | positive unsigned =>
      obtain ⟨c, cs, hs, hc⟩ := unsigned.exists_cons
      exact ⟨c, cs, hs, .inl hc⟩
  | negative unsigned => exact ⟨_, _, rfl, .inr rfl⟩

theorem numeral?_append {s rest : List Char} (h : IsNumeral s) (closes : Closes rest) :
    numeral? (s ++ rest) = some (s, rest) := by
  have hafter : afterNumeral (s ++ rest) = some rest := by
    cases h with
    | positive unsigned =>
        have hrest := afterUnsigned_append unsigned closes
        obtain ⟨c, cs, rfl, hc⟩ := unsigned.exists_cons
        rw [← hrest, List.cons_append, afterNumeral]
        rintro cs' heq
        obtain rfl := (List.cons.inj heq).1
        cases hc
    | negative unsigned => exact afterUnsigned_append unsigned closes
  rw [numeral?, hafter, Option.map_some, List.length_append, Nat.add_sub_cancel_right,
    List.take_left]

/-- The words for floating point numbers that are not finite. -/
inductive IsWord : List Char → Prop where
  | notANumber : IsWord notANumberText.toList
  | infinite : IsWord "Infinity".toList
  | negativeInfinite : IsWord "-Infinity".toList

theorem IsWord.exists_cons {s : List Char} (h : IsWord s) :
    ∃ c cs, s = c :: cs ∧ (c = 'N' ∨ c = 'I' ∨ c = '-') := by
  cases h with
  | notANumber => exact ⟨'N', "aN".toList, by decide, .inl rfl⟩
  | infinite => exact ⟨'I', "nfinity".toList, by decide, .inr (.inl rfl)⟩
  | negativeInfinite => exact ⟨'-', "Infinity".toList, by decide, .inr (.inr rfl)⟩

/-- The words are no numerals, whatever stands behind them. -/
theorem numeral?_word {s : List Char} (h : IsWord s) (rest : List Char) :
    numeral? (s ++ rest) = none := by
  cases h with
  | notANumber =>
      have htext : notANumberText.toList = ['N', 'a', 'N'] := by decide
      rw [htext]
      rfl
  | infinite =>
      have htext : "Infinity".toList = 'I' :: "nfinity".toList := by decide
      rw [htext]
      rfl
  | negativeInfinite =>
      have htext : "-Infinity".toList = '-' :: 'I' :: "nfinity".toList := by decide
      rw [htext]
      rfl

theorem IsWord.not_isNumeral {s : List Char} (h : IsWord s) : ¬IsNumeral s := by
  intro hnumeral
  have hnone := numeral?_word h []
  rw [numeral?_append hnumeral (by simp [Closes])] at hnone
  cases hnone

/-- The texts that numbers have in a log. -/
def IsWritten (s : List Char) : Prop := IsNumeral s ∨ IsWord s

/-! ## Strings -/

/-- The code point of a unit of sixteen bits that is given by four hexadecimal digits. -/
def unit? (ds : List Char) : Option CodePoint :=
  if ds.all (Text.isDigitOf 16) then CodePoint.ofNat? (Text.digitsValue 16 ds) else none

/-- The character that a letter behind a backslash stands for. -/
def escaped? (c : Char) : Option Char :=
  [('"', '"'), ('\\', '\\'), ('/', '/'), ('b', '\x08'), ('f', '\x0c'), ('n', '\n'), ('r', '\r'),
    ('t', '\t')].lookup c

/-- The units up to the quote that closes a string, and what stands behind it. -/
def units? : List Char → Option (Text × List Char)
  | '"' :: rest => some ([], rest)
  | '\\' :: 'u' :: a :: b :: c :: d :: rest => do
      let p ← unit? [a, b, c, d]
      let r ← units? rest
      some (p :: r.1, r.2)
  | '\\' :: e :: rest => do
      let c ← escaped? e
      let r ← units? rest
      some (.char c :: r.1, r.2)
  | c :: rest =>
      if c = '\\' ∨ c.toNat < 0x20 then none else (units? rest).map fun r => (.char c :: r.1, r.2)
  | [] => none

/-- Two halves of a pair that follow each other are one character. -/
def joined : Text → Text
  | .surrogate a :: .surrogate b :: rest =>
      if a.val < 0x400 ∧ 0x400 ≤ b.val then
        .char (Char.ofNat (0x10000 + a.val * 0x400 + (b.val - 0x400))) :: joined rest
      else .surrogate a :: joined (.surrogate b :: rest)
  | p :: rest => p :: joined rest
  | [] => []

/-- The string up to the quote that closes it, and what stands behind it. -/
def string? (cs : List Char) : Option (Text × List Char) :=
  (units? cs).map fun r => (joined r.1, r.2)

/-- The units that a code point is written as. -/
def unitsOf : CodePoint → Text
  | .char c =>
      if c.toNat < 0x10000 then [.char c]
      else
        let m := c.toNat - 0x10000
        [0xD800 + m / 0x400, 0xDC00 + m % 0x400].filterMap CodePoint.ofNat?
  | .surrogate n => [.surrogate n]

theorem digitValue?_hexDigit {n : Nat} (h : n < 16) :
    Text.digitValue? (Text.hexDigit n) = some n := by
  have hall : ∀ n < 16, Text.digitValue? (Text.hexDigit n) = some n := by decide
  exact hall n h

theorem hexFixed_four (n : Nat) :
    Text.hexFixed 4 n = [Text.hexDigit (n / 16 / 16 / 16 % 16), Text.hexDigit (n / 16 / 16 % 16),
      Text.hexDigit (n / 16 % 16), Text.hexDigit (n % 16)] := rfl

theorem unit?_hexFixed {n : Nat} (h : n < 0x10000) :
    unit? (Text.hexFixed 4 n) = CodePoint.ofNat? n := by
  have hdigit : ∀ m, Text.digitValue? (Text.hexDigit (m % 16)) = some (m % 16) :=
    fun m => digitValue?_hexDigit (Nat.mod_lt m (by decide))
  have hall : (Text.hexFixed 4 n).all (Text.isDigitOf 16) = true := by
    have hbound : ∀ m, m % 16 < 16 := fun m => Nat.mod_lt m (by decide)
    rw [hexFixed_four]
    simp only [List.all_cons, List.all_nil, Text.isDigitOf, hdigit, hbound, decide_true,
      Bool.and_true]
  have hvalue : Text.digitsValue 16 (Text.hexFixed 4 n) = n := by
    rw [hexFixed_four]
    simp only [Text.digitsValue, List.foldl_cons, List.foldl_nil, hdigit, Option.getD_some]
    omega
  rw [unit?, if_pos hall, hvalue]

theorem units?_unitEscape {n : Nat} (h : n < 0x10000) (rest : List Char) :
    units? (unitEscape n ++ rest) = (do
      let p ← CodePoint.ofNat? n
      let r ← units? rest
      some (p :: r.1, r.2)) := by
  have hunit := unit?_hexFixed h
  rw [hexFixed_four] at hunit
  rw [unitEscape, hexFixed_four, ← hunit]
  rfl

/-- A character is no surrogate. -/
theorem toNat_cases (c : Char) :
    c.toNat < 0xD800 ∨ 0xDFFF < c.toNat ∧ c.toNat < 0x110000 := c.valid

theorem toNat_lt (c : Char) : c.toNat < 0x110000 := by
  have hcases := toNat_cases c
  omega

theorem ofNat?_toNat (c : Char) : CodePoint.ofNat? c.toNat = some (.char c) := by
  have hcases := toNat_cases c
  have hsurrogate : ¬(Text.firstSurrogate ≤ c.toNat ∧ c.toNat < Text.firstSurrogate + 0x800) := by
    rw [Text.firstSurrogate]
    omega
  rw [CodePoint.ofNat?, if_neg hsurrogate, if_pos (toNat_lt c), Char.ofNat_toNat]

theorem ofNat?_surrogate {k : Nat} (h : k < 0x800) :
    CodePoint.ofNat? (0xD800 + k) = some (.surrogate (Fin.ofNat 0x800 k)) := by
  have hrange : Text.firstSurrogate ≤ 0xD800 + k ∧ 0xD800 + k < Text.firstSurrogate + 0x800 := by
    rw [Text.firstSurrogate]
    omega
  rw [CodePoint.ofNat?, if_pos hrange, Text.firstSurrogate, Nat.add_sub_cancel_left]

theorem unitsOf_small {c : Char} (h : c.toNat < 0x10000) : unitsOf (.char c) = [.char c] := by
  rw [unitsOf, if_pos h]

theorem unitsOf_large {c : Char} (h : ¬c.toNat < 0x10000) :
    unitsOf (.char c) = [.surrogate (Fin.ofNat 0x800 ((c.toNat - 0x10000) / 0x400)),
      .surrogate (Fin.ofNat 0x800 (0x400 + (c.toNat - 0x10000) % 0x400))] := by
  have hbound := toNat_lt c
  have hlow : 0xDC00 + (c.toNat - 0x10000) % 0x400
      = 0xD800 + (0x400 + (c.toNat - 0x10000) % 0x400) := by omega
  rw [unitsOf, if_neg h]
  dsimp only
  rw [hlow, List.filterMap_cons_some (ofNat?_surrogate (by omega)),
    List.filterMap_cons_some (ofNat?_surrogate (by omega)), List.filterMap_nil]

theorem units?_escaped {e c : Char} (he : e ≠ 'u') (h : escaped? e = some c) (rest : List Char) :
    units? ('\\' :: e :: rest) = (units? rest).map fun r => (.char c :: r.1, r.2) := by
  rw [units?]
  · rw [h]
    cases units? rest <;> rfl
  · intro a b c d rest' heq
    exact absurd heq he

theorem units?_plain {c : Char} (hquote : c ≠ '"') (hescape : c ≠ '\\') (hprint : 0x20 ≤ c.toNat)
    (rest : List Char) :
    units? (c :: rest) = (units? rest).map fun r => (.char c :: r.1, r.2) := by
  rw [units?]
  · rw [if_neg (by simp only [hescape, false_or]; omega)]
  · exact hquote
  · intro a b c' d rest' heq
    exact absurd heq hescape
  · intro e rest' heq
    exact absurd heq hescape

theorem units?_charEscape (c : Char) (rest : List Char) :
    units? (charEscape c ++ rest) = (units? rest).map fun r => (unitsOf (.char c) ++ r.1, r.2) := by
  unfold charEscape
  dsimp only
  by_cases h : c.toNat < 0x10000
  · rw [if_pos h, unitsOf_small h, units?_unitEscape h, ofNat?_toNat]
    cases units? rest <;> rfl
  · have hbound := toNat_lt c
    obtain ⟨m, hm⟩ : ∃ m, c.toNat = m + 0x10000 := ⟨c.toNat - 0x10000, by omega⟩
    have hlow : 0xDC00 + m % 0x400 = 0xD800 + (0x400 + m % 0x400) := by omega
    rw [if_neg h, unitsOf_large h, hm, Nat.add_sub_cancel, List.append_assoc,
      units?_unitEscape (by omega), units?_unitEscape (by omega), hlow,
      ofNat?_surrogate (by omega), ofNat?_surrogate (by omega)]
    cases units? rest <;> rfl

/-- A printable character of ASCII.  Line breaks are none. -/
def IsPrintable (c : Char) : Prop := 0x20 ≤ c.toNat ∧ c.toNat < 0x7F

instance (c : Char) : Decidable (IsPrintable c) := inferInstanceAs (Decidable (_ ∧ _))

/-- A character is written behind a backslash, as it is, or by its units. -/
theorem stringChar_cases (c : Char) :
    (∃ e, stringChar c = ['\\', e] ∧ e ≠ 'u' ∧ escaped? e = some c ∧ IsPrintable e
        ∧ c.toNat < 0x10000)
      ∨ (stringChar c = [c] ∧ c ≠ '"' ∧ c ≠ '\\' ∧ IsPrintable c)
      ∨ stringChar c = charEscape c := by
  unfold stringChar
  split_ifs with hquote hescape h h h h h hprint
  iterate 7 (subst c; exact .inl ⟨_, rfl, by decide⟩)
  · exact .inr (.inl ⟨rfl, hquote, hescape, hprint⟩)
  · exact .inr (.inr rfl)

/-- A code point between the quotes is read as its units. -/
theorem units?_stringPoint (p : CodePoint) (rest : List Char) :
    units? (stringPoint p ++ rest) = (units? rest).map fun r => (unitsOf p ++ r.1, r.2) := by
  cases p with
  | surrogate n =>
      have hn := n.isLt
      rw [stringPoint, CodePoint.code, Text.firstSurrogate, units?_unitEscape (by omega),
        ofNat?_surrogate hn, Fin.ofNat_val_eq_self]
      cases units? rest <;> rfl
  | char c =>
      rw [stringPoint]
      rcases stringChar_cases c with ⟨e, htext, he, hread, -, hc⟩ | ⟨htext, hquote, hescape, hprint⟩
        | htext
      · rw [htext, unitsOf_small hc]
        exact units?_escaped he hread rest
      · rw [htext, unitsOf_small (Nat.lt_trans hprint.2 (by decide))]
        exact units?_plain hquote hescape hprint.1 rest
      · rw [htext]
        exact units?_charEscape c rest

/-- Between the quotes, a text is read as the units of its code points. -/
theorem units?_text (t : Text) (rest : List Char) :
    units? (t.flatMap stringPoint ++ '"' :: rest) = some (t.flatMap unitsOf, rest) := by
  induction t with
  | nil => rfl
  | cons p t ih =>
      rw [List.flatMap_cons, List.flatMap_cons, List.append_assoc, units?_stringPoint, ih]
      rfl

theorem joined_pair {a b : Fin 0x800} (ha : a.val < 0x400) (hb : 0x400 ≤ b.val) (t : Text) :
    joined (.surrogate a :: .surrogate b :: t)
      = .char (Char.ofNat (0x10000 + a.val * 0x400 + (b.val - 0x400))) :: joined t := by
  rw [joined, if_pos ⟨ha, hb⟩]

theorem joined_char (c : Char) (t : Text) : joined (.char c :: t) = .char c :: joined t := by
  rw [joined]
  intro a b rest heq
  cases heq

theorem joined_surrogate {a : Fin 0x800} {t : Text}
    (h : ∀ b, t.head? = some (.surrogate b) → ¬(a.val < 0x400 ∧ 0x400 ≤ b.val)) :
    joined (.surrogate a :: t) = .surrogate a :: joined t := by
  cases t with
  | nil => rfl
  | cons p t =>
      cases p with
      | char c =>
          rw [joined]
          intro a' b rest heq hrest
          cases hrest
      | surrogate b => rw [joined, if_neg (h b rfl)]

/-- The units of a character are put together again. -/
theorem joined_unitsOf_char (c : Char) (t : Text) :
    joined (unitsOf (.char c) ++ t) = .char c :: joined t := by
  by_cases h : c.toNat < 0x10000
  · rw [unitsOf_small h]
    exact joined_char c t
  · have hbound := toNat_lt c
    obtain ⟨m, hm⟩ : ∃ m, c.toNat = m + 0x10000 := ⟨c.toNat - 0x10000, by omega⟩
    have hhigh : (Fin.ofNat 0x800 (m / 0x400)).val = m / 0x400 :=
      Nat.mod_eq_of_lt (by omega)
    have hlow : (Fin.ofNat 0x800 (0x400 + m % 0x400)).val = 0x400 + m % 0x400 :=
      Nat.mod_eq_of_lt (by omega)
    have hcode : 0x10000 + m / 0x400 * 0x400 + (0x400 + m % 0x400 - 0x400) = c.toNat := by omega
    rw [unitsOf_large h, hm, Nat.add_sub_cancel]
    refine (joined_pair (by rw [hhigh]; omega) (by rw [hlow]; omega) t).trans ?_
    rw [hhigh, hlow, hcode, Char.ofNat_toNat]

/-- The units of a character do not begin with the second half of a pair. -/
theorem first_unitsOf_char {c : Char} {t : Text} {b : Fin 0x800}
    (h : (unitsOf (.char c) ++ t).head? = some (.surrogate b)) : b.val < 0x400 := by
  by_cases hc : c.toNat < 0x10000
  · rw [unitsOf_small hc] at h
    cases h
  · rw [unitsOf_large hc] at h
    have hbound := toNat_lt c
    obtain rfl := CodePoint.surrogate.inj (Option.some.inj h)
    have hvalue : (Fin.ofNat 0x800 ((c.toNat - 0x10000) / 0x400)).val
        = (c.toNat - 0x10000) / 0x400 := Nat.mod_eq_of_lt (by omega)
    omega

/-- What is read of a text that is written in units is the text with the halves of pairs joined. -/
theorem joined_flatMap_unitsOf (t : Text) : joined (t.flatMap unitsOf) = joined t := by
  fun_induction joined t with
  | case1 a b rest h ih =>
      rw [← ih]
      exact joined_pair h.1 h.2 _
  | case2 a b rest h ih =>
      have hstep : joined (.surrogate a :: .surrogate b :: rest.flatMap unitsOf)
          = .surrogate a :: joined (.surrogate b :: rest.flatMap unitsOf) := by
        rw [joined, if_neg h]
      exact hstep.trans (congrArg (CodePoint.surrogate a :: ·) ih)
  | case3 p rest hnext ih =>
      cases p with
      | char c => rw [List.flatMap_cons, joined_unitsOf_char, ih]
      | surrogate a =>
          rw [← ih, List.flatMap_cons]
          refine joined_surrogate fun b hb => ?_
          cases rest with
          | nil => cases hb
          | cons q rest =>
              cases q with
              | surrogate b' => exact absurd rfl (hnext a b' rest rfl)
              | char c =>
                  have hfirst := first_unitsOf_char hb
                  omega
  | case4 => rfl

theorem string?_text (t : Text) (rest : List Char) :
    string? (t.flatMap stringPoint ++ '"' :: rest) = some (joined t, rest) := by
  rw [string?, units?_text, Option.map_some, joined_flatMap_unitsOf]

/-! ## Values -/

/-- Characters that may stand between the parts of a JSON text. -/
def isJsonBlank (c : Char) : Bool := c == ' ' || c == '\t' || c == '\n' || c == '\r'

/-- What stands behind a mark, in front of which there may be blanks. -/
def mark? (mark : Char) (cs : List Char) : Option (List Char) :=
  match cs.dropWhile isJsonBlank with
  | c :: rest => if c = mark then some rest else none
  | [] => none

/-- What stands behind a word. -/
def word? (word cs : List Char) : Option (List Char) :=
  if word.isPrefixOf cs then some (cs.drop word.length) else none

namespace LogTree

mutual

/-- The value at the begin of a text, and what stands behind it; `fuel` bounds the length of the
value. -/
def value? : (fuel : Nat) → List Char → Option (LogTree × List Char)
  | 0, _ => none
  | fuel + 1, cs =>
      match cs.dropWhile isJsonBlank with
      | [] => none
      | c :: rest =>
          if c = '"' then (string? rest).map fun r => (string r.1, r.2)
          else if c = '[' then
            match mark? ']' rest with
            | some rest => some (array [], rest)
            | none => (items? fuel rest).map fun r => (array r.1, r.2)
          else if c = '\x7b' then
            match mark? '\x7d' rest with
            | some rest => some (object [], rest)
            | none => (members? fuel rest).map fun r => (object r.1, r.2)
          else if c = 'n' then (word? "ull".toList rest).map fun rest => (null, rest)
          else if c = 't' then (word? "rue".toList rest).map fun rest => (bool true, rest)
          else if c = 'f' then (word? "alse".toList rest).map fun rest => (bool false, rest)
          else (numeral? (c :: rest)).map fun r => (number r.1, r.2)

/-- The items up to the bracket that closes an array, and what stands behind it. -/
def items? : (fuel : Nat) → List Char → Option (List LogTree × List Char)
  | 0, _ => none
  | fuel + 1, cs => do
      let (t, rest) ← value? fuel cs
      match mark? ',' rest with
      | some rest => (items? fuel rest).map fun r => (t :: r.1, r.2)
      | none => (mark? ']' rest).map fun rest => ([t], rest)

/-- The members up to the bracket that closes an object, and what stands behind it. -/
def members? : (fuel : Nat) → List Char → Option (List (Text × LogTree) × List Char)
  | 0, _ => none
  | fuel + 1, cs => do
      let rest ← mark? '"' cs
      let (name, rest) ← string? rest
      let rest ← mark? ':' rest
      let (t, rest) ← value? fuel rest
      match mark? ',' rest with
      | some rest => (members? fuel rest).map fun r => ((name, t) :: r.1, r.2)
      | none => (mark? '\x7d' rest).map fun rest => ([(name, t)], rest)

end

/-- What a JSON text says. -/
def read? (cs : List Char) : Option LogTree := do
  let (t, rest) ← value? (cs.length + 1) cs
  if (rest.dropWhile isJsonBlank).isEmpty then some t else none

mutual

/-- All numbers of a tree have texts of a kind. -/
def Numbers (P : List Char → Prop) : LogTree → Prop
  | number s => P s
  | array items => ItemNumbers P items
  | object members => MemberNumbers P members
  | null | bool _ | string _ => True

/-- All numbers of the items of an array have texts of a kind. -/
def ItemNumbers (P : List Char → Prop) : List LogTree → Prop
  | [] => True
  | t :: ts => t.Numbers P ∧ ItemNumbers P ts

/-- All numbers of the members of an object have texts of a kind. -/
def MemberNumbers (P : List Char → Prop) : List (Text × LogTree) → Prop
  | [] => True
  | (_, t) :: ms => t.Numbers P ∧ MemberNumbers P ms

end

mutual

/-- A tree with the halves of pairs joined in all of its texts. -/
def paired : LogTree → LogTree
  | string s => string (joined s)
  | array items => array (pairedItems items)
  | object members => object (pairedMembers members)
  | t => t

/-- The items of an array with the halves of pairs joined. -/
def pairedItems : List LogTree → List LogTree
  | [] => []
  | t :: ts => t.paired :: pairedItems ts

/-- The members of an object with the halves of pairs joined. -/
def pairedMembers : List (Text × LogTree) → List (Text × LogTree)
  | [] => []
  | (name, t) :: ms => (joined name, t.paired) :: pairedMembers ms

end

/-- What holds of the items of arrays and of the values of members, and then of the arrays and the
objects themselves, holds of all trees. -/
@[elab_as_elim, induction_eliminator]
theorem induct {motive : LogTree → Prop} (null : motive null) (bool : ∀ b, motive (bool b))
    (number : ∀ s, motive (number s)) (string : ∀ s, motive (string s))
    (array : ∀ items, (∀ t ∈ items, motive t) → motive (array items))
    (object : ∀ members, (∀ m ∈ members, motive m.2) → motive (object members)) (t : LogTree) :
    motive t :=
  match t with
  | .null => null
  | .bool b => bool b
  | .number s => number s
  | .string s => string s
  | .array items => array items fun t _ => induct null bool number string array object t
  | .object members => object members fun m hm =>
      have : sizeOf m.2 < 1 + sizeOf members := by
        have hmem := List.sizeOf_lt_of_mem hm
        have hpair : sizeOf m = 1 + sizeOf m.1 + sizeOf m.2 := rfl
        omega
      induct null bool number string array object m.2

theorem itemNumbers_iff {P : List Char → Prop} (ts : List LogTree) :
    ItemNumbers P ts ↔ ∀ t ∈ ts, t.Numbers P := by
  induction ts with
  | nil => exact iff_of_true trivial nofun
  | cons t ts ih => rw [ItemNumbers, ih, List.forall_mem_cons]

theorem memberNumbers_iff {P : List Char → Prop} (ms : List (Text × LogTree)) :
    MemberNumbers P ms ↔ ∀ m ∈ ms, m.2.Numbers P := by
  induction ms with
  | nil => exact iff_of_true trivial nofun
  | cons m ms ih => rw [MemberNumbers, ih, List.forall_mem_cons]

theorem Numbers.imp {P Q : List Char → Prop} (h : ∀ s, P s → Q s) {t : LogTree}
    (ht : t.Numbers P) : t.Numbers Q := by
  induction t with
  | null => trivial
  | bool b => trivial
  | number s => exact h s ht
  | string s => trivial
  | array items ih =>
      rw [Numbers, itemNumbers_iff] at ht ⊢
      intro t hmem
      exact ih t hmem (ht t hmem)
  | object members ih =>
      rw [Numbers, memberNumbers_iff] at ht ⊢
      intro m hmem
      exact ih m hmem (ht m hmem)

/-! ## Texts of trees are read back -/

/-- A number begins with a character that begins nothing else. -/
def BeginsNumber (c : Char) : Prop := c.isDigit = true ∨ c = '-' ∨ c = 'N' ∨ c = 'I'

theorem beginsNumber_ne {c d : Char} (h : BeginsNumber c)
    (hd : d ∈ ['"', '[', ']', '\x7b', 'n', 't', 'f', ' ', '\t', '\n', '\r']) : c ≠ d := by
  rintro rfl
  have hall : ∀ d ∈ ['"', '[', ']', '\x7b', 'n', 't', 'f', ' ', '\t', '\n', '\r'],
      d.isDigit = false ∧ d ≠ '-' ∧ d ≠ 'N' ∧ d ≠ 'I' := by simp
  obtain ⟨hdigit, hminus, hn, hi⟩ := hall c hd
  rcases h with h | h | h | h
  · exact Bool.noConfusion (hdigit.symm.trans h)
  · exact hminus h
  · exact hn h
  · exact hi h

theorem beginsNumber_notBlank {c : Char} (h : BeginsNumber c) : isJsonBlank c = false := by
  have hspace := beginsNumber_ne h (d := ' ') (by decide)
  have htab := beginsNumber_ne h (d := '\t') (by decide)
  have hfeed := beginsNumber_ne h (d := '\n') (by decide)
  have hreturn := beginsNumber_ne h (d := '\r') (by decide)
  simp [isJsonBlank, hspace, htab, hfeed, hreturn]

theorem exists_cons_of_isWritten {s : List Char} (h : IsWritten s) :
    ∃ c cs, s = c :: cs ∧ BeginsNumber c := by
  rcases h with h | h
  · obtain ⟨c, cs, hs, hc⟩ := h.exists_cons
    exact ⟨c, cs, hs, hc.imp_right .inl⟩
  · obtain ⟨c, cs, hs, hc⟩ := h.exists_cons
    refine ⟨c, cs, hs, .inr ?_⟩
    rcases hc with hc | hc | hc
    · exact .inr (.inl hc)
    · exact .inr (.inr hc)
    · exact .inl hc

theorem mark?_cons {c : Char} (h : isJsonBlank c = false) (mark : Char) (rest : List Char) :
    mark? mark (c :: rest) = if c = mark then some rest else none := by
  rw [mark?, List.dropWhile_cons_of_neg (by rw [h]; exact Bool.false_ne_true)]

theorem value?_number {c : Char} (h : BeginsNumber c) (fuel : Nat) (cs : List Char) :
    value? (fuel + 1) (c :: cs) = (numeral? (c :: cs)).map fun r => (number r.1, r.2) := by
  have hblank : ¬isJsonBlank c = true := by
    rw [beginsNumber_notBlank h]
    exact Bool.false_ne_true
  rw [value?, List.dropWhile_cons_of_neg hblank]
  dsimp only
  rw [if_neg (beginsNumber_ne h (by decide)), if_neg (beginsNumber_ne h (by decide)),
    if_neg (beginsNumber_ne h (by decide)), if_neg (beginsNumber_ne h (by decide)),
    if_neg (beginsNumber_ne h (by decide)), if_neg (beginsNumber_ne h (by decide))]

/-- The text of a tree begins with a character that is neither blank nor closes an array. -/
theorem exists_text_cons {t : LogTree} (h : t.Numbers IsWritten) :
    ∃ c cs, t.text = c :: cs ∧ isJsonBlank c = false ∧ c ≠ ']' := by
  cases t with
  | null => exact ⟨_, _, rfl, by decide, by decide⟩
  | bool b => cases b <;> exact ⟨_, _, rfl, by decide, by decide⟩
  | number s =>
      obtain ⟨c, cs, hs, hc⟩ := exists_cons_of_isWritten h
      exact ⟨c, cs, hs, beginsNumber_notBlank hc, beginsNumber_ne hc (by decide)⟩
  | string s => exact ⟨_, _, rfl, by decide, by decide⟩
  | array items => exact ⟨_, _, rfl, by decide, by decide⟩
  | object members => exact ⟨_, _, rfl, by decide, by decide⟩

theorem closes_rest (ts : List LogTree) (rest : List Char) :
    Closes (restText ts ++ ']' :: rest) := by
  intro c hc
  cases ts with
  | nil => exact .inr (.inl (Option.some.inj hc).symm)
  | cons t ts => exact .inl (Option.some.inj hc).symm

theorem closes_restMembers (ms : List (Text × LogTree)) (rest : List Char) :
    Closes (restMembersText ms ++ '\x7d' :: rest) := by
  intro c hc
  cases ms with
  | nil => exact .inr (.inr (Option.some.inj hc).symm)
  | cons m ms => exact .inl (Option.some.inj hc).symm

/-- A value behind which nothing follows is the last item. -/
theorem items?_last {fuel : Nat} {cs rest : List Char} {t : LogTree}
    (h : value? fuel cs = some (t, ']' :: rest)) : items? (fuel + 1) cs = some ([t], rest) := by
  rw [items?, h]
  rfl

/-- A value behind which there are more items is an item in front of these. -/
theorem items?_next {fuel : Nat} {cs rest : List Char} {t u : LogTree} {us : List LogTree}
    (h : value? fuel cs = some (t, restText (u :: us) ++ ']' :: rest)) :
    items? (fuel + 1) cs
      = (items? fuel (itemsText (u :: us) ++ ']' :: rest)).map fun r => (t :: r.1, r.2) := by
  rw [items?, h]
  rfl

/-- The text of a member is the name between quotes, a colon and the value. -/
theorem membersText_cons (name : Text) (t : LogTree) (ms : List (Text × LogTree))
    (rest : List Char) :
    membersText ((name, t) :: ms) ++ rest
      = '"' :: (name.flatMap stringPoint
          ++ '"' :: ':' :: (t.text ++ (restMembersText ms ++ rest))) := by
  simp only [membersText, memberText, stringText, List.cons_append, List.append_assoc,
    List.nil_append]

/-- The name of a member is read, and then its value. -/
theorem members?_cons (fuel : Nat) (name : Text) (t : LogTree) (ms : List (Text × LogTree))
    (rest : List Char) :
    members? (fuel + 1) (membersText ((name, t) :: ms) ++ rest)
      = (value? fuel (t.text ++ (restMembersText ms ++ rest))).bind fun r =>
          match mark? ',' r.2 with
          | some rest => (members? fuel rest).map fun s => ((joined name, r.1) :: s.1, s.2)
          | none => (mark? '\x7d' r.2).map fun rest => ([(joined name, r.1)], rest) := by
  rw [membersText_cons, members?, mark?_cons (by decide), if_pos rfl]
  refine (congrArg (Option.bind · _) (string?_text name _)).trans ?_
  rfl

/-- A value behind which nothing follows is that of the last member. -/
theorem members?_last {fuel : Nat} {name : Text} {t u : LogTree} {rest : List Char}
    (h : value? fuel (t.text ++ ('\x7d' :: rest)) = some (u, '\x7d' :: rest)) :
    members? (fuel + 1) (membersText [(name, t)] ++ '\x7d' :: rest)
      = some ([(joined name, u)], rest) := by
  rw [members?_cons]
  refine (congrArg (Option.bind · _) h).trans ?_
  rfl

/-- A value behind which there are more members is that of a member in front of these. -/
theorem members?_next {fuel : Nat} {name : Text} {t u : LogTree} {m : Text × LogTree}
    {ms : List (Text × LogTree)} {rest : List Char}
    (h : value? fuel (t.text ++ (restMembersText (m :: ms) ++ '\x7d' :: rest))
      = some (u, restMembersText (m :: ms) ++ '\x7d' :: rest)) :
    members? (fuel + 1) (membersText ((name, t) :: m :: ms) ++ '\x7d' :: rest)
      = (members? fuel (membersText (m :: ms) ++ '\x7d' :: rest)).map
          fun r => ((joined name, u) :: r.1, r.2) := by
  rw [members?_cons]
  refine (congrArg (Option.bind · _) h).trans ?_
  rfl

theorem itemsText_append (t : LogTree) (ts : List LogTree) (rest : List Char) :
    itemsText (t :: ts) ++ rest = t.text ++ (restText ts ++ rest) := by
  rw [itemsText, List.append_assoc]

/-- An array that is not empty is read item by item. -/
theorem value?_array {t : LogTree} (h : t.Numbers IsWritten) (ts : List LogTree) (fuel : Nat)
    (rest : List Char) :
    value? (fuel + 1) ((array (t :: ts)).text ++ rest)
      = (items? fuel (itemsText (t :: ts) ++ ']' :: rest)).map fun r => (array r.1, r.2) := by
  obtain ⟨c, cs, hcons, hblank, hclose⟩ := exists_text_cons h
  have hopen : mark? ']' (itemsText (t :: ts) ++ ']' :: rest) = none := by
    rw [itemsText, hcons, List.cons_append, List.cons_append, mark?_cons hblank, if_neg hclose]
  have hread : value? (fuel + 1) ((array (t :: ts)).text ++ rest)
      = match mark? ']' (itemsText (t :: ts) ++ ']' :: rest) with
        | some rest => some (array [], rest)
        | none => (items? fuel (itemsText (t :: ts) ++ ']' :: rest)).map
            fun r => (array r.1, r.2) := by
    rw [text, List.cons_append, List.append_assoc]
    rfl
  rw [hread, hopen]

/-- An object that is not empty is read member by member. -/
theorem value?_object (m : Text × LogTree) (ms : List (Text × LogTree)) (fuel : Nat)
    (rest : List Char) :
    value? (fuel + 1) ((object (m :: ms)).text ++ rest)
      = (members? fuel (membersText (m :: ms) ++ '\x7d' :: rest)).map
          fun r => (object r.1, r.2) := by
  have hopen : mark? '\x7d' (membersText (m :: ms) ++ '\x7d' :: rest) = none := by
    rw [membersText_cons, mark?_cons (by decide), if_neg (by decide)]
  have hread : value? (fuel + 1) ((object (m :: ms)).text ++ rest)
      = match mark? '\x7d' (membersText (m :: ms) ++ '\x7d' :: rest) with
        | some rest => some (object [], rest)
        | none => (members? fuel (membersText (m :: ms) ++ '\x7d' :: rest)).map
            fun r => (object r.1, r.2) := by
    rw [text, List.cons_append, List.append_assoc]
    rfl
  rw [hread, hopen]

/-- The length of an item and of what stands behind it is that of the row. -/
theorem length_itemsText_cons (t u : LogTree) (us : List LogTree) :
    (itemsText (t :: u :: us)).length = t.text.length + 1 + (itemsText (u :: us)).length := by
  simp only [itemsText, restText, List.length_cons, List.length_append]
  omega

theorem length_membersText_cons (name : Text) (t : LogTree) (m : Text × LogTree)
    (ms : List (Text × LogTree)) :
    t.text.length + (membersText (m :: ms)).length
      < (membersText ((name, t) :: m :: ms)).length := by
  simp only [membersText, memberText, restMembersText, List.length_cons, List.length_append]
  omega

/-- The text of a tree is read back in front of what closes it, if its numbers are numerals. -/
def ReadBack (t : LogTree) : Prop :=
  ∀ ⦃fuel : Nat⦄ ⦃rest : List Char⦄, t.Numbers IsNumeral → t.text.length ≤ fuel → Closes rest →
    value? fuel (t.text ++ rest) = some (t.paired, rest)

/-- A row of items is read back if each of them is. -/
theorem items?_text {t : LogTree} {ts : List LogTree} (each : ∀ u ∈ t :: ts, ReadBack u)
    {fuel : Nat} {rest : List Char} (hnumbers : ItemNumbers IsNumeral (t :: ts))
    (hfuel : (itemsText (t :: ts)).length < fuel) :
    items? fuel (itemsText (t :: ts) ++ ']' :: rest) = some (pairedItems (t :: ts), rest) := by
  induction ts generalizing t fuel with
  | nil =>
      obtain ⟨fuel, rfl⟩ := Nat.exists_eq_succ_of_ne_zero (Nat.ne_zero_of_lt hfuel)
      have hfits : t.text.length ≤ fuel := by
        simp only [itemsText, restText, List.append_nil] at hfuel
        omega
      have hvalue := each t List.mem_cons_self hnumbers.1 hfits (closes_rest [] rest)
      rw [← itemsText_append] at hvalue
      rw [items?_last hvalue]
      rfl
  | cons u us ih =>
      obtain ⟨fuel, rfl⟩ := Nat.exists_eq_succ_of_ne_zero (Nat.ne_zero_of_lt hfuel)
      rw [length_itemsText_cons] at hfuel
      have hfits : t.text.length ≤ fuel := by omega
      have hvalue := each t List.mem_cons_self hnumbers.1 hfits (closes_rest (u :: us) rest)
      rw [← itemsText_append] at hvalue
      have hshorter : (itemsText (u :: us)).length < fuel := by omega
      have hothers := ih (fun v hv => each v (List.mem_cons_of_mem t hv)) hnumbers.2 hshorter
      rw [items?_next hvalue, hothers]
      rfl

/-- A row of members is read back if each of their values is. -/
theorem members?_text {m : Text × LogTree} {ms : List (Text × LogTree)}
    (each : ∀ n ∈ m :: ms, ReadBack n.2) {fuel : Nat} {rest : List Char}
    (hnumbers : MemberNumbers IsNumeral (m :: ms))
    (hfuel : (membersText (m :: ms)).length < fuel) :
    members? fuel (membersText (m :: ms) ++ '\x7d' :: rest)
      = some (pairedMembers (m :: ms), rest) := by
  induction ms generalizing m fuel with
  | nil =>
      obtain ⟨name, t⟩ := m
      obtain ⟨fuel, rfl⟩ := Nat.exists_eq_succ_of_ne_zero (Nat.ne_zero_of_lt hfuel)
      have hfits : t.text.length ≤ fuel := by
        simp only [membersText, memberText, List.length_cons, List.length_append] at hfuel
        omega
      have hvalue := each (name, t) List.mem_cons_self hnumbers.1 hfits (closes_restMembers [] rest)
      rw [members?_last hvalue]
      rfl
  | cons n ms ih =>
      obtain ⟨name, t⟩ := m
      obtain ⟨fuel, rfl⟩ := Nat.exists_eq_succ_of_ne_zero (Nat.ne_zero_of_lt hfuel)
      have hlength := length_membersText_cons name t n ms
      have hfits : t.text.length ≤ fuel := by omega
      have hvalue := each (name, t) List.mem_cons_self hnumbers.1 hfits
        (closes_restMembers (n :: ms) rest)
      have hshorter : (membersText (n :: ms)).length < fuel := by omega
      have hothers := ih (fun m hm => each m (List.mem_cons_of_mem _ hm)) hnumbers.2 hshorter
      rw [members?_next hvalue, hothers]
      rfl

/-- The text of a tree whose numbers are numerals is read back. -/
theorem value?_text (t : LogTree) : ReadBack t := by
  induction t with
  | null =>
      intro fuel rest _ hfuel _
      obtain ⟨fuel, rfl⟩ := Nat.exists_eq_add_of_le' hfuel
      rfl
  | bool b =>
      intro fuel rest _ hfuel _
      cases b <;> obtain ⟨fuel, rfl⟩ := Nat.exists_eq_add_of_le' hfuel <;> rfl
  | number s =>
      intro fuel rest hs hfuel closes
      obtain ⟨c, cs, rfl, hc⟩ := exists_cons_of_isWritten (.inl hs)
      obtain ⟨fuel, rfl⟩ := Nat.exists_eq_add_of_le' hfuel
      have hread := value?_number hc (fuel + cs.length) (cs ++ rest)
      rw [← List.cons_append, numeral?_append hs closes] at hread
      exact hread
  | string s =>
      intro fuel rest _ hfuel _
      obtain ⟨fuel, rfl⟩ := Nat.exists_eq_succ_of_ne_zero
        (Nat.ne_zero_of_lt (Nat.lt_of_lt_of_le (Nat.succ_pos _) hfuel))
      have hread : value? (fuel + 1) ((string s).text ++ rest)
          = (string? (s.flatMap stringPoint ++ '"' :: rest)).map fun r => (string r.1, r.2) := by
        rw [text, stringText, List.cons_append, List.append_assoc]
        rfl
      rw [hread, string?_text]
      rfl
  | array items each =>
      intro fuel rest hnumbers hfuel _
      simp only [text, List.length_cons, List.length_append] at hfuel
      obtain ⟨fuel, rfl⟩ : ∃ n, fuel = n + 1 := ⟨fuel - 1, by omega⟩
      cases items with
      | nil => rfl
      | cons t ts =>
          rw [value?_array (Numbers.imp (fun s => Or.inl) hnumbers.1),
            items?_text each hnumbers (by omega)]
          rfl
  | object members each =>
      intro fuel rest hnumbers hfuel _
      simp only [text, List.length_cons, List.length_append] at hfuel
      obtain ⟨fuel, rfl⟩ : ∃ n, fuel = n + 1 := ⟨fuel - 1, by omega⟩
      cases members with
      | nil => rfl
      | cons m ms =>
          rw [value?_object, members?_text each hnumbers (by omega)]
          rfl

/-- A tree whose text is read, in front of what closes it, has no number that is not a numeral. -/
def ReadOnlyNumerals (t : LogTree) : Prop :=
  ∀ ⦃fuel : Nat⦄ ⦃rest : List Char⦄ ⦃r : LogTree × List Char⦄, t.Numbers IsWritten →
    t.text.length ≤ fuel → Closes rest → value? fuel (t.text ++ rest) = some r →
      t.Numbers IsNumeral

theorem numbers_of_items? {t : LogTree} {ts : List LogTree}
    (each : ∀ u ∈ t :: ts, ReadOnlyNumerals u) {fuel : Nat} {rest : List Char}
    {r : List LogTree × List Char} (hnumbers : ItemNumbers IsWritten (t :: ts))
    (hfuel : (itemsText (t :: ts)).length < fuel)
    (hread : items? fuel (itemsText (t :: ts) ++ ']' :: rest) = some r) :
    ItemNumbers IsNumeral (t :: ts) := by
  induction ts generalizing t fuel r with
  | nil =>
      obtain ⟨fuel, rfl⟩ := Nat.exists_eq_succ_of_ne_zero (Nat.ne_zero_of_lt hfuel)
      have hfits : t.text.length ≤ fuel := by
        simp only [itemsText, restText, List.append_nil] at hfuel
        omega
      rw [itemsText_append, items?] at hread
      obtain ⟨r, hvalue, -⟩ := Option.bind_eq_some_iff.mp hread
      exact ⟨each t List.mem_cons_self hnumbers.1 hfits (closes_rest [] rest) hvalue, trivial⟩
  | cons u us ih =>
      obtain ⟨fuel, rfl⟩ := Nat.exists_eq_succ_of_ne_zero (Nat.ne_zero_of_lt hfuel)
      rw [length_itemsText_cons] at hfuel
      have hfits : t.text.length ≤ fuel := by omega
      have hshorter : (itemsText (u :: us)).length < fuel := by omega
      have hfirst : t.Numbers IsNumeral := by
        rw [itemsText_append, items?] at hread
        obtain ⟨r, hvalue, -⟩ := Option.bind_eq_some_iff.mp hread
        exact each t List.mem_cons_self hnumbers.1 hfits (closes_rest (u :: us) rest) hvalue
      have hvalue := value?_text t hfirst hfits (closes_rest (u :: us) rest)
      rw [← itemsText_append] at hvalue
      rw [items?_next hvalue] at hread
      obtain ⟨r, hitems, -⟩ := Option.map_eq_some_iff.mp hread
      have heach : ∀ v ∈ u :: us, ReadOnlyNumerals v :=
        fun v hv => each v (List.mem_cons_of_mem t hv)
      exact ⟨hfirst, ih heach hnumbers.2 hshorter hitems⟩

theorem numbers_of_members? {m : Text × LogTree} {ms : List (Text × LogTree)}
    (each : ∀ n ∈ m :: ms, ReadOnlyNumerals n.2) {fuel : Nat} {rest : List Char}
    {r : List (Text × LogTree) × List Char} (hnumbers : MemberNumbers IsWritten (m :: ms))
    (hfuel : (membersText (m :: ms)).length < fuel)
    (hread : members? fuel (membersText (m :: ms) ++ '\x7d' :: rest) = some r) :
    MemberNumbers IsNumeral (m :: ms) := by
  induction ms generalizing m fuel r with
  | nil =>
      obtain ⟨name, t⟩ := m
      obtain ⟨fuel, rfl⟩ := Nat.exists_eq_succ_of_ne_zero (Nat.ne_zero_of_lt hfuel)
      have hfits : t.text.length ≤ fuel := by
        simp only [membersText, memberText, List.length_cons, List.length_append] at hfuel
        omega
      rw [members?_cons] at hread
      obtain ⟨r, hvalue, -⟩ := Option.bind_eq_some_iff.mp hread
      exact ⟨each (name, t) List.mem_cons_self hnumbers.1 hfits (closes_restMembers [] rest) hvalue,
        trivial⟩
  | cons n ms ih =>
      obtain ⟨name, t⟩ := m
      obtain ⟨fuel, rfl⟩ := Nat.exists_eq_succ_of_ne_zero (Nat.ne_zero_of_lt hfuel)
      have hlength := length_membersText_cons name t n ms
      have hfits : t.text.length ≤ fuel := by omega
      have hshorter : (membersText (n :: ms)).length < fuel := by omega
      have hfirst : t.Numbers IsNumeral := by
        rw [members?_cons] at hread
        obtain ⟨r, hvalue, -⟩ := Option.bind_eq_some_iff.mp hread
        exact each (name, t) List.mem_cons_self hnumbers.1 hfits
          (closes_restMembers (n :: ms) rest) hvalue
      have hvalue := value?_text t hfirst hfits (closes_restMembers (n :: ms) rest)
      rw [members?_next hvalue] at hread
      obtain ⟨r, hmembers, -⟩ := Option.map_eq_some_iff.mp hread
      have heach : ∀ m ∈ n :: ms, ReadOnlyNumerals m.2 :=
        fun m hm => each m (List.mem_cons_of_mem (name, t) hm)
      exact ⟨hfirst, ih heach hnumbers.2 hshorter hmembers⟩

/-- A text that is read has no number that is not a numeral. -/
theorem numbers_of_value? (t : LogTree) : ReadOnlyNumerals t := by
  induction t with
  | null =>
      intro fuel rest r _ _ _ _
      trivial
  | bool b =>
      intro fuel rest r _ _ _ _
      trivial
  | number s =>
      intro fuel rest r hs hfuel closes hread
      rcases hs with hs | hs
      · exact hs
      · obtain ⟨c, cs, rfl, hc⟩ := exists_cons_of_isWritten (.inr hs)
        obtain ⟨fuel, rfl⟩ := Nat.exists_eq_add_of_le' hfuel
        have hnone := value?_number hc (fuel + cs.length) (cs ++ rest)
        rw [← List.cons_append, numeral?_word hs] at hnone
        exact absurd (hnone.symm.trans hread) nofun
  | string s =>
      intro fuel rest r _ _ _ _
      trivial
  | array items each =>
      intro fuel rest r hnumbers hfuel _ hread
      simp only [text, List.length_cons, List.length_append] at hfuel
      obtain ⟨fuel, rfl⟩ : ∃ n, fuel = n + 1 := ⟨fuel - 1, by omega⟩
      cases items with
      | nil => trivial
      | cons t ts =>
          rw [value?_array hnumbers.1] at hread
          obtain ⟨r, hitems, -⟩ := Option.map_eq_some_iff.mp hread
          exact numbers_of_items? each hnumbers (by omega) hitems
  | object members each =>
      intro fuel rest r hnumbers hfuel _ hread
      simp only [text, List.length_cons, List.length_append] at hfuel
      obtain ⟨fuel, rfl⟩ : ∃ n, fuel = n + 1 := ⟨fuel - 1, by omega⟩
      cases members with
      | nil => trivial
      | cons m ms =>
          rw [value?_object] at hread
          obtain ⟨r, hmembers, -⟩ := Option.map_eq_some_iff.mp hread
          exact numbers_of_members? each hnumbers (by omega) hmembers

/-- A tree whose numbers are numerals is read back from its text. -/
theorem read?_text {t : LogTree} (h : t.Numbers IsNumeral) : read? t.text = some t.paired := by
  have hvalue := value?_text t h (Nat.le_succ _) (by simp [Closes] : Closes [])
  rw [List.append_nil] at hvalue
  rw [read?, hvalue]
  rfl

/-- The text of a tree is JSON if and only if all its numbers are numerals. -/
theorem isSome_read?_text {t : LogTree} (h : t.Numbers IsWritten) :
    (read? t.text).isSome ↔ t.Numbers IsNumeral := by
  constructor
  · intro hsome
    obtain ⟨r, hr⟩ := Option.isSome_iff_exists.mp hsome
    rw [read?] at hr
    obtain ⟨r', hvalue, -⟩ := Option.bind_eq_some_iff.mp hr
    rw [← List.append_nil t.text] at hvalue
    exact numbers_of_value? t h (by simp) (by simp [Closes]) hvalue
  · intro hnumeral
    rw [read?_text hnumeral]
    rfl

end LogTree

/-! ## Texts of trees are printable -/

/-- A text of printable characters. -/
def AllPrintable (cs : List Char) : Prop := ∀ c ∈ cs, IsPrintable c

instance (cs : List Char) : Decidable (AllPrintable cs) :=
  List.decidableBAll IsPrintable cs

theorem allPrintable_cons {c : Char} {cs : List Char} (hc : IsPrintable c) (hcs : AllPrintable cs) :
    AllPrintable (c :: cs) := List.forall_mem_cons.mpr ⟨hc, hcs⟩

theorem AllPrintable.append {cs ds : List Char} (hcs : AllPrintable cs) (hds : AllPrintable ds) :
    AllPrintable (cs ++ ds) := List.forall_mem_append.mpr ⟨hcs, hds⟩

theorem allPrintable_nil : AllPrintable [] := nofun

theorem isPrintable_of_isDigit {c : Char} (h : c.isDigit = true) : IsPrintable c := by
  have hrange : 48 ≤ c.toNat ∧ c.toNat ≤ 57 := by
    simpa [Char.isDigit, UInt32.le_iff_toNat_le] using h
  unfold IsPrintable
  omega

theorem IsDigits.printable {s : List Char} (h : IsDigits s) : AllPrintable s :=
  fun c hc => isPrintable_of_isDigit (h.digits c hc)

theorem IsUnsigned.printable {s : List Char} (h : IsUnsigned s) : AllPrintable s := by
  cases h with
  | parts isWhole isFraction isExponent =>
      refine AllPrintable.append ?_ (AllPrintable.append ?_ ?_)
      · cases isWhole with
        | zero => exact allPrintable_cons (by decide) allPrintable_nil
        | digits nonzero digits => exact digits.printable
      · cases isFraction with
        | absent => exact allPrintable_nil
        | present digits => exact allPrintable_cons (by decide) digits.printable
      · cases isExponent with
        | absent => exact allPrintable_nil
        | present isSign digits =>
            refine allPrintable_cons (by decide) (allPrintable_cons ?_ digits.printable)
            rcases isSign with rfl | rfl <;> decide

theorem printable_of_isWritten {s : List Char} (h : IsWritten s) : AllPrintable s := by
  rcases h with h | h
  · cases h with
    | positive unsigned => exact unsigned.printable
    | negative unsigned => exact allPrintable_cons (by decide) unsigned.printable
  · cases h <;> decide

theorem isPrintable_hexDigit {n : Nat} (h : n < 16) : IsPrintable (Text.hexDigit n) := by
  have hall : ∀ n < 16, IsPrintable (Text.hexDigit n) := by decide
  exact hall n h

theorem printable_unitEscape (n : Nat) : AllPrintable (unitEscape n) := by
  have hdigit : ∀ m, IsPrintable (Text.hexDigit (m % 16)) :=
    fun m => isPrintable_hexDigit (Nat.mod_lt m (by decide))
  rw [unitEscape, hexFixed_four]
  exact allPrintable_cons (by decide) (allPrintable_cons (by decide)
    (allPrintable_cons (hdigit _) (allPrintable_cons (hdigit _)
      (allPrintable_cons (hdigit _) (allPrintable_cons (hdigit _) allPrintable_nil)))))

theorem printable_stringPoint (p : CodePoint) : AllPrintable (stringPoint p) := by
  cases p with
  | surrogate n => exact printable_unitEscape _
  | char c =>
      rw [stringPoint]
      rcases stringChar_cases c with ⟨e, htext, -, -, he, -⟩ | ⟨htext, -, -, hprint⟩ | htext
      · rw [htext]
        exact allPrintable_cons (by decide) (allPrintable_cons he allPrintable_nil)
      · rw [htext]
        exact allPrintable_cons hprint allPrintable_nil
      · rw [htext, charEscape]
        dsimp only
        split
        · exact printable_unitEscape _
        · exact (printable_unitEscape _).append (printable_unitEscape _)

theorem printable_stringText (t : Text) : AllPrintable (stringText t) := by
  refine allPrintable_cons (by decide) (AllPrintable.append (fun c hc => ?_)
    (allPrintable_cons (by decide) allPrintable_nil))
  obtain ⟨p, -, hp⟩ := List.mem_flatMap.mp hc
  exact printable_stringPoint p c hp

namespace LogTree

theorem printable_restText {ts : List LogTree} (each : ∀ t ∈ ts, AllPrintable t.text) :
    AllPrintable (restText ts) := by
  induction ts with
  | nil => exact allPrintable_nil
  | cons t ts ih =>
      obtain ⟨ht, hts⟩ := List.forall_mem_cons.mp each
      exact allPrintable_cons (by decide) (ht.append (ih hts))

theorem printable_itemsText {ts : List LogTree} (each : ∀ t ∈ ts, AllPrintable t.text) :
    AllPrintable (itemsText ts) := by
  cases ts with
  | nil => exact allPrintable_nil
  | cons t ts =>
      obtain ⟨ht, hts⟩ := List.forall_mem_cons.mp each
      exact ht.append (printable_restText hts)

theorem printable_memberText {m : Text × LogTree} (h : AllPrintable m.2.text) :
    AllPrintable (memberText m) := by
  obtain ⟨name, t⟩ := m
  exact (printable_stringText name).append (allPrintable_cons (by decide) h)

theorem printable_restMembersText {ms : List (Text × LogTree)}
    (each : ∀ m ∈ ms, AllPrintable m.2.text) : AllPrintable (restMembersText ms) := by
  induction ms with
  | nil => exact allPrintable_nil
  | cons m ms ih =>
      obtain ⟨hm, hms⟩ := List.forall_mem_cons.mp each
      exact allPrintable_cons (by decide) ((printable_memberText hm).append (ih hms))

theorem printable_membersText {ms : List (Text × LogTree)}
    (each : ∀ m ∈ ms, AllPrintable m.2.text) : AllPrintable (membersText ms) := by
  cases ms with
  | nil => exact allPrintable_nil
  | cons m ms =>
      obtain ⟨hm, hms⟩ := List.forall_mem_cons.mp each
      exact (printable_memberText hm).append (printable_restMembersText hms)

/-- The text of a tree is printable. -/
theorem printable_text (t : LogTree) (h : t.Numbers IsWritten) : AllPrintable t.text := by
  induction t with
  | null =>
      rw [text]
      decide
  | bool b => cases b <;> (rw [text]; decide)
  | number s => exact printable_of_isWritten h
  | string s => exact printable_stringText s
  | array items ih =>
      rw [Numbers, itemNumbers_iff] at h
      have hitems := printable_itemsText fun t ht => ih t ht (h t ht)
      exact allPrintable_cons (by decide)
        (hitems.append (allPrintable_cons (by decide) allPrintable_nil))
  | object members ih =>
      rw [Numbers, memberNumbers_iff] at h
      have hmembers := printable_membersText fun m hm => ih m hm (h m hm)
      exact allPrintable_cons (by decide)
        (hmembers.append (allPrintable_cons (by decide) allPrintable_nil))

end LogTree

end BoundSql.Observe
