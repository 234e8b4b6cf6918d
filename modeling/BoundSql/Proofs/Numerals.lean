import BoundSql.Decimal.Places
import BoundSql.Observe.Log
import BoundSql.Proofs.Sequence
import Mathlib
set_option autoImplicit false

/-!
# The numerals of a log

The numbers in a log are integers and finite floating point numbers.  Their texts are numerals as
JSON has them: a whole part without zeros in front, perhaps a fraction, and perhaps an exponent.
The other floating point numbers are written as words that are no numerals.

The grammar of numerals is given first, one predicate for each of its parts (`IsWhole`,
`IsFraction`, `IsExponent`, `IsUnsigned`).  An integer is easily seen to be one.  A floating point
number is written by its shortest digits, which are searched for, and the point is put among them or
in front of them by their exponent; with a whole part in front of the point, that part must not
begin with a zero.  So it has to be shown of the search that it never comes to a number with a zero
in front (`digits_searchGrid_ne_zero`, `digits_shortest_ne_zero`), and that rests on the exponent of
ten with which it begins being the right one (`lt_ten_pow_digitCount`, `tenPowLe_leadingExponent`).

Nothing is said here about which number a numeral stands for.
-/

namespace BoundSql.Observe

/-! ## Numerals -/

/-- Digits, of which there is at least one. -/
structure IsDigits (s : List Char) : Prop where
  ne_nil : s ≠ []
  digits : ∀ c ∈ s, c.isDigit = true

/-- The whole part of a numeral: a single zero, or digits the first of which is none. -/
inductive IsWhole : List Char → Prop where
  | zero : IsWhole ['0']
  | digits {d : Char} {ds : List Char} (nonzero : d ≠ '0') (digits : IsDigits (d :: ds)) :
      IsWhole (d :: ds)

/-- The fraction of a numeral. -/
inductive IsFraction : List Char → Prop where
  | absent : IsFraction []
  | present {ds : List Char} (digits : IsDigits ds) : IsFraction ('.' :: ds)

/-- The exponent of a numeral. -/
inductive IsExponent : List Char → Prop where
  | absent : IsExponent []
  | present {sign : Char} {ds : List Char} (isSign : sign = '+' ∨ sign = '-')
      (digits : IsDigits ds) : IsExponent ('e' :: sign :: ds)

/-- A numeral without a sign. -/
inductive IsUnsigned : List Char → Prop where
  | parts {whole fraction exponent : List Char} (isWhole : IsWhole whole)
      (isFraction : IsFraction fraction) (isExponent : IsExponent exponent) :
      IsUnsigned (whole ++ (fraction ++ exponent))

/-- A numeral. -/
inductive IsNumeral : List Char → Prop where
  | positive {s : List Char} (unsigned : IsUnsigned s) : IsNumeral s
  | negative {s : List Char} (unsigned : IsUnsigned s) : IsNumeral ('-' :: s)

theorem IsDigits.append {s t : List Char} (hs : IsDigits s) (ht : ∀ c ∈ t, c.isDigit = true) :
    IsDigits (s ++ t) :=
  ⟨fun h => hs.ne_nil (List.append_eq_nil_iff.mp h).1, List.forall_mem_append.mpr ⟨hs.digits, ht⟩⟩

theorem IsFraction.zero : IsFraction ['.', '0'] :=
  .present ⟨List.cons_ne_nil _ _, List.forall_mem_singleton.mpr rfl⟩

theorem IsWhole.ne_nil {s : List Char} (h : IsWhole s) : s ≠ [] := by
  cases h <;> simp

theorem isUnsigned_of_isWhole {s : List Char} (h : IsWhole s) : IsUnsigned s := by
  simpa using IsUnsigned.parts h .absent .absent

/-! ## Natural numbers -/

theorem toList_natText (n : Nat) : (Decimal.natText n).toList = Nat.toDigits 10 n :=
  Nat.toList_repr

theorem isDigits_toDigits (n : Nat) : IsDigits (Nat.toDigits 10 n) :=
  ⟨Nat.toDigits_ne_nil, fun _ h => Nat.isDigit_of_mem_toDigits (by decide) (by decide) h⟩

/-- The first digit of a number that is not zero is not zero. -/
theorem head?_toDigits {n : Nat} (h : n ≠ 0) : (Nat.toDigits 10 n).head? ≠ some '0' := by
  induction n using Nat.strongRecOn with
  | ind n ih =>
      rw [Nat.toDigits_eq_if (by decide)]
      split
      next hlt =>
        intro hhead
        exact h (Nat.digitChar_eq_zero.mp (Option.some.inj hhead))
      next hge =>
        rw [List.head?_append_of_ne_nil _ Nat.toDigits_ne_nil]
        exact ih (n / 10) (by omega) (by omega)

theorem isWhole_toDigits_append {n : Nat} (h : n ≠ 0) {t : List Char}
    (ht : ∀ c ∈ t, c.isDigit = true) : IsWhole (Nat.toDigits 10 n ++ t) := by
  have hdigits := (isDigits_toDigits n).append ht
  have hhead := head?_toDigits h
  obtain ⟨d, ds, hcons⟩ := List.exists_cons_of_ne_nil (Nat.toDigits_ne_nil (n := n) (b := 10))
  rw [hcons] at hdigits hhead ⊢
  exact .digits (fun hd => hhead (congrArg some hd)) hdigits

theorem isWhole_toDigits (n : Nat) : IsWhole (Nat.toDigits 10 n) := by
  by_cases h : n = 0
  · rw [h, Nat.toDigits_zero]
    exact .zero
  · rw [← List.append_nil (Nat.toDigits 10 n)]
    exact isWhole_toDigits_append h (by simp)

/-- The decimal text of an integer, however many digits it has. -/
def decimalText (n : Int) : String :=
  if n < 0 then "-" ++ Decimal.natText n.natAbs else Decimal.natText n.natAbs

theorem intText_of_lt {n : Int} (h : n.natAbs < Value.digitBound) (s : Value.Store) :
    Value.intText n s = .ok (decimalText n) s := by
  rw [Value.intText, if_neg (Nat.not_le_of_lt h)]
  rfl

/-- The text of an integer is a numeral. -/
theorem isNumeral_decimalText (n : Int) : IsNumeral (decimalText n).toList := by
  have hwhole : IsUnsigned (Decimal.natText n.natAbs).toList := by
    rw [toList_natText]
    exact isUnsigned_of_isWhole (isWhole_toDigits _)
  unfold decimalText
  split
  · rw [String.toList_append]
    exact .negative hwhole
  · exact .positive hwhole

/-! ## Floating point numbers -/

theorem isDigits_exponentDigits (e : Int) :
    ∃ sign ds, (sign = '+' ∨ sign = '-') ∧ IsDigits ds ∧
      (Decimal.exponentText e).toList = sign :: ds := by
  have hdigits := isDigits_toDigits e.natAbs
  rw [← toList_natText] at hdigits
  have hpadded : IsDigits (if (Decimal.natText e.natAbs).length < 2
      then "0" ++ Decimal.natText e.natAbs else Decimal.natText e.natAbs).toList := by
    split
    · rw [String.toList_append]
      exact ⟨by simp, by simpa using hdigits.digits⟩
    · exact hdigits
  rw [Decimal.exponentText]
  split
  · exact ⟨'-', _, .inr rfl, hpadded, String.toList_append ..⟩
  · exact ⟨'+', _, .inl rfl, hpadded, String.toList_append ..⟩

theorem isDigit_of_mem_zeros {n : Nat} {c : Char} (h : c ∈ List.replicate n '0') :
    c.isDigit = true := by
  rw [List.eq_of_mem_replicate h]
  rfl

/-- The digits of a number behind as many zeros as make them more than the places. -/
def paddedDigits (digits places : Nat) : List Char :=
  List.replicate (places + 1 - (Nat.toDigits 10 digits).length) '0' ++ Nat.toDigits 10 digits

theorem isDigit_of_mem_paddedDigits {digits places : Nat} {c : Char}
    (h : c ∈ paddedDigits digits places) : c.isDigit = true := by
  rcases List.mem_append.mp h with h | h
  · exact isDigit_of_mem_zeros h
  · exact (isDigits_toDigits digits).digits c h

theorem length_paddedDigits (digits places : Nat) :
    (paddedDigits digits places).length
      = places + 1 - (Nat.toDigits 10 digits).length + (Nat.toDigits 10 digits).length := by
  rw [paddedDigits, List.length_append, List.length_replicate]

theorem pointed_eq (digits places : Nat) :
    Decimal.pointed digits places
      = (String.ofList ((paddedDigits digits places).take
            ((paddedDigits digits places).length - places)),
          String.ofList ((paddedDigits digits places).drop
            ((paddedDigits digits places).length - places))) := by
  unfold paddedDigits
  rw [← toList_natText]
  rfl

/-- What stands in front of a whole part's end, if there is anything. -/
theorem IsWhole.take {s : List Char} (h : IsWhole s) {n : Nat} (hn : 0 < n) :
    IsWhole (s.take n) := by
  obtain ⟨n, rfl⟩ : ∃ m, n = m + 1 := ⟨n - 1, by omega⟩
  cases h with
  | zero =>
      rw [List.take_succ_cons, List.take_nil]
      exact .zero
  | @digits d ds nonzero digits =>
      rw [List.take_succ_cons]
      refine .digits nonzero ⟨List.cons_ne_nil _ _, fun c hc => digits.digits c ?_⟩
      rw [← List.take_succ_cons] at hc
      exact List.mem_of_mem_take hc

/-- What stands in front of the point.  If the number is less than one, that is the first of the
zeros in front of it. -/
theorem isWhole_take_paddedDigits (digits places : Nat) :
    IsWhole ((paddedDigits digits places).take ((paddedDigits digits places).length - places)) := by
  have hlength := length_paddedDigits digits places
  by_cases hshort : (Nat.toDigits 10 digits).length ≤ places
  · have htake : (paddedDigits digits places).length - places = 1 := by omega
    obtain ⟨count, hcount⟩ : ∃ count, places + 1 - (Nat.toDigits 10 digits).length = count + 1 :=
      ⟨places - (Nat.toDigits 10 digits).length, by omega⟩
    rw [htake, paddedDigits, hcount, List.replicate_succ]
    exact .zero
  · have hzeros : places + 1 - (Nat.toDigits 10 digits).length = 0 := by omega
    have hpadded : paddedDigits digits places = Nat.toDigits 10 digits := by
      rw [paddedDigits, hzeros, List.replicate_zero, List.nil_append]
    rw [hpadded]
    exact (isWhole_toDigits digits).take (by omega)

/-- A number with digits behind its point. -/
theorem isUnsigned_pointed (digits : Nat) {places : Nat} (hplaces : 0 < places)
    {exponent : List Char} (hexponent : IsExponent exponent) :
    IsUnsigned ((Decimal.pointed digits places).1.toList
      ++ (('.' :: (Decimal.pointed digits places).2.toList) ++ exponent)) := by
  have hlength := length_paddedDigits digits places
  have hbehind : (paddedDigits digits places).drop ((paddedDigits digits places).length - places)
      ≠ [] := by
    refine List.ne_nil_of_length_pos ?_
    rw [List.length_drop]
    omega
  rw [pointed_eq, String.toList_ofList, String.toList_ofList]
  exact .parts (isWhole_take_paddedDigits digits places)
    (.present ⟨hbehind, fun _ hc => isDigit_of_mem_paddedDigits (List.mem_of_mem_drop hc)⟩)
    hexponent

/-- The digits of a number that is not zero are a numeral. -/
theorem isUnsigned_shortestText {d : Decimal.Digits} (h : d.digits ≠ 0) :
    IsUnsigned (Decimal.shortestText d).toList := by
  have htext := isDigits_toDigits d.digits
  unfold Decimal.shortestText
  dsimp only
  rw [toList_natText]
  split
  · split
    next hexponent =>
      rw [String.toList_append, String.toList_ofList]
      exact .parts (isWhole_toDigits_append h fun _ hc => isDigit_of_mem_zeros hc) .zero .absent
    next hexponent =>
      rw [String.toList_append, String.toList_append, List.append_assoc]
      have hplaces : 0 < d.exponent.natAbs := by omega
      simpa using isUnsigned_pointed d.digits hplaces .absent
  · obtain ⟨c, cs, hcons⟩ := List.exists_cons_of_ne_nil htext.ne_nil
    obtain ⟨sign, ds, hsign, hds, hexponent⟩ := isDigits_exponentDigits
      (d.exponent + (Nat.toDigits 10 d.digits).length - 1)
    rw [hcons] at htext hexponent ⊢
    have hwhole : IsWhole [c] := by
      by_cases hzero : c = '0'
      · rw [hzero]
        exact .zero
      · exact .digits hzero ⟨by simp, by simpa using htext.digits c List.mem_cons_self⟩
    have hfraction : IsFraction
        (if cs.isEmpty then "" else "." ++ String.ofList cs).toList := by
      cases cs with
      | nil => exact .absent
      | cons c' cs =>
          have hdigits : IsDigits (c' :: cs) :=
            ⟨by simp, fun x hx => htext.digits x (List.mem_cons_of_mem c hx)⟩
          simpa using IsFraction.present hdigits
    simp only [List.take_succ_cons, List.take_zero, List.drop_succ_cons, List.drop_zero,
      String.toList_append, String.toList_ofList, hexponent, List.append_assoc]
    exact .parts hwhole hfraction (.present hsign hds)

end BoundSql.Observe

namespace BoundSql.Decimal

open BoundSql.Observe (IsNumeral IsUnsigned IsWhole IsFraction IsExponent)

/-! ## Shortest digits -/

section Shortest

variable {num den : Nat}

theorem tenPowLe_natCast_iff (k : Nat) : tenPowLe num den k = true ↔ den * 10 ^ k ≤ num := by
  rw [tenPowLe, if_pos (Int.natCast_nonneg k), decide_eq_true_iff]
  rfl

theorem tenPowLe_neg_iff (k : Nat) : tenPowLe num den (-k) = true ↔ den ≤ num * 10 ^ k := by
  cases k with
  | zero => simp [tenPowLe]
  | succ k =>
      rw [tenPowLe, if_neg (by omega), decide_eq_true_iff, Int.natAbs_neg]
      rfl

theorem tenPowLe_sub_one {k : Int} (h : tenPowLe num den k = true) :
    tenPowLe num den (k - 1) = true := by
  rcases Int.le_total 1 k with hpos | hneg
  · obtain ⟨n, rfl⟩ : ∃ n : Nat, k = ((n + 1 : Nat) : Int) := ⟨(k - 1).toNat, by omega⟩
    rw [tenPowLe_natCast_iff] at h
    have hk : ((n + 1 : Nat) : Int) - 1 = (n : Int) := by omega
    rw [hk, tenPowLe_natCast_iff]
    refine Nat.le_trans (Nat.mul_le_mul_left den ?_) h
    exact Nat.pow_le_pow_right (by decide) (Nat.le_succ n)
  · obtain ⟨n, hn⟩ : ∃ n : Nat, k - 1 = -((n + 1 : Nat) : Int) ∨ k = 1 ∧ n = 0 :=
      ⟨(-k).toNat, by omega⟩
    rcases hn with hn | ⟨rfl, -⟩
    · have hk : k = -(n : Int) := by omega
      rw [hk, tenPowLe_neg_iff] at h
      rw [hn, tenPowLe_neg_iff]
      refine Nat.le_trans h (Nat.mul_le_mul_left num ?_)
      exact Nat.pow_le_pow_right (by decide) (Nat.le_succ n)
    · have h1 := (tenPowLe_natCast_iff 1).mp h
      exact (tenPowLe_natCast_iff 0).mpr (by omega)

theorem tenPowLe_sub {k : Int} (h : tenPowLe num den k = true) (n : Nat) :
    tenPowLe num den (k - n) = true := by
  induction n with
  | zero => simpa using h
  | succ n ih =>
      have hstep := tenPowLe_sub_one ih
      rwa [Int.sub_sub] at hstep

theorem lt_ten_pow_digitCount (n : Nat) : n < 10 ^ digitCount n := by
  rw [digitCount, ← String.length_toList, Observe.toList_natText]
  exact (Nat.length_toDigits_le_iff (by decide) Nat.length_toDigits_pos).mp (Nat.le_refl _)

theorem ten_pow_digitCount_le {n : Nat} (h : 0 < n) : 10 ^ (digitCount n - 1) ≤ n := by
  rw [digitCount, ← String.length_toList, Observe.toList_natText]
  have hpos := Nat.length_toDigits_pos (n := n) (b := 10)
  by_cases hone : (Nat.toDigits 10 n).length = 1
  · rw [hone]
    exact h
  · by_contra hlt
    have hle := (Nat.length_toDigits_le_iff (n := n) (by decide) (by omega)).mpr
      (Nat.lt_of_not_le hlt)
    omega

/-- The leading exponent is no greater than that of the number. -/
theorem tenPowLe_leadingExponent (h : 0 < num) :
    tenPowLe num den (leadingExponent num den) = true := by
  have hnum := ten_pow_digitCount_le h
  have hden := lt_ten_pow_digitCount den
  have hpos : 0 < digitCount num := by
    rw [digitCount, ← String.length_toList, Observe.toList_natText]
    exact Nat.length_toDigits_pos
  rw [leadingExponent]
  split
  next hestimate => exact hestimate
  next =>
    generalize digitCount num = i at *
    generalize digitCount den = j at *
    rcases Nat.le_total j (i - 1) with hle | hle
    · obtain ⟨n, hn⟩ := Nat.exists_eq_add_of_le hle
      have hk : (i : Int) - j - 1 = (n : Int) := by omega
      rw [hk, tenPowLe_natCast_iff]
      calc den * 10 ^ n ≤ 10 ^ j * 10 ^ n := Nat.mul_le_mul_right _ (Nat.le_of_lt hden)
        _ = 10 ^ (i - 1) := by rw [← Nat.pow_add, hn]
        _ ≤ num := hnum
    · obtain ⟨n, hn⟩ := Nat.exists_eq_add_of_le hle
      have hk : (i : Int) - j - 1 = -(n : Int) := by omega
      rw [hk, tenPowLe_neg_iff]
      calc den ≤ 10 ^ j := Nat.le_of_lt hden
        _ = 10 ^ (i - 1) * 10 ^ n := by rw [← Nat.pow_add, hn]
        _ ≤ num * 10 ^ n := Nat.mul_le_mul_right _ hnum

/-- A number that is no less than a power of ten is not zero on the grid of that power. -/
theorem roundDiv_scaleTen_ne_zero {k : Int} (hden : 0 < den) (h : tenPowLe num den k = true) :
    roundDiv (scaleTen num den k).1 (scaleTen num den k).2 ≠ 0 := by
  have hparts : 0 < (scaleTen num den k).2 ∧ (scaleTen num den k).2 ≤ (scaleTen num den k).1 := by
    unfold tenPowLe at h
    unfold scaleTen
    split at h
    next hk =>
      rw [if_pos hk]
      exact ⟨Nat.mul_pos hden (Nat.pow_pos (by decide)), of_decide_eq_true h⟩
    next hk =>
      rw [if_neg hk]
      exact ⟨hden, of_decide_eq_true h⟩
  have hquotient := Nat.div_pos hparts.2 hparts.1
  unfold roundDiv
  dsimp only
  split
  · omega
  · split
    · omega
    · split <;> omega

theorem ne_zero_of_liesWithin {closed : Bool} {low high d : Nat} {k : Int} (hlow : 0 < low)
    (h : liesWithin closed low high den d k = true) : d ≠ 0 := by
  rintro rfl
  have hpow : 10 ^ k.natAbs ≠ 0 := Nat.ne_of_gt (Nat.pow_pos (by decide))
  have hne : low ≠ 0 := Nat.ne_of_gt hlow
  unfold liesWithin at h
  by_cases hk : 0 ≤ k
  · cases closed <;> simp [hk, hne] at h
  · cases closed with
    | false => simp [hk] at h
    | true =>
        have hproduct : low * 10 ^ k.natAbs = 0 := by simpa [hk] using h
        exact absurd hproduct (Nat.mul_ne_zero hne hpow)

/-- The digits that are found are not all zero. -/
theorem digits_searchGrid_ne_zero {closed : Bool} {low high : Nat} {lead : Int} (hden : 0 < den)
    (hlow : 0 < low) (hlead : tenPowLe num den lead = true) (left : Nat) {places : Nat}
    (hplaces : 1 ≤ places) :
    (searchGrid closed num low high den lead left places).digits ≠ 0 := by
  induction left generalizing places with
  | zero =>
      have hk : lead - (places : Int) + 1 = lead - ((places - 1 : Nat) : Int) := by omega
      rw [searchGrid, hk]
      exact roundDiv_scaleTen_ne_zero hden (tenPowLe_sub hlead (places - 1))
  | succ left ih =>
      rw [searchGrid]
      dsimp only
      generalize gridNeighbours num den (lead - (places : Int) + 1) = neighbours
      obtain ⟨d, upIsNearer⟩ := neighbours
      dsimp only
      split
      next hboth =>
        have hbelow := ne_zero_of_liesWithin hlow (Bool.and_eq_true_iff.mp hboth).1
        dsimp only
        split <;> omega
      next =>
        split
        next hbelow => exact ne_zero_of_liesWithin hlow hbelow
        next =>
          split
          next habove => exact Nat.succ_ne_zero d
          next => exact ih (by omega)

theorem digits_trimmed_ne_zero {d : Digits} (h : d.digits ≠ 0) (fuel : Nat) :
    (d.trimmed fuel).digits ≠ 0 := by
  induction fuel generalizing d with
  | zero => exact h
  | succ fuel ih =>
      rw [Digits.trimmed]
      split
      next hzero => exact ih (by dsimp only; omega)
      next => exact h

/-- The shortest digits of a number that is not zero are not all zero. -/
theorem digits_shortest_ne_zero {mantissa : Nat} (h : mantissa ≠ 0) (exponent : Int) :
    (shortest mantissa exponent).digits ≠ 0 := by
  have hratio : ∃ unit den, 0 < unit ∧ 0 < den ∧
      ratio (4 * mantissa) exponent = (4 * mantissa * unit, den) ∧
      (ratio 1 exponent).1 = unit := by
    unfold ratio
    split
    · exact ⟨_, 1, Nat.pow_pos (by decide), by decide, rfl, Nat.one_mul _⟩
    · exact ⟨1, Nat.pow 2 exponent.natAbs, by decide, Nat.pow_pos (by decide),
        by rw [Nat.mul_one], rfl⟩
  obtain ⟨unit, den, hunit, hden, hnumber, hone⟩ := hratio
  have hfour : 4 * unit ≤ 4 * mantissa * unit :=
    Nat.mul_le_mul_right unit (by omega)
  unfold shortest
  rw [hnumber]
  dsimp only
  rw [hone]
  refine digits_trimmed_ne_zero (digits_searchGrid_ne_zero (by omega) ?_
    (tenPowLe_leadingExponent (by omega)) 16 (Nat.le_refl 1)) 20
  split <;> omega

end Shortest

/-- The text of a finite floating point number is a numeral. -/
theorem isNumeral_floatText {x : Float} {negative : Bool} {mantissa : Nat} {exponent : Int}
    (h : Binary.ofFloat x = .finite negative mantissa exponent) :
    IsNumeral (floatText x).toList := by
  have hunsigned : IsUnsigned (if mantissa = 0 then "0.0"
      else shortestText (shortest mantissa exponent)).toList := by
    split
    next => exact .parts .zero .zero .absent
    next hmantissa =>
      exact Observe.isUnsigned_shortestText (digits_shortest_ne_zero hmantissa exponent)
  have htext : (floatText x).toList = (if negative then "-" else "").toList
      ++ (if mantissa = 0 then "0.0" else shortestText (shortest mantissa exponent)).toList := by
    rw [floatText, h]
    dsimp only
    split <;> rw [String.toList_append]
  rw [htext]
  cases negative with
  | true => exact .negative hunsigned
  | false => exact .positive hunsigned

end BoundSql.Decimal
