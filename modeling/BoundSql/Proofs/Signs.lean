import BoundSql.Proofs.Boundaries
set_option autoImplicit false

/-!
# Rows of signs

A numeral behind a row of signs is an expression for every length of the row, and one that nests as
deep as the row is long: each sign enters one more rule and is one more level of the tree.  The room
behind a number of calls is therefore settled here for the whole family of texts at once: a short
row fits, a longer one runs out of stack, and one that is longer than the rules allow runs out of
memory, before there is a tree (`Room.behind_exhausts_signed`).

A site with such an expression is neither malformed nor read, wherever the template is made.  What
other modules need is the outcome of reading and of scanning it (`siteAt_signed`, `scan_signed`).
-/

namespace BoundSql.Expr

/-! ## The tree of a signed numeral -/

/-- A numeral behind so many signs. -/
def signed (n : Nat) : List Char := List.replicate n '-' ++ ['1']

/-- The tokens of a numeral behind so many signs. -/
def signedTokens (n : Nat) : List Token := List.replicate n (.mark "-") ++ [.number (.int 1)]

/-- A numeral that is negated so many times. -/
def signedTree : Nat → Tree
  | 0 => .const (.int 1)
  | n + 1 => .unary .negate (signedTree n)

namespace Readers

variable {r : Readers} {ts : List Token} {t : Tree}

theorem factorHere_sign (r : Readers) (ts : List Token) :
    r.factorHere (.mark "-" :: ts) = (r.factor ts).map fun p => (.unary .negate p.1, p.2) := by
  change (r.factor ts).bind _ = _
  cases r.factor ts <;> rfl

/-- Operands of a sign are read one level further in, so that each sign takes one level. -/
theorem factor_signed (depth n : Nat) :
    (ofDepth (depth + n + 1)).factor (signedTokens n ++ [.mark ")"])
      = some (signedTree n, [.mark ")"]) := by
  induction n with
  | zero => rfl
  | succ n ih =>
      change (ofDepth (depth + n + 1)).factorHere (.mark "-" :: (signedTokens n ++ [.mark ")"])) = _
      rw [factorHere_sign, ih]
      rfl

/-- A step that answers with nothing is not repeated. -/
theorem repeated_eq_nil {α : Type} {step : Reading (Option α)} (h : step ts = some (none, ts)) :
    Reading.repeated step ts = some ([], ts) :=
  Reading.bind_eq_some_iff.mpr ⟨none, ts, h, rfl⟩

/-- In front of a closing parenthesis no operator follows an operand. -/
theorem leftAssociative_close {operator : String → Option BinaryOp} {operand : Reading Tree}
    (hclose : operator ")" = none) (h : operand ts = some (t, [.mark ")"])) :
    Reading.leftAssociative operator operand ts = some (t, [.mark ")"]) := by
  have hsymbol : Reading.acceptSymbol operator [.mark ")"] = some (none, [.mark ")"]) :=
    acceptSymbol_of_begins_eq_false (by simp [isOperator, hclose])
  refine Reading.bind_eq_some_iff.mpr ⟨t, _, h, ?_⟩
  refine Reading.bind_eq_some_iff.mpr ⟨[], _, repeated_eq_nil ?_, rfl⟩
  exact Reading.bind_eq_some_iff.mpr ⟨none, _, hsymbol, rfl⟩

/-- In front of a closing parenthesis no word follows an operand. -/
theorem connected_close {word : String} {join : List Tree → Tree} {operand : Reading Tree}
    (h : operand ts = some (t, [.mark ")"])) :
    connected word join operand ts = some (t, [.mark ")"]) :=
  Reading.bind_eq_some_iff.mpr ⟨t, _, h, rfl⟩

/-- In front of a closing parenthesis an expression that begins with a sign is a single factor. -/
theorem expressionHere_sign (h : r.factorHere (.mark "-" :: ts) = some (t, [.mark ")"])) :
    r.expressionHere (.mark "-" :: ts) = some (t, [.mark ")"]) := by
  have hbits : r.bitOrHere (.mark "-" :: ts) = some (t, [.mark ")"]) := by
    iterate 6 refine leftAssociative_close rfl ?_
    exact h
  have hcomparison : r.comparisonHere (.mark "-" :: ts) = some (t, [.mark ")"]) :=
    Reading.bind_eq_some_iff.mpr ⟨t, _, hbits, rfl⟩
  have hinversion : r.inversionHere (.mark "-" :: ts) = some (t, [.mark ")"]) :=
    ((accepts_acceptKeyword "not").else_eq rfl).trans hcomparison
  rw [Readers.expressionHere, (accepts_acceptKeyword "lambda").else_eq rfl]
  exact Reading.bind_eq_some_iff.mpr ⟨t, _, connected_close (connected_close hinversion), rfl⟩

end Readers

theorem levelBound_signedTokens (n : Nat) (ts : List Token) :
    levelBound (signedTokens n ++ ts) = levelBound ts + n + 1 := by
  induction n with
  | zero => exact Nat.add_comm 1 _
  | succ n ih =>
      change 1 + levelBound (signedTokens n ++ ts) = _
      rw [ih]
      omega

/-- A row without brackets, in parentheses. -/
theorem enclosed_of_opens_eq_zero {ts : List Token} (h : ∀ t ∈ ts, t.opens = 0) :
    Enclosed (inParentheses ts) := by
  have hflat : ∀ us : List Token, (∀ t ∈ us, t.opens = 0) → nesting us = 0 := by
    intro us hus
    induction us with
    | nil => rfl
    | cons t us ih =>
        have hrest := ih fun t ht => hus t (List.mem_cons_of_mem _ ht)
        rw [nesting_cons, hus t List.mem_cons_self, hrest]
        rfl
  refine ⟨?_, fun us hpre hne hall => ?_⟩
  · rw [nesting_cons, nesting_append, hflat ts h]
    rfl
  · obtain rfl | ⟨vs, rfl, hvs⟩ := List.prefix_cons_iff.mp hpre
    · exact absurd rfl hne
    · have hfront := (List.prefix_concat_iff.mp hvs).resolve_left fun heq => hall (by rw [heq])
      rw [nesting_cons, hflat vs fun t ht => h t (hfront.subset ht)]
      decide

theorem opens_of_mem_signedTokens {n : Nat} {t : Token} (h : t ∈ signedTokens n) : t.opens = 0 := by
  rcases List.mem_append.mp h with h | h
  · rw [List.eq_of_mem_replicate h]
    rfl
  · rw [List.mem_singleton.mp h]
    rfl

/-- A signed numeral in parentheses is read as such. -/
theorem readTokens_signed (n : Nat) :
    readTokens (inParentheses (signedTokens (n + 1))) = some (signedTree (n + 1)) := by
  have hbound : levelBound (inParentheses (signedTokens (n + 1))) = n + 4 := by
    change 1 + levelBound (signedTokens (n + 1) ++ [.mark ")"]) = _
    rw [levelBound_signedTokens]
    change 1 + (1 + (n + 1) + 1) = _
    omega
  have hexpression : (Readers.ofDepth (n + 4)).expression (signedTokens (n + 1) ++ [.mark ")"])
      = some (signedTree (n + 1), [.mark ")"]) := by
    have hfactor := Readers.factor_signed 2 n
    rw [Nat.add_right_comm, Nat.add_comm _ n] at hfactor
    refine Readers.expressionHere_sign ((Readers.factorHere_sign _ _).trans ?_)
    exact congrArg (Option.map _) hfactor
  have henclosed : Enclosed (inParentheses (signedTokens (n + 1))) :=
    enclosed_of_opens_eq_zero fun _ => opens_of_mem_signedTokens
  rw [readTokens_inParentheses henclosed, hbound,
    Readers.parenthesized, (accepts_accept ")").else_eq rfl,
    (accepts_acceptKeyword "yield").else_eq rfl]
  exact Reading.bind_eq_some_iff.mpr ⟨_, _, hexpression, rfl⟩

/-! ## Levels and rules -/

/-- Each sign is one more level. -/
theorem levelsWithin_signedTree (n fuel : Nat) :
    (signedTree n).levelsWithin fuel = min fuel (n + 1) := by
  induction n generalizing fuel with
  | zero =>
      cases fuel with
      | zero => rfl
      | succ fuel => rw [signedTree, levelsWithin_const]; omega
  | succ n ih =>
      cases fuel with
      | zero => exact (Nat.zero_min _).symm
      | succ fuel =>
          change max 1 (1 + (signedTree n).levelsWithin fuel) = _
          rw [ih]
          omega

theorem isDeeperThan_signedTree (n limit : Nat) :
    (signedTree n).isDeeperThan limit = decide (limit < n + 1) := by
  rw [Tree.isDeeperThan, levelsWithin_signedTree]
  exact decide_eq_decide.mpr (by omega)

/-- The rules that are entered along a row are at least those in front of it. -/
theorem rules_le_rulesFrom (behindOperand : Bool) (f : Frame) (outer : List Frame)
    (ts : List Token) : f.rules ≤ rulesFrom behindOperand f outer ts := by
  cases ts with
  | nil => exact Nat.le_refl _
  | cons t ts =>
      rw [rulesFrom]
      split
      · exact Nat.le_refl _
      · exact Nat.le_max_left _ _

theorem rules_signs (n : Nat) (f : Frame) :
    ({ f with pending := List.replicate n ⟨6, 1⟩ ++ f.pending } : Frame).rules = n + f.rules := by
  induction n with
  | zero => exact (Nat.zero_add _).symm
  | succ n ih =>
      rw [Nat.succ_add, ← ih]
      exact Nat.one_add _

/-- Signs where an operand is expected, each of which enters one more rule. -/
theorem rulesFrom_signs (n : Nat) (f : Frame) (outer : List Frame) (ts : List Token) :
    rulesFrom false f outer (List.replicate n (.mark "-") ++ ts)
      = rulesFrom false { f with pending := List.replicate n ⟨6, 1⟩ ++ f.pending } outer ts := by
  induction n generalizing f with
  | zero => rfl
  | succ n ih =>
      change max f.rules (rulesFrom false (f.nested 6 1) outer (List.replicate n (.mark "-") ++ ts))
        = _
      have hrow : List.replicate n ⟨6, 1⟩ ++ (f.nested 6 1).pending
          = List.replicate (n + 1) (⟨6, 1⟩ : Pending) ++ f.pending := by
        rw [List.replicate_succ', List.append_assoc]
        rfl
      rw [ih, hrow]
      refine Nat.max_eq_right (Nat.le_trans ?_ (rules_le_rulesFrom _ _ _ _))
      exact Nat.le_trans (Nat.le_add_left _ _) (Nat.le_of_eq (rules_signs (n + 1) f).symm)

/-- Each sign is one more rule. -/
theorem rulesOf_signed (n : Nat) : rulesOf (inParentheses (signedTokens n)) = n + 53 := by
  let opened : Frame := { items := itemRules "(" false }
  let signs : Frame := { opened with pending := List.replicate n ⟨6, 1⟩ ++ [] }
  have hrow : signedTokens n ++ [.mark ")"]
      = List.replicate n (.mark "-") ++ [.number (.int 1), .mark ")"] := List.append_assoc _ _ _
  have hrules : signs.rules = n + 28 := rules_signs n opened
  change wordRules + max 0 (rulesFrom false opened [{}] (signedTokens n ++ [.mark ")"])) = _
  rw [hrow, rulesFrom_signs]
  change wordRules + max 0 (max signs.rules (max signs.rules 0)) = _
  rw [hrules, wordRules]
  omega

/-! ## The text of a signed numeral -/

theorem mem_signed {n : Nat} {c : Char} (h : c ∈ signed n) : c = '-' ∨ c = '1' := by
  rcases List.mem_append.mp h with h | h
  · exact .inl (List.eq_of_mem_replicate h)
  · exact .inr (List.mem_singleton.mp h)

/-- Signs in a row are tokens of their own. -/
theorem lexed_signs (stack : List String) (n : Nat) (cs : List Char) :
    lexed stack (List.replicate n '-' ++ '1' :: cs)
      = (lexed stack ('1' :: cs)).map (List.replicate n (.mark "-") ++ ·) := by
  induction n with
  | zero => simp
  | succ n ih =>
      have hfront : front ('-' :: (List.replicate n '-' ++ '1' :: cs))
          = some (.token (.mark "-"), List.replicate n '-' ++ '1' :: cs) := by
        cases n <;> rfl
      rw [List.replicate_succ, List.cons_append, lexed_eq stack (List.cons_ne_nil _ _), hfront]
      change (lexed stack _).map _ = _
      rw [ih, Option.map_map]
      rfl

theorem tokens_signed (n : Nat) :
    tokens ('(' :: (signed n ++ ['\n', ')'])) = some (inParentheses (signedTokens n)) := by
  have hzero : ('(' :: (signed n ++ ['\n', ')'])).contains '\x00' = false := by
    simp [signed, List.mem_replicate]
  have hreturn : '\r' ∉ '(' :: (signed n ++ ['\n', ')']) := by
    simp [signed, List.mem_replicate]
  have hnumeral : lexed [")"] ['1', '\n', ')'] = some [.number (.int 1), .mark ")"] := by cbv
  have hrow : signed n ++ ['\n', ')'] = List.replicate n '-' ++ '1' :: ['\n', ')'] := by
    rw [signed, List.append_assoc]
    rfl
  rw [tokens, hzero, if_neg Bool.false_ne_true, unixLines_of_not_mem hreturn]
  change lexed [] _ = _
  rw [lexed_eq [] (List.cons_ne_nil _ _), front_open]
  change (lexed [")"] _).map _ = _
  rw [hrow, lexed_signs, hnumeral, inParentheses, signedTokens, List.append_assoc]
  rfl

end BoundSql.Expr

namespace BoundSql.Template

open BoundSql.Expr

/-! ## Rooms for signed numerals -/

/-- The source that is compiled for a signed numeral in parentheses. -/
def signedSource (n : Nat) : List Char := '(' :: (signed n ++ ['\n', ')'])

/-- Behind so many calls, what runs out over a numeral with a sign at least: the memory if the rules
are too many, and else the stack if the levels are. -/
theorem Room.behind_exhausts_signed (calls n : Nat) :
    (Room.behind calls).exhausts (signedSource (n + 1)) =
      if rulesLimit < n + 54 then some .memory
      else if stackLimit - calls < n + 2 then some .stack
      else none := by
  have hname : (signedSource (n + 1)).all isNameChar = false := rfl
  have htree : treeOf (signedSource (n + 1)) = some (signedTree (n + 1)) := by
    rw [treeOf, signedSource, tokens_signed, Option.bind_some, readTokens_signed]
  change (if (signedSource (n + 1)).all isNameChar = true then none
    else exhaustsWithin (stackLimit - calls) (tokensAhead (signedSource (n + 1)))
      (treeOf (signedSource (n + 1)))) = _
  rw [hname, if_neg Bool.false_ne_true, exhaustsWithin, htree, signedSource,
    tokensAhead_of_tokens (tokens_signed (n + 1)), rulesOf_signed, Option.any_some,
    isDeeperThan_signedTree]
  simp only [decide_eq_true_eq]

/-- A row of signs that is as long as the stack runs out of stack, whoever calls, as long as the
rules suffice. -/
theorem Room.behind_exhausts_stack (calls : Nat) {n : Nat} (hstack : stackLimit ≤ n)
    (hrules : n + 53 ≤ rulesLimit) :
    (Room.behind calls).exhausts (signedSource n) = some .stack := by
  obtain ⟨n, rfl⟩ : ∃ m, n = m + 1 := ⟨n - 1, by rw [stackLimit] at hstack; omega⟩
  rw [behind_exhausts_signed, if_neg (by omega), if_pos (by omega)]

/-- A row of signs that takes more rules than there are runs out of memory, whoever calls. -/
theorem Room.behind_exhausts_memory (calls : Nat) {n : Nat} (hrules : rulesLimit < n + 53) :
    (Room.behind calls).exhausts (signedSource n) = some .memory := by
  obtain ⟨n, rfl⟩ : ∃ m, n = m + 1 := ⟨n - 1, by rw [rulesLimit] at hrules; omega⟩
  rw [behind_exhausts_signed, if_pos (by omega)]

/-! ## Sites and templates with signed numerals -/

section Sites

variable {room : Room} {e : Exhaustion} {n : Nat}

/-- Template text that is a signed numeral in parentheses behind a marker. -/
def signedTemplate (n : Nat) : String := String.ofList ('$' :: '(' :: (signed n ++ [')']))

/-- A signed numeral in parentheses is read up to its parenthesis. -/
theorem Site.read_signed {Code : Type} (compile : List Char → Verdict Code) (n : Nat) :
    Site.read compile ('(' :: (signed n ++ [')']))
      = (Site.make compile (signed n) (signedSource n) false).map fun site => (site, []) := by
  have hplain : Plain (signed n) := fun c hc => by
    rcases mem_signed hc with rfl | rfl <;> rfl
  have hbracket : afterBracket '(' (signed n ++ [')'] ++ []) = .ok [] := by
    rw [List.append_nil]
    exact closeBrackets_plain_close hplain
  have htrim : Text.trim (signed n) = signed n := by
    refine Text.trim_eq_self (fun c hc => ?_) (fun c hc => ?_)
    · rcases mem_signed (List.mem_of_head? hc) with rfl | rfl <;> decide
    · rcases mem_signed (List.mem_of_getLast? hc) with rfl | rfl <;> decide
  have hsplat : isSplat (signed n) = false := by
    cases n <;> rfl
  rw [← List.append_nil (signed n ++ [')']), Site.read_parenthesised hbracket,
    List.dropLast_concat, Site.ofInner, htrim, hsplat]
  rfl

/-- Where something runs out over the source, that is what comes of reading the site. -/
theorem Site.read_signed_of_exhausts (h : room.exhausts (signedSource n) = some e) :
    Site.read room.compile ('(' :: (signed n ++ [')'])) = .error (.exhausted e) := by
  have hne : signed n ≠ [] := by simp [signed]
  rw [Site.read_signed, Site.make_of_exhausts hne h]
  rfl

theorem siteAt_signed (h : room.exhausts (signedSource n) = some e) :
    siteAt room.compile (signedTemplate n) 1 = .error (.exhausted e) := by
  rw [siteAt, signedTemplate, String.toList_ofList, List.drop_succ_cons, List.drop_zero,
    Site.read_signed_of_exhausts h]
  rfl

theorem scan_signed (h : room.exhausts (signedSource n) = some e) :
    scan {} room.compile (signedTemplate n) = .error (.exhausted e) := by
  have hrefused : Refused {} room.compile ⟨false, '$' :: '(' :: (signed n ++ [')'])⟩
      (.unread (.exhausted e)) :=
    @Refused.unread _ {} room.compile _ _ (Site.read_signed_of_exhausts h)
  have hfailure := hrefused.pieces_eq
  rw [← String.toList_ofList (l := '$' :: '(' :: (signed n ++ [')']))] at hfailure
  exact scan_eq_error_iff.mpr ⟨_, hfailure, rfl⟩

end Sites

end BoundSql.Template
