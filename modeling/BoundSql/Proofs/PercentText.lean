import BoundSql.Proofs.Sending
set_option autoImplicit false

/-!
# Text for drivers that bind by percent signs

Where placeholders are written with a percent sign, a driver that is given parameters searches the
text for them from left to right.  Every percent sign of literal text is doubled for such a driver.
This module shows that the driver reads the query back from the text, and that an executor of this
dialect gives it the parameters along with every query, and none along with raw text.

The driver is a decoder here (`readPercent`): a doubled sign is a sign, a sign with an `s` behind it
is a place for the next parameter, and any other sign is a fault.  What it makes of a text is a row
of symbols, each of them a character or a parameter, and the same row can be read off the nodes of
the query (`Node.symbols`).  That the two agree is an induction over the nodes
(`readPercent_texts`), with one lemma for literal text of any length (`readPercent_escaped_append`).

Whether a driver decodes at all depends on whether it was given parameters.  Raw text is sent
without any, and is taken as it stands.
-/

namespace BoundSql.Query

variable {V : Type}

/-! ## What a driver reads -/

/-- What a driver reads: a character that stands for itself, or a place that a value takes. -/
inductive Symbol (V : Type) where
  | char (c : Char)
  | value (v : V)
  deriving DecidableEq, Repr, Inhabited

/-- What the nodes of a query mean: literal text stands for itself, and a value takes one place. -/
def Node.symbols : Node V → List (Symbol V)
  | .literal fragment => fragment.toList.map .char
  | .argument v => [.value v]

/-- The value that takes a place. -/
def Symbol.value? : Symbol V → Option V
  | .char _ => none
  | .value v => some v

/-- What was read, and the parameters that it left. -/
structure Reading (V : Type) where
  symbols : List (Symbol V)
  unused : List V
  deriving DecidableEq, Repr, Inhabited

/-- A reading with symbols in front of it. -/
def Reading.behind (before : List (Symbol V)) (r : Reading V) : Reading V :=
  { r with symbols := before ++ r.symbols }

@[simp] theorem Reading.behind_nil (r : Reading V) : r.behind [] = r := rfl

@[simp] theorem Reading.behind_behind (before after : List (Symbol V)) (r : Reading V) :
    (r.behind after).behind before = r.behind (before ++ after) := by
  rw [Reading.behind, Reading.behind, Reading.behind, List.append_assoc]

/-- Reads text with percent signs in it: two of them are one, `%s` takes the next parameter, and
nothing else may stand behind a percent sign. -/
def readPercent : List Char → List V → Option (Reading V)
  | [], vs => some ⟨[], vs⟩
  | '%' :: '%' :: cs, vs => (readPercent cs vs).map (Reading.behind [.char '%'])
  | '%' :: 's' :: cs, v :: vs => (readPercent cs vs).map (Reading.behind [.value v])
  | '%' :: _, _ => none
  | c :: cs, vs => (readPercent cs vs).map (Reading.behind [.char c])

/-- Reads text as it is given: without parameters, percent signs mean themselves. -/
def readText (sql : String) : Option (List V) → Option (Reading V)
  | some params => readPercent sql.toList params
  | none => some ⟨sql.toList.map .char, []⟩

theorem readPercent_doubled (cs : List Char) (vs : List V) :
    readPercent ('%' :: '%' :: cs) vs
      = (readPercent cs vs).map (Reading.behind [.char '%']) := rfl

theorem readPercent_placeholder (cs : List Char) (v : V) (vs : List V) :
    readPercent ('%' :: 's' :: cs) (v :: vs)
      = (readPercent cs vs).map (Reading.behind [.value v]) := rfl

theorem readPercent_cons_of_ne {c : Char} (h : c ≠ '%') (cs : List Char) (vs : List V) :
    readPercent (c :: cs) vs = (readPercent cs vs).map (Reading.behind [.char c]) := by
  rw [readPercent]
  all_goals simp [h]

/-! ## Reading queries back -/

/-- Doubled percent signs are read as single ones, whatever follows the text. -/
theorem readPercent_escaped_append (cs rest : List Char) (vs : List V) :
    readPercent (escapePercentChars cs ++ rest) vs
      = (readPercent rest vs).map (Reading.behind (cs.map .char)) := by
  -- Whatever `rest` begins with, it cannot join the last character of `cs`: a percent sign at the
  -- end of `cs` has been doubled, and both signs are read before `rest` is looked at.
  induction cs with
  | nil =>
      have hnil : Reading.behind (V := V) [] = id := funext Reading.behind_nil
      rw [List.map_nil, hnil, Option.map_id]
      rfl
  | cons c cs ih =>
      have hcons : escapePercentChars (c :: cs) ++ rest
          = (if c = '%' then ['%', '%'] else [c]) ++ (escapePercentChars cs ++ rest) := by
        rw [escapePercentChars, List.flatMap_cons, List.append_assoc]
        rfl
      have hread : readPercent (escapePercentChars (c :: cs) ++ rest) vs
          = (readPercent (escapePercentChars cs ++ rest) vs).map (Reading.behind [.char c]) := by
        rw [hcons]
        by_cases hc : c = '%'
        · rw [if_pos hc, hc]
          exact readPercent_doubled _ vs
        · rw [if_neg hc]
          exact readPercent_cons_of_ne hc _ vs
      rw [hread, ih, Option.map_map]
      exact congrArg (Option.map · _) (funext fun r => r.behind_behind _ _)

/-- The texts of nodes are read as what the nodes mean, and take the values of the nodes. -/
theorem readPercent_texts (ns : List (Node V)) (next : Nat) (vs : List V) :
    readPercent (String.join (Compiler.percent.texts next ns)).toList
        (ns.filterMap Node.value? ++ vs)
      = some ⟨ns.flatMap Node.symbols, vs⟩ := by
  induction ns generalizing next with
  | nil => rfl
  | cons n ns ih =>
      cases n with
      | literal fragment =>
          have htext : (String.join (Compiler.percent.texts next (.literal fragment :: ns))).toList
              = escapePercentChars fragment.toList
                ++ (String.join (Compiler.percent.texts next ns)).toList := by
            simp [Compiler.texts, Compiler.literalText, Compiler.percent, escapePercent,
              String.join_cons]
          rw [htext, readPercent_escaped_append]
          have hrest := ih next
          rw [List.filterMap_cons_none rfl, hrest]
          rfl
      | argument v =>
          have htext : (String.join (Compiler.percent.texts next (.argument v :: ns))).toList
              = '%' :: 's' :: (String.join (Compiler.percent.texts (next + 1) ns)).toList := by
            simp [Compiler.texts, Compiler.percent, Placeholder.format, String.join_cons]
          have hvalues : (Node.argument v :: ns).filterMap Node.value?
              = v :: ns.filterMap Node.value? := rfl
          rw [htext, hvalues, List.cons_append, readPercent_placeholder, ih (next + 1)]
          rfl

/-- A query is read back from its text and its parameters, and no parameter is left. -/
theorem readText_compile (q : Sql V) :
    readText (Compiler.percent.compile q).sql (some (Compiler.percent.compile q).params)
      = some ⟨q.args.flatMap Node.symbols, []⟩ := by
  have hread := readPercent_texts q.args 1 []
  rw [List.append_nil] at hread
  exact hread

/-- The values that take places are the parameters. -/
theorem filterMap_value?_symbols (q : Sql V) :
    (q.args.flatMap Node.symbols).filterMap Symbol.value? = q.params := by
  rw [Sql.params]
  induction q.args with
  | nil => rfl
  | cons n ns ih =>
      rw [List.flatMap_cons, List.filterMap_append, ih]
      cases n with
      | literal fragment =>
          have hnone : (fragment.toList.map Symbol.char).filterMap Symbol.value?
              = ([] : List V) := by
            rw [List.filterMap_map]
            exact List.filterMap_eq_nil_iff.mpr fun _ _ => rfl
          rw [Node.symbols, hnone, List.filterMap_cons_none rfl, List.nil_append]
      | argument v => rfl

end BoundSql.Query

namespace BoundSql.Execution

open BoundSql.Query (Compiler Node Sql Symbol readText)
open BoundSql.Value (Val)

namespace Executor

/-! ## Whole runs -/

/-- What the turns of a run send to a driver that binds by percent signs. -/
structure SendsPercentText (x : Executor) (d : Driver) (rs : List Request) : Prop where
  /-- there is one turn for each request -/
  turns : ComesOf x d rs (x.turns d rs {})
  /-- a query goes as escaped text with a list of its parameters -/
  query : ∀ t ∈ x.turns d rs {}, ∀ op q, t.request = .query op (.query q) → op ≠ .executeRaw →
    t.Sends (Compiler.percent.compile q).sql (some q.params)
  /-- what was compiled before goes as it is, with a list of its parameters as well -/
  compiled : ∀ t ∈ x.turns d rs {}, ∀ op c, t.request = .query op (.compiled c) →
    op ≠ .executeRaw → t.Sends c.sql (some c.params)
  /-- raw text goes as it is, without a list -/
  raw : ∀ t ∈ x.turns d rs {}, ∀ sql, t.request = .query .executeRaw (.raw sql) →
    t.Sends sql none

/-- The text of a query that is compiled for percent signs is read back as the query, and every
parameter takes its place.  An executor with the compiler of its dialect sends such text with a
list of parameters, and raw text with none, in whole runs and whatever the driver and the observers
do. -/
theorem percent_text_read_back {setup : Setup} {store store' : Value.Store} {x : Executor}
    (made : setup.executor store = .ok (.ok x) store') (dialect : setup.dialect = .postgres)
    (compiler : setup.compiler = none) (d : Driver) (rs : List Request) :
    (∀ (V : Type) (q : Sql V),
      readText (Compiler.percent.compile q).sql (some (Compiler.percent.compile q).params)
          = some ⟨q.args.flatMap Node.symbols, []⟩
        ∧ (q.args.flatMap Node.symbols).filterMap Symbol.value?
          = (Compiler.percent.compile q).params)
      ∧ SendsPercentText x d rs := by
  have hmade := setup.makes_of_executor made
  have hdialect : x.dialect = .postgres := hmade.dialect.trans dialect
  have hcompiler : x.compiler = .percent := by
    rw [hmade.compiler, compiler, dialect]
    rfl
  have hlist : ∀ op (params : List Val), op ≠ .executeRaw →
      x.driverParams op params = some params := by
    intro op params hop
    rw [driverParams, if_neg fun h => hop h.2]
  have hturn : ∀ t ∈ x.turns d rs {}, ∀ op subject c, t.request = .query op subject →
      x.form? subject = some c → t.Sends c.sql (x.driverParams op c.params) := by
    intro t ht op subject c asks form
    obtain ⟨s, u, hanswered⟩ := exists_answered_of_mem_turns ht
    exact hanswered.sends asks form
  refine ⟨fun V q => ⟨Query.readText_compile q, Query.filterMap_value?_symbols q⟩, ?_⟩
  constructor
  case turns => exact comesOf_turns x d rs
  case query =>
    intro t ht op q asks hop
    have hsends := hturn t ht op _ _ asks rfl
    rw [hlist op _ hop, hcompiler] at hsends
    exact hsends
  case compiled =>
    intro t ht op c asks hop
    have hsends := hturn t ht op _ c asks rfl
    rw [hlist op _ hop] at hsends
    exact hsends
  case raw =>
    intro t ht sql asks
    have hsends := hturn t ht .executeRaw _ _ asks rfl
    rw [driverParams, if_pos ⟨hdialect, rfl⟩] at hsends
    exact hsends

/-- A query with percent signs beside its parameter, and raw text with percent signs. -/
theorem percent_text_read_back_of_modulo :
    let setup : Setup := { dialect := .postgres, lent := true }
    let x : Executor := {
      dialect := .postgres
      access := .lent
      compiler := .percent
      component := componentOf "PostgresExecutor" }
    let q : Sql Val := ⟨[.literal "select 7 %", .argument (.bool true), .literal "s %%"]⟩
    let rs : List Request :=
      [.query .execute (.query q), .query .executeRaw (.raw "select 7 % 2")]
    setup.executor {} = .ok (.ok x) {} ∧ SendsPercentText x lockedDriver rs
      ∧ readText "select 7 %%%ss %%%%" (some q.params) = some ⟨q.args.flatMap Node.symbols, []⟩
      ∧ (x.turns lockedDriver rs {}).map Turn.sent
        = [[("select 7 %%%ss %%%%", some [.bool true])], [("select 7 % 2", none)]] := by
  intro setup x q rs
  have made : setup.executor {} = .ok (.ok x) {} := rfl
  have hread := percent_text_read_back made rfl rfl lockedDriver rs
  have hsql : (Compiler.percent.compile q).sql = "select 7 %%%ss %%%%" := by decide
  refine ⟨made, hread.2, ?_, ?_⟩
  · rw [← hsql]
    exact (hread.1 Val q).1
  · rfl

end Executor

end BoundSql.Execution
