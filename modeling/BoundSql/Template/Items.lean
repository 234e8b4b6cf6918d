import BoundSql.Query.Sql
set_option autoImplicit false

/-!
# Queries from items

A query can be given as a row of items that are cut apart already: texts, which are literal SQL,
and values.  A value next to a single quote of a neighbouring text would stand inside an SQL
string, and is refused.

The check looks at the neighbours of a value and at nothing further away, so that a quote which is
hidden from it by a text without characters is not seen.  It is made before anything is built.  The
refusal of a row tells the place of the value and shows it with its neighbours (`neighbours`).
-/

namespace BoundSql.Template

open BoundSql.Query (Element Sql)

/-- An item of a row. -/
inductive Item (V : Type) where
  | text (s : String)
  | value (v : V)
  deriving DecidableEq, Repr, Inhabited

namespace Item

variable {V : Type}

/-- Whether an item is a text that ends with a single quote. -/
def endsQuoted : Item V → Bool
  | text s => s.toList.getLast? == some '\''
  | value _ => false

/-- Whether an item is a text that begins with a single quote. -/
def beginsQuoted : Item V → Bool
  | text s => s.toList.head? == some '\''
  | value _ => false

/-- Whether an item is a value. -/
def isValue : Item V → Bool
  | text _ => false
  | value _ => true

/-- An item as an element of a query. -/
def toElement (element : V → Element V) : Item V → Element V
  | text s => .literal s
  | value v => element v

end Item

/-- The index of the first value that touches a quote.  `before` says whether the item in front of
the row ends with a quote, and `i` counts the items in front of it. -/
def quotedFrom {V : Type} (before : Bool) (i : Nat) : List (Item V) → Option Nat
  | [] => none
  | item :: rest =>
      if item.isValue && (before || rest.head?.any Item.beginsQuoted) then some i
      else quotedFrom item.endsQuoted (i + 1) rest

/-- The index of the first value that touches a quote. -/
def quotedIndex? {V : Type} (items : List (Item V)) : Option Nat := quotedFrom false 0 items

/-- An item with its neighbours. -/
def neighbours {α : Type} (items : List α) (i : Nat) : List α :=
  (items.take (i + 2)).drop (i - 1)

/-- The query that a row of items stands for, unless a value touches a quote. -/
def sqlOfItems {V : Type} (element : V → Element V) (items : List (Item V)) :
    Except Nat (Sql V) :=
  match quotedIndex? items with
  | some i => .error i
  | none => .ok (Sql.ofElements (items.map (Item.toElement element)))

theorem sqlOfItems_nil {V : Type} (element : V → Element V) :
    sqlOfItems element [] = .ok ⟨[]⟩ := rfl

theorem quotedFrom_bounds {V : Type} {before : Bool} {i j : Nat} {items : List (Item V)}
    (h : quotedFrom before i items = some j) : i ≤ j ∧ j < i + items.length := by
  induction items generalizing before i with
  | nil => simp [quotedFrom] at h
  | cons item rest ih =>
      simp only [quotedFrom] at h
      split at h
      · simp only [Option.some.injEq] at h
        simp only [List.length_cons]
        omega
      · have := ih h
        simp only [List.length_cons]
        omega

end BoundSql.Template
