import BoundSql.Eval.Engine
import BoundSql.Eval.Names
import BoundSql.Value.Attribute
set_option autoImplicit false

/-!
# Iterators

The next element of every kind of iterator.  A comprehension is an iterator too: it keeps the
iterators of the clauses it has entered, and goes on from the innermost of them.

An iterator lives in the store and remembers where it stands.  `nextElement` has one case for each
kind: it moves the iterator on, and answers with nothing once and for all when the iterator is
exhausted.  A list may grow or shrink while it is walked through, and is asked for its length each
time; a dictionary must not, and its iterator fails.  Targets of assignments are bound here as well,
since clauses bind them in every round.
-/

namespace BoundSql.Eval

open BoundSql.Value
open BoundSql.Expr (Tree Clause ComprehensionKind)

/-! ## Targets -/

/-- The first elements of an iterator, as many as asked for, or fewer if there are no more. -/
def takeNext (next : Eval (Option Val)) : (count : Nat) → Eval (List Val)
  | 0 => pure []
  | count + 1 => do
      match ← next with
      | none => pure []
      | some v => do pure (v :: (← takeNext next count))

/-- Whether a target takes all elements that are left over. -/
def isStar : Tree → Bool
  | .star _ => true
  | _ => false

/-- Puts the elements of a value into the places of a slice of the list at an address.  A slice of
neighbours takes any number of elements, another one as many as it has places. -/
def assignSlice (e : Engine) (address : Nat) (start stop step v : Val) : Eval Unit := do
  let listAt : Eval (Array Val) := do
    match ← Eval.load address with
    | .list items => pure items
    | _ => Eval.fail .wrongType
  let (first, last, stride) ← sliceOf (← listAt).size start stop step
  let vs ← e.elements v
  let items := (← listAt).toList
  if stride = 1 then
    let last := max first last
    let changed := items.take first.toNat ++ vs ++ items.drop last.toNat
    Eval.save address (.list changed.toArray)
  else
    let places := slicePlaces first last stride
    if places.length ≠ vs.length then Eval.fail .wrongValue
    let changed := (places.zip vs).foldl (fun (items : Array Val) p =>
      items.setIfInBounds p.1 p.2) items.toArray
    Eval.save address (.list changed)

/-- Sets an element by index or key, or the elements of a slice. -/
def assignItem (e : Engine) (v index w : Val) : Eval Unit := do
  match v, index with
  | .object address, .slice start stop step => do
      match ← Eval.load address with
      | .list _ => assignSlice e address start stop step w
      | _ => writeItem v index w
  | _, _ => writeItem v index w

/-- Binds the target of a clause in a frame; `fuel` bounds the depth of the target. -/
def bindTarget (e : Engine) (env : Env) (frame : Nat) : (fuel : Nat) → Tree → Val → Eval Unit
  | 0, _, _ => Eval.fail .tooDeep
  | fuel + 1, target, v => do
      let unpack (ts : List Tree) : Eval Unit := do
        match ts.findIdx? isStar with
        | none => do
            let it ← iterate v
            let vs ← takeNext (e.nextOf it) (ts.length + 1)
            if vs.length ≠ ts.length then Eval.fail .wrongValue
            (ts.zip vs).forM fun p => bindTarget e env frame fuel p.1 p.2
        | some before => do
            let vs ← e.elements v
            let after := ts.length - before - 1
            if vs.length < before + after then Eval.fail .wrongValue
            let rest ← Eval.makeList ((vs.take (vs.length - after)).drop before)
            let vs := vs.take before ++ rest :: vs.drop (vs.length - after)
            (ts.zip vs).forM fun p => bindTarget e env frame fuel p.1 p.2
      match target with
      | .name id => bindIn frame id v
      | .star t => bindTarget e env frame fuel t v
      | .tuple ts | .list ts => unpack ts
      | .attribute object field => do writeAttribute (← e.eval env object) field v
      | .subscript object index => do
          let object ← e.eval env object
          assignItem e object (← e.eval env index) v
      | _ => Eval.fail .wrongType

/-! ## Comprehensions -/

/-- Constants as the elements of a set.  The set is put together twice, the second time in the order
of the first. -/
def constantSlots (vs : List Val) : Eval Slots := do
  Slots.addAll {} (← Slots.addAll {} vs).elements

/-- The value of the iterable of a clause.  A set of constants is frozen. -/
def iterableValue (e : Engine) (env : Env) (t : Tree) : Eval Val := do
  match t with
  | .set ts =>
      if ts.all Tree.isConstant then do
        Eval.make (.set true (← constantSlots (← ts.mapM (e.eval env))))
      else e.eval env t
  | t => e.eval env t

/-- Whether all conditions of a clause hold. -/
def allHold (e : Engine) (env : Env) : List Tree → Eval Bool
  | [] => pure true
  | t :: ts => do if ← truth (← e.eval env t) then allHold e env ts else pure false

/-- The element of a comprehension; that of a dictionary is a pair. -/
def comprehensionElement (e : Engine) (g : Generator) : Eval Val := do
  match g.isDict, g.element with
  | true, .tuple [key, value] => do
      let k ← e.eval g.env key
      pure (.tuple [k, ← e.eval g.env value])
  | _, element => e.eval g.env element

/-- Goes on with a comprehension to its next element, in at most `fuel` steps.  The answer holds
the iterators that are active then. -/
def resume (e : Engine) (g : Generator) : (fuel : Nat) → (active : List Val) →
    Eval (Option (Val × List Val))
  | 0, _ => pure none
  | fuel + 1, active => do
      match active with
      | [] => pure none
      | it :: outer => do
          match ← e.nextOf it with
          | none => resume e g fuel outer
          | some v => do
              match g.clauses[outer.length]? with
              | none => pure none
              | some (.mk _ target _ conditions) => do
                  bindTarget e g.env (g.env.frames.headD 0) 1000 target v
                  if ← allHold e g.env conditions then
                    match g.clauses[active.length]? with
                    | none => do pure (some (← comprehensionElement e g, active))
                    | some (.mk _ _ iterable _) => do
                        let inner ← iterate (← iterableValue e g.env iterable)
                        resume e g fuel (inner :: active)
                  else resume e g fuel active

/-- The name that a comprehension goes by. -/
def comprehensionName : ComprehensionKind → String
  | .list => "<listcomp>"
  | .set => "<setcomp>"
  | .dict => "<dictcomp>"
  | .generator => "<genexpr>"

/-- A comprehension over an iterator for its first clause.  Its targets live in a frame of their
own. -/
def startComprehension (env : Env) (kind : ComprehensionKind) (element : Tree)
    (clauses : List Clause) (first : Val) : Eval Generator := do
  let env ← withTable env
  let name := env.path ++ comprehensionName kind
  match ← Eval.make (.frame { isFunction := false, locals := clauseNames clauses, values := [] })
  with
  | .object frame =>
      pure { name, isDict := kind == .dict, element, clauses, active := [first],
             env := { env with frames := frame :: env.frames, path := name ++ "." },
             running := false }
  | _ => Eval.fail .tooDeep

/-- All elements of a comprehension, folded. -/
def foldComprehension {σ : Type} (e : Engine) (g : Generator) (f : σ → Val → Eval σ) :
    (fuel : Nat) → (active : List Val) → σ → Eval σ
  | 0, _, s => pure s
  | fuel + 1, active, s => do
      match ← resume e g stepLimit active with
      | none => pure s
      | some (v, active) => do foldComprehension e g f fuel active (← f s v)

/-! ## Next elements -/

/-- One element from each iterator, unless one of them has no more. -/
def nextOfAll (e : Engine) : List Val → Eval (Option (List Val))
  | [] => pure (some [])
  | it :: its => do
      match ← e.nextOf it with
      | none => pure none
      | some v => do pure ((← nextOfAll e its).map (v :: ·))

/-- One element from each of several iterators that must end together. -/
def nextTogether (e : Engine) : List Val → Eval (Option (List Val))
  | [] => pure none
  | it :: its => do
      match ← e.nextOf it with
      | none => do
          its.forM fun it => do
            if (← e.nextOf it).isSome then Eval.fail .wrongValue
          pure none
      | some v => do
          match ← nextOfAll e its with
          | none => Eval.fail .wrongValue
          | some vs => pure (some (v :: vs))

/-- The next element of an iterator that passes a test, in at most `fuel` steps. -/
def nextPassing (e : Engine) (f it : Val) : (fuel : Nat) → Eval (Option Val)
  | 0 => pure none
  | fuel + 1 => do
      match ← e.nextOf it with
      | none => pure none
      | some v => do
          let verdict ← match f with
            | .none => pure v
            | f => e.call f [v] []
          if ← truth verdict then pure (some v) else nextPassing e f it fuel

/-- The next value of a function that yields.  All of its body is evaluated when the first value is
asked for. -/
def nextYielded (e : Engine) (address : Nat) (name : String) (body : Option (Tree × Env))
    (rest : List Val) (failure : Option Fault) : Eval (Option Val) := do
  let keep (rest : List Val) (failure : Option Fault) : Eval Unit :=
    Eval.save address (.iterator (.yielding name none rest failure))
  let serve (rest : List Val) (failure : Option Fault) : Eval (Option Val) := do
    match rest, failure with
    | v :: rest, failure => do
        keep rest failure
        pure (some v)
    | [], some fault => do
        keep [] none
        Eval.fail fault
    | [], none => do
        keep [] none
        pure none
  match body with
  | none => serve rest failure
  | some (t, env) => do
      keep [] (some .wrongValue)
      let failure ← tryCatch (do
        let _ ← Eval.deeper (e.eval env t)
        pure none) fun fault => pure (some (afterFailure fault))
      serve (← frameAt (env.frames.headD 0)).yielded.toList failure

/-- The next element of a generator.  A generator that fails, or that runs out, is finished. -/
def nextOfGenerator (e : Engine) (address : Nat) (g : Generator) : Eval (Option Val) := do
  if g.running then Eval.fail .wrongValue
  let finish : Eval Unit := Eval.save address (.iterator (.yielding g.name none [] none))
  Eval.save address (.iterator (.generator { g with running := true }))
  let answer ← tryCatch (Eval.deeper (resume e g stepLimit g.active)) fun fault => do
    finish
    Eval.fail (afterFailure fault)
  match answer with
  | none => do
      finish
      pure none
  | some (v, active) => do
      let g := { g with active, started := true, running := false }
      Eval.save address (.iterator (.generator g))
      pure (some v)

/-- A step that runs out of elements inside ends the iterator that takes it. -/
def endingWhenExhausted (step : Eval (Option Val)) : Eval (Option Val) :=
  tryCatch step fun
    | .exhausted => pure none
    | fault => Eval.fail fault

/-- The next element of the iterator at an address. -/
def nextElement (e : Engine) (address : Nat) : Eval (Option Val) := do
  match ← Eval.load address with
  | .iterator it => do
      let keep (it : Iterator) : Eval Unit := Eval.save address (.iterator it)
      let finish : Eval (Option Val) := do
        keep (.finished it.className)
        pure none
      match it with
      | .items _ [] => finish
      | .items className (v :: rest) => do
          keep (.items className rest)
          pure (some v)
      | .count _ _ 0 => finish
      | .count n step (left + 1) => do
          keep (.count (n + step) step left)
          pure (some (.int n))
      | .listUp list index => do
          match ← Eval.load list with
          | .list items =>
              match items[index]? with
              | some v => do
                  keep (.listUp list (index + 1))
                  pure (some v)
              | none => finish
          | _ => finish
      | .listDown list index => do
          match index, ← Eval.load list with
          | index + 1, .list items =>
              match items[index]? with
              | some v => do
                  keep (.listDown list index)
                  pure (some v)
              | none => finish
          | _, _ => finish
      | .dictionary kind dict index size => do
          match ← Eval.load dict with
          | .dict entries =>
              if entries.size ≠ size then do
                keep (.dictionary kind dict index stepLimit)
                Eval.fail .changedUnderway
              else
                match entries[index]? with
                | some entry => do
                    keep (.dictionary kind dict (index + 1) size)
                    pure (some (kind.part entry))
                | none => finish
          | _ => finish
      | .dictionaryDown kind dict index size => do
          match ← Eval.load dict with
          | .dict entries =>
              if entries.size ≠ size then do
                keep (.dictionaryDown kind dict index stepLimit)
                Eval.fail .changedUnderway
              else
                match index, entries[index - 1]? with
                | index + 1, some entry => do
                    keep (.dictionaryDown kind dict index size)
                    pure (some (kind.part entry))
                | _, _ => finish
          | _ => finish
      | .set set index size => do
          match ← Eval.load set with
          | .set _ t =>
              if t.size ≠ size then do
                keep (.set set index stepLimit)
                Eval.fail .changedUnderway
              else
                match t.heldFrom (t.capacity - index) index with
                | some (i, v) => do
                    keep (.set set (i + 1) size)
                    pure (some v)
                | none => finish
          | _ => finish
      | .enumerate n source => do
          match ← e.nextOf source with
          | some v => do
              keep (.enumerate (n + 1) source)
              pure (some (.tuple [.int n, v]))
          | none => pure none
      | .zip strict sources => do
          if sources.isEmpty then pure none
          else
            let vs ← if strict then nextTogether e sources else nextOfAll e sources
            pure (vs.map .tuple)
      | .map f sources => endingWhenExhausted do
          match ← nextOfAll e sources with
          | some vs => do pure (some (← e.call f vs []))
          | none => pure none
      | .filter f source => endingWhenExhausted (nextPassing e f source stepLimit)
      | .callUntil f sentinel => endingWhenExhausted do
          let v ← e.call f [] []
          if ← sameElement sentinel v then finish else pure (some v)
      | .generator g => nextOfGenerator e address g
      | .yielding name body rest failure => nextYielded e address name body rest failure
      | .finished _ => pure none
  | _ => Eval.fail .wrongType

end BoundSql.Eval
