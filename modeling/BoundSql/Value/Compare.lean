import BoundSql.Value.Hash
set_option autoImplicit false

/-!
# Comparing values

When two values are equal, which of two comes first, which values count as true, and which can be
elements of sets.  Elements of collections are equal if they are the same object, whatever their
own comparison says.

Collections may contain themselves, so comparing goes down a bounded number of levels and fails
below that.  Comparing for order is defined for numbers, texts, rows of the same kind and sets,
where it means inclusion, and fails for everything else.  Which comparisons fail is of consequence
to whoever sorts, and so is in which order elements are compared.
-/

namespace BoundSql.Value

open BoundSql.Query (Node)

/-! ## Truth -/

/-- The number of elements of an object that is a collection. -/
def Obj.size? : Obj → Option Nat
  | .list items => some items.size
  | .dict entries => some entries.size
  | .set _ t => some t.size
  | _ => none

/-- The number of elements of a collection. -/
def size? : Val → Eval (Option Nat)
  | .str s => pure (some s.length)
  | .bytes bs => pure (some bs.length)
  | .tuple items => pure (some items.length)
  | .range start stop step => pure (some (rangeLength start stop step))
  | .view _ address | .object address => do pure (← Eval.load address).size?
  | _ => pure none

/-- Whether a value counts as true. -/
def truth (v : Val) : Eval Bool :=
  match v with
  | .none => pure false
  | .bool b => pure b
  | .int n => pure (n != 0)
  | .float x => pure (x != 0)
  | .complex re im => pure (re != 0 || im != 0)
  | .sql args => pure !args.isEmpty
  | v => do
      match ← size? v with
      | some n => pure (n != 0)
      | none => pure true

/-! ## Equality -/

/-- Two references to one object, or a value that is no number and itself. -/
def sameObject : Val → Val → Bool
  | .object a, .object b => a == b
  | .nan a, .nan b => a == b
  | .view k a, .view l b => k == l && a == b
  | _, _ => false

/-- Whether `p` holds of all pairs of two lists of one length. -/
def allPairs (p : Val → Val → Eval Bool) : List Val → List Val → Eval Bool
  | [], [] => pure true
  | v :: vs, w :: ws => do if ← p v w then allPairs p vs ws else pure false
  | _, _ => pure false

/-- Whether two values are equal, where that can be seen at once. -/
def equalAtOnce? : Val → Val → Option Bool
  | .int m, .int n => some (m == n)
  | .str s, .str t => some (s == t)
  | .int _, .str _ | .str _, .int _ => some false
  | _, _ => none

/-- The first entry whose key equals the given one, with its index; `p` decides where that cannot be
seen at once. -/
def findKey (key : Val) (p : Val → Eval Bool) (entries : Array (Val × Val)) :
    Eval (Option (Nat × Val)) :=
  go entries.size
where
  /-- Searches the last `left` entries. -/
  go : (left : Nat) → Eval (Option (Nat × Val))
    | 0 => pure none
    | left + 1 => do
        let i := entries.size - (left + 1)
        match entries[i]? with
        | none => pure none
        | some e =>
            match equalAtOnce? e.1 key with
            | some true => pure (some (i, e.2))
            | some false => go left
            | none => if ← p e.1 then pure (some (i, e.2)) else go left

/-- Whether some element passes a test. -/
def anyElement (p : Val → Eval Bool) : List Val → Eval Bool
  | [] => pure false
  | v :: vs => do if ← p v then pure true else anyElement p vs

/-- Whether all elements pass a test. -/
def allElements (p : Val → Eval Bool) : List Val → Eval Bool
  | [] => pure true
  | v :: vs => do if ← p v then allElements p vs else pure false

/-- The attributes of two objects agree, in whatever order they were set. -/
def sameFields (p : Val → Val → Eval Bool) (fs gs : List (String × Val)) : Eval Bool :=
  if fs.length ≠ gs.length then pure false
  else go fs
where
  go : List (String × Val) → Eval Bool
    | [] => pure true
    | f :: fs => do
        match gs.lookup f.1 with
        | some w => if ← p f.2 w then go fs else pure false
        | none => pure false

/-- Whether an element with a hash is among the elements of a set, where `p` says which values are
the same. -/
def amongEntries (p : Val → Val → Eval Bool) (t : Slots) (hash : UInt64) (v : Val) : Eval Bool :=
  anyElement (fun w => p w v) (t.entries.filterMap fun e => if e.1 == hash then some e.2 else none)

/-- Whether the elements of a set are all among those of another one. -/
def allAmong (p : Val → Val → Eval Bool) (t u : Slots) : Eval Bool :=
  t.entries.allM fun e => amongEntries p u e.1 e.2

/-- The part of an entry that a view shows. -/
def ViewKind.part (kind : ViewKind) (entry : Val × Val) : Val :=
  match kind with
  | .keys => entry.1
  | .values => entry.2
  | .items => .tuple [entry.1, entry.2]

/-- Whether two values are equal; `fuel` bounds the depth of nesting. -/
def equalWithin : (fuel : Nat) → Val → Val → Eval Bool
  | 0, _, _ => Eval.fail .tooDeep
  | fuel + 1, v, w => do
      let element (v w : Val) : Eval Bool :=
        if sameObject v w then pure true else equalWithin fuel v w
      match asNumber? v, asNumber? w with
      | some m, some n => pure (m.equal n)
      | _, _ =>
          match v, w with
          | .none, .none | .ellipsis, .ellipsis | .notImplemented, .notImplemented => pure true
          | .str s, .str t => pure (s == t)
          | .bytes s, .bytes t => pure (s == t)
          | .tuple vs, .tuple ws => allPairs element vs ws
          | .range a b c, .range a' b' c' =>
              let n := rangeLength a b c
              pure (n == rangeLength a' b' c' && (n == 0 || a == a' && (n == 1 || c == c')))
          | .slice a b c, .slice a' b' c' => allPairs element [a, b, c] [a', b', c']
          | .literal s, .literal t => pure (s == t)
          | .argument v, .argument w => element v w
          | .splat vs, .splat ws => allPairs element vs ws
          | .sql ns, .sql ms =>
              allPairs (fun v w => equalWithin fuel v w) (ns.map nodeValue) (ms.map nodeValue)
          | .type c, .type d => pure (c == d)
          | .builtin f, .builtin g => pure (f == g)
          | .method v f, .method w g => if f == g then pure (sameObject v w) else pure false
          | .union cs, .union ds => pure (cs.length == ds.length && cs.all ds.contains)
          | .unbound c f, .unbound d g => pure (c == d && f == g)
          | .foreign c s, .foreign d t => pure (c == d && s == t)
          | .view k a, .view l b =>
              if k == .values || l == .values then pure (k == l && a == b)
              else do
                let vs ← viewElements k a
                let ws ← viewElements l b
                if vs.length = ws.length then
                  allElements (fun v => anyElement (element v) ws) vs
                else pure false
          | .view k a, .object b | .object b, .view k a => do
              match k, ← Eval.load b with
              | .values, _ => pure false
              | _, .set _ t =>
                  let vs ← viewElements k a
                  if vs.length = t.size then
                    allElements (fun v => do amongEntries element t (← hashOf v) v) vs
                  else pure false
              | _, _ => pure false
          | .object a, .object b => do
              match ← Eval.load a, ← Eval.load b with
              | .list vs, .list ws => allPairs element vs.toList ws.toList
              | .dict es, .dict fs =>
                  if es.size ≠ fs.size then pure false
                  else
                    let rec entries : List (Val × Val) → Eval Bool
                      | [] => pure true
                      | e :: rest => do
                          match ← findKey e.1 (element e.1) fs with
                          | some (_, w) => if ← element e.2 w then entries rest else pure false
                          | none => pure false
                    entries es.toList
              | .set _ t, .set _ u =>
                  if t.size = u.size then allAmong element t u else pure false
              | .record fs, .record gs => sameFields element fs gs
              | .compiled s ps, .compiled t qs => allPairs element [s, ps] [t, qs]
              | _, _ => pure (a == b)
          | _, _ => pure false
where
  /-- A node as the value that it is. -/
  nodeValue : Node Val → Val
    | .literal fragment => .literal fragment
    | .argument value => .argument value
  /-- The elements that a view shows. -/
  viewElements (kind : ViewKind) (address : Nat) : Eval (List Val) := do
    match ← Eval.load address with
    | .dict entries =>
        pure (entries.toList.map kind.part)
    | _ => pure []

/-- Whether two values are equal. -/
def equal (v w : Val) : Eval Bool := equalWithin depthLimit v w

/-- Whether two values count as one element of a collection. -/
def sameElement (v w : Val) : Eval Bool := if sameObject v w then pure true else equal v w

/-- The elements that a view shows. -/
def viewElements (kind : ViewKind) (address : Nat) : Eval (List Val) :=
  equalWithin.viewElements kind address

/-- Whether two values are one and the same: the same object, or values that cannot change and
that nothing tells apart. -/
def identical (v w : Val) : Eval Bool :=
  match v, w with
  | .object a, .object b => pure (a == b)
  | .object _, _ | _, .object _ => pure false
  | .bool a, .bool b => pure (a == b)
  | .int a, .int b => pure (a == b)
  | .float a, .float b => pure (a.toBits == b.toBits)
  | .nan a, .nan b => pure (a == b)
  | .bool _, _ | _, .bool _ | .int _, _ | _, .int _ | .float _, _ | _, .float _ => pure false
  | v, w => equal v w

/-! ## Order -/

/-- How two lists of characters or bytes compare. -/
def lexicographic {α : Type} [Ord α] [BEq α] : List α → List α → Ordering
  | [], [] => .eq
  | [], _ :: _ => .lt
  | _ :: _, [] => .gt
  | a :: as, b :: bs => if a == b then lexicographic as bs else compare a b

/-- How two texts compare, code point by code point. -/
def compareText (s t : Text) : Ordering :=
  lexicographic (s.map Text.CodePoint.code) (t.map Text.CodePoint.code)

/-- A value that has the order of sets: its elements, and which values are among them. -/
structure SetLike where
  elements : List Val
  holds : Val → Eval Bool

/-- Whether a value is among the elements that a view shows. -/
def viewHolds (kind : ViewKind) (vs : List Val) (w : Val) : Eval Bool := do
  match kind, w with
  | .values, w => anyElement (fun v => sameElement v w) vs
  | .keys, w => do
      requireKey w
      anyElement (sameElement w) vs
  | .items, .tuple [k, _] => do
      requireKey k
      anyElement (sameElement w) vs
  | .items, _ => pure false

/-- A set, or a view of keys or entries, as what has the order of sets. -/
def setLike? (v : Val) : Eval (Option SetLike) := do
  match v with
  | .view kind address => do
      let vs ← viewElements kind address
      if kind = .values then pure none else pure (some ⟨vs, viewHolds kind vs⟩)
  | .object address => do
      match ← Eval.load address with
      | .set _ t =>
          let holds (w : Val) : Eval Bool := do amongEntries sameElement t (← searchHash w) w
          pure (some ⟨t.elements, holds⟩)
      | _ => pure none
  | _ => pure none

/-- Whether an order holds between two values that have the order of sets. -/
def SetLike.ordered (o : Order) (s t : SetLike) : Eval Bool :=
  let m := s.elements.length
  let n := t.elements.length
  if !o.holds (compare m n) then pure false
  else
    match o with
    | .lt | .le => allElements t.holds s.elements
    | .gt | .ge => allElements s.holds t.elements

/-- Whether an order holds between two values; `fuel` bounds the depth of nesting. -/
def orderWithin (o : Order) : (fuel : Nat) → Val → Val → Eval Bool
  | 0, _, _ => Eval.fail .tooDeep
  | fuel + 1, v, w => do
      let rec sequences : List Val → List Val → Eval Bool
        | a :: as, b :: bs => do
            if ← sameElement a b then sequences as bs else orderWithin o fuel a b
        | as, bs => pure (o.holds (compare as.length bs.length))
      let asSets (v w : Val) : Eval Bool := do
        match ← setLike? v, ← setLike? w with
        | some s, some t => s.ordered o t
        | _, _ => Eval.fail .wrongType
      match asNumber? v, asNumber? w with
      | some m, some n =>
          match m.compare? n with
          | some (some c) => pure (o.holds c)
          | some none => pure false
          | none => Eval.fail .wrongType
      | _, _ =>
          match v, w with
          | .str s, .str t => pure (o.holds (compareText s t))
          | .bytes s, .bytes t =>
              pure (o.holds (lexicographic (s.map UInt8.toNat) (t.map UInt8.toNat)))
          | .tuple vs, .tuple ws => sequences vs ws
          | .object a, .object b => do
              match ← Eval.load a, ← Eval.load b with
              | .list vs, .list ws => sequences vs.toList ws.toList
              | _, _ => asSets v w
          | _, _ => asSets v w

/-- Whether an order holds between two values. -/
def ordered (o : Order) (v w : Val) : Eval Bool := orderWithin o depthLimit v w

end BoundSql.Value
