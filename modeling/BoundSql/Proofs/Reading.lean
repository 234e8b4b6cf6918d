import BoundSql.Eval.Evaluate
import BoundSql.Proofs.Sequence
import BoundSql.Value.Show
set_option autoImplicit false

/-!
# What reading a value does to the store

Showing a value leaves the store as it is, whether it succeeds or not.  Walking through a list
leaves the iterator behind that was made for it, and yields the elements of the list.

Both facts are needed where a value is only looked at: a refusal has the text of a value in it, and
a row of items may be a list that lives in the store.  A computation that only reads is one that
never changes the store (`OnlyReads`), and such computations are closed under sequencing, so that
showing a value is one by the way it is written (`onlyReads_shownWithin`).  A list cannot be walked
through without a change, since an iterator is an object; `withIterator` is the store with that
iterator in it, and `elements_list` says what a walk comes to.
-/

namespace BoundSql.Value

/-! ## Showing values -/

/-- A computation that looks at the store and leaves it as it is. -/
def OnlyReads {α : Type} (x : Eval α) : Prop :=
  ∀ s, (∃ a, x s = .ok a s) ∨ ∃ f, x s = .error f s

namespace OnlyReads

variable {α β : Type}

theorem pure (a : α) : OnlyReads (pure a) := fun _ => .inl ⟨a, rfl⟩

theorem fail (f : Fault) : OnlyReads (Eval.fail f : Eval α) := fun _ => .inr ⟨f, rfl⟩

theorem bind {x : Eval α} {f : α → Eval β} (hx : OnlyReads x) (hf : ∀ a, OnlyReads (f a)) :
    OnlyReads (x >>= f) := by
  intro s
  rcases hx s with ⟨a, ha⟩ | ⟨e, he⟩
  · rw [bind_of_ok ha]
    exact hf a s
  · exact .inr ⟨e, bind_of_error he f⟩

theorem load (address : Nat) : OnlyReads (Eval.load address) := by
  refine .bind (fun s => .inl ⟨s, rfl⟩) fun s => ?_
  cases s.objects[address]? with
  | some o => exact .pure o
  | none => exact .fail .missingAttribute

theorem mapM {f : α → Eval β} (hf : ∀ a, OnlyReads (f a)) (as : List α) :
    OnlyReads (as.mapM f) := by
  induction as with
  | nil => exact .pure []
  | cons a as ih =>
      rw [List.mapM_cons]
      exact .bind (hf a) fun b => .bind ih fun bs => .pure (b :: bs)

/-- A reading that succeeds leaves the store as it is. -/
theorem eq_of_ok {x : Eval α} (hx : OnlyReads x) {a : α} {s s' : Store} (h : x s = .ok a s') :
    s' = s := by
  rcases hx s with ⟨b, hb⟩ | ⟨f, hf⟩
  · exact (EStateM.Result.ok.inj (h.symm.trans hb)).2
  · cases h.symm.trans hf

end OnlyReads

theorem onlyReads_intText (n : Int) : OnlyReads (intText n) := by
  unfold intText
  split
  · exact .fail .wrongValue
  · exact .pure _

theorem onlyReads_classNameOf (v : Val) : OnlyReads (classNameOf v) := by
  refine .bind ?_ fun c => .pure c.name
  cases v with
  | method self name =>
      cases self with
      | object address =>
          refine .bind (.load address) fun o => ?_
          cases o <;> exact .pure _
      | _ => exact .pure _
  | object address => exact .bind (.load address) fun o => .pure o.class
  | _ => exact .pure _

/-- Along the depth that is left: what is inside of a value is shown one level further down. -/
theorem onlyReads_shownWithin (fuel : Nat) (inside : List Nat) (v : Val) :
    OnlyReads (shownWithin fuel inside v) := by
  induction fuel generalizing inside v with
  | zero => exact .fail .tooDeep
  | succ fuel ih =>
      have hpairs : ∀ (es : List (Val × Val)) (inside : List Nat),
          OnlyReads (es.mapM fun e => do
            Pure.pure (← shownWithin fuel inside e.1, ← shownWithin fuel inside e.2)) :=
        fun es inside => .mapM (fun e => .bind (ih inside e.1) fun _ =>
          .bind (ih inside e.2) fun _ => .pure _) es
      unfold shownWithin
      cases v with
      | int n => exact onlyReads_intText n
      | tuple items => exact .bind (.mapM (ih inside) items) fun _ => .pure _
      | range start stop step => exact .bind (.mapM onlyReads_intText _) fun _ => .pure _
      | slice start stop step => exact .bind (.mapM (ih inside) _) fun _ => .pure _
      | argument value => exact .bind (ih inside value) fun _ => .pure _
      | splat items => exact .bind (.mapM (ih inside) items) fun _ => .pure _
      | sql args =>
          refine .bind (.mapM (fun n => ?_) args) fun _ => .pure _
          cases n <;> exact ih inside _
      | method self name =>
          refine .bind (onlyReads_classNameOf self) fun c => ?_
          split
          · exact .bind (ih inside self) fun _ => .pure _
          · exact .pure _
      | view kind address =>
          dsimp only
          split
          · exact .pure _
          · refine .bind (.load address) fun o => ?_
            cases o with
            | dict entries => exact .bind (.pure _) fun es => .bind (hpairs es _) fun _ => .pure _
            | _ => exact .bind (.pure _) fun es => .bind (hpairs es _) fun _ => .pure _
      | object address =>
          refine .bind (.load address) fun o => ?_
          cases o with
          | list items =>
              dsimp only
              split
              · exact .pure _
              · exact .bind (.mapM (ih _) _) fun _ => .pure _
          | dict entries =>
              dsimp only
              split
              · exact .pure _
              · exact .bind (hpairs _ _) fun _ => .pure _
          | set frozen t =>
              refine .bind (.mapM (ih _) _) fun ss => ?_
              cases frozen <;> cases ss <;> exact .pure _
          | record fields =>
              dsimp only
              split
              · exact .pure _
              · refine .bind (.mapM (fun e => ?_) _) fun _ => .pure _
                exact .bind (ih _ e.2) fun _ => .pure _
          | compiled sql params =>
              dsimp only
              split
              · exact .pure _
              · exact .bind (ih _ sql) fun _ => .bind (ih _ params) fun _ => .pure _
          | iterator it => exact .pure _
          | function f => exact .pure _
          | frame f => exact .pure _
      | _ => exact .pure _

theorem onlyReads_shown (v : Val) : OnlyReads (shown v) := onlyReads_shownWithin _ _ v

end BoundSql.Value

namespace BoundSql.Eval

open BoundSql.Value (Eval Iterator Obj Store Val stepLimit)

/-! ## Walking through lists -/

/-- A store with an iterator behind its objects. -/
def withIterator (r : Store) (it : Iterator) : Store :=
  { r with objects := r.objects.push (.iterator it) }

theorem load_of_getElem? {s : Store} {address : Nat} {o : Obj} (h : s.objects[address]? = some o) :
    Eval.load address s = .ok o s := by
  rw [Eval.load, bind_eq_ok_iff]
  refine ⟨s, s, rfl, ?_⟩
  rw [h]
  rfl

theorem load_withIterator_self (r : Store) (it : Iterator) :
    Eval.load r.objects.size (withIterator r it) = .ok (.iterator it) (withIterator r it) :=
  load_of_getElem? Array.getElem?_push_size

theorem load_withIterator_of_getElem? {r : Store} {address : Nat} {o : Obj}
    (h : r.objects[address]? = some o) (it : Iterator) :
    Eval.load address (withIterator r it) = .ok o (withIterator r it) := by
  have hlt : address < r.objects.size := (Array.getElem?_eq_some_iff.mp h).1
  refine load_of_getElem? ?_
  rw [withIterator, Array.getElem?_push, if_neg (by omega), h]

theorem save_withIterator (r : Store) (it it' : Iterator) :
    Eval.save r.objects.size (.iterator it') (withIterator r it)
      = .ok ⟨⟩ (withIterator r it') := by
  have hset : (r.objects.push (.iterator it)).setIfInBounds r.objects.size (.iterator it')
      = r.objects.push (.iterator it') := by
    apply Array.ext_getElem?
    intro i
    rw [Array.getElem?_setIfInBounds, Array.getElem?_push, Array.getElem?_push, Array.size_push]
    grind
  have hsave : Eval.save r.objects.size (.iterator it') (withIterator r it)
      = .ok ⟨⟩ { withIterator r it with
          objects := (r.objects.push (.iterator it)).setIfInBounds r.objects.size
            (.iterator it') } := rfl
  rw [hsave, hset]
  rfl

variable {r : Store} {address : Nat} {items : Array Val}

/-- The iterator behind the objects is asked for its next element. -/
theorem nextOf_withIterator (it : Iterator) :
    engine.nextOf (.object r.objects.size) (withIterator r it)
      = nextElement (engineOf 3999) r.objects.size (withIterator r it) := by
  have haddress : iteratorAddress (.object r.objects.size) (withIterator r it)
      = .ok r.objects.size (withIterator r it) := by
    rw [iteratorAddress, bind_of_ok (load_withIterator_self r it)]
    rfl
  rw [Engine.nextOf, bind_of_ok haddress, engine, levelLimit, engineOf_succ, Engine.above]

theorem nextElement_list_of_getElem? (h : r.objects[address]? = some (.list items)) {i : Nat}
    {v : Val} (hv : items[i]? = some v) (e : Engine) :
    nextElement e r.objects.size (withIterator r (.listUp address i))
      = .ok (some v) (withIterator r (.listUp address (i + 1))) := by
  rw [nextElement, bind_of_ok (load_withIterator_self r _)]
  dsimp only
  rw [bind_of_ok (load_withIterator_of_getElem? h _)]
  dsimp only
  rw [hv]
  dsimp only
  rw [bind_of_ok (save_withIterator r _ _)]
  rfl

theorem nextElement_list_of_size_le (h : r.objects[address]? = some (.list items)) {i : Nat}
    (hi : items.size ≤ i) (e : Engine) :
    nextElement e r.objects.size (withIterator r (.listUp address i))
      = .ok none (withIterator r (.finished "list_iterator")) := by
  rw [nextElement, bind_of_ok (load_withIterator_self r _)]
  dsimp only
  rw [bind_of_ok (load_withIterator_of_getElem? h _)]
  dsimp only
  rw [Array.getElem?_eq_none hi]
  dsimp only
  rw [bind_of_ok (save_withIterator r _ _)]
  rfl

/-- Along the elements of a list that are still to come. -/
theorem foldNext_list (h : r.objects[address]? = some (.list items)) (fuel i : Nat)
    (acc : Array Val) (hi : i ≤ items.size) (hfuel : items.size < i + fuel) :
    foldNext (engine.nextOf (.object r.objects.size)) (fun acc v => pure (.yield (acc.push v)))
        fuel acc (withIterator r (.listUp address i))
      = .ok (acc ++ items.toList.drop i) (withIterator r (.finished "list_iterator")) := by
  induction fuel generalizing i acc with
  | zero => omega
  | succ fuel ih =>
      rw [foldNext]
      cases hv : items[i]? with
      | some v =>
          obtain ⟨hlt, rfl⟩ := Array.getElem?_eq_some_iff.mp hv
          have hnext := (nextOf_withIterator _).trans
            (nextElement_list_of_getElem? h hv (engineOf 3999))
          have hdrop : items.toList.drop i = items[i] :: items.toList.drop (i + 1) := by
            rw [List.drop_eq_getElem_cons (by simpa using hlt), Array.getElem_toList]
          rw [bind_of_ok hnext]
          dsimp only
          rw [pure_bind]
          dsimp only
          rw [ih (i + 1) (acc.push items[i]) (by omega) (by omega), hdrop,
            Array.appendList_cons]
      | none =>
          have hsize : items.size ≤ i := Array.getElem?_eq_none_iff.mp hv
          have hnext := (nextOf_withIterator _).trans
            (nextElement_list_of_size_le h hsize (engineOf 3999))
          have hdrop : items.toList.drop i = [] := List.drop_eq_nil_of_le (by simpa using hsize)
          rw [bind_of_ok hnext, hdrop, Array.appendList_nil]
          rfl

/-- The elements of a list are walked through by an iterator. -/
theorem elements_list (h : r.objects[address]? = some (.list items))
    (hsize : items.size < stepLimit) :
    engine.elements (.object address) r
      = .ok items.toList (withIterator r (.finished "list_iterator")) := by
  have hfixed : fixedElements (.object address) = none := rfl
  have hiterate : iterate (.object address) r
      = .ok (.object r.objects.size) (withIterator r (.listUp address 0)) := by
    rw [iterate, hfixed]
    dsimp only
    rw [bind_of_ok (load_of_getElem? h)]
    rfl
  have hfold : engine.fold (.object address) #[] (fun acc v => pure (.yield (acc.push v))) r
      = .ok ((#[] : Array Val) ++ items.toList) (withIterator r (.finished "list_iterator")) := by
    rw [Engine.fold, bind_of_ok hiterate]
    exact foldNext_list h stepLimit 0 #[] (Nat.zero_le _) (by omega)
  rw [Engine.elements, hfixed]
  dsimp only
  rw [bind_of_ok hfold, pure_eq_ok_iff, Array.toList_appendList]
  exact ⟨rfl, rfl⟩

end BoundSql.Eval
