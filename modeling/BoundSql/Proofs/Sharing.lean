import BoundSql.Query.Visiting
set_option autoImplicit false

/-!
# One compiler for several calls

Calls that take turns on one compiler do not disturb each other.  Everything that a call writes to
is its own: the copy of the compiler that it makes, and the list that it gives to the copy.  What a
call has written so far is then a matter of its own turns alone, and its answer is the compiled
query.

The memory is shared, and a schedule says which call takes the next step, or whose list a caller
adds to after an answer.  A step keeps all places of the memory that do not belong to the call
(`Steps`, `exists_steps`), and the places of two calls are never the same, since every place is new
when it is taken.  `Sound` is the invariant of the world: each call stands where its own turns have
brought it (`Standing`), and its list holds what it has visited and what was added to it.  It holds
at the start, and each step keeps it (`Sound.step`, `Sound.run`).

Since a call alone comes to the compiled query (`exists_run_alone`, `compileAlone_eq`), so does each
call among others.  No call is ever stuck.
-/

namespace BoundSql.Query

variable {V : Type}

/-! ## Places in memory -/

/-- A place in memory. -/
inductive Place where
  | compiler (address : Nat)
  | list (address : Nat)
  deriving DecidableEq, Repr, Inhabited

/-- The place exists. -/
def Memory.Has (m : Memory V) : Place → Prop
  | .compiler a => a < m.compilers.length
  | .list a => a < m.lists.length

/-- Everything that existed stays where it was and as it was, with these exceptions. -/
structure Memory.Keeps (m m' : Memory V) (except : List Place) : Prop where
  compilers : ∀ a, a < m.compilers.length → .compiler a ∉ except →
    m'.compilers[a]? = m.compilers[a]?
  lists : ∀ a, a < m.lists.length → .list a ∉ except → m'.lists[a]? = m.lists[a]?
  moreCompilers : m.compilers.length ≤ m'.compilers.length
  moreLists : m.lists.length ≤ m'.lists.length

theorem Memory.Keeps.refl (m : Memory V) (except : List Place) : m.Keeps m except :=
  ⟨fun _ _ _ => rfl, fun _ _ _ => rfl, Nat.le_refl _, Nat.le_refl _⟩

theorem Memory.Keeps.has {m m' : Memory V} {except : List Place} (h : m.Keeps m' except)
    {place : Place} (hp : m.Has place) : m'.Has place := by
  cases place with
  | compiler a => exact Nat.lt_of_lt_of_le hp h.moreCompilers
  | list a => exact Nat.lt_of_lt_of_le hp h.moreLists

/-- What is kept, and then kept with exceptions that did not exist before, is kept. -/
theorem Memory.Keeps.trans_of_new {m₀ m m' : Memory V} {except : List Place} (h : m₀.Keeps m [])
    (h' : m.Keeps m' except) (hnew : ∀ place ∈ except, ¬ m₀.Has place) : m₀.Keeps m' [] := by
  refine ⟨fun a ha _ => ?_, fun a ha _ => ?_, Nat.le_trans h.moreCompilers h'.moreCompilers,
    Nat.le_trans h.moreLists h'.moreLists⟩
  · have hm : a < m.compilers.length := Nat.lt_of_lt_of_le ha h.moreCompilers
    rw [h'.compilers a hm fun hmem => hnew _ hmem ha, h.compilers a ha List.not_mem_nil]
  · have hm : a < m.lists.length := Nat.lt_of_lt_of_le ha h.moreLists
    rw [h'.lists a hm fun hmem => hnew _ hmem ha, h.lists a ha List.not_mem_nil]

theorem Memory.keeps_newCompiler (m : Memory V) (object : CompilerObject) (except : List Place) :
    m.Keeps ⟨m.compilers ++ [object], m.lists⟩ except := by
  refine ⟨fun a ha _ => List.getElem?_append_left ha, fun _ _ _ => rfl, ?_, Nat.le_refl _⟩
  rw [List.length_append]
  exact Nat.le_add_right _ _

theorem Memory.keeps_newList (m : Memory V) (self : Nat) (object : CompilerObject)
    (values : List V) :
    m.Keeps ⟨m.compilers.set self object, m.lists ++ [values]⟩ [.compiler self] := by
  refine ⟨fun a _ ha => ?_, fun a ha _ => List.getElem?_append_left ha, ?_, ?_⟩
  · exact List.getElem?_set_ne fun heq => ha (List.mem_singleton.mpr (congrArg _ heq.symm))
  · exact Nat.le_of_eq List.length_set.symm
  · rw [List.length_append]
    exact Nat.le_add_right _ _

theorem Memory.keeps_setList (m : Memory V) {a : Nat} (values : List V) {except : List Place}
    (h : .list a ∈ except) : m.Keeps { m with lists := m.lists.set a values } except := by
  refine ⟨fun _ _ _ => rfl, fun b _ hb => ?_, Nat.le_refl _, ?_⟩
  · refine List.getElem?_set_ne fun heq => hb ?_
    rw [← heq]
    exact h
  · exact Nat.le_of_eq List.length_set.symm

/-- The places that a call has made for itself. -/
def Progress.places (m : Memory V) : Progress V → List Place
  | called => []
  | copied self => [.compiler self]
  | visiting self _ _ | counting self _ _ =>
      .compiler self :: (m.compilers[self]?.map fun object => Place.list object.params).toList
  | returned _ params => [.list params]

/-! ## Steps of one call -/

theorem visitSteps_append (ns ms : List (Node V)) :
    visitSteps (ns ++ ms) = visitSteps ns + visitSteps ms := by
  simp only [visitSteps, List.length_append, List.filterMap_append]
  omega

/-- Where a call on a compiler stands after a number of its own steps.  What it has written are the
texts and the values of the nodes that it has visited; `added` are the values that have been added
to its answer. -/
inductive Standing (m₀ m : Memory V) (c : Compiler) (q : Sql V) :
    List V → Progress V → Nat → Prop where
  | called : Standing m₀ m c q [] .called 0
  | copied {self : Nat} {object : CompilerObject} (own : m₀.compilers.length ≤ self)
      (found : m.compilers[self]? = some object) (same : object.compiler = c) :
      Standing m₀ m c q [] (.copied self) 1
  | visiting {self a : Nat} {seen rest : List (Node V)} (own : m₀.compilers.length ≤ self)
      (found : m.compilers[self]? = some ⟨c, a⟩) (ownList : m₀.lists.length ≤ a)
      (values : m.lists[a]? = some (seen.filterMap Node.value?)) (nodes : q.args = seen ++ rest) :
      Standing m₀ m c q [] (.visiting self rest (c.texts 1 seen)) (visitSteps seen + 2)
  | counting {self a : Nat} {v : V} {seen rest : List (Node V)}
      (own : m₀.compilers.length ≤ self) (found : m.compilers[self]? = some ⟨c, a⟩)
      (ownList : m₀.lists.length ≤ a)
      (values : m.lists[a]? = some (seen.filterMap Node.value? ++ [v]))
      (nodes : q.args = seen ++ .argument v :: rest) :
      Standing m₀ m c q [] (.counting self rest (c.texts 1 seen)) (visitSteps seen + 3)
  | returned {a : Nat} {added : List V} (ownList : m₀.lists.length ≤ a)
      (values : m.lists[a]? = some (q.params ++ added)) :
      Standing m₀ m c q added (.returned (c.compile q).sql a) (callSteps q)

theorem lt_length_of_getElem?_eq_some {α : Type} {l : List α} {i : Nat} {a : α}
    (h : l[i]? = some a) : i < l.length := (List.getElem?_eq_some_iff.mp h).1

theorem set_of_getElem?_eq_some {α : Type} {l : List α} {i : Nat} {a : α} (h : l[i]? = some a) :
    l.set i a = l := by
  obtain ⟨hi, rfl⟩ := List.getElem?_eq_some_iff.mp h
  exact List.set_getElem_self hi

namespace Standing

variable {m₀ m m' : Memory V} {c : Compiler} {q : Sql V} {added : List V} {p : Progress V} {n : Nat}

/-- The places of a call exist, and are not older than the call. -/
theorem places_new (h : Standing m₀ m c q added p n) :
    ∀ place ∈ p.places m, m.Has place ∧ ¬ m₀.Has place := by
  intro place hplace
  cases h with
  | called => cases hplace
  | copied own found same =>
      obtain rfl := List.mem_singleton.mp hplace
      exact ⟨lt_length_of_getElem?_eq_some found, Nat.not_lt.mpr own⟩
  | visiting own found ownList values nodes =>
      simp only [Progress.places, found, Option.map_some, Option.toList_some, List.mem_cons,
        List.not_mem_nil, or_false] at hplace
      rcases hplace with rfl | rfl
      · exact ⟨lt_length_of_getElem?_eq_some found, Nat.not_lt.mpr own⟩
      · exact ⟨lt_length_of_getElem?_eq_some values, Nat.not_lt.mpr ownList⟩
  | counting own found ownList values nodes =>
      simp only [Progress.places, found, Option.map_some, Option.toList_some, List.mem_cons,
        List.not_mem_nil, or_false] at hplace
      rcases hplace with rfl | rfl
      · exact ⟨lt_length_of_getElem?_eq_some found, Nat.not_lt.mpr own⟩
      · exact ⟨lt_length_of_getElem?_eq_some values, Nat.not_lt.mpr ownList⟩
  | returned ownList values =>
      obtain rfl := List.mem_singleton.mp hplace
      exact ⟨lt_length_of_getElem?_eq_some values, Nat.not_lt.mpr ownList⟩

/-- A call that owns none of the places that change stands where it stood, with the same places. -/
theorem of_keeps (h : Standing m₀ m c q added p n) {except : List Place} (hk : m.Keeps m' except)
    (apart : ∀ place ∈ p.places m, place ∉ except) :
    Standing m₀ m' c q added p n ∧ p.places m' = p.places m := by
  cases h with
  | called => exact ⟨.called, rfl⟩
  | @copied self object own found same =>
      have hself := hk.compilers self (lt_length_of_getElem?_eq_some found)
        (apart _ List.mem_cons_self)
      exact ⟨.copied own (hself.trans found) same, rfl⟩
  | @visiting self a seen rest own found ownList values nodes =>
      simp only [Progress.places, found, Option.map_some, Option.toList_some, List.mem_cons,
        List.not_mem_nil, or_false, forall_eq_or_imp, forall_eq] at apart
      have hself := (hk.compilers self (lt_length_of_getElem?_eq_some found) apart.1).trans found
      have hlist := (hk.lists a (lt_length_of_getElem?_eq_some values) apart.2).trans values
      exact ⟨.visiting own hself ownList hlist nodes, by simp only [Progress.places, hself, found]⟩
  | @counting self a v seen rest own found ownList values nodes =>
      simp only [Progress.places, found, Option.map_some, Option.toList_some, List.mem_cons,
        List.not_mem_nil, or_false, forall_eq_or_imp, forall_eq] at apart
      have hself := (hk.compilers self (lt_length_of_getElem?_eq_some found) apart.1).trans found
      have hlist := (hk.lists a (lt_length_of_getElem?_eq_some values) apart.2).trans values
      exact ⟨.counting own hself ownList hlist nodes, by simp only [Progress.places, hself, found]⟩
  | @returned a added ownList values =>
      have hlist := (hk.lists a (lt_length_of_getElem?_eq_some values)
        (apart _ List.mem_cons_self)).trans values
      exact ⟨.returned ownList hlist, rfl⟩

theorem mem_places_visiting {self a : Nat} {rest : List (Node V)} {texts : List String}
    (found : m.compilers[self]? = some ⟨c, a⟩) {place : Place} :
    place ∈ (Progress.visiting self rest texts : Progress V).places m ↔
      place = .compiler self ∨ place = .list a := by
  simp only [Progress.places, found, Option.map_some, Option.toList_some, List.mem_cons,
    List.not_mem_nil, or_false]

/-- What a step of a call comes to: it changes nothing but the places of the call, and takes no
place that existed before. -/
structure Steps (m₀ m : Memory V) (c : Compiler) (on : Nat) (q : Sql V) (added : List V)
    (p : Progress V) (n : Nat) (m' : Memory V) (p' : Progress V) : Prop where
  steps : Call.step m ⟨on, q, p⟩ = some (m', p')
  standing : Standing m₀ m' c q added p' (n + 1)
  keeps : m.Keeps m' (p.places m)
  places : ∀ place ∈ p'.places m', place ∈ p.places m ∨ ¬ m.Has place

variable {on : Nat}

theorem exists_steps_called (hold : m₀.Keeps m []) {object : CompilerObject}
    (hobject : m.compilers[on]? = some object) (hc : object.compiler = c) :
    ∃ m' p', Steps m₀ m c on q [] .called 0 m' p' := by
  refine ⟨⟨m.compilers ++ [object], m.lists⟩, .copied m.compilers.length, ?_, ?_,
    m.keeps_newCompiler object _, ?_⟩
  · simp only [Call.step, hobject]
    rfl
  · exact .copied hold.moreCompilers List.getElem?_concat_length hc
  · intro place hplace
    obtain rfl := List.mem_singleton.mp hplace
    exact .inr (Nat.lt_irrefl _)

theorem exists_steps_copied (hold : m₀.Keeps m []) {self : Nat} {object : CompilerObject}
    (own : m₀.compilers.length ≤ self) (found : m.compilers[self]? = some object)
    (same : object.compiler = c) : ∃ m' p', Steps m₀ m c on q [] (.copied self) 1 m' p' := by
  have hself : (m.compilers.set self { object with params := m.lists.length })[self]?
      = some ⟨c, m.lists.length⟩ := by
    rw [List.getElem?_set_self (lt_length_of_getElem?_eq_some found), ← same]
  have hlist : (m.lists ++ [[]])[m.lists.length]? = some [] := List.getElem?_concat_length
  refine ⟨⟨m.compilers.set self { object with params := m.lists.length }, m.lists ++ [[]]⟩,
    .visiting self q.args [], ?_, ?_, m.keeps_newList self _ [], ?_⟩
  · simp only [Call.step, found]
    rfl
  · exact @visiting V _ _ _ _ self m.lists.length [] _ own hself hold.moreLists hlist rfl
  · intro place hplace
    rcases (mem_places_visiting hself).mp hplace with rfl | rfl
    · exact .inl (List.mem_singleton.mpr rfl)
    · exact .inr (Nat.lt_irrefl _)

theorem exists_steps_visiting {self a : Nat} {seen rest : List (Node V)}
    (own : m₀.compilers.length ≤ self) (found : m.compilers[self]? = some ⟨c, a⟩)
    (ownList : m₀.lists.length ≤ a)
    (values : m.lists[a]? = some (seen.filterMap Node.value?)) (nodes : q.args = seen ++ rest) :
    ∃ m' p', Steps m₀ m c on q [] (.visiting self rest (c.texts 1 seen)) (visitSteps seen + 2)
      m' p' := by
  match rest with
  | [] =>
      have hseen : q.args = seen := by rw [nodes, List.append_nil]
      have hparams : m.lists[a]? = some (q.params ++ []) := by
        rw [List.append_nil, Sql.params, hseen]
        exact values
      refine ⟨m, .returned (c.compile q).sql a, ?_, ?_, .refl m _, ?_⟩
      · simp only [Call.step, found, Compiler.compile, hseen]
        rfl
      · rw [← hseen]
        exact .returned ownList hparams
      · intro place hplace
        obtain rfl := List.mem_singleton.mp hplace
        exact .inl ((mem_places_visiting found).mpr (.inr rfl))
  | .literal fragment :: rest =>
      have htexts : c.texts 1 seen ++ [c.literalText fragment]
          = c.texts 1 (seen ++ [.literal fragment]) := by
        rw [Compiler.texts_append]
        rfl
      have hsteps : visitSteps (seen ++ [.literal fragment]) = visitSteps seen + 1 :=
        visitSteps_append seen [.literal fragment]
      have hvalues : m.lists[a]?
          = some ((seen ++ [Node.literal fragment]).filterMap Node.value?) := by
        rw [values, List.filterMap_append]
        exact congrArg some (List.append_nil _).symm
      refine ⟨m, .visiting self rest (c.texts 1 seen ++ [c.literalText fragment]), ?_, ?_,
        .refl m _, fun place hplace => .inl hplace⟩
      · simp only [Call.step, found]
        rfl
      · rw [htexts, Nat.add_right_comm, ← hsteps]
        exact .visiting own found ownList hvalues (by rw [nodes, List.append_cons])
  | .argument v :: rest =>
      have hlist := List.getElem?_set_self (lt_length_of_getElem?_eq_some values)
        (a := seen.filterMap Node.value? ++ [v])
      refine ⟨{ m with lists := m.lists.set a (seen.filterMap Node.value? ++ [v]) },
        .counting self rest (c.texts 1 seen), ?_, .counting own found ownList hlist nodes,
        m.keeps_setList _ ((mem_places_visiting found).mpr (.inr rfl)),
        fun place hplace => .inl hplace⟩
      simp only [Call.step, found, Option.bind_eq_bind, Option.bind_some, values]

theorem exists_steps_counting {self a : Nat} {v : V} {seen rest : List (Node V)}
    (own : m₀.compilers.length ≤ self) (found : m.compilers[self]? = some ⟨c, a⟩)
    (ownList : m₀.lists.length ≤ a)
    (values : m.lists[a]? = some (seen.filterMap Node.value? ++ [v]))
    (nodes : q.args = seen ++ .argument v :: rest) :
    ∃ m' p', Steps m₀ m c on q [] (.counting self rest (c.texts 1 seen)) (visitSteps seen + 3)
      m' p' := by
  have hcount : (seen.filterMap Node.value? ++ [v]).length
      = 1 + (seen.filterMap Node.value?).length := by
    rw [List.length_append, List.length_singleton, Nat.add_comm]
  have htexts : c.texts 1 seen ++ [c.placeholder (seen.filterMap Node.value? ++ [v]).length]
      = c.texts 1 (seen ++ [.argument v]) := by
    rw [Compiler.texts_append, hcount]
    rfl
  have hsteps : visitSteps seen + 3 + 1 = visitSteps (seen ++ [.argument v]) + 2 := by
    rw [show visitSteps (seen ++ [.argument v]) = visitSteps seen + 2 from
      visitSteps_append seen [.argument v]]
  have hvalues : m.lists[a]? = some ((seen ++ [Node.argument v]).filterMap Node.value?) := by
    rw [values, List.filterMap_append]
    rfl
  refine ⟨m, .visiting self rest (c.texts 1 seen
    ++ [c.placeholder (seen.filterMap Node.value? ++ [v]).length]), ?_, ?_, .refl m _,
    fun place hplace => .inl hplace⟩
  · simp only [Call.step, found, Option.bind_eq_bind, Option.bind_some, values]
  · rw [htexts, hsteps]
    exact .visiting own found ownList hvalues (by rw [nodes, List.append_cons])

/-- A call that has not returned makes a step. -/
theorem exists_steps (h : Standing m₀ m c q added p n) (hold : m₀.Keeps m [])
    {object : CompilerObject} (hobject : m.compilers[on]? = some object)
    (hc : object.compiler = c) (running : n < callSteps q) :
    ∃ m' p', Steps m₀ m c on q added p n m' p' := by
  cases h with
  | called => exact exists_steps_called hold hobject hc
  | copied own found same => exact exists_steps_copied hold own found same
  | visiting own found ownList values nodes =>
      exact exists_steps_visiting own found ownList values nodes
  | counting own found ownList values nodes =>
      exact exists_steps_counting own found ownList values nodes
  | returned ownList values => exact absurd running (Nat.lt_irrefl _)

/-- A call has steps left and no answer, or it has returned. -/
theorem lt_or_returned (h : Standing m₀ m c q added p n) :
    (n < callSteps q ∧ p.answer? = none) ∨
      ∃ a, p = .returned (c.compile q).sql a ∧ n = callSteps q ∧
        m.lists[a]? = some (q.params ++ added) := by
  cases h with
  | called => exact .inl ⟨Nat.succ_pos _, rfl⟩
  | copied own found same =>
      refine .inl ⟨?_, rfl⟩
      rw [callSteps]
      omega
  | visiting own found ownList values nodes =>
      refine .inl ⟨?_, rfl⟩
      rw [callSteps, nodes, visitSteps_append]
      omega
  | counting own found ownList values nodes =>
      refine .inl ⟨?_, rfl⟩
      rw [callSteps, nodes, visitSteps_append, visitSteps, visitSteps, List.length_cons]
      omega
  | returned ownList values => exact .inr ⟨_, rfl, rfl, values⟩

end Standing

/-! ## Schedules -/

/-- The number of turns that a call gets. -/
def turnsOf (i : Nat) (schedule : List (Action V)) : Nat :=
  schedule.countP fun
    | .turn j => j == i
    | .add _ _ => false

/-- The values that are added to the answer of a call, in order. -/
def addedTo (i : Nat) (schedule : List (Action V)) : List V :=
  schedule.filterMap fun
    | .turn _ => none
    | .add j v => if j = i then some v else none

/-- All calls stand where their own turns have brought them, and no two of them share a place. -/
structure Sound (m₀ : Memory V) (requests : List (Nat × Sql V)) (past : List (Action V))
    (w : World V) : Prop where
  base : m₀.Keeps w.memory []
  calls : w.calls.map (fun call => (call.on, call.query)) = requests
  standing : ∀ (i : Nat) (call : Call V), w.calls[i]? = some call →
    ∃ object : CompilerObject, m₀.compilers[call.on]? = some object ∧
      Standing m₀ w.memory object.compiler call.query (addedTo i past) call.progress
        (turnsOf i past)
  apart : ∀ (i j : Nat) (a b : Call V), i ≠ j → w.calls[i]? = some a → w.calls[j]? = some b →
    ∀ place ∈ a.progress.places w.memory, place ∉ b.progress.places w.memory

theorem Sound.start {m₀ : Memory V} {requests : List (Nat × Sql V)}
    (valid : ∀ r ∈ requests, r.1 < m₀.compilers.length) :
    Sound m₀ requests [] (.start m₀ requests) := by
  have hcall : ∀ (i : Nat) (call : Call V), (World.start m₀ requests).calls[i]? = some call →
      ∃ r ∈ requests, call = { on := r.1, query := r.2 } := by
    intro i call h
    obtain ⟨r, hr, rfl⟩ := List.mem_map.mp (List.mem_of_getElem? h)
    exact ⟨r, hr, rfl⟩
  refine ⟨.refl m₀ _, ?_, fun i call h => ?_, fun i j a b _ ha _ place hplace => ?_⟩
  · rw [World.start, List.map_map]
    exact List.map_id _
  · obtain ⟨r, hr, rfl⟩ := hcall i call h
    exact ⟨_, List.getElem?_eq_getElem (valid r hr), .called⟩
  · obtain ⟨r, -, rfl⟩ := hcall i a ha
    cases hplace

/-- If one call goes on within its own places, all others stand where they stood. -/
theorem Sound.update {m₀ : Memory V} {requests : List (Nat × Sql V)} {past : List (Action V)}
    {w : World V} (h : Sound m₀ requests past w) {i : Nat} {call : Call V}
    (hcall : w.calls[i]? = some call) {action : Action V} {m' : Memory V} {p' : Progress V}
    (hturns : ∀ j, j ≠ i → turnsOf j (past ++ [action]) = turnsOf j past)
    (hadded : ∀ j, j ≠ i → addedTo j (past ++ [action]) = addedTo j past)
    (standing : ∀ object : CompilerObject, m₀.compilers[call.on]? = some object →
      Standing m₀ m' object.compiler call.query (addedTo i (past ++ [action])) p'
        (turnsOf i (past ++ [action])))
    (keeps : w.memory.Keeps m' (call.progress.places w.memory))
    (places : ∀ place ∈ p'.places m', place ∈ call.progress.places w.memory ∨
      ¬ w.memory.Has place) :
    Sound m₀ requests (past ++ [action]) ⟨m', w.calls.set i { call with progress := p' }⟩ := by
  obtain ⟨object, hobject, hstanding⟩ := h.standing i call hcall
  have hlt := lt_length_of_getElem?_eq_some hcall
  -- What the others own is not touched.
  have hother : ∀ (j : Nat) (other : Call V), j ≠ i → w.calls[j]? = some other →
      ∃ object : CompilerObject, m₀.compilers[other.on]? = some object ∧
        Standing m₀ m' object.compiler other.query (addedTo j (past ++ [action])) other.progress
          (turnsOf j (past ++ [action])) ∧
        other.progress.places m' = other.progress.places w.memory ∧
        ∀ place ∈ other.progress.places w.memory, w.memory.Has place := by
    intro j other hj hget
    obtain ⟨object', hobject', hstanding'⟩ := h.standing j other hget
    obtain ⟨hkept, hplaces⟩ := hstanding'.of_keeps keeps
      (h.apart j i other call hj hget hcall)
    rw [hturns j hj, hadded j hj]
    exact ⟨object', hobject', hkept, hplaces, fun place hp => (hstanding'.places_new place hp).1⟩
  have hfresh : ∀ (j : Nat) (other : Call V), j ≠ i → w.calls[j]? = some other →
      ∀ place ∈ p'.places m', place ∉ other.progress.places m' := by
    intro j other hj hget place hplace hmem
    obtain ⟨-, -, -, hplaces, hhas⟩ := hother j other hj hget
    rw [hplaces] at hmem
    rcases places place hplace with hown | hnew
    · exact h.apart i j call other hj.symm hcall hget place hown hmem
    · exact hnew (hhas place hmem)
  refine ⟨h.base.trans_of_new keeps fun place hp => (hstanding.places_new place hp).2, ?_, ?_, ?_⟩
  · rw [← h.calls, List.map_set]
    exact set_of_getElem?_eq_some (by rw [List.getElem?_map, hcall]; rfl)
  · intro j other hget
    by_cases hj : j = i
    · rw [hj, List.getElem?_set_self hlt] at hget
      obtain rfl := Option.some.inj hget
      rw [hj]
      exact ⟨object, hobject, standing object hobject⟩
    · rw [List.getElem?_set_ne (Ne.symm hj)] at hget
      obtain ⟨object', hobject', hkept, -⟩ := hother j other hj hget
      exact ⟨object', hobject', hkept⟩
  · intro j k a b hjk ha hb place hplace hmem
    by_cases hj : j = i
    · rw [hj, List.getElem?_set_self hlt] at ha
      obtain rfl := Option.some.inj ha
      have hk : k ≠ i := fun hk => hjk (hj.trans hk.symm)
      rw [List.getElem?_set_ne (Ne.symm hk)] at hb
      exact hfresh k b hk hb place hplace hmem
    · rw [List.getElem?_set_ne (Ne.symm hj)] at ha
      by_cases hk : k = i
      · rw [hk, List.getElem?_set_self hlt] at hb
        obtain rfl := Option.some.inj hb
        exact hfresh j a hj ha place hmem hplace
      · rw [List.getElem?_set_ne (Ne.symm hk)] at hb
        obtain ⟨-, -, -, hplacesA, -⟩ := hother j a hj ha
        obtain ⟨-, -, -, hplacesB, -⟩ := hother k b hk hb
        rw [hplacesA] at hplace
        rw [hplacesB] at hmem
        exact h.apart j k a b hjk ha hb place hplace hmem

section Actions

variable {m₀ : Memory V} {requests : List (Nat × Sql V)} {past : List (Action V)} {w w' : World V}
  {i : Nat} {call : Call V}

theorem turnsOf_append (past schedule : List (Action V)) :
    turnsOf i (past ++ schedule) = turnsOf i past + turnsOf i schedule := List.countP_append

theorem addedTo_append (past schedule : List (Action V)) :
    addedTo i (past ++ schedule) = addedTo i past ++ addedTo i schedule := List.filterMap_append

/-- A call gets a turn if it has steps left, and then makes one of its own steps. -/
theorem Sound.exists_turn (h : Sound m₀ requests past w) (hcall : w.calls[i]? = some call)
    (running : turnsOf i past < callSteps call.query) :
    ∃ w', w.step (.turn i) = some w' ∧ Sound m₀ requests (past ++ [.turn i]) w' := by
  obtain ⟨object, hobject, hstanding⟩ := h.standing i call hcall
  have hlt := lt_length_of_getElem?_eq_some hobject
  have hnow : w.memory.compilers[call.on]? = some object :=
    (h.base.compilers _ hlt List.not_mem_nil).trans hobject
  obtain ⟨m', p', hsteps⟩ := hstanding.exists_steps h.base hnow rfl running
  refine ⟨⟨m', w.calls.set i { call with progress := p' }⟩, ?_, ?_⟩
  · have hstep : call.step w.memory = some (m', p') := hsteps.steps
    simp only [World.step, hcall, Option.bind_eq_bind, Option.bind_some, hstep]
  · have hturn : turnsOf i (past ++ [Action.turn i (V := V)]) = turnsOf i past + 1 := by
      rw [turnsOf_append]
      simp [turnsOf]
    have hadd : addedTo i (past ++ [Action.turn i (V := V)]) = addedTo i past := by
      rw [addedTo_append]
      exact List.append_nil _
    refine h.update hcall (fun j hj => ?_) (fun j _ => ?_) (fun object' hobject' => ?_)
      hsteps.keeps hsteps.places
    · rw [turnsOf_append]
      simp [turnsOf, Ne.symm hj]
    · rw [addedTo_append]
      exact List.append_nil _
    · obtain rfl := Option.some.inj (hobject.symm.trans hobject')
      rw [hturn, hadd]
      exact hsteps.standing

/-- A value can be added to an answer, and shows in no other. -/
theorem Sound.exists_add (h : Sound m₀ requests past w) (hcall : w.calls[i]? = some call)
    (ended : callSteps call.query ≤ turnsOf i past) (v : V) :
    ∃ w', w.step (.add i v) = some w' ∧ Sound m₀ requests (past ++ [.add i v]) w' := by
  obtain ⟨object, hobject, hstanding⟩ := h.standing i call hcall
  rcases hstanding.lt_or_returned with ⟨running, -⟩ | ⟨a, hp, hn, values⟩
  · exact absurd ended (Nat.not_le.mpr running)
  · have hown : .list a ∈ call.progress.places w.memory := by
      rw [hp]
      exact List.mem_singleton.mpr rfl
    have hturn : ∀ j, turnsOf j (past ++ [.add i v]) = turnsOf j past := by
      intro j
      rw [turnsOf_append]
      rfl
    have hset : w.calls.set i { call with progress := call.progress } = w.calls :=
      set_of_getElem?_eq_some hcall
    have hadd : addedTo i (past ++ [.add i v]) = addedTo i past ++ [v] := by
      rw [addedTo_append]
      simp [addedTo]
    refine ⟨{ w with memory := { w.memory with
      lists := w.memory.lists.set a (call.query.params ++ addedTo i past ++ [v]) } }, ?_, ?_⟩
    · simp only [World.step, hcall, hp, Progress.answer?, Option.bind_eq_bind, Option.bind_some,
        values]
    · rw [← hset]
      refine h.update hcall (fun j _ => hturn j) (fun j hj => ?_) (fun object' hobject' => ?_)
        (w.memory.keeps_setList _ hown) (fun place hplace => ?_)
      · rw [addedTo_append]
        simp [addedTo, Ne.symm hj]
      · obtain rfl := Option.some.inj (hobject.symm.trans hobject')
        obtain ⟨-, hnew⟩ := hstanding.places_new _ hown
        rw [hturn, hn, hadd, hp]
        refine .returned (Nat.not_lt.mp hnew) ?_
        rw [← List.append_assoc]
        exact List.getElem?_set_self (lt_length_of_getElem?_eq_some values)
      · rw [hp] at hplace ⊢
        exact .inl hplace

/-- An action that can happen keeps the calls apart. -/
theorem Sound.step (h : Sound m₀ requests past w) {action : Action V}
    (hstep : w.step action = some w') : Sound m₀ requests (past ++ [action]) w' := by
  match action with
  | .turn i =>
      cases hcall : w.calls[i]? with
      | none => simp [World.step, hcall] at hstep
      | some call =>
          obtain ⟨object, -, hstanding⟩ := h.standing i call hcall
          rcases hstanding.lt_or_returned with ⟨running, -⟩ | ⟨a, hp, -⟩
          · obtain ⟨w'', hturn, hsound⟩ := h.exists_turn hcall running
            obtain rfl := Option.some.inj (hturn.symm.trans hstep)
            exact hsound
          · simp [World.step, hcall, Call.step, hp] at hstep
  | .add i v =>
      cases hcall : w.calls[i]? with
      | none => simp [World.step, hcall] at hstep
      | some call =>
          obtain ⟨object, -, hstanding⟩ := h.standing i call hcall
          by_cases ended : callSteps call.query ≤ turnsOf i past
          · obtain ⟨w'', hadd, hsound⟩ := h.exists_add hcall ended v
            obtain rfl := Option.some.inj (hadd.symm.trans hstep)
            exact hsound
          · rcases hstanding.lt_or_returned with ⟨-, hp⟩ | ⟨-, -, hn, -⟩
            · simp [World.step, hcall, hp] at hstep
            · exact absurd (Nat.le_of_eq hn.symm) ended

/-- So does a schedule. -/
theorem Sound.run (h : Sound m₀ requests past w) {schedule : List (Action V)}
    (ran : w.run schedule = some w') : Sound m₀ requests (past ++ schedule) w' := by
  induction schedule generalizing past w with
  | nil =>
      obtain rfl := Option.some.inj ran
      rw [List.append_nil]
      exact h
  | cons action schedule ih =>
      rw [World.run] at ran
      cases hstep : w.step action with
      | none => simp [hstep] at ran
      | some next =>
          simp only [hstep, Option.bind_eq_bind, Option.bind_some] at ran
          rw [List.append_cons]
          exact ih (h.step hstep) ran

end Actions

/-! ## Answers -/

section Answers

variable {m₀ : Memory V} {requests : List (Nat × Sql V)} {past : List (Action V)} {w : World V}
  {i on : Nat} {q : Sql V} {object : CompilerObject}

theorem Sound.exists_call (h : Sound m₀ requests past w) (hrequest : requests[i]? = some (on, q)) :
    ∃ p, w.calls[i]? = some ⟨on, q, p⟩ := by
  rw [← h.calls, List.getElem?_map, Option.map_eq_some_iff] at hrequest
  obtain ⟨⟨on', q', p⟩, hcall, heq⟩ := hrequest
  obtain ⟨rfl, rfl⟩ := Prod.mk.inj heq
  exact ⟨p, hcall⟩

/-- A call has an answer as soon as it has had its turns: the compiled query, with what has been
added to this answer at the end of its parameters. -/
theorem Sound.result?_eq (h : Sound m₀ requests past w) (hrequest : requests[i]? = some (on, q))
    (hobject : m₀.compilers[on]? = some object) :
    w.result? i = if turnsOf i past < callSteps q then none else
      some ⟨(object.compiler.compile q).sql,
        (object.compiler.compile q).params ++ addedTo i past⟩ := by
  obtain ⟨p, hcall⟩ := h.exists_call hrequest
  obtain ⟨object', hobject', hstanding⟩ := h.standing i _ hcall
  obtain rfl := Option.some.inj (hobject.symm.trans hobject')
  rcases hstanding.lt_or_returned with ⟨running, hp⟩ | ⟨a, hp, hn, values⟩
  · rw [if_pos running]
    have hp : p.answer? = none := hp
    simp only [World.result?, hcall, hp, Option.bind_eq_bind, Option.bind_some, Option.bind_none]
  · rw [if_neg (Nat.not_lt.mpr (Nat.le_of_eq hn.symm))]
    have hp : p = .returned (object.compiler.compile q).sql a := hp
    simp only [World.result?, hcall, hp, Progress.answer?, Option.bind_eq_bind, Option.bind_some,
      values]
    rfl

end Answers

/-! ## Calls by themselves -/

theorem World.run_append (w : World V) (first second : List (Action V)) :
    w.run (first ++ second) = (w.run first).bind (·.run second) := by
  induction first generalizing w with
  | nil => rfl
  | cons action first ih =>
      rw [List.cons_append, World.run, World.run]
      cases w.step action with
      | none => rfl
      | some next => exact ih next

theorem turnsOf_replicate (k : Nat) :
    turnsOf 0 (List.replicate k (Action.turn 0 : Action V)) = k := by
  rw [turnsOf, List.countP_replicate]
  rfl

theorem addedTo_replicate (k : Nat) :
    addedTo 0 (List.replicate k (Action.turn 0 : Action V)) = [] := by
  rw [addedTo, List.filterMap_replicate_of_none rfl]

/-- A call by itself on a fresh compiler gets through all of its turns. -/
theorem exists_run_alone (c : Compiler) (q : Sql V) (k : Nat) (hk : k ≤ callSteps q) :
    ∃ w, (World.start (.fresh c) [(0, q)]).run (List.replicate k (.turn 0)) = some w ∧
      Sound (.fresh c) [(0, q)] (List.replicate k (.turn 0)) w := by
  induction k with
  | zero =>
      refine ⟨_, rfl, .start fun r hr => ?_⟩
      obtain rfl := List.mem_singleton.mp hr
      exact Nat.zero_lt_one
  | succ k ih =>
      obtain ⟨w, hrun, hsound⟩ := ih (Nat.le_of_lt hk)
      obtain ⟨p, hcall⟩ := hsound.exists_call (i := 0) rfl
      have running : turnsOf 0 (List.replicate k (Action.turn 0 : Action V)) < callSteps q := by
        rw [turnsOf_replicate]
        exact hk
      obtain ⟨w', hstep, hsound'⟩ := hsound.exists_turn hcall running
      rw [List.replicate_succ']
      refine ⟨w', ?_, hsound'⟩
      rw [World.run_append, hrun, Option.bind_some, World.run, hstep]
      rfl

/-- By itself, a call answers with the compiled query. -/
theorem compileAlone_eq (c : Compiler) (q : Sql V) : compileAlone c q = some (c.compile q) := by
  obtain ⟨w, hrun, hsound⟩ := exists_run_alone c q (callSteps q) (Nat.le_refl _)
  have hobject : (Memory.fresh c : Memory V).compilers[0]? = some ⟨c, 0⟩ := rfl
  have hresult := hsound.result?_eq (i := 0) rfl hobject
  rw [turnsOf_replicate, addedTo_replicate, if_neg (Nat.lt_irrefl _), List.append_nil] at hresult
  rw [compileAlone, hrun]
  exact hresult

/-! ## Calls that take turns -/

/-- Calls on compilers in memory that take turns in any order, with values being added to the
answers in between.  Whoever has had its turns has an answer, and it is what the call answers with
by itself on a fresh compiler, followed by the values that were added to this answer; nobody is ever
kept from a turn that is left, or from adding to an answer.  The compilers and the lists that
existed before the calls are as they were. -/
theorem calls_on_one_compiler_isolated {m₀ : Memory V} {requests : List (Nat × Sql V)}
    (valid : ∀ r ∈ requests, r.1 < m₀.compilers.length) {schedule : List (Action V)}
    {w : World V} (ran : (World.start m₀ requests).run schedule = some w) :
    (∀ (i on : Nat) (q : Sql V) (object : CompilerObject), requests[i]? = some (on, q) →
      m₀.compilers[on]? = some object →
      ∃ alone, compileAlone object.compiler q = some alone ∧
        alone = object.compiler.compile q ∧
        (turnsOf i schedule < callSteps q →
          w.result? i = none ∧ ∃ w', w.step (.turn i) = some w') ∧
        (callSteps q ≤ turnsOf i schedule →
          w.result? i = some ⟨alone.sql, alone.params ++ addedTo i schedule⟩ ∧
          ∀ v, ∃ w', w.step (.add i v) = some w')) ∧
      (∀ a, a < m₀.compilers.length → w.memory.compilers[a]? = m₀.compilers[a]?) ∧
      ∀ a, a < m₀.lists.length → w.memory.lists[a]? = m₀.lists[a]? := by
  have hsound : Sound m₀ requests schedule w := (Sound.start valid).run ran
  refine ⟨fun i on q object hrequest hobject => ?_,
    fun a ha => hsound.base.compilers a ha List.not_mem_nil,
    fun a ha => hsound.base.lists a ha List.not_mem_nil⟩
  obtain ⟨p, hcall⟩ := hsound.exists_call hrequest
  have hresult := hsound.result?_eq hrequest hobject
  refine ⟨_, compileAlone_eq object.compiler q, rfl, fun running => ?_, fun ended => ?_⟩
  · rw [if_pos running] at hresult
    obtain ⟨w', hstep, -⟩ := hsound.exists_turn hcall running
    exact ⟨hresult, w', hstep⟩
  · rw [if_neg (Nat.not_lt.mpr ended)] at hresult
    refine ⟨hresult, fun v => ?_⟩
    obtain ⟨w', hstep, -⟩ := hsound.exists_add hcall ended v
    exact ⟨w', hstep⟩

/-- Two calls on one compiler. -/
def twoCalls : List (Nat × Sql Nat) :=
  [(0, ⟨[.literal "a = ", .argument 1]⟩), (0, ⟨[.argument 2, .argument 3]⟩)]

/-- The calls take turns, and a value is added to the first answer while the second call is still
counting its placeholders. -/
def twoCallsTakingTurns : List (Action Nat) :=
  [.turn 0, .turn 1, .turn 1, .turn 0, .turn 0, .turn 1, .turn 0, .turn 1, .turn 0, .turn 0,
    .turn 1, .add 0 9, .turn 1, .turn 1]

theorem calls_on_one_compiler_isolated_of_two_calls :
    ∃ w, (World.start (.fresh {}) twoCalls).run twoCallsTakingTurns = some w ∧
      w.result? 0 = some ⟨"a = $1", [1, 9]⟩ ∧ w.result? 1 = some ⟨"$1$2", [2, 3]⟩ := by
  have valid : ∀ r ∈ twoCalls, r.1 < (Memory.fresh {} : Memory Nat).compilers.length := by decide
  have ends : ((World.start (.fresh {}) twoCalls).run twoCallsTakingTurns).isSome = true := rfl
  obtain ⟨w, ran⟩ := Option.isSome_iff_exists.mp ends
  obtain ⟨answers, -⟩ := calls_on_one_compiler_isolated valid ran
  obtain ⟨first, -, hfirst, -, hanswer⟩ := answers 0 0 _ ⟨{}, 0⟩ rfl rfl
  obtain ⟨second, -, hsecond, -, hanswer'⟩ := answers 1 0 _ ⟨{}, 0⟩ rfl rfl
  refine ⟨w, ran, ?_, ?_⟩
  · rw [(hanswer (by decide)).1, hfirst]
    decide
  · rw [(hanswer' (by decide)).1, hsecond]
    decide

end BoundSql.Query
