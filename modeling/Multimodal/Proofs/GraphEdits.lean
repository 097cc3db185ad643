import Multimodal.Proofs.Registration

/-!
# Adding to a graph

A graph is built by single calls with arbitrary handles, and a call may fail. This module follows
any sequence of calls, whether or not they succeed.

A call answers with the changed graph, or with a failure. The same call in place (`Edit.program`)
changes the graph step by step and may fail at any of its steps; that it then leaves the graph as it
was is `CarriesOut`.

* `Digraph.Edit.apply_cases`, `Digraph.Edit.apply_eq_error_iff`: all that a call can do.
* `Digraph.closed_edited`: calls keep the ends of all arcs inside the graph.
* `Digraph.extends_edited`: they leave everything that was there under its handle.
* `Digraph.addArc_again`: parallel arcs have different handles.
-/
namespace Multimodal

/-! ## Calls -/

section
variable {ε σ β : Type}

/-- What calls leave, one after another. One that fails is passed over. -/
def afterCalls (call : ε → σ → Except Failure (σ × β)) : List ε → σ → σ
  | [], state => state
  | edit :: rest, state =>
    match call edit state with
    | .ok (next, _) => afterCalls call rest next
    | .error _ => afterCalls call rest state

theorem afterCalls_append (call : ε → σ → Except Failure (σ × β)) (edits more : List ε)
    (state : σ) :
    afterCalls call (edits ++ more) state = afterCalls call more (afterCalls call edits state) := by
  induction edits generalizing state with
  | nil => rfl
  | cons edit rest ih =>
    simp only [List.cons_append, afterCalls]
    split
    · exact ih _
    · exact ih _

/-- What every successful call keeps holds after all calls. -/
theorem afterCalls_of_keeps {call : ε → σ → Except Failure (σ × β)} {P : σ → Prop} {edits : List ε}
    (keeps : ∀ edit ∈ edits, ∀ {state next out}, call edit state = .ok (next, out) → P state →
      P next) {state : σ} (h : P state) : P (afterCalls call edits state) := by
  induction edits generalizing state with
  | nil => exact h
  | cons edit rest ih =>
    rw [List.forall_mem_cons] at keeps
    simp only [afterCalls]
    split
    · rename_i next out hcall
      exact ih keeps.2 (keeps.1 hcall h)
    · exact ih keeps.2 h

/-- A program that changes its state in place carries out a call: it answers alike, and where the
call fails it leaves the state as it was. -/
def CarriesOut (program : EStateM Failure σ β) (call : σ → Except Failure (σ × β)) : Prop :=
  ∀ state, program.run state =
    match call state with
    | .ok (next, out) => .ok out next
    | .error failure => .error failure state

/-- What calls answer, one after another. -/
def answers (call : ε → σ → Except Failure (σ × β)) : List ε → σ → List (Except Failure β)
  | [], _ => []
  | edit :: rest, state =>
    match call edit state with
    | .ok (next, out) => .ok out :: answers call rest next
    | .error failure => .error failure :: answers call rest state

/-- Each call answers from what the calls before it have left. -/
theorem answers_eq (call : ε → σ → Except Failure (σ × β)) (edits : List ε) (state : σ) :
    answers call edits state =
      edits.mapIdx fun place edit =>
        (call edit (afterCalls call (edits.take place) state)).map (·.2) := by
  induction edits generalizing state with
  | nil => rfl
  | cons edit rest ih =>
    rw [answers, List.mapIdx_cons]
    cases hcall : call edit state <;>
      simp only [ih, List.take_zero, List.take_succ_cons, afterCalls, hcall, Except.map]

/-- Calls in place, one after another. One that fails does not end them; its failure is its
answer. -/
def attempts (program : ε → EStateM Failure σ β) :
    List ε → EStateM Failure σ (List (Except Failure β))
  | [] => return []
  | edit :: rest => do
    let answer ← observing (program edit)
    return answer :: (← attempts program rest)

/-- A failure is answered, and what the program has changed by then stays changed. -/
theorem run_observing (program : EStateM Failure σ β) (state : σ) :
    (observing program : EStateM Failure σ (Except Failure β)).run state =
      match program.run state with
      | .ok out next => .ok (.ok out) next
      | .error failure next => .ok (.error failure) next := by
  simp only [observing, tryCatch, tryCatchThe, MonadExceptOf.tryCatch, EStateM.tryCatch,
    EStateM.run, bind, EStateM.bind]
  cases program state <;> rfl

/-- Programs that carry out calls do so one after another as well. -/
theorem run_attempts {program : ε → EStateM Failure σ β} {call : ε → σ → Except Failure (σ × β)}
    (h : ∀ edit, CarriesOut (program edit) (call edit)) (edits : List ε) (state : σ) :
    (attempts program edits).run state =
      .ok (answers call edits state) (afterCalls call edits state) := by
  induction edits generalizing state with
  | nil => rfl
  | cons edit rest ih =>
    rw [attempts, EStateM.run_bind, run_observing, h edit state, answers, afterCalls]
    cases call edit state <;> simp [ih, -bind_pure_comp]

end

/-! ## Calls on a graph -/

namespace Digraph

variable {ν α : Type}

def withArc (g : Digraph ν α) (arc : Arc α) : Digraph ν α := { g with arcs := g.arcs.push arc }

/-- A call that adds to a graph. -/
inductive Edit (ν α : Type) where
  | addVertex (label : ν)
  | addArc (source target : Handle) (label : α)
  deriving DecidableEq, Repr

def Edit.apply : Edit ν α → Digraph ν α → Except Failure (Digraph ν α × Handle)
  | .addVertex label, g => .ok (g.addVertex label)
  | .addArc source target label, g => g.addArc source target label

def Edit.program : Edit ν α → EStateM Failure (Digraph ν α) Handle
  | .addVertex label => modifyGet fun g => (g.order, { g with vertices := g.vertices.push label })
  | .addArc source target label => do
    let g ← get
    if g.order ≤ source ∨ g.order ≤ target then
      throw .invalidHandle
    modifyGet fun g => (g.size, g.withArc ⟨source, target, label⟩)

def edited (g : Digraph ν α) (edits : List (Edit ν α)) : Digraph ν α :=
  afterCalls Edit.apply edits g

variable {g next last : Digraph ν α} {edit : Edit ν α} {handle : Handle}

theorem vertex?_addVertex (g : Digraph ν α) (label : ν) (handle : Handle) :
    (g.addVertex label).1.vertex? handle =
      if handle = g.order then some label else g.vertex? handle :=
  Array.getElem?_push

theorem arc?_withArc (g : Digraph ν α) (arc : Arc α) (handle : Handle) :
    (g.withArc arc).arc? handle =
      if handle = g.size then some arc else g.arc? handle :=
  Array.getElem?_push

theorem vertex?_mapVertex (g : Digraph ν α) (changed : Handle) (f : ν → ν) (handle : Handle) :
    (g.mapVertex changed f).vertex? handle =
      if handle = changed then (g.vertex? handle).map f else g.vertex? handle := by
  simp [mapVertex, vertex?, Array.getElem?_modify, eq_comm]

theorem order_mapVertex (g : Digraph ν α) (changed : Handle) (f : ν → ν) :
    (g.mapVertex changed f).order = g.order := by
  simp [mapVertex, order]

theorem vertex?_eq_none_iff (g : Digraph ν α) (handle : Handle) :
    g.vertex? handle = none ↔ g.order ≤ handle := by
  simp [vertex?, order]

theorem arc?_eq_none_iff (g : Digraph ν α) (handle : Handle) :
    g.arc? handle = none ↔ g.size ≤ handle := by
  simp [arc?, size]

theorem lt_order_of_vertex? {label : ν} (h : g.vertex? handle = some label) : handle < g.order := by
  by_contra hge
  rw [(g.vertex?_eq_none_iff handle).mpr (Nat.le_of_not_lt hge)] at h
  cases h

theorem lt_size_of_arc? {arc : Arc α} (h : g.arc? handle = some arc) : handle < g.size := by
  by_contra hge
  rw [(g.arc?_eq_none_iff handle).mpr (Nat.le_of_not_lt hge)] at h
  cases h

theorem addArc_eq (g : Digraph ν α) (source target : Handle) (label : α) :
    g.addArc source target label =
      if g.vertex? source = none ∨ g.vertex? target = none then .error .invalidHandle
      else .ok (g.withArc ⟨source, target, label⟩, g.size) := by
  simp only [addArc, withArc, vertex?_eq_none_iff, ← Nat.not_lt, ← not_and_or, ite_not]

theorem addArc_eq_ok_iff {source target : Handle} {label : α} :
    g.addArc source target label = .ok (next, handle) ↔
      (source < g.order ∧ target < g.order) ∧ handle = g.size ∧
        next = g.withArc ⟨source, target, label⟩ := by
  unfold addArc
  split
  case isTrue hends => simp [hends, withArc, eq_comm, and_comm]
  case isFalse hends => simp [hends]

/-- All that a call on a graph can do. -/
theorem Edit.apply_cases (h : edit.apply g = .ok (next, handle)) :
    (∃ label, edit = .addVertex label ∧ handle = g.order ∧ next = (g.addVertex label).1) ∨
      ∃ source target label, edit = .addArc source target label ∧
        (source < g.order ∧ target < g.order) ∧ handle = g.size ∧
        next = g.withArc ⟨source, target, label⟩ := by
  cases edit with
  | addVertex label =>
    have hadded : g.addVertex label = (next, handle) := Except.ok.inj h
    exact .inl ⟨label, rfl, (congrArg (·.2) hadded).symm, (congrArg (·.1) hadded).symm⟩
  | addArc source target label => exact .inr ⟨source, target, label, rfl, addArc_eq_ok_iff.mp h⟩

theorem Edit.carriesOut (edit : Edit ν α) : CarriesOut edit.program edit.apply := by
  intro g
  cases edit with
  | addVertex label => rfl
  | addArc source target label =>
    simp only [program, apply, addArc_eq, ← vertex?_eq_none_iff]
    by_cases hforeign : g.vertex? source = none ∨ g.vertex? target = none
    · simp [hforeign]
    · simp [hforeign]

/-- A call fails exactly if it joins vertices of which one does not exist. -/
def Edit.RefusedBy (g : Digraph ν α) : Edit ν α → Failure → Prop
  | .addVertex _, _ => False
  | .addArc source target _, failure =>
    failure = .invalidHandle ∧ (g.vertex? source = none ∨ g.vertex? target = none)

theorem Edit.apply_eq_error_iff (edit : Edit ν α) (g : Digraph ν α) (failure : Failure) :
    edit.apply g = .error failure ↔ edit.RefusedBy g failure := by
  cases edit with
  | addVertex label => simp [apply, RefusedBy]
  | addArc source target label =>
    simp only [apply, addArc_eq, RefusedBy]
    by_cases hforeign : g.vertex? source = none ∨ g.vertex? target = none
    · simp [hforeign, @eq_comm _ failure]
    · simp [hforeign]

/-! ### What calls keep -/

/-- Every arc joins vertices of the graph. -/
def Closed (g : Digraph ν α) : Prop :=
  ∀ handle source target, g.ends? handle = some (source, target) →
    source < g.order ∧ target < g.order

theorem closed_iff : g.Closed ↔ ∀ handle arc, g.arc? handle = some arc →
    arc.source < g.order ∧ arc.target < g.order := by
  simp only [Closed, ends?, Option.map_eq_some_iff, Prod.mk.injEq]
  constructor
  · intro h handle arc harc
    exact h handle arc.source arc.target ⟨arc, harc, rfl, rfl⟩
  · rintro h handle _ _ ⟨arc, harc, rfl, rfl⟩
    exact h handle arc harc

theorem closed_iff_mem : g.Closed ↔ ∀ arc ∈ g.arcs.toList,
    arc.source < g.order ∧ arc.target < g.order := by
  rw [closed_iff]
  constructor
  · intro h arc harc
    obtain ⟨handle, hhandle⟩ := List.mem_iff_getElem?.mp harc
    exact h handle arc (by rwa [arc?, ← Array.getElem?_toList])
  · intro h handle arc harc
    exact h arc (List.mem_iff_getElem?.mpr ⟨handle, by rwa [Array.getElem?_toList]⟩)

theorem closed_empty : (empty : Digraph ν α).Closed := by
  simp [Closed, ends?, arc?, empty]

theorem Closed.addVertex (h : g.Closed) (label : ν) : (g.addVertex label).1.Closed := by
  intro handle source target hends
  obtain ⟨hsource, htarget⟩ := h handle source target hends
  rw [order_addVertex]
  exact ⟨Nat.lt_succ_of_lt hsource, Nat.lt_succ_of_lt htarget⟩

theorem Closed.withArc (h : g.Closed) {arc : Arc α} (hsource : arc.source < g.order)
    (htarget : arc.target < g.order) :
    (g.withArc arc).Closed := by
  rw [closed_iff] at h ⊢
  intro handle other hother
  rw [arc?_withArc] at hother
  split at hother
  · obtain rfl := Option.some.inj hother
    exact ⟨hsource, htarget⟩
  · exact h handle other hother

theorem Closed.mapVertex (h : g.Closed) (changed : Handle) (f : ν → ν) :
    (g.mapVertex changed f).Closed := by
  intro handle source target hends
  rw [order_mapVertex]
  exact h handle source target hends

theorem Closed.apply (h : g.Closed) (happly : edit.apply g = .ok (next, handle)) :
    next.Closed := by
  obtain ⟨label, -, -, rfl⟩ | ⟨source, target, label, -, ⟨hsource, htarget⟩, -, rfl⟩ :=
    Edit.apply_cases happly
  · exact h.addVertex label
  · exact h.withArc hsource htarget

theorem closed_edited (h : g.Closed) (edits : List (Edit ν α)) : (g.edited edits).Closed :=
  afterCalls_of_keeps (fun _ _ _ _ _ happly hclosed => hclosed.apply happly) h

/-- A graph has the vertices and arcs of another under the same handles, and maybe more. -/
structure Extends (g next : Digraph ν α) : Prop where
  vertex : ∀ handle label, g.vertex? handle = some label → next.vertex? handle = some label
  arc : ∀ handle arc, g.arc? handle = some arc → next.arc? handle = some arc

theorem Extends.refl (g : Digraph ν α) : g.Extends g := ⟨fun _ _ h => h, fun _ _ h => h⟩

theorem Extends.trans (h : g.Extends next) (h' : next.Extends last) : g.Extends last :=
  ⟨fun _ _ hlabel => h'.vertex _ _ (h.vertex _ _ hlabel),
    fun _ _ harc => h'.arc _ _ (h.arc _ _ harc)⟩

theorem Extends.lt_order (h : g.Extends next) {vertex : Handle} (hlt : vertex < g.order) :
    vertex < next.order := by
  obtain ⟨label, hlabel⟩ := Option.ne_none_iff_exists'.mp
    (mt (g.vertex?_eq_none_iff vertex).mp (Nat.not_le_of_lt hlt))
  exact lt_order_of_vertex? (h.vertex vertex label hlabel)

theorem extends_addVertex (g : Digraph ν α) (label : ν) : g.Extends (g.addVertex label).1 where
  vertex := by
    intro handle other hother
    rw [vertex?_addVertex, if_neg (Nat.ne_of_lt (lt_order_of_vertex? hother))]
    exact hother
  arc := fun _ _ harc => harc

theorem extends_withArc (g : Digraph ν α) (arc : Arc α) :
    g.Extends (g.withArc arc) where
  vertex := fun _ _ hlabel => hlabel
  arc := by
    intro handle other hother
    rw [arc?_withArc, if_neg (Nat.ne_of_lt (lt_size_of_arc? hother))]
    exact hother

theorem extends_apply (happly : edit.apply g = .ok (next, handle)) : g.Extends next := by
  obtain ⟨label, -, -, rfl⟩ | ⟨source, target, label, -, -, -, rfl⟩ := Edit.apply_cases happly
  · exact g.extends_addVertex label
  · exact g.extends_withArc _

theorem extends_edited (g : Digraph ν α) (edits : List (Edit ν α)) : g.Extends (g.edited edits) :=
  afterCalls_of_keeps (fun _ _ _ _ _ happly h => h.trans (extends_apply happly)) (.refl g)

/-- An arc added once more, after any other calls, is another arc beside the first. -/
theorem addArc_again {source target : Handle} {label : α}
    (hadd : g.addArc source target label = .ok (next, handle)) (edits : List (Edit ν α))
    (other : α) :
    ∃ last second, (next.edited edits).addArc source target other = .ok (last, second) ∧
      second ≠ handle ∧ last.arc? handle = some ⟨source, target, label⟩ ∧
      last.arc? second = some ⟨source, target, other⟩ := by
  obtain ⟨hends, rfl, rfl⟩ := addArc_eq_ok_iff.mp hadd
  have hkept := (g.withArc ⟨source, target, label⟩).extends_edited edits
  have hends' := And.imp hkept.lt_order hkept.lt_order hends
  have hfirst := hkept.arc g.size ⟨source, target, label⟩ (by rw [arc?_withArc, if_pos rfl])
  refine ⟨_, _, addArc_eq_ok_iff.mpr ⟨hends', rfl, rfl⟩,
    (Nat.ne_of_lt (lt_size_of_arc? hfirst)).symm, (extends_withArc _ _).arc _ _ hfirst, ?_⟩
  rw [arc?_withArc, if_pos rfl]

end Digraph

end Multimodal
