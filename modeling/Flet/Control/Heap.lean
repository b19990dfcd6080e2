import Flet.Control.Isolation

namespace Flet

/-! A heap of controls, each of a class, and any run of calls on them: the
constructor of one, a setter, a pre-serialization pass or the children listing
of another, in any order, each returning or raising. Two facts follow from the
isolation of the classes: calls on other controls never change what a control's
getters read, and every control whose constructor returned stays, but for its
marker "n", in a state its class reaches on its own. -/

namespace ControlClass

variable {C : ControlClass}

/-- A call of the code of a class on one of its objects: the constructor, a
setter, a pre-serialization pass, or the children listing. -/
inductive Call (C : ControlClass) where
  | init (args : C.Args)
  | set (i : Fin C.properties.length) (value : Value)
  | pass (i : Fin C.passes.length) (codec : Codec)
  | getChildren

def Call.run : C.Call → ObjId → PyM Unit
  | .init args, self => C.init self args
  | .set i value, self => (C.properties.get i).set self value
  | .pass i codec, self => C.passes.get i codec self
  | .getChildren, self => do
      let _ ← C.getChildren self
      Pure.pure ()

def Call.isInit : C.Call → Bool
  | .init _ => true
  | _ => false

theorem Call.eq_init {call : C.Call} (init : call.isInit = true) : ∃ args, call = .init args := by
  cases call
  case init args => exact ⟨args, rfl⟩
  all_goals cases init

theorem Isolated.run_local (isolated : C.Isolated) :
    ∀ (call : C.Call) (self : ObjId), Local self [.attr "n"] (call.run self)
  | .init args, self => (isolated.init self args).mono (List.nil_subset _)
  | .set _ value, self =>
      (isolated.properties _ (List.get_mem _ _ _) self value).mono (List.nil_subset _)
  | .pass _ codec, self =>
      (isolated.passes _ (List.get_mem _ _ _) codec self).mono (List.nil_subset _)
  | .getChildren, self => Local.bind (isolated.getChildren self) fun _ => Local.pure ()

theorem heapOf_bind_pure {α : Type} (x : PyM α) (h : Heap) :
    heapOf ((do let _ ← x; Pure.pure () : PyM Unit) h) = heapOf (x h) := by
  cases run : x h
  · rw [bind_of_ok run]
    rfl
  · rw [bind_of_error run]
    rfl

theorem Call.reachable_run {self : ObjId} {h : Heap} :
    ∀ {call : C.Call}, call.isInit = false → C.Reachable self (h self) →
      C.Reachable self (heapOf (call.run self h) self)
  | .set _ value, _, before => .set value before (List.get_mem _ _ _)
  | .pass _ codec, _, before => .pass codec before (List.get_mem _ _ _)
  | .getChildren, _, before => by
      rw [Call.run, heapOf_bind_pure]
      exact .getChildren before

section Isolated

variable (isolated : C.Isolated) {self : ObjId} {h : Heap}
include isolated

theorem Isolated.init_reachable {args : C.Args} {h' : Heap}
    (fresh : Obj.Alike (h self) .fresh) (run : C.init self args h = .ok () h') :
    ∃ o, C.Reachable self o ∧ Obj.Alike (h' self) o := by
  have alike := (isolated.init self args).unmarked _ _ (HeapAlike.replace h fresh)
  rw [run] at alike
  cases run₀ : C.init self args (Function.update h self .fresh) with
  | ok _ h₀ =>
      rw [run₀] at alike
      exact ⟨_, .init args (Function.update_same _ _ _) run₀, alike.2.owner_alike⟩
  | error _ _ =>
      rw [run₀] at alike
      exact alike.elim

/-- On a heap where a control is alike a state, every call on it ends as it
ends on the heap where the control is in that state. -/
theorem Isolated.run_alike (call : C.Call) {o : Obj} (alike : Obj.Alike (h self) o) :
    ResultAlike self (call.run self h) (call.run self (Function.update h self o)) :=
  (isolated.run_local call self).unmarked _ _ (HeapAlike.replace h alike)

theorem Isolated.call_reachable {call : C.Call} (notInit : call.isInit = false) {o : Obj}
    (reachable : C.Reachable self o) (alike : Obj.Alike (h self) o) :
    ∃ o', C.Reachable self o' ∧ Obj.Alike (heapOf (call.run self h) self) o' :=
  ⟨_, Call.reachable_run notInit (by simpa using reachable),
    (isolated.run_alike call alike).heapOf.owner_alike⟩

end Isolated

end ControlClass

section Run

variable {classOf : ObjId → ControlClass}

/-- A call on a control of a heap whose objects have the classes `classOf`. -/
structure ObjCall (classOf : ObjId → ControlClass) where
  obj : ObjId
  call : (classOf obj).Call

/-- One call, with the objects whose constructor has returned: a constructor
that returns adds its object; the heap is what the call left, returning or
raising, as when the caller catches the exception. -/
def ObjCall.step (c : ObjCall classOf) (state : Heap × List ObjId) : Heap × List ObjId :=
  match c.call.run c.obj state.1 with
  | .ok _ h => (h, if c.call.isInit then c.obj :: state.2 else state.2)
  | .error _ h => (h, state.2)

/-- Calls on the controls of a heap, in order. -/
def runCalls (calls : List (ObjCall classOf)) (state : Heap × List ObjId) : Heap × List ObjId :=
  calls.foldl (fun state c => c.step state) state

theorem runCalls_cons (c : ObjCall classOf) (rest : List (ObjCall classOf))
    (state : Heap × List ObjId) : runCalls (c :: rest) state = runCalls rest (c.step state) :=
  rfl

theorem ObjCall.step_heap (c : ObjCall classOf) (state : Heap × List ObjId) :
    (c.step state).1 = heapOf (c.call.run c.obj state.1) := by
  unfold ObjCall.step
  split <;> simp_all

theorem ObjCall.mem_step {c : ObjCall classOf} {state : Heap × List ObjId} {b : ObjId}
    (member : b ∈ (c.step state).2) :
    b ∈ state.2 ∨
      b = c.obj ∧ c.call.isInit = true ∧ ∃ h, c.call.run c.obj state.1 = .ok () h := by
  unfold ObjCall.step at member
  split at member
  · next h run =>
      split at member
      · rcases List.mem_cons.1 member with same | old
        · exact Or.inr ⟨same, ‹_›, h, run⟩
        · exact Or.inl old
      · exact Or.inl member
  · exact Or.inl member

theorem runCalls_spares {b : ObjId} :
    ∀ {calls : List (ObjCall classOf)} (state : Heap × List ObjId),
      (∀ c ∈ calls, (classOf c.obj).Isolated ∧ c.obj ≠ b) →
      Touches [.attr "n"] (state.1 b) ((runCalls calls state).1 b)
  | [], state, _ => Touches.refl _ (state.1 b)
  | c :: _, state, others => by
      obtain ⟨isolated, apart⟩ := others c (List.mem_cons_self _ _)
      have first := (isolated.run_local c.call c.obj).spares state.1 b (Ne.symm apart)
      rw [← ObjCall.step_heap] at first
      exact first.trans
        (runCalls_spares _ fun c' later => others c' (List.mem_cons_of_mem _ later))

/-- Each constructor call is on an object no earlier call named: Python
allocates a new object for every instance. -/
def FreshInits : List ObjId → List (ObjCall classOf) → Prop
  | _, [] => True
  | named, c :: rest =>
      (c.call.isInit = true → c.obj ∉ named) ∧ FreshInits (c.obj :: named) rest

/-- A heap of controls as a run leaves it: every built control is, but for its
marker, in a state its class reaches alone; only named objects are built, and
every other object is fresh but for its marker. -/
structure Wellformed (classOf : ObjId → ControlClass) (named : List ObjId)
    (state : Heap × List ObjId) : Prop where
  built : ∀ b ∈ state.2, ∃ o, (classOf b).Reachable b o ∧ Obj.Alike (state.1 b) o
  built_named : ∀ b ∈ state.2, b ∈ named
  fresh : ∀ b, b ∉ named → Obj.Alike (state.1 b) .fresh

theorem Wellformed.empty : Wellformed classOf [] (fun _ => .fresh, []) :=
  ⟨fun _ built => absurd built (List.not_mem_nil _),
    fun _ built => absurd built (List.not_mem_nil _), fun _ _ => Obj.Alike.refl _⟩

theorem Wellformed.step (isolated : ∀ b, (classOf b).Isolated) {named : List ObjId}
    {state : Heap × List ObjId} (wf : Wellformed classOf named state) (c : ObjCall classOf)
    (fresh : c.call.isInit = true → c.obj ∉ named) :
    Wellformed classOf (c.obj :: named) (c.step state) := by
  have others : ∀ b, b ≠ c.obj → Obj.Alike ((c.step state).1 b) (state.1 b) :=
    fun b apart => by
    rw [ObjCall.step_heap]
    exact .of_touches (((isolated c.obj).run_local c.call c.obj).spares _ b apart)
  refine ⟨fun b member => ?_, fun b member => ?_, fun b unnamed => ?_⟩
  · rcases ObjCall.mem_step member with old | ⟨rfl, init, h', run⟩
    · obtain ⟨o, reachable, alike⟩ := wf.built b old
      by_cases same : b = c.obj
      · subst same
        have notInit : c.call.isInit = false :=
          Bool.eq_false_iff.2 fun isInit => fresh isInit (wf.built_named _ old)
        rw [ObjCall.step_heap]
        exact (isolated _).call_reachable notInit reachable alike
      · exact ⟨o, reachable, (others b same).trans alike⟩
    · obtain ⟨args, isCall⟩ := ControlClass.Call.eq_init init
      rw [isCall] at run
      rw [ObjCall.step_heap, isCall, run, heapOf_ok]
      exact (isolated _).init_reachable (wf.fresh _ (fresh init)) run
  · rcases ObjCall.mem_step member with old | ⟨rfl, -⟩
    · exact List.mem_cons_of_mem _ (wf.built_named b old)
    · exact List.mem_cons_self _ _
  · simp only [List.mem_cons, not_or] at unnamed
    exact (others b unnamed.1).trans (wf.fresh b unnamed.2)

/-- A run whose constructors are on fresh objects keeps a heap of isolated
controls well formed. -/
theorem Wellformed.run (isolated : ∀ b, (classOf b).Isolated) :
    ∀ {calls : List (ObjCall classOf)} {named : List ObjId} {state : Heap × List ObjId},
      FreshInits named calls → Wellformed classOf named state →
      ∃ named', Wellformed classOf named' (runCalls calls state)
  | [], named, _, _, wf => ⟨named, wf⟩
  | c :: _, _, _, ⟨fresh, rest⟩, wf => by
      rw [runCalls_cons]
      exact Wellformed.run isolated rest (wf.step isolated c fresh)

end Run

end Flet
