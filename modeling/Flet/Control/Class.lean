import Flet.Control.Property

namespace Flet

/-! A control class as a whole: its constructor, its properties, its
pre-serialization passes and the listing of its children, with every slot of
the object that its code may write; and the states an object of the class
reaches. -/

/-- A control class. `writes` covers every slot of the object that the
constructor, a setter, a pass or the children listing may write. -/
structure ControlClass where
  Args : Type
  init : ObjId → Args → PyM Unit
  properties : List Property
  passes : List (Codec → ObjId → PyM Unit)
  getChildren : ObjId → PyM (List Value)
  writes : List Slot
  init_confined : ∀ self args, Confined self writes (init self args)
  properties_confined : ∀ p ∈ properties, p.writes ⊆ writes
  passes_confined : ∀ pass ∈ passes, ∀ codec self, Confined self writes (pass codec self)
  children_confined : ∀ self, Confined self writes (getChildren self)

namespace ControlClass

/-- The states of an object `self` of the class: what the constructor leaves on
a fresh object, then any setter call, pass or children listing, returning or
raising, while the rest of the heap changes at will. -/
inductive Reachable (C : ControlClass) (self : ObjId) : Obj → Prop
  | init {h h' : Heap} (args : C.Args) (fresh : h self = .fresh)
      (run : C.init self args h = .ok () h') : C.Reachable self (h' self)
  | set {h : Heap} {p : Property} (value : Value) (before : C.Reachable self (h self))
      (member : p ∈ C.properties) : C.Reachable self (heapOf (p.set self value h) self)
  | pass {h : Heap} {pass : Codec → ObjId → PyM Unit} (codec : Codec)
      (before : C.Reachable self (h self)) (member : pass ∈ C.passes) :
      C.Reachable self (heapOf (pass codec self h) self)
  | getChildren {h : Heap} (before : C.Reachable self (h self)) :
      C.Reachable self (heapOf (C.getChildren self h) self)

/-- Setting one property of the class leaves every other one reading as before. -/
def Independent (C : ControlClass) : Prop :=
  C.properties.Pairwise fun p q => ∀ codec self value (h : Heap),
    q.get codec (heapOf (p.set self value h) self) = q.get codec (h self) ∧
      p.get codec (heapOf (q.set self value h) self) = p.get codec (h self)

variable {C : ControlClass} {self : ObjId} {o : Obj}

theorem independent_of_separate (separate : C.properties.Pairwise Property.Separate) :
    C.Independent :=
  separate.imp fun apart codec self value h =>
    ⟨apart.get_set codec self value h, apart.symm.get_set codec self value h⟩

/-- A slot that no code of the class writes keeps the value of a fresh object. -/
theorem Reachable.read_unwritten {slot : Slot} (unwritten : slot ∉ C.writes)
    (reachable : C.Reachable self o) : o.read slot = Obj.fresh.read slot := by
  induction reachable with
  | @init h _ args fresh run =>
      have kept := (C.init_confined self args h).slots slot unwritten
      simp only [run, heapOf_ok, fresh] at kept
      exact kept
  | set value _ member ih =>
      rw [(((Property.set_confined _ self value).mono
        (C.properties_confined _ member)) _).slots slot unwritten, ih]
  | pass codec _ member ih =>
      rw [(C.passes_confined _ member codec self _).slots slot unwritten, ih]
  | getChildren _ ih =>
      rw [(C.children_confined self _).slots slot unwritten, ih]

theorem Reachable.field_assigned {name : PyName}
    (assigned : ∀ args {h h' : Heap}, h self = .fresh → C.init self args h = .ok () h' →
      (h' self).fields name ≠ none)
    (reachable : C.Reachable self o) : o.fields name ≠ none := by
  induction reachable with
  | init args fresh run => exact assigned args fresh run
  | set value _ member ih =>
      exact (((Property.set_confined _ self value).mono
        (C.properties_confined _ member)) _).fields name ih
  | pass codec _ member ih => exact (C.passes_confined _ member codec self _).fields name ih
  | getChildren _ ih => exact (C.children_confined self _).fields name ih

/-- An attribute that the constructor leaves admitted, that only its checked
setter among the setters writes, and that the passes and the children listing
leave alone, stays admitted in every reachable state. -/
theorem Reachable.admitted {check : Value → Except PyError Bool} {message key : String}
    {writes : List Slot}
    (init : ∀ args {h h' : Heap}, h self = .fresh → C.init self args h = .ok () h' →
      Property.Admitted check key (h' self))
    (setters : ∀ p ∈ C.properties,
      p.set = Property.checkedSet check message key ∨ .attr key ∉ p.writes)
    (unwritten : .attr key ∉ writes)
    (passes : ∀ pass ∈ C.passes, ∀ codec, Confined self writes (pass codec self))
    (children : Confined self writes (C.getChildren self))
    (reachable : C.Reachable self o) : Property.Admitted check key o := by
  induction reachable with
  | init args fresh run => exact init args fresh run
  | set value _ member ih => exact .set (setters _ member) self value ih
  | pass codec _ member ih => exact ih.of_touches (passes _ member codec _) unwritten
  | getChildren _ ih => exact ih.of_touches (children _) unwritten

end ControlClass

end Flet
