import Mathlib.Algebra.Order.Ring.Rat
import Mathlib.Logic.Function.Basic

namespace Flet

/-! Python objects as the control classes use them: values, instance attributes
(private ones under their mangled names), exceptions that do not roll back the
heap, truthiness, iteration and the numeric comparisons of the setters. -/

/-- Identity of a Python object on the heap. -/
abbrev ObjId := Nat

/-- The value classes the controls hold and test with `isinstance`. -/
inductive ValueClass where
  | textStyle | outlinedBorder | padding | margin | alignment | offset
  | rotate | scale | animation | gradient | boxShadow | autoCompleteSuggestion
  deriving DecidableEq, Repr

/-- The enumerations whose members the controls store. -/
inductive EnumClass where
  | notchShape | clipBehavior | cardVariant | blendMode | visibilityMode
  | mainAxisAlignment
  deriving DecidableEq, Repr

/-- A Python value. Numbers (`int` and `float`) are modelled exactly, as
rationals; controls, value objects and callables are references to heap
objects; an enumeration member carries its `.value`. -/
inductive Value where
  | none
  | bool (b : Bool)
  | num (q : ℚ)
  | str (s : String)
  | list (items : List Value)
  | control (id : ObjId)
  | object (cls : ValueClass) (id : ObjId)
  | member (cls : EnumClass) (value : Value)
  | callable (id : ObjId)

/-- The name of an instance attribute. `priv cls name` is `self.__name` written
in the body of class `cls`, which Python stores as `_cls__name`. -/
inductive PyName where
  | pub (name : String)
  | priv (cls name : String)
  deriving DecidableEq, Repr

inductive PyError where
  | attributeError (name : PyName)
  | typeError (message : String)
  | assertionError (message : String)
  deriving DecidableEq, Repr

/-- A Python object: its instance dictionary, and for a control the attribute
map and the event handlers that `Control` keeps for it. -/
structure Obj where
  fields : PyName → Option Value
  attrs : String → Option Value
  handlers : String → Option Value

/-- A newly allocated object. -/
def Obj.fresh : Obj := ⟨fun _ => none, fun _ => none, fun _ => none⟩

/-- Where an object keeps a value: an instance attribute, a key of the attribute
map, or an event handler slot. -/
inductive Slot where
  | field (name : PyName)
  | attr (key : String)
  | handler (event : String)
  deriving DecidableEq, Repr

namespace Obj

def read (o : Obj) : Slot → Option Value
  | .field name => o.fields name
  | .attr key => o.attrs key
  | .handler event => o.handlers event

def setField (o : Obj) (name : PyName) (value : Value) : Obj :=
  { o with fields := Function.update o.fields name (some value) }

def setAttr (o : Obj) (key : String) (value : Option Value) : Obj :=
  { o with attrs := Function.update o.attrs key value }

def setHandler (o : Obj) (event : String) (value : Option Value) : Obj :=
  { o with handlers := Function.update o.handlers event value }

@[simp] theorem read_field (o : Obj) (name : PyName) :
    o.read (.field name) = o.fields name := rfl

@[simp] theorem read_attr (o : Obj) (key : String) :
    o.read (.attr key) = o.attrs key := rfl

@[simp] theorem read_handler (o : Obj) (event : String) :
    o.read (.handler event) = o.handlers event := rfl

@[simp] theorem setField_fields (o : Obj) (name : PyName) (value : Value) :
    (o.setField name value).fields = Function.update o.fields name (some value) := rfl

@[simp] theorem setField_attrs (o : Obj) (name : PyName) (value : Value) :
    (o.setField name value).attrs = o.attrs := rfl

@[simp] theorem setField_handlers (o : Obj) (name : PyName) (value : Value) :
    (o.setField name value).handlers = o.handlers := rfl

@[simp] theorem setAttr_fields (o : Obj) (key : String) (value : Option Value) :
    (o.setAttr key value).fields = o.fields := rfl

@[simp] theorem setAttr_attrs (o : Obj) (key : String) (value : Option Value) :
    (o.setAttr key value).attrs = Function.update o.attrs key value := rfl

@[simp] theorem setAttr_handlers (o : Obj) (key : String) (value : Option Value) :
    (o.setAttr key value).handlers = o.handlers := rfl

@[simp] theorem setHandler_fields (o : Obj) (event : String) (value : Option Value) :
    (o.setHandler event value).fields = o.fields := rfl

@[simp] theorem setHandler_attrs (o : Obj) (event : String) (value : Option Value) :
    (o.setHandler event value).attrs = o.attrs := rfl

@[simp] theorem setHandler_handlers (o : Obj) (event : String) (value : Option Value) :
    (o.setHandler event value).handlers = Function.update o.handlers event value := rfl

@[simp] theorem fresh_fields (name : PyName) : Obj.fresh.fields name = none := rfl

@[simp] theorem fresh_attrs (key : String) : Obj.fresh.attrs key = none := rfl

@[simp] theorem fresh_handlers (event : String) : Obj.fresh.handlers event = none := rfl

end Obj

/-- The objects of a running program, by identity. -/
abbrev Heap := ObjId → Obj

namespace Heap

/-- Apply `f` to the object `self`. -/
def update (h : Heap) (self : ObjId) (f : Obj → Obj) : Heap :=
  Function.update h self (f (h self))

@[simp] theorem update_self (h : Heap) (self : ObjId) (f : Obj → Obj) :
    h.update self f self = f (h self) := by
  simp [update]

@[simp] theorem update_other (h : Heap) {self other : ObjId} (f : Obj → Obj)
    (hne : other ≠ self) : h.update self f other = h other := by
  simp [update, hne]

end Heap

/-- Python code: it runs on the heap and returns a value or raises an exception.
An exception keeps the heap as the raising code left it. -/
abbrev PyM := EStateM PyError Heap

/-- The heap after a run, whether it returned or raised. -/
def heapOf {α : Type} : EStateM.Result PyError Heap α → Heap
  | .ok _ h => h
  | .error _ h => h

/-- The exception a run raised, if any. -/
def raised {α : Type} : EStateM.Result PyError Heap α → Option PyError
  | .ok _ _ => none
  | .error e _ => some e

@[simp] theorem heapOf_ok {α : Type} (a : α) (h : Heap) : heapOf (.ok a h) = h := rfl

@[simp] theorem heapOf_error {α : Type} (e : PyError) (h : Heap) :
    heapOf (.error e h : EStateM.Result PyError Heap α) = h := rfl

@[simp] theorem raised_ok {α : Type} (a : α) (h : Heap) : raised (.ok a h) = none := rfl

@[simp] theorem raised_error {α : Type} (e : PyError) (h : Heap) :
    raised (.error e h : EStateM.Result PyError Heap α) = some e := rfl

section Monad

variable {α β : Type} {x : PyM α} {f : α → PyM β} {h h' : Heap}

theorem bind_of_ok {a : α} {h₁ : Heap} (run : x h = .ok a h₁) :
    (x >>= f) h = f a h₁ := by
  show EStateM.bind x f h = _
  simp only [EStateM.bind, run]

theorem bind_of_error {e : PyError} {h₁ : Heap} (run : x h = .error e h₁) :
    (x >>= f) h = .error e h₁ := by
  show EStateM.bind x f h = _
  simp only [EStateM.bind, run]

@[simp] theorem pure_apply (a : α) (h : Heap) : (pure a : PyM α) h = .ok a h := rfl

theorem bind_eq_ok {b : β} :
    (x >>= f) h = .ok b h' ↔ ∃ a h₁, x h = .ok a h₁ ∧ f a h₁ = .ok b h' := by
  cases run : x h with
  | ok a h₁ =>
      rw [bind_of_ok run]
      exact ⟨fun last => ⟨a, h₁, rfl, last⟩,
        fun ⟨_, _, first, last⟩ => by cases first; exact last⟩
  | error e h₁ => simp [bind_of_error run]

theorem raises_bind (rest : ∀ a h₁, x h = .ok a h₁ → (raised (f a h₁)).isSome) :
    (raised ((x >>= f) h)).isSome := by
  cases run : x h with
  | ok a h₁ => rw [bind_of_ok run]; exact rest a h₁ run
  | error e h₁ => rw [bind_of_error run]; rfl

end Monad

/-- `raise error`. -/
def raise {α : Type} (error : PyError) : PyM α := fun h => .error error h

/-- `assert condition, message`. -/
def pyAssert (condition : Bool) (message : String) : PyM Unit :=
  if condition then pure () else raise (.assertionError message)

/-- `self.name`, which raises `AttributeError` when `name` was never assigned. -/
def getField (self : ObjId) (name : PyName) : PyM Value := fun h =>
  match (h self).fields name with
  | some value => .ok value h
  | none => .error (.attributeError name) h

/-- `self.name = value`. -/
def setField (self : ObjId) (name : PyName) (value : Value) : PyM Unit := fun h =>
  .ok () (h.update self (·.setField name value))

@[simp] theorem raise_apply {α : Type} (error : PyError) (h : Heap) :
    (raise error : PyM α) h = .error error h := rfl

@[simp] theorem pyAssert_true (message : String) : pyAssert true message = pure () := rfl

@[simp] theorem pyAssert_false (message : String) :
    pyAssert false message = raise (.assertionError message) := rfl

@[simp] theorem setField_apply (self : ObjId) (name : PyName) (value : Value) (h : Heap) :
    setField self name value h = .ok () (h.update self (·.setField name value)) := rfl

theorem getField_of_some {self : ObjId} {name : PyName} {value : Value} {h : Heap}
    (assigned : (h self).fields name = some value) : getField self name h = .ok value h := by
  simp [getField, assigned]

theorem getField_ok {self : ObjId} {name : PyName} {value : Value} {h h' : Heap}
    (read : getField self name h = .ok value h') :
    (h self).fields name = some value ∧ h' = h := by
  unfold getField at read
  split at read <;> cases read
  exact ⟨‹_›, rfl⟩

theorem pyAssert_ok {condition : Bool} {message : String} {h h' : Heap}
    (asserted : pyAssert condition message h = .ok () h') : condition = true ∧ h' = h := by
  cases condition <;> cases asserted
  exact ⟨rfl, rfl⟩

theorem getField_of_none {self : ObjId} {name : PyName} {h : Heap}
    (unassigned : (h self).fields name = none) :
    getField self name h = .error (.attributeError name) h := by
  simp [getField, unassigned]

namespace Value

/-- Python truthiness. Controls, value objects, enumeration members and
callables define neither `__bool__` nor `__len__`, so they are true. -/
def truthy : Value → Bool
  | .none => false
  | .bool b => b
  | .num q => q != 0
  | .str s => !s.isEmpty
  | .list items => !items.isEmpty
  | .control _ | .object _ _ | .member _ _ | .callable _ => true

/-- The number a value stands for in a comparison (`bool` is a subclass of `int`). -/
def toNumber? : Value → Option ℚ
  | .bool b => some (if b then 1 else 0)
  | .num q => some q
  | _ => Option.none

/-- Python's `a >= b` where one side is a number, as in every comparison of the
modelled code: any other operand raises `TypeError`. -/
def ge (a b : Value) : Except PyError Bool :=
  match a.toNumber?, b.toNumber? with
  | some x, some y => .ok (decide (y ≤ x))
  | _, _ => .error (.typeError "'>=' not supported between instances")

/-- `for item in value`: the items a `for` loop visits. -/
def iter : Value → PyM (List Value)
  | .list items => pure items
  | .str s => pure (s.toList.map fun c => .str c.toString)
  | _ => raise (.typeError "object is not iterable")

@[simp] theorem ge_num (x y : ℚ) : ge (.num x) (.num y) = .ok (decide (y ≤ x)) := rfl

@[simp] theorem iter_list (items : List Value) : iter (.list items) = pure items := rfl

theorem iter_list_apply (items : List Value) (h : Heap) : iter (.list items) h = .ok items h := rfl

@[simp] theorem iter_none : iter .none = raise (.typeError "object is not iterable") := rfl

end Value

end Flet
