import Flet.Python.Object

namespace Flet

/-! `Control`, the base class of every control, is not in the sources. What the
control classes call of it is modelled from the spec (4.1 to 4.3): an open
attribute map with `_get_attr` and `_set_attr`, the JSON flattening of
structured values, the event handlers registered by name, and the empty
`before_update` hook that subclasses extend through `super()`. -/

/-- Modelled from the spec: what the attribute store does with values and the
sources do not show. `json` is the encoder that `_set_attr_json` applies to a
structured value; `coerce dataType s` is what `_get_attr` returns for a stored
string `s` read with `data_type` `bool`, `float` or `int`. -/
structure Codec where
  json : Value → String
  coerce : String → String → Value

/-- The stored form of a value: `None` is the absence of an entry. -/
def Value.toOption : Value → Option Value
  | .none => Option.none
  | value => some value

@[simp] theorem Value.toOption_none : Value.none.toOption = Option.none := rfl

theorem Value.toOption_of_ne {value : Value} (hne : value ≠ .none) :
    value.toOption = some value := by
  cases value
  · exact absurd rfl hne
  all_goals rfl

/-- The data types `_get_attr` coerces a stored string to. -/
def coercedTypes : List String := ["bool", "float", "int"]

namespace Control

/-- Modelled from the spec: what `_get_attr` makes of an entry, the stored value
with the coercion of strings, or `def_value` when there is none. -/
def decode (codec : Codec) (dataType : String) (defValue : Value) : Option Value → Value
  | none => defValue
  | some (.str s) => if dataType ∈ coercedTypes then codec.coerce dataType s else .str s
  | some value => value

/-- Modelled from the spec: `self._get_attr(name, def_value, data_type)`. -/
def getAttr (codec : Codec) (o : Obj) (name dataType : String) (defValue : Value) : Value :=
  decode codec dataType defValue (o.attrs name)

/-- Modelled from the spec: `self._set_attr(name, value)` stores `value` under
`name`, or clears `name` when `value` is `None`. -/
def setAttr (self : ObjId) (name : String) (value : Value) : PyM Unit := fun h =>
  .ok () (h.update self (·.setAttr name value.toOption))

/-- Modelled from the spec: `self._set_attr_internal(name, value)`, the store
behind `_set_attr`, used for the relationship marker `n` of a child. -/
def setAttrInternal (self : ObjId) (name : String) (value : Value) : PyM Unit :=
  setAttr self name value

/-- Modelled from the spec: `self._set_attr_json(name, value)` stores the JSON
encoding of a set value and clears `name` when `value` is `None`. -/
def setAttrJson (codec : Codec) (self : ObjId) (name : String) (value : Value) : PyM Unit :=
  setAttr self name (match value with
    | .none => .none
    | value => .str (codec.json value))

/-- `self._set_enum_attr(name, value, enum_type)`, as the sources spell it out
inline in `CupertinoTextField`: the member's `.value` when `value` is a member
of `enum_type`, and `value` itself otherwise. -/
def setEnumAttr (self : ObjId) (name : String) (value : Value) (enumType : EnumClass) :
    PyM Unit :=
  setAttr self name (match value with
    | .member cls member => if cls = enumType then member else value
    | value => value)

/-- Modelled from the spec: `self._add_event_handler(event, handler)` registers
the callback under the event name. -/
def addEventHandler (self : ObjId) (event : String) (handler : Value) : PyM Unit := fun h =>
  .ok () (h.update self (·.setHandler event handler.toOption))

/-- Modelled from the spec: `self._get_event_handler(event)`. -/
def getEventHandler (o : Obj) (event : String) : Value :=
  (o.handlers event).getD .none

/-- Modelled from the spec: `Control.__init__` sets the base properties (ref,
visible, disabled, data, ...), which no modelled code reads back; every slot the
modelled code uses stays as the fresh object has it. -/
def init (_self : ObjId) : PyM Unit := pure ()

/-- Modelled from the spec: `AdaptiveControl.__init__` sets the `adaptive`
property, which no modelled code reads back. -/
def initAdaptive (_self : ObjId) : PyM Unit := pure ()

/-- Modelled from the spec: the `before_update` hook of `Control` does nothing;
subclasses extend it through `super()`. -/
def beforeUpdate (_self : ObjId) : PyM Unit := pure ()

/-- Modelled from the spec: a control without children of its own lists none. -/
def getChildren (_self : ObjId) : PyM (List Value) := pure []

/-- Modelled from the spec: the `visible` property of `Control`, a flag of the
attribute map read as a `bool` that defaults to `True`. -/
def visible (codec : Codec) (o : Obj) : Value :=
  getAttr codec o "visible" "bool" (.bool true)

@[simp] theorem setAttr_apply (self : ObjId) (name : String) (value : Value) (h : Heap) :
    setAttr self name value h = .ok () (h.update self (·.setAttr name value.toOption)) := rfl

@[simp] theorem addEventHandler_apply (self : ObjId) (event : String) (handler : Value)
    (h : Heap) :
    addEventHandler self event handler h =
      .ok () (h.update self (·.setHandler event handler.toOption)) := rfl

theorem decode_of_plain (codec : Codec) (dataType : String) (defValue : Value)
    {value : Value} (hne : value ≠ .none) (plain : ∀ s, value ≠ .str s) :
    decode codec dataType defValue value.toOption = value := by
  cases value <;> first | exact absurd rfl hne | exact absurd rfl (plain _) | rfl

end Control

/-- The JSON attribute `_set_attr_json` stores for a value: none for `None`. -/
def Codec.encode (codec : Codec) : Value → Option Value
  | .none => Option.none
  | value => some (.str (codec.json value))

@[simp] theorem Codec.encode_none (codec : Codec) : codec.encode .none = Option.none := rfl

theorem Control.setAttrJson_apply (codec : Codec) (self : ObjId) (name : String)
    (value : Value) (h : Heap) :
    Control.setAttrJson codec self name value h =
      .ok () (h.update self (·.setAttr name (codec.encode value))) := by
  cases value <;> rfl

/-- `target._set_attr_internal(name, value)` on a value that should be a control. -/
def Value.setAttrInternal (target : Value) (name : String) (value : Value) : PyM Unit :=
  match target with
  | .control id => Control.setAttrInternal id name value
  | _ => raise (.attributeError (.pub "_set_attr_internal"))

/-- `isinstance(value, cls)` for a value class. -/
def Value.isInstance (cls : ValueClass) : Value → Bool
  | .object c _ => c = cls
  | _ => false

/-- `target.visible` on a value that should be a control. -/
def Value.visible (codec : Codec) (target : Value) : PyM Value := fun h =>
  match target with
  | .control id => .ok (Control.visible codec (h id)) h
  | _ => .error (.attributeError (.pub "visible")) h

@[simp] theorem Value.visible_control (codec : Codec) (id : ObjId) (h : Heap) :
    (Value.control id).visible codec h = .ok (Control.visible codec (h id)) h := rfl

theorem Value.visible_ok {codec : Codec} {target value : Value} {h h' : Heap}
    (visible : target.visible codec h = .ok value h') :
    ∃ id, target = .control id ∧ value = Control.visible codec (h id) ∧ h' = h := by
  cases target <;> cases visible
  exact ⟨_, rfl, rfl, rfl⟩

end Flet
