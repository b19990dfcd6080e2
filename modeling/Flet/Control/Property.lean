import Flet.Control.Base

namespace Flet

/-! Properties of the control classes and the slots code may change. A Python
`property` pairs a getter and a setter; every property of the sources reads
one slot and writes a few, and the record below carries the proof that it keeps
to them. `Confined` says the same of any code, and composes through `bind`. -/

/-- `o'` differs from `o` at most in the slots `writes`, and keeps every
instance attribute `o` had: no modelled code deletes an attribute. -/
structure Touches (writes : List Slot) (o o' : Obj) : Prop where
  slots : ∀ slot, slot ∉ writes → o'.read slot = o.read slot
  fields : ∀ name, o.fields name ≠ none → o'.fields name ≠ none

namespace Touches

variable {writes writes' : List Slot} {o o₁ o₂ : Obj}

theorem refl (writes : List Slot) (o : Obj) : Touches writes o o :=
  ⟨fun _ _ => rfl, fun _ assigned => assigned⟩

theorem trans (first : Touches writes o o₁) (second : Touches writes o₁ o₂) :
    Touches writes o o₂ :=
  ⟨fun slot hslot => (second.slots slot hslot).trans (first.slots slot hslot),
    fun name assigned => second.fields name (first.fields name assigned)⟩

theorem mono (sub : writes ⊆ writes') (touches : Touches writes o o₁) :
    Touches writes' o o₁ :=
  ⟨fun slot hslot => touches.slots slot (fun member => hslot (sub member)), touches.fields⟩

theorem setAttr (key : String) (value : Option Value) (o : Obj) :
    Touches [.attr key] o (o.setAttr key value) := by
  refine ⟨fun slot hslot => ?_, fun _ assigned => assigned⟩
  cases slot <;> simp_all [Function.update_noteq, Ne.symm]

theorem setField (name : PyName) (value : Value) (o : Obj) :
    Touches [.field name] o (o.setField name value) := by
  refine ⟨fun slot hslot => ?_, fun other _ => ?_⟩
  · cases slot <;> simp_all [Function.update_noteq, Ne.symm]
  · by_cases same : other = name <;> simp_all

theorem setHandler (event : String) (value : Option Value) (o : Obj) :
    Touches [.handler event] o (o.setHandler event value) := by
  refine ⟨fun slot hslot => ?_, fun _ assigned => assigned⟩
  cases slot <;> simp_all [Function.update_noteq, Ne.symm]

end Touches

/-- Code that changes the object `self` only in the slots `writes`, whether it
returns or raises. -/
def Confined {α : Type} (self : ObjId) (writes : List Slot) (prog : PyM α) : Prop :=
  ∀ h, Touches writes (h self) (heapOf (prog h) self)

namespace Confined

variable {α β : Type} {self : ObjId} {writes : List Slot}

theorem pure (a : α) : Confined self writes (Pure.pure a : PyM α) :=
  fun h => Touches.refl writes (h self)

theorem raise (error : PyError) : Confined self writes (Flet.raise error : PyM α) :=
  fun h => Touches.refl writes (h self)

theorem bind {x : PyM α} {f : α → PyM β} (first : Confined self writes x)
    (rest : ∀ a, Confined self writes (f a)) : Confined self writes (x >>= f) := by
  intro h
  cases run : x h with
  | ok a h₁ =>
      rw [bind_of_ok run]
      have head : Touches writes (h self) (h₁ self) := by simpa [run] using first h
      exact head.trans (rest a h₁)
  | error e h₁ =>
      rw [bind_of_error run]
      simpa [run] using first h

theorem pyAssert (condition : Bool) (message : String) :
    Confined self writes (Flet.pyAssert condition message) := by
  cases condition
  · exact raise _
  · exact pure ()

theorem getField (other : ObjId) (name : PyName) :
    Confined self writes (Flet.getField other name) := by
  intro h
  unfold Flet.getField
  split <;> exact Touches.refl writes (h self)

theorem setAttr {key : String} (member : .attr key ∈ writes) (value : Value) :
    Confined self writes (Control.setAttr self key value) := by
  intro h
  simpa using (Touches.setAttr key value.toOption (h self)).mono
    (List.cons_subset.2 ⟨member, List.nil_subset _⟩)

theorem setAttrJson (codec : Codec) {key : String} (member : .attr key ∈ writes)
    (value : Value) : Confined self writes (Control.setAttrJson codec self key value) :=
  setAttr member _

theorem setField {name : PyName} (member : .field name ∈ writes) (value : Value) :
    Confined self writes (Flet.setField self name value) := by
  intro h
  simpa using (Touches.setField name value (h self)).mono
    (List.cons_subset.2 ⟨member, List.nil_subset _⟩)

theorem addEventHandler {event : String} (member : .handler event ∈ writes) (value : Value) :
    Confined self writes (Control.addEventHandler self event value) := by
  intro h
  simpa using (Touches.setHandler event value.toOption (h self)).mono
    (List.cons_subset.2 ⟨member, List.nil_subset _⟩)

theorem field_of_ok {α : Type} {prog : PyM α} (confined : Confined self writes prog)
    {name : PyName} (unwritten : .field name ∉ writes) {a : α} {h h' : Heap}
    (run : prog h = .ok a h') : (h' self).fields name = (h self).fields name := by
  have kept := (confined h).slots _ unwritten
  rwa [run, heapOf_ok, Obj.read_field, Obj.read_field] at kept

theorem mono {α : Type} {writes' : List Slot} {prog : PyM α} (sub : writes ⊆ writes')
    (confined : Confined self writes prog) : Confined self writes' prog :=
  fun h => (confined h).mono sub

end Confined

/-- `Except` code inside Python code: an expression that raises or evaluates. -/
def fromExcept {α : Type} : Except PyError α → PyM α
  | .ok a => Pure.pure a
  | .error e => raise e

/-- Reading the instance attribute `name` of an object. -/
def Obj.getField (o : Obj) (name : PyName) : Except PyError Value :=
  match o.fields name with
  | some value => .ok value
  | none => .error (.attributeError name)

/-- A Python `property` of a control class: the getter reads the object, the
setter runs on the heap; `reads` is the one slot the getter looks at, `writes`
the slots the setter may change, `assigns` the instance attributes a setter
that returns leaves assigned, and a setter that raises has changed nothing. -/
structure Property where
  get : Codec → Obj → Except PyError Value
  set : ObjId → Value → PyM Unit
  reads : Slot
  writes : List Slot
  assigns : List PyName
  get_congr : ∀ codec {o o' : Obj}, o.read reads = o'.read reads → get codec o = get codec o'
  set_confined : ∀ self value, Confined self writes (set self value)
  set_assigns : ∀ {self value h h'}, set self value h = .ok () h' →
    ∀ name ∈ assigns, (h' self).fields name ≠ none
  set_error : ∀ {self value h e h'}, set self value h = .error e h' → h' = h

namespace Property

/-- A property kept in the attribute map: `self._get_attr(key, def_value,
data_type)` and `self._set_attr(key, value)`. -/
def ofAttr (key dataType : String) (defValue : Value) : Property where
  get codec o := .ok (Control.getAttr codec o key dataType defValue)
  set self value := Control.setAttr self key value
  reads := .attr key
  writes := [.attr key]
  assigns := []
  get_congr _ same := by simp_all [Control.getAttr]
  set_confined _ value := Confined.setAttr (List.mem_singleton_self _) value
  set_assigns _ _ member := by simp at member
  set_error run := by simp at run

theorem setField_assigns {self : ObjId} {name : PyName} {value : Value} {h h' : Heap}
    (run : Flet.setField self name value h = .ok () h') : (h' self).fields name ≠ none := by
  simp only [setField_apply, EStateM.Result.ok.injEq, true_and] at run
  subst run
  simp

/-- A property kept in an instance attribute, whose setter stores `stored value`:
`self.__name = stored(value)`, with `self.__name` a private one. -/
def ofStoredField (name : PyName) (stored : Value → Value) : Property where
  get _ o := o.getField name
  set self value := Flet.setField self name (stored value)
  reads := .field name
  writes := [.field name]
  assigns := [name]
  get_congr _ same := by simp_all [Obj.getField]
  set_confined _ value := Confined.setField (List.mem_singleton_self _) _
  set_assigns run _ member := by
    rw [List.mem_singleton.1 member]
    exact setField_assigns run
  set_error run := by simp at run

/-- A property kept in an instance attribute as it is set: `self.__name = value`. -/
def ofField (name : PyName) : Property := ofStoredField name id

/-- An instance attribute mirrored into the attribute map as an enumeration:
`self.__name = value` then `self._set_enum_attr(key, value, enumType)`. -/
def ofEnumField (name : PyName) (key : String) (enumType : EnumClass) : Property where
  get := (ofField name).get
  set self value := do
    Flet.setField self name value
    Control.setEnumAttr self key value enumType
  reads := .field name
  writes := [.field name, .attr key]
  assigns := [name]
  get_congr := (ofField name).get_congr
  set_confined _ value := Confined.bind (Confined.setField (by simp) value)
    fun _ => Confined.setAttr (by simp) _
  set_assigns run _ member := by
    obtain ⟨_, _, stored, attr⟩ := bind_eq_ok.1 run
    simp only [Control.setEnumAttr, Control.setAttr_apply, EStateM.Result.ok.injEq,
      true_and] at attr
    rw [List.mem_singleton.1 member, ← attr, Heap.update_self, Obj.setAttr_fields]
    exact setField_assigns stored
  set_error run := by
    simp only at run
    rw [bind_of_ok (setField_apply _ _ _ _)] at run
    simp [Control.setEnumAttr] at run

/-- `value is None or check(value)`, the condition of a checked setter. -/
def admits (check : Value → Except PyError Bool) : Value → Except PyError Bool
  | .none => .ok true
  | value => check value

/-- `value >= 0`, the test of the setters that refuse negative numbers. -/
def nonNegative (value : Value) : Except PyError Bool := value.ge (.num 0)

/-- `assert value is None or check(value), message` followed by
`self._set_attr(key, value)`. -/
def checkedSet (check : Value → Except PyError Bool) (message key : String)
    (self : ObjId) (value : Value) : PyM Unit := do
  pyAssert (← fromExcept (admits check value)) message
  Control.setAttr self key value

theorem checkedSet_apply (check : Value → Except PyError Bool) (message key : String)
    (self : ObjId) (value : Value) (h : Heap) :
    checkedSet check message key self value h =
      match admits check value with
      | .ok true => .ok () (h.update self (·.setAttr key value.toOption))
      | .ok false => .error (.assertionError message) h
      | .error e => .error e h := by
  unfold checkedSet
  rcases admits check value with e | (_ | _) <;> rfl

theorem nonNegative_eq_ok {value : Value} :
    nonNegative value = .ok true ↔ ∃ q, value.toNumber? = some q ∧ 0 ≤ q := by
  have zero : (Value.num 0).toNumber? = some 0 := rfl
  cases number : value.toNumber? <;> simp [nonNegative, Value.ge, number, zero]

/-- `ofAttr` whose setter first asserts `value is None or check(value)`. -/
def ofCheckedAttr (key dataType : String) (defValue : Value)
    (check : Value → Except PyError Bool) (message : String) : Property where
  get := (ofAttr key dataType defValue).get
  set := checkedSet check message key
  reads := .attr key
  writes := [.attr key]
  assigns := []
  get_congr := (ofAttr key dataType defValue).get_congr
  set_confined self value h := by
    rw [checkedSet_apply]
    split
    · simpa using Touches.setAttr key _ _
    all_goals exact Touches.refl _ _
  set_assigns _ _ member := by simp at member
  set_error {self value h e h'} run := by
    rw [checkedSet_apply] at run
    split at run <;> simp_all

/-- The attribute `key` holds nothing, or a value that `check` admits: what a
checked setter leaves behind. -/
def Admitted (check : Value → Except PyError Bool) (key : String) (o : Obj) : Prop :=
  ∀ value, o.attrs key = some value → check value = .ok true

namespace Admitted

variable {check : Value → Except PyError Bool} {key : String} {o o' : Obj}

theorem fresh : Admitted check key .fresh := fun _ stored => by simp at stored

theorem of_touches {writes : List Slot} (touches : Touches writes o o')
    (unwritten : .attr key ∉ writes) (admitted : Admitted check key o) :
    Admitted check key o' := fun value stored =>
  admitted value (by rw [← Obj.read_attr, ← touches.slots _ unwritten]; exact stored)

theorem of_confined {α : Type} {self : ObjId} {writes : List Slot} {prog : PyM α}
    (confined : Confined self writes prog) (unwritten : .attr key ∉ writes) {a : α}
    {h h' : Heap} (run : prog h = .ok a h') (admitted : Admitted check key (h self)) :
    Admitted check key (h' self) := by
  simpa only [run, heapOf_ok] using admitted.of_touches (confined h) unwritten

theorem checkedSet (message : String) (self : ObjId) (value : Value) {h : Heap}
    (admitted : Admitted check key (h self)) :
    Admitted check key (heapOf (Property.checkedSet check message key self value h) self) := by
  rw [checkedSet_apply]
  split
  · next admits =>
      intro stored member
      simp only [heapOf_ok, Heap.update_self, Obj.setAttr_attrs, Function.update_same] at member
      cases value <;> simp_all [Property.admits, Value.toOption]
  all_goals exact admitted

theorem set {p : Property} {message : String}
    (either : p.set = Property.checkedSet check message key ∨ .attr key ∉ p.writes)
    (self : ObjId) (value : Value) {h : Heap} (admitted : Admitted check key (h self)) :
    Admitted check key (heapOf (p.set self value h) self) := by
  rcases either with checked | unwritten
  · exact checked ▸ Admitted.checkedSet message self value admitted
  · exact admitted.of_touches (p.set_confined self value h) unwritten

end Admitted

end Property

namespace Property

/-- Reading back a property after its setter has returned gives the value set,
for every value that is neither `None` nor a string (which the attribute store
may coerce). -/
def RoundTrip (p : Property) : Prop :=
  ∀ codec self value (h h' : Heap), value ≠ .none → (∀ s, value ≠ .str s) →
    p.set self value h = .ok () h' → p.get codec (h' self) = .ok value

theorem ofAttr_roundTrip (key dataType : String) (defValue : Value) :
    (ofAttr key dataType defValue).RoundTrip := by
  intro codec self value h h' set plain run
  simp only [ofAttr, Control.setAttr_apply, EStateM.Result.ok.injEq, true_and] at run
  subst run
  simp [ofAttr, Control.getAttr, Control.decode_of_plain codec dataType defValue set plain]

theorem ofStoredField_roundTrip (name : PyName) {stored : Value → Value}
    (keeps : ∀ value, value ≠ .none → stored value = value) :
    (ofStoredField name stored).RoundTrip := by
  intro codec self value h h' set _ run
  simp only [ofStoredField, setField_apply, EStateM.Result.ok.injEq, true_and] at run
  subst run
  simp [ofStoredField, Obj.getField, keeps value set]

theorem ofField_roundTrip (name : PyName) : (ofField name).RoundTrip :=
  ofStoredField_roundTrip name fun _ _ => rfl

theorem ofEnumField_roundTrip (name : PyName) (key : String) (enumType : EnumClass) :
    (ofEnumField name key enumType).RoundTrip := by
  intro codec self value h h' _ _ run
  obtain ⟨_, _, stored, attr⟩ := bind_eq_ok.1 run
  simp only [Control.setEnumAttr, Control.setAttr_apply, EStateM.Result.ok.injEq, true_and] at attr
  simp only [setField_apply, EStateM.Result.ok.injEq, true_and] at stored
  subst stored attr
  simp [ofEnumField, ofField, ofStoredField, Obj.getField]

theorem ofCheckedAttr_roundTrip (key dataType : String) (defValue : Value)
    (check : Value → Except PyError Bool) (message : String) :
    (ofCheckedAttr key dataType defValue check message).RoundTrip := by
  intro codec self value h h' set plain run
  have stored : Control.setAttr self key value h = .ok () h' := by
    simp only [ofCheckedAttr] at run
    rw [checkedSet_apply] at run
    split at run <;> cases run
    rfl
  exact ofAttr_roundTrip key dataType defValue codec self value h h' set plain stored

/-- The getter returns whenever the instance attributes the setter assigns are
assigned. -/
def Readable (p : Property) : Prop :=
  ∀ codec (o : Obj), (∀ name ∈ p.assigns, o.fields name ≠ none) →
    ∃ value, p.get codec o = .ok value

theorem ofAttr_readable (key dataType : String) (defValue : Value) :
    (ofAttr key dataType defValue).Readable :=
  fun _ _ _ => ⟨_, rfl⟩

theorem ofStoredField_readable (name : PyName) (stored : Value → Value) :
    (ofStoredField name stored).Readable := fun _ o assigned => by
  obtain ⟨value, field⟩ :=
    Option.ne_none_iff_exists'.1 (assigned name (List.mem_singleton_self _))
  exact ⟨value, by simp [ofStoredField, Obj.getField, field]⟩

theorem ofField_readable (name : PyName) : (ofField name).Readable :=
  ofStoredField_readable name id

theorem ofEnumField_readable (name : PyName) (key : String) (enumType : EnumClass) :
    (ofEnumField name key enumType).Readable :=
  ofField_readable name

theorem ofCheckedAttr_readable (key dataType : String) (defValue : Value)
    (check : Value → Except PyError Bool) (message : String) :
    (ofCheckedAttr key dataType defValue check message).Readable :=
  fun _ _ _ => ⟨_, rfl⟩

/-- A property made by one of the constructors above, with a stored form that
keeps every value but `None`. -/
inductive Built : Property → Prop
  | ofAttr (key dataType : String) (defValue : Value) : Built (ofAttr key dataType defValue)
  | ofField (name : PyName) : Built (ofField name)
  | ofStoredField (name : PyName) {stored : Value → Value}
      (keeps : ∀ value, value ≠ .none → stored value = value) :
      Built (ofStoredField name stored)
  | ofEnumField (name : PyName) (key : String) (enumType : EnumClass) :
      Built (ofEnumField name key enumType)
  | ofCheckedAttr (key dataType : String) (defValue : Value)
      (check : Value → Except PyError Bool) (message : String) :
      Built (ofCheckedAttr key dataType defValue check message)

theorem Built.roundTrip {p : Property} : p.Built → p.RoundTrip
  | .ofAttr key dataType defValue => ofAttr_roundTrip key dataType defValue
  | .ofField name => ofField_roundTrip name
  | .ofStoredField name keeps => ofStoredField_roundTrip name keeps
  | .ofEnumField name key enumType => ofEnumField_roundTrip name key enumType
  | .ofCheckedAttr key dataType defValue check message =>
      ofCheckedAttr_roundTrip key dataType defValue check message

theorem Built.readable {p : Property} : p.Built → p.Readable
  | .ofAttr key dataType defValue => ofAttr_readable key dataType defValue
  | .ofField name => ofField_readable name
  | .ofStoredField name _ => ofStoredField_readable name _
  | .ofEnumField name key enumType => ofEnumField_readable name key enumType
  | .ofCheckedAttr key dataType defValue check message =>
      ofCheckedAttr_readable key dataType defValue check message

theorem forall_of_built_or {P : Property → Prop} {props : List Property} {q : Property}
    (built : ∀ p ∈ props, p.Built ∨ p = q) (ofBuilt : ∀ {p}, p.Built → P p)
    (special : P q) :
    ∀ p ∈ props, P p :=
  fun p member => (built p member).elim ofBuilt fun same => same ▸ special

/-- Two properties kept apart: neither setter writes the slot the other getter reads. -/
def Separate (p q : Property) : Prop := p.reads ∉ q.writes ∧ q.reads ∉ p.writes

instance (p q : Property) : Decidable (Separate p q) := inferInstanceAs (Decidable (_ ∧ _))

theorem Separate.get_set {p q : Property} (separate : Separate p q) (codec : Codec)
    (self : ObjId) (value : Value) (h : Heap) :
    q.get codec (heapOf (p.set self value h) self) = q.get codec (h self) :=
  q.get_congr codec (((p.set_confined self value) h).slots q.reads separate.2)

theorem Separate.symm {p q : Property} (separate : Separate p q) : Separate q p :=
  ⟨separate.2, separate.1⟩

end Property

/-- `self.p = value` for each pair, in order: the body of a constructor. -/
def assignAll (self : ObjId) : List (Property × Value) → PyM Unit
  | [] => Pure.pure ()
  | (p, value) :: rest => do
      p.set self value
      assignAll self rest

theorem assignAll_fields {self : ObjId} {name : PyName} :
    ∀ {assignments : List (Property × Value)} {h h' : Heap},
      assignAll self assignments h = .ok () h' → (h self).fields name ≠ none →
        (h' self).fields name ≠ none
  | [], _, _, run, assigned => by
      simp only [assignAll, pure_apply, EStateM.Result.ok.injEq, true_and] at run
      exact run ▸ assigned
  | (p, value) :: _, h, _, run, assigned => by
      obtain ⟨_, h₁, first, rest⟩ := bind_eq_ok.1 run
      have kept := (p.set_confined self value h).fields name assigned
      rw [first, heapOf_ok] at kept
      exact assignAll_fields rest kept

theorem assignAll_assigns {self : ObjId} :
    ∀ {assignments : List (Property × Value)} {h h' : Heap},
      assignAll self assignments h = .ok () h' →
        ∀ pair ∈ assignments, ∀ name ∈ pair.1.assigns, (h' self).fields name ≠ none
  | [], _, _, _, _, member, _, _ => by simp at member
  | (p, value) :: rest, h, _, run, pair, member, name, assigned => by
      obtain ⟨_, h₁, first, restRun⟩ := bind_eq_ok.1 run
      rcases List.mem_cons.1 member with rfl | later
      · exact assignAll_fields restRun (p.set_assigns first name assigned)
      · exact assignAll_assigns restRun pair later name assigned

theorem assignAll_confined {self : ObjId} {writes : List Slot} :
    ∀ {assignments : List (Property × Value)},
      (∀ pair ∈ assignments, pair.1.writes ⊆ writes) →
      Confined self writes (assignAll self assignments)
  | [], _ => Confined.pure ()
  | (p, value) :: rest, sub =>
      Confined.bind (fun h => ((p.set_confined self value) h).mono (sub (p, value) (by simp)))
        fun _ => assignAll_confined fun pair member => sub pair (by simp [member])

theorem Property.Admitted.assignAll {check : Value → Except PyError Bool}
    {message key : String} {self : ObjId} :
    ∀ {assignments : List (Property × Value)} {h h' : Heap},
      (∀ pair ∈ assignments,
        pair.1.set = Property.checkedSet check message key ∨ .attr key ∉ pair.1.writes) →
      Flet.assignAll self assignments h = .ok () h' →
        Admitted check key (h self) → Admitted check key (h' self)
  | [], _, _, _, run, admitted => by
      simp only [Flet.assignAll, pure_apply, EStateM.Result.ok.injEq, true_and] at run
      exact run ▸ admitted
  | (_, value) :: _, h, _, setters, run, admitted => by
      obtain ⟨_, h₁, first, rest⟩ := bind_eq_ok.1 run
      have kept := Admitted.set (setters _ (List.mem_cons_self _ _)) self value admitted
      rw [first, heapOf_ok] at kept
      exact Admitted.assignAll (fun pair later => setters pair (List.mem_cons_of_mem _ later))
        rest kept

end Flet
