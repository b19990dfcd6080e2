import Flet.Control.Isolation
import Flet.Control.Pass
import Flet.Control.Variables

namespace Flet

namespace AutoComplete

/-! `AutoComplete` (auto_complete.py). The suggestions are kept in a private
field and flattened to JSON by `before_update`; the setter of
`suggestions_max_height` asserts that the value is not negative. -/

/-- `self.__name` in the body of `AutoComplete`. -/
def field (name : String) : PyName := .priv "AutoComplete" name

/-- `selected_index`, a property without a setter. -/
def selectedIndex (codec : Codec) (o : Obj) : Value :=
  Control.getAttr codec o "selectedIndex" "int" .none

def suggestionsMaxHeight : Property :=
  .ofCheckedAttr "suggestionsMaxHeight" "float" (.num 200) Property.nonNegative
    "suggestions_max_height cannot be negative"

/-- `suggestions`: the setter stores `value or []`. -/
def suggestions : Property :=
  .ofStoredField (field "suggestions") fun value => if value.truthy then value else .list []

/-- The keyword arguments of `AutoComplete(...)` that reach modelled code. -/
structure Args where
  suggestions : Value := .none
  suggestionsMaxHeight : Value := .none

/-- `AutoComplete.__init__`. -/
def init (self : ObjId) (args : Args) : PyM Unit := do
  Control.init self
  assignAll self [(suggestions, args.suggestions),
    (suggestionsMaxHeight, args.suggestionsMaxHeight)]

/-- `AutoComplete.before_update`. -/
def beforeUpdate (codec : Codec) (self : ObjId) : PyM Unit := do
  Control.setAttrJson codec self "suggestions" (← getField self (field "suggestions"))

def properties : List Property := [suggestionsMaxHeight, suggestions]

/-- The structured properties `before_update` flattens, as their JSON steps. -/
def jsonFields : List JsonKey := [.plain "suggestions" (field "suggestions")]

/-- The slots the code of the class writes. -/
def writes : List Slot := properties.flatMap (·.writes) ++ jsonSlots jsonFields

theorem beforeUpdate_eq (codec : Codec) (self : ObjId) :
    beforeUpdate codec self = flattenJson codec self jsonFields := by
  simp [JsonKey.plain, JsonKey.write, beforeUpdate, flattenJson, jsonFields]

def controlClass : ControlClass where
  Args := Args
  init := init
  properties := properties
  passes := [beforeUpdate]
  getChildren := Control.getChildren
  writes := writes
  init_confined self args :=
    Confined.bind (Confined.pure ()) fun _ =>
      assignAll_confined (by simp only [List.forall_mem_cons]; decide)
  properties_confined := by decide
  passes_confined := List.forall_mem_singleton.2 (Confined.flattening beforeUpdate_eq (by decide))
  children_confined _ := Confined.pure _

theorem properties_separate : properties.Pairwise Property.Separate := by decide

theorem suggestions_roundTrip {codec : Codec} {self : ObjId} {value : Value} {h h' : Heap}
    (truthy : value.truthy) (run : suggestions.set self value h = .ok () h') :
    suggestions.get codec (h' self) = .ok value := by
  simp only [suggestions, Property.ofStoredField, setField_apply, EStateM.Result.ok.injEq,
    true_and] at run
  subst run
  simp [suggestions, Property.ofStoredField, Obj.getField, truthy]

/-- The private fields the constructor assigns. -/
def assigned : List PyName :=
  [field "suggestions"]

theorem init_assigns {self : ObjId} {args : Args} {h h' : Heap}
    (run : init self args h = .ok () h') :
    ∀ name ∈ assigned, (h' self).fields name ≠ none := by
  simp only [init, Control.init, pure_bind] at run
  exact assignAll_assigns_all run (by simp only [List.map_cons, List.map_nil]; decide)

theorem beforeUpdate_flattened {codec : Codec} {self : ObjId} {h h' : Heap}
    (run : beforeUpdate codec self h = .ok () h') :
    controlClass.Flattened beforeUpdate jsonFields codec self h h' :=
  ControlClass.flattened_of_eq beforeUpdate_eq (by decide) (by decide) run

theorem beforeUpdate_completes (codec : Codec) {self : ObjId} {h : Heap}
    (reachable : controlClass.Reachable self (h self)) :
    ∃ h', beforeUpdate codec self h = .ok () h' := by
  rw [beforeUpdate_eq]
  exact reachable.flattenJson_ok (fun _ _ _ run => init_assigns run) (by decide)

theorem properties_built : ∀ p ∈ properties, p.Built ∨ p = suggestions := by
  simp only [properties, List.forall_mem_cons, List.not_mem_nil, false_implies, implies_true,
    and_true]
  and_intros <;> first | exact .inr trivial | exact .inl (by constructor)

theorem properties_readable : ∀ p ∈ properties, p.Readable :=
  Property.forall_of_built_or properties_built Property.Built.readable
    (Property.ofStoredField_readable _ _)

theorem getters_ok (codec : Codec) {self : ObjId} {o : Obj}
    (reachable : controlClass.Reachable self o) :
    ∀ p ∈ properties, ∃ value, p.get codec o = .ok value :=
  reachable.getters_ok (fun _ _ _ run => init_assigns run) properties_readable (by decide) codec

theorem init_admitted {self : ObjId} {args : Args} {h h' : Heap} (fresh : h self = .fresh)
    (run : init self args h = .ok () h') :
    Property.Admitted Property.nonNegative "suggestionsMaxHeight" (h' self) := by
  simp only [init, Control.init, pure_bind] at run
  exact Property.Admitted.assignAll
    (List.forall_mem_cons.2
      ⟨.inr (by decide : .attr "suggestionsMaxHeight" ∉ suggestions.writes),
      List.forall_mem_singleton.2 (.inl rfl)⟩) run
    (fresh ▸ .fresh)

theorem suggestionsMaxHeight_admitted {self : ObjId} {o : Obj}
    (reachable : controlClass.Reachable self o) :
    Property.Admitted Property.nonNegative "suggestionsMaxHeight" o :=
  reachable.admitted (fun _ _ _ => init_admitted)
    (List.forall_mem_cons.2 ⟨.inl rfl, List.forall_mem_singleton.2 (.inr (by decide))⟩)
    (by decide : .attr "suggestionsMaxHeight" ∉ jsonSlots jsonFields)
    (List.forall_mem_singleton.2 fun codec =>
      Confined.flattening beforeUpdate_eq (List.Subset.refl _) codec self)
    (Confined.pure _)

theorem properties_local : ∀ p ∈ properties, p.Local :=
  Property.forall_of_built_or properties_built Property.Built.local
    (Property.ofStoredField_local _ _)

theorem isolated : controlClass.Isolated where
  init _ _ := Local.bind (Local.pure ()) fun _ => assignAll_local (by
    simp only [List.forall_mem_cons, List.not_mem_nil, false_implies, implies_true, and_true]
    and_intros <;> first
      | exact Property.ofStoredField_local _ _ | exact Property.Built.local (by constructor))
  properties := properties_local
  passes := List.forall_mem_singleton.2 (Local.flattening beforeUpdate_eq)
  getChildren _ := Local.pure _
  unnamed := by decide

end AutoComplete

end Flet
