import Flet.Control.Isolation
import Flet.Control.Pass
import Flet.Control.Variables

namespace Flet

namespace Badge

/-! `Badge` (badge.py): a label over an optional child control. -/

/-- `self.__name` in the body of `Badge`. -/
def field (name : String) : PyName := .priv "Badge" name

def alignment : Property := .ofField (field "alignment")
def text : Property := .ofAttr "labelText" "string" .none
def content : Property := .ofField (field "content")
def offset : Property := .ofField (field "offset")
def bgcolor : Property := .ofAttr "bgColor" "string" .none
def labelVisible : Property := .ofAttr "isLabelVisible" "bool" (.bool true)
def largeSize : Property := .ofAttr "largeSize" "string" .none
def padding : Property := .ofField (field "padding")
def smallSize : Property := .ofAttr "smallSize" "string" .none
def textColor : Property := .ofAttr "textColor" "string" .none
def textStyle : Property := .ofField (field "text_style")

/-- The keyword arguments of `Badge(...)` that reach modelled code. -/
structure Args where
  content : Value := .none
  text : Value := .none
  offset : Value := .none
  alignment : Value := .none
  bgcolor : Value := .none
  labelVisible : Value := .none
  largeSize : Value := .none
  padding : Value := .none
  smallSize : Value := .none
  textColor : Value := .none
  textStyle : Value := .none

/-- `Badge.__init__`. -/
def init (self : ObjId) (args : Args) : PyM Unit := do
  Control.init self
  assignAll self [(text, args.text), (content, args.content), (offset, args.offset),
    (alignment, args.alignment), (bgcolor, args.bgcolor), (labelVisible, args.labelVisible),
    (largeSize, args.largeSize), (padding, args.padding), (smallSize, args.smallSize),
    (textColor, args.textColor), (textStyle, args.textStyle)]

/-- `Badge.before_update`. -/
def beforeUpdate (codec : Codec) (self : ObjId) : PyM Unit := do
  Control.beforeUpdate self
  Control.setAttrJson codec self "offset" (← getField self (field "offset"))
  Control.setAttrJson codec self "alignment" (← getField self (field "alignment"))
  Control.setAttrJson codec self "padding" (← getField self (field "padding"))
  Control.setAttrJson codec self "textStyle" (← getField self (field "text_style"))

/-- `Badge._get_children`. -/
def getChildren (self : ObjId) : PyM (List Value) := contentChildren (field "content") self

def properties : List Property :=
  [alignment, text, content, offset, bgcolor, labelVisible, largeSize, padding, smallSize,
    textColor, textStyle]

/-- The structured properties `before_update` flattens, as their JSON steps. -/
def jsonFields : List JsonKey :=
  [.plain "offset" (field "offset"), .plain "alignment" (field "alignment"),
    .plain "padding" (field "padding"), .plain "textStyle" (field "text_style")]

/-- The slots the code of the class writes. -/
def writes : List Slot :=
  properties.flatMap (·.writes) ++ jsonSlots jsonFields ++ [.attr "n"]

theorem beforeUpdate_eq (codec : Codec) (self : ObjId) :
    beforeUpdate codec self = flattenJson codec self jsonFields := by
  simp [JsonKey.plain, JsonKey.write, beforeUpdate, flattenJson, jsonFields, Control.beforeUpdate]

def controlClass : ControlClass where
  Args := Args
  init := init
  properties := properties
  passes := [beforeUpdate]
  getChildren := getChildren
  writes := writes
  init_confined self args :=
    Confined.bind (Confined.pure ()) fun _ =>
      assignAll_confined (by simp only [List.forall_mem_cons]; decide)
  properties_confined := by decide
  passes_confined := List.forall_mem_singleton.2 (Confined.flattening beforeUpdate_eq (by decide))
  children_confined _ := Confined.contentChildren (by decide) _

theorem properties_separate : properties.Pairwise Property.Separate := by decide

theorem properties_built : ∀ p ∈ properties, p.Built := by
  simp only [properties, List.forall_mem_cons, List.not_mem_nil, false_implies, implies_true,
    and_true]
  and_intros <;> constructor

theorem properties_roundTrip : ∀ p ∈ properties, p.RoundTrip :=
  fun p member => (properties_built p member).roundTrip

theorem controlClass_variables : controlClass.Variables :=
  ⟨properties_separate, properties_roundTrip⟩

theorem properties_readable : ∀ p ∈ properties, p.Readable :=
  fun p member => (properties_built p member).readable

/-- The private fields the constructor assigns. -/
def assigned : List PyName :=
  [field "content", field "offset", field "alignment", field "padding", field "text_style"]

theorem init_assigns {self : ObjId} {args : Args} {h h' : Heap}
    (run : init self args h = .ok () h') :
    ∀ name ∈ assigned, (h' self).fields name ≠ none := by
  simp only [init, Control.init, pure_bind] at run
  exact assignAll_assigns_all run (by simp only [List.map_cons, List.map_nil]; decide)

theorem jsonFields_unguarded : ∀ k ∈ jsonFields, ∀ value, k.guard value = true := by
  simp [jsonFields, JsonKey.plain]

theorem beforeUpdate_flattened {codec : Codec} {self : ObjId} {h h' : Heap}
    (run : beforeUpdate codec self h = .ok () h') :
    controlClass.Flattened beforeUpdate jsonFields codec self h h' :=
  ControlClass.flattened_of_eq beforeUpdate_eq (by decide) (by decide) run

theorem jsonFields_shown : controlClass.ShowsFields jsonFields := by
  simp only [ControlClass.ShowsFields, jsonFields, List.forall_mem_cons, List.not_mem_nil,
    false_implies, implies_true, and_true]
  exact ⟨⟨_, List.get_mem _ 3 (by decide), rfl⟩, ⟨_, List.get_mem _ 0 (by decide), rfl⟩,
    ⟨_, List.get_mem _ 7 (by decide), rfl⟩, ⟨_, List.get_mem _ 10 (by decide), rfl⟩⟩

theorem beforeUpdate_completes (codec : Codec) {self : ObjId} {h : Heap}
    (reachable : controlClass.Reachable self (h self)) :
    ∃ h', beforeUpdate codec self h = .ok () h' := by
  rw [beforeUpdate_eq]
  exact reachable.flattenJson_ok (fun _ _ _ run => init_assigns run) (by decide)

theorem getters_ok (codec : Codec) {self : ObjId} {o : Obj}
    (reachable : controlClass.Reachable self o) :
    ∀ p ∈ properties, ∃ value, p.get codec o = .ok value :=
  reachable.getters_ok (fun _ _ _ run => init_assigns run) properties_readable (by decide) codec

theorem properties_local : ∀ p ∈ properties, p.Local :=
  fun p member => (properties_built p member).local

theorem isolated : controlClass.Isolated where
  init _ _ := Local.bind (Local.pure ()) fun _ => assignAll_local (by
    simp only [List.forall_mem_cons, List.not_mem_nil, false_implies, implies_true, and_true]
    and_intros <;> exact Property.Built.local (by constructor))
  properties := properties_local
  passes := List.forall_mem_singleton.2 (Local.flattening beforeUpdate_eq)
  getChildren _ := Local.contentChildren _
  unnamed := by decide

end Badge

end Flet
