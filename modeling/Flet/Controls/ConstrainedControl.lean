import Flet.Control.Isolation
import Flet.Control.Pass
import Flet.Control.Variables

namespace Flet

namespace ConstrainedControl

/-! `ConstrainedControl` (constrained_control.py), the base of the controls
with a size and a position. Its transforms and animations are kept in private
fields and flattened to JSON by `before_update`. -/

/-- `self.__name` in the body of `ConstrainedControl`. -/
def field (name : String) : PyName := .priv "ConstrainedControl" name

def key : Property := .ofAttr "key" "string" .none
def width : Property := .ofAttr "width" "string" .none
def height : Property := .ofAttr "height" "string" .none
def left : Property := .ofAttr "left" "string" .none
def top : Property := .ofAttr "top" "string" .none
def right : Property := .ofAttr "right" "string" .none
def bottom : Property := .ofAttr "bottom" "string" .none
def rotate : Property := .ofField (field "rotate")
def scale : Property := .ofField (field "scale")
def offset : Property := .ofField (field "offset")
def aspectRatio : Property := .ofAttr "aspectRatio" "string" .none
def animateOpacity : Property := .ofField (field "animate_opacity")
def animateSize : Property := .ofField (field "animate_size")
def animatePosition : Property := .ofField (field "animate_position")
def animateRotation : Property := .ofField (field "animate_rotation")
def animateScale : Property := .ofField (field "animate_scale")
def animateOffset : Property := .ofField (field "animate_offset")

/-- `on_animation_end`: the handler is registered for the event
`animation_end`, and the attribute `onAnimationEnd` records whether there is one. -/
def onAnimationEnd : Property where
  get _ o := .ok (Control.getEventHandler o "animation_end")
  set self handler := do
    Control.addEventHandler self "animation_end" handler
    Control.setAttr self "onAnimationEnd" (match handler with
      | .none => .none
      | _ => .bool true)
  reads := .handler "animation_end"
  writes := [.handler "animation_end", .attr "onAnimationEnd"]
  assigns := []
  get_congr _ same := by simp_all [Control.getEventHandler]
  set_confined _ handler :=
    Confined.bind (Confined.addEventHandler (by simp) handler) fun _ => Confined.setAttr (by simp) _
  set_assigns _ _ member := by simp at member
  set_error run := by
    simp only at run
    rw [bind_of_ok (Control.addEventHandler_apply _ _ _ _)] at run
    simp at run

/-- The keyword arguments of `ConstrainedControl(...)` that reach modelled code. -/
structure Args where
  key : Value := .none
  width : Value := .none
  height : Value := .none
  left : Value := .none
  top : Value := .none
  right : Value := .none
  bottom : Value := .none
  rotate : Value := .none
  scale : Value := .none
  offset : Value := .none
  aspectRatio : Value := .none
  animateOpacity : Value := .none
  animateSize : Value := .none
  animatePosition : Value := .none
  animateRotation : Value := .none
  animateScale : Value := .none
  animateOffset : Value := .none
  onAnimationEnd : Value := .none

/-- `ConstrainedControl.__init__`. -/
def init (self : ObjId) (args : Args) : PyM Unit := do
  Control.init self
  assignAll self [(key, args.key), (width, args.width), (height, args.height),
    (left, args.left), (top, args.top), (right, args.right), (bottom, args.bottom),
    (scale, args.scale), (rotate, args.rotate), (offset, args.offset),
    (aspectRatio, args.aspectRatio), (animateOpacity, args.animateOpacity),
    (animateSize, args.animateSize), (animatePosition, args.animatePosition),
    (animateRotation, args.animateRotation), (animateScale, args.animateScale),
    (animateOffset, args.animateOffset), (onAnimationEnd, args.onAnimationEnd)]

/-- `ConstrainedControl.before_update`. -/
def beforeUpdate (codec : Codec) (self : ObjId) : PyM Unit := do
  Control.beforeUpdate self
  Control.setAttrJson codec self "rotate" (← getField self (field "rotate"))
  Control.setAttrJson codec self "scale" (← getField self (field "scale"))
  Control.setAttrJson codec self "offset" (← getField self (field "offset"))
  Control.setAttrJson codec self "animateOpacity" (← getField self (field "animate_opacity"))
  Control.setAttrJson codec self "animateSize" (← getField self (field "animate_size"))
  Control.setAttrJson codec self "animatePosition" (← getField self (field "animate_position"))
  Control.setAttrJson codec self "animateRotation" (← getField self (field "animate_rotation"))
  Control.setAttrJson codec self "animateScale" (← getField self (field "animate_scale"))
  Control.setAttrJson codec self "animateOffset" (← getField self (field "animate_offset"))

def properties : List Property :=
  [key, width, height, left, top, right, bottom, rotate, scale, offset, aspectRatio,
    animateOpacity, animateSize, animatePosition, animateRotation, animateScale,
    animateOffset, onAnimationEnd]

/-- The structured properties `before_update` flattens, as their JSON steps. -/
def jsonFields : List JsonKey :=
  [.plain "rotate" (field "rotate"), .plain "scale" (field "scale"),
    .plain "offset" (field "offset"), .plain "animateOpacity" (field "animate_opacity"),
    .plain "animateSize" (field "animate_size"),
    .plain "animatePosition" (field "animate_position"),
    .plain "animateRotation" (field "animate_rotation"),
    .plain "animateScale" (field "animate_scale"), .plain "animateOffset" (field "animate_offset")]

/-- The slots the code of the class writes. -/
def writes : List Slot :=
  properties.flatMap (·.writes) ++ jsonSlots jsonFields

theorem beforeUpdate_eq (codec : Codec) (self : ObjId) :
    beforeUpdate codec self = flattenJson codec self jsonFields := by
  simp [JsonKey.plain, JsonKey.write, beforeUpdate, flattenJson, jsonFields, Control.beforeUpdate]

theorem init_confined (self : ObjId) (args : Args) : Confined self writes (init self args) :=
  Confined.bind (Confined.pure ()) fun _ =>
    assignAll_confined (by simp only [List.forall_mem_cons]; decide)

def controlClass : ControlClass where
  Args := Args
  init := init
  properties := properties
  passes := [beforeUpdate]
  getChildren := Control.getChildren
  writes := writes
  init_confined := init_confined
  properties_confined := by decide
  passes_confined := List.forall_mem_singleton.2 (Confined.flattening beforeUpdate_eq (by decide))
  children_confined _ := Confined.pure _

theorem onAnimationEnd_roundTrip : onAnimationEnd.RoundTrip := by
  intro codec self value h h' set _ run
  obtain ⟨_, _, handler, attr⟩ := bind_eq_ok.1 run
  simp only [Control.addEventHandler_apply, EStateM.Result.ok.injEq, true_and] at handler
  simp only [Control.setAttr_apply, EStateM.Result.ok.injEq, true_and] at attr
  subst handler attr
  simp [onAnimationEnd, Control.getEventHandler, Value.toOption_of_ne set]

theorem properties_separate : properties.Pairwise Property.Separate := by decide

theorem properties_built :
    ∀ p ∈ properties, p.Built ∨ p = onAnimationEnd := by
  simp only [properties, List.forall_mem_cons, List.not_mem_nil, false_implies, implies_true,
    and_true]
  and_intros <;> first | exact .inr trivial | exact .inl (by constructor)

theorem properties_roundTrip : ∀ p ∈ properties, p.RoundTrip :=
  Property.forall_of_built_or properties_built Property.Built.roundTrip onAnimationEnd_roundTrip

theorem controlClass_variables : controlClass.Variables :=
  ⟨properties_separate, properties_roundTrip⟩

theorem onAnimationEnd_readable : onAnimationEnd.Readable := fun _ _ _ => ⟨_, rfl⟩

theorem properties_readable : ∀ p ∈ properties, p.Readable :=
  Property.forall_of_built_or properties_built Property.Built.readable onAnimationEnd_readable

/-- The private fields the constructor assigns. -/
def assigned : List PyName := jsonFields.map (·.name)

theorem init_assigns {self : ObjId} {args : Args} {h h' : Heap}
    (run : init self args h = .ok () h') :
    ∀ name ∈ assigned, (h' self).fields name ≠ none := by
  simp only [init, Control.init, pure_bind] at run
  exact assignAll_assigns_all run (by simp only [List.map_cons, List.map_nil]; decide)

theorem jsonFields_unguarded : ∀ k ∈ jsonFields, ∀ value, k.guard value = true := by
  simp [jsonFields, JsonKey.plain]

theorem beforeUpdate_flattened {codec : Codec} {self : ObjId} {h h' : Heap}
    (run : beforeUpdate codec self h = .ok () h') :
    controlClass.Flattened beforeUpdate jsonFields codec self h h' :=
  ControlClass.flattened_of_eq beforeUpdate_eq (by decide) (by decide) run

theorem jsonFields_shown : controlClass.ShowsFields jsonFields := by
  simp only [ControlClass.ShowsFields, jsonFields, List.forall_mem_cons, List.not_mem_nil,
    false_implies, implies_true, and_true]
  exact ⟨⟨_, List.get_mem _ 7 (by decide), rfl⟩, ⟨_, List.get_mem _ 8 (by decide), rfl⟩,
    ⟨_, List.get_mem _ 9 (by decide), rfl⟩, ⟨_, List.get_mem _ 11 (by decide), rfl⟩,
    ⟨_, List.get_mem _ 12 (by decide), rfl⟩, ⟨_, List.get_mem _ 13 (by decide), rfl⟩,
    ⟨_, List.get_mem _ 14 (by decide), rfl⟩, ⟨_, List.get_mem _ 15 (by decide), rfl⟩,
    ⟨_, List.get_mem _ 16 (by decide), rfl⟩⟩

theorem beforeUpdate_completes (codec : Codec) {self : ObjId} {h : Heap}
    (reachable : controlClass.Reachable self (h self)) :
    ∃ h', beforeUpdate codec self h = .ok () h' := by
  rw [beforeUpdate_eq]
  exact reachable.flattenJson_ok (fun _ _ _ run => init_assigns run) (by decide)

theorem getters_ok (codec : Codec) {self : ObjId} {o : Obj}
    (reachable : controlClass.Reachable self o) :
    ∀ p ∈ properties, ∃ value, p.get codec o = .ok value :=
  reachable.getters_ok (fun _ _ _ run => init_assigns run) properties_readable (by decide) codec

theorem onAnimationEnd_local : onAnimationEnd.Local :=
  fun _ _ => Local.bind (Local.addEventHandler _ _) fun _ => Local.setAttr _ _

theorem properties_local : ∀ p ∈ properties, p.Local :=
  Property.forall_of_built_or properties_built Property.Built.local onAnimationEnd_local

theorem init_local (self : ObjId) (args : Args) : Local self [] (init self args) :=
  Local.bind (Local.pure ()) fun _ => assignAll_local (by
    simp only [List.forall_mem_cons, List.not_mem_nil, false_implies, implies_true, and_true]
    and_intros <;> first
      | exact onAnimationEnd_local | exact Property.Built.local (by constructor))

theorem isolated : controlClass.Isolated where
  init := init_local
  properties := properties_local
  passes := List.forall_mem_singleton.2 (Local.flattening beforeUpdate_eq)
  getChildren _ := Local.pure _
  unnamed := by decide

end ConstrainedControl

end Flet
