import Flet.Controls.ConstrainedControl

namespace Flet

namespace BottomAppBar

/-! `BottomAppBar` (bottom_app_bar.py), a `ConstrainedControl`. Its shape and
clip behaviour are mirrored into the attribute map as enumerations, and the
setter of `elevation` asserts that the value is not negative. -/

/-- `self.__name` in the body of `BottomAppBar`. -/
def field (name : String) : PyName := .priv "BottomAppBar" name

def content : Property := .ofField (field "content")
def surfaceTintColor : Property := .ofAttr "surfaceTintColor" "string" .none
def bgcolor : Property := .ofAttr "bgcolor" "string" .none
def shadowColor : Property := .ofAttr "shadowColor" "string" .none
def padding : Property := .ofField (field "padding")
def shape : Property := .ofEnumField (field "shape") "shape" .notchShape
def clipBehavior : Property := .ofEnumField (field "clip_behavior") "clipBehavior" .clipBehavior
def notchMargin : Property := .ofAttr "notchMargin" "string" .none
def elevation : Property :=
  .ofCheckedAttr "elevation" "string" .none Property.nonNegative "elevation cannot be negative"

/-- The keyword arguments of `BottomAppBar(...)` that reach modelled code;
`key` is not one of them, and the inherited field is ignored. -/
structure Args extends ConstrainedControl.Args where
  content : Value := .none
  surfaceTintColor : Value := .none
  bgcolor : Value := .none
  shadowColor : Value := .none
  padding : Value := .none
  clipBehavior : Value := .none
  shape : Value := .none
  notchMargin : Value := .none
  elevation : Value := .none

/-- `BottomAppBar.__init__`. -/
def init (self : ObjId) (args : Args) : PyM Unit := do
  ConstrainedControl.init self { args.toArgs with key := .none }
  assignAll self [(content, args.content), (surfaceTintColor, args.surfaceTintColor),
    (bgcolor, args.bgcolor), (shadowColor, args.shadowColor), (padding, args.padding),
    (shape, args.shape), (clipBehavior, args.clipBehavior), (notchMargin, args.notchMargin),
    (elevation, args.elevation)]

/-- `BottomAppBar.before_update`. -/
def beforeUpdate (codec : Codec) (self : ObjId) : PyM Unit := do
  ConstrainedControl.beforeUpdate codec self
  Control.setAttrJson codec self "padding" (← getField self (field "padding"))

/-- `BottomAppBar._get_children`. -/
def getChildren (self : ObjId) : PyM (List Value) := contentChildren (field "content") self

def properties : List Property :=
  ConstrainedControl.properties ++
    [content, surfaceTintColor, bgcolor, shadowColor, padding, shape, clipBehavior,
      notchMargin, elevation]

/-- The structured properties `before_update` flattens, as their JSON steps. -/
def jsonFields : List JsonKey :=
  ConstrainedControl.jsonFields ++ [.plain "padding" (field "padding")]

/-- The slots the code of the class writes. -/
def writes : List Slot :=
  properties.flatMap (·.writes) ++ jsonSlots jsonFields ++ [.attr "n"]

theorem beforeUpdate_eq (codec : Codec) (self : ObjId) :
    beforeUpdate codec self = flattenJson codec self jsonFields := by
  simp [JsonKey.plain, JsonKey.write, beforeUpdate, jsonFields, ConstrainedControl.beforeUpdate_eq,
    flattenJson_append, flattenJson]

def controlClass : ControlClass where
  Args := Args
  init := init
  properties := properties
  passes := [beforeUpdate]
  getChildren := getChildren
  writes := writes
  init_confined self args :=
    Confined.bind ((ConstrainedControl.init_confined self _).mono (by decide)) fun _ =>
      assignAll_confined (by simp only [List.forall_mem_cons]; decide)
  properties_confined := by decide
  passes_confined := List.forall_mem_singleton.2 (Confined.flattening beforeUpdate_eq (by decide))
  children_confined _ := Confined.contentChildren (by decide) _

theorem properties_separate : properties.Pairwise Property.Separate := by decide

theorem properties_built :
    ∀ p ∈ properties, p.Built ∨ p = ConstrainedControl.onAnimationEnd :=
  List.forall_mem_append.2 ⟨ConstrainedControl.properties_built, by
    simp only [List.forall_mem_cons, List.not_mem_nil, false_implies, implies_true, and_true]
    and_intros <;> exact .inl (by constructor)⟩

theorem properties_roundTrip : ∀ p ∈ properties, p.RoundTrip :=
  Property.forall_of_built_or properties_built Property.Built.roundTrip
    ConstrainedControl.onAnimationEnd_roundTrip

theorem controlClass_variables : controlClass.Variables :=
  ⟨properties_separate, properties_roundTrip⟩

theorem properties_readable : ∀ p ∈ properties, p.Readable :=
  Property.forall_of_built_or properties_built Property.Built.readable
    ConstrainedControl.onAnimationEnd_readable

/-- The private fields the constructor assigns. -/
def assigned : List PyName :=
  ConstrainedControl.assigned ++
    [field "content", field "padding", field "shape", field "clip_behavior"]

theorem init_assigns {self : ObjId} {args : Args} {h h' : Heap}
    (run : init self args h = .ok () h') :
    ∀ name ∈ assigned, (h' self).fields name ≠ none := by
  obtain ⟨_, _, first, body⟩ := bind_eq_ok.1 run
  exact assignAll_after (ConstrainedControl.init_assigns first) body
    (by simp only [List.map_cons, List.map_nil]; decide)

theorem jsonFields_unguarded : ∀ k ∈ jsonFields, ∀ value, k.guard value = true :=
  List.forall_mem_append.2 ⟨ConstrainedControl.jsonFields_unguarded, by simp [JsonKey.plain]⟩

theorem beforeUpdate_flattened {codec : Codec} {self : ObjId} {h h' : Heap}
    (run : beforeUpdate codec self h = .ok () h') :
    controlClass.Flattened beforeUpdate jsonFields codec self h h' :=
  ControlClass.flattened_of_eq beforeUpdate_eq (by decide) (by decide) run

theorem jsonFields_shown : controlClass.ShowsFields jsonFields :=
  (ConstrainedControl.jsonFields_shown.of_subset (List.subset_append_left _ _)).append
    (List.forall_mem_singleton.2 ⟨_, List.get_mem _ 22 (by decide), rfl⟩)

theorem beforeUpdate_completes (codec : Codec) {self : ObjId} {h : Heap}
    (reachable : controlClass.Reachable self (h self)) :
    ∃ h', beforeUpdate codec self h = .ok () h' := by
  rw [beforeUpdate_eq]
  exact reachable.flattenJson_ok (fun _ _ _ run => init_assigns run) (by decide)

theorem getters_ok (codec : Codec) {self : ObjId} {o : Obj}
    (reachable : controlClass.Reachable self o) :
    ∀ p ∈ properties, ∃ value, p.get codec o = .ok value :=
  reachable.getters_ok (fun _ _ _ run => init_assigns run) properties_readable (by decide) codec

theorem init_admitted {self : ObjId} {args : Args} {h h' : Heap} (fresh : h self = .fresh)
    (run : init self args h = .ok () h') :
    Property.Admitted Property.nonNegative "elevation" (h' self) := by
  obtain ⟨_, _, first, body⟩ := bind_eq_ok.1 run
  have start : Property.Admitted Property.nonNegative "elevation" (h self) := fresh ▸ .fresh
  refine Property.Admitted.assignAll (by
    simp only [List.forall_mem_cons, List.not_mem_nil, false_implies, implies_true, and_true]
    and_intros <;> first | exact .inr (by decide) | exact .inl rfl) body
    (start.of_confined (ConstrainedControl.init_confined self _) (by decide) first)

theorem elevation_admitted {self : ObjId} {o : Obj}
    (reachable : controlClass.Reachable self o) :
    Property.Admitted Property.nonNegative "elevation" o :=
  reachable.admitted (fun _ _ _ => init_admitted)
    (List.forall_mem_append.2 ⟨fun p member => .inr fun written =>
        absurd (ConstrainedControl.controlClass.properties_confined p member written) (by decide),
      by
        simp only [List.forall_mem_cons, List.not_mem_nil, false_implies, implies_true, and_true]
        and_intros <;> first | exact .inr (by decide) | exact .inl rfl⟩)
    (by decide : .attr "elevation" ∉ jsonSlots jsonFields ++ [.attr "n"])
    (List.forall_mem_singleton.2 fun codec =>
      Confined.flattening beforeUpdate_eq (List.subset_append_left _ _) codec self)
    (Confined.contentChildren (List.mem_append_right _ (List.mem_singleton_self _)) _)

theorem properties_local : ∀ p ∈ properties, p.Local :=
  Property.forall_of_built_or properties_built Property.Built.local
    ConstrainedControl.onAnimationEnd_local

theorem isolated : controlClass.Isolated where
  init _ _ := Local.bind (ConstrainedControl.init_local _ _) fun _ =>
    assignAll_local (by
    simp only [List.forall_mem_cons, List.not_mem_nil, false_implies, implies_true, and_true]
    and_intros <;> exact Property.Built.local (by constructor))
  properties := properties_local
  passes := List.forall_mem_singleton.2 (Local.flattening beforeUpdate_eq)
  getChildren _ := Local.contentChildren _
  unnamed := by decide

end BottomAppBar

end Flet
