import Flet.Controls.ConstrainedControl

namespace Flet

namespace Card

/-! `Card` (card.py), a `ConstrainedControl`. Its docstring says the elevation
must be `None` or a non-negative number, but the setter of `elevation` checks
nothing. -/

/-- `self.__name` in the body of `Card`. -/
def field (name : String) : PyName := .priv "Card" name

def margin : Property := .ofField (field "margin")
def elevation : Property := .ofAttr "elevation" "string" .none
def color : Property := .ofAttr "color" "string" .none
def shadowColor : Property := .ofAttr "shadowColor" "string" .none
def surfaceTintColor : Property := .ofAttr "surfaceTintColor" "string" .none
def shape : Property := .ofField (field "shape")
def content : Property := .ofField (field "content")
def clipBehavior : Property := .ofEnumField (field "clip_behavior") "clipBehavior" .clipBehavior
def isSemanticContainer : Property := .ofAttr "isSemanticContainer" "bool" (.bool true)
def showBorderOnForeground : Property := .ofAttr "showBorderOnForeground" "bool" (.bool true)
def variant : Property := .ofEnumField (field "variant") "variant" .cardVariant

/-- The keyword arguments of `Card(...)` that reach modelled code. -/
structure Args extends ConstrainedControl.Args where
  content : Value := .none
  margin : Value := .none
  elevation : Value := .none
  color : Value := .none
  shadowColor : Value := .none
  surfaceTintColor : Value := .none
  shape : Value := .none
  clipBehavior : Value := .none
  isSemanticContainer : Value := .none
  showBorderOnForeground : Value := .none
  variant : Value := .none

/-- `Card.__init__`. -/
def init (self : ObjId) (args : Args) : PyM Unit := do
  ConstrainedControl.init self args.toArgs
  Control.initAdaptive self
  assignAll self [(content, args.content), (margin, args.margin),
    (elevation, args.elevation), (color, args.color), (shadowColor, args.shadowColor),
    (surfaceTintColor, args.surfaceTintColor), (shape, args.shape),
    (clipBehavior, args.clipBehavior), (isSemanticContainer, args.isSemanticContainer),
    (showBorderOnForeground, args.showBorderOnForeground), (variant, args.variant)]

/-- `Card.before_update`. -/
def beforeUpdate (codec : Codec) (self : ObjId) : PyM Unit := do
  ConstrainedControl.beforeUpdate codec self
  Control.setAttrJson codec self "margin" (← getField self (field "margin"))
  Control.setAttrJson codec self "shape" (← getField self (field "shape"))

/-- `Card._get_children`. -/
def getChildren (self : ObjId) : PyM (List Value) := contentChildren (field "content") self

def properties : List Property :=
  ConstrainedControl.properties ++
    [margin, elevation, color, shadowColor, surfaceTintColor, shape, content, clipBehavior,
      isSemanticContainer, showBorderOnForeground, variant]

/-- The structured properties `before_update` flattens, as their JSON steps. -/
def jsonFields : List JsonKey :=
  ConstrainedControl.jsonFields ++
    [.plain "margin" (field "margin"), .plain "shape" (field "shape")]

/-- The slots the code of the class writes. -/
def writes : List Slot :=
  properties.flatMap (·.writes) ++ jsonSlots jsonFields ++ [.attr "n"]

theorem beforeUpdate_eq (codec : Codec) (self : ObjId) :
    beforeUpdate codec self = flattenJson codec self jsonFields := by
  simp [JsonKey.plain, JsonKey.write, beforeUpdate, jsonFields, ConstrainedControl.beforeUpdate_eq,
    flattenJson_append, flattenJson]

def controlClass : ControlClass where
  Args := Args
  init := init
  properties := properties
  passes := [beforeUpdate]
  getChildren := getChildren
  writes := writes
  init_confined self args :=
    Confined.bind ((ConstrainedControl.init_confined self _).mono (by decide)) fun _ =>
      Confined.bind (Confined.pure ()) fun _ =>
        assignAll_confined (by simp only [List.forall_mem_cons]; decide)
  properties_confined := by decide
  passes_confined := List.forall_mem_singleton.2 (Confined.flattening beforeUpdate_eq (by decide))
  children_confined _ := Confined.contentChildren (by decide) _

theorem properties_separate : properties.Pairwise Property.Separate := by decide

theorem properties_built :
    ∀ p ∈ properties, p.Built ∨ p = ConstrainedControl.onAnimationEnd :=
  List.forall_mem_append.2 ⟨ConstrainedControl.properties_built, by
    simp only [List.forall_mem_cons, List.not_mem_nil, false_implies, implies_true, and_true]
    and_intros <;> exact .inl (by constructor)⟩

theorem properties_roundTrip : ∀ p ∈ properties, p.RoundTrip :=
  Property.forall_of_built_or properties_built Property.Built.roundTrip
    ConstrainedControl.onAnimationEnd_roundTrip

theorem controlClass_variables : controlClass.Variables :=
  ⟨properties_separate, properties_roundTrip⟩

theorem properties_readable : ∀ p ∈ properties, p.Readable :=
  Property.forall_of_built_or properties_built Property.Built.readable
    ConstrainedControl.onAnimationEnd_readable

/-- The private fields the constructor assigns. -/
def assigned : List PyName :=
  ConstrainedControl.assigned ++
    [field "content", field "margin", field "shape", field "clip_behavior", field "variant"]

theorem init_assigns {self : ObjId} {args : Args} {h h' : Heap}
    (run : init self args h = .ok () h') :
    ∀ name ∈ assigned, (h' self).fields name ≠ none := by
  obtain ⟨_, _, first, body⟩ := bind_eq_ok.1 run
  simp only [Control.initAdaptive, pure_bind] at body
  exact assignAll_after (ConstrainedControl.init_assigns first) body
    (by simp only [List.map_cons, List.map_nil]; decide)

theorem jsonFields_unguarded : ∀ k ∈ jsonFields, ∀ value, k.guard value = true :=
  List.forall_mem_append.2 ⟨ConstrainedControl.jsonFields_unguarded, by simp [JsonKey.plain]⟩

theorem beforeUpdate_flattened {codec : Codec} {self : ObjId} {h h' : Heap}
    (run : beforeUpdate codec self h = .ok () h') :
    controlClass.Flattened beforeUpdate jsonFields codec self h h' :=
  ControlClass.flattened_of_eq beforeUpdate_eq (by decide) (by decide) run

theorem jsonFields_shown : controlClass.ShowsFields jsonFields :=
  (ConstrainedControl.jsonFields_shown.of_subset (List.subset_append_left _ _)).append
    (List.forall_mem_cons.2 ⟨⟨_, List.get_mem _ 18 (by decide), rfl⟩,
      List.forall_mem_singleton.2 ⟨_, List.get_mem _ 23 (by decide), rfl⟩⟩)

theorem beforeUpdate_completes (codec : Codec) {self : ObjId} {h : Heap}
    (reachable : controlClass.Reachable self (h self)) :
    ∃ h', beforeUpdate codec self h = .ok () h' := by
  rw [beforeUpdate_eq]
  exact reachable.flattenJson_ok (fun _ _ _ run => init_assigns run) (by decide)

theorem getters_ok (codec : Codec) {self : ObjId} {o : Obj}
    (reachable : controlClass.Reachable self o) :
    ∀ p ∈ properties, ∃ value, p.get codec o = .ok value :=
  reachable.getters_ok (fun _ _ _ run => init_assigns run) properties_readable (by decide) codec

theorem properties_local : ∀ p ∈ properties, p.Local :=
  Property.forall_of_built_or properties_built Property.Built.local
    ConstrainedControl.onAnimationEnd_local

theorem isolated : controlClass.Isolated where
  init _ _ := Local.bind (ConstrainedControl.init_local _ _) fun _ =>
    Local.bind (Local.pure ()) fun _ => assignAll_local (by
    simp only [List.forall_mem_cons, List.not_mem_nil, false_implies, implies_true, and_true]
    and_intros <;> exact Property.Built.local (by constructor))
  properties := properties_local
  passes := List.forall_mem_singleton.2 (Local.flattening beforeUpdate_eq)
  getChildren _ := Local.contentChildren _
  unnamed := by decide

end Card

end Flet
