import Flet.Controls.ConstrainedControl

namespace Flet

/-! `CupertinoTextField` (cupertino_textfield.py), a `TextField`. `TextField`
(textfield.py) is neither in the sources nor described by the spec: the three
of its methods that `CupertinoTextField` runs are stand-ins, assumed to do on
the slots of the model what `ConstrainedControl` does, which they reach
through `super()`. What a result says of the passes of `CupertinoTextField`
rests on that assumption. The getter of `placeholder_style` returns
`self.__hint_style`, which no code of the class assigns, while its setter
assigns `self.__placeholder_style`. -/

namespace TextField

/-- Stand-in for `TextField.__init__`: assumed to hand the arguments of
`ConstrainedControl` on to its constructor; the properties of `TextField` and
`FormFieldControl` it sets are not held by the model. -/
def init (self : ObjId) (args : ConstrainedControl.Args) : PyM Unit :=
  ConstrainedControl.init self args

/-- Stand-in for `TextField.before_update`: assumed to extend that of
`ConstrainedControl` through `super()`, and to write no other slot of the
model. -/
def beforeUpdate (codec : Codec) (self : ObjId) : PyM Unit :=
  ConstrainedControl.beforeUpdate codec self

/-- Stand-in for `TextField._before_build_command`: assumed to write no slot
of the model. -/
def beforeBuildCommand (_self : ObjId) : PyM Unit := pure ()

end TextField

namespace CupertinoTextField

/-- `self.__name` in the body of `CupertinoTextField`. -/
def field (name : String) : PyName := .priv "CupertinoTextField" name

/-- `BlendMode.NONE`, the default blend mode; `types.py` is not in the
sources, and the value of this member is `None`. -/
def blendModeNone : Value := .member .blendMode .none

def placeholderText : Property := .ofAttr "placeholderText" "string" .none

/-- `placeholder_style`: the getter returns `self.__hint_style`, the setter
assigns `self.__placeholder_style`. -/
def placeholderStyle : Property where
  get _ o := o.getField (field "hint_style")
  set self value := setField self (field "placeholder_style") value
  reads := .field (field "hint_style")
  writes := [.field (field "placeholder_style")]
  assigns := [field "placeholder_style"]
  get_congr _ same := by simp_all [Obj.getField]
  set_confined _ _ := Confined.setField (List.mem_singleton_self _) _
  set_assigns run _ member := by
    rw [List.mem_singleton.1 member]
    exact Property.setField_assigns run
  set_error run := by simp at run

def gradient : Property := .ofField (field "gradient")
def blendMode : Property := .ofEnumField (field "blend_mode") "blendMode" .blendMode

/-- `shadow`: the setter stores `value if value is not None else []`. -/
def shadow : Property :=
  .ofStoredField (field "shadow") fun
    | .none => .list []
    | value => value

def suffixVisibilityMode : Property :=
  .ofEnumField (field "suffix_visibility_mode") "suffixVisibilityMode" .visibilityMode
def prefixVisibilityMode : Property :=
  .ofEnumField (field "prefix_visibility_mode") "prefixVisibilityMode" .visibilityMode

/-- The keyword arguments of `CupertinoTextField(...)` that reach modelled
code; `left`, `top`, `right` and `bottom` are not among them. -/
structure Args extends ConstrainedControl.Args where
  placeholderText : Value := .none
  placeholderStyle : Value := .none
  gradient : Value := .none
  blendMode : Value := blendModeNone
  shadow : Value := .none
  prefixVisibilityMode : Value := .none
  suffixVisibilityMode : Value := .none

/-- `CupertinoTextField.__init__`. -/
def init (self : ObjId) (args : Args) : PyM Unit := do
  TextField.init self
    { args.toArgs with left := .none, top := .none, right := .none, bottom := .none }
  assignAll self [(placeholderText, args.placeholderText),
    (placeholderStyle, args.placeholderStyle), (gradient, args.gradient),
    (blendMode, args.blendMode), (shadow, args.shadow),
    (suffixVisibilityMode, args.suffixVisibilityMode),
    (prefixVisibilityMode, args.prefixVisibilityMode)]

/-- `CupertinoTextField._before_build_command`. -/
def beforeBuildCommand (codec : Codec) (self : ObjId) : PyM Unit := do
  TextField.beforeBuildCommand self
  Control.setAttrJson codec self "gradient" (← getField self (field "gradient"))
  let shadow ← getField self (field "shadow")
  Control.setAttrJson codec self "shadow" (if shadow.truthy then shadow else .none)
  Control.setAttrJson codec self "placeholderStyle" (← getField self (field "placeholder_style"))

def properties : List Property :=
  ConstrainedControl.properties ++
    [placeholderText, placeholderStyle, gradient, blendMode, shadow, suffixVisibilityMode,
      prefixVisibilityMode]

/-- The JSON steps of `_before_build_command`: `shadow` is flattened when the
list is not empty, and cleared otherwise. -/
def jsonFields : List JsonKey :=
  [.plain "gradient" (field "gradient"),
    ⟨"shadow", field "shadow", fun _ => true,
      fun shadow => if shadow.truthy then shadow else .none⟩,
    .plain "placeholderStyle" (field "placeholder_style")]

/-- The slots the code of the class writes. -/
def writes : List Slot :=
  ConstrainedControl.writes ++ properties.flatMap (·.writes) ++ jsonSlots jsonFields

theorem beforeUpdate_eq (codec : Codec) (self : ObjId) :
    TextField.beforeUpdate codec self = flattenJson codec self ConstrainedControl.jsonFields :=
  ConstrainedControl.beforeUpdate_eq codec self

theorem beforeBuildCommand_eq (codec : Codec) (self : ObjId) :
    beforeBuildCommand codec self = flattenJson codec self jsonFields := by
  simp [JsonKey.plain, JsonKey.write, beforeBuildCommand, TextField.beforeBuildCommand,
    jsonFields, flattenJson]

/-- The class as the model runs it: the getter of `placeholder_style` reads a
field nothing assigns. The children of a `TextField` (its prefix and suffix
controls) are not modelled. -/
def controlClass : ControlClass where
  Args := Args
  init := init
  properties := properties
  passes := [TextField.beforeUpdate, beforeBuildCommand]
  getChildren := Control.getChildren
  writes := writes
  init_confined self args :=
    Confined.bind ((ConstrainedControl.init_confined self _).mono (by decide)) fun _ =>
      assignAll_confined (by simp only [List.forall_mem_cons]; decide)
  properties_confined := by decide
  passes_confined := List.forall_mem_cons.2 ⟨Confined.flattening beforeUpdate_eq (by decide),
    List.forall_mem_singleton.2 (Confined.flattening beforeBuildCommand_eq (by decide))⟩
  children_confined _ := Confined.pure _

theorem properties_separate : properties.Pairwise Property.Separate := by decide

/-- The properties whose getter reads what their setter assigns: all but
`placeholder_style`. -/
def readableProperties : List Property :=
  ConstrainedControl.properties ++ [placeholderText, gradient, blendMode, shadow,
    suffixVisibilityMode, prefixVisibilityMode]

theorem shadow_built : shadow.Built :=
  .ofStoredField _ fun value set => by cases value <;> simp_all

theorem readableProperties_built :
    ∀ p ∈ readableProperties, p.Built ∨ p = ConstrainedControl.onAnimationEnd :=
  List.forall_mem_append.2 ⟨ConstrainedControl.properties_built, by
    simp only [List.forall_mem_cons, List.not_mem_nil, false_implies, implies_true, and_true]
    and_intros <;> first | exact .inl shadow_built | exact .inl (by constructor)⟩

theorem readable_roundTrip :
    ∀ p ∈ ConstrainedControl.properties ++ [placeholderText, gradient, blendMode, shadow,
      suffixVisibilityMode, prefixVisibilityMode], p.RoundTrip :=
  Property.forall_of_built_or readableProperties_built Property.Built.roundTrip
    ConstrainedControl.onAnimationEnd_roundTrip

/-- The private fields the constructor assigns. -/
def assigned : List PyName :=
  ConstrainedControl.assigned ++ [field "placeholder_style", field "gradient", field "blend_mode",
    field "shadow", field "suffix_visibility_mode", field "prefix_visibility_mode"]

theorem init_assigns {self : ObjId} {args : Args} {h h' : Heap}
    (run : init self args h = .ok () h') :
    ∀ name ∈ assigned, (h' self).fields name ≠ none := by
  obtain ⟨_, _, first, body⟩ := bind_eq_ok.1 run
  exact assignAll_after (ConstrainedControl.init_assigns first) body
    (by simp only [List.map_cons, List.map_nil]; decide)

section Passes

variable {codec : Codec} {self : ObjId} {h h' : Heap}

theorem jsonFields_unguarded : ∀ k ∈ jsonFields, ∀ value, k.guard value = true := by
  simp [jsonFields, JsonKey.plain]

theorem beforeUpdate_flattened (run : TextField.beforeUpdate codec self h = .ok () h') :
    controlClass.Flattened TextField.beforeUpdate ConstrainedControl.jsonFields codec self h h' :=
  ControlClass.flattened_of_eq beforeUpdate_eq (by decide) (by decide) run

theorem beforeUpdate_completes (codec : Codec) (reachable : controlClass.Reachable self (h self)) :
    ∃ h', TextField.beforeUpdate codec self h = .ok () h' := by
  rw [beforeUpdate_eq]
  exact reachable.flattenJson_ok (fun _ _ _ run => init_assigns run) (by decide)

theorem beforeBuildCommand_completes (codec : Codec)
    (reachable : controlClass.Reachable self (h self)) :
    ∃ h', beforeBuildCommand codec self h = .ok () h' := by
  rw [beforeBuildCommand_eq]
  exact reachable.flattenJson_ok (fun _ _ _ run => init_assigns run) (by decide)

end Passes

theorem placeholderStyle_get_raises (codec : Codec) {self : ObjId} {o : Obj}
    (reachable : controlClass.Reachable self o) :
    placeholderStyle.get codec o = .error (.attributeError (field "hint_style")) := by
  have unassigned : o.read (.field (field "hint_style")) = Obj.fresh.read _ :=
    reachable.read_unwritten (by decide)
  simp only [Obj.read_field, Obj.fresh_fields] at unassigned
  simp [placeholderStyle, Obj.getField, unassigned]

theorem readableProperties_readable : ∀ p ∈ readableProperties, p.Readable :=
  Property.forall_of_built_or readableProperties_built Property.Built.readable
    ConstrainedControl.onAnimationEnd_readable

theorem getters_ok (codec : Codec) {self : ObjId} {o : Obj}
    (reachable : controlClass.Reachable self o) :
    ∀ p ∈ readableProperties, ∃ value, p.get codec o = .ok value :=
  reachable.getters_ok (fun _ _ _ run => init_assigns run) readableProperties_readable
    (by decide) codec

theorem placeholderStyle_local : placeholderStyle.Local := fun _ _ => Local.setField _ _

theorem properties_local : ∀ p ∈ properties, p.Local :=
  List.forall_mem_append.2 ⟨ConstrainedControl.properties_local, by
    simp only [List.forall_mem_cons, List.not_mem_nil, false_implies, implies_true, and_true]
    and_intros <;> first
      | exact shadow_built.local | exact placeholderStyle_local
      | exact Property.Built.local (by constructor)⟩

theorem isolated : controlClass.Isolated where
  init _ _ := Local.bind (ConstrainedControl.init_local _ _) fun _ =>
    assignAll_local (by
    simp only [List.forall_mem_cons, List.not_mem_nil, false_implies, implies_true, and_true]
    and_intros <;> first
      | exact shadow_built.local | exact placeholderStyle_local
      | exact Property.Built.local (by constructor))
  properties := properties_local
  passes := List.forall_mem_cons.2 ⟨Local.flattening beforeUpdate_eq,
    List.forall_mem_singleton.2 (Local.flattening beforeBuildCommand_eq)⟩
  getChildren _ := Local.pure _
  unnamed := by decide

end CupertinoTextField

end Flet
