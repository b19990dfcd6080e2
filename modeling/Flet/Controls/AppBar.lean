import Flet.Control.Isolation
import Flet.Control.Pass
import Flet.Control.Variables

namespace Flet

namespace AppBar

/-! `AppBar` (app_bar.py). The children and the styles are kept in private
fields; `before_update` flattens a style only when it is an instance of its
class, and the range test of `toolbar_opacity` is written `0 >= value >= 1`. -/

/-- `self.__name` in the body of `AppBar`. -/
def field (name : String) : PyName := .priv "AppBar" name

/-- `0 >= value >= 1`, the test the setter of `toolbar_opacity` asserts. -/
def opacityInRange (value : Value) : Except PyError Bool := do
  if ← (Value.num 0).ge value then value.ge (.num 1) else pure false

def leading : Property := .ofField (field "leading")
def leadingWidth : Property := .ofAttr "leadingWidth" "string" .none
def titleSpacing : Property := .ofAttr "titleSpacing" "float" .none
def toolbarOpacity : Property :=
  .ofCheckedAttr "toolbarOpacity" "float" (.num 1) opacityInRange
    "toolbar_opacity is out of range (0-1)"
def shape : Property := .ofField (field "shape")
def titleTextStyle : Property := .ofField (field "title_text_style")
def toolbarTextStyle : Property := .ofField (field "toolbar_text_style")
def automaticallyImplyLeading : Property :=
  .ofAttr "automaticallyImplyLeading" "bool" (.bool true)
def title : Property := .ofField (field "title")
def centerTitle : Property := .ofAttr "centerTitle" "bool" (.bool false)
def toolbarHeight : Property := .ofAttr "toolbarHeight" "float" .none
def color : Property := .ofAttr "color" "string" .none
def bgcolor : Property := .ofAttr "bgcolor" "string" .none
def elevation : Property := .ofAttr "elevation" "float" .none
def elevationOnScroll : Property := .ofAttr "elevationOnScroll" "float" .none
def shadowColor : Property := .ofAttr "shadowColor" "string" .none
def surfaceTintColor : Property := .ofAttr "surfaceTintColor" "string" .none
def clipBehavior : Property := .ofAttr "clipBehavior" "string" .none
def forceMaterialTransparency : Property := .ofAttr "forceMaterialTransparency" "bool" .none
def isSecondary : Property := .ofAttr "isSecondary" "bool" .none
def excludeHeaderSemantics : Property := .ofAttr "excludeHeaderSemantics" "bool" .none
def actions : Property := .ofField (field "actions")

/-- The keyword arguments of `AppBar(...)` that reach modelled code. -/
structure Args where
  leading : Value := .none
  leadingWidth : Value := .none
  automaticallyImplyLeading : Value := .none
  title : Value := .none
  centerTitle : Value := .none
  toolbarHeight : Value := .none
  color : Value := .none
  bgcolor : Value := .none
  elevation : Value := .none
  elevationOnScroll : Value := .none
  shadowColor : Value := .none
  surfaceTintColor : Value := .none
  clipBehavior : Value := .none
  forceMaterialTransparency : Value := .none
  isSecondary : Value := .none
  titleSpacing : Value := .none
  excludeHeaderSemantics : Value := .none
  actions : Value := .none
  toolbarOpacity : Value := .none
  titleTextStyle : Value := .none
  toolbarTextStyle : Value := .none
  shape : Value := .none

/-- `AppBar.__init__`. -/
def init (self : ObjId) (args : Args) : PyM Unit := do
  Control.init self
  Control.initAdaptive self
  assignAll self [(leading, args.leading), (leadingWidth, args.leadingWidth),
    (automaticallyImplyLeading, args.automaticallyImplyLeading), (title, args.title),
    (centerTitle, args.centerTitle), (toolbarHeight, args.toolbarHeight),
    (color, args.color), (bgcolor, args.bgcolor), (elevation, args.elevation),
    (actions, args.actions), (elevationOnScroll, args.elevationOnScroll),
    (shadowColor, args.shadowColor), (surfaceTintColor, args.surfaceTintColor),
    (clipBehavior, args.clipBehavior),
    (forceMaterialTransparency, args.forceMaterialTransparency),
    (isSecondary, args.isSecondary), (titleSpacing, args.titleSpacing),
    (excludeHeaderSemantics, args.excludeHeaderSemantics),
    (toolbarOpacity, args.toolbarOpacity), (titleTextStyle, args.titleTextStyle),
    (toolbarTextStyle, args.toolbarTextStyle), (shape, args.shape)]

/-- `AppBar.before_update`. -/
def beforeUpdate (codec : Codec) (self : ObjId) : PyM Unit := do
  Control.beforeUpdate self
  setAttrJsonIfInstance codec self .textStyle "titleTextStyle" (field "title_text_style")
  setAttrJsonIfInstance codec self .textStyle "toolbarTextStyle" (field "toolbar_text_style")
  setAttrJsonIfInstance codec self .outlinedBorder "shape" (field "shape")

/-- `AppBar._get_children`. -/
def getChildren (self : ObjId) : PyM (List Value) := do
  let children ← appendIfTruthy "leading" [] (← getField self (field "leading"))
  let children ← appendIfTruthy "title" children (← getField self (field "title"))
  appendTagged "action" children (← (← getField self (field "actions")).iter)

def properties : List Property :=
  [leading, leadingWidth, titleSpacing, toolbarOpacity, shape, titleTextStyle,
    toolbarTextStyle, automaticallyImplyLeading, title, centerTitle, toolbarHeight, color,
    bgcolor, elevation, elevationOnScroll, shadowColor, surfaceTintColor, clipBehavior,
    forceMaterialTransparency, isSecondary, excludeHeaderSemantics, actions]

/-- The JSON steps of `before_update`: each style is flattened only when it
is an instance of its class. -/
def jsonFields : List JsonKey :=
  [.ifInstance .textStyle "titleTextStyle" (field "title_text_style"),
    .ifInstance .textStyle "toolbarTextStyle" (field "toolbar_text_style"),
    .ifInstance .outlinedBorder "shape" (field "shape")]

/-- The slots the code of the class writes. -/
def writes : List Slot :=
  properties.flatMap (·.writes) ++ jsonSlots jsonFields ++ [.attr "n"]

theorem beforeUpdate_eq (codec : Codec) (self : ObjId) :
    beforeUpdate codec self = flattenJson codec self jsonFields := by
  simp [beforeUpdate, Control.beforeUpdate, setAttrJsonIfInstance_eq, jsonFields, flattenJson]

theorem getChildren_confined {writes : List Slot} (member : .attr "n" ∈ writes)
    (self : ObjId) : Confined self writes (getChildren self) := by
  unfold getChildren
  repeat' first
    | apply Confined.getField
    | apply Confined.iter
    | apply Confined.appendIfTruthy member
    | apply Confined.appendTagged member
    | apply Confined.bind
    | intro

def controlClass : ControlClass where
  Args := Args
  init := init
  properties := properties
  passes := [beforeUpdate]
  getChildren := getChildren
  writes := writes
  init_confined self args :=
    Confined.bind (Confined.pure ()) fun _ => Confined.bind (Confined.pure ()) fun _ =>
      assignAll_confined (by simp only [List.forall_mem_cons]; decide)
  properties_confined := by decide
  passes_confined := List.forall_mem_singleton.2 (Confined.flattening beforeUpdate_eq (by decide))
  children_confined := getChildren_confined (by decide)

theorem properties_separate : properties.Pairwise Property.Separate := by decide

theorem properties_built : ∀ p ∈ properties, p.Built := by
  simp only [properties, List.forall_mem_cons, List.not_mem_nil, false_implies, implies_true,
    and_true]
  and_intros <;> constructor

theorem properties_roundTrip : ∀ p ∈ properties, p.RoundTrip :=
  fun p member => (properties_built p member).roundTrip

theorem controlClass_variables : controlClass.Variables :=
  ⟨properties_separate, properties_roundTrip⟩

theorem properties_readable : ∀ p ∈ properties, p.Readable :=
  fun p member => (properties_built p member).readable

/-- The private fields the constructor assigns. -/
def assigned : List PyName :=
  [field "leading", field "shape", field "title_text_style", field "toolbar_text_style",
    field "title", field "actions"]

theorem init_assigns {self : ObjId} {args : Args} {h h' : Heap}
    (run : init self args h = .ok () h') :
    ∀ name ∈ assigned, (h' self).fields name ≠ none := by
  simp only [init, Control.init, Control.initAdaptive, pure_bind] at run
  exact assignAll_assigns_all run (by simp only [List.map_cons, List.map_nil]; decide)

theorem jsonFields_refuse_none : ∀ k ∈ jsonFields, k.guard .none = false := by decide

theorem beforeUpdate_flattened {codec : Codec} {self : ObjId} {h h' : Heap}
    (run : beforeUpdate codec self h = .ok () h') :
    controlClass.Flattened beforeUpdate jsonFields codec self h h' :=
  ControlClass.flattened_of_eq beforeUpdate_eq (by decide) (by decide) run

theorem jsonFields_shown : controlClass.ShowsFields jsonFields := by
  simp only [ControlClass.ShowsFields, jsonFields, List.forall_mem_cons, List.not_mem_nil,
    false_implies, implies_true, and_true]
  exact ⟨⟨_, List.get_mem _ 5 (by decide), rfl⟩, ⟨_, List.get_mem _ 6 (by decide), rfl⟩,
    ⟨_, List.get_mem _ 4 (by decide), rfl⟩⟩

theorem beforeUpdate_completes (codec : Codec) {self : ObjId} {h : Heap}
    (reachable : controlClass.Reachable self (h self)) :
    ∃ h', beforeUpdate codec self h = .ok () h' := by
  rw [beforeUpdate_eq]
  exact reachable.flattenJson_ok (fun _ _ _ run => init_assigns run) (by decide)

theorem getChildren_of_controls {self : ObjId} {h : Heap} {leading title : Option ObjId}
    {ids : List ObjId}
    (leadingField : (h self).fields (field "leading") = some (leading.elim .none .control))
    (titleField : (h self).fields (field "title") = some (title.elim .none .control))
    (actionsField : (h self).fields (field "actions") = some (.list (ids.map .control))) :
    getChildren self h = .ok ((leading.toList ++ title.toList ++ ids).map .control)
      (((h.tagAll leading.toList "leading").tagAll title.toList "title").tagAll ids "action") := by
  unfold getChildren
  rw [bind_of_ok (getField_of_some leadingField), bind_of_ok (appendIfTruthy_option _),
    bind_of_ok (getField_of_some (by rw [Heap.tagAll_fields]; exact titleField)),
    bind_of_ok (appendIfTruthy_option _),
    bind_of_ok (getField_of_some
      (by rw [Heap.tagAll_fields, Heap.tagAll_fields]; exact actionsField)),
    bind_of_ok (Value.iter_list_apply _ _), appendTagged_controls]
  simp

theorem appendIfTruthy_actions {self : ObjId} {tag : String} {children : List Value}
    {child : Value} {h h' : Heap} {result : List Value}
    (run : appendIfTruthy tag children child h = .ok result h') :
    (h' self).fields (field "actions") = (h self).fields (field "actions") :=
  (Confined.appendIfTruthy (List.mem_singleton_self _) tag children child :
    Confined self [.attr "n"] _).field_of_ok (by decide) run

theorem getChildren_raises_of_actions_none {self : ObjId} {h : Heap}
    (actions : (h self).fields (field "actions") = some .none) :
    (raised (getChildren self h)).isSome := by
  unfold getChildren
  refine raises_bind fun _ h₁ read₁ => ?_
  obtain ⟨-, rfl⟩ := getField_ok read₁
  refine raises_bind fun _ h₂ append₂ => ?_
  refine raises_bind fun _ h₃ read₃ => ?_
  obtain ⟨-, rfl⟩ := getField_ok read₃
  refine raises_bind fun _ h₄ append₄ => ?_
  refine raises_bind fun _ h₅ read₅ => ?_
  obtain ⟨stored, rfl⟩ := getField_ok read₅
  rw [appendIfTruthy_actions append₄, appendIfTruthy_actions append₂, actions] at stored
  cases stored
  rw [bind_of_error (show Value.iter .none h₅ = .error (.typeError "object is not iterable") h₅
    from rfl)]
  rfl

theorem opacityInRange_num (q : ℚ) : opacityInRange (.num q) = .ok false := by
  by_cases nonpos : q ≤ 0
  · have below : ¬ 1 ≤ q := fun above => (not_le.2 zero_lt_one) (above.trans nonpos)
    simp only [opacityInRange, Value.ge_num, nonpos, below, decide_True, decide_False]
    rfl
  · simp only [opacityInRange, Value.ge_num, nonpos, decide_False]
    rfl

theorem toolbarOpacity_set_num (self : ObjId) (q : ℚ) (h : Heap) :
    toolbarOpacity.set self (.num q) h =
      .error (.assertionError "toolbar_opacity is out of range (0-1)") h := by
  show Property.checkedSet _ _ _ _ _ h = _
  rw [Property.checkedSet_apply]
  simp only [Property.admits, opacityInRange_num]

theorem opacityInRange_refuses (value : Value) : opacityInRange value ≠ .ok true := by
  cases number : value.toNumber? with
  | none =>
      simp only [opacityInRange, Value.ge, number]
      nofun
  | some q =>
      have same : opacityInRange value = opacityInRange (.num q) := by
        simp only [opacityInRange, Value.ge, number]
        rfl
      simp [same, opacityInRange_num]

theorem init_admitted {self : ObjId} {args : Args} {h h' : Heap} (fresh : h self = .fresh)
    (run : init self args h = .ok () h') :
    Property.Admitted opacityInRange "toolbarOpacity" (h' self) := by
  simp only [init, Control.init, Control.initAdaptive, pure_bind] at run
  refine Property.Admitted.assignAll (by
    simp only [List.forall_mem_cons, List.not_mem_nil, false_implies, implies_true, and_true]
    and_intros <;> first | exact .inr (by decide) | exact .inl rfl) run (fresh ▸ .fresh)

theorem toolbarOpacity_unset {self : ObjId} {o : Obj}
    (reachable : controlClass.Reachable self o) : o.attrs "toolbarOpacity" = none := by
  have admitted : Property.Admitted opacityInRange "toolbarOpacity" o :=
    reachable.admitted (fun _ _ _ => init_admitted)
      (by
        simp only [controlClass, properties, List.forall_mem_cons, List.not_mem_nil,
          false_implies, implies_true, and_true]
        and_intros <;> first | exact .inr (by decide) | exact .inl rfl)
      (by decide : .attr "toolbarOpacity" ∉ jsonSlots jsonFields ++ [.attr "n"])
      (List.forall_mem_singleton.2 fun codec =>
        Confined.flattening beforeUpdate_eq (List.subset_append_left _ _) codec self)
      (getChildren_confined (List.mem_append_right _ (List.mem_singleton_self _)) self)
  cases stored : o.attrs "toolbarOpacity" with
  | none => rfl
  | some value => exact absurd (admitted value stored) (opacityInRange_refuses value)

theorem getters_ok (codec : Codec) {self : ObjId} {o : Obj}
    (reachable : controlClass.Reachable self o) :
    ∀ p ∈ properties, ∃ value, p.get codec o = .ok value :=
  reachable.getters_ok (fun _ _ _ run => init_assigns run) properties_readable (by decide) codec

theorem properties_local : ∀ p ∈ properties, p.Local :=
  fun p member => (properties_built p member).local

theorem getChildren_local (self : ObjId) : Local self [.attr "n"] (getChildren self) := by
  unfold getChildren
  repeat' first
    | apply Local.getField
    | apply Local.iter
    | apply Local.appendIfTruthy
    | apply Local.appendTagged
    | apply Local.bind
    | intro

theorem isolated : controlClass.Isolated where
  init _ _ := Local.bind (Local.pure ()) fun _ => Local.bind (Local.pure ()) fun _ =>
    assignAll_local (by
    simp only [List.forall_mem_cons, List.not_mem_nil, false_implies, implies_true, and_true]
    and_intros <;> exact Property.Built.local (by constructor))
  properties := properties_local
  passes := List.forall_mem_singleton.2 (Local.flattening beforeUpdate_eq)
  getChildren := getChildren_local
  unnamed := by decide

end AppBar

end Flet
