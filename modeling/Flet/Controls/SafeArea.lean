import Flet.Controls.ConstrainedControl

namespace Flet

namespace SafeArea

/-! `SafeArea` (safe_area.py), a `ConstrainedControl` around one required
child. Its `left`, `top`, `right` and `bottom` override those of
`ConstrainedControl` as flags under the same keys, and `before_update` asserts
that the child is visible. -/

/-- `self.__name` in the body of `SafeArea`. -/
def field (name : String) : PyName := .priv "SafeArea" name

def left : Property := .ofAttr "left" "bool" (.bool true)
def top : Property := .ofAttr "top" "bool" (.bool true)
def right : Property := .ofAttr "right" "bool" (.bool true)
def bottom : Property := .ofAttr "bottom" "bool" (.bool true)
def maintainBottomViewPadding : Property :=
  .ofAttr "maintainBottomViewPadding" "bool" (.bool false)
def content : Property := .ofField (field "content")

/-- `minimum`; its getter and setter also emit a `DeprecationWarning`, which
changes no state. -/
def minimum : Property := .ofField (field "minimum")
def minimumPadding : Property := .ofField (field "minimum_padding")

/-- The keyword arguments of `SafeArea(...)` that reach modelled code;
`content` has no default. -/
structure Args extends ConstrainedControl.Args where
  content : Value
  maintainBottomViewPadding : Value := .none
  minimum : Value := .none
  minimumPadding : Value := .none

/-- `SafeArea.__init__`. The constructor of `ConstrainedControl` is not given
`left`, `top`, `right` or `bottom`; `SafeArea` sets them itself. -/
def init (self : ObjId) (args : Args) : PyM Unit := do
  ConstrainedControl.init self
    { args.toArgs with left := .none, top := .none, right := .none, bottom := .none }
  Control.initAdaptive self
  assignAll self [(content, args.content), (left, args.left), (top, args.top),
    (right, args.right), (bottom, args.bottom),
    (maintainBottomViewPadding, args.maintainBottomViewPadding),
    (minimum, args.minimum), (minimumPadding, args.minimumPadding)]

/-- The message of the assertion in `before_update`. -/
def contentMustBeVisible : String := "content must be visible"

/-- `assert self.__content.visible, "content must be visible"`. -/
def assertContentVisible (codec : Codec) (self : ObjId) : PyM Unit := do
  pyAssert (← (← getField self (field "content")).visible codec).truthy contentMustBeVisible

/-- `SafeArea.before_update`. -/
def beforeUpdate (codec : Codec) (self : ObjId) : PyM Unit := do
  ConstrainedControl.beforeUpdate codec self
  assertContentVisible codec self
  Control.setAttrJson codec self "minimum" (← getField self (field "minimum"))
  Control.setAttrJson codec self "minimumPadding" (← getField self (field "minimum_padding"))

/-- `SafeArea._get_children`. -/
def getChildren (self : ObjId) : PyM (List Value) := do
  let content ← getField self (field "content")
  content.setAttrInternal "n" (.str "content")
  pure [content]

/-- The properties of `ConstrainedControl` that `SafeArea` does not override,
then its own. -/
def properties : List Property :=
  [ConstrainedControl.key, ConstrainedControl.width, ConstrainedControl.height,
    ConstrainedControl.rotate, ConstrainedControl.scale, ConstrainedControl.offset,
    ConstrainedControl.aspectRatio, ConstrainedControl.animateOpacity,
    ConstrainedControl.animateSize, ConstrainedControl.animatePosition,
    ConstrainedControl.animateRotation, ConstrainedControl.animateScale,
    ConstrainedControl.animateOffset, ConstrainedControl.onAnimationEnd,
    left, top, right, bottom, maintainBottomViewPadding, content, minimum, minimumPadding]

/-- The structured properties `before_update` flattens after its assertion. -/
def ownJsonFields : List JsonKey :=
  [.plain "minimum" (field "minimum"), .plain "minimumPadding" (field "minimum_padding")]

/-- All the structured properties `before_update` flattens, as their JSON steps. -/
def jsonFields : List JsonKey := ConstrainedControl.jsonFields ++ ownJsonFields

/-- The slots the code of the class writes. -/
def writes : List Slot :=
  ConstrainedControl.writes ++ properties.flatMap (·.writes) ++ jsonSlots ownJsonFields ++
    [.attr "n"]

theorem beforeUpdate_eq (codec : Codec) (self : ObjId) :
    beforeUpdate codec self = (do
      flattenJson codec self ConstrainedControl.jsonFields
      assertContentVisible codec self
      flattenJson codec self ownJsonFields) := by
  simp [JsonKey.plain, JsonKey.write, beforeUpdate, ownJsonFields,
    ConstrainedControl.beforeUpdate_eq, flattenJson]

section Assert

variable {codec : Codec} {self : ObjId} {h : Heap}

theorem assertContentVisible_heap : heapOf (assertContentVisible codec self h) = h := by
  unfold assertContentVisible
  cases stored : (h self).fields (field "content") with
  | none => rw [bind_of_error (getField_of_none stored), heapOf_error]
  | some content =>
      rw [bind_of_ok (getField_of_some stored)]
      cases content
      case control id =>
        rw [bind_of_ok (Value.visible_control _ _ _)]
        cases (Control.visible codec (h id)).truthy <;> rfl
      all_goals rfl

theorem assertContentVisible_of_control {id : ObjId}
    (content : (h self).fields (field "content") = some (.control id)) :
    assertContentVisible codec self h =
      if (Control.visible codec (h id)).truthy then .ok () h
      else .error (.assertionError contentMustBeVisible) h := by
  unfold assertContentVisible
  rw [bind_of_ok (getField_of_some content), bind_of_ok (Value.visible_control _ _ _)]
  cases (Control.visible codec (h id)).truthy <;> rfl

theorem assertContentVisible_ok {h' : Heap}
    (asserted : assertContentVisible codec self h = .ok () h') :
    h' = h ∧ ∃ id, (h self).fields (field "content") = some (.control id) ∧
      (Control.visible codec (h id)).truthy := by
  obtain ⟨_, _, read, rest⟩ := bind_eq_ok.1 asserted
  obtain ⟨stored, rfl⟩ := getField_ok read
  obtain ⟨_, _, shown, check⟩ := bind_eq_ok.1 rest
  obtain ⟨id, rfl, rfl, rfl⟩ := Value.visible_ok shown
  obtain ⟨visible, rfl⟩ := pyAssert_ok check
  exact ⟨rfl, id, stored, visible⟩

theorem assertContentVisible_confined {writes : List Slot} :
    Confined self writes (assertContentVisible codec self) := fun h => by
  rw [assertContentVisible_heap]
  exact Touches.refl _ _

end Assert

theorem beforeUpdate_confined (codec : Codec) (self : ObjId) :
    Confined self (jsonSlots jsonFields) (beforeUpdate codec self) := by
  rw [beforeUpdate_eq]
  exact Confined.bind ((Confined.flattenJson codec _).mono (by decide)) fun _ =>
    Confined.bind assertContentVisible_confined fun _ =>
      (Confined.flattenJson codec _).mono (by decide)

def controlClass : ControlClass where
  Args := Args
  init := init
  properties := properties
  passes := [beforeUpdate]
  getChildren := getChildren
  writes := writes
  init_confined self args :=
    Confined.bind ((ConstrainedControl.init_confined self _).mono (by decide)) fun _ =>
      Confined.bind (Confined.pure ()) fun _ =>
        assignAll_confined (by simp only [List.forall_mem_cons]; decide)
  properties_confined := by decide
  passes_confined := List.forall_mem_singleton.2 fun codec self =>
    (beforeUpdate_confined codec self).mono (by decide)
  children_confined _ :=
    Confined.bind (Confined.getField _ _) fun _ =>
      Confined.bind (Confined.setAttrInternal (by decide) _ _) fun _ => Confined.pure _

theorem properties_separate : properties.Pairwise Property.Separate := by decide

theorem properties_built :
    ∀ p ∈ properties, p.Built ∨ p = ConstrainedControl.onAnimationEnd := by
  simp only [properties, List.forall_mem_cons, List.not_mem_nil, false_implies, implies_true,
    and_true]
  and_intros <;> first | exact .inr trivial | exact .inl (by constructor)

theorem properties_roundTrip : ∀ p ∈ properties, p.RoundTrip :=
  Property.forall_of_built_or properties_built Property.Built.roundTrip
    ConstrainedControl.onAnimationEnd_roundTrip

theorem controlClass_variables : controlClass.Variables :=
  ⟨properties_separate, properties_roundTrip⟩

theorem properties_readable : ∀ p ∈ properties, p.Readable :=
  Property.forall_of_built_or properties_built Property.Built.readable
    ConstrainedControl.onAnimationEnd_readable

/-- The private fields the constructor assigns. -/
def assigned : List PyName :=
  ConstrainedControl.assigned ++ [field "content", field "minimum", field "minimum_padding"]

theorem init_assigns {self : ObjId} {args : Args} {h h' : Heap}
    (run : init self args h = .ok () h') :
    ∀ name ∈ assigned, (h' self).fields name ≠ none := by
  obtain ⟨_, _, first, body⟩ := bind_eq_ok.1 run
  simp only [Control.initAdaptive, pure_bind] at body
  exact assignAll_after (ConstrainedControl.init_assigns first) body
    (by simp only [List.map_cons, List.map_nil]; decide)

section Pass

variable {codec : Codec} {self : ObjId} {h h' : Heap}

theorem visible_after_flatten {keys : List JsonKey}
    (run : flattenJson codec self keys h = .ok () h')
    (untouched : Slot.attr "visible" ∉ jsonSlots keys)
    (id : ObjId) : Control.visible codec (h' id) = Control.visible codec (h id) := by
  by_cases same : id = self
  · subst same
    simp only [Control.visible, Control.getAttr, flattenJson_attr_of_not_mem run untouched]
  · rw [flattenJson_other run id same]

theorem assertContentVisible_after_flatten {keys : List JsonKey}
    (run : flattenJson codec self keys h = .ok () h')
    (untouched : Slot.attr "visible" ∉ jsonSlots keys)
    (asserted : assertContentVisible codec self h = .ok () h) :
    assertContentVisible codec self h' = .ok () h' := by
  obtain ⟨-, id, stored, visible⟩ := assertContentVisible_ok asserted
  have stored' : (h' self).fields (field "content") = some (.control id) := by
    rw [flattenJson_fields run, stored]
  rw [assertContentVisible_of_control stored', visible_after_flatten run untouched id,
    if_pos visible]

theorem beforeUpdate_of_control (reachable : controlClass.Reachable self (h self)) {id : ObjId}
    (content : (h self).fields (field "content") = some (.control id)) :
    if (Control.visible codec (h id)).truthy then ∃ h', beforeUpdate codec self h = .ok () h'
    else ∃ h', beforeUpdate codec self h = .error (.assertionError contentMustBeVisible) h' := by
  obtain ⟨h₁, first⟩ :
      ∃ h₁, flattenJson codec self ConstrainedControl.jsonFields h = .ok () h₁ :=
    reachable.flattenJson_ok (fun _ _ _ run => init_assigns run) (by decide)
  have content₁ : (h₁ self).fields (field "content") = some (.control id) := by
    rw [flattenJson_fields first, content]
  rw [beforeUpdate_eq, bind_of_ok first, ← visible_after_flatten first (by decide) id]
  split
  · next visible =>
      rw [bind_of_ok (by rw [assertContentVisible_of_control content₁, if_pos visible])]
      refine Flet.flattenJson_ok fun k member => ?_
      have own : ∀ k ∈ ownJsonFields, k.name ∈ assigned := by decide
      rw [flattenJson_fields first]
      exact reachable.field_assigned fun _ _ _ _ run => init_assigns run k.name (own k member)
  · next hidden =>
      exact ⟨h₁, bind_of_error
        (by rw [assertContentVisible_of_control content₁, if_neg hidden])⟩

theorem beforeUpdate_ok (run : beforeUpdate codec self h = .ok () h') :
    ∃ h₁, flattenJson codec self ConstrainedControl.jsonFields h = .ok () h₁ ∧
      assertContentVisible codec self h₁ = .ok () h₁ ∧
      flattenJson codec self ownJsonFields h₁ = .ok () h' := by
  rw [beforeUpdate_eq] at run
  obtain ⟨_, h₁, first, rest⟩ := bind_eq_ok.1 run
  obtain ⟨_, h₂, asserted, second⟩ := bind_eq_ok.1 rest
  have same : h₂ = h₁ := by
    have kept := @assertContentVisible_heap codec self h₁
    rwa [asserted, heapOf_ok] at kept
  subst same
  exact ⟨_, first, asserted, second⟩

theorem beforeUpdate_fields (run : beforeUpdate codec self h = .ok () h') :
    (h' self).fields = (h self).fields := by
  obtain ⟨_, first, -, second⟩ := beforeUpdate_ok run
  rw [flattenJson_fields second, flattenJson_fields first]

theorem jsonFields_unguarded : ∀ k ∈ jsonFields, ∀ value, k.guard value = true :=
  List.forall_mem_append.2
    ⟨ConstrainedControl.jsonFields_unguarded, by simp [ownJsonFields, JsonKey.plain]⟩

theorem beforeUpdate_flattened (run : beforeUpdate codec self h = .ok () h') :
    controlClass.Flattened beforeUpdate jsonFields codec self h h' := by
  have getters : ∀ p ∈ controlClass.properties,
      p.get codec (heapOf (beforeUpdate codec self h) self) = p.get codec (h self) :=
    ControlClass.getters_unchanged (beforeUpdate_confined codec self) (by decide) codec h
  rw [run, heapOf_ok] at getters
  obtain ⟨h₁, first, asserted, second⟩ := beforeUpdate_ok run
  have disjoint :
      ∀ k ∈ ConstrainedControl.jsonFields, Slot.attr k.key ∉ jsonSlots ownJsonFields := by
    decide
  have holds : ∀ k ∈ jsonFields, k.Holds codec (h' self) := by
    intro k member
    rcases List.mem_append.1 member with inherited | own
    · exact flattenJson_keeps_holds second (disjoint k inherited)
        (flattenJson_holds (by decide) first k inherited)
    · exact flattenJson_holds (by decide) second k own
  refine ⟨holds, getters, ?_⟩
  rw [beforeUpdate_eq,
    bind_of_ok (flattenJson_of_holds fun k member => holds k (List.mem_append_left _ member)),
    bind_of_ok (assertContentVisible_after_flatten second (by decide) asserted)]
  exact flattenJson_of_holds fun k member => holds k (List.mem_append_right _ member)

end Pass

theorem jsonFields_shown : controlClass.ShowsFields jsonFields := by
  simp only [ControlClass.ShowsFields, jsonFields, ConstrainedControl.jsonFields, ownJsonFields,
    List.cons_append, List.nil_append, List.forall_mem_cons, List.not_mem_nil, false_implies,
    implies_true, and_true]
  exact ⟨⟨_, List.get_mem _ 3 (by decide), rfl⟩, ⟨_, List.get_mem _ 4 (by decide), rfl⟩,
    ⟨_, List.get_mem _ 5 (by decide), rfl⟩, ⟨_, List.get_mem _ 7 (by decide), rfl⟩,
    ⟨_, List.get_mem _ 8 (by decide), rfl⟩, ⟨_, List.get_mem _ 9 (by decide), rfl⟩,
    ⟨_, List.get_mem _ 10 (by decide), rfl⟩, ⟨_, List.get_mem _ 11 (by decide), rfl⟩,
    ⟨_, List.get_mem _ 12 (by decide), rfl⟩, ⟨_, List.get_mem _ 20 (by decide), rfl⟩,
    ⟨_, List.get_mem _ 21 (by decide), rfl⟩⟩

theorem getters_ok (codec : Codec) {self : ObjId} {o : Obj}
    (reachable : controlClass.Reachable self o) :
    ∀ p ∈ properties, ∃ value, p.get codec o = .ok value :=
  reachable.getters_ok (fun _ _ _ run => init_assigns run) properties_readable (by decide) codec

theorem properties_local : ∀ p ∈ properties, p.Local :=
  Property.forall_of_built_or properties_built Property.Built.local
    ConstrainedControl.onAnimationEnd_local

theorem assertContentVisible_local {codec : Codec} {self : ObjId} {others : List Slot} :
    Local self others (assertContentVisible codec self) :=
  Local.bind (Local.getField _ _) fun _ =>
    Local.bind (Local.visible _ _) fun _ => Local.pyAssert _ _

theorem isolated : controlClass.Isolated where
  init _ _ := Local.bind (ConstrainedControl.init_local _ _) fun _ =>
    Local.bind (Local.pure ()) fun _ => assignAll_local (by
    simp only [List.forall_mem_cons, List.not_mem_nil, false_implies, implies_true, and_true]
    and_intros <;> exact Property.Built.local (by constructor))
  properties := properties_local
  passes := List.forall_mem_singleton.2 fun codec self => by
    rw [beforeUpdate_eq]
    exact Local.bind (Local.flattenJson _ _) fun _ =>
      Local.bind assertContentVisible_local fun _ => Local.flattenJson _ _
  getChildren _ := Local.bind (Local.getField _ _) fun _ =>
    Local.bind (Local.setAttrInternal _ _) fun _ => Local.pure _
  unnamed := by decide

end SafeArea

end Flet
