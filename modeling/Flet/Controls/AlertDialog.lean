import Flet.Control.Isolation
import Flet.Control.Pass
import Flet.Control.Variables

namespace Flet

namespace AlertDialog

/-! `AlertDialog` (alert_dialog.py). Its setters keep every property in the
attribute map, while `before_update` and `_get_children` read the private
fields `self.__title`, `self.__content`, ... of the class, which no code of the
class assigns: both hooks raise `AttributeError` in every reachable state. -/

/-- `self.__name` in the body of `AlertDialog`. -/
def field (name : String) : PyName := .priv "AlertDialog" name

def «open» : Property := .ofAttr "open" "bool" (.bool false)
def bgcolor : Property := .ofAttr "bgcolor" "string" .none
def shadowColor : Property := .ofAttr "shadowColor" "string" .none
def surfaceTintColor : Property := .ofAttr "surfaceTintColor" "string" .none
def iconColor : Property := .ofAttr "iconColor" "string" .none
def elevation : Property := .ofAttr "elevation" "float" .none
def actionsOverflowButtonSpacing : Property :=
  .ofAttr "actionsOverflowButtonSpacing" "float" .none
def modal : Property := .ofAttr "modal" "bool" (.bool false)
def title : Property := .ofAttr "title" "string" .none
def titlePadding : Property := .ofAttr "titlePadding" "padding" .none
def content : Property := .ofAttr "content" "string" .none
def contentPadding : Property := .ofAttr "contentPadding" "padding" .none
def actions : Property := .ofAttr "actions" "string" .none
def actionsPadding : Property := .ofAttr "actionsPadding" "padding" .none
def actionsAlignment : Property := .ofAttr "actionsAlignment" "string" .none
def shape : Property := .ofAttr "shape" "string" .none
def insetPadding : Property := .ofAttr "insetPadding" "padding" .none
def iconPadding : Property := .ofAttr "iconPadding" "padding" .none
def actionButtonPadding : Property := .ofAttr "actionButtonPadding" "padding" .none
def alignment : Property := .ofAttr "alignment" "string" .none
def contentTextStyle : Property := .ofAttr "contentTextStyle" "string" .none
def titleTextStyle : Property := .ofAttr "titleTextStyle" "string" .none
def clipBehavior : Property := .ofAttr "clipBehavior" "string" .none
def semanticsLabel : Property := .ofAttr "semanticsLabel" "string" .none
def onDismiss : Property := .ofAttr "onDismiss" "string" .none

/-- `self.icon`: the class has no `icon` property, so the constructor creates a
plain instance attribute. -/
def icon : Property := .ofField (.pub "icon")

/-- `self.scrollable`, a plain instance attribute likewise. -/
def scrollable : Property := .ofField (.pub "scrollable")

/-- The keyword arguments of `AlertDialog(...)` that reach modelled code, with
their defaults. -/
structure Args where
  modal : Value := .bool false
  title : Value := .none
  content : Value := .none
  actions : Value := .none
  bgcolor : Value := .none
  elevation : Value := .none
  icon : Value := .none
  «open» : Value := .bool false
  titlePadding : Value := .none
  contentPadding : Value := .none
  actionsPadding : Value := .none
  actionsAlignment : Value := .none
  shape : Value := .none
  insetPadding : Value := .none
  iconPadding : Value := .none
  actionButtonPadding : Value := .none
  surfaceTintColor : Value := .none
  shadowColor : Value := .none
  iconColor : Value := .none
  scrollable : Value := .none
  actionsOverflowButtonSpacing : Value := .none
  alignment : Value := .none
  contentTextStyle : Value := .none
  titleTextStyle : Value := .none
  clipBehavior : Value := .none
  semanticsLabel : Value := .none
  onDismiss : Value := .none

/-- `AlertDialog.__init__`. -/
def init (self : ObjId) (args : Args) : PyM Unit := do
  Control.init self
  Control.initAdaptive self
  assignAll self [(«open», args.«open»), (bgcolor, args.bgcolor),
    (elevation, args.elevation), (icon, args.icon), (modal, args.modal),
    (title, args.title), (titlePadding, args.titlePadding), (content, args.content),
    (contentPadding, args.contentPadding), (actions, args.actions),
    (actionsPadding, args.actionsPadding), (actionsAlignment, args.actionsAlignment),
    (shape, args.shape), (insetPadding, args.insetPadding),
    (semanticsLabel, args.semanticsLabel), (onDismiss, args.onDismiss),
    (clipBehavior, args.clipBehavior), (actionButtonPadding, args.actionButtonPadding),
    (shadowColor, args.shadowColor), (surfaceTintColor, args.surfaceTintColor),
    (iconPadding, args.iconPadding), (iconColor, args.iconColor),
    (scrollable, args.scrollable),
    (actionsOverflowButtonSpacing, args.actionsOverflowButtonSpacing),
    (alignment, args.alignment), (contentTextStyle, args.contentTextStyle),
    (titleTextStyle, args.titleTextStyle)]

/-- The message of the assertion in `before_update`. -/
def nothingToDisplay : String :=
  "AlertDialog has nothing to display. Provide at minimum one of the following: " ++
    "title, content, actions"

/-- `self.__title or self.__content or self.__actions`. -/
def hasSomething (self : ObjId) : PyM Bool := do
  let title ← getField self (field "title")
  if title.truthy then pure true else do
    let content ← getField self (field "content")
    if content.truthy then pure true else do
      let actions ← getField self (field "actions")
      pure actions.truthy

/-- `AlertDialog.before_update`. -/
def beforeUpdate (codec : Codec) (self : ObjId) : PyM Unit := do
  Control.beforeUpdate self
  pyAssert (← hasSomething self) nothingToDisplay
  Control.setAttrJson codec self "actionsPadding" (← getField self (field "actions_padding"))
  Control.setAttrJson codec self "contentPadding" (← getField self (field "content_padding"))
  Control.setAttrJson codec self "titlePadding" (← getField self (field "title_padding"))
  Control.setAttrJson codec self "shape" (← getField self (field "shape"))
  Control.setAttrJson codec self "insetPadding" (← getField self (field "inset_padding"))
  Control.setAttrJson codec self "iconPadding" (← getField self (field "icon_padding"))
  Control.setAttrJson codec self "actionButtonPadding"
    (← getField self (field "action_button_padding"))
  Control.setAttrJson codec self "alignment" (← getField self (field "alignment"))
  setAttrJsonIfInstance codec self .textStyle "contentTextStyle" (field "content_text_style")
  setAttrJsonIfInstance codec self .textStyle "titleTextStyle" (field "title_text_style")

/-- `AlertDialog._get_children`. -/
def getChildren (self : ObjId) : PyM (List Value) := do
  let children ← appendIfTruthy "title" [] (← getField self (field "title"))
  let children ← appendIfTruthy "icon" children (← getField self (field "icon"))
  let children ← appendIfTruthy "content" children (← getField self (field "content"))
  appendTagged "action" children (← (← getField self (field "actions")).iter)

/-- The properties, and the plain instance attributes the constructor creates. -/
def properties : List Property :=
  [«open», bgcolor, shadowColor, surfaceTintColor, iconColor, elevation,
    actionsOverflowButtonSpacing, modal, title, titlePadding, content, contentPadding,
    actions, actionsPadding, actionsAlignment, shape, insetPadding, iconPadding,
    actionButtonPadding, alignment, contentTextStyle, titleTextStyle, clipBehavior,
    semanticsLabel, onDismiss, icon, scrollable]

/-- Every slot the code of the class writes: the slots of its properties (the
pass writes attribute keys among them) and the marker `n`, should the dialog be
its own child. -/
def writes : List Slot := properties.flatMap (·.writes) ++ [.attr "n"]

theorem beforeUpdate_confined (codec : Codec) (self : ObjId) :
    Confined self writes (beforeUpdate codec self) := by
  unfold beforeUpdate hasSomething Control.beforeUpdate
  repeat' first
    | apply Confined.pure
    | apply Confined.pyAssert
    | apply Confined.getField
    | apply Confined.setAttrJsonIfInstance _ (by decide)
    | apply Confined.setAttrJson _ (by decide)
    | apply Confined.ite
    | apply Confined.bind
    | intro

theorem getChildren_confined (self : ObjId) : Confined self writes (getChildren self) := by
  unfold getChildren
  repeat' first
    | apply Confined.getField
    | apply Confined.iter
    | apply Confined.appendIfTruthy (by decide)
    | apply Confined.appendTagged (by decide)
    | apply Confined.bind
    | intro

def controlClass : ControlClass where
  Args := Args
  init := init
  properties := properties
  passes := [beforeUpdate]
  getChildren := getChildren
  writes := writes
  init_confined self args :=
    Confined.bind (Confined.pure ()) fun _ => Confined.bind (Confined.pure ()) fun _ =>
      assignAll_confined (by simp only [List.forall_mem_cons]; decide)
  properties_confined := by decide
  passes_confined := List.forall_mem_singleton.2 beforeUpdate_confined
  children_confined := getChildren_confined

theorem properties_separate : properties.Pairwise Property.Separate := by decide

theorem properties_built : ∀ p ∈ properties, p.Built := by
  simp only [properties, List.forall_mem_cons, List.not_mem_nil, false_implies, implies_true,
    and_true]
  and_intros <;> constructor

theorem properties_roundTrip : ∀ p ∈ properties, p.RoundTrip :=
  fun p member => (properties_built p member).roundTrip

theorem controlClass_variables : controlClass.Variables :=
  ⟨properties_separate, properties_roundTrip⟩

theorem properties_readable : ∀ p ∈ properties, p.Readable :=
  fun p member => (properties_built p member).readable

/-- The plain instance attributes the constructor creates. -/
def assigned : List PyName := [.pub "icon", .pub "scrollable"]

theorem init_assigns {self : ObjId} {args : Args} {h h' : Heap}
    (run : init self args h = .ok () h') :
    ∀ name ∈ assigned, (h' self).fields name ≠ none := by
  simp only [init, Control.init, Control.initAdaptive, pure_bind] at run
  exact assignAll_assigns_all run (by simp only [List.map_cons, List.map_nil]; decide)

theorem getters_ok (codec : Codec) {self : ObjId} {o : Obj}
    (reachable : controlClass.Reachable self o) :
    ∀ p ∈ properties, ∃ value, p.get codec o = .ok value :=
  reachable.getters_ok (fun _ _ _ run => init_assigns run) properties_readable (by decide) codec

theorem title_unassigned {self : ObjId} {o : Obj} (reachable : controlClass.Reachable self o) :
    o.fields (field "title") = none := by
  have unassigned : o.read (.field (field "title")) = Obj.fresh.read _ :=
    reachable.read_unwritten (by decide)
  simpa using unassigned

theorem beforeUpdate_raises (codec : Codec) {self : ObjId} {h : Heap}
    (reachable : controlClass.Reachable self (h self)) :
    beforeUpdate codec self h = .error (.attributeError (field "title")) h := by
  have raised : hasSomething self h = .error (.attributeError (field "title")) h :=
    bind_of_error (getField_of_none (title_unassigned reachable))
  simp only [beforeUpdate, Control.beforeUpdate, pure_bind]
  exact bind_of_error raised

theorem getChildren_raises {self : ObjId} {h : Heap}
    (reachable : controlClass.Reachable self (h self)) :
    getChildren self h = .error (.attributeError (field "title")) h :=
  bind_of_error (getField_of_none (title_unassigned reachable))

theorem properties_local : ∀ p ∈ properties, p.Local :=
  fun p member => (properties_built p member).local

theorem beforeUpdate_local (codec : Codec) (self : ObjId) :
    Local self [] (beforeUpdate codec self) := by
  unfold beforeUpdate hasSomething Control.beforeUpdate
  repeat' first
    | apply Local.pure
    | apply Local.pyAssert
    | apply Local.getField
    | apply Local.setAttrJsonIfInstance
    | apply Local.setAttrJson
    | apply Local.ite
    | apply Local.bind
    | intro

theorem getChildren_local (self : ObjId) : Local self [.attr "n"] (getChildren self) := by
  unfold getChildren
  repeat' first
    | apply Local.getField
    | apply Local.iter
    | apply Local.appendIfTruthy
    | apply Local.appendTagged
    | apply Local.bind
    | intro

theorem isolated : controlClass.Isolated where
  init _ _ := Local.bind (Local.pure ()) fun _ => Local.bind (Local.pure ()) fun _ =>
    assignAll_local (by
    simp only [List.forall_mem_cons, List.not_mem_nil, false_implies, implies_true, and_true]
    and_intros <;> exact Property.Built.local (by constructor))
  properties := properties_local
  passes := List.forall_mem_singleton.2 beforeUpdate_local
  getChildren := getChildren_local
  unnamed := by decide

end AlertDialog

end Flet
