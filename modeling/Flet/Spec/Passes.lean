import Flet.Controls.AlertDialog
import Flet.Controls.AppBar
import Flet.Controls.Badge
import Flet.Controls.BottomAppBar
import Flet.Controls.Card
import Flet.Controls.SafeArea
import Flet.Controls.AutoComplete
import Flet.Controls.CupertinoTextField

namespace Flet

/-! The pre-serialization passes of all the controls (spec 4.2): what a pass
that completes leaves in the attribute map, and when a pass raises. -/

/-- The pass of `AlertDialog` raises `AttributeError` in every reachable state,
whatever its title, content and actions. -/
theorem alertDialog_pass_raises :
    ∀ (codec : Codec) (self : ObjId) (h : Heap),
      AlertDialog.controlClass.Reachable self (h self) →
      AlertDialog.beforeUpdate codec self h =
        .error (.attributeError (AlertDialog.field "title")) h :=
  fun codec _ _ => AlertDialog.beforeUpdate_raises codec

/-- `AlertDialog(title=t)` with a control `t`: the dialog has a title, and its
pass raises. -/
theorem alertDialog_with_title_pass_raises :
    AlertDialog.beforeUpdate ⟨fun _ => "", fun _ s => .str s⟩ 0
        (heapOf (AlertDialog.init 0 { title := .control 1 } fun _ => .fresh)) =
      .error (.attributeError (AlertDialog.field "title"))
        (heapOf (AlertDialog.init 0 { title := .control 1 } fun _ => .fresh)) :=
  alertDialog_pass_raises _ 0 _ (.init ({ title := .control 1 } : AlertDialog.Args) rfl rfl)

/-- In every reachable state of a `SafeArea` whose content is a control, the
pass raises the assertion exactly when the content's `visible` is falsy, and
completes otherwise. -/
theorem safeArea_pass_raises_iff_hidden :
    ∀ (codec : Codec) (self id : ObjId) (h : Heap),
      SafeArea.controlClass.Reachable self (h self) →
      (h self).fields (SafeArea.field "content") = some (.control id) →
      if (Control.visible codec (h id)).truthy then
        ∃ h', SafeArea.beforeUpdate codec self h = .ok () h'
      else ∃ h', SafeArea.beforeUpdate codec self h =
        .error (.assertionError SafeArea.contentMustBeVisible) h' :=
  fun _ _ _ _ reachable content => SafeArea.beforeUpdate_of_control reachable content

/-- `SafeArea(content=c)` for a control `c` left visible by default, as object
0 of a fresh heap: its pass completes. -/
theorem safeArea_visible_content_pass_completes :
    ∃ h', SafeArea.beforeUpdate ⟨fun _ => "", fun _ s => .str s⟩ 0
      (heapOf (SafeArea.init 0 { content := .control 1 } fun _ => .fresh)) = .ok () h' := by
  have completes := safeArea_pass_raises_iff_hidden ⟨fun _ => "", fun _ s => .str s⟩ 0 1
    (heapOf (SafeArea.init 0 { content := .control 1 } fun _ => .fresh))
    (.init ({ content := .control 1 } : SafeArea.Args) rfl rfl) rfl
  exact completes

/-- In every reachable state the passes of `ConstrainedControl`, `AppBar`,
`Badge`, `BottomAppBar`, `Card`, `AutoComplete` and `CupertinoTextField`
complete. -/
theorem other_passes_complete :
    (∀ codec self (h : Heap), ConstrainedControl.controlClass.Reachable self (h self) →
      ∃ h', ConstrainedControl.beforeUpdate codec self h = .ok () h') ∧
    (∀ codec self (h : Heap), AppBar.controlClass.Reachable self (h self) →
      ∃ h', AppBar.beforeUpdate codec self h = .ok () h') ∧
    (∀ codec self (h : Heap), Badge.controlClass.Reachable self (h self) →
      ∃ h', Badge.beforeUpdate codec self h = .ok () h') ∧
    (∀ codec self (h : Heap), BottomAppBar.controlClass.Reachable self (h self) →
      ∃ h', BottomAppBar.beforeUpdate codec self h = .ok () h') ∧
    (∀ codec self (h : Heap), Card.controlClass.Reachable self (h self) →
      ∃ h', Card.beforeUpdate codec self h = .ok () h') ∧
    (∀ codec self (h : Heap), AutoComplete.controlClass.Reachable self (h self) →
      ∃ h', AutoComplete.beforeUpdate codec self h = .ok () h') ∧
    (∀ codec self (h : Heap), CupertinoTextField.controlClass.Reachable self (h self) →
      (∃ h', TextField.beforeUpdate codec self h = .ok () h') ∧
        ∃ h', CupertinoTextField.beforeBuildCommand codec self h = .ok () h') :=
  ⟨fun codec _ _ => ConstrainedControl.beforeUpdate_completes codec,
    fun codec _ _ => AppBar.beforeUpdate_completes codec,
    fun codec _ _ => Badge.beforeUpdate_completes codec,
    fun codec _ _ => BottomAppBar.beforeUpdate_completes codec,
    fun codec _ _ => Card.beforeUpdate_completes codec,
    fun codec _ _ => AutoComplete.beforeUpdate_completes codec,
    fun codec _ _ reachable => ⟨CupertinoTextField.beforeUpdate_completes codec reachable,
      CupertinoTextField.beforeBuildCommand_completes codec reachable⟩⟩

/-- A structured property set to `None` has no wire entry after the next pass in
every class that flattens unconditionally: after a completed pass, a key whose
field holds a value its step shows as `None` (`None` itself, and for
`shadow` also the `[]` its setter stores for `None`) has no entry. `AppBar`
flattens its styles and its shape only when they are instances of their class,
so a field holding `None` leaves the entry as it was, an encoding written by
an earlier pass included. -/
theorem none_clears_wire_keys :
    (∀ codec self (h h' : Heap), ConstrainedControl.beforeUpdate codec self h = .ok () h' →
      ∀ k ∈ ConstrainedControl.jsonFields, ∀ value, (h self).fields k.name = some value →
        k.shown value = .none → (h' self).attrs k.key = none) ∧
    (∀ codec self (h h' : Heap), Badge.beforeUpdate codec self h = .ok () h' →
      ∀ k ∈ Badge.jsonFields, ∀ value, (h self).fields k.name = some value →
        k.shown value = .none → (h' self).attrs k.key = none) ∧
    (∀ codec self (h h' : Heap), BottomAppBar.beforeUpdate codec self h = .ok () h' →
      ∀ k ∈ BottomAppBar.jsonFields, ∀ value, (h self).fields k.name = some value →
        k.shown value = .none → (h' self).attrs k.key = none) ∧
    (∀ codec self (h h' : Heap), Card.beforeUpdate codec self h = .ok () h' →
      ∀ k ∈ Card.jsonFields, ∀ value, (h self).fields k.name = some value →
        k.shown value = .none → (h' self).attrs k.key = none) ∧
    (∀ codec self (h h' : Heap), SafeArea.beforeUpdate codec self h = .ok () h' →
      ∀ k ∈ SafeArea.jsonFields, ∀ value, (h self).fields k.name = some value →
        k.shown value = .none → (h' self).attrs k.key = none) ∧
    (∀ codec self (h h' : Heap),
      CupertinoTextField.beforeBuildCommand codec self h = .ok () h' →
      ∀ k ∈ CupertinoTextField.jsonFields, ∀ value, (h self).fields k.name = some value →
        k.shown value = .none → (h' self).attrs k.key = none) ∧
    (∀ codec self (h h' : Heap), AppBar.beforeUpdate codec self h = .ok () h' →
      ∀ k ∈ AppBar.jsonFields, (h self).fields k.name = some .none →
        (h' self).attrs k.key = (h self).attrs k.key) :=
  ⟨fun _ _ _ _ run k member _ stored nothing =>
      flattenJson_attr_none (by decide) (by rwa [ConstrainedControl.beforeUpdate_eq] at run)
        member stored (ConstrainedControl.jsonFields_unguarded k member _) nothing,
    fun _ _ _ _ run k member _ stored nothing =>
      flattenJson_attr_none (by decide) (by rwa [Badge.beforeUpdate_eq] at run) member stored
        (Badge.jsonFields_unguarded k member _) nothing,
    fun _ _ _ _ run k member _ stored nothing =>
      flattenJson_attr_none (by decide) (by rwa [BottomAppBar.beforeUpdate_eq] at run)
        member stored (BottomAppBar.jsonFields_unguarded k member _) nothing,
    fun _ _ _ _ run k member _ stored nothing =>
      flattenJson_attr_none (by decide) (by rwa [Card.beforeUpdate_eq] at run) member stored
        (Card.jsonFields_unguarded k member _) nothing,
    fun _ _ _ _ run k member _ stored nothing =>
      (SafeArea.beforeUpdate_flattened run).attr_none member
        (by rw [SafeArea.beforeUpdate_fields run]; exact stored)
        (SafeArea.jsonFields_unguarded k member _) nothing,
    fun _ _ _ _ run k member _ stored nothing =>
      flattenJson_attr_none (by decide)
        (by rwa [CupertinoTextField.beforeBuildCommand_eq] at run) member stored
        (CupertinoTextField.jsonFields_unguarded k member _) nothing,
    fun _ _ _ _ run k member stored =>
      flattenJson_attr_of_refused (by decide) (by rwa [AppBar.beforeUpdate_eq] at run) member
        stored (AppBar.jsonFields_refuse_none k member)⟩

/-- In `ConstrainedControl`, `AppBar`, `Badge`, `BottomAppBar`, `Card` and
`SafeArea` the wire map refines the record of variables: every key the pass
writes flattens the field that the getter of one property returns, and after
any setter calls that return, with values that are neither `None` nor strings,
then a pass that completes, the key holds the encoding of the value the record
gives that property (the value last set to it, or else the one it read before
the calls), for `AppBar` when the value is an instance of the key's class. -/
theorem wire_keys_follow_variables :
    ConstrainedControl.controlClass.RefinesWire ConstrainedControl.beforeUpdate
      ConstrainedControl.jsonFields ∧
    AppBar.controlClass.RefinesWire AppBar.beforeUpdate AppBar.jsonFields ∧
    Badge.controlClass.RefinesWire Badge.beforeUpdate Badge.jsonFields ∧
    BottomAppBar.controlClass.RefinesWire BottomAppBar.beforeUpdate BottomAppBar.jsonFields ∧
    Card.controlClass.RefinesWire Card.beforeUpdate Card.jsonFields ∧
    SafeArea.controlClass.RefinesWire SafeArea.beforeUpdate SafeArea.jsonFields :=
  ⟨ConstrainedControl.controlClass_variables.refinesWire ConstrainedControl.jsonFields_shown
      fun _ _ _ _ => ConstrainedControl.beforeUpdate_flattened,
    AppBar.controlClass_variables.refinesWire AppBar.jsonFields_shown
      fun _ _ _ _ => AppBar.beforeUpdate_flattened,
    Badge.controlClass_variables.refinesWire Badge.jsonFields_shown
      fun _ _ _ _ => Badge.beforeUpdate_flattened,
    BottomAppBar.controlClass_variables.refinesWire BottomAppBar.jsonFields_shown
      fun _ _ _ _ => BottomAppBar.beforeUpdate_flattened,
    Card.controlClass_variables.refinesWire Card.jsonFields_shown
      fun _ _ _ _ => Card.beforeUpdate_flattened,
    SafeArea.controlClass_variables.refinesWire SafeArea.jsonFields_shown
      fun _ _ _ _ => SafeArea.beforeUpdate_flattened⟩

/-- `AppBar(shape=s)` for an `OutlinedBorder` `s`, as object 0 of a fresh heap,
after a pass and then `shape = None`: the next pass keeps the encoding of `s`
under `shape`. -/
theorem appBar_shape_none_keeps_encoding :
    (heapOf (AppBar.beforeUpdate ⟨fun _ => "s", fun _ s => .str s⟩ 0
        (heapOf (AppBar.shape.set 0 .none
          (heapOf (AppBar.beforeUpdate ⟨fun _ => "s", fun _ s => .str s⟩ 0
            (heapOf (AppBar.init 0 { shape := .object .outlinedBorder 1 }
              fun _ => .fresh))))))) 0).attrs "shape" =
      (heapOf (AppBar.shape.set 0 .none
        (heapOf (AppBar.beforeUpdate ⟨fun _ => "s", fun _ s => .str s⟩ 0
          (heapOf (AppBar.init 0 { shape := .object .outlinedBorder 1 }
            fun _ => .fresh))))) 0).attrs "shape" ∧
    (heapOf (AppBar.shape.set 0 .none
      (heapOf (AppBar.beforeUpdate ⟨fun _ => "s", fun _ s => .str s⟩ 0
        (heapOf (AppBar.init 0 { shape := .object .outlinedBorder 1 }
          fun _ => .fresh))))) 0).attrs "shape" = some (.str "s") := by
  refine ⟨none_clears_wire_keys.2.2.2.2.2.2 ⟨fun _ => "s", fun _ s => .str s⟩ 0 _ _ ?_ _
    (List.mem_cons_of_mem _ (List.mem_cons_of_mem _ (List.mem_cons_self _ _))) ?_, rfl⟩ <;> rfl

end Flet
