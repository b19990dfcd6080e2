import Flet.Controls.AlertDialog
import Flet.Controls.AppBar
import Flet.Controls.Badge
import Flet.Controls.BottomAppBar
import Flet.Controls.Card
import Flet.Controls.SafeArea
import Flet.Controls.AutoComplete
import Flet.Controls.CupertinoTextField

namespace Flet

/-! Setters and getters of the properties: what a getter reads back, and the
range checks of the numeric setters. -/

/-- The getter of `CupertinoTextField.placeholder_style` raises in every
reachable state, also right after its setter has stored a value. -/
theorem placeholder_style_unreadable :
    ∀ (codec : Codec) (self : ObjId) (o : Obj),
      CupertinoTextField.controlClass.Reachable self o →
      CupertinoTextField.placeholderStyle.get codec o =
        .error (.attributeError (CupertinoTextField.field "hint_style")) :=
  fun codec _ _ => CupertinoTextField.placeholderStyle_get_raises codec

/-- `CupertinoTextField()` as object 0 of a fresh heap, then
`placeholder_style = s` for a text style `s`, then reading it back. -/
theorem placeholder_style_unreadable_after_set :
    CupertinoTextField.placeholderStyle.get ⟨fun _ => "", fun _ s => .str s⟩
        (heapOf (CupertinoTextField.placeholderStyle.set 0 (.object .textStyle 1)
          (heapOf (CupertinoTextField.init 0 {} fun _ => .fresh))) 0) =
      .error (.attributeError (CupertinoTextField.field "hint_style")) :=
  placeholder_style_unreadable _ 0 _
    (.set (.object .textStyle 1) (.init ({} : CupertinoTextField.Args) rfl rfl)
      (List.mem_append_right _ (List.mem_cons_of_mem _ (List.mem_cons_self _ _))))

/-- The setter of `AppBar.toolbar_opacity` refuses every number, `0.5`
included; that of `Card.elevation` stores every number, negative ones
included. -/
theorem setter_range_checks :
    (∀ (self : ObjId) (q : ℚ) (h : Heap), AppBar.toolbarOpacity.set self (.num q) h =
      .error (.assertionError "toolbar_opacity is out of range (0-1)") h) ∧
    (∀ (self : ObjId) (q : ℚ) (h : Heap), Card.elevation.set self (.num q) h =
      .ok () (h.update self (·.setAttr "elevation" (some (.num q))))) :=
  ⟨AppBar.toolbarOpacity_set_num, fun _ _ _ => rfl⟩

/-- In every state an object reaches, the attribute behind a checked setter
holds nothing or a value its assertion admits: `suggestions_max_height` and
`BottomAppBar.elevation` hold no negative number (a `bool` counting as an
`int`), and `toolbar_opacity`, whose assertion `0 >= value >= 1` admits no
value, is never stored, so that its getter returns the default `1.0`. -/
theorem checked_attributes_admitted :
    (∀ self o, AutoComplete.controlClass.Reachable self o → ∀ value,
      o.attrs "suggestionsMaxHeight" = some value →
        ∃ q, value.toNumber? = some q ∧ 0 ≤ q) ∧
    (∀ self o, BottomAppBar.controlClass.Reachable self o → ∀ value,
      o.attrs "elevation" = some value → ∃ q, value.toNumber? = some q ∧ 0 ≤ q) ∧
    (∀ codec self o, AppBar.controlClass.Reachable self o →
      o.attrs "toolbarOpacity" = none ∧ AppBar.toolbarOpacity.get codec o = .ok (.num 1)) :=
  ⟨fun _ _ reachable value stored =>
      Property.nonNegative_eq_ok.1
        (AutoComplete.suggestionsMaxHeight_admitted reachable value stored),
    fun _ _ reachable value stored =>
      Property.nonNegative_eq_ok.1 (BottomAppBar.elevation_admitted reachable value stored),
    fun _ _ _ reachable =>
      have unset := AppBar.toolbarOpacity_unset reachable
      ⟨unset, by simp [AppBar.toolbarOpacity, Property.ofCheckedAttr, Property.ofAttr,
        Control.getAttr, Control.decode, unset]⟩⟩

/-- Every property of the control classes but `placeholder_style` reads back
the value its setter stored, for every value that is neither `None` nor a
string (which the attribute store may coerce); `suggestions` so for the values
that are truthy, its setter storing `[]` for the others. -/
theorem properties_read_back :
    (∀ p ∈ AlertDialog.controlClass.properties, p.RoundTrip) ∧
    (∀ p ∈ ConstrainedControl.controlClass.properties, p.RoundTrip) ∧
    (∀ p ∈ AppBar.controlClass.properties, p.RoundTrip) ∧
    (∀ p ∈ Badge.controlClass.properties, p.RoundTrip) ∧
    (∀ p ∈ BottomAppBar.controlClass.properties, p.RoundTrip) ∧
    (∀ p ∈ Card.controlClass.properties, p.RoundTrip) ∧
    (∀ p ∈ SafeArea.controlClass.properties, p.RoundTrip) ∧
    AutoComplete.suggestionsMaxHeight.RoundTrip ∧
    (∀ codec self value (h h' : Heap), value.truthy →
      AutoComplete.suggestions.set self value h = .ok () h' →
        AutoComplete.suggestions.get codec (h' self) = .ok value) ∧
    (∀ p ∈ ConstrainedControl.properties ++
      [CupertinoTextField.placeholderText, CupertinoTextField.gradient,
        CupertinoTextField.blendMode, CupertinoTextField.shadow,
        CupertinoTextField.suffixVisibilityMode, CupertinoTextField.prefixVisibilityMode],
      p.RoundTrip) :=
  ⟨AlertDialog.properties_roundTrip, ConstrainedControl.properties_roundTrip,
    AppBar.properties_roundTrip, Badge.properties_roundTrip, BottomAppBar.properties_roundTrip,
    Card.properties_roundTrip, SafeArea.properties_roundTrip,
    Property.ofCheckedAttr_roundTrip _ _ _ _ _, fun _ _ _ _ _ => AutoComplete.suggestions_roundTrip,
    CupertinoTextField.readable_roundTrip⟩

/-- In every control class, setting one property, whether the setter returns
or raises, leaves every other property reading as before. -/
theorem setters_leave_other_properties :
    AlertDialog.controlClass.Independent ∧ ConstrainedControl.controlClass.Independent ∧
      AppBar.controlClass.Independent ∧ Badge.controlClass.Independent ∧
      BottomAppBar.controlClass.Independent ∧ Card.controlClass.Independent ∧
      SafeArea.controlClass.Independent ∧ AutoComplete.controlClass.Independent ∧
      CupertinoTextField.controlClass.Independent :=
  ⟨ControlClass.independent_of_separate AlertDialog.properties_separate,
    ControlClass.independent_of_separate ConstrainedControl.properties_separate,
    ControlClass.independent_of_separate AppBar.properties_separate,
    ControlClass.independent_of_separate Badge.properties_separate,
    ControlClass.independent_of_separate BottomAppBar.properties_separate,
    ControlClass.independent_of_separate Card.properties_separate,
    ControlClass.independent_of_separate SafeArea.properties_separate,
    ControlClass.independent_of_separate AutoComplete.properties_separate,
    ControlClass.independent_of_separate CupertinoTextField.properties_separate⟩

/-- In `AlertDialog`, `ConstrainedControl`, `AppBar`, `Badge`, `BottomAppBar`,
`Card` and `SafeArea` the properties are a record of variables: after any run
of setter calls that returns, with values that are neither `None` nor strings,
every getter reads as the record does after the same assignments, so a
property reads the value last set to it, and one not set reads as before. -/
theorem setter_runs_assign_variables :
    AlertDialog.controlClass.RefinesVariables ∧
      ConstrainedControl.controlClass.RefinesVariables ∧
      AppBar.controlClass.RefinesVariables ∧ Badge.controlClass.RefinesVariables ∧
      BottomAppBar.controlClass.RefinesVariables ∧ Card.controlClass.RefinesVariables ∧
      SafeArea.controlClass.RefinesVariables :=
  ⟨AlertDialog.controlClass_variables.refines, ConstrainedControl.controlClass_variables.refines,
    AppBar.controlClass_variables.refines, Badge.controlClass_variables.refines,
    BottomAppBar.controlClass_variables.refines, Card.controlClass_variables.refines,
    SafeArea.controlClass_variables.refines⟩

/-- In every reachable state no getter that reads a private field raises: the
constructor assigns every such field and no modelled code deletes one. The
getter of `placeholder_style` is left out, `readableProperties` being all the
others of `CupertinoTextField`. -/
theorem getters_return :
    (∀ codec self o, AlertDialog.controlClass.Reachable self o →
      ∀ p ∈ AlertDialog.controlClass.properties,
        ∀ name, p.reads = .field name → ∃ value, p.get codec o = .ok value) ∧
    (∀ codec self o, ConstrainedControl.controlClass.Reachable self o →
      ∀ p ∈ ConstrainedControl.controlClass.properties,
        ∀ name, p.reads = .field name → ∃ value, p.get codec o = .ok value) ∧
    (∀ codec self o, AppBar.controlClass.Reachable self o →
      ∀ p ∈ AppBar.controlClass.properties,
        ∀ name, p.reads = .field name → ∃ value, p.get codec o = .ok value) ∧
    (∀ codec self o, Badge.controlClass.Reachable self o →
      ∀ p ∈ Badge.controlClass.properties,
        ∀ name, p.reads = .field name → ∃ value, p.get codec o = .ok value) ∧
    (∀ codec self o, BottomAppBar.controlClass.Reachable self o →
      ∀ p ∈ BottomAppBar.controlClass.properties,
        ∀ name, p.reads = .field name → ∃ value, p.get codec o = .ok value) ∧
    (∀ codec self o, Card.controlClass.Reachable self o →
      ∀ p ∈ Card.controlClass.properties,
        ∀ name, p.reads = .field name → ∃ value, p.get codec o = .ok value) ∧
    (∀ codec self o, SafeArea.controlClass.Reachable self o →
      ∀ p ∈ SafeArea.controlClass.properties,
        ∀ name, p.reads = .field name → ∃ value, p.get codec o = .ok value) ∧
    (∀ codec self o, AutoComplete.controlClass.Reachable self o →
      ∀ p ∈ AutoComplete.controlClass.properties,
        ∀ name, p.reads = .field name → ∃ value, p.get codec o = .ok value) ∧
    (∀ codec self o, CupertinoTextField.controlClass.Reachable self o →
      ∀ p ∈ CupertinoTextField.readableProperties,
        ∀ name, p.reads = .field name → ∃ value, p.get codec o = .ok value) :=
  ⟨fun codec _ _ reachable p member _ _ => AlertDialog.getters_ok codec reachable p member,
    fun codec _ _ reachable p member _ _ => ConstrainedControl.getters_ok codec reachable p member,
    fun codec _ _ reachable p member _ _ => AppBar.getters_ok codec reachable p member,
    fun codec _ _ reachable p member _ _ => Badge.getters_ok codec reachable p member,
    fun codec _ _ reachable p member _ _ => BottomAppBar.getters_ok codec reachable p member,
    fun codec _ _ reachable p member _ _ => Card.getters_ok codec reachable p member,
    fun codec _ _ reachable p member _ _ => SafeArea.getters_ok codec reachable p member,
    fun codec _ _ reachable p member _ _ => AutoComplete.getters_ok codec reachable p member,
    fun codec _ _ reachable p member _ _ =>
      CupertinoTextField.getters_ok codec reachable p member⟩

end Flet
