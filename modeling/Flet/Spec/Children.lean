import Flet.Controls.AlertDialog
import Flet.Controls.AppBar
import Flet.Controls.Badge
import Flet.Controls.BottomAppBar
import Flet.Controls.Card
import Flet.Controls.SafeArea

namespace Flet

/-! Listing the children (spec 4.3). `AlertDialog` reads private fields its
setters never assign, and `AppBar` iterates `actions` also when it is `None`,
its default: both raise where a list of children is expected. -/

/-- Listing the children of an `AlertDialog` raises in every reachable state,
and so does listing those of an `AppBar` whose `actions` is `None`. -/
theorem children_listing_raises :
    (∀ (self : ObjId) (h : Heap), AlertDialog.controlClass.Reachable self (h self) →
      AlertDialog.getChildren self h = .error (.attributeError (AlertDialog.field "title")) h) ∧
    (∀ (self : ObjId) (h : Heap), (h self).fields (AppBar.field "actions") = some .none →
      (raised (AppBar.getChildren self h)).isSome) :=
  ⟨fun _ _ => AlertDialog.getChildren_raises,
    fun _ _ => AppBar.getChildren_raises_of_actions_none⟩

/-- `AlertDialog(title=t)` with a control `t`, and `AppBar()`, each as object 0
of a fresh heap. -/
theorem children_listing_raises_at_construction :
    AlertDialog.getChildren 0
        (heapOf (AlertDialog.init 0 { title := .control 1 } fun _ => .fresh)) =
      .error (.attributeError (AlertDialog.field "title"))
        (heapOf (AlertDialog.init 0 { title := .control 1 } fun _ => .fresh)) ∧
    (raised (AppBar.getChildren 0 (heapOf (AppBar.init 0 {} fun _ => .fresh)))).isSome :=
  ⟨children_listing_raises.1 0 _ (.init ({ title := .control 1 } : AlertDialog.Args) rfl rfl),
    children_listing_raises.2 0 _ rfl⟩

/-- An `AppBar` whose `leading` and `title` are each `None` or a control and
whose `actions` is a list of controls lists the slots that are set, in order,
then every action in order, each tagged with its slot. -/
theorem appBar_children_listed :
    ∀ (self : ObjId) (h : Heap) (leading title : Option ObjId) (ids : List ObjId),
      (h self).fields (AppBar.field "leading") = some (leading.elim .none .control) →
      (h self).fields (AppBar.field "title") = some (title.elim .none .control) →
      (h self).fields (AppBar.field "actions") = some (.list (ids.map .control)) →
      AppBar.getChildren self h = .ok ((leading.toList ++ title.toList ++ ids).map .control)
        (((h.tagAll leading.toList "leading").tagAll title.toList "title").tagAll ids "action") :=
  fun _ _ _ _ _ => AppBar.getChildren_of_controls

/-- `AppBar(leading=a, actions=[b, c])` for controls `a`, `b`, `c`, as object 0
of a fresh heap: it lists `a`, `b`, `c` in this order. -/
theorem appBar_children_listed_after_init :
    AppBar.getChildren 0 (heapOf (AppBar.init 0
        { leading := .control 1, actions := .list [.control 2, .control 3] } fun _ => .fresh)) =
      .ok ([1, 2, 3].map .control)
        ((((heapOf (AppBar.init 0
            { leading := .control 1, actions := .list [.control 2, .control 3] }
            fun _ => .fresh)).tagAll [1] "leading").tagAll [] "title").tagAll [2, 3] "action") :=
  appBar_children_listed 0 _ (some 1) none [2, 3] rfl rfl rfl

end Flet
