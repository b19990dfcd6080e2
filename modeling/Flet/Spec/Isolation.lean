import Flet.Control.Heap
import Flet.Controls.AlertDialog
import Flet.Controls.AppBar
import Flet.Controls.AutoComplete
import Flet.Controls.Badge
import Flet.Controls.BottomAppBar
import Flet.Controls.Card
import Flet.Controls.CupertinoTextField
import Flet.Controls.SafeArea

namespace Flet

/-! Controls in one heap (spec 4.3: a parent refers to its children, and its
children listing marks each with its role in "n"). What holds of one control
of a class holds of it among others. -/

/-- The control classes of the model. -/
def modelledClasses : List ControlClass :=
  [AlertDialog.controlClass, ConstrainedControl.controlClass, AppBar.controlClass,
    Badge.controlClass, BottomAppBar.controlClass, Card.controlClass, SafeArea.controlClass,
    AutoComplete.controlClass, CupertinoTextField.controlClass]

theorem modelledClasses_isolated : ∀ C ∈ modelledClasses, C.Isolated := by
  simp only [modelledClasses, List.forall_mem_cons, List.not_mem_nil, false_implies,
    implies_true, and_true]
  exact ⟨AlertDialog.isolated, ConstrainedControl.isolated, AppBar.isolated, Badge.isolated,
    BottomAppBar.isolated, Card.isolated, SafeArea.isolated, AutoComplete.isolated,
    CupertinoTextField.isolated⟩

/-- The classes whose pre-serialization passes complete in every reachable state. -/
def completingClasses : List ControlClass :=
  [ConstrainedControl.controlClass, AppBar.controlClass, Badge.controlClass,
    BottomAppBar.controlClass, Card.controlClass, AutoComplete.controlClass,
    CupertinoTextField.controlClass]

theorem completingClasses_complete : ∀ C ∈ completingClasses, ∀ pass ∈ C.passes,
    ∀ codec self (h : Heap), C.Reachable self (h self) →
      ∃ h', pass codec self h = .ok () h' := by
  simp only [completingClasses, List.forall_mem_cons, List.not_mem_nil, false_implies,
    implies_true, and_true]
  exact ⟨List.forall_mem_singleton.2 fun codec _ _ =>
      ConstrainedControl.beforeUpdate_completes codec,
    List.forall_mem_singleton.2 fun codec _ _ => AppBar.beforeUpdate_completes codec,
    List.forall_mem_singleton.2 fun codec _ _ => Badge.beforeUpdate_completes codec,
    List.forall_mem_singleton.2 fun codec _ _ => BottomAppBar.beforeUpdate_completes codec,
    List.forall_mem_singleton.2 fun codec _ _ => Card.beforeUpdate_completes codec,
    List.forall_mem_singleton.2 fun codec _ _ => AutoComplete.beforeUpdate_completes codec,
    List.forall_mem_cons.2 ⟨fun codec _ _ => CupertinoTextField.beforeUpdate_completes codec,
      List.forall_mem_singleton.2 fun codec _ _ =>
        CupertinoTextField.beforeBuildCommand_completes codec⟩⟩

variable {classOf : ObjId → ControlClass}

/-- Calls on other controls of the modelled classes (constructors, setters,
pre-serialization passes and children listings, in any order, each returning
or raising) change a control at most in its marker "n" and keep every instance
attribute it had, so that its getters read as before. -/
theorem calls_on_other_controls_keep_getters (modelled : ∀ b, classOf b ∈ modelledClasses)
    {b : ObjId} {calls : List (ObjCall classOf)} (others : ∀ c ∈ calls, c.obj ≠ b)
    (codec : Codec) (state : Heap × List ObjId) :
    Touches [.attr "n"] (state.1 b) ((runCalls calls state).1 b) ∧
      ∀ p ∈ (classOf b).properties,
        p.get codec ((runCalls calls state).1 b) = p.get codec (state.1 b) := by
  have isolated := fun b => modelledClasses_isolated _ (modelled b)
  have touches := runCalls_spares state fun c member => ⟨isolated c.obj, others c member⟩
  exact ⟨touches, fun p member =>
    (Obj.Alike.of_touches touches).get ((isolated b).unnamed p member) codec⟩

/-- Calls on a `Badge` 0 whose content is the control 1: its constructor, then
its children listing. -/
def parentCalls : List (ObjCall fun _ => Badge.controlClass) :=
  [⟨0, .init { content := .control 1 }⟩, ⟨0, .getChildren⟩]

/-- The children listing of the parent marks the child 1, and leaves its
getters as they were. -/
theorem parent_listing_keeps_child_getters :
    Touches [.attr "n"] Obj.fresh ((runCalls parentCalls (fun _ => .fresh, [])).1 1) ∧
      ∀ p ∈ Badge.properties,
        p.get ⟨fun _ => "", fun _ s => .str s⟩
            ((runCalls parentCalls (fun _ => .fresh, [])).1 1) =
          p.get ⟨fun _ => "", fun _ s => .str s⟩ Obj.fresh :=
  @calls_on_other_controls_keep_getters _ (fun _ => by simp [modelledClasses]) 1 parentCalls
    (by simp [parentCalls]) _ (fun _ => .fresh, [])

/-- A control built by a run on a heap of modelled controls, each constructor
called on a new object, is alike a state its class reaches. -/
theorem built_alike_reachable (modelled : ∀ b, classOf b ∈ modelledClasses)
    {calls : List (ObjCall classOf)} (fresh : FreshInits [] calls) {b : ObjId}
    (built : b ∈ (runCalls calls (fun _ => .fresh, [])).2) :
    ∃ o, (classOf b).Reachable b o ∧ Obj.Alike ((runCalls calls (fun _ => .fresh, [])).1 b) o :=
  let ⟨_, wf⟩ := Wellformed.run (fun b => modelledClasses_isolated _ (modelled b)) fresh
    Wellformed.empty
  wf.built b built

/-- In every run of calls on a heap of controls of the modelled classes, each
constructor called on a new object: every control whose constructor returned
is, but for its marker "n", in a state its class reaches on its own; its
getters read as they read there, and every further call on it returns or
raises as it does there. -/
theorem built_controls_stay_reachable (modelled : ∀ b, classOf b ∈ modelledClasses)
    {calls : List (ObjCall classOf)} (fresh : FreshInits [] calls) :
    ∀ b ∈ (runCalls calls (fun _ => .fresh, [])).2, ∃ o, (classOf b).Reachable b o ∧
      Obj.Alike ((runCalls calls (fun _ => .fresh, [])).1 b) o ∧
      (∀ p ∈ (classOf b).properties, ∀ codec,
        p.get codec ((runCalls calls (fun _ => .fresh, [])).1 b) = p.get codec o) ∧
      ∀ call : (classOf b).Call,
        ResultAlike b (call.run b (runCalls calls (fun _ => .fresh, [])).1)
        (call.run b (Function.update (runCalls calls (fun _ => .fresh, [])).1 b o)) := by
  intro b built
  have isolated := modelledClasses_isolated _ (modelled b)
  obtain ⟨o, reachable, alike⟩ := built_alike_reachable modelled fresh built
  exact ⟨o, reachable, alike, fun p member codec => alike.get (isolated.unnamed p member) codec,
    fun call => isolated.run_alike call alike⟩

/-- The `Badge` 1 built, then the calls on its parent 0, then a setter on 1. -/
def nestedBadges : List (ObjCall fun _ => Badge.controlClass) :=
  ⟨1, .init {}⟩ :: parentCalls ++ [⟨1, .set ⟨1, by decide⟩ (.str "new")⟩]

/-- Both badges are built, and each is alike a state its class reaches. -/
theorem nested_badges_stay_reachable :
    (runCalls nestedBadges (fun _ => .fresh, [])).2 = [0, 1] ∧
      ∀ b ∈ (runCalls nestedBadges (fun _ => .fresh, [])).2,
        ∃ o, Badge.controlClass.Reachable b o ∧
        Obj.Alike ((runCalls nestedBadges (fun _ => .fresh, [])).1 b) o ∧
        (∀ p ∈ Badge.properties, ∀ codec,
          p.get codec ((runCalls nestedBadges (fun _ => .fresh, [])).1 b) = p.get codec o) ∧
        ∀ call : Badge.controlClass.Call,
          ResultAlike b (call.run b (runCalls nestedBadges (fun _ => .fresh, [])).1)
            (call.run b (Function.update (runCalls nestedBadges (fun _ => .fresh, [])).1 b o)) :=
  ⟨rfl, @built_controls_stay_reachable _ (fun _ => by simp [modelledClasses]) nestedBadges
    (by simp [nestedBadges, parentCalls, FreshInits, ControlClass.Call.isInit])⟩

/-- In every run of calls on a heap of controls of the modelled classes, each
constructor called on a new object, the pre-serialization passes of every
built `ConstrainedControl`, `AppBar`, `Badge`, `BottomAppBar`, `Card`,
`AutoComplete` and `CupertinoTextField` complete on the heap the run leaves. -/
theorem passes_complete_in_heaps (modelled : ∀ b, classOf b ∈ modelledClasses)
    {calls : List (ObjCall classOf)} (fresh : FreshInits [] calls) {b : ObjId}
    (built : b ∈ (runCalls calls (fun _ => .fresh, [])).2)
    (completing : classOf b ∈ completingClasses) :
    ∀ pass ∈ (classOf b).passes, ∀ codec,
      ∃ h', pass codec b (runCalls calls (fun _ => .fresh, [])).1 = .ok () h' := by
  intro pass member codec
  obtain ⟨o, reachable, alike⟩ := built_alike_reachable modelled fresh built
  obtain ⟨h₀, run⟩ := completingClasses_complete _ completing pass member codec b
    (Function.update _ b o) (by simpa using reachable)
  have same := ((modelledClasses_isolated _ (modelled b)).passes pass member codec b).unmarked _ _
    (HeapAlike.replace _ alike)
  rw [run] at same
  exact same.returns

/-- The pass of the parent badge completes on the heap the calls leave. -/
theorem nested_badges_pass_completes :
    ∃ h', Badge.beforeUpdate ⟨fun _ => "", fun _ s => .str s⟩ 0
      (runCalls nestedBadges (fun _ => .fresh, [])).1 = .ok () h' :=
  @passes_complete_in_heaps _ (fun _ => by simp [modelledClasses]) nestedBadges
    (by simp [nestedBadges, parentCalls, FreshInits, ControlClass.Call.isInit]) 0 (by decide)
    (by simp [completingClasses]) Badge.beforeUpdate (List.mem_singleton_self _) _

end Flet
