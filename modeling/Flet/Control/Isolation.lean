import Flet.Control.Class
import Flet.Control.Hooks

namespace Flet

/-! Controls share one heap and refer to each other: a child is the value
`.control id`. The code of a class runs for one object `self`. Of the other
objects it changes at most the internal attribute "n" that a children listing
sets on each child, and nothing it does depends on the "n" of `self`. -/

/-- Two states of an object that differ at most in the marker "n". -/
def Obj.Alike (o o' : Obj) : Prop := ∀ slot, slot ≠ .attr "n" → o.read slot = o'.read slot

namespace Obj.Alike

variable {o o' o'' : Obj}

theorem refl (o : Obj) : Obj.Alike o o := fun _ _ => rfl

theorem symm (alike : Obj.Alike o o') : Obj.Alike o' o := fun slot hs => (alike slot hs).symm

theorem trans (first : Obj.Alike o o') (second : Obj.Alike o' o'') : Obj.Alike o o'' :=
  fun slot hs => (first slot hs).trans (second slot hs)

theorem of_touches (touches : Touches [.attr "n"] o o') : Obj.Alike o' o :=
  fun slot hs => touches.slots slot fun named => hs (List.mem_singleton.1 named)

theorem fields (alike : Obj.Alike o o') (name : PyName) : o.fields name = o'.fields name :=
  alike (.field name) Slot.noConfusion

theorem visible (alike : Obj.Alike o o') (codec : Codec) :
    Control.visible codec o = Control.visible codec o' := by
  have same : o.attrs "visible" = o'.attrs "visible" :=
    alike (.attr "visible") (by decide)
  simp only [Control.visible, Control.getAttr, same]

theorem get (alike : Obj.Alike o o') {p : Property} (unnamed : p.reads ≠ .attr "n")
    (codec : Codec) : p.get codec o = p.get codec o' :=
  p.get_congr codec (alike _ unnamed)

theorem setAttr (alike : Obj.Alike o o') (key : String) (value : Option Value) :
    Obj.Alike (o.setAttr key value) (o'.setAttr key value) := by
  intro slot hs
  cases slot with
  | attr k =>
      by_cases same : k = key
      · subst same
        simp [Obj.setAttr]
      · simpa [Obj.setAttr, Function.update_noteq same] using alike _ hs
  | field => exact alike _ hs
  | handler => exact alike _ hs

theorem setField (alike : Obj.Alike o o') (name : PyName) (value : Value) :
    Obj.Alike (o.setField name value) (o'.setField name value) := by
  intro slot hs
  cases slot with
  | field other =>
      by_cases same : other = name
      · subst same
        simp [Obj.setField]
      · simpa [Obj.setField, Function.update_noteq same] using alike _ hs
  | attr => exact alike _ hs
  | handler => exact alike _ hs

theorem setHandler (alike : Obj.Alike o o') (event : String) (value : Option Value) :
    Obj.Alike (o.setHandler event value) (o'.setHandler event value) := by
  intro slot hs
  cases slot with
  | handler other =>
      by_cases same : other = event
      · subst same
        simp [Obj.setHandler]
      · simpa [Obj.setHandler, Function.update_noteq same] using alike _ hs
  | field => exact alike _ hs
  | attr => exact alike _ hs

end Obj.Alike

/-- Two heaps that differ at most in the marker "n" of the object `owner`. -/
structure HeapAlike (owner : ObjId) (h h' : Heap) : Prop where
  owner_alike : Obj.Alike (h owner) (h' owner)
  others : ∀ other, other ≠ owner → h other = h' other

namespace HeapAlike

variable {self : ObjId} {h h' : Heap}

theorem obj (alike : HeapAlike self h h') (id : ObjId) : Obj.Alike (h id) (h' id) := by
  by_cases same : id = self
  · exact same ▸ alike.owner_alike
  · rw [alike.others id same]
    exact Obj.Alike.refl _

theorem update (alike : HeapAlike self h h') (id : ObjId) {f : Obj → Obj}
    (keeps : ∀ {o o'}, Obj.Alike o o' → Obj.Alike (f o) (f o')) :
    HeapAlike self (h.update id f) (h'.update id f) := by
  refine ⟨?_, fun other hne => ?_⟩
  · by_cases same : self = id
    · subst same
      simpa using keeps alike.owner_alike
    · simpa [Heap.update_other _ _ same] using alike.owner_alike
  · by_cases same : other = id
    · subst same
      simp [alike.others other hne]
    · simp [Heap.update_other _ _ same, alike.others other hne]

theorem replace (h : Heap) {o : Obj} (alike : Obj.Alike (h self) o) :
    HeapAlike self h (Function.update h self o) :=
  ⟨by simpa using alike, fun _ hne => (Function.update_noteq hne _ _).symm⟩

end HeapAlike

/-- The outcomes of one piece of code run on two heaps alike at `self`: the
same value returned or the same exception raised, in heaps alike at `self`. -/
def ResultAlike {α : Type} (self : ObjId) :
    EStateM.Result PyError Heap α → EStateM.Result PyError Heap α → Prop
  | .ok a h, .ok a' h' => a = a' ∧ HeapAlike self h h'
  | .error e h, .error e' h' => e = e' ∧ HeapAlike self h h'
  | _, _ => False

theorem ResultAlike.heapOf {α : Type} {self : ObjId} :
    ∀ {r r' : EStateM.Result PyError Heap α}, ResultAlike self r r' →
      HeapAlike self (Flet.heapOf r) (Flet.heapOf r')
  | .ok _ _, .ok _ _, alike | .error _ _, .error _ _, alike => alike.2

theorem ResultAlike.returns {α : Type} {self : ObjId} {r : EStateM.Result PyError Heap α} {a : α}
    {h' : Heap} (alike : ResultAlike self r (.ok a h')) : ∃ h, r = .ok a h := by
  cases r with
  | ok a' h => exact ⟨h, by rw [alike.1]⟩
  | error => exact alike.elim

/-- Code run for the object `owner` that changes every other object at most in
the slots `others`, and whose outcome does not depend on the marker "n" of
`owner`, whether it returns or raises. -/
structure Local {α : Type} (owner : ObjId) (others : List Slot) (prog : PyM α) : Prop where
  spares : ∀ h other, other ≠ owner → Touches others (h other) (heapOf (prog h) other)
  unmarked : ∀ h h', HeapAlike owner h h' → ResultAlike owner (prog h) (prog h')

namespace Local

variable {α β : Type} {self : ObjId} {others : List Slot}

theorem pure (a : α) : Local self others (Pure.pure a : PyM α) :=
  ⟨fun h other _ => Touches.refl others (h other), fun _ _ alike => ⟨rfl, alike⟩⟩

theorem raise (error : PyError) : Local self others (Flet.raise error : PyM α) :=
  ⟨fun h other _ => Touches.refl others (h other), fun _ _ alike => ⟨rfl, alike⟩⟩

theorem bind {x : PyM α} {f : α → PyM β} (first : Local self others x)
    (rest : ∀ a, Local self others (f a)) : Local self others (x >>= f) where
  spares h other hne := by
    cases run : x h with
    | ok a h₁ =>
        rw [bind_of_ok run]
        have head : Touches others (h other) (h₁ other) := by
          simpa [run] using first.spares h other hne
        exact head.trans ((rest a).spares h₁ other hne)
    | error e h₁ =>
        rw [bind_of_error run]
        simpa [run] using first.spares h other hne
  unmarked h h' alike := by
    have head := first.unmarked h h' alike
    cases run : x h <;> cases run' : x h' <;> rw [run, run'] at head <;>
      simp only [ResultAlike] at head
    case ok.ok =>
      obtain ⟨rfl, alike₁⟩ := head
      rw [bind_of_ok run, bind_of_ok run']
      exact (rest _).unmarked _ _ alike₁
    case error.error =>
      rw [bind_of_error run, bind_of_error run']
      exact head

theorem mono {others' : List Slot} {prog : PyM α} (sub : others ⊆ others')
    (isLocal : Local self others prog) : Local self others' prog :=
  ⟨fun h other hne => (isLocal.spares h other hne).mono sub, isLocal.unmarked⟩

theorem ite {c : Prop} [Decidable c] {x y : PyM α} (yes : Local self others x)
    (no : Local self others y) : Local self others (if c then x else y) := by
  split
  · exact yes
  · exact no

theorem of_update {prog : PyM α} {a : α} {f : Obj → Obj}
    (run : ∀ h, prog h = .ok a (h.update self f))
    (keeps : ∀ {o o'}, Obj.Alike o o' → Obj.Alike (f o) (f o')) : Local self others prog where
  spares h other hne := by
    rw [run, heapOf_ok, Heap.update_other _ _ hne]
    exact Touches.refl others (h other)
  unmarked h h' alike := by
    rw [run, run]
    exact ⟨rfl, alike.update self keeps⟩

theorem pyAssert (condition : Bool) (message : String) :
    Local self others (Flet.pyAssert condition message) := by
  cases condition
  · exact raise _
  · exact pure ()

theorem fromExcept (result : Except PyError α) : Local self others (Flet.fromExcept result) := by
  cases result
  · exact raise _
  · exact pure _

theorem iter (value : Value) : Local self others value.iter := by
  unfold Value.iter
  split
  · exact pure _
  · exact pure _
  · exact raise _

theorem getField (owner : ObjId) (name : PyName) :
    Local self others (Flet.getField owner name) where
  spares h other _ := by
    unfold Flet.getField
    split <;> exact Touches.refl others (h other)
  unmarked h h' alike := by
    unfold Flet.getField
    rw [(alike.obj owner).fields name]
    split <;> exact ⟨rfl, alike⟩

theorem visible (codec : Codec) (target : Value) : Local self others (target.visible codec) where
  spares h other _ := by
    cases target
    all_goals exact Touches.refl others (h other)
  unmarked h h' alike := by
    cases target
    case control id => exact ⟨(alike.obj id).visible codec, alike⟩
    all_goals exact ⟨rfl, alike⟩

theorem setField (name : PyName) (value : Value) :
    Local self others (Flet.setField self name value) :=
  of_update (fun _ => rfl) fun alike => alike.setField name value

theorem setAttr (key : String) (value : Value) :
    Local self others (Control.setAttr self key value) :=
  of_update (fun _ => rfl) fun alike => alike.setAttr key _

theorem setAttrJson (codec : Codec) (key : String) (value : Value) :
    Local self others (Control.setAttrJson codec self key value) :=
  setAttr _ _

theorem addEventHandler (event : String) (handler : Value) :
    Local self others (Control.addEventHandler self event handler) :=
  of_update (fun _ => rfl) fun alike => alike.setHandler event _

theorem setAttrJsonIfInstance (codec : Codec) (cls : ValueClass) (key : String)
    (name : PyName) : Local self others (Flet.setAttrJsonIfInstance codec self cls key name) :=
  bind (getField _ _) fun _ => ite (bind (getField _ _) fun _ => setAttrJson codec _ _) (pure _)

theorem flattenJson (codec : Codec) :
    ∀ keys, Local self others (Flet.flattenJson codec self keys)
  | [] => pure _
  | _ :: rest =>
      bind (getField _ _) fun _ =>
        bind (ite (setAttrJson codec _ _) (pure _)) fun _ => flattenJson codec rest

theorem flattening {pass : Codec → ObjId → PyM Unit} {keys : List JsonKey}
    (eq : ∀ codec self, pass codec self = Flet.flattenJson codec self keys) :
    ∀ codec self, Local self others (pass codec self) :=
  fun codec self => eq codec self ▸ flattenJson codec keys

theorem setAttrInternal (target tag : Value) :
    Local self [.attr "n"] (target.setAttrInternal "n" tag) where
  spares h other _ := by
    cases target with
    | control id =>
        by_cases same : other = id
        · subst same
          simpa [Value.setAttrInternal, Control.setAttrInternal, Control.setAttr]
            using Touches.setAttr "n" tag.toOption (h other)
        · simpa [Value.setAttrInternal, Control.setAttrInternal, Control.setAttr, same]
            using Touches.refl [.attr "n"] (h other)
    | _ => exact Touches.refl _ (h other)
  unmarked h h' alike := by
    cases target with
    | control id => exact ⟨rfl, alike.update id fun alike => alike.setAttr "n" _⟩
    | _ => exact ⟨rfl, alike⟩

theorem appendIfTruthy (tag : String) (children : List Value) (child : Value) :
    Local self [.attr "n"] (Flet.appendIfTruthy tag children child) := by
  unfold Flet.appendIfTruthy
  exact ite (bind (setAttrInternal _ _) fun _ => pure _) (pure _)

theorem appendIfSome (tag : String) (children : List Value) (child : Value) :
    Local self [.attr "n"] (Flet.appendIfSome tag children child) := by
  unfold Flet.appendIfSome
  split
  · exact pure _
  · exact bind (setAttrInternal _ _) fun _ => pure _

theorem contentChildren (name : PyName) :
    Local self [.attr "n"] (Flet.contentChildren name self) :=
  bind (getField _ _) fun _ => appendIfSome _ _ _

theorem appendTagged (tag : String) :
    ∀ children items, Local self [.attr "n"] (Flet.appendTagged tag children items)
  | _, [] => pure _
  | _, _ :: rest => bind (setAttrInternal _ _) fun _ => appendTagged tag _ rest

end Local

namespace Property

/-- A setter that is local to its object. -/
def Local (p : Property) : Prop := ∀ self value, Flet.Local self [] (p.set self value)

theorem ofAttr_local (key dataType : String) (defValue : Value) :
    (ofAttr key dataType defValue).Local :=
  fun _ _ => Local.setAttr _ _

theorem ofStoredField_local (name : PyName) (stored : Value → Value) :
    (ofStoredField name stored).Local :=
  fun _ _ => Local.setField _ _

theorem ofField_local (name : PyName) : (ofField name).Local := ofStoredField_local _ _

theorem ofEnumField_local (name : PyName) (key : String) (enumType : EnumClass) :
    (ofEnumField name key enumType).Local :=
  fun _ _ => Local.bind (Local.setField _ _) fun _ => Local.setAttr _ _

theorem ofCheckedAttr_local (key dataType : String) (defValue : Value)
    (check : Value → Except PyError Bool) (message : String) :
    (ofCheckedAttr key dataType defValue check message).Local :=
  fun _ _ => Local.bind (Local.fromExcept _) fun _ =>
    Local.bind (Local.pyAssert _ _) fun _ => Local.setAttr _ _

theorem Built.local {p : Property} : p.Built → p.Local
  | .ofAttr key dataType defValue => ofAttr_local key dataType defValue
  | .ofField name => ofField_local name
  | .ofStoredField name _ => ofStoredField_local name _
  | .ofEnumField name key enumType => ofEnumField_local name key enumType
  | .ofCheckedAttr key dataType defValue check message =>
      ofCheckedAttr_local key dataType defValue check message

end Property

theorem assignAll_local {self : ObjId} :
    ∀ {assignments : List (Property × Value)}, (∀ pair ∈ assignments, pair.1.Local) →
      Local self [] (assignAll self assignments)
  | [], _ => Local.pure ()
  | (_, value) :: _, setters =>
      Local.bind (setters _ (List.mem_cons_self _ _) self value) fun _ =>
        assignAll_local fun pair later => setters pair (List.mem_cons_of_mem _ later)

/-- The code of a class is local to its object, the children listing changing
its children in the marker "n"; and no getter of the class reads "n". -/
structure ControlClass.Isolated (C : ControlClass) : Prop where
  init : ∀ self args, Local self [] (C.init self args)
  properties : ∀ p ∈ C.properties, p.Local
  passes : ∀ pass ∈ C.passes, ∀ codec self, Local self [] (pass codec self)
  getChildren : ∀ self, Local self [.attr "n"] (C.getChildren self)
  unnamed : ∀ p ∈ C.properties, p.reads ≠ .attr "n"

end Flet
