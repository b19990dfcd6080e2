import Flet.Control.Property

namespace Flet

/-! The recurring pieces of the hooks: the guarded JSON flattening of
`before_update` (spec 4.2), and the loops of `_get_children`, where each child
that is present gets the relationship marker `n` (spec 4.3) and is appended. -/

/-- `if isinstance(self.__f, cls): self._set_attr_json(key, self.__f)`. -/
def setAttrJsonIfInstance (codec : Codec) (self : ObjId) (cls : ValueClass) (key : String)
    (name : PyName) : PyM Unit := do
  if (← getField self name).isInstance cls then
    Control.setAttrJson codec self key (← getField self name)

/-- A wire key a pass writes from an instance attribute: the pass reads the
field and, when `guard` admits its value, stores the JSON encoding of `shown`
of the value under `key`. -/
structure JsonKey where
  key : String
  name : PyName
  guard : Value → Bool
  shown : Value → Value

namespace JsonKey

/-- `self._set_attr_json(key, self.__f)`. -/
def plain (key : String) (name : PyName) : JsonKey := ⟨key, name, fun _ => true, id⟩

/-- `if isinstance(self.__f, cls): self._set_attr_json(key, self.__f)`. -/
def ifInstance (cls : ValueClass) (key : String) (name : PyName) : JsonKey :=
  ⟨key, name, Value.isInstance cls, id⟩

/-- The step of `k` once it has read `value`. -/
def write (k : JsonKey) (codec : Codec) (self : ObjId) (value : Value) : PyM Unit :=
  if k.guard value then Control.setAttrJson codec self k.key (k.shown value) else pure ()

/-- The heap after the step of `k` has read `value`. -/
def store (k : JsonKey) (codec : Codec) (self : ObjId) (value : Value) (h : Heap) : Heap :=
  if k.guard value then h.update self (·.setAttr k.key (codec.encode (k.shown value))) else h

/-- What the step of `k` leaves in an object: the field holds a value, and when
the guard admits it, the key holds the encoding of what the step shows of it. -/
def Holds (codec : Codec) (o : Obj) (k : JsonKey) : Prop :=
  ∃ value, o.fields k.name = some value ∧
    (k.guard value = true → o.attrs k.key = codec.encode (k.shown value))

end JsonKey

/-- The wire keys a list of steps writes. -/
def jsonSlots (keys : List JsonKey) : List Slot := keys.map (.attr ·.key)

/-- The JSON steps of a pre-serialization pass, in order. -/
def flattenJson (codec : Codec) (self : ObjId) : List JsonKey → PyM Unit
  | [] => pure ()
  | k :: rest => do
      k.write codec self (← getField self k.name)
      flattenJson codec self rest

theorem flattenJson_append (codec : Codec) (self : ObjId) :
    ∀ first second : List JsonKey, flattenJson codec self (first ++ second) =
      (do flattenJson codec self first; flattenJson codec self second)
  | [], second => by simp [flattenJson]
  | _ :: rest, second => by simp [flattenJson, flattenJson_append codec self rest second]

/-- `if child: child._set_attr_internal("n", tag); children.append(child)`. -/
def appendIfTruthy (tag : String) (children : List Value) (child : Value) : PyM (List Value) :=
  if child.truthy then do
    child.setAttrInternal "n" (.str tag)
    pure (children ++ [child])
  else pure children

/-- `if child is not None: child._set_attr_internal("n", tag); children.append(child)`. -/
def appendIfSome (tag : String) (children : List Value) (child : Value) : PyM (List Value) :=
  match child with
  | .none => pure children
  | child => do
      child.setAttrInternal "n" (.str tag)
      pure (children ++ [child])

/-- `for child in items: child._set_attr_internal("n", tag); children.append(child)`. -/
def appendTagged (tag : String) : List Value → List Value → PyM (List Value)
  | children, [] => pure children
  | children, child :: rest => do
      child.setAttrInternal "n" (.str tag)
      appendTagged tag (children ++ [child]) rest

/-- `_get_children` of a control with one optional child `self.__content`:
`if self.__content is not None: self.__content._set_attr_internal("n",
"content"); return [self.__content]`, and `[]` otherwise. -/
def contentChildren (name : PyName) (self : ObjId) : PyM (List Value) := do
  appendIfSome "content" [] (← getField self name)

/-- The heap after `child._set_attr_internal("n", tag)` on the control `id`. -/
def Heap.tag (h : Heap) (id : ObjId) (tag : String) : Heap :=
  h.update id (·.setAttr "n" (some (.str tag)))

/-- The heap after tagging each control of `ids` in turn. -/
def Heap.tagAll (h : Heap) (ids : List ObjId) (tag : String) : Heap :=
  ids.foldl (fun h id => h.tag id tag) h

@[simp] theorem Heap.tag_fields (h : Heap) (id other : ObjId) (tag : String) :
    (h.tag id tag other).fields = (h other).fields := by
  by_cases same : other = id
  · subst same; simp [Heap.tag]
  · simp [Heap.tag, same]

@[simp] theorem Heap.tagAll_fields (ids : List ObjId) (tag : String) :
    ∀ (h : Heap) (other : ObjId), (h.tagAll ids tag other).fields = (h other).fields := by
  induction ids with
  | nil => intro h other; rfl
  | cons id rest ih =>
      intro h other
      rw [Heap.tagAll, List.foldl_cons, ← Heap.tagAll, ih, Heap.tag_fields]

section Children

variable {tag : String} {children : List Value} {id : ObjId} {h : Heap}

theorem setAttrInternal_tag :
    (Value.control id).setAttrInternal "n" (.str tag) h = .ok () (h.tag id tag) := rfl

@[simp] theorem appendIfSome_none : appendIfSome tag children .none h = .ok children h := rfl

@[simp] theorem appendIfSome_control :
    appendIfSome tag children (.control id) h = .ok (children ++ [.control id]) (h.tag id tag) :=
  rfl

@[simp] theorem appendIfTruthy_none : appendIfTruthy tag children .none h = .ok children h := rfl

@[simp] theorem appendIfTruthy_control :
    appendIfTruthy tag children (.control id) h = .ok (children ++ [.control id]) (h.tag id tag) :=
  rfl

theorem appendIfTruthy_option (slot : Option ObjId) :
    appendIfTruthy tag children (slot.elim .none .control) h =
      .ok (children ++ slot.toList.map .control) (h.tagAll slot.toList tag) := by
  cases slot <;> simp [Heap.tagAll]

theorem appendTagged_controls (tag : String) : ∀ (children : List Value) (ids : List ObjId)
    (h : Heap), appendTagged tag children (ids.map .control) h =
      .ok (children ++ ids.map .control) (h.tagAll ids tag)
  | _, [], _ => by simp [appendTagged, Heap.tagAll]
  | children, id :: rest, h => by
      simp only [List.map_cons, appendTagged]
      rw [bind_of_ok setAttrInternal_tag, appendTagged_controls tag _ rest]
      simp [Heap.tagAll]

end Children

namespace Confined

variable {self : ObjId} {writes : List Slot}

theorem ite {α : Type} {c : Prop} [Decidable c] {x y : PyM α} (yes : Confined self writes x)
    (no : Confined self writes y) : Confined self writes (if c then x else y) := by
  split
  · exact yes
  · exact no

theorem iter (value : Value) : Confined self writes value.iter := by
  unfold Value.iter
  split
  · exact pure _
  · exact pure _
  · exact raise _

theorem setAttrJsonIfInstance (codec : Codec) {key : String} (member : .attr key ∈ writes)
    (cls : ValueClass) (name : PyName) :
    Confined self writes (Flet.setAttrJsonIfInstance codec self cls key name) :=
  bind (getField _ _) fun _ =>
    ite (bind (getField _ _) fun _ => setAttrJson codec member _) (pure _)

theorem setAttrInternal (member : .attr "n" ∈ writes) (target tag : Value) :
    Confined self writes (target.setAttrInternal "n" tag) := by
  intro h
  match target with
  | .control id =>
      by_cases same : id = self
      · subst same
        exact Confined.setAttr member tag h
      · simpa [Value.setAttrInternal, Control.setAttrInternal, Ne.symm same]
          using Touches.refl writes (h self)
  | .none | .bool _ | .num _ | .str _ | .list _ | .object _ _ | .member _ _ | .callable _ =>
      exact Touches.refl writes (h self)

theorem flattenJson (codec : Codec) :
    ∀ keys, Confined self (jsonSlots keys) (Flet.flattenJson codec self keys)
  | [] => pure _
  | _ :: rest =>
      bind (getField _ _) fun _ =>
        bind (ite (setAttrJson codec (by simp [jsonSlots]) _) (pure _)) fun _ =>
          (flattenJson codec rest).mono (by simp [jsonSlots])

theorem appendIfTruthy (member : .attr "n" ∈ writes) (tag : String)
    (children : List Value) (child : Value) :
    Confined self writes (Flet.appendIfTruthy tag children child) := by
  unfold Flet.appendIfTruthy
  split
  · exact bind (setAttrInternal member _ _) fun _ => pure _
  · exact pure _

theorem appendIfSome (member : .attr "n" ∈ writes) (tag : String)
    (children : List Value) (child : Value) :
    Confined self writes (Flet.appendIfSome tag children child) := by
  unfold Flet.appendIfSome
  split
  · exact pure _
  · exact bind (setAttrInternal member _ _) fun _ => pure _

theorem contentChildren (member : .attr "n" ∈ writes) (name : PyName) :
    Confined self writes (Flet.contentChildren name self) :=
  bind (getField _ _) fun _ => appendIfSome member _ _ _

theorem appendTagged (member : .attr "n" ∈ writes) (tag : String) :
    ∀ children items, Confined self writes (Flet.appendTagged tag children items)
  | _, [] => pure _
  | _, _ :: rest => bind (setAttrInternal member _ _) fun _ => appendTagged member tag _ rest

theorem flattening {pass : Codec → ObjId → PyM Unit} {keys : List JsonKey}
    (eq : ∀ codec self, pass codec self = Flet.flattenJson codec self keys)
    (covered : jsonSlots keys ⊆ writes) :
    ∀ codec self, Confined self writes (pass codec self) :=
  fun codec self => eq codec self ▸ (flattenJson codec keys).mono covered

end Confined

theorem Heap.update_setAttr_same {h : Heap} {self : ObjId} {key : String}
    {value : Option Value} (same : (h self).attrs key = value) :
    h.update self (·.setAttr key value) = h := by
  funext other
  by_cases hother : other = self
  · subst hother
    cases hobj : h other
    simp_all [Obj.setAttr, ← same]
  · simp [hother]

section Flatten

variable {codec : Codec} {self : ObjId} {h h' : Heap} {k : JsonKey} {value : Value}

namespace JsonKey

@[simp] theorem store_fields (other : ObjId) :
    (k.store codec self value h other).fields = (h other).fields := by
  unfold store
  split
  · by_cases same : other = self
    · subst same; simp
    · simp [same]
  · rfl

theorem store_other {other : ObjId} (hne : other ≠ self) :
    k.store codec self value h other = h other := by
  unfold store
  split <;> simp [hne]

theorem store_of_holds
    (holds : k.guard value = true → (h self).attrs k.key = codec.encode (k.shown value)) :
    k.store codec self value h = h := by
  unfold store
  split
  · next admitted => exact Heap.update_setAttr_same (holds admitted)
  · rfl

theorem store_attrs_other {key : String} (hne : k.key ≠ key) :
    (k.store codec self value h self).attrs key = (h self).attrs key := by
  unfold store
  split
  · simp [Obj.setAttr, Function.update_noteq hne.symm]
  · rfl

theorem write_apply (h : Heap) :
    k.write codec self value h = .ok () (k.store codec self value h) := by
  unfold write store
  split
  · exact Control.setAttrJson_apply _ _ _ _ _
  · rfl

end JsonKey

theorem flattenJson_cons_of_some {rest : List JsonKey}
    (assigned : (h self).fields k.name = some value) :
    flattenJson codec self (k :: rest) h =
      flattenJson codec self rest (k.store codec self value h) := by
  simp only [flattenJson]
  rw [bind_of_ok (getField_of_some assigned), bind_of_ok (JsonKey.write_apply _)]

theorem flattenJson_cons_of_none {rest : List JsonKey}
    (unassigned : (h self).fields k.name = none) :
    flattenJson codec self (k :: rest) h = .error (.attributeError k.name) h := by
  simp only [flattenJson]
  rw [bind_of_error (getField_of_none unassigned)]

theorem flattenJson_ok : ∀ {keys : List JsonKey} {h : Heap},
    (∀ k ∈ keys, (h self).fields k.name ≠ none) →
      ∃ h', flattenJson codec self keys h = .ok () h'
  | [], h, _ => ⟨h, rfl⟩
  | k :: rest, h, assigned => by
      obtain ⟨value, stored⟩ :=
        Option.ne_none_iff_exists'.1 (assigned k (List.mem_cons_self _ _))
      rw [flattenJson_cons_of_some stored]
      exact flattenJson_ok fun k' member => by
        simpa using assigned k' (List.mem_cons_of_mem _ member)

theorem flattenJson_other : ∀ {keys : List JsonKey} {h h' : Heap},
    flattenJson codec self keys h = .ok () h' → ∀ other, other ≠ self → h' other = h other
  | [], _, _, run, _, _ => by simp_all [flattenJson]
  | k :: rest, h, h', run, other, hne => by
      cases stored : (h self).fields k.name with
      | none => simp [flattenJson_cons_of_none stored] at run
      | some value =>
          rw [flattenJson_cons_of_some stored] at run
          rw [flattenJson_other run other hne, JsonKey.store_other hne]

theorem flattenJson_fields : ∀ {keys : List JsonKey} {h h' : Heap},
    flattenJson codec self keys h = .ok () h' → (h' self).fields = (h self).fields
  | [], _, _, run => by simp_all [flattenJson]
  | k :: rest, h, h', run => by
      cases stored : (h self).fields k.name with
      | none => simp [flattenJson_cons_of_none stored] at run
      | some value =>
          rw [flattenJson_cons_of_some stored] at run
          rw [flattenJson_fields run, JsonKey.store_fields]

theorem flattenJson_attr_of_not_mem {keys : List JsonKey}
    (run : flattenJson codec self keys h = .ok () h') {key : String}
    (untouched : Slot.attr key ∉ jsonSlots keys) : (h' self).attrs key = (h self).attrs key := by
  have kept := ((Confined.flattenJson codec keys :
    Confined self _ (flattenJson codec self keys)) h).slots _ untouched
  rwa [run, heapOf_ok, Obj.read_attr, Obj.read_attr] at kept

theorem flattenJson_keeps_holds {keys : List JsonKey}
    (run : flattenJson codec self keys h = .ok () h')
    (untouched : Slot.attr k.key ∉ jsonSlots keys) (holds : k.Holds codec (h self)) :
    k.Holds codec (h' self) := by
  obtain ⟨value, stored, encoded⟩ := holds
  exact ⟨value, by rw [flattenJson_fields run, stored], fun admitted => by
    rw [flattenJson_attr_of_not_mem run untouched, encoded admitted]⟩

theorem flattenJson_holds : ∀ {keys : List JsonKey} {h h' : Heap},
    (keys.map (·.key)).Nodup → flattenJson codec self keys h = .ok () h' →
      ∀ k ∈ keys, k.Holds codec (h' self)
  | [], _, _, _, _, _, member => by simp at member
  | first :: rest, h, h', distinct, run, k, member => by
      cases stored : (h self).fields first.name with
      | none => simp [flattenJson_cons_of_none stored] at run
      | some value =>
          rw [flattenJson_cons_of_some stored] at run
          simp only [List.map_cons, List.nodup_cons] at distinct
          rcases List.mem_cons.1 member with rfl | later
          · have untouched : Slot.attr k.key ∉ jsonSlots rest := by
              simpa [jsonSlots] using distinct.1
            refine flattenJson_keeps_holds run untouched
              ⟨value, by simp [stored], fun admitted => ?_⟩
            simp [JsonKey.store, admitted]
          · exact flattenJson_holds distinct.2 run k later

theorem flattenJson_attr_none {keys : List JsonKey} (distinct : (keys.map (·.key)).Nodup)
    (run : flattenJson codec self keys h = .ok () h') (member : k ∈ keys)
    (stored : (h self).fields k.name = some value) (admitted : k.guard value = true)
    (nothing : k.shown value = .none) : (h' self).attrs k.key = none := by
  obtain ⟨_, stored', encoded⟩ := flattenJson_holds distinct run k member
  rw [flattenJson_fields run, stored, Option.some.injEq] at stored'
  subst stored'
  rw [encoded admitted, nothing, Codec.encode_none]

theorem flattenJson_attr_of_refused : ∀ {keys : List JsonKey} {h h' : Heap},
    (keys.map (·.key)).Nodup → flattenJson codec self keys h = .ok () h' → k ∈ keys →
      (h self).fields k.name = some value → k.guard value = false →
        (h' self).attrs k.key = (h self).attrs k.key
  | [], _, _, _, _, member, _, _ => by simp at member
  | first :: rest, h, h', distinct, run, member, stored, refused => by
      cases stored₁ : (h self).fields first.name with
      | none => simp [flattenJson_cons_of_none stored₁] at run
      | some value₁ =>
          rw [flattenJson_cons_of_some stored₁] at run
          simp only [List.map_cons, List.nodup_cons] at distinct
          rcases List.mem_cons.1 member with rfl | later
          · rw [stored, Option.some.injEq] at stored₁
            subst stored₁
            rw [JsonKey.store_of_holds fun admitted => by simp [refused] at admitted] at run
            exact flattenJson_attr_of_not_mem run (by simpa [jsonSlots] using distinct.1)
          · have other : first.key ≠ k.key := fun same =>
              distinct.1 (same ▸ List.mem_map_of_mem _ later)
            rw [flattenJson_attr_of_refused distinct.2 run later
              (by rw [JsonKey.store_fields]; exact stored) refused, JsonKey.store_attrs_other other]

theorem flattenJson_of_holds : ∀ {keys : List JsonKey} {h : Heap},
    (∀ k ∈ keys, k.Holds codec (h self)) → flattenJson codec self keys h = .ok () h
  | [], _, _ => rfl
  | k :: rest, h, holds => by
      obtain ⟨value, stored, encoded⟩ := holds k (List.mem_cons_self _ _)
      rw [flattenJson_cons_of_some stored, JsonKey.store_of_holds encoded]
      exact flattenJson_of_holds fun k' member => holds k' (List.mem_cons_of_mem _ member)

/-- A second flattening right after a completed one changes nothing. -/
theorem flattenJson_idem {keys : List JsonKey} (distinct : (keys.map (·.key)).Nodup)
    (run : flattenJson codec self keys h = .ok () h') :
    flattenJson codec self keys h' = .ok () h' :=
  flattenJson_of_holds (flattenJson_holds distinct run)

theorem setAttrJsonIfInstance_eq (codec : Codec) (self : ObjId) (cls : ValueClass) (key : String)
    (name : PyName) :
    setAttrJsonIfInstance codec self cls key name =
      flattenJson codec self [.ifInstance cls key name] := by
  funext h
  cases stored : (h self).fields name with
  | none =>
      simp only [setAttrJsonIfInstance, flattenJson, JsonKey.ifInstance,
        bind_of_error (getField_of_none stored)]
  | some value =>
      simp only [setAttrJsonIfInstance, flattenJson, JsonKey.ifInstance, JsonKey.write,
        bind_of_ok (getField_of_some stored)]
      split
      · rw [bind_of_ok (getField_of_some stored), bind_of_ok (Control.setAttrJson_apply ..),
          Control.setAttrJson_apply]
        rfl
      · rfl

end Flatten

end Flet
