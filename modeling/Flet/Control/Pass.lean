import Flet.Control.Hooks
import Flet.Control.Variables

namespace Flet

/-! The pre-serialization passes of a class as a whole (spec 4.2): what a pass
that completes leaves in the object, and in which reachable states a pass that
is a flattening completes. -/

namespace ControlClass

variable {C : ControlClass} {codec : Codec} {self : ObjId} {h h' : Heap}

theorem getters_unchanged {α : Type} {writes : List Slot} {prog : PyM α}
    (confined : Confined self writes prog) (unread : ∀ p ∈ C.properties, p.reads ∉ writes)
    (codec : Codec) (h : Heap) :
    ∀ p ∈ C.properties, p.get codec (heapOf (prog h) self) = p.get codec (h self) :=
  fun p member => p.get_congr codec ((confined h).slots p.reads (unread p member))

/-- What a completed pass leaves: each of its wire keys holds the encoding of
what its step shows of the current field, every getter reads as before the
pass, and a second pass changes nothing. -/
structure Flattened (C : ControlClass) (pass : Codec → ObjId → PyM Unit) (keys : List JsonKey)
    (codec : Codec) (self : ObjId) (h h' : Heap) : Prop where
  holds : ∀ k ∈ keys, k.Holds codec (h' self)
  getters : ∀ p ∈ C.properties, p.get codec (h' self) = p.get codec (h self)
  again : pass codec self h' = .ok () h'

theorem flattened_of_eq {pass : Codec → ObjId → PyM Unit} {keys : List JsonKey}
    (eq : ∀ codec self, pass codec self = flattenJson codec self keys)
    (distinct : (keys.map (·.key)).Nodup)
    (unread : ∀ p ∈ C.properties, p.reads ∉ jsonSlots keys)
    (run : pass codec self h = .ok () h') : C.Flattened pass keys codec self h h' := by
  rw [eq] at run
  have getters := getters_unchanged
    (Confined.flattenJson codec keys : Confined self _ (flattenJson codec self keys)) unread codec h
  rw [run, heapOf_ok] at getters
  exact ⟨flattenJson_holds distinct run, getters,
    by rw [eq]; exact flattenJson_idem distinct run⟩

theorem Flattened.attr_none {pass : Codec → ObjId → PyM Unit} {keys : List JsonKey}
    (flat : C.Flattened pass keys codec self h h') {k : JsonKey} (member : k ∈ keys)
    {value : Value} (stored : (h' self).fields k.name = some value)
    (admitted : k.guard value = true) (nothing : k.shown value = .none) :
    (h' self).attrs k.key = none := by
  obtain ⟨holds, -, -⟩ := flat
  obtain ⟨_, stored', encoded⟩ := holds k member
  cases stored.symm.trans stored'
  rw [encoded admitted, nothing, Codec.encode_none]

section Assigned

variable {names : List PyName}
  (assigned : ∀ args {h h' : Heap}, C.init self args h = .ok () h' →
    ∀ name ∈ names, (h' self).fields name ≠ none)
include assigned

theorem Reachable.getField_ok (reachable : C.Reachable self (h self)) {name : PyName}
    (member : name ∈ names) : ∃ value, getField self name h = .ok value h := by
  obtain ⟨value, stored⟩ := Option.ne_none_iff_exists'.1
    (reachable.field_assigned fun args _ _ _ run => assigned args run name member)
  exact ⟨value, getField_of_some stored⟩

theorem Reachable.flattenJson_ok (reachable : C.Reachable self (h self)) {keys : List JsonKey}
    (covered : ∀ k ∈ keys, k.name ∈ names) :
    ∃ h', flattenJson codec self keys h = .ok () h' :=
  Flet.flattenJson_ok fun k member =>
    reachable.field_assigned fun args _ _ _ run => assigned args run k.name (covered k member)

/-- In a reachable state the readable getters return when the constructor
assigns what their setters assign. -/
theorem Reachable.getters_ok {o : Obj} (reachable : C.Reachable self o) {props : List Property}
    (readable : ∀ p ∈ props, p.Readable)
    (covered : ∀ p ∈ props, ∀ name ∈ p.assigns, name ∈ names) (codec : Codec) :
    ∀ p ∈ props, ∃ value, p.get codec o = .ok value := fun p member =>
  readable p member codec o fun name assigns => reachable.field_assigned
    fun args _ _ _ run => assigned args run name (covered p member name assigns)

end Assigned

/-! The wire map as the record of variables says: after setter calls and a
completed pass, each wire key holds the encoding of the variable whose field it
flattens. -/

/-- Each wire key flattens the field that the getter of one property returns. -/
def ShowsFields (C : ControlClass) (keys : List JsonKey) : Prop :=
  ∀ k ∈ keys, ∃ p ∈ C.properties, p.get = fun _ o => o.getField k.name

/-- The wire map refines the record of variables: each wire key has the
property whose field it flattens, and after setter calls that return, with
values that are neither `None` nor strings, then a pass that completes, the key
holds the encoding of what it shows of the value the record gives that
property, when its guard admits the value. -/
def RefinesWire (C : ControlClass) (pass : Codec → ObjId → PyM Unit) (keys : List JsonKey) :
    Prop :=
  ∀ k ∈ keys, ∃ i : Fin C.properties.length,
    (C.properties.get i).get = (fun _ o => o.getField k.name) ∧
    ∀ codec self (calls : List C.SetCall) (h h₁ h₂ : Heap) (value : Value),
      (∀ call ∈ calls, call.2 ≠ .none ∧ ∀ s, call.2 ≠ .str s) →
      C.setAll self calls h = .ok () h₁ → pass codec self h₁ = .ok () h₂ →
      calls.foldl C.assign (C.view codec (h self)) i = .ok value → k.guard value = true →
      (h₂ self).attrs k.key = codec.encode (k.shown value)

theorem ShowsFields.append {keys keys' : List JsonKey} (shows : C.ShowsFields keys)
    (shows' : C.ShowsFields keys') : C.ShowsFields (keys ++ keys') :=
  List.forall_mem_append.2 ⟨shows, shows'⟩

theorem ShowsFields.of_subset {D : ControlClass} {keys : List JsonKey}
    (shows : C.ShowsFields keys) (sub : C.properties ⊆ D.properties) : D.ShowsFields keys :=
  fun k member =>
    let ⟨p, property, reads⟩ := shows k member
    ⟨p, sub property, reads⟩

theorem Flattened.attr_of_view {pass : Codec → ObjId → PyM Unit} {keys : List JsonKey}
    (flat : C.Flattened pass keys codec self h h') {k : JsonKey} (member : k ∈ keys)
    {i : Fin C.properties.length} (reads : (C.properties.get i).get = fun _ o => o.getField k.name)
    {value : Value} (viewed : C.view codec (h self) i = .ok value)
    (admitted : k.guard value = true) :
    (h' self).attrs k.key = codec.encode (k.shown value) := by
  obtain ⟨holds, getters, -⟩ := flat
  obtain ⟨stored, field, encoded⟩ := holds k member
  have after : (h' self).getField k.name = .ok value := by
    rw [← viewed, view, ← getters _ (List.get_mem _ _ _), reads]
  simp only [Obj.getField, field, Except.ok.injEq] at after
  subst after
  exact encoded admitted

/-- A class whose properties are variables, and whose pass flattens fields its
getters return, refines the record of variables on the wire. -/
theorem Variables.refinesWire (vars : C.Variables) {pass : Codec → ObjId → PyM Unit}
    {keys : List JsonKey} (shows : C.ShowsFields keys)
    (flattens : ∀ codec self (h h' : Heap), pass codec self h = .ok () h' →
      C.Flattened pass keys codec self h h') :
    C.RefinesWire pass keys := fun k member =>
  let ⟨_, property, reads⟩ := shows k member
  let ⟨i, found⟩ := List.mem_iff_get.1 property
  ⟨i, found ▸ reads, fun codec self calls h h₁ _ _ plain set run recorded admitted =>
    (flattens codec self h₁ _ run).attr_of_view member (found ▸ reads)
      (by rw [vars.refines codec self calls h h₁ plain set]; exact recorded) admitted⟩

end ControlClass

theorem assignAll_assigns_all {self : ObjId} {assignments : List (Property × Value)}
    {h h' : Heap} (run : assignAll self assignments h = .ok () h') {names : List PyName}
    (covered : ∀ name ∈ names, ∃ p ∈ assignments.map Prod.fst, name ∈ p.assigns) :
    ∀ name ∈ names, (h' self).fields name ≠ none := fun name member =>
  let ⟨_, assigning, assigns⟩ := covered name member
  let ⟨pair, member, first⟩ := List.mem_map.1 assigning
  assignAll_assigns run pair member name (first ▸ assigns)

theorem assignAll_after {self : ObjId} {assignments : List (Property × Value)} {h h' : Heap}
    {names names' : List PyName} (inherited : ∀ name ∈ names, (h self).fields name ≠ none)
    (run : assignAll self assignments h = .ok () h')
    (covered : ∀ name ∈ names', ∃ p ∈ assignments.map Prod.fst, name ∈ p.assigns) :
    ∀ name ∈ names ++ names', (h' self).fields name ≠ none := by
  intro name member
  rcases List.mem_append.1 member with fromSuper | own
  · exact assignAll_fields run (inherited name fromSuper)
  · exact assignAll_assigns_all run covered name own

end Flet
