import Flet.Control.Class

namespace Flet

/-! What the properties of a class are for: a record of variables. A setter
call assigns one variable and leaves the others, and a getter reads what was
assigned last. A class whose properties are pairwise separate and read back
what their setters stored refines this record over every run of setter
calls. -/

namespace ControlClass

variable {C : ControlClass}

/-- A setter call `obj.p = value`, the property given by its position in the class. -/
abbrev SetCall (C : ControlClass) : Type := Fin C.properties.length × Value

/-- Setter calls in order, stopping at the first that raises. -/
def setAll (C : ControlClass) (self : ObjId) (calls : List C.SetCall) : PyM Unit :=
  assignAll self (calls.map fun call => (C.properties.get call.1, call.2))

/-- What the getters read of an object, property by property. -/
def view (C : ControlClass) (codec : Codec) (o : Obj) :
    Fin C.properties.length → Except PyError Value :=
  fun i => (C.properties.get i).get codec o

/-- The abstract step: a setter call assigns its variable. -/
def assign (C : ControlClass) (vars : Fin C.properties.length → Except PyError Value)
    (call : C.SetCall) : Fin C.properties.length → Except PyError Value :=
  Function.update vars call.1 (.ok call.2)

/-- The properties behave as variables: no two share storage, and each reads
back what its setter stored. -/
structure Variables (C : ControlClass) : Prop where
  separate : C.properties.Pairwise Property.Separate
  roundTrip : ∀ p ∈ C.properties, p.RoundTrip

/-- Every run of setter calls, with values that are neither `None` nor
strings, that returns leaves the getters reading as the record of variables
says after the same calls. -/
def RefinesVariables (C : ControlClass) : Prop :=
  ∀ codec self (calls : List C.SetCall) (h h' : Heap),
    (∀ call ∈ calls, call.2 ≠ .none ∧ ∀ s, call.2 ≠ .str s) →
    C.setAll self calls h = .ok () h' →
    C.view codec (h' self) = calls.foldl C.assign (C.view codec (h self))

theorem foldl_assign_of_not_mem {i : Fin C.properties.length} :
    ∀ {calls : List C.SetCall} {vars : Fin C.properties.length → Except PyError Value},
      (∀ call ∈ calls, call.1 ≠ i) → calls.foldl C.assign vars i = vars i
  | [], _, _ => rfl
  | call :: rest, vars, unassigned => by
      rw [List.foldl_cons, foldl_assign_of_not_mem fun other member =>
        unassigned other (List.mem_cons_of_mem _ member), assign,
        Function.update_noteq (unassigned call (List.mem_cons_self _ _)).symm]

namespace Variables

theorem separate_of_ne (vars : C.Variables) {i j : Fin C.properties.length} (hne : i ≠ j) :
    Property.Separate (C.properties.get i) (C.properties.get j) := by
  rcases Nat.lt_or_gt_of_ne fun same => hne (Fin.ext same) with lt | gt
  · exact List.pairwise_iff_get.1 vars.separate i j lt
  · exact (List.pairwise_iff_get.1 vars.separate j i gt).symm

theorem view_set (vars : C.Variables) {codec : Codec} {self : ObjId} {call : C.SetCall}
    {h h' : Heap} (plain : call.2 ≠ .none ∧ ∀ s, call.2 ≠ .str s)
    (run : (C.properties.get call.1).set self call.2 h = .ok () h') :
    C.view codec (h' self) = C.assign (C.view codec (h self)) call := by
  funext j
  by_cases same : j = call.1
  · subst same
    rw [assign, Function.update_same]
    exact vars.roundTrip _ (List.get_mem _ _ _) codec self call.2 h h' plain.1 plain.2 run
  · have kept := (vars.separate_of_ne (Ne.symm same)).get_set codec self call.2 h
    rw [run, heapOf_ok] at kept
    rw [assign, Function.update_noteq same]
    exact kept

/-- A run of setter calls that returns refines the same calls on the record. -/
theorem refines (vars : C.Variables) : C.RefinesVariables := by
  intro codec self calls
  induction calls with
  | nil =>
      intro h h' _ run
      cases run
      rfl
  | cons call rest ih =>
      intro h h' plain run
      obtain ⟨_, h₁, first, rest_run⟩ := bind_eq_ok.1 run
      rw [List.foldl_cons, ← vars.view_set (plain call (List.mem_cons_self _ _)) first]
      exact ih h₁ h' (fun other member => plain other (List.mem_cons_of_mem _ member)) rest_run

end Variables

end ControlClass

end Flet
