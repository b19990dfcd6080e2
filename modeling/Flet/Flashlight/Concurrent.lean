import Flet.Flashlight.Basic
import Mathlib.Logic.Function.Iterate

namespace Flet

namespace Flashlight

/-! Calls that overlap. A method reads `turned_on` (a toggle to choose its
call, `turn_on` and `turn_off` without using it), sends its call, and awaits or
waits for the reply; other tasks of the event loop, or other threads, run
meanwhile. The flashlight has no lock: a call is two events, its start (read
`turned_on`, send the call) and its completion (`_toggle_state` applies the
reply with the `on` argument the method chose at its start), and the events of
different calls interleave in any order. Task `i` runs the method `ops i`. -/

/-- Where one call stands. -/
inductive Task where
  | idle
  /-- The call is sent; `target` is the `on` argument `_toggle_state` will get. -/
  | waiting (target : Bool)
  | done
  deriving DecidableEq, Repr

/-- The flashlight, the calls in flight, and the remote calls sent so far. -/
structure World where
  turnedOn : Bool
  tasks : Nat → Task
  calls : List String

/-- A flashlight with `turned_on = turnedOn` before any call has started. -/
def World.idle (turnedOn : Bool) : World := ⟨turnedOn, fun _ => .idle, []⟩

/-- An event of a call: its start, or its completion with the reply. -/
inductive Event where
  | start (task : Nat)
  | complete (task : Nat) (reply : Option String)
  deriving DecidableEq, Repr

def Event.task : Event → Nat
  | .start task | .complete task _ => task

def Event.isStart : Event → Bool
  | .start _ => true
  | .complete _ _ => false

/-- Whether an event is a completion answered "1", the reply `_toggle_state`
acts on. -/
def Event.confirms : Event → Bool
  | .start _ => false
  | .complete _ reply => decide (reply = some "1")

namespace World

/-- One event when task `i` runs the method `ops i`; `none` when the task is
not in the phase the event needs. -/
def stepWith (ops : Nat → Op) (w : World) : Event → Option World
  | .start i =>
      match w.tasks i with
      | .idle => some { w with
          tasks := Function.update w.tasks i (.waiting ((ops i).target w.turnedOn))
          calls := w.calls ++ [(ops i).method w.turnedOn] }
      | _ => none
  | .complete i reply =>
      match w.tasks i with
      | .waiting target => some { w with
          turnedOn := settle reply target w.turnedOn
          tasks := Function.update w.tasks i .done }
      | _ => none

/-- Run the events in order. -/
def runWith (ops : Nat → Op) (w : World) : List Event → Option World
  | [] => some w
  | e :: rest => (w.stepWith ops e).bind (·.runWith ops rest)

variable {ops : Nat → Op} {w w' : World}

@[simp] theorem runWith_nil (w : World) : w.runWith ops [] = some w := rfl

theorem runWith_cons (w : World) (e : Event) (rest : List Event) :
    w.runWith ops (e :: rest) = (w.stepWith ops e).bind (·.runWith ops rest) := rfl

theorem runWith_append (w : World) (first second : List Event) :
    w.runWith ops (first ++ second) = (w.runWith ops first).bind (·.runWith ops second) := by
  induction first generalizing w with
  | nil => rfl
  | cons e rest ih =>
      simp only [List.cons_append, runWith_cons]
      cases w.stepWith ops e <;> simp [ih]

/-! ### What one event can do -/

theorem stepWith_start {i : Nat} (step : w.stepWith ops (.start i) = some w') :
    w.tasks i = .idle ∧ w' = { w with
      tasks := Function.update w.tasks i (.waiting ((ops i).target w.turnedOn))
      calls := w.calls ++ [(ops i).method w.turnedOn] } := by
  simp only [stepWith] at step
  split at step
  · next idle => exact ⟨idle, (Option.some.inj step).symm⟩
  · cases step

theorem stepWith_complete {i : Nat} {reply : Option String}
    (step : w.stepWith ops (.complete i reply) = some w') :
    ∃ target, w.tasks i = .waiting target ∧ w' = { w with
      turnedOn := settle reply target w.turnedOn
      tasks := Function.update w.tasks i .done } := by
  simp only [stepWith] at step
  split at step
  · next target waiting => exact ⟨target, waiting, (Option.some.inj step).symm⟩
  · cases step

theorem stepWith_tasks_other {e : Event} {i : Nat} (other : e.task ≠ i)
    (step : w.stepWith ops e = some w') : w'.tasks i = w.tasks i := by
  cases e with
  | start j =>
      obtain ⟨-, rfl⟩ := stepWith_start step
      exact Function.update_noteq (Ne.symm other) _ _
  | complete j =>
      obtain ⟨_, -, rfl⟩ := stepWith_complete step
      exact Function.update_noteq (Ne.symm other) _ _

theorem stepWith_turnedOn {e : Event} (quiet : e.confirms = false)
    (step : w.stepWith ops e = some w') : w'.turnedOn = w.turnedOn := by
  cases e with
  | start =>
      obtain ⟨-, rfl⟩ := stepWith_start step
      rfl
  | complete i reply =>
      obtain ⟨_, -, rfl⟩ := stepWith_complete step
      simp only [Event.confirms, decide_eq_false_iff_not] at quiet
      simp [settle, quiet]

theorem stepWith_calls {e : Event} (step : w.stepWith ops e = some w') :
    w'.calls = w.calls ++ if e.isStart then [(ops e.task).method w.turnedOn] else [] := by
  cases e with
  | start =>
      obtain ⟨-, rfl⟩ := stepWith_start step
      rfl
  | complete =>
      obtain ⟨_, -, rfl⟩ := stepWith_complete step
      simp [Event.isStart]

/-! ### What a run does -/

theorem runWith_invariant {P : World → Prop} :
    ∀ {w w' : World} {events : List Event},
      (∀ {w w' : World}, ∀ e ∈ events, P w → w.stepWith ops e = some w' → P w') →
      P w → w.runWith ops events = some w' → P w'
  | _, _, [], _, holds, run => Option.some.inj run ▸ holds
  | _, _, e :: _, preserved, holds, run =>
      let ⟨_, step, rest⟩ := Option.bind_eq_some.1 run
      runWith_invariant (fun other member => preserved other (List.mem_cons_of_mem e member))
        (preserved e (List.mem_cons_self _ _) holds step) rest

theorem runWith_quiet {events : List Event} (quiet : ∀ e ∈ events, e.confirms = false)
    (run : w.runWith ops events = some w') : w'.turnedOn = w.turnedOn :=
  @runWith_invariant ops (fun w₁ => w₁.turnedOn = w.turnedOn) _ _ _
    (fun e member same step => (stepWith_turnedOn (quiet e member) step).trans same) rfl run

theorem runWith_waiting {events : List Event} {i : Nat} {target : Bool}
    (waiting : w.tasks i = .waiting target) (run : w.runWith ops events = some w') :
    w'.tasks i = .waiting target ∨ w'.tasks i = .done := by
  refine @runWith_invariant ops (fun w => w.tasks i = .waiting target ∨ w.tasks i = .done)
    _ _ _ (fun e _ phase step => ?_) (Or.inl waiting) run
  by_cases same : e.task = i
  · cases e with
    | start j =>
        obtain rfl : j = i := same
        obtain ⟨idle, -⟩ := stepWith_start step
        rcases phase with phase | phase <;> simp [phase] at idle
    | complete j =>
        obtain rfl : j = i := same
        obtain ⟨_, -, rfl⟩ := stepWith_complete step
        simp
  · simpa only [stepWith_tasks_other same step] using phase

theorem runWith_calls {events : List Event} (run : w.runWith ops events = some w') :
    ∃ sent, w'.calls = w.calls ++ sent ∧
      sent.length = (events.filter Event.isStart).length := by
  induction events generalizing w with
  | nil => exact ⟨[], by simp [← Option.some.inj run]⟩
  | cons e rest ih =>
      obtain ⟨w₁, step, rest_run⟩ := Option.bind_eq_some.1 run
      obtain ⟨sent, calls, length⟩ := ih rest_run
      refine ⟨(if e.isStart then [(ops e.task).method w.turnedOn] else []) ++ sent,
        by rw [calls, stepWith_calls step, List.append_assoc], ?_⟩
      cases e <;> simp [Event.isStart, List.filter_cons, length, Nat.add_comm]

theorem runWith_start_call {pre post : List Event} {i : Nat}
    (run : w.runWith ops (pre ++ .start i :: post) = some w') :
    ∃ w₁, w.runWith ops pre = some w₁ ∧
      w'.calls[w₁.calls.length]? = some ((ops i).method w₁.turnedOn) := by
  rw [runWith_append] at run
  obtain ⟨w₁, first, run⟩ := Option.bind_eq_some.1 run
  obtain ⟨w₂, start, rest⟩ := Option.bind_eq_some.1 run
  obtain ⟨-, rfl⟩ := stepWith_start start
  obtain ⟨sent, calls, -⟩ := runWith_calls rest
  exact ⟨w₁, first, by simp [calls, List.getElem_append_right]⟩

/-- The last completion answered "1" decides `turned_on`: after it, the
flashlight holds the target its call computed when it started, from the
`turned_on` of that moment, whatever else started or completed since. -/
theorem runWith_last_confirmed {pre mid post : List Event} {i : Nat}
    (quiet : ∀ e ∈ post, e.confirms = false)
    (run : w.runWith ops (pre ++ .start i :: mid ++ .complete i (some "1") :: post) = some w') :
    ∃ w₁, w.runWith ops pre = some w₁ ∧ w'.turnedOn = (ops i).target w₁.turnedOn := by
  rw [runWith_append] at run
  obtain ⟨w₃, before, run⟩ := Option.bind_eq_some.1 run
  rw [runWith_append] at before
  obtain ⟨w₁, first, before⟩ := Option.bind_eq_some.1 before
  refine ⟨w₁, first, ?_⟩
  obtain ⟨w₂, start, middle⟩ := Option.bind_eq_some.1 before
  obtain ⟨w₄, complete, rest⟩ := Option.bind_eq_some.1 run
  obtain ⟨-, rfl⟩ := stepWith_start start
  obtain ⟨target, waiting, rfl⟩ := stepWith_complete complete
  rw [runWith_quiet quiet rest]
  rcases runWith_waiting (by exact Function.update_same _ _ _) middle with phase | phase <;>
    rw [phase] at waiting
  · cases waiting
    simp [settle]
  · cases waiting

/-! ### Calls that do not overlap -/

theorem runWith_pair (ops : Nat → Op) {i : Nat} (idle : w.tasks i = .idle)
    (reply : Option String) :
    w.runWith ops [.start i, .complete i reply] = some
      { turnedOn := settle reply ((ops i).target w.turnedOn) w.turnedOn
        tasks := Function.update w.tasks i .done
        calls := w.calls ++ [(ops i).method w.turnedOn] } := by
  simp [runWith_cons, stepWith, idle]

/-- The events of calls made one after another, the `n`-th answered `reply n`:
each task starts and completes before the next one starts. -/
def serial (reply : Nat → Option String) : Nat → List Nat → List Event
  | _, [] => []
  | n, i :: rest => .start i :: .complete i (reply n) :: serial reply (n + 1) rest

theorem serial_cons (reply : Nat → Option String) (n i : Nat) (rest : List Nat) :
    serial reply n (i :: rest) = [.start i, .complete i (reply n)] ++ serial reply (n + 1) rest :=
  rfl

/-- A flashlight of the interleaving model and a session of the sequential
code agree: the same `turned_on`, and the same calls sent. -/
def Agrees (w : World) (s : Session) : Prop :=
  w.turnedOn = s.turnedOn ∧ w.calls = s.calls.map (·.method)

/-- One call run alone is the method of the sequential code. -/
theorem runWith_alone (ops : Nat → Op) (waitTimeout : Option Nat) {s : Session} {i : Nat}
    (idle : w.tasks i = .idle) (agrees : Agrees w s) :
    ∃ w₁, w.runWith ops [.start i, .complete i (s.reply s.calls.length)] = some w₁ ∧
      Agrees w₁ (s.after (ops i) waitTimeout) ∧ w₁.tasks = Function.update w.tasks i .done :=
  ⟨_, runWith_pair ops idle _, by simp [Agrees, Session.after, agrees.1, agrees.2], rfl⟩

end World

end Flashlight

end Flet
