import Mathlib.Data.List.Basic

namespace Flet

/-! `Flashlight` (flashlight.py): a non-visual control whose methods call the
native side through `invoke_method` and record the reply in `turned_on`.
The native side is modelled as the answer it gives to each numbered call;
`invoke_method` is not in the sources and is modelled from the spec (section 6,
"remote method invocation"), its blocking and awaiting forms alike. -/

/-- A remote call as `invoke_method` sends it. -/
structure Call where
  method : String
  waitTimeout : Option Nat
  deriving DecidableEq, Repr

/-- A flashlight and the native side it talks to: `reply n` is the answer to
the `n`-th call (`none` when the wait times out), and `calls` the calls sent
so far. -/
structure Session where
  turnedOn : Bool
  reply : Nat → Option String
  calls : List Call

/-- Code of the flashlight, run against the native side. -/
abbrev FlashM := StateM Session

namespace Flashlight

/-- `Flashlight.__init__`: `turned_on` starts `False`. -/
def init (reply : Nat → Option String) : Session := ⟨false, reply, []⟩

/-- Modelled from the spec: `self.invoke_method(name, wait_for_result=True,
wait_timeout=wait_timeout)` sends the call and returns the native side's
answer, or `None` on a timeout. -/
def invokeMethod (name : String) (waitTimeout : Option Nat) : FlashM (Option String) :=
  fun s => (s.reply s.calls.length, { s with calls := s.calls ++ [⟨name, waitTimeout⟩] })

/-- Modelled from the spec: `await self.invoke_method_async(...)`, the same
remote call awaited instead of waited for. -/
def invokeMethodAsync (name : String) (waitTimeout : Option Nat) : FlashM (Option String) :=
  fun s => (s.reply s.calls.length, { s with calls := s.calls ++ [⟨name, waitTimeout⟩] })

/-- `on if ("1" == sr) else self.turned_on`, the new value `_toggle_state` assigns. -/
def settle (sr : Option String) («on» turnedOn : Bool) : Bool :=
  if sr = some "1" then «on» else turnedOn

/-- `Flashlight._toggle_state(sr, on)`. -/
def toggleState (sr : Option String) («on» : Bool) : FlashM Bool := fun s =>
  (settle sr «on» s.turnedOn, { s with turnedOn := settle sr «on» s.turnedOn })

def turnOn (waitTimeout : Option Nat) : FlashM Bool := do
  let sr ← invokeMethod "on" waitTimeout
  toggleState sr true

def turnOnAsync (waitTimeout : Option Nat) : FlashM Bool := do
  let sr ← invokeMethodAsync "on" waitTimeout
  toggleState sr true

def turnOff (waitTimeout : Option Nat) : FlashM Bool := do
  let sr ← invokeMethod "off" waitTimeout
  toggleState sr false

def turnOffAsync (waitTimeout : Option Nat) : FlashM Bool := do
  let sr ← invokeMethodAsync "off" waitTimeout
  toggleState sr false

/-- `toggle`: `_func = self.turn_off if self.turned_on else self.turn_on`. -/
def toggle (waitTimeout : Option Nat) : FlashM Bool := do
  let func := if (← get).turnedOn then turnOff else turnOn
  func waitTimeout

def toggleAsync (waitTimeout : Option Nat) : FlashM Bool := do
  if (← get).turnedOn then
    return ← turnOffAsync waitTimeout
  turnOnAsync waitTimeout

end Flashlight

/-- The public methods of `Flashlight`. -/
inductive Op where
  | turnOn | turnOnAsync | turnOff | turnOffAsync | toggle | toggleAsync
  deriving DecidableEq, Repr

namespace Op

def run : Op → Option Nat → FlashM Bool
  | turnOn => Flashlight.turnOn
  | turnOnAsync => Flashlight.turnOnAsync
  | turnOff => Flashlight.turnOff
  | turnOffAsync => Flashlight.turnOffAsync
  | toggle => Flashlight.toggle
  | toggleAsync => Flashlight.toggleAsync

/-- The blocking method an operation stands for. -/
def sync : Op → Op
  | turnOnAsync => turnOn
  | turnOffAsync => turnOff
  | toggleAsync => toggle
  | op => op

/-- The value `turned_on` takes when the remote call of an operation succeeds:
the `on` argument the method passes to `_toggle_state`. -/
def target : Op → Bool → Bool
  | turnOn, _ | turnOnAsync, _ => true
  | turnOff, _ | turnOffAsync, _ => false
  | toggle, turnedOn | toggleAsync, turnedOn => !turnedOn

/-- The remote method an operation calls when `turned_on` is `turnedOn`. -/
def method (op : Op) (turnedOn : Bool) : String := if op.target turnedOn then "on" else "off"

@[simp] theorem target_sync (op : Op) : op.sync.target = op.target := by
  cases op <;> rfl

@[simp] theorem method_sync (op : Op) : op.sync.method = op.method := by
  funext turnedOn
  simp only [method, target_sync]

theorem method_eq_on (op : Op) (turnedOn : Bool) :
    decide (op.method turnedOn = "on") = op.target turnedOn := by
  unfold method
  cases op.target turnedOn <;> decide

end Op

/-- A sequence of operations, each run to completion before the next starts;
it returns what each operation returned. -/
def runOps : List (Op × Option Nat) → FlashM (List Bool)
  | [] => pure []
  | (op, waitTimeout) :: rest => do
      let returned ← op.run waitTimeout
      let others ← runOps rest
      pure (returned :: others)

@[simp] theorem runOps_nil (s : Session) : runOps [] s = ([], s) := rfl

theorem runOps_cons (op : Op) (waitTimeout : Option Nat) (rest : List (Op × Option Nat))
    (s : Session) :
    runOps ((op, waitTimeout) :: rest) s =
      ((op.run waitTimeout s).1 :: (runOps rest (op.run waitTimeout s).2).1,
        (runOps rest (op.run waitTimeout s).2).2) := rfl

/-! ### One operation, and a run of them -/

/-- The session after an operation: its call is sent, and `turned_on` becomes
the target when the native side answers "1". -/
def Session.after (s : Session) (op : Op) (waitTimeout : Option Nat) : Session :=
  { s with
    turnedOn := Flashlight.settle (s.reply s.calls.length) (op.target s.turnedOn) s.turnedOn
    calls := s.calls ++ [⟨op.method s.turnedOn, waitTimeout⟩] }

namespace Op

/-- Every operation sends exactly one call, the one `method` names for the
current `turned_on`, and returns `turned_on` as the reply leaves it. -/
theorem run_spec (op : Op) (waitTimeout : Option Nat) (s : Session) :
    op.run waitTimeout s = ((s.after op waitTimeout).turnedOn, s.after op waitTimeout) := by
  obtain ⟨turnedOn, reply, calls⟩ := s
  cases op <;> cases turnedOn <;> rfl

theorem run_sync (op : Op) : op.sync.run = op.run := by
  funext waitTimeout s
  simp only [run_spec, Session.after, target_sync, method_sync]

end Op

/-- The target of the last of `calls`, numbered from `n`, that the native side
answered "1"; later calls come first. -/
def lastConfirmed (reply : Nat → Option String) : Nat → List Call → Option Bool
  | _, [] => none
  | n, call :: rest =>
      (lastConfirmed reply (n + 1) rest).or
        (if reply n = some "1" then some (decide (call.method = "on")) else none)

theorem runOps_after (ops : List (Op × Option Nat)) (s : Session) :
    ∃ sent : List Call, (runOps ops s).2.calls = s.calls ++ sent ∧ sent.length = ops.length ∧
      (runOps ops s).2.turnedOn = (lastConfirmed s.reply s.calls.length sent).getD s.turnedOn := by
  induction ops generalizing s with
  | nil => exact ⟨[], by simp [lastConfirmed]⟩
  | cons step rest ih =>
      obtain ⟨op, waitTimeout⟩ := step
      obtain ⟨sent, calls, length, turnedOn⟩ := ih (s.after op waitTimeout)
      refine ⟨⟨op.method s.turnedOn, waitTimeout⟩ :: sent, ?_, by simp [length], ?_⟩
      · rw [runOps_cons, Op.run_spec, calls]
        simp [Session.after]
      · rw [runOps_cons, Op.run_spec, turnedOn]
        simp only [Session.after, List.length_append, List.length_singleton, lastConfirmed,
          Op.method_eq_on, Flashlight.settle]
        cases lastConfirmed s.reply (s.calls.length + 1) sent <;>
          by_cases confirmed : s.reply s.calls.length = some "1" <;> simp [confirmed]

theorem runOps_sync_congr {ops ops' : List (Op × Option Nat)}
    (same : ops.map (Prod.map Op.sync id) = ops'.map (Prod.map Op.sync id)) :
    runOps ops = runOps ops' := by
  induction ops generalizing ops' with
  | nil => cases ops' <;> simp_all
  | cons step rest ih =>
      cases ops' with
      | nil => simp at same
      | cons step' rest' =>
          obtain ⟨head, tail⟩ := List.cons.inj same
          obtain ⟨op, waitTimeout⟩ := step
          obtain ⟨op', waitTimeout'⟩ := step'
          simp only [Prod.map, id, Prod.mk.injEq] at head
          have sameOp : op.run = op'.run := by rw [← Op.run_sync, head.1, Op.run_sync]
          simp only [runOps, sameOp, head.2, ih tail]

/-- Methods called one after another: each sends one call, `on` or `off` as
the method and `turned_on` select, sets `turned_on` to its target when the
reply is "1" and leaves it otherwise, and returns it; from a new flashlight
`turned_on` is the target of the last call answered "1", or `False`; and the
awaiting forms behave as the blocking ones. -/
theorem sequential_calls :
    (∀ (op : Op) (waitTimeout : Option Nat) (s : Session),
      (op.run waitTimeout s).2.calls = s.calls ++ [⟨op.method s.turnedOn, waitTimeout⟩] ∧
      (op.run waitTimeout s).2.turnedOn =
        (if s.reply s.calls.length = some "1" then op.target s.turnedOn else s.turnedOn) ∧
      (op.run waitTimeout s).1 = (op.run waitTimeout s).2.turnedOn) ∧
    (∀ (ops : List (Op × Option Nat)) (reply : Nat → Option String),
      ∃ sent : List Call, (runOps ops (Flashlight.init reply)).2.calls = sent ∧
        sent.length = ops.length ∧
        (runOps ops (Flashlight.init reply)).2.turnedOn =
          (lastConfirmed reply 0 sent).getD false) ∧
    (∀ ops ops' : List (Op × Option Nat),
      ops.map (Prod.map Op.sync id) = ops'.map (Prod.map Op.sync id) →
        runOps ops = runOps ops') := by
  refine ⟨fun op waitTimeout s => ?_, fun ops _ => runOps_after ops _,
    fun _ _ => runOps_sync_congr⟩
  simp [Op.run_spec, Session.after, Flashlight.settle]

end Flet
