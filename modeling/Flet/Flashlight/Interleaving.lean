import Flet.Flashlight.Concurrent

namespace Flet

namespace Flashlight

/-! What overlapping calls do: toggles first (each task runs `toggle` or
`toggle_async`), then calls of all six methods, and how calls that do not
overlap refine the sequential code. -/

section Toggles

variable {ops : Nat → Op} (toggles : ∀ i, ops i = .toggle ∨ ops i = .toggleAsync)
include toggles

theorem toggle_target (i : Nat) (turnedOn : Bool) : (ops i).target turnedOn = !turnedOn := by
  rcases toggles i with same | same <;> rw [same] <;> rfl

theorem toggle_method (i : Nat) (turnedOn : Bool) :
    (ops i).method turnedOn = if turnedOn then "off" else "on" := by
  rw [Op.method, toggle_target toggles]
  cases turnedOn <;> rfl

theorem runWith_serial_toggles :
    ∀ {tasks : List Nat} {w : World} (n : Nat), tasks.Nodup →
      (∀ i ∈ tasks, w.tasks i = .idle) →
      ∃ w', w.runWith ops (World.serial (fun _ => some "1") n tasks) = some w' ∧
        w'.turnedOn = (!·)^[tasks.length] w.turnedOn
  | [], _, _, _, _ => ⟨_, rfl, rfl⟩
  | i :: rest, w, n, distinct, idle => by
      obtain ⟨fresh, distinct⟩ := List.nodup_cons.1 distinct
      obtain ⟨w₁, pair, tasks₁, turnedOn₁⟩ : ∃ w₁,
          w.runWith ops [.start i, .complete i (some "1")] = some w₁ ∧
            w₁.tasks = Function.update w.tasks i .done ∧ w₁.turnedOn = !w.turnedOn :=
        ⟨_, World.runWith_pair ops (idle i (List.mem_cons_self _ _)) _, rfl,
          by simp [settle, toggle_target toggles]⟩
      have idle₁ : ∀ j ∈ rest, w₁.tasks j = .idle := fun j member => by
        rw [tasks₁, Function.update_noteq fun same : j = i => fresh (same ▸ member),
          idle j (List.mem_cons_of_mem _ member)]
      obtain ⟨w', run, turnedOn⟩ := runWith_serial_toggles (n + 1) distinct idle₁
      refine ⟨w', ?_, ?_⟩
      · rw [World.serial_cons, World.runWith_append, pair, Option.some_bind]
        exact run
      · rw [turnedOn, turnedOn₁, List.length_cons, Function.iterate_succ_apply]

/-- Two toggles that overlap, with no completion answered "1" between their
starts, read the same `turned_on`: they send the same call, and when the later
of their completions answered "1" is the last such of the run, they negate
`turned_on` once together, whichever completes first. -/
theorem runWith_overlapping_pair {w w' : World} {pre mid₁ mid₂ mid₃ post : List Event}
    {i j a b : Nat} (completions : a = i ∧ b = j ∨ a = j ∧ b = i)
    (run : w.runWith ops (pre ++ .start i :: mid₁ ++ .start j :: mid₂ ++
      .complete a (some "1") :: mid₃ ++ .complete b (some "1") :: post) = some w')
    (between : ∀ e ∈ mid₁, e.confirms = false) (quiet : ∀ e ∈ post, e.confirms = false) :
    ∃ w₁ w₂, w.runWith ops pre = some w₁ ∧
      w.runWith ops (pre ++ .start i :: mid₁) = some w₂ ∧
      w'.calls[w₁.calls.length]? = some (if w₁.turnedOn then "off" else "on") ∧
      w'.calls[w₂.calls.length]? = w'.calls[w₁.calls.length]? ∧
      w'.turnedOn = !w₁.turnedOn := by
  have runI : w.runWith ops (pre ++ .start i :: (mid₁ ++ .start j :: mid₂ ++
      .complete a (some "1") :: mid₃ ++ .complete b (some "1") :: post)) = some w' := by
    simpa only [List.append_assoc, List.cons_append] using run
  have runJ : w.runWith ops (pre ++ .start i :: mid₁ ++ .start j :: (mid₂ ++
      .complete a (some "1") :: mid₃ ++ .complete b (some "1") :: post)) = some w' := by
    simpa only [List.append_assoc, List.cons_append] using run
  obtain ⟨w₁, first, callI⟩ := World.runWith_start_call runI
  obtain ⟨w₂, second, callJ⟩ := World.runWith_start_call runJ
  have same : w₂.turnedOn = w₁.turnedOn := by
    rw [World.runWith_append, first, Option.some_bind] at second
    exact World.runWith_quiet
      (List.forall_mem_cons.2 ⟨(rfl : (Event.start i).confirms = false), between⟩) second
  refine ⟨w₁, w₂, first, second, by rw [callI, toggle_method toggles],
    by rw [callJ, callI, same, toggle_method toggles, toggle_method toggles], ?_⟩
  rcases completions with ⟨ha, hb⟩ | ⟨ha, hb⟩ <;> subst ha hb
  · have runB : w.runWith ops (pre ++ .start a :: mid₁ ++ .start b :: (mid₂ ++
        .complete a (some "1") :: mid₃) ++ .complete b (some "1") :: post) = some w' := by
      simpa only [List.append_assoc, List.cons_append] using run
    obtain ⟨w₃, third, last⟩ := World.runWith_last_confirmed quiet runB
    cases third.symm.trans second
    rw [last, toggle_target toggles, same]
  · have runB : w.runWith ops (pre ++ .start b :: (mid₁ ++ .start a :: mid₂ ++
        .complete a (some "1") :: mid₃) ++ .complete b (some "1") :: post) = some w' := by
      simpa only [List.append_assoc, List.cons_append] using run
    obtain ⟨w₃, third, last⟩ := World.runWith_last_confirmed quiet runB
    cases third.symm.trans first
    rw [last, toggle_target toggles]

end Toggles

/-- Toggles that interleave, each task running `toggle` or `toggle_async`:
every start sends "off" when `turned_on` is true at that moment and "on"
otherwise, and the call stays in the log where it was sent; a run with no
completion answered "1" leaves `turned_on` as it was; after the last call
answered "1", `turned_on` is the negation of what that call read at its
start, whatever else started or completed since; toggles that do not overlap,
each answered "1", negate it once each; and two toggles that overlap, with no
completion answered "1" between their starts, send the same call and, when the
later of their completions answered "1" is the last such of the run, negate it
once together, whichever completes first. -/
theorem interleaved_toggles {ops : Nat → Op}
    (toggles : ∀ i, ops i = .toggle ∨ ops i = .toggleAsync) :
    (∀ (tasks : List Nat) (turnedOn : Bool), tasks.Nodup →
      ∃ w', (World.idle turnedOn).runWith ops (World.serial (fun _ => some "1") 0 tasks) =
        some w' ∧ w'.turnedOn = (!·)^[tasks.length] turnedOn) ∧
    ∀ {w w' : World} {events : List Event}, w.runWith ops events = some w' →
      (∀ pre i post, events = pre ++ .start i :: post →
        ∃ w₁, w.runWith ops pre = some w₁ ∧
          w'.calls[w₁.calls.length]? = some (if w₁.turnedOn then "off" else "on")) ∧
      ((∀ e ∈ events, e.confirms = false) → w'.turnedOn = w.turnedOn) ∧
      (∀ pre mid post i, events = pre ++ .start i :: mid ++ .complete i (some "1") :: post →
        (∀ e ∈ post, e.confirms = false) →
        ∃ w₁, w.runWith ops pre = some w₁ ∧ w'.turnedOn = !w₁.turnedOn) ∧
      ∀ pre mid₁ mid₂ mid₃ post i j a b, (a = i ∧ b = j ∨ a = j ∧ b = i) →
        events = pre ++ .start i :: mid₁ ++ .start j :: mid₂ ++ .complete a (some "1") ::
          mid₃ ++ .complete b (some "1") :: post →
        (∀ e ∈ mid₁, e.confirms = false) → (∀ e ∈ post, e.confirms = false) →
        ∃ w₁ w₂, w.runWith ops pre = some w₁ ∧
          w.runWith ops (pre ++ .start i :: mid₁) = some w₂ ∧
          w'.calls[w₁.calls.length]? = some (if w₁.turnedOn then "off" else "on") ∧
          w'.calls[w₂.calls.length]? = w'.calls[w₁.calls.length]? ∧
          w'.turnedOn = !w₁.turnedOn :=
  ⟨fun _ _ distinct => runWith_serial_toggles toggles 0 distinct fun _ _ => rfl,
    fun run => ⟨fun _ _ _ split =>
        let ⟨w₁, first, call⟩ := World.runWith_start_call (split ▸ run)
        ⟨w₁, first, by rw [call, toggle_method toggles]⟩,
      fun quiet => World.runWith_quiet quiet run,
      fun _ _ _ _ split quiet =>
        let ⟨w₁, first, last⟩ := World.runWith_last_confirmed quiet (split ▸ run)
        ⟨w₁, first, by rw [last, toggle_target toggles]⟩,
      fun _ _ _ _ _ _ _ _ _ completions split between quiet =>
        runWith_overlapping_pair toggles completions (split ▸ run) between quiet⟩⟩

/-- Task 0 runs `toggle`, every other task `toggle_async`. -/
def mixedToggles (i : Nat) : Op := if i = 0 then .toggle else .toggleAsync

theorem mixedToggles_toggles (i : Nat) :
    mixedToggles i = .toggle ∨ mixedToggles i = .toggleAsync := by
  unfold mixedToggles
  split <;> simp

/-- A `toggle` of a new flashlight overlapped by a `toggle_async` that
completes first, both answered "1": both send "on", and the flashlight ends
on, negated once. -/
theorem overlapping_toggles_send_on :
    ∃ w', (World.idle false).runWith mixedToggles
        [.start 0, .start 1, .complete 1 (some "1"), .complete 0 (some "1")] = some w' ∧
      w'.calls[0]? = some "on" ∧ w'.calls[1]? = some "on" ∧ w'.turnedOn = true := by
  obtain ⟨w', run⟩ : ∃ w', (World.idle false).runWith mixedToggles
      [.start 0, .start 1, .complete 1 (some "1"), .complete 0 (some "1")] = some w' := ⟨_, rfl⟩
  obtain ⟨w₁, w₂, first, second, call₀, call₁, lit⟩ :=
    ((interleaved_toggles mixedToggles_toggles).2 run).2.2.2 [] [] [] [] [] 0 1 1 0
      (.inr ⟨rfl, rfl⟩) rfl (by decide) (by decide)
  cases first
  cases second
  exact ⟨w', run, call₀, call₁.trans call₀, lit⟩

/-- Two toggles of a new flashlight, a `toggle` and a `toggle_async`, both
answered "1", the second started before the first completed: the flashlight
ends on, where two toggles negate `False` twice, to `False`. -/
theorem overlapping_toggles_end_on :
    ((World.idle false).runWith mixedToggles
        [.start 0, .start 1, .complete 0 (some "1"), .complete 1 (some "1")]).map
      (·.turnedOn) = some true ∧ (!·)^[2] false = false := by
  decide

/-- Overlapping calls of the six methods, in any interleaving: the calls sent
follow the earlier ones, one per start; `turned_on` changes only at a
completion answered "1"; and after the last such completion it holds the
target that completion's method computed at its start, from the `turned_on`
of that moment, whatever else started or completed since. -/
theorem overlapping_calls_settle {ops : Nat → Op} {w w' : World} {events : List Event}
    (run : w.runWith ops events = some w') :
    (∃ sent, w'.calls = w.calls ++ sent ∧
      sent.length = (events.filter Event.isStart).length) ∧
    ((∀ e ∈ events, e.confirms = false) → w'.turnedOn = w.turnedOn) ∧
    ∀ pre mid post i, events = pre ++ .start i :: mid ++ .complete i (some "1") :: post →
      (∀ e ∈ post, e.confirms = false) →
      ∃ w₁, w.runWith ops pre = some w₁ ∧ w'.turnedOn = (ops i).target w₁.turnedOn :=
  ⟨World.runWith_calls run, fun quiet => World.runWith_quiet quiet run,
    fun _ _ _ _ split quiet => World.runWith_last_confirmed quiet (split ▸ run)⟩

/-- A `turn_on` of a new flashlight, overlapped by a `toggle_async` that read
`False` as well: both send "on", and when the toggle is answered "1" and the
`turn_on` times out afterwards, the flashlight is on, the toggle's target. -/
theorem turnOn_overlapped_by_toggle :
    ∃ w', (World.idle false).runWith (fun i => if i = 0 then .turnOn else .toggleAsync)
        [.start 0, .start 1, .complete 1 (some "1"), .complete 0 none] = some w' ∧
      w'.calls.length = 2 ∧ w'.turnedOn = true := by
  obtain ⟨w', run⟩ : ∃ w', (World.idle false).runWith
      (fun i => if i = 0 then .turnOn else .toggleAsync)
      [.start 0, .start 1, .complete 1 (some "1"), .complete 0 none] = some w' := ⟨_, rfl⟩
  obtain ⟨⟨sent, calls, length⟩, -, last⟩ := overlapping_calls_settle run
  obtain ⟨_, first, lit⟩ := last [.start 0] [] [.complete 0 none] 1 rfl (by decide)
  cases first
  exact ⟨w', run, by simp [calls, length, World.idle, Event.isStart], lit⟩

/-- Calls that do not overlap, of any of the six methods: run one after
another on idle tasks, they send the calls the sequential code sends and leave
`turned_on` as it does. -/
theorem serial_calls_refine_runOps {ops : Nat → Op} {s : Session}
    {calls : List (Op × Option Nat)} {tasks : List Nat} {w : World}
    (distinct : tasks.Nodup) (methods : tasks.map ops = calls.map Prod.fst)
    (idle : ∀ i ∈ tasks, w.tasks i = .idle) (agrees : World.Agrees w s) :
    ∃ w', w.runWith ops (World.serial s.reply s.calls.length tasks) = some w' ∧
      World.Agrees w' (runOps calls s).2 := by
  induction calls generalizing tasks w s with
  | nil =>
      obtain rfl : tasks = [] := List.map_eq_nil_iff.1 methods
      exact ⟨w, rfl, agrees⟩
  | cons call calls ih =>
      obtain ⟨op, waitTimeout⟩ := call
      obtain ⟨i, tasks, rfl⟩ := List.exists_cons_of_ne_nil fun empty : tasks = [] => by
        simp [empty] at methods
      obtain ⟨method, methods⟩ := List.cons.inj methods
      obtain ⟨fresh, distinct⟩ := List.nodup_cons.1 distinct
      obtain ⟨w₁, pair, agrees₁, tasks₁⟩ :=
        World.runWith_alone ops waitTimeout (idle i (List.mem_cons_self _ _)) agrees
      have idle₁ : ∀ j ∈ tasks, w₁.tasks j = .idle := fun j member => by
        rw [tasks₁, Function.update_noteq (fun (same : j = i) => fresh (same ▸ member)),
          idle j (List.mem_cons_of_mem _ member)]
      rw [method] at agrees₁
      obtain ⟨w', rest, agrees'⟩ := ih distinct methods idle₁ agrees₁
      refine ⟨w', ?_, ?_⟩
      · rw [World.serial_cons, World.runWith_append, pair, Option.some_bind]
        simpa [Session.after] using rest
      · rwa [runOps_cons, Op.run_spec]

/-- A `turn_on` answered "1", then a `toggle` that times out, as tasks 3 and 7
of a new flashlight: the calls and the end state of the sequential run. -/
theorem turnOn_then_toggle_serial :
    ∃ w', (World.idle false).runWith (fun i => if i = 3 then .turnOn else .toggle)
        (World.serial (init fun n => if n = 0 then some "1" else none).reply 0 [3, 7]) =
          some w' ∧
      World.Agrees w'
        (runOps [(.turnOn, some 5), (.toggle, none)]
          (init fun n => if n = 0 then some "1" else none)).2 :=
  serial_calls_refine_runOps (by decide) rfl (fun _ _ => rfl) ⟨rfl, rfl⟩

end Flashlight

end Flet
