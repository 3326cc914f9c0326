import HidRelay.Proofs.Pointer.Due

/-!
How long states wait. If the clock never runs backwards, all that waits was pushed after the last
emission and before the deadline that it set.
-/

set_option autoImplicit false

namespace HidRelay.Pointer

structure Arrival where
  state : State
  time : Nat
deriving DecidableEq, Repr

namespace Pacer

def Operation.arrivals : Operation → List Arrival
  | .push state now => [⟨state, now⟩]
  | .flush _ => []

def arrivals (operations : List Operation) : List Arrival := operations.flatMap Operation.arrivals

def Forward (clock : Nat) (operations : List Operation) : Prop :=
  (clock :: operations.map Operation.time).IsChain (· ≤ ·)

instance (clock : Nat) (operations : List Operation) : Decidable (Forward clock operations) :=
  inferInstanceAs (Decidable (List.IsChain _ _))

theorem forward_cons (clock : Nat) (operation : Operation) (rest : List Operation) :
    Forward clock (operation :: rest) ↔ clock ≤ operation.time ∧ Forward operation.time rest :=
  List.isChain_cons_cons

theorem run_interval (pacer : Pacer) (operations : List Operation) :
    (pacer.run operations).1.interval = pacer.interval := by
  induction operations generalizing pacer with
  | nil => rfl
  | cons operation rest ih => exact (ih _).trans (step_interval pacer operation)

theorem flush_emits_iff (pacer : Pacer) (now : Nat) (patient : pacer.Patient) :
    (pacer.flush now).2.isSome = true ↔ pacer.waiting ≠ [] ∧ pacer.due ≤ now := by
  cases due : pacer.isDue now with
  | true =>
      rw [flush_due pacer now due]
      exact ⟨fun _ => of_decide_eq_true due, fun _ => rfl⟩
  | false =>
      rw [flush_early pacer now patient due]
      exact ⟨fun emitted => absurd emitted Bool.false_ne_true, fun reached => absurd reached (of_decide_eq_false due)⟩

-- The arrivals that wait. All came after the last emission, and before the deadline that it set.
structure Keeps (pacer : Pacer) (kept : List Arrival) : Prop where
  waiting : pacer.waiting = kept.map Arrival.state
  since : ∀ arrival ∈ kept, pacer.lastEmission ≤ arrival.time
  before : ∀ arrival ∈ kept, arrival.time < pacer.due

theorem keeps_nothing (pacer : Pacer) (nothing : pacer.waiting = []) : pacer.Keeps [] where
  waiting := nothing
  since _ member := absurd member List.not_mem_nil
  before _ member := absurd member List.not_mem_nil

theorem arrivals_pushed (operation : Operation) : operation.arrivals.map Arrival.state = operation.pushed := by
  cases operation with
  | push state now => rfl
  | flush now => rfl

theorem arrivals_time (operation : Operation) (arrival : Arrival) (member : arrival ∈ operation.arrivals) :
    arrival.time = operation.time := by
  cases operation with
  | push state now => rw [List.mem_singleton.mp member, Operation.time]
  | flush now => exact absurd member List.not_mem_nil

theorem waits_keeps (pacer : Pacer) (operation : Operation) (kept : List Arrival) (seen : State) (keeps : pacer.Keeps kept)
    (began : pacer.lastEmission ≤ operation.time)
    (calm : ∀ state ∈ operation.pushed, pacer.urgent state operation.time = false) :
    ({ pacer with waiting := pacer.waiting ++ operation.pushed, lastSeen := seen } : Pacer).Keeps
      (kept ++ operation.arrivals) where
  waiting := by rw [List.map_append, ← keeps.waiting, arrivals_pushed]
  since arrival member := by
    rcases List.mem_append.mp member with earlier | own
    · exact keeps.since arrival earlier
    · rw [arrivals_time operation arrival own]
      exact began
  before arrival member := by
    rcases List.mem_append.mp member with earlier | own
    · exact keeps.before arrival earlier
    · have pushed : arrival.state ∈ operation.pushed := arrivals_pushed operation ▸ List.mem_map_of_mem own
      have early := early_of_waits pacer arrival.state operation.time (calm arrival.state pushed)
      rw [elapsed] at early
      rw [arrivals_time operation arrival own]
      change operation.time < pacer.lastEmission + pacer.interval
      omega

theorem step_keeps (pacer : Pacer) (operation : Operation) (kept : List Arrival) (keeps : pacer.Keeps kept)
    (began : pacer.lastEmission ≤ operation.time) :
    ∃ gone left, kept ++ operation.arrivals = gone ++ left ∧ (pacer.step operation).1.Keeps left := by
  rcases step_shape pacer operation with ⟨calm, waits⟩ | ⟨_, _, _, emits⟩
  · rw [waits]
    exact ⟨[], kept ++ operation.arrivals, rfl, waits_keeps pacer operation kept _ keeps began calm⟩
  · rw [emits]
    exact ⟨kept ++ operation.arrivals, [], (List.append_nil _).symm, keeps_nothing _ rfl⟩

theorem run_keeps (pacer : Pacer) (clock : Nat) (operations : List Operation) (kept : List Arrival)
    (keeps : pacer.Keeps kept) (began : pacer.lastEmission ≤ clock) (forward : Forward clock operations) :
    ∃ gone left, kept ++ arrivals operations = gone ++ left ∧ (pacer.run operations).1.Keeps left := by
  induction operations generalizing pacer clock kept with
  | nil => exact ⟨[], kept, List.append_nil kept, keeps⟩
  | cons operation rest ih =>
      obtain ⟨onward, later⟩ := (forward_cons clock operation rest).mp forward
      have reached : pacer.lastEmission ≤ operation.time := Nat.le_trans began onward
      obtain ⟨gone, left, split, next⟩ := step_keeps pacer operation kept keeps reached
      obtain ⟨lost, final, divided, last⟩ := ih _ operation.time left next (step_last_emission pacer operation reached).2 later
      refine ⟨gone ++ lost, final, ?_, last⟩
      calc kept ++ arrivals (operation :: rest) = (kept ++ operation.arrivals) ++ arrivals rest :=
            (List.append_assoc kept operation.arrivals _).symm
        _ = gone ++ (left ++ arrivals rest) := by rw [split, List.append_assoc]
        _ = (gone ++ lost) ++ final := by rw [divided, List.append_assoc]

end Pacer

theorem deadline_bounds_delay (capacity interval began : Nat) (operations : List Pacer.Operation)
    (shown : ((Pacer.start capacity interval began).run operations).1.due ≤ clockLimit) :
    let pacer := ((Pacer.start capacity interval began).run operations).1
    (∀ now, (pacer.flush now).2.isSome = true ↔ ∃ due, pacer.deadline = .ok (some due) ∧ due ≤ now) ∧
    (Pacer.Forward began operations → pacer.waiting ≠ [] →
      ∃ before oldest later last due, Pacer.arrivals operations = before ++ oldest :: later ∧
        pacer.waiting = (oldest :: later).map Arrival.state ∧
        (Pacer.arrivals operations).getLast? = some last ∧
        pacer.deadline = .ok (some due) ∧ last.time < due ∧ due ≤ oldest.time + interval) := by
  intro pacer
  have patient : pacer.Patient := Pacer.run_patient _ operations (Pacer.start_patient capacity interval began)
  have deadline := Pacer.deadline_iff pacer fun _ => shown
  refine ⟨fun now => ?_, fun forward waits => ?_⟩
  · rw [Pacer.flush_emits_iff pacer now patient]
    constructor
    · rintro ⟨waits, reached⟩
      exact ⟨pacer.due, (deadline _).mpr ⟨waits, rfl⟩, reached⟩
    · rintro ⟨due, found, reached⟩
      obtain ⟨waits, rfl⟩ := (deadline due).mp found
      exact ⟨waits, reached⟩
  · obtain ⟨before, kept, split, keeps⟩ := Pacer.run_keeps (Pacer.start capacity interval began) began operations []
      (Pacer.keeps_nothing _ rfl) (Nat.le_refl began) forward
    cases kept with
    | nil => exact absurd keeps.waiting waits
    | cons oldest later =>
        have last := List.getLast?_eq_some_getLast (List.cons_ne_nil oldest later)
        have own : pacer.interval = interval := Pacer.run_interval _ operations
        refine ⟨before, oldest, later, _, pacer.due, split, keeps.waiting, ?_, (deadline _).mpr ⟨waits, rfl⟩,
          keeps.before _ (List.getLast_mem (List.cons_ne_nil oldest later)), ?_⟩
        · rw [← List.nil_append (Pacer.arrivals operations), split, List.getLast?_append, last]
          rfl
        · rw [Pacer.due, own]
          exact Nat.add_le_add_right (keeps.since oldest List.mem_cons_self) interval

-- A flush between the two pushes comes too early and changes nothing.
theorem two_pushes_due :
    let operations : List Pacer.Operation := [.push ⟨1, 0, 0, 0, 0⟩ 105, .flush 110, .push ⟨2, 0, 0, 0, 0⟩ 112]
    let pacer := ((Pacer.start 10 17 100).run operations).1
    pacer.due ≤ clockLimit ∧ Pacer.Forward 100 operations ∧ pacer.waiting ≠ [] ∧
    (∀ now, (pacer.flush now).2.isSome = true ↔ 117 ≤ now) ∧
    ∃ before oldest later last due, Pacer.arrivals operations = before ++ oldest :: later ∧
      pacer.waiting = (oldest :: later).map Arrival.state ∧ (Pacer.arrivals operations).getLast? = some last ∧
      pacer.deadline = .ok (some due) ∧ last.time < due ∧ due ≤ oldest.time + 17 := by
  intro operations pacer
  have shown : pacer.due ≤ clockLimit := by decide
  have forward : Pacer.Forward 100 operations := by decide
  have waits : pacer.waiting ≠ [] := by decide
  have deadline : pacer.deadline = .ok (some 117) := by decide
  obtain ⟨flushes, delayed⟩ := deadline_bounds_delay 10 17 100 operations shown
  refine ⟨shown, forward, waits, fun now => (flushes now).trans ⟨?_, ?_⟩, delayed forward waits⟩
  · rintro ⟨due, found, reached⟩
    cases deadline.symm.trans found
    exact reached
  · intro reached
    exact ⟨117, deadline, reached⟩

end HidRelay.Pointer
