import HidRelay.Proofs.Pointer.PacerRun

/-!
When a pacer is due. A flush goes by the time that has passed, a deadline by the time that is to come.
They agree because nothing ever waits in a pacer with an interval of zero: there even a clock that runs
backwards has let enough time pass.
-/

set_option autoImplicit false

namespace HidRelay.Pointer

namespace Pacer

def due (pacer : Pacer) : Nat := pacer.lastEmission + pacer.interval

def isDue (now : Nat) (pacer : Pacer) : Bool := pacer.waiting ≠ [] ∧ pacer.due ≤ now

def dues (pacer : Pacer) : List Nat := if pacer.waiting = [] then [] else [pacer.due]

def gathered (pacer : Pacer) : Motion := merged pacer.waiting.dropLast (pacer.waiting.getLastD State.rest)

def Patient (pacer : Pacer) : Prop := pacer.waiting ≠ [] → 0 < pacer.interval

theorem mem_dues (pacer : Pacer) (time : Nat) : time ∈ pacer.dues ↔ pacer.waiting ≠ [] ∧ pacer.due = time := by
  unfold dues
  split <;> simp_all [eq_comm]

theorem start_patient (capacity interval now : Nat) : (start capacity interval now).Patient :=
  fun waits => absurd rfl waits

theorem early_of_waits (pacer : Pacer) (state : State) (now : Nat) (waits : pacer.urgent state now = false) :
    pacer.elapsed now < pacer.interval := by
  simp only [urgent, decide_eq_false_iff_not, not_or] at waits
  omega

theorem interval_of_waits (pacer : Pacer) (state : State) (now : Nat) (waits : pacer.urgent state now = false) :
    0 < pacer.interval :=
  Nat.lt_of_le_of_lt (Nat.zero_le _) (early_of_waits pacer state now waits)

theorem step_patient (pacer : Pacer) (operation : Operation) (patient : pacer.Patient) :
    (pacer.step operation).1.Patient := by
  cases operation with
  | push state now =>
      rcases push_cases pacer state now with ⟨_, emits⟩ | ⟨urgent, waits⟩
      · rw [step, emits]
        exact fun waiting => absurd rfl waiting
      · rw [step, waits]
        exact fun _ => interval_of_waits pacer state now urgent
  | flush now =>
      rcases flush_cases pacer now with ⟨_, idle⟩ | ⟨_, _, _, _, emits⟩
      · rw [step, idle]
        exact patient
      · rw [step, emits]
        exact fun waiting => absurd rfl waiting

theorem run_patient (pacer : Pacer) (operations : List Operation) (patient : pacer.Patient) :
    (pacer.run operations).1.Patient := by
  induction operations generalizing pacer with
  | nil => exact patient
  | cons operation rest ih => exact ih _ (step_patient pacer operation patient)

theorem flush_due (pacer : Pacer) (now : Nat) (due : pacer.isDue now = true) :
    pacer.flush now = ({ pacer with waiting := [], lastEmission := now }, some pacer.gathered) := by
  obtain ⟨waits, reached⟩ := of_decide_eq_true due
  rw [Pacer.due] at reached
  rcases flush_cases pacer now with ⟨early | nothing, _⟩ | ⟨earlier, last, split, _, emits⟩
  · rw [elapsed] at early
    omega
  · exact absurd nothing waits
  · rw [emits, gathered, split, List.dropLast_concat, List.getLastD_concat]

theorem flush_early (pacer : Pacer) (now : Nat) (patient : pacer.Patient) (early : pacer.isDue now = false) :
    pacer.flush now = (pacer, none) := by
  rcases flush_cases pacer now with ⟨_, idle⟩ | ⟨earlier, last, split, passed, _⟩
  · exact idle
  · have waits : pacer.waiting ≠ [] := by simp [split]
    have interval := patient waits
    have later : ¬ pacer.due ≤ now := fun reached => of_decide_eq_false early ⟨waits, reached⟩
    rw [elapsed] at passed
    rw [due] at later
    omega

theorem deadline_of_dues (pacer : Pacer) (inTime : pacer.waiting ≠ [] → pacer.due ≤ clockLimit) :
    pacer.deadline = .ok pacer.dues.min? := by
  by_cases nothing : pacer.waiting = []
  · rw [deadline, dues, if_pos nothing, if_pos nothing]
    rfl
  · have shown : pacer.lastEmission + pacer.interval ≤ clockLimit := inTime nothing
    rw [deadline, dues, if_neg nothing, if_neg nothing]
    exact if_pos shown

theorem deadline_iff (pacer : Pacer) (inTime : pacer.waiting ≠ [] → pacer.due ≤ clockLimit) (time : Nat) :
    pacer.deadline = .ok (some time) ↔ pacer.waiting ≠ [] ∧ pacer.due = time := by
  rw [deadline_of_dues pacer inTime, dues]
  split <;> simp_all

end Pacer

theorem sooner_min (left right : List Nat) : sooner left.min? right.min? = (left ++ right).min? := by
  induction left with
  | nil => rfl
  | cons first rest ih =>
      rw [List.cons_append, List.min?_cons, List.min?_cons, ← ih]
      cases rest.min? <;> cases right.min? <;> simp [sooner, Nat.min_assoc]

theorem earliest_of_dues {α : Type} (answer : α → Except ClockOverflow (Option Nat)) (dues : α → List Nat) (items : List α)
    (each : ∀ item ∈ items, answer item = .ok (dues item).min?) :
    earliest (items.map answer) = .ok (items.flatMap dues).min? := by
  induction items with
  | nil => rfl
  | cons item rest ih =>
      rw [List.map_cons, each item List.mem_cons_self, earliest,
        ih fun other member => each other (List.mem_cons_of_mem _ member), List.flatMap_cons, ← sooner_min]
      rfl

end HidRelay.Pointer
