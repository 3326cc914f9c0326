import HidRelay.Proofs.Pointer.Buttons
import Mathlib.Data.List.Chain

/-!
What becomes of the wheel. Nothing is passed over but wheel steps that repeat the step before them with
the same buttons: to a pacer these are no change, and they wait.
-/

set_option autoImplicit false

namespace HidRelay.Pointer

def turned (states : List State) : Int := (states.map State.wheel).sum

def turnsCarried (motions : List Motion) : Int := (motions.map Motion.wheel).sum

theorem turned_append (before after : List State) : turned (before ++ after) = turned before + turned after :=
  sum_append State.wheel before after

theorem turns_carried_append (before after : List Motion) :
    turnsCarried (before ++ after) = turnsCarried before + turnsCarried after :=
  sum_append Motion.wheel before after

theorem turned_nothing (states : List State) (idle : ∀ state ∈ states, state.wheel = 0) : turned states = 0 := by
  apply List.sum_eq_zero
  intro turn member
  obtain ⟨state, present, same⟩ := List.mem_map.mp member
  exact same ▸ idle state present

def Repeats (earlier later : State) : Prop :=
  later.buttons = earlier.buttons ∧ later.wheel = earlier.wheel ∧ later.wheel ≠ 0

instance (earlier later : State) : Decidable (Repeats earlier later) :=
  inferInstanceAs (Decidable (_ ∧ _ ∧ _))

theorem rest_never_repeated (state : State) : ¬ Repeats State.rest state :=
  fun repeated => repeated.2.2 repeated.2.1

namespace Pacer

-- The states that an emitted motion stands for without taking over their wheel.
def passedOver (pacer : Pacer) (operation : Operation) : List State :=
  match (pacer.step operation).2 with
  | none => []
  | some _ => (pacer.waiting ++ operation.pushed).dropLast

def passedOverIn (pacer : Pacer) : List Operation → List State
  | [] => []
  | operation :: rest => pacer.passedOver operation ++ (pacer.step operation).1.passedOverIn rest

theorem step_turns (pacer : Pacer) (operation : Operation) :
    turnsCarried (pacer.step operation).2.toList + turned (pacer.step operation).1.waiting +
      turned (pacer.passedOver operation) = turned pacer.waiting + turned operation.pushed := by
  rw [← turned_append]
  rcases step_cases pacer operation with ⟨quiet, waiting⟩ | ⟨earlier, last, taken, emitted, emptied⟩
  · rw [passedOver, quiet, waiting]
    simp [turnsCarried, turned]
  · have wheel : (merged earlier last).wheel = last.wheel := (merged_rest earlier last).1
    rw [passedOver, emitted, emptied, taken, List.dropLast_concat, turned_append]
    simp [turnsCarried, turned, wheel, Int.add_comm]

theorem run_turns (pacer : Pacer) (operations : List Operation) :
    turnsCarried (pacer.run operations).2 + turned (pacer.run operations).1.waiting +
      turned (pacer.passedOverIn operations) = turned pacer.waiting + turned (pushed operations) := by
  induction operations generalizing pacer with
  | nil => simp [run, turnsCarried, passedOverIn, pushed, turned]
  | cons operation rest ih =>
      have now := step_turns pacer operation
      have later := ih (pacer.step operation).1
      simp only [run, passedOverIn, pushed_cons, turned_append, turns_carried_append]
      omega

def Unturned (pacer : Pacer) : Prop := ∀ state ∈ pacer.waiting, state.wheel = 0

theorem waits_unturned (pacer : Pacer) (state : State) (now : Nat) (fresh : ¬ Repeats pacer.lastSeen state)
    (waits : pacer.urgent state now = false) : state.wheel = 0 := by
  have same := unchanged_of_waits pacer state now waits
  by_contra turns
  exact fresh ⟨same.1, same.2, turns⟩

theorem step_unturned (pacer : Pacer) (operation : Operation) (unturned : pacer.Unturned)
    (fresh : ∀ state ∈ operation.pushed, ¬ Repeats pacer.lastSeen state) :
    (pacer.step operation).1.Unturned ∧ ∀ state ∈ pacer.passedOver operation, state.wheel = 0 := by
  cases operation with
  | push state now =>
      rcases push_cases pacer state now with ⟨_, emits⟩ | ⟨urgent, waits⟩
      · simp only [passedOver, step, emits, Operation.pushed, List.dropLast_concat]
        exact ⟨fun _ member => absurd member List.not_mem_nil, unturned⟩
      · simp only [passedOver, step, waits]
        refine ⟨fun other member => ?_, fun _ member => absurd member List.not_mem_nil⟩
        rcases List.mem_append.mp member with earlier | last
        · exact unturned other earlier
        · rw [List.mem_singleton.mp last]
          -- It waits with the wheel of the state before it, and a turned wheel would make it a repeat.
          exact waits_unturned pacer state now (fresh state List.mem_cons_self) urgent
  | flush now =>
      rcases flush_cases pacer now with ⟨_, idle⟩ | ⟨_, _, _, _, emits⟩
      · simp only [passedOver, step, idle]
        exact ⟨unturned, fun _ member => absurd member List.not_mem_nil⟩
      · simp only [passedOver, step, emits, Operation.pushed, List.append_nil]
        exact ⟨fun _ member => absurd member List.not_mem_nil,
          fun other member => unturned other (List.dropLast_subset _ member)⟩

theorem run_unturned (pacer : Pacer) (operations : List Operation) (unturned : pacer.Unturned)
    (fresh : (pacer.lastSeen :: pushed operations).IsChain fun earlier later => ¬ Repeats earlier later) :
    (pacer.run operations).1.Unturned ∧ ∀ state ∈ pacer.passedOverIn operations, state.wheel = 0 := by
  induction operations generalizing pacer with
  | nil => exact ⟨unturned, fun state member => absurd member List.not_mem_nil⟩
  | cons operation rest ih =>
      have parts : (∀ state ∈ operation.pushed, ¬ Repeats pacer.lastSeen state) ∧
          ((pacer.step operation).1.lastSeen :: pushed rest).IsChain fun earlier later => ¬ Repeats earlier later := by
        rw [step_last_seen]
        cases operation with
        | push state now =>
            obtain ⟨first, others⟩ := List.isChain_cons_cons.mp fresh
            exact ⟨fun other member => List.mem_singleton.mp member ▸ first, others⟩
        | flush now => exact ⟨fun _ member => absurd member List.not_mem_nil, fresh⟩
      obtain ⟨next, own⟩ := step_unturned pacer operation unturned parts.1
      obtain ⟨final, others⟩ := ih _ next parts.2
      refine ⟨final, fun state member => ?_⟩
      rcases List.mem_append.mp member with now | later
      · exact own state now
      · exact others state later

end Pacer

theorem pacer_wheel_balance (capacity interval now : Nat) (operations : List Pacer.Operation) :
    let start := Pacer.start capacity interval now
    let result := start.run operations
    turnsCarried result.2 + turned result.1.waiting + turned (start.passedOverIn operations) =
      turned (Pacer.pushed operations) ∧
    ((Pacer.pushed operations).IsChain (fun earlier later => ¬ Repeats earlier later) →
      (∀ state ∈ result.1.waiting, state.wheel = 0) ∧
      turnsCarried result.2 + turned result.1.waiting = turned (Pacer.pushed operations)) := by
  intro start result
  have balance : turnsCarried result.2 + turned result.1.waiting + turned (start.passedOverIn operations) =
      turned (Pacer.pushed operations) := by
    rw [Pacer.run_turns start operations]
    exact Int.zero_add _
  refine ⟨balance, fun fresh => ?_⟩
  have idle := Pacer.run_unturned start operations (fun _ member => absurd member List.not_mem_nil)
    (fresh.cons fun state _ => rest_never_repeated state)
  refine ⟨idle.1, ?_⟩
  rw [← balance, turned_nothing _ idle.2, Int.add_zero]

-- The second of three equal wheel steps waits, and the third goes out in its place.
theorem pacer_loses_repeated_turn :
    let steps : List Pacer.Operation :=
      [.push ⟨0, 0, 1, 0, 0⟩ 1, .push ⟨0, 0, 1, 0, 0⟩ 2, .push ⟨0, 0, 1, 0, 0⟩ 17001]
    let result := (Pacer.start 10 17000 0).run steps
    turnsCarried result.2 + turned result.1.waiting ≠ turned (Pacer.pushed steps) := by
  decide

end HidRelay.Pointer
