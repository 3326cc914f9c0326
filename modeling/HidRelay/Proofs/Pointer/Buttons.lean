import HidRelay.Proofs.Pointer.Blocks

/-!
The buttons that a host is shown. Only a report with the buttons and the wheel of the one before it may
wait, so the states that wait all look like the last one pushed.
-/

set_option autoImplicit false

namespace HidRelay.Pointer

theorem last_append {α : Type} (fallback : α) (before after : List α) :
    (before ++ after).getLastD fallback = after.getLastD (before.getLastD fallback) := by
  simp only [List.getLastD_eq_getLast?, List.getLast?_append, Option.getD_or]

def State.packetButtons (state : State) : UInt8 := state.buttons &&& 0x1F

theorem rest_buttons : State.rest.packetButtons = 0 := by decide

-- Before anything was emitted the host takes every button to be up.
def shown (motions : List Motion) : UInt8 := (motions.map Motion.buttons).getLastD 0

def transitions (current : UInt8) : List UInt8 → List UInt8
  | [] => []
  | next :: rest => if next = current then transitions current rest else next :: transitions next rest

theorem transitions_append (current : UInt8) (before after : List UInt8) :
    transitions current (before ++ after) =
      transitions current before ++ transitions (before.getLastD current) after := by
  induction before generalizing current with
  | nil => rfl
  | cons next rest ih =>
      rw [List.cons_append, transitions, transitions, List.getLastD_cons, ih, ih]
      split
      case isTrue same => rw [same]
      case isFalse different => rfl

namespace Pacer

def Steady (pacer : Pacer) : Prop :=
  ∀ state ∈ pacer.waiting, state.buttons = pacer.lastSeen.buttons ∧ state.wheel = pacer.lastSeen.wheel

theorem start_steady (capacity interval now : Nat) : (start capacity interval now).Steady :=
  fun _ member => absurd member List.not_mem_nil

theorem unchanged_of_waits (pacer : Pacer) (state : State) (now : Nat)
    (waits : pacer.urgent state now = false) :
    state.buttons = pacer.lastSeen.buttons ∧ state.wheel = pacer.lastSeen.wheel := by
  simp only [urgent, changed, decide_eq_true_eq, decide_eq_false_iff_not, not_or, ne_eq, not_not] at waits
  exact waits.1

theorem step_steady (pacer : Pacer) (operation : Operation) (steady : pacer.Steady) :
    (pacer.step operation).1.Steady := by
  intro state member
  cases operation with
  | push pushed now =>
      rcases push_cases pacer pushed now with ⟨_, emits⟩ | ⟨urgent, waits⟩
      · rw [step, emits] at member
        exact absurd member List.not_mem_nil
      · rw [step, waits] at member ⊢
        have same := unchanged_of_waits pacer pushed now urgent
        rcases List.mem_append.mp member with earlier | last
        · have before := steady state earlier
          exact ⟨before.1.trans same.1.symm, before.2.trans same.2.symm⟩
        · rw [List.mem_singleton.mp last]
          exact ⟨rfl, rfl⟩
  | flush now =>
      rcases flush_cases pacer now with ⟨_, idle⟩ | ⟨_, _, _, _, emits⟩
      · rw [step, idle] at member ⊢
        exact steady state member
      · rw [step, emits] at member
        exact absurd member List.not_mem_nil

theorem run_steady (pacer : Pacer) (operations : List Operation) (steady : pacer.Steady) :
    (pacer.run operations).1.Steady := by
  induction operations generalizing pacer with
  | nil => exact steady
  | cons operation rest ih => exact ih _ (step_steady pacer operation steady)

theorem run_last_seen (pacer : Pacer) (operations : List Operation) :
    (pacer.run operations).1.lastSeen = (pushed operations).getLastD pacer.lastSeen := by
  induction operations generalizing pacer with
  | nil => rfl
  | cons operation rest ih =>
      rw [pushed_cons, last_append, ← step_last_seen]
      exact ih _

-- Whatever a step emits and whatever it is given, both end at the buttons last seen, by the same changes.
theorem step_buttons (pacer : Pacer) (operation : Operation) (steady : pacer.Steady) :
    let emitted := (pacer.step operation).2.toList.map Motion.buttons
    let given := operation.pushed.map State.packetButtons
    let current := pacer.lastSeen.packetButtons
    transitions current emitted = transitions current given ∧
      emitted.getLastD current = given.getLastD current := by
  intro emitted given current
  cases operation with
  | push state now =>
      rcases push_cases pacer state now with ⟨_, emits⟩ | ⟨urgent, waits⟩
      · have same : emitted = given := by
          have buttons : (merged pacer.waiting state).buttons = state.packetButtons := (merged_rest _ state).2
          simp only [emitted, given, step, emits, Option.toList_some, List.map_cons, List.map_nil, buttons,
            Operation.pushed]
        rw [same]
        exact ⟨rfl, rfl⟩
      -- A push waits only if it repeats the buttons last seen, which is no transition.
      · have quiet : emitted = [] := by simp only [emitted, step, waits, Option.toList_none, List.map_nil]
        have same : state.packetButtons = current :=
          congrArg (· &&& 0x1F) (unchanged_of_waits pacer state now urgent).1
        have repeated : given = [current] := congrArg (fun buttons => [buttons]) same
        rw [quiet, repeated]
        simp [transitions]
  | flush now =>
      rcases flush_cases pacer now with ⟨_, idle⟩ | ⟨earlier, last, split, _, emits⟩
      · have quiet : emitted = [] := by simp only [emitted, step, idle, Option.toList_none, List.map_nil]
        rw [quiet]
        exact ⟨rfl, rfl⟩
      · have waited : last ∈ pacer.waiting := split ▸ List.mem_append_right _ List.mem_cons_self
        have same : (merged earlier last).buttons = current :=
          (merged_rest earlier last).2.trans (congrArg (· &&& 0x1F) (steady last waited).1)
        have repeated : emitted = [current] := by
          simp only [emitted, step, emits, Option.toList_some, List.map_cons, List.map_nil, same]
        have nothing : given = [] := rfl
        rw [repeated, nothing]
        simp [transitions]

theorem run_buttons (pacer : Pacer) (operations : List Operation) (steady : pacer.Steady) :
    let emitted := (pacer.run operations).2.map Motion.buttons
    let given := (pushed operations).map State.packetButtons
    let current := pacer.lastSeen.packetButtons
    transitions current emitted = transitions current given ∧
      emitted.getLastD current = given.getLastD current := by
  induction operations generalizing pacer with
  | nil => exact ⟨rfl, rfl⟩
  | cons operation rest ih =>
      obtain ⟨stepChanges, stepLast⟩ := step_buttons pacer operation steady
      obtain ⟨laterChanges, laterLast⟩ := ih (pacer.step operation).1 (step_steady pacer operation steady)
      have seen : (operation.pushed.map State.packetButtons).getLastD pacer.lastSeen.packetButtons =
          (pacer.step operation).1.lastSeen.packetButtons := by rw [List.getLastD_map, step_last_seen]
      simp only [run, pushed_cons, List.map_append, transitions_append, last_append, stepChanges, stepLast, seen]
      exact ⟨congrArg _ laterChanges, laterLast⟩

theorem start_shows (capacity interval now : Nat) (operations : List Operation) :
    shown ((start capacity interval now).run operations).2 =
      ((pushed operations).getLastD State.rest).packetButtons := by
  have buttons := (run_buttons (start capacity interval now) operations (start_steady capacity interval now)).2
  rw [shown, ← rest_buttons]
  exact buttons.trans List.getLastD_map

theorem waiting_were_pushed (capacity interval now : Nat) (operations : List Operation) :
    ∀ state ∈ ((start capacity interval now).run operations).1.waiting, state ∈ pushed operations := by
  intro state waits
  obtain ⟨blocks, split, _⟩ := run_blocks (start capacity interval now) operations (Nat.zero_le capacity)
  have all : blocks.flatten ++ ((start capacity interval now).run operations).1.waiting = pushed operations := split
  exact all ▸ List.mem_append_right _ waits

theorem flush_repeats (pacer : Pacer) (now : Nat) (motion : Motion) (steady : pacer.Steady)
    (emitted : (pacer.flush now).2 = some motion) : motion.buttons = pacer.lastSeen.packetButtons := by
  have buttons := (step_buttons pacer (.flush now) steady).2
  simp only [step, emitted] at buttons
  exact buttons

end Pacer

theorem pacer_shows_every_button_change (capacity interval now : Nat) (operations : List Pacer.Operation) :
    let start := Pacer.start capacity interval now
    let result := start.run operations
    (∀ state time, shown (start.run (operations ++ [.push state time])).2 = state.buttons &&& 0x1F) ∧
    (∀ state ∈ result.1.waiting, ∃ last, (Pacer.pushed operations).getLast? = some last ∧
      state.buttons = last.buttons ∧ state.wheel = last.wheel) ∧
    (∀ time motion, (result.1.flush time).2 = some motion → motion.buttons = shown result.2) ∧
    transitions 0 (result.2.map Motion.buttons) =
      transitions 0 ((Pacer.pushed operations).map fun state => state.buttons &&& 0x1F) := by
  intro start result
  have began : start.Steady := Pacer.start_steady capacity interval now
  have steady : result.1.Steady := Pacer.run_steady start operations began
  have seen : result.1.lastSeen = (Pacer.pushed operations).getLastD State.rest := Pacer.run_last_seen start operations
  refine ⟨?_, ?_, ?_, ?_⟩
  · intro state time
    rw [Pacer.start_shows, Pacer.pushed, List.flatMap_append, last_append]
    rfl
  · intro state waits
    have alike := steady state waits
    rw [seen] at alike
    have known : state ∈ Pacer.pushed operations := Pacer.waiting_were_pushed capacity interval now operations state waits
    have last := List.getLast?_eq_some_getLast (List.ne_nil_of_mem known)
    rw [List.getLastD_eq_getLast?, last] at alike
    exact ⟨_, last, alike⟩
  · intro time motion emitted
    rw [Pacer.start_shows, ← seen]
    exact Pacer.flush_repeats result.1 time motion steady emitted
  · rw [← rest_buttons]
    exact (Pacer.run_buttons start operations began).1

end HidRelay.Pointer
