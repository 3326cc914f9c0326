import HidRelay.Proofs.Pointer.Movement

set_option autoImplicit false

namespace HidRelay.Pointer.Pacer

inductive Operation where
  | push (state : State) (now : Nat)
  | flush (now : Nat)
deriving DecidableEq, Repr

def Operation.pushed : Operation → List State
  | .push state _ => [state]
  | .flush _ => []

def Operation.time : Operation → Nat
  | .push _ now => now
  | .flush now => now

def pushed (operations : List Operation) : List State := operations.flatMap Operation.pushed

def step (pacer : Pacer) : Operation → Pacer × Option Motion
  | .push state now => pacer.push state now
  | .flush now => pacer.flush now

def run (pacer : Pacer) : List Operation → Pacer × List Motion
  | [] => (pacer, [])
  | operation :: rest =>
      let stepped := pacer.step operation
      let later := stepped.1.run rest
      (later.1, stepped.2.toList ++ later.2)

theorem push_cases (pacer : Pacer) (state : State) (now : Nat) :
    (pacer.urgent state now = true ∧ pacer.push state now =
      ({ pacer with waiting := [], lastEmission := now, lastSeen := state }, some (merged pacer.waiting state))) ∨
    (pacer.urgent state now = false ∧ pacer.push state now =
      ({ pacer with waiting := pacer.waiting ++ [state], lastSeen := state }, none)) := by
  cases urgent : pacer.urgent state now with
  | true => exact .inl ⟨rfl, by rw [push, if_pos urgent]; rfl⟩
  | false => exact .inr ⟨rfl, by rw [push, if_neg (Bool.eq_false_iff.mp urgent)]⟩

theorem flush_cases (pacer : Pacer) (now : Nat) :
    ((pacer.elapsed now < pacer.interval ∨ pacer.waiting = []) ∧ pacer.flush now = (pacer, none)) ∨
    ∃ earlier last, pacer.waiting = earlier ++ [last] ∧ pacer.interval ≤ pacer.elapsed now ∧
      pacer.flush now = ({ pacer with waiting := [], lastEmission := now }, some (merged earlier last)) := by
  by_cases early : pacer.elapsed now < pacer.interval
  · exact .inl ⟨.inl early, by rw [flush, if_pos early]⟩
  · cases found : pacer.waiting.getLast? with
    | none => exact .inl ⟨.inr (List.getLast?_eq_none_iff.mp found), by rw [flush, if_neg early, found]⟩
    | some last =>
        obtain ⟨earlier, split⟩ := List.getLast?_eq_some_iff.mp found
        refine .inr ⟨earlier, last, split, Nat.not_lt.mp early, ?_⟩
        rw [flush, if_neg early, found, split, List.dropLast_concat]
        rfl

-- All that a step can do: let wait what it is given, or empty the pacer into one motion.
theorem step_shape (pacer : Pacer) (operation : Operation) :
    ((∀ state ∈ operation.pushed, pacer.urgent state operation.time = false) ∧ pacer.step operation =
      ({ pacer with
          waiting := pacer.waiting ++ operation.pushed
          lastSeen := operation.pushed.getLastD pacer.lastSeen }, none)) ∨
    ∃ earlier last, pacer.waiting ++ operation.pushed = earlier ++ [last] ∧ pacer.step operation =
      ({ pacer with
          waiting := []
          lastEmission := operation.time
          lastSeen := operation.pushed.getLastD pacer.lastSeen }, some (merged earlier last)) := by
  cases operation with
  | push state now =>
      rcases push_cases pacer state now with ⟨_, emits⟩ | ⟨urgent, waits⟩
      · exact .inr ⟨pacer.waiting, state, rfl, emits⟩
      · exact .inl ⟨fun other member => List.mem_singleton.mp member ▸ urgent, waits⟩
  | flush now =>
      rcases flush_cases pacer now with ⟨_, idle⟩ | ⟨earlier, last, split, _, emits⟩
      · refine .inl ⟨fun _ member => absurd member List.not_mem_nil, ?_⟩
        rw [step, idle, Operation.pushed, List.append_nil]
        rfl
      · exact .inr ⟨earlier, last, (List.append_nil _).trans split, emits⟩

theorem step_cases (pacer : Pacer) (operation : Operation) :
    ((pacer.step operation).2 = none ∧
      (pacer.step operation).1.waiting = pacer.waiting ++ operation.pushed) ∨
    ∃ earlier last, pacer.waiting ++ operation.pushed = earlier ++ [last] ∧
      (pacer.step operation).2 = some (merged earlier last) ∧ (pacer.step operation).1.waiting = [] := by
  rcases step_shape pacer operation with ⟨_, waits⟩ | ⟨earlier, last, taken, emits⟩
  · rw [waits]
    exact .inl ⟨rfl, rfl⟩
  · rw [emits]
    exact .inr ⟨earlier, last, taken, rfl, rfl⟩

theorem step_capacity (pacer : Pacer) (operation : Operation) :
    (pacer.step operation).1.capacity = pacer.capacity := by
  rcases step_shape pacer operation with ⟨_, waits⟩ | ⟨_, _, _, emits⟩
  · rw [waits]
  · rw [emits]

theorem step_interval (pacer : Pacer) (operation : Operation) :
    (pacer.step operation).1.interval = pacer.interval := by
  rcases step_shape pacer operation with ⟨_, waits⟩ | ⟨_, _, _, emits⟩
  · rw [waits]
  · rw [emits]

theorem step_last_seen (pacer : Pacer) (operation : Operation) :
    (pacer.step operation).1.lastSeen = operation.pushed.getLastD pacer.lastSeen := by
  rcases step_shape pacer operation with ⟨_, waits⟩ | ⟨_, _, _, emits⟩
  · rw [waits]
  · rw [emits]

theorem step_last_emission (pacer : Pacer) (operation : Operation) (began : pacer.lastEmission ≤ operation.time) :
    pacer.lastEmission ≤ (pacer.step operation).1.lastEmission ∧
      (pacer.step operation).1.lastEmission ≤ operation.time := by
  rcases step_shape pacer operation with ⟨_, waits⟩ | ⟨_, _, _, emits⟩
  · rw [waits]
    exact ⟨Nat.le_refl _, began⟩
  · rw [emits]
    exact ⟨began, Nat.le_refl _⟩

theorem step_pending (pacer : Pacer) (operation : Operation) (bounded : pacer.pending ≤ pacer.capacity) :
    (pacer.step operation).1.pending ≤ pacer.capacity := by
  cases operation with
  | push state now => exact push_pending pacer state now
  | flush now => exact Nat.le_trans (flush_pending pacer now) bounded

theorem block_bounded (pacer : Pacer) (operation : Operation) (bounded : pacer.pending ≤ pacer.capacity) :
    (pacer.waiting ++ operation.pushed).length ≤ pacer.capacity + 1 := by
  have one : operation.pushed.length ≤ 1 := by cases operation <;> simp [Operation.pushed]
  have free : pacer.waiting.length ≤ pacer.capacity := bounded
  rw [List.length_append]
  omega

theorem pushed_cons (operation : Operation) (rest : List Operation) :
    pushed (operation :: rest) = operation.pushed ++ pushed rest := rfl

theorem run_append (pacer : Pacer) (before after : List Operation) :
    pacer.run (before ++ after) =
      (((pacer.run before).1.run after).1, (pacer.run before).2 ++ ((pacer.run before).1.run after).2) := by
  induction before generalizing pacer with
  | nil => rfl
  | cons operation rest ih =>
      rw [List.cons_append, run, ih]
      simp only [run, List.append_assoc]

end HidRelay.Pointer.Pacer
