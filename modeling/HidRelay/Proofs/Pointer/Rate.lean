import HidRelay.Proofs.Pointer.Delay

/-!
How often a pacer emits. Every emission has one cause, and pays for it with something of its own: a
change of the pushed states, a full buffer with the push that found it full, or an interval of time.
-/

set_option autoImplicit false

namespace HidRelay.Pointer

def changes (current : State) : List State → Nat
  | [] => 0
  | next :: rest => (if next.buttons ≠ current.buttons ∨ next.wheel ≠ current.wheel then 1 else 0) + changes next rest

theorem changes_append (current : State) (before after : List State) :
    changes current (before ++ after) = changes current before + changes (before.getLastD current) after := by
  induction before generalizing current with
  | nil => exact (Nat.zero_add _).symm
  | cons next rest ih => rw [List.cons_append, changes, changes, ih, List.getLastD_cons, Nat.add_assoc]

namespace Pacer

inductive Cause where
  | change
  | full
  | passed
deriving DecidableEq, Repr

-- Why an operation emits, if it does. The first cause that applies counts.
def cause (pacer : Pacer) : Operation → Option Cause
  | .push state now =>
      if pacer.changed state then some .change
      else if pacer.capacity ≤ pacer.waiting.length then some .full
      else if pacer.interval ≤ pacer.elapsed now then some .passed
      else none
  | .flush now => if pacer.waiting ≠ [] ∧ pacer.interval ≤ pacer.elapsed now then some .passed else none

def causes (pacer : Pacer) : List Operation → List Cause
  | [] => []
  | operation :: rest => (pacer.cause operation).toList ++ (pacer.step operation).1.causes rest

def lastTime (began : Nat) (operations : List Operation) : Nat := (operations.map Operation.time).getLastD began

theorem changes_single (pacer : Pacer) (state : State) :
    changes pacer.lastSeen [state] = if pacer.changed state then 1 else 0 := by
  simp only [changes, changed, decide_eq_true_eq, Nat.add_zero]

theorem push_causes (pacer : Pacer) (state : State) (now : Nat) :
    ((pacer.changed state = true ∧ pacer.cause (.push state now) = some .change ∨
        pacer.changed state = false ∧ pacer.capacity ≤ pacer.waiting.length ∧
          pacer.cause (.push state now) = some .full ∨
        pacer.changed state = false ∧ pacer.interval ≤ pacer.elapsed now ∧
          pacer.cause (.push state now) = some .passed) ∧
      pacer.push state now =
        ({ pacer with waiting := [], lastEmission := now, lastSeen := state }, some (merged pacer.waiting state))) ∨
    (pacer.changed state = false ∧ pacer.cause (.push state now) = none ∧
      pacer.push state now = ({ pacer with waiting := pacer.waiting ++ [state], lastSeen := state }, none)) := by
  rcases push_cases pacer state now with ⟨urgent, emits⟩ | ⟨calm, waits⟩
  · refine .inl ⟨?_, emits⟩
    have reasons := of_decide_eq_true urgent
    rw [cause]
    cases changed : pacer.changed state with
    | true => exact .inl ⟨rfl, rfl⟩
    | false =>
        by_cases full : pacer.capacity ≤ pacer.waiting.length
        · exact .inr (.inl ⟨rfl, full, if_pos full⟩)
        · have passed : pacer.interval ≤ pacer.elapsed now := by simpa [changed, full] using reasons
          exact .inr (.inr ⟨rfl, passed, (if_neg full).trans (if_pos passed)⟩)
  · have idle := of_decide_eq_false calm
    simp only [not_or, Bool.not_eq_true] at idle
    obtain ⟨unchanged, room, early⟩ := idle
    refine .inr ⟨unchanged, ?_, waits⟩
    rw [cause, unchanged, if_neg Bool.false_ne_true, if_neg room, if_neg early]

theorem flush_causes (pacer : Pacer) (now : Nat) :
    (pacer.cause (.flush now) = none ∧ pacer.flush now = (pacer, none)) ∨
    (pacer.interval ≤ pacer.elapsed now ∧ pacer.cause (.flush now) = some .passed ∧
      ∃ motion, pacer.flush now = ({ pacer with waiting := [], lastEmission := now }, some motion)) := by
  rcases flush_cases pacer now with ⟨early | nothing, idle⟩ | ⟨earlier, last, split, passed, emits⟩
  · exact .inl ⟨if_neg fun due => Nat.not_le_of_lt early due.2, idle⟩
  · exact .inl ⟨if_neg fun due => due.1 nothing, idle⟩
  · refine .inr ⟨passed, if_pos ⟨?_, passed⟩, _, emits⟩
    rw [split]
    exact List.concat_ne_nil last earlier

theorem step_cause (pacer : Pacer) (operation : Operation) :
    (pacer.cause operation).toList.length = (pacer.step operation).2.toList.length := by
  cases operation with
  | push state now =>
      rcases push_causes pacer state now with ⟨⟨_, why⟩ | ⟨_, _, why⟩ | ⟨_, _, why⟩, emits⟩ | ⟨_, quiet, waits⟩
      · rw [why, step, emits]
        rfl
      · rw [why, step, emits]
        rfl
      · rw [why, step, emits]
        rfl
      · rw [quiet, step, waits]
        rfl
  | flush now =>
      rcases flush_causes pacer now with ⟨quiet, idle⟩ | ⟨_, why, _, emits⟩
      · rw [quiet, step, idle]
        rfl
      · rw [why, step, emits]
        rfl

theorem causes_length (pacer : Pacer) (operations : List Operation) :
    (pacer.causes operations).length = (pacer.run operations).2.length := by
  induction operations generalizing pacer with
  | nil => rfl
  | cons operation rest ih => rw [causes, run, List.length_append, List.length_append, step_cause, ih]

structure Accounts (pacer next : Pacer) (given : List State) (causes : List Cause) : Prop where
  change : causes.count .change = changes pacer.lastSeen given
  full : next.waiting.length + causes.count .full * (pacer.capacity + 1) ≤ pacer.waiting.length + given.length
  passed : pacer.lastEmission + causes.count .passed * pacer.interval ≤ next.lastEmission

def Takes (pacer : Pacer) (given : List State) (now : Nat) : Cause → Prop
  | .change => changes pacer.lastSeen given = 1
  | .full => changes pacer.lastSeen given = 0 ∧ pacer.capacity + 1 ≤ pacer.waiting.length + given.length
  | .passed => changes pacer.lastSeen given = 0 ∧ pacer.lastEmission + pacer.interval ≤ now

theorem emission_accounts (pacer next : Pacer) (given : List State) (why : Cause) (emptied : next.waiting = [])
    (onward : pacer.lastEmission ≤ next.lastEmission) (takes : pacer.Takes given next.lastEmission why) :
    pacer.Accounts next given [why] := by
  have nothing : next.waiting.length = 0 := List.length_eq_zero_iff.mpr emptied
  cases why with
  | change => exact ⟨takes.symm, by simp [nothing], by simpa using onward⟩
  | full => exact ⟨takes.1.symm, by simpa [nothing] using takes.2, by simpa using onward⟩
  | passed => exact ⟨takes.1.symm, by simp [nothing], by simpa using takes.2⟩

theorem interval_reached (pacer : Pacer) (now : Nat) (began : pacer.lastEmission ≤ now)
    (passed : pacer.interval ≤ pacer.elapsed now) : pacer.lastEmission + pacer.interval ≤ now := by
  rw [elapsed] at passed
  omega

theorem step_accounts (pacer : Pacer) (operation : Operation) (began : pacer.lastEmission ≤ operation.time) :
    pacer.Accounts (pacer.step operation).1 operation.pushed (pacer.cause operation).toList := by
  cases operation with
  | push state now =>
      have change := changes_single pacer state
      rcases push_causes pacer state now with
        ⟨⟨differs, why⟩ | ⟨same, full, why⟩ | ⟨same, passed, why⟩, emits⟩ | ⟨same, quiet, waits⟩
      · rw [differs, if_pos rfl] at change
        rw [why, step, emits]
        exact emission_accounts pacer _ [state] .change rfl began change
      · rw [same, if_neg Bool.false_ne_true] at change
        rw [why, step, emits]
        exact emission_accounts pacer _ [state] .full rfl began ⟨change, Nat.succ_le_succ full⟩
      · rw [same, if_neg Bool.false_ne_true] at change
        rw [why, step, emits]
        exact emission_accounts pacer _ [state] .passed rfl began ⟨change, interval_reached pacer now began passed⟩
      · rw [same, if_neg Bool.false_ne_true] at change
        rw [quiet, step, waits]
        exact ⟨change.symm, by simp [Operation.pushed], by simp⟩
  | flush now =>
      rcases flush_causes pacer now with ⟨quiet, idle⟩ | ⟨passed, why, _, emits⟩
      · rw [quiet, step, idle]
        exact ⟨rfl, by simp [Operation.pushed], by simp⟩
      · rw [why, step, emits]
        exact emission_accounts pacer _ [] .passed rfl began ⟨rfl, interval_reached pacer now began passed⟩

theorem accounts_append (pacer middle next : Pacer) (earlier later : List State) (before after : List Cause)
    (capacity : middle.capacity = pacer.capacity) (interval : middle.interval = pacer.interval)
    (seen : middle.lastSeen = earlier.getLastD pacer.lastSeen) (first : pacer.Accounts middle earlier before)
    (second : middle.Accounts next later after) : pacer.Accounts next (earlier ++ later) (before ++ after) := by
  obtain ⟨change, full, passed⟩ := first
  obtain ⟨change', full', passed'⟩ := second
  rw [capacity] at full'
  rw [interval] at passed'
  refine ⟨?_, ?_, ?_⟩
  · rw [List.count_append, changes_append, change, change', seen]
  · rw [List.count_append, List.length_append, Nat.add_mul]
    omega
  · rw [List.count_append, Nat.add_mul]
    omega

theorem run_accounts (pacer : Pacer) (clock : Nat) (operations : List Operation) (began : pacer.lastEmission ≤ clock)
    (forward : Forward clock operations) :
    pacer.Accounts (pacer.run operations).1 (pushed operations) (pacer.causes operations) ∧
      (pacer.run operations).1.lastEmission ≤ lastTime clock operations := by
  induction operations generalizing pacer clock with
  | nil => exact ⟨⟨rfl, by simp [pushed, causes, run], by simp [causes, run]⟩, began⟩
  | cons operation rest ih =>
      obtain ⟨onward, later⟩ := (forward_cons clock operation rest).mp forward
      have reached : pacer.lastEmission ≤ operation.time := Nat.le_trans began onward
      obtain ⟨others, last⟩ := ih _ operation.time (step_last_emission pacer operation reached).2 later
      refine ⟨?_, ?_⟩
      · exact accounts_append pacer _ _ _ _ _ _ (step_capacity pacer operation) (step_interval pacer operation)
          (step_last_seen pacer operation) (step_accounts pacer operation reached) others
      · rw [lastTime, List.map_cons, List.getLastD_cons]
        exact last

theorem count_causes (causes : List Cause) :
    causes.length = causes.count .passed + causes.count .full + causes.count .change := by
  induction causes with
  | nil => rfl
  | cons why rest ih =>
      cases why <;> simp [ih] <;> omega

end Pacer

theorem emissions_bounded (capacity interval began : Nat) (operations : List Pacer.Operation) (ticks : 0 < interval)
    (forward : Pacer.Forward began operations) :
    ((Pacer.start capacity interval began).run operations).2.length ≤
      (Pacer.lastTime began operations - began) / interval +
        (Pacer.pushed operations).length / (capacity + 1) + changes State.rest (Pacer.pushed operations) := by
  let start := Pacer.start capacity interval began
  obtain ⟨⟨change, full, passed⟩, last⟩ := Pacer.run_accounts start began operations (Nat.le_refl began) forward
  have altered : (start.causes operations).count .change = changes State.rest (Pacer.pushed operations) := change
  have buffers : (start.causes operations).count .full ≤ (Pacer.pushed operations).length / (capacity + 1) := by
    apply (Nat.le_div_iff_mul_le (Nat.add_one_pos capacity)).mpr
    -- Every full buffer was filled by states of its own.
    calc (start.causes operations).count .full * (capacity + 1)
        ≤ (start.run operations).1.waiting.length + (start.causes operations).count .full * (capacity + 1) :=
          Nat.le_add_left _ _
      _ ≤ 0 + (Pacer.pushed operations).length := full
      _ = (Pacer.pushed operations).length := Nat.zero_add _
  have times : (start.causes operations).count .passed ≤ (Pacer.lastTime began operations - began) / interval := by
    apply (Nat.le_div_iff_mul_le ticks).mpr
    apply Nat.le_sub_of_add_le'
    exact Nat.le_trans passed last
  calc (start.run operations).2.length = (start.causes operations).length := (Pacer.causes_length start operations).symm
    _ = _ := Pacer.count_causes _
    _ ≤ _ := Nat.add_le_add (Nat.add_le_add times buffers) (Nat.le_of_eq altered)

-- A button goes down, the buffer fills up, and the interval passes: one emission each, and no more would be allowed.
theorem three_causes_emit :
    let operations : List Pacer.Operation :=
      [.push ⟨1, 0, 0, 0, 1⟩ 1, .push ⟨2, 0, 0, 0, 1⟩ 2, .push ⟨3, 0, 0, 0, 1⟩ 3, .push ⟨4, 0, 0, 0, 1⟩ 4,
        .push ⟨5, 0, 0, 0, 1⟩ 14]
    0 < 10 ∧ Pacer.Forward 0 operations ∧
    (Pacer.start 2 10 0).causes operations = [.change, .full, .passed] ∧
    3 = ((Pacer.start 2 10 0).run operations).2.length ∧
    ((Pacer.start 2 10 0).run operations).2.length ≤
      (Pacer.lastTime 0 operations - 0) / 10 + (Pacer.pushed operations).length / (2 + 1) +
        changes State.rest (Pacer.pushed operations) ∧
    (Pacer.lastTime 0 operations - 0) / 10 + (Pacer.pushed operations).length / (2 + 1) +
      changes State.rest (Pacer.pushed operations) = 3 := by
  intro operations
  have forward : Pacer.Forward 0 operations := by decide
  exact ⟨by decide, forward, by decide, by decide, emissions_bounded 2 10 0 operations (by decide) forward, by decide⟩

end HidRelay.Pointer
