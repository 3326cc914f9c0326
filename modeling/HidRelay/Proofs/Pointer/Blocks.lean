import HidRelay.Proofs.Pointer.PacerRun
import Mathlib.Data.List.Forall2

set_option autoImplicit false

namespace HidRelay.Pointer

structure StandsFor (capacity : Nat) (block : List State) (motion : Motion) : Prop where
  nonempty : 1 ≤ block.length
  bounded : block.length ≤ capacity + 1
  last : ∃ state, block.getLast? = some state ∧ motion.wheel = state.wheel ∧
    motion.buttons = state.buttons &&& 0x1F
  exact : (∀ state ∈ block, Moderate (capacity + 1) state) → ∀ axis, motion.along axis = moved axis block

theorem merged_stands_for (capacity : Nat) (earlier : List State) (last : State)
    (bounded : (earlier ++ [last]).length ≤ capacity + 1) :
    StandsFor capacity (earlier ++ [last]) (merged earlier last) := by
  refine ⟨by simp, bounded, ⟨last, List.getLast?_concat, merged_rest earlier last⟩, ?_⟩
  intro moderate axis
  exact merged_exact axis earlier last (reach_bounded axis (capacity + 1) _ bounded moderate)

namespace Pacer

theorem run_blocks (pacer : Pacer) (operations : List Operation) (bounded : pacer.pending ≤ pacer.capacity) :
    ∃ blocks, blocks.flatten ++ (pacer.run operations).1.waiting = pacer.waiting ++ pushed operations ∧
      List.Forall₂ (StandsFor pacer.capacity) blocks (pacer.run operations).2 := by
  induction operations generalizing pacer with
  | nil => exact ⟨[], (List.append_nil _).symm, .nil⟩
  | cons operation rest ih =>
      have capacity := step_capacity pacer operation
      have pending := step_pending pacer operation bounded
      obtain ⟨blocks, later, stand⟩ := ih (pacer.step operation).1 (capacity ▸ pending)
      rw [capacity] at stand
      rw [run, pushed_cons, ← List.append_assoc]
      rcases step_cases pacer operation with ⟨quiet, waiting⟩ | ⟨earlier, last, block, emitted, emptied⟩
      · rw [waiting] at later
        refine ⟨blocks, later, ?_⟩
        simpa only [quiet, Option.toList_none, List.nil_append] using stand
      · have stands := merged_stands_for pacer.capacity earlier last (block ▸ block_bounded pacer operation bounded)
        rw [emptied, List.nil_append] at later
        refine ⟨(earlier ++ [last]) :: blocks, ?_, ?_⟩
        · rw [List.flatten_cons, List.append_assoc, later, block]
        · simpa only [emitted, Option.toList_some, List.singleton_append] using List.Forall₂.cons stands stand

theorem run_pending (pacer : Pacer) (operations : List Operation) (bounded : pacer.pending ≤ pacer.capacity) :
    (pacer.run operations).1.pending ≤ pacer.capacity := by
  induction operations generalizing pacer with
  | nil => exact bounded
  | cons operation rest ih =>
      have capacity := step_capacity pacer operation
      have later := ih (pacer.step operation).1 (capacity ▸ step_pending pacer operation bounded)
      rw [capacity] at later
      exact later

end Pacer

theorem carried_of_blocks (capacity : Nat) (blocks : List (List State)) (motions : List Motion) (axis : Axis)
    (stand : List.Forall₂ (StandsFor capacity) blocks motions)
    (moderate : ∀ state ∈ blocks.flatten, Moderate (capacity + 1) state) :
    carried axis motions = moved axis blocks.flatten := by
  induction stand with
  | nil => rfl
  | @cons block motion blocks motions stands rest ih =>
      have own := stands.exact (fun state member => moderate state (List.mem_append_left _ member)) axis
      have others := ih fun state member => moderate state (List.mem_append_right _ member)
      rw [List.flatten_cons, moved_append, ← own, ← others]
      rfl

theorem pacer_conserves_motion (capacity interval now : Nat) (operations : List Pacer.Operation) :
    let result := (Pacer.start capacity interval now).run operations
    (∃ blocks, blocks.flatten ++ result.1.waiting = Pacer.pushed operations ∧
      List.Forall₂ (StandsFor capacity) blocks result.2) ∧
    result.1.pending = result.1.waiting.length ∧ result.1.pending ≤ capacity ∧
    ((∀ state ∈ Pacer.pushed operations, Moderate (capacity + 1) state) →
      ∀ axis, carried axis result.2 + moved axis result.1.waiting = moved axis (Pacer.pushed operations)) := by
  intro result
  have empty : (Pacer.start capacity interval now).pending ≤ capacity := Nat.zero_le capacity
  obtain ⟨blocks, split, stand⟩ := Pacer.run_blocks (Pacer.start capacity interval now) operations empty
  refine ⟨⟨blocks, split, stand⟩, rfl, Pacer.run_pending _ operations empty, ?_⟩
  intro moderate axis
  have pushedSplit : blocks.flatten ++ result.1.waiting = Pacer.pushed operations := split
  have inBlocks : ∀ state ∈ blocks.flatten, Moderate (capacity + 1) state := fun state member =>
    moderate state (pushedSplit ▸ List.mem_append_left _ member)
  rw [carried_of_blocks capacity blocks result.2 axis stand inBlocks, ← moved_append, pushedSplit]

end HidRelay.Pointer
