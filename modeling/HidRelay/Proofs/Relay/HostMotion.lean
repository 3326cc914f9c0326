import HidRelay.Descriptor.Boot
import HidRelay.Proofs.Device.Waiting
import HidRelay.Proofs.Pointer.Parts
import HidRelay.Proofs.Relay.Run

set_option autoImplicit false

namespace HidRelay

open Device (Address Delivery Roster Session)
open Pointer (State Motion Axis Moderate moved carried)

namespace Output

def movement (axis : Axis) : Output → Int
  | .scanCode _ => 0
  | .packet _ bytes => Pointer.Host.movement axis bytes

def overflows (axis : Axis) : Output → Bool
  | .scanCode _ => false
  | .packet _ bytes => Pointer.Host.overflows axis bytes

end Output

def hostMoved (axis : Axis) (outputs : List Output) : Int := (outputs.map (Output.movement axis)).sum

def Carriable (motion : Motion) : Prop := ∀ axis, (motion.along axis).natAbs ≤ 1020

instance (motion : Motion) : Decidable (Carriable motion) :=
  inferInstanceAs (Decidable (∀ axis, (motion.along axis).natAbs ≤ 1020))

namespace Relay

def heard (relay : Relay) : Operation → List State
  | .notify device id report _ => relay.roster.heard device id report
  | .connect _ _ => []
  | .disconnect _ => []
  | .poll _ => []

def emitted (relay : Relay) : Operation → List Motion
  | .notify device id report now =>
      match relay.roster.notify relay.settings device id report now with
      | .error _ => []
      | .ok (_, delivery) => delivery.motions
  | .poll now => (relay.roster.flush now).2.flatMap (·.2)
  | .connect _ _ => []
  | .disconnect _ => []

def abandoned (relay : Relay) : Operation → List State
  | .connect device descriptor =>
      match relay.roster.connect device descriptor with
      | .error _ => []
      | .ok _ => relay.roster.waitingAt device
  | .disconnect device => relay.roster.waitingAt device
  | .notify _ _ _ _ => []
  | .poll _ => []

def waiting (relay : Relay) : List State := relay.roster.waiting

theorem perform_balance (relay : Relay) (operation : Operation) (sound : relay.roster.Sound)
    (moderate : ∀ state ∈ relay.heard operation, Moderate (Settings.waitingCapacity + 1) state) :
    (relay.perform operation).relay.roster.Sound ∧ ∀ axis,
      moved axis (relay.perform operation).relay.waiting + carried axis (relay.emitted operation) +
        moved axis (relay.abandoned operation) = moved axis relay.waiting + moved axis (relay.heard operation) := by
  cases operation with
  | connect device descriptor =>
      rcases connect_cases relay device descriptor with ⟨failure, failed, kept⟩ | ⟨catalog, _, opened, next⟩
      · rw [kept]
        exact ⟨sound, fun axis => by simp [heard, emitted, abandoned, failed]⟩
      · have balance := Roster.update_balance relay.roster device (.start catalog) sound
          (Session.start_sound catalog)
        have fresh : (Session.start catalog).waiting = [] := rfl
        rw [next]
        refine ⟨balance.1, fun axis => ?_⟩
        simpa [waiting, heard, emitted, abandoned, opened, fresh] using balance.2 axis
  | disconnect device =>
      have balance := Roster.disconnect_balance relay.roster device sound
      refine ⟨balance.1, fun axis => ?_⟩
      simpa [perform, disconnect, waiting, heard, emitted, abandoned] using balance.2 axis
  | notify device id report now =>
      rcases notify_cases relay device id report now with ⟨failure, failed, kept⟩ | ⟨roster, delivery, answer, next⟩
      · have silent := Roster.notify_failed relay.roster relay.settings device id report now failure failed
        rw [kept]
        exact ⟨sound, fun axis => by simp [heard, emitted, abandoned, failed, silent]⟩
      · have balance := Roster.notify_balance relay.roster relay.settings device id report now roster delivery
          sound moderate answer
        rw [next]
        refine ⟨balance.1, fun axis => ?_⟩
        simpa [waiting, heard, emitted, abandoned, answer] using balance.2 axis
  | poll now =>
      have balance := Roster.flush_balance relay.roster now sound
      refine ⟨balance.1, fun axis => ?_⟩
      simpa [perform, poll, waiting, heard, emitted, abandoned] using balance.2 axis

theorem run_balance (relay : Relay) (operations : List Operation) (sound : relay.roster.Sound)
    (moderate : ∀ state ∈ relay.gather heard operations, Moderate (Settings.waitingCapacity + 1) state) (axis : Axis) :
    moved axis (relay.after operations).waiting + carried axis (relay.gather emitted operations) +
      moved axis (relay.gather abandoned operations) =
        moved axis relay.waiting + moved axis (relay.gather heard operations) := by
  induction operations generalizing relay with
  | nil => simp [after, gather]
  | cons operation rest ih =>
      have step := perform_balance relay operation sound fun state member =>
        moderate state (List.mem_append_left _ member)
      have later := ih (relay.perform operation).relay step.1 fun state member =>
        moderate state (List.mem_append_right _ member)
      have now := step.2 axis
      simp only [after, gather, Pointer.moved_append, Pointer.carried_append]
      omega

theorem packets_move (settings : Settings) (motion : Motion) (axis : Axis) (carriable : Carriable motion) :
    hostMoved axis (packets settings motion) = axis.direction * motion.along axis := by
  have exact : Word.clamp (-1020) 1020 (motion.along axis) = motion.along axis := by
    have limit := carriable axis
    apply Word.clamp_of_within
    · omega
    · omega
  rw [hostMoved, packets, List.map_map, ← exact]
  exact Motion.host_movement_split axis settings.protocol motion

theorem scan_codes_still (axis : Axis) (codes : List Bytes) : hostMoved axis (codes.map .scanCode) = 0 := by
  induction codes with
  | nil => rfl
  | cons code rest ih => exact (Int.zero_add _).trans ih

theorem host_moved_append (axis : Axis) (before after : List Output) :
    hostMoved axis (before ++ after) = hostMoved axis before + hostMoved axis after :=
  Pointer.sum_append (Output.movement axis) before after

theorem all_packets_move (settings : Settings) (motions : List Motion) (axis : Axis)
    (carriable : ∀ motion ∈ motions, Carriable motion) :
    hostMoved axis (motions.flatMap (packets settings)) = axis.direction * carried axis motions := by
  rw [hostMoved, Pointer.sum_flat_map]
  apply Pointer.sum_scaled
  intro motion member
  exact packets_move settings motion axis (carriable motion member)

theorem outputs_split (settings : Settings) (delivery : Delivery) :
    ∃ codes : List Bytes, outputs settings delivery =
      codes.map .scanCode ++ delivery.motions.flatMap (packets settings) := by
  cases delivery with
  | keyboard encoded =>
      refine ⟨encoded.events.map (·.code), ?_⟩
      rw [List.map_map]
      exact (List.append_nil _).symm
  | ignored => exact ⟨[], rfl⟩
  | pointer motion =>
      cases motion with
      | none => exact ⟨[], rfl⟩
      | some motion => exact ⟨[], (List.append_nil _).symm⟩

theorem sent_split (relay : Relay) (operation : Operation) :
    ∃ codes : List Bytes, relay.sent operation =
      codes.map .scanCode ++ (relay.emitted operation).flatMap (packets relay.settings) := by
  cases operation with
  | connect device descriptor =>
      rcases connect_cases relay device descriptor with ⟨_, _, kept⟩ | ⟨_, _, _, next⟩
      · exact ⟨[], congrArg Reaction.sent kept⟩
      · exact ⟨[], congrArg Reaction.sent next⟩
  | disconnect device => exact ⟨[], rfl⟩
  | notify device id report now =>
      rcases notify_cases relay device id report now with ⟨_, failed, kept⟩ | ⟨_, delivery, answer, next⟩
      · rw [sent, kept, emitted, failed]
        exact ⟨[], rfl⟩
      · rw [sent, next, emitted, answer]
        exact outputs_split relay.settings delivery
  | poll now => exact ⟨[], rfl⟩

theorem perform_moves (relay : Relay) (operation : Operation) (axis : Axis)
    (carriable : ∀ motion ∈ relay.emitted operation, Carriable motion) :
    hostMoved axis (relay.sent operation) = axis.direction * carried axis (relay.emitted operation) := by
  obtain ⟨codes, outputs⟩ := sent_split relay operation
  rw [outputs, host_moved_append, scan_codes_still, all_packets_move relay.settings _ axis carriable, Int.zero_add]

theorem run_moves (relay : Relay) (operations : List Operation) (axis : Axis)
    (carriable : ∀ motion ∈ relay.gather emitted operations, Carriable motion) :
    hostMoved axis (relay.gather sent operations) = axis.direction * carried axis (relay.gather emitted operations) := by
  induction operations generalizing relay with
  | nil => exact (Int.mul_zero _).symm
  | cons operation rest ih =>
      have own := perform_moves relay operation axis fun motion member =>
        carriable motion (List.mem_append_left _ member)
      have later := ih (relay.perform operation).relay fun motion member =>
        carriable motion (List.mem_append_right _ member)
      rw [gather, gather, Pointer.carried_append, Int.mul_add, ← own, ← later, host_moved_append]

theorem perform_fits (relay : Relay) (operation : Operation) (axis : Axis) :
    ∀ output ∈ relay.sent operation, output.overflows axis = false := by
  intro output member
  obtain ⟨codes, outputs⟩ := sent_split relay operation
  rw [outputs] at member
  rcases List.mem_append.mp member with key | movement
  · obtain ⟨code, _, image⟩ := List.mem_map.mp key
    rw [← image]
    rfl
  · obtain ⟨motion, _, inPackets⟩ := List.mem_flatMap.mp movement
    obtain ⟨part, inSplit, image⟩ := List.mem_map.mp inPackets
    rw [← image]
    exact Motion.host_overflows_split axis relay.settings.protocol motion part inSplit

theorem run_fits (relay : Relay) (operations : List Operation) (axis : Axis) :
    ∀ output ∈ relay.gather sent operations, output.overflows axis = false := by
  induction operations generalizing relay with
  | nil => exact fun output member => absurd member List.not_mem_nil
  | cons operation rest ih =>
      intro output member
      rcases List.mem_append.mp member with now | later
      · exact perform_fits relay operation axis output now
      · exact ih (relay.perform operation).relay output later

theorem relay_conserves_motion (settings : Settings) (operations : List Operation)
    (moderate : ∀ state ∈ (start settings).gather heard operations, Moderate (Settings.waitingCapacity + 1) state)
    (carriable : ∀ motion ∈ (start settings).gather emitted operations, Carriable motion) (axis : Axis) :
    hostMoved axis ((start settings).gather sent operations) =
      axis.direction * (moved axis ((start settings).gather heard operations) -
        moved axis ((start settings).after operations).waiting -
        moved axis ((start settings).gather abandoned operations)) ∧
    ∀ output ∈ (start settings).gather sent operations, output.overflows axis = false := by
  have balance := run_balance (start settings) operations (Roster.start_sound settings.maxDevices) moderate axis
  have nothing : moved axis (start settings).waiting = 0 := rfl
  refine ⟨?_, run_fits (start settings) operations axis⟩
  rw [run_moves (start settings) operations axis carriable]
  congr 1
  omega

-- Three reports are merged and take two packets; one is lost with its session and one still waits.
def mouseRun : List Operation :=
  let mouse : Address := ⟨1, 0, 0, 0, 0, 0⟩
  let descriptor := Descriptor.BootDevice.mouse.descriptor
  [.connect mouse descriptor,
    .notify mouse 0 [0x00, 0x7F, 0x80] 0, .notify mouse 0 [0x00, 0x7F, 0x80] 100, .notify mouse 0 [0x00, 0x7F, 0x80] 200,
    .poll 20000, .notify mouse 0 [0x00, 0x05, 0x03] 20001, .disconnect mouse,
    .connect mouse descriptor, .notify mouse 0 [0x00, 0x07, 0x01] 30000]

theorem mouse_run_conserves_motion :
    (∀ state ∈ (start .standard).gather heard mouseRun, Moderate (Settings.waitingCapacity + 1) state) ∧
    (∀ motion ∈ (start .standard).gather emitted mouseRun, Carriable motion) ∧
    hostMoved .x ((start .standard).gather sent mouseRun) = 127 + 127 + 127 + 5 + 7 - 7 - 5 ∧
    hostMoved .y ((start .standard).gather sent mouseRun) = -(-128 - 128 - 128 + 3 + 1 - 1 - 3) := by
  have moderate : ∀ state ∈ (start .standard).gather heard mouseRun,
      Moderate (Settings.waitingCapacity + 1) state := by decide +kernel
  have carriable : ∀ motion ∈ (start .standard).gather emitted mouseRun, Carriable motion := by decide +kernel
  refine ⟨moderate, carriable, ?_, ?_⟩
  · rw [(relay_conserves_motion .standard mouseRun moderate carriable .x).1]
    decide +kernel
  · rw [(relay_conserves_motion .standard mouseRun moderate carriable .y).1]
    decide +kernel

end Relay
end HidRelay
