import HidRelay.Device.Roster
import HidRelay.Proofs.Pointer.PacerRun
import HidRelay.Proofs.TableTotals
import Mathlib.Data.List.Basic

set_option autoImplicit false

namespace HidRelay

open Pointer (State Motion Axis Pacer Moderate moved carried merged merged_exact reach_bounded)

namespace Pointer.Pacer

-- A pacer as a session keeps it: few states wait, and merging them all stays within the signed 32-bit range.
structure Sound (pacer : Pacer) : Prop where
  capacity : pacer.capacity = Settings.waitingCapacity
  few : pacer.pending ≤ Settings.waitingCapacity
  moderate : ∀ state ∈ pacer.waiting, Moderate (Settings.waitingCapacity + 1) state

theorem start_sound (interval now : Nat) : (start Settings.waitingCapacity interval now).Sound :=
  ⟨rfl, Nat.zero_le _, fun _ member => absurd member List.not_mem_nil⟩

variable (pacer : Pacer) (operation : Operation) (sound : pacer.Sound)
  (moderate : ∀ state ∈ operation.pushed, Moderate (Settings.waitingCapacity + 1) state)
include sound moderate

theorem taken_moderate :
    ∀ state ∈ pacer.waiting ++ operation.pushed, Moderate (Settings.waitingCapacity + 1) state := by
  intro state member
  rcases List.mem_append.mp member with waits | pushed
  · exact sound.moderate state waits
  · exact moderate state pushed

theorem step_sound : (pacer.step operation).1.Sound := by
  have capacity := step_capacity pacer operation
  have few := step_pending pacer operation (sound.capacity ▸ sound.few)
  refine ⟨capacity.trans sound.capacity, sound.capacity ▸ few, ?_⟩
  intro state member
  rcases step_cases pacer operation with ⟨_, waiting⟩ | ⟨_, _, _, _, emptied⟩
  · exact taken_moderate pacer operation sound moderate state (waiting ▸ member)
  · exact absurd (emptied ▸ member) List.not_mem_nil

theorem step_balance (axis : Axis) :
    moved axis (pacer.step operation).1.waiting + carried axis (pacer.step operation).2.toList =
      moved axis pacer.waiting + moved axis operation.pushed := by
  rw [← Pointer.moved_append]
  rcases step_cases pacer operation with ⟨quiet, waiting⟩ | ⟨earlier, last, taken, emitted, emptied⟩
  · rw [quiet, waiting]
    exact Int.add_zero _
  · have few : (pacer.waiting ++ operation.pushed).length ≤ Settings.waitingCapacity + 1 :=
      sound.capacity ▸ block_bounded pacer operation (sound.capacity ▸ sound.few)
    have room := reach_bounded axis _ _ few (taken_moderate pacer operation sound moderate)
    rw [emitted, emptied, taken, ← merged_exact axis earlier last (taken ▸ room)]
    change 0 + ((merged earlier last).along axis + 0) = _
    rw [Int.zero_add, Int.add_zero]

end Pointer.Pacer

namespace Device

def Delivery.motions : Delivery → List Motion
  | .pointer motion => motion.toList
  | .keyboard _ => []
  | .ignored => []

namespace Session

def waiting (session : Session) : List State := session.pacers.values.flatMap Pacer.waiting

def heard (session : Session) (id : UInt8) (report : Bytes) : List State :=
  match session.catalog.resolveInput id with
  | none => []
  | some layout =>
      if layout.application.isKeyboardLike then []
      else if layout.application.isPointerLike then
        match Pointer.decode report layout with
        | .error _ => []
        | .ok decoded => [decoded.state]
      else []

def Sound (session : Session) : Prop := session.pacers.Every Pacer.Sound

theorem start_sound (catalog : Report.Catalog) : (start catalog).Sound :=
  OrderedTable.every_empty Pacer.Sound

theorem moved_waiting (axis : Axis) (session : Session) :
    moved axis session.waiting = session.pacers.total fun pacer => moved axis pacer.waiting :=
  Pointer.sum_flat_map (State.along axis) Pacer.waiting session.pacers.values

theorem carried_flush (axis : Axis) (session : Session) (now : Nat) :
    carried axis (session.flush now).2 =
      session.pacers.total fun pacer => carried axis (pacer.flush now).2.toList := by
  rw [flush, List.filterMap_eq_flatMap_toList]
  exact Pointer.sum_flat_map (Motion.along axis) _ session.pacers.values

theorem notify_cases (session : Session) (settings : Settings) (id : UInt8) (report : Bytes) (now : Nat) :
    (session.catalog.resolveInput id = none ∧
      session.notify settings id report now = .error (.unknownReport id)) ∨
    ∃ layout, session.catalog.resolveInput id = some layout ∧
      ((layout.application.isKeyboardLike = true ∧
        let encoded := (session.encoder settings layout.id).encode (Keyboard.decode report layout).state
        session.notify settings id report now =
          .ok ({ session with encoders := session.encoders.insert layout.id encoded.1 }, .keyboard encoded.2)) ∨
      (layout.application.isKeyboardLike = false ∧ layout.application.isPointerLike = true ∧
        Pointer.decode report layout = .error ⟨⟩ ∧ session.notify settings id report now = .error .numberOverflow) ∨
      (layout.application.isKeyboardLike = false ∧ layout.application.isPointerLike = true ∧
        ∃ decoded, Pointer.decode report layout = .ok decoded ∧
        let pushed := (session.pacer settings layout.id now).push decoded.state now
        session.notify settings id report now =
          .ok ({ session with pacers := session.pacers.insert layout.id pushed.1 }, .pointer pushed.2)) ∨
      (layout.application.isKeyboardLike = false ∧ layout.application.isPointerLike = false ∧
        session.notify settings id report now = .ok (session, .ignored))) := by
  cases found : session.catalog.resolveInput id with
  | none => exact .inl ⟨rfl, by rw [notify, found]⟩
  | some layout =>
      refine .inr ⟨layout, rfl, ?_⟩
      cases keyboard : layout.application.isKeyboardLike with
      | true => exact .inl ⟨rfl, by simp only [notify, found, keyboard, if_true]⟩
      | false =>
          cases pointer : layout.application.isPointerLike with
          | true =>
              cases decodes : Pointer.decode report layout with
              | error _ => exact .inr (.inl ⟨rfl, rfl, rfl, by simp [notify, found, keyboard, pointer, decodes]⟩)
              | ok decoded =>
                  exact .inr (.inr (.inl ⟨rfl, rfl, decoded, rfl, by simp [notify, found, keyboard, pointer, decodes]⟩))
          | false => exact .inr (.inr (.inr ⟨rfl, rfl, by simp [notify, found, keyboard, pointer]⟩))

theorem pacer_sound (session : Session) (settings : Settings) (id : UInt8) (now : Nat) (sound : session.Sound) :
    (session.pacer settings id now).Sound := by
  rw [pacer]
  cases found : session.pacers.lookup id with
  | none => exact Pacer.start_sound settings.interval now
  | some pacer => exact sound id pacer found

theorem moved_pacer (axis : Axis) (session : Session) (settings : Settings) (id : UInt8) (now : Nat) :
    moved axis (session.pacer settings id now).waiting =
      session.pacers.share (fun pacer => moved axis pacer.waiting) id := by
  rw [pacer, OrderedTable.share]
  cases session.pacers.lookup id with
  | none => rfl
  | some pacer => rfl

theorem push_balance (session : Session) (settings : Settings) (id : UInt8) (state : State) (now : Nat)
    (sound : session.Sound) (moderate : Moderate (Settings.waitingCapacity + 1) state) :
    let pushed := (session.pacer settings id now).push state now
    let next := { session with pacers := session.pacers.insert id pushed.1 }
    next.Sound ∧ ∀ axis, moved axis next.waiting + carried axis pushed.2.toList =
      moved axis session.waiting + moved axis [state] := by
  intro pushed next
  have pacerSound := pacer_sound session settings id now sound
  have allModerate : ∀ other ∈ [state], Moderate (Settings.waitingCapacity + 1) other :=
    fun other member => List.mem_singleton.mp member ▸ moderate
  refine ⟨?_, fun axis => ?_⟩
  · exact OrderedTable.every_insert _ id pushed.1 _ sound
      (Pacer.step_sound _ (.push state now) pacerSound allModerate)
  · have balance : moved axis pushed.1.waiting + carried axis pushed.2.toList =
        moved axis (session.pacer settings id now).waiting + moved axis [state] :=
      Pacer.step_balance _ (.push state now) pacerSound allModerate axis
    have replaced : moved axis next.waiting + moved axis (session.pacer settings id now).waiting =
        moved axis session.waiting + moved axis pushed.1.waiting := by
      rw [moved_waiting, moved_waiting, moved_pacer]
      exact OrderedTable.total_insert _ id pushed.1 session.pacers
    omega

theorem notify_balance (session : Session) (settings : Settings) (id : UInt8) (report : Bytes) (now : Nat)
    (next : Session) (delivery : Delivery) (sound : session.Sound)
    (moderate : ∀ state ∈ session.heard id report, Moderate (Settings.waitingCapacity + 1) state)
    (answer : session.notify settings id report now = .ok (next, delivery)) :
    next.Sound ∧ ∀ axis, moved axis next.waiting + carried axis delivery.motions =
      moved axis session.waiting + moved axis (session.heard id report) := by
  rcases notify_cases session settings id report now with
    ⟨_, failed⟩ | ⟨layout, found, ⟨keyboard, encodes⟩ | ⟨_, _, _, failed⟩ | ⟨other, pointer, decoded, decodes, pushes⟩ |
      ⟨other, neither, ignores⟩⟩
  · rw [failed] at answer
    exact nomatch answer
  · have nothing : session.heard id report = [] := by simp only [heard, found, keyboard, if_true]
    rw [encodes] at answer
    cases answer
    exact ⟨sound, fun axis => by rw [nothing]; rfl⟩
  · rw [failed] at answer
    exact nomatch answer
  · have one : session.heard id report = [decoded.state] := by simp [heard, found, other, pointer, decodes]
    rw [one] at moderate ⊢
    rw [pushes] at answer
    cases answer
    exact push_balance session settings layout.id decoded.state now sound
      (moderate _ (List.mem_singleton.mpr rfl))
  · have nothing : session.heard id report = [] := by simp [heard, found, other, neither]
    rw [ignores] at answer
    cases answer
    exact ⟨sound, fun axis => by rw [nothing]; rfl⟩

theorem notify_failed (session : Session) (settings : Settings) (id : UInt8) (report : Bytes) (now : Nat)
    (failure : Failure) (answer : session.notify settings id report now = .error failure) :
    session.heard id report = [] := by
  rcases notify_cases session settings id report now with
    ⟨missing, _⟩ | ⟨layout, found, ⟨_, encodes⟩ | ⟨other, pointer, overflows, _⟩ | ⟨_, _, _, _, pushes⟩ | ⟨_, _, ignores⟩⟩
  · rw [heard, missing]
  · rw [encodes] at answer
    exact nomatch answer
  · simp [heard, found, other, pointer, overflows]
  · rw [pushes] at answer
    exact nomatch answer
  · rw [ignores] at answer
    exact nomatch answer

theorem flush_balance (session : Session) (now : Nat) (sound : session.Sound) :
    (session.flush now).1.Sound ∧ ∀ axis,
      moved axis (session.flush now).1.waiting + carried axis (session.flush now).2 = moved axis session.waiting := by
  have nothing : ∀ state ∈ (Pacer.Operation.flush now).pushed, Moderate (Settings.waitingCapacity + 1) state :=
    fun state member => absurd member List.not_mem_nil
  refine ⟨?_, fun axis => ?_⟩
  · apply OrderedTable.every_map_values
    intro id pacer found
    exact Pacer.step_sound pacer (.flush now) (sound id pacer found) nothing
  · rw [moved_waiting, moved_waiting, carried_flush]
    apply OrderedTable.total_map_values
    intro id pacer found
    have balance : moved axis (pacer.flush now).1.waiting + carried axis (pacer.flush now).2.toList =
        moved axis pacer.waiting + 0 :=
      Pacer.step_balance pacer (.flush now) (sound id pacer found) nothing axis
    rw [balance, Int.add_zero]

end Session

namespace Roster

def waiting (roster : Roster) : List State := roster.sessions.values.flatMap Session.waiting

def waitingAt (roster : Roster) (device : Address) : List State :=
  (roster.session? device).toList.flatMap Session.waiting

def heard (roster : Roster) (device : Address) (id : UInt8) (report : Bytes) : List State :=
  (roster.session? device).toList.flatMap fun session => session.heard id report

def Sound (roster : Roster) : Prop := roster.sessions.Every Session.Sound

theorem start_sound (limit : Nat) : (start limit).Sound := OrderedTable.every_empty Session.Sound

theorem moved_waiting (axis : Axis) (roster : Roster) :
    moved axis roster.waiting = roster.sessions.total fun session => moved axis session.waiting :=
  Pointer.sum_flat_map (State.along axis) Session.waiting roster.sessions.values

theorem moved_waiting_at (axis : Axis) (roster : Roster) (device : Address) :
    moved axis (roster.waitingAt device) = roster.sessions.share (fun session => moved axis session.waiting) device := by
  rw [waitingAt, OrderedTable.share, session?]
  cases roster.sessions.lookup device with
  | none => rfl
  | some session => simp [Pointer.moved]

theorem carried_flush (axis : Axis) (roster : Roster) (now : Nat) :
    carried axis ((roster.flush now).2.flatMap (·.2)) =
      roster.sessions.total fun session => carried axis (session.flush now).2 := by
  rw [flush, List.flatMap_map, OrderedTable.total, OrderedTable.values, List.map_map]
  exact Pointer.sum_flat_map (Motion.along axis) _ roster.sessions.entries

theorem update_balance (roster : Roster) (device : Address) (session : Session) (sound : roster.Sound)
    (own : session.Sound) :
    (roster.update device session).Sound ∧ ∀ axis,
      moved axis (roster.update device session).waiting + moved axis (roster.waitingAt device) =
        moved axis roster.waiting + moved axis session.waiting := by
  refine ⟨OrderedTable.every_insert _ device session _ sound own, fun axis => ?_⟩
  rw [moved_waiting, moved_waiting, moved_waiting_at]
  exact OrderedTable.total_insert _ device session roster.sessions

theorem disconnect_balance (roster : Roster) (device : Address) (sound : roster.Sound) :
    (roster.disconnect device).1.Sound ∧ ∀ axis,
      moved axis (roster.disconnect device).1.waiting + moved axis (roster.waitingAt device) =
        moved axis roster.waiting := by
  refine ⟨OrderedTable.every_erase _ device _ sound, fun axis => ?_⟩
  rw [moved_waiting, moved_waiting, moved_waiting_at]
  exact OrderedTable.total_erase _ device roster.sessions

theorem notify_balance (roster : Roster) (settings : Settings) (device : Address) (id : UInt8) (report : Bytes)
    (now : Nat) (next : Roster) (delivery : Delivery) (sound : roster.Sound)
    (moderate : ∀ state ∈ roster.heard device id report, Moderate (Settings.waitingCapacity + 1) state)
    (answer : roster.notify settings device id report now = .ok (next, delivery)) :
    next.Sound ∧ ∀ axis, moved axis next.waiting + carried axis delivery.motions =
      moved axis roster.waiting + moved axis (roster.heard device id report) := by
  cases connected : roster.session? device with
  | none =>
      rw [notify, connected] at answer
      exact nomatch answer
  | some session =>
      have hears : roster.heard device id report = session.heard id report := by simp [heard, connected]
      have holds : roster.waitingAt device = session.waiting := by simp [waitingAt, connected]
      rw [hears] at moderate ⊢
      cases delivered : session.notify settings id report now with
      | error failure =>
          simp only [notify, connected, delivered] at answer
          exact nomatch answer
      | ok result =>
          obtain ⟨later, given⟩ := result
          have own := Session.notify_balance session settings id report now later given
            (sound device session connected) moderate delivered
          have replaced := update_balance roster device later sound own.1
          simp only [notify, connected, delivered] at answer
          cases answer
          refine ⟨replaced.1, fun axis => ?_⟩
          have taken := replaced.2 axis
          have kept := own.2 axis
          rw [holds] at taken
          omega

theorem notify_failed (roster : Roster) (settings : Settings) (device : Address) (id : UInt8) (report : Bytes)
    (now : Nat) (failure : Failure) (answer : roster.notify settings device id report now = .error failure) :
    roster.heard device id report = [] := by
  cases connected : roster.session? device with
  | none => rw [heard, connected]; rfl
  | some session =>
      cases delivered : session.notify settings id report now with
      | error failure =>
          have nothing := Session.notify_failed session settings id report now failure delivered
          simp [heard, connected, nothing]
      | ok result =>
          simp only [notify, connected, delivered] at answer
          exact nomatch answer

theorem flush_balance (roster : Roster) (now : Nat) (sound : roster.Sound) :
    (roster.flush now).1.Sound ∧ ∀ axis, moved axis (roster.flush now).1.waiting +
      carried axis ((roster.flush now).2.flatMap (·.2)) = moved axis roster.waiting := by
  refine ⟨?_, fun axis => ?_⟩
  · apply OrderedTable.every_map_values
    intro device session found
    exact (Session.flush_balance session now (sound device session found)).1
  · rw [moved_waiting, moved_waiting, carried_flush]
    apply OrderedTable.total_map_values
    intro device session found
    exact (Session.flush_balance session now (sound device session found)).2 axis

end Roster
end Device
end HidRelay
