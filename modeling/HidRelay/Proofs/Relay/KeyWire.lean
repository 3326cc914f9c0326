import HidRelay.Proofs.Keyboard.HostCodes
import HidRelay.Proofs.Relay.Streams

/-!
The keys of all devices on the one keyboard wire. The events of a run go out code by code, each made by
an encoder of the relay's own scan code set, so a host that knows the set reads them all back.
-/

set_option autoImplicit false

namespace HidRelay

open Device
open Report (Layout)
open Keyboard (Change Encoder Held KeyEvent ScanSet)

def Output.keyBytes : Output → Bytes
  | .scanCode code => code
  | .packet _ _ => []

def Device.Delivery.events : Delivery → List KeyEvent
  | .keyboard encoded => encoded.events
  | .pointer _ => []
  | .ignored => []

namespace Relay

def keyEvents (relay : Relay) (operation : Operation) : List KeyEvent :=
  match (relay.perform operation).result with
  | .delivered delivery => delivery.events
  | _ => []

def keysFrom (device : Address) (relay : Relay) : Operation → List KeyEvent
  | .notify sender announced report now =>
      if sender = device then relay.keyEvents (.notify sender announced report now) else []
  | .connect _ _ => []
  | .disconnect _ => []
  | .poll _ => []

def typed (settings : Settings) (device : Address) (session : Session) : Operation → List KeyEvent
  | .notify other announced report now =>
      if other = device then
        match session.notify settings announced report now with
        | .error _ => []
        | .ok (_, delivery) => delivery.events
      else []
  | .connect _ _ => []
  | .disconnect _ => []
  | .poll _ => []

theorem gather_append {α : Type} (yield : Relay → Operation → List α) (relay : Relay) (earlier later : List Operation) :
    relay.gather yield (earlier ++ later) = relay.gather yield earlier ++ (relay.after earlier).gather yield later := by
  induction earlier generalizing relay with
  | nil => rfl
  | cons operation rest ih =>
      rw [List.cons_append, gather, ih, gather, List.append_assoc]
      rfl

theorem gather_single {α : Type} (yield : Relay → Operation → List α) (relay : Relay) (operation : Operation) :
    relay.gather yield [operation] = yield relay operation := List.append_nil _

theorem connect_silent (relay : Relay) (device : Address) (descriptor : Bytes) :
    relay.sent (.connect device descriptor) = [] := by
  rcases connect_cases relay device descriptor with ⟨_, _, done⟩ | ⟨_, _, _, done⟩
  · exact congrArg Reaction.sent done
  · exact congrArg Reaction.sent done

theorem key_events_connect (relay : Relay) (device : Address) (descriptor : Bytes) :
    relay.keyEvents (.connect device descriptor) = [] := by
  rcases connect_cases relay device descriptor with ⟨_, _, done⟩ | ⟨_, _, _, done⟩
  · rw [keyEvents, done]
  · rw [keyEvents, done]

theorem keys_from_eq (device : Address) (relay : Relay) (operation : Operation) :
    relay.keysFrom device operation =
      (relay.roster.session? device).elim [] fun session => typed relay.settings device session operation := by
  cases operation with
  | notify sender announced report now =>
      by_cases own : sender = device
      · subst own
        cases connected : relay.roster.session? sender with
        | none => simp only [keysFrom, keyEvents, perform, notify, Roster.notify, connected, if_true, Option.elim_none]
        | some session =>
            rw [Option.elim_some, keysFrom, typed, if_pos rfl, if_pos rfl]
            cases answer : session.notify relay.settings announced report now with
            | error failure => simp only [keyEvents, perform, notify, Roster.notify, connected, answer]
            | ok delivered => simp only [keyEvents, perform, notify, Roster.notify, connected, answer]
      · simp only [keysFrom, typed, if_neg own]
        cases relay.roster.session? device <;> rfl
  | _ => cases relay.roster.session? device <;> rfl

theorem typed_cases (settings : Settings) (device : Address) (session : Session) (operation : Operation) :
    (typed settings device session operation = [] ∧
      (onward settings device session operation).encoders = session.encoders) ∨
    ∃ (layout : Layout) (report : Bytes),
      let encoded := (session.encoder settings layout.id).encode (Keyboard.decode report layout).state
      typed settings device session operation = encoded.2.events ∧
      (onward settings device session operation).encoders = session.encoders.insert layout.id encoded.1 := by
  cases operation with
  | notify other announced report now =>
      by_cases own : other = device
      · rw [typed, onward, if_pos own, if_pos own]
        rcases Session.notify_cases session settings announced report now with
          ⟨_, failed⟩ | ⟨layout, _, ⟨_, encodes⟩ | ⟨_, _, _, failed⟩ | ⟨_, _, _, _, pushes⟩ | ⟨_, _, ignores⟩⟩
        · rw [failed]
          exact .inl ⟨rfl, rfl⟩
        · rw [encodes]
          exact .inr ⟨layout, report, rfl, rfl⟩
        · rw [failed]
          exact .inl ⟨rfl, rfl⟩
        · rw [pushes]
          exact .inl ⟨rfl, rfl⟩
        · rw [ignores]
          exact .inl ⟨rfl, rfl⟩
      · rw [typed, onward, if_neg own, if_neg own]
        exact .inl ⟨rfl, rfl⟩
  | _ => exact .inl ⟨rfl, rfl⟩

theorem stored_encoder_set (settings : Settings) (operations : List Operation) (device : Address) (session : Session)
    (found : ((start settings).after operations).roster.session? device = some session) :
    session.encoders.Every fun encoder => encoder.set = settings.scanSet := by
  intro id encoder stored
  obtain ⟨_, _, since, _, _, isolated⟩ := session_history settings operations device session found
  rw [isolated.encoders] at stored
  obtain ⟨layout, _, made⟩ := Option.bind_eq_some_iff.mp stored
  rw [Stream.encoder?] at made
  split at made
  · cases made
    exact Keyboard.Encoder.after_set _ _
  · cases made

theorem session_encoder_set (settings : Settings) (session : Session) (id : UInt8)
    (sets : session.encoders.Every fun encoder => encoder.set = settings.scanSet) :
    (session.encoder settings id).set = settings.scanSet := by
  rw [Session.encoder]
  cases stored : session.encoders.lookup id with
  | none => rfl
  | some encoder => exact sets id encoder stored

theorem key_events_genuine (settings : Settings) (operations : List Operation) (operation : Operation) :
    ∀ event ∈ ((start settings).after operations).keyEvents operation, event.Genuine settings.scanSet := by
  intro event member
  have constant : ((start settings).after operations).settings = settings := after_settings _ operations
  cases operation with
  | connect device descriptor =>
      rw [key_events_connect] at member
      exact absurd member List.not_mem_nil
  | disconnect device => exact absurd member List.not_mem_nil
  | poll now => exact absurd member List.not_mem_nil
  | notify device announced report now =>
      have own := keys_from_eq device ((start settings).after operations) (.notify device announced report now)
      rw [keysFrom, if_pos rfl, constant] at own
      rw [own] at member
      cases found : ((start settings).after operations).roster.session? device with
      | none =>
          rw [found] at member
          exact absurd member List.not_mem_nil
      | some session =>
          rw [found, Option.elim_some] at member
          have sets := stored_encoder_set settings operations device session found
          rcases typed_cases settings device session (.notify device announced report now) with
            ⟨nothing, _⟩ | ⟨layout, bytes, events, _⟩
          · rw [nothing] at member
            exact absurd member List.not_mem_nil
          · rw [events] at member
            rw [← session_encoder_set settings session layout.id sets]
            exact Keyboard.encode_genuine _ _ event member

theorem run_events_genuine (settings : Settings) (operations : List Operation) :
    ∀ event ∈ (start settings).gather keyEvents operations, event.Genuine settings.scanSet := by
  induction operations using List.reverseRecOn with
  | nil => exact fun event member => absurd member List.not_mem_nil
  | append_singleton earlier operation ih =>
      intro event member
      rw [gather_append, gather_single] at member
      rcases List.mem_append.mp member with before | last
      · exact ih event before
      · exact key_events_genuine settings earlier operation event last

theorem packets_keyless (settings : Settings) (motions : List Pointer.Motion) :
    (motions.flatMap (packets settings)).flatMap Output.keyBytes = [] := by
  rw [List.flatMap_assoc, List.flatMap_eq_nil_iff]
  intro motion _
  rw [packets, List.flatMap_map, List.flatMap_eq_nil_iff]
  exact fun part _ => rfl

theorem delivery_key_bytes (settings : Settings) (delivery : Delivery) :
    (outputs settings delivery).flatMap Output.keyBytes = delivery.events.flatMap (·.code) := by
  cases delivery with
  | keyboard encoded => exact List.flatMap_map _ _ encoded.events
  | ignored => rfl
  | pointer motion =>
      cases motion with
      | none => rfl
      | some motion =>
          have one := packets_keyless settings [motion]
          rwa [List.flatMap_singleton] at one

theorem sent_key_bytes (relay : Relay) (operation : Operation) :
    (relay.sent operation).flatMap Output.keyBytes = (relay.keyEvents operation).flatMap (·.code) := by
  cases operation with
  | connect device descriptor =>
      rw [key_events_connect, connect_silent]
      rfl
  | disconnect device => rfl
  | notify device id report now =>
      rcases notify_cases relay device id report now with ⟨_, _, done⟩ | ⟨_, delivery, _, done⟩
      · rw [sent, keyEvents, done]
        rfl
      · rw [sent, keyEvents, done]
        exact delivery_key_bytes relay.settings delivery
  | poll now => exact packets_keyless relay.settings _

theorem run_key_bytes (relay : Relay) (operations : List Operation) :
    (relay.gather sent operations).flatMap Output.keyBytes = (relay.gather keyEvents operations).flatMap (·.code) := by
  induction operations generalizing relay with
  | nil => rfl
  | cons operation rest ih =>
      rw [gather, gather, List.flatMap_append, List.flatMap_append, sent_key_bytes, ih]

theorem transitions_read_back :
    (∀ (set : ScanSet) (left right : List Change), (∀ change ∈ left ++ right, change.Coded set) →
      left.flatMap (·.sent set) = right.flatMap (·.sent set) →
      List.Forall₂ (fun one other => one.sent set = other.sent set ∧ one.transition = other.transition) left right) ∧
    (∀ (set : ScanSet) (calls : List (Encoder × Held)), (∀ call ∈ calls, call.1.set = set) →
      let events := calls.flatMap fun call => (call.1.encode call.2).2.events
      set.codes (events.flatMap (·.code)) = events.map (·.reading)) ∧
    ∀ settings operations,
      settings.scanSet.codes (((start settings).gather sent operations).flatMap (·.keyBytes)) =
        ((start settings).gather keyEvents operations).map (·.reading) := by
  refine ⟨fun set left right coded same => ?_, fun set calls sets => ?_, fun settings operations => ?_⟩
  · have own := Keyboard.codes_of_changes set left fun change member => coded change (List.mem_append_left _ member)
    have other := Keyboard.codes_of_changes set right fun change member => coded change (List.mem_append_right _ member)
    rw [same, other] at own
    have paired := List.forall₂_eq_eq_eq ▸ own.symm
    rw [List.forall₂_map_left_iff, List.forall₂_map_right_iff] at paired
    refine paired.imp fun one other alike => ?_
    exact ⟨congrArg Prod.snd alike, congrArg Prod.fst alike⟩
  · refine Keyboard.codes_of_events set _ fun event member => ?_
    obtain ⟨call, inCalls, inEvents⟩ := List.mem_flatMap.mp member
    rw [← sets call inCalls]
    exact Keyboard.encode_genuine call.1 call.2 event inEvents
  · rw [run_key_bytes]
    exact Keyboard.codes_of_events settings.scanSet _ (run_events_genuine settings operations)

-- Pause and then one of two keys that have the same code.
def backslashes (usage : UInt16) : List Change :=
  [⟨0x07, 0x48, .press⟩, ⟨0x07, usage, .press⟩, ⟨0x07, usage, .release⟩]

def twoKeyboards : List (Encoder × Held) :=
  [(⟨.one, some (.empty 0x07)⟩, (Held.empty 0x07).press 0x04), (.start .one, (Held.empty 0x0C).press 0xE2)]

theorem backslashes_read_back :
    (∀ change ∈ backslashes 0x31 ++ backslashes 0x32, change.Coded .two) ∧
    (backslashes 0x31).flatMap (·.sent .two) = (backslashes 0x32).flatMap (·.sent .two) ∧
    List.Forall₂ (fun one other => one.sent .two = other.sent .two ∧ one.transition = other.transition)
      (backslashes 0x31) (backslashes 0x32) ∧
    (∀ call ∈ twoKeyboards, call.1.set = .one) ∧
    ScanSet.codes .one [0x1E, 0xE0, 0x20] = [(.press, [0x1E]), (.press, [0xE0, 0x20])] := by
  have coded : ∀ change ∈ backslashes 0x31 ++ backslashes 0x32, change.Coded .two := by decide +kernel
  have same : (backslashes 0x31).flatMap (·.sent .two) = (backslashes 0x32).flatMap (·.sent .two) := by decide +kernel
  have sets : ∀ call ∈ twoKeyboards, call.1.set = .one := by decide
  let events := twoKeyboards.flatMap fun call => (call.1.encode call.2).2.events
  have wire : events.flatMap (·.code) = [0x1E, 0xE0, 0x20] := by decide +kernel
  have readings : events.map (·.reading) = [(.press, [0x1E]), (.press, [0xE0, 0x20])] := by decide +kernel
  have heard := transitions_read_back.2.1 .one twoKeyboards sets
  exact ⟨coded, same, transitions_read_back.1 .two _ _ coded same, sets, wire ▸ heard.trans readings⟩

end Relay
end HidRelay
