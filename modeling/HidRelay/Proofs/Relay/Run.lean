import HidRelay.Relay

set_option autoImplicit false

namespace HidRelay.Relay

open Device (Address Delivery Roster)

inductive Operation where
  | connect (device : Address) (descriptor : Bytes)
  | disconnect (device : Address)
  | notify (device : Address) (id : UInt8) (report : Bytes) (now : Nat)
  | poll (now : Nat)
deriving DecidableEq, Repr

inductive Answer where
  | connected
  | disconnected (known : Bool)
  | delivered (delivery : Delivery)
  | polled (motions : Nat)
  | failed (failure : Failure)
deriving DecidableEq, Repr

def perform (relay : Relay) : Operation → Reaction Answer
  | .connect device descriptor =>
      match relay.connect device descriptor with
      | .error failure => ⟨relay, .failed failure, []⟩
      | .ok next => ⟨next, .connected, []⟩
  | .disconnect device =>
      let gone := relay.disconnect device
      ⟨gone.1, .disconnected gone.2, []⟩
  | .notify device id report now =>
      match relay.notify device id report now with
      | .error failure => ⟨relay, .failed failure, []⟩
      | .ok reaction => { reaction with result := .delivered reaction.result }
  | .poll now =>
      let reaction := relay.poll now
      { reaction with result := .polled reaction.result }

def after (relay : Relay) : List Operation → Relay
  | [] => relay
  | operation :: rest => (relay.perform operation).relay.after rest

theorem after_append (relay : Relay) (earlier later : List Operation) :
    relay.after (earlier ++ later) = (relay.after earlier).after later := by
  induction earlier generalizing relay with
  | nil => rfl
  | cons operation rest ih => exact ih (relay.perform operation).relay

def gather {α : Type} (yield : Relay → Operation → List α) (relay : Relay) : List Operation → List α
  | [] => []
  | operation :: rest => yield relay operation ++ (relay.perform operation).relay.gather yield rest

def sent (relay : Relay) (operation : Operation) : List Output := (relay.perform operation).sent

inductive Wired (settings : Settings) : Delivery → List Output → Prop where
  | keys (encoded : Keyboard.Encoded) :
      Wired settings (.keyboard encoded) (encoded.events.map fun event => .scanCode event.code)
  | parts (motion : Pointer.Motion) :
      Wired settings (.pointer (some motion))
        ((motion.split settings.protocol).map fun part => .packet part (part.encode settings.protocol))
  | waiting : Wired settings (.pointer none) []
  | ignored : Wired settings .ignored []

theorem outputs_wired (settings : Settings) (delivery : Delivery) : Wired settings delivery (outputs settings delivery) := by
  cases delivery with
  | keyboard encoded => exact .keys encoded
  | ignored => exact .ignored
  | pointer motion =>
      cases motion with
      | none => exact .waiting
      | some motion => exact .parts motion

theorem connect_cases (relay : Relay) (device : Address) (descriptor : Bytes) :
    (∃ failure, relay.roster.connect device descriptor = .error failure ∧
      relay.perform (.connect device descriptor) = ⟨relay, .failed failure, []⟩) ∨
    ∃ catalog, Descriptor.read descriptor = .ok catalog ∧
      relay.roster.connect device descriptor = .ok (relay.roster.update device (.start catalog)) ∧
      relay.perform (.connect device descriptor) =
        ⟨{ relay with roster := relay.roster.update device (.start catalog) }, .connected, []⟩ := by
  have answer : relay.perform (.connect device descriptor) =
      match (relay.roster.connect device descriptor).map fun roster => { relay with roster } with
      | .error failure => ⟨relay, .failed failure, []⟩
      | .ok next => ⟨next, .connected, []⟩ := rfl
  cases read : Descriptor.read descriptor with
  | error fault =>
      have failed : relay.roster.connect device descriptor = .error (.descriptor fault) := by
        rw [Roster.connect, read]
      exact .inl ⟨.descriptor fault, failed, by rw [answer, failed]; rfl⟩
  | ok catalog =>
      have inserts : relay.roster.connect device descriptor = relay.roster.insert device catalog := by
        rw [Roster.connect, read]
      by_cases full : (relay.roster.session? device).isNone ∧ relay.roster.limit ≤ relay.roster.size
      · have failed : relay.roster.connect device descriptor = .error .tooManyDevices := by
          rw [inserts, Roster.insert, if_pos full]
        exact .inl ⟨.tooManyDevices, failed, by rw [answer, failed]; rfl⟩
      · have opened : relay.roster.connect device descriptor = .ok (relay.roster.update device (.start catalog)) := by
          rw [inserts, Roster.insert, if_neg full]
        exact .inr ⟨catalog, rfl, opened, by rw [answer, opened]; rfl⟩

theorem notify_cases (relay : Relay) (device : Address) (id : UInt8) (report : Bytes) (now : Nat) :
    (∃ failure, relay.roster.notify relay.settings device id report now = .error failure ∧
      relay.perform (.notify device id report now) = ⟨relay, .failed failure, []⟩) ∨
    ∃ roster delivery, relay.roster.notify relay.settings device id report now = .ok (roster, delivery) ∧
      relay.perform (.notify device id report now) =
        ⟨{ relay with roster }, .delivered delivery, outputs relay.settings delivery⟩ := by
  cases answer : relay.roster.notify relay.settings device id report now with
  | error failure => exact .inl ⟨failure, rfl, by simp only [perform, notify, answer]⟩
  | ok delivered =>
      obtain ⟨roster, delivery⟩ := delivered
      exact .inr ⟨roster, delivery, rfl, by simp only [perform, notify, answer]⟩

theorem perform_settings (relay : Relay) (operation : Operation) : (relay.perform operation).relay.settings = relay.settings := by
  cases operation with
  | connect device descriptor =>
      rcases connect_cases relay device descriptor with ⟨_, _, kept⟩ | ⟨_, _, _, next⟩
      · rw [kept]
      · rw [next]
  | disconnect device => rfl
  | notify device id report now =>
      rcases notify_cases relay device id report now with ⟨_, _, kept⟩ | ⟨_, _, _, next⟩
      · rw [kept]
      · rw [next]
  | poll now => rfl

theorem after_settings (relay : Relay) (operations : List Operation) : (relay.after operations).settings = relay.settings := by
  induction operations generalizing relay with
  | nil => rfl
  | cons operation rest ih => exact (ih _).trans (perform_settings relay operation)

end HidRelay.Relay
