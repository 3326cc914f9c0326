import HidRelay.Descriptor.Boot
import HidRelay.Proofs.Descriptor.Written
import HidRelay.Proofs.Relay.Requests

/-!
Connections with a descriptor that cannot be read. Such a connection is refused before anything is
touched: a device that was not connected stays unknown until it connects with a better descriptor, and
one that was connected keeps the session it had.
-/

set_option autoImplicit false

namespace HidRelay

open Device (Address Delivery Roster Session)
open Relay (Answer Operation)

namespace Line

def NeverOpens (line : Line) (device : Address) : List Request → Prop
  | [] => True
  | request :: rest =>
      (request.opens? = some device → (line.ask request).1 ≠ .ok .connected) ∧ (line.ask request).2.NeverOpens device rest

structure Unknown (line : Line) (device : Address) : Prop where
  absent : line.roster.session? device = none
  dispatched : ∀ settings id report now,
    (line.ask (.dispatch settings device id report now)).1 = .error .unknownDevice
  notified : ∀ settings id report now, (line.ask (.notify settings device id report now)).1 = .error .unknownDevice

theorem notify_unknown (roster : Roster) (settings : Settings) (device : Address) (id : UInt8) (report : Bytes) (now : Nat)
    (absent : roster.session? device = none) : roster.notify settings device id report now = .error .unknownDevice := by
  rw [Roster.notify, absent]

theorem unknown_of_absent (line : Line) (device : Address) (absent : line.roster.session? device = none) :
    line.Unknown device where
  absent := absent
  dispatched := fun settings id report now => by
    rw [ask_error_iff, Request.answer, notify_unknown line.roster settings device id report now absent]
    rfl
  notified := fun settings id report now => by
    rw [ask_error_iff, Request.answer, Request.relay_notify_eq,
      notify_unknown line.roster settings device id report now absent]
    rfl

theorem update_absent (roster : Roster) (device other : Address) (session : Session) (different : device ≠ other)
    (absent : roster.session? device = none) : (roster.update other session).session? device = none := by
  rw [Roster.session_update, if_neg different, absent]

theorem answer_absent (request : Request) (line next : Line) (given : Answer) (device : Address)
    (absent : line.roster.session? device = none) (closed : request.opens? = some device → given ≠ .connected)
    (answered : request.answer line = .ok (next, given)) : next.roster.session? device = none := by
  rcases request.answer_cases line next given answered with
    ⟨other, catalog, opens, connected, opened⟩ | ⟨other, gone⟩ |
    ⟨settings, other, id, report, now, delivery, heard⟩ | ⟨now, flushed⟩
  · have different : device ≠ other := fun own => closed (own ▸ opens) connected
    rw [Roster.insert] at opened
    split at opened
    · cases opened
    · rw [← Except.ok.inj opened]
      exact update_absent line.roster device other _ different absent
  · rw [gone]
    refine (Roster.session_disconnect line.roster other device).trans ?_
    rw [absent, ite_self]
  · rcases Roster.notify_outcome line.roster settings other id report now with
      ⟨_, _, failed⟩ | ⟨session, later, _, found, done⟩
    · cases failed.symm.trans heard
    · have different : device ≠ other := by
        rintro rfl
        cases absent.symm.trans found
      rw [← (Prod.mk.inj (Except.ok.inj (done.symm.trans heard))).1]
      exact update_absent line.roster device other later different absent
  · rw [flushed]
    exact (OrderedTable.lookup_map_values device _ line.roster.sessions).trans (congrArg _ absent)

theorem ask_absent (line : Line) (request : Request) (device : Address) (absent : line.roster.session? device = none)
    (closed : request.opens? = some device → (line.ask request).1 ≠ .ok .connected) :
    (line.ask request).2.roster.session? device = none := by
  rw [ask_eq] at closed ⊢
  cases answered : request.answer line with
  | error failure => exact absent
  | ok outcome =>
      rw [answered] at closed
      refine answer_absent request line outcome.1 outcome.2 device absent ?_ answered
      exact fun own connected => closed own (congrArg Except.ok connected)

theorem after_absent (line : Line) (requests : List Request) (device : Address)
    (absent : line.roster.session? device = none) (closed : line.NeverOpens device requests) :
    (line.after requests).roster.session? device = none := by
  induction requests generalizing line with
  | nil => exact absent
  | cons request rest ih => exact ih _ (ask_absent line request device absent closed.1) closed.2

theorem ask_malformed (line : Line) (device : Address) (descriptor : Bytes) (fault : Descriptor.Fault)
    (malformed : Descriptor.read descriptor = .error fault) :
    line.ask (.connect device descriptor) = (.error (.descriptor fault), line) := by
  have refused : (Request.connect device descriptor).answer line = .error (.descriptor fault) := by
    rw [Request.answer, Roster.connect, malformed]
    rfl
  rw [ask_eq, refused]
  rfl

end Line

namespace Relay

def NeverOpens (relay : Relay) (device : Address) (operations : List Operation) : Prop :=
  (Line.mk relay.roster []).NeverOpens device (operations.map (Operation.request relay.settings))

theorem perform_malformed (relay : Relay) (device : Address) (descriptor : Bytes) (fault : Descriptor.Fault)
    (malformed : Descriptor.read descriptor = .error fault) :
    relay.perform (.connect device descriptor) = ⟨relay, .failed (.descriptor fault), []⟩ := by
  rcases connect_cases relay device descriptor with ⟨failure, failed, done⟩ | ⟨catalog, found, _⟩
  · rw [Roster.connect, malformed] at failed
    cases failed
    exact done
  · rw [malformed] at found
    cases found

theorem notify_stranger (relay : Relay) (device : Address) (id : UInt8) (report : Bytes) (now : Nat)
    (absent : relay.roster.session? device = none) :
    relay.perform (.notify device id report now) = ⟨relay, .failed .unknownDevice, []⟩ := by
  simp only [perform, notify, Line.notify_unknown relay.roster relay.settings device id report now absent]

theorem run_absent (relay : Relay) (operations : List Operation) (device : Address)
    (absent : relay.roster.session? device = none) (closed : relay.NeverOpens device operations) :
    (relay.after operations).roster.session? device = none := by
  have line := Line.after_absent ⟨relay.roster, []⟩ _ device absent closed
  rwa [after_operations] at line

end Relay

theorem malformed_descriptor_refused (device : Address) (descriptor : Bytes) (fault : Descriptor.Fault)
    (malformed : Descriptor.read descriptor = .error fault) :
    (∀ line : Line, line.ask (.connect device descriptor) = (.error (.descriptor fault), line) ∧
      ∀ later, line.roster.session? device = none → line.NeverOpens device later →
        (line.after (.connect device descriptor :: later)).Unknown device) ∧
    ∀ relay : Relay, relay.perform (.connect device descriptor) = ⟨relay, .failed (.descriptor fault), []⟩ ∧
      ∀ later, relay.roster.session? device = none → relay.NeverOpens device later → ∀ id report now,
        let next := relay.after (.connect device descriptor :: later)
        next.roster.session? device = none ∧
        next.perform (.notify device id report now) = ⟨next, .failed .unknownDevice, []⟩ := by
  refine ⟨fun line => ?_, fun relay => ?_⟩
  · have refused := line.ask_malformed device descriptor fault malformed
    refine ⟨refused, fun later absent closed => ?_⟩
    rw [Line.after, refused]
    exact Line.unknown_of_absent _ device (line.after_absent later device absent closed)
  · have refused := relay.perform_malformed device descriptor fault malformed
    refine ⟨refused, fun later absent closed id report now => ?_⟩
    have still := relay.run_absent later device absent closed
    rw [Relay.after, refused]
    exact ⟨still, Relay.notify_stranger _ device id report now still⟩

namespace Line

def quietDevice : Address := ⟨1, 0, 0, 0, 0, 0⟩

def loneClose : Bytes := [0xC0]

theorem lone_close_malformed : Descriptor.read loneClose = .error (.nothingToClose 0) := by
  have wellFormed : ∀ token ∈ [Descriptor.Tag.endCollection.write .none], token.WellFormed := by decide
  have scanned := Descriptor.Token.scan_encode_all _ 0 wellFormed
  have bytes : Descriptor.Token.encodeAll [Descriptor.Tag.endCollection.write .none] = loneClose := rfl
  rw [bytes] at scanned
  simp only [Descriptor.read, scanned]
  rfl

def strangersRun : List Request :=
  let other : Address := ⟨2, 0, 0, 0, 0, 0⟩
  [.connect other Descriptor.BootDevice.mouse.descriptor, .notify .standard quietDevice 0 [0x01] 10,
    .disconnect other, .connect quietDevice loneClose]

theorem lone_close_refused :
    (start 4).roster.session? quietDevice = none ∧ (start 4).NeverOpens quietDevice strangersRun ∧
      ((start 4).after (.connect quietDevice loneClose :: strangersRun)).Unknown quietDevice := by
  have refused (line : Line) : (line.ask (.connect quietDevice loneClose)).1 ≠ .ok .connected := by
    rw [line.ask_malformed quietDevice loneClose _ lone_close_malformed]
    exact nofun
  have other : some (⟨2, 0, 0, 0, 0, 0⟩ : Address) ≠ some quietDevice := by decide
  have closed : (start 4).NeverOpens quietDevice strangersRun :=
    ⟨fun own => absurd own other, nofun, nofun, fun _ => refused _, trivial⟩
  have law := malformed_descriptor_refused quietDevice loneClose _ lone_close_malformed
  exact ⟨rfl, closed, (law.1 (start 4)).2 strangersRun rfl closed⟩

theorem stale_session_kept :
    ¬ ∀ limit requests device descriptor fault, Descriptor.read descriptor = .error fault →
      (((start limit).after requests).ask (.connect device descriptor)).2.roster.session? device = none := by
  intro dropped
  have gone := dropped 4 [.connect quietDevice Descriptor.BootDevice.keyboard.descriptor] quietDevice loneClose _
    lone_close_malformed
  rw [ask_malformed _ quietDevice loneClose _ lone_close_malformed] at gone
  have present : (((start 4).after [.connect quietDevice Descriptor.BootDevice.keyboard.descriptor]).roster.session?
      quietDevice).isSome = true := by decide +kernel
  rw [gone] at present
  cases present

end Line
end HidRelay
