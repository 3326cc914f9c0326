import HidRelay.Proofs.Device.InPlace
import HidRelay.Proofs.Device.Limit
import HidRelay.Proofs.Relay.Run

/-!
Whatever is asked of a roster and of the relay over it, in any order and at any times. There are never
more sessions than the limit allows, a request is refused for one of a few reasons that can be told
beforehand, and a refused one leaves no trace.
-/

set_option autoImplicit false

namespace HidRelay

open Device (Address Delivery Roster Session)
open InPlace (settle map_ok map_error_iff)
open Relay (Answer outputs packets)

structure Line where
  roster : Roster
  sent : List Output

namespace Line

def start (limit : Nat) : Line := ⟨Roster.start limit, []⟩

def onRoster {α : Type} (program : InPlace Roster α) : InPlace Line α := do
  let line ← get
  InPlace.within line.roster (fun roster line => { line with roster }) program

def send (sent : List Output) : InPlace Line Unit :=
  sent.forM fun output => modify fun line => { line with sent := line.sent ++ [output] }

theorem send_eq (line : Line) (sent : List Output) :
    (send sent).perform line = (.ok (), { line with sent := line.sent ++ sent }) := by
  induction sent generalizing line with
  | nil => rw [List.append_nil]; rfl
  | cons output rest ih =>
      have later := ih { line with sent := line.sent ++ [output] }
      rw [List.append_assoc] at later
      exact later

end Line

inductive Request where
  | insert (device : Address) (catalog : Report.Catalog)
  | connect (device : Address) (descriptor : Bytes)
  | disconnect (device : Address)
  | dispatch (settings : Settings) (device : Address) (id : UInt8) (report : Bytes) (now : Nat)
  | notify (settings : Settings) (device : Address) (id : UInt8) (report : Bytes) (now : Nat)
  | poll (settings : Settings) (now : Nat)

namespace Request

open Line (onRoster send)

def steps : Request → InPlace Line Answer
  | .insert device catalog => do
      onRoster (Roster.insertSteps device catalog)
      return .connected
  | .connect device descriptor => do
      onRoster (Roster.connectSteps device descriptor)
      return .connected
  | .disconnect device => do
      let known ← onRoster (Roster.disconnectSteps device)
      return .disconnected known
  | .dispatch settings device id report now => do
      let delivery ← onRoster (Roster.dispatch settings device id report now)
      return .delivered delivery
  | .notify settings device id report now => do
      let delivery ← onRoster (Roster.dispatch settings device id report now)
      send (outputs settings delivery)
      return .delivered delivery
  | .poll settings now => do
      let motions ← onRoster (Roster.flushSteps now)
      send (motions.flatMap (packets settings))
      return .polled motions.length

def answer (line : Line) : Request → Except Failure (Line × Answer)
  | .insert device catalog => (line.roster.insert device catalog).map fun roster => ({ line with roster }, .connected)
  | .connect device descriptor =>
      (line.roster.connect device descriptor).map fun roster => ({ line with roster }, .connected)
  | .disconnect device =>
      let gone := line.roster.disconnect device
      .ok ({ line with roster := gone.1 }, .disconnected gone.2)
  | .dispatch settings device id report now =>
      (line.roster.notify settings device id report now).map fun delivered =>
        ({ line with roster := delivered.1 }, .delivered delivered.2)
  | .notify settings device id report now =>
      ((Relay.mk settings line.roster).notify device id report now).map fun reaction =>
        (⟨reaction.relay.roster, line.sent ++ reaction.sent⟩, .delivered reaction.result)
  | .poll settings now =>
      let reaction := (Relay.mk settings line.roster).poll now
      .ok (⟨reaction.relay.roster, line.sent ++ reaction.sent⟩, .polled reaction.result)

theorem perform_on_roster {α β : Type} (program : InPlace Roster α) (next : α → InPlace Line β) (line : Line) :
    (onRoster program >>= next).perform line =
      match program.perform line.roster with
      | (.error failure, roster) => (.error failure, { line with roster })
      | (.ok value, roster) => (next value).perform { line with roster } := by
  have inside : (onRoster program).perform line =
      ((program.perform line.roster).1, { line with roster := (program.perform line.roster).2 }) := rfl
  rw [InPlace.perform_bind, inside]
  cases program.perform line.roster with
  | mk outcome roster => cases outcome <;> rfl

theorem steps_eq (request : Request) (line : Line) : request.steps.perform line = settle line (request.answer line) := by
  cases request with
  | insert device catalog =>
      rw [steps, perform_on_roster, Roster.insert_steps_eq, answer]
      cases line.roster.insert device catalog <;> rfl
  | connect device descriptor =>
      rw [steps, perform_on_roster, Roster.connect_steps_eq, answer]
      cases line.roster.connect device descriptor <;> rfl
  | disconnect device => rfl
  | dispatch settings device id report now =>
      rw [steps, perform_on_roster, Roster.dispatch_eq, answer]
      cases line.roster.notify settings device id report now <;> rfl
  | notify settings device id report now =>
      rw [steps, perform_on_roster, Roster.dispatch_eq, answer, Relay.notify]
      cases line.roster.notify settings device id report now with
      | error failure => rfl
      | ok delivered =>
          simp only [settle, InPlace.perform_bind, Line.send_eq]
          rfl
  | poll settings now =>
      rw [steps, perform_on_roster, Roster.flush_steps_eq, answer]
      simp only [settle, InPlace.perform_bind, Line.send_eq]
      rfl

theorem relay_notify_eq (relay : Relay) (device : Address) (id : UInt8) (report : Bytes) (now : Nat) :
    relay.notify device id report now = (relay.roster.notify relay.settings device id report now).map fun delivered =>
      ⟨{ relay with roster := delivered.1 }, delivered.2, outputs relay.settings delivered.2⟩ := by
  rw [Relay.notify]
  cases relay.roster.notify relay.settings device id report now <;> rfl

def opens? : Request → Option Address
  | .insert device _ => some device
  | .connect device _ => some device
  | .disconnect _ => none
  | .dispatch _ _ _ _ _ => none
  | .notify _ _ _ _ _ => none
  | .poll _ _ => none

theorem answer_cases (request : Request) (line next : Line) (given : Answer)
    (answered : request.answer line = .ok (next, given)) :
    (∃ device catalog, request.opens? = some device ∧ given = .connected ∧
      line.roster.insert device catalog = .ok next.roster) ∨
    (∃ device, next.roster = (line.roster.disconnect device).1) ∨
    (∃ settings device id report now delivery,
      line.roster.notify settings device id report now = .ok (next.roster, delivery)) ∨
    ∃ now, next.roster = (line.roster.flush now).1 := by
  cases request with
  | insert device catalog =>
      obtain ⟨roster, opened, same⟩ := map_ok answered
      cases same
      exact .inl ⟨device, catalog, rfl, rfl, opened⟩
  | connect device descriptor =>
      obtain ⟨roster, opened, same⟩ := map_ok answered
      cases same
      rw [Roster.connect] at opened
      split at opened
      · cases opened
      · exact .inl ⟨device, _, rfl, rfl, opened⟩
  | disconnect device =>
      cases answered
      exact .inr (.inl ⟨device, rfl⟩)
  | dispatch settings device id report now =>
      obtain ⟨⟨roster, delivery⟩, delivered, same⟩ := map_ok answered
      cases same
      exact .inr (.inr (.inl ⟨settings, device, id, report, now, delivery, delivered⟩))
  | notify settings device id report now =>
      obtain ⟨reaction, notified, same⟩ := map_ok answered
      cases same
      rw [relay_notify_eq] at notified
      obtain ⟨⟨roster, delivery⟩, delivered, same⟩ := map_ok notified
      cases same
      exact .inr (.inr (.inl ⟨settings, device, id, report, now, delivery, delivered⟩))
  | poll settings now =>
      cases answered
      exact .inr (.inr (.inr ⟨now, rfl⟩))

theorem answer_kept (limit : Nat) (request : Request) (line next : Line) (given : Answer) (kept : line.roster.Kept limit)
    (answered : request.answer line = .ok (next, given)) : next.roster.Kept limit := by
  rcases answer_cases request line next given answered with
    ⟨device, catalog, _, _, opened⟩ | ⟨device, gone⟩ | ⟨settings, device, id, report, now, delivery, heard⟩ | ⟨now, flushed⟩
  · exact Roster.insert_kept limit line.roster next.roster device catalog kept opened
  · rw [gone]
    exact Roster.disconnect_kept limit line.roster device kept
  · exact Roster.notify_kept limit line.roster next.roster settings device id report now delivery kept heard
  · rw [flushed]
    exact Roster.flush_kept limit line.roster now kept

end Request

namespace Line

def ask (line : Line) (request : Request) : Except Failure Answer × Line := request.steps.perform line

theorem ask_eq (line : Line) (request : Request) : line.ask request = settle line (request.answer line) :=
  request.steps_eq line

def after (line : Line) : List Request → Line
  | [] => line
  | request :: rest => (line.ask request).2.after rest

theorem ask_kept (limit : Nat) (line : Line) (request : Request) (kept : line.roster.Kept limit) :
    (line.ask request).2.roster.Kept limit := by
  rw [ask_eq]
  cases answered : request.answer line with
  | error failure => exact kept
  | ok outcome => exact request.answer_kept limit line outcome.1 outcome.2 kept answered

theorem after_kept (limit : Nat) (line : Line) (requests : List Request) (kept : line.roster.Kept limit) :
    (line.after requests).roster.Kept limit := by
  induction requests generalizing line with
  | nil => exact kept
  | cons request rest ih => exact ih _ (ask_kept limit line request kept)

def Full (limit : Nat) (line : Line) (device : Address) : Prop :=
  line.roster.session? device = none ∧ line.roster.size = limit

structure Opens (line : Line) (request : Request) (device : Address) (catalog : Report.Catalog) : Prop where
  answer : (line.ask request).1 = .ok .connected
  fresh : ∃ session, (line.ask request).2.roster.session? device = some session ∧ session.catalog = catalog ∧
    ∀ id, session.encoders.lookup id = none ∧ session.pacers.lookup id = none
  others : ∀ other, other ≠ device → (line.ask request).2.roster.session? other = line.roster.session? other

structure Lawful (limit : Nat) (line : Line) : Prop where
  bounded : line.roster.size ≤ limit
  insertRefused : ∀ device catalog,
    (line.ask (.insert device catalog)).1 = .error .tooManyDevices ↔ Full limit line device
  insertOpens : ∀ device catalog, ¬ Full limit line device → line.Opens (.insert device catalog) device catalog
  connectRefused : ∀ device descriptor, (line.ask (.connect device descriptor)).1 = .error .tooManyDevices ↔
    (∃ catalog, Descriptor.read descriptor = .ok catalog) ∧ Full limit line device
  connectOpens : ∀ device descriptor catalog, Descriptor.read descriptor = .ok catalog → ¬ Full limit line device →
    line.Opens (.connect device descriptor) device catalog
  malformed : ∀ device descriptor fault, Descriptor.read descriptor = .error fault →
    (line.ask (.connect device descriptor)).1 = .error (.descriptor fault)
  disconnects : ∀ device,
    (line.ask (.disconnect device)).1 = .ok (.disconnected (line.roster.session? device).isSome) ∧
    ∀ other, (line.ask (.disconnect device)).2.roster.session? other =
      if other = device then none else line.roster.session? other
  unanswered : ∀ settings device id report now failure,
    ((line.ask (.dispatch settings device id report now)).1 = .error failure ↔
      line.roster.Unanswered device id report failure) ∧
    ((line.ask (.notify settings device id report now)).1 = .error failure ↔
      line.roster.Unanswered device id report failure)
  untouched : ∀ request failure, (line.ask request).1 = .error failure → (line.ask request).2 = line

theorem ask_error_iff (line : Line) (request : Request) (failure : Failure) :
    (line.ask request).1 = .error failure ↔ request.answer line = .error failure := by
  rw [ask_eq]
  cases request.answer line <;> simp [settle]

theorem insert_refused (limit : Nat) (line : Line) (device : Address) (catalog : Report.Catalog)
    (kept : line.roster.Kept limit) :
    line.roster.insert device catalog = .error .tooManyDevices ↔ Full limit line device := by
  rw [Roster.insert_answer limit line.roster device catalog kept, Full]
  split <;> simp_all

theorem opens_of_insert (limit : Nat) (line : Line) (request : Request) (device : Address) (catalog : Report.Catalog)
    (kept : line.roster.Kept limit) (room : ¬ Full limit line device)
    (same : request.answer line = (Request.insert device catalog).answer line) : line.Opens request device catalog := by
  have opened : line.ask request =
      (.ok .connected, { line with roster := line.roster.update device (Session.start catalog) }) := by
    rw [Full] at room
    rw [ask_eq, same, Request.answer, Roster.insert_answer limit line.roster device catalog kept, if_neg room]
    rfl
  have sessions (other : Address) := Roster.session_update line.roster device other (Session.start catalog)
  refine ⟨congrArg Prod.fst opened, ?_, fun other different => ?_⟩
  · rw [opened]
    exact ⟨_, (sessions device).trans (if_pos rfl), rfl, fun _ => ⟨rfl, rfl⟩⟩
  · rw [opened]
    exact (sessions other).trans (if_neg different)

theorem connect_answer (line : Line) (device : Address) (descriptor : Bytes) (catalog : Report.Catalog)
    (found : Descriptor.read descriptor = .ok catalog) :
    (Request.connect device descriptor).answer line = (Request.insert device catalog).answer line := by
  rw [Request.answer, Request.answer, Roster.connect, found]

theorem lawful_of_kept (limit : Nat) (line : Line) (kept : line.roster.Kept limit) : Lawful limit line where
  bounded := kept.2
  insertRefused := fun device catalog => by
    rw [ask_error_iff, Request.answer, map_error_iff, insert_refused limit line device catalog kept]
  insertOpens := fun device catalog room => opens_of_insert limit line _ device catalog kept room rfl
  connectRefused := fun device descriptor => by
    rw [ask_error_iff]
    cases found : Descriptor.read descriptor with
    | error fault => simp [Request.answer, Roster.connect, found, Except.map]
    | ok catalog =>
        rw [connect_answer line device descriptor catalog found, Request.answer, map_error_iff,
          insert_refused limit line device catalog kept]
        exact ⟨fun full => ⟨⟨catalog, rfl⟩, full⟩, And.right⟩
  connectOpens := fun device descriptor catalog found room =>
    opens_of_insert limit line _ device catalog kept room (connect_answer line device descriptor catalog found)
  malformed := fun device descriptor fault failed => by
    rw [ask_error_iff, Request.answer, map_error_iff, Roster.connect, failed]
  disconnects := fun device => ⟨rfl, fun other => Roster.session_disconnect line.roster device other⟩
  unanswered := fun settings device id report now failure => by
    rw [ask_error_iff, ask_error_iff, Request.answer, Request.answer, Request.relay_notify_eq, map_error_iff,
      map_error_iff, map_error_iff, Roster.notify_error_iff]
    exact ⟨Iff.rfl, Iff.rfl⟩
  untouched := fun request failure failed => by
    rw [ask_eq, (ask_error_iff line request failure).mp failed]
    rfl

end Line

namespace Relay

def Operation.request (settings : Settings) : Operation → Request
  | .connect device descriptor => .connect device descriptor
  | .disconnect device => .disconnect device
  | .notify device id report now => .notify settings device id report now
  | .poll now => .poll settings now

def Answer.outcome : Answer → Except Failure Answer
  | .failed failure => .error failure
  | answer => .ok answer

theorem ask_operation (relay : Relay) (sent : List Output) (operation : Operation) :
    (Line.mk relay.roster sent).ask (operation.request relay.settings) =
      ((relay.perform operation).result.outcome,
        ⟨(relay.perform operation).relay.roster, sent ++ (relay.perform operation).sent⟩) := by
  rw [Line.ask_eq]
  cases operation with
  | connect device descriptor =>
      rcases connect_cases relay device descriptor with ⟨failure, failed, done⟩ | ⟨catalog, _, opened, done⟩
      · rw [done, Operation.request, Request.answer, failed, List.append_nil]
        rfl
      · rw [done, Operation.request, Request.answer, opened, List.append_nil]
        rfl
  | disconnect device =>
      have nothing : (relay.perform (.disconnect device)).sent = [] := rfl
      rw [nothing, List.append_nil]
      rfl
  | notify device id report now =>
      rcases notify_cases relay device id report now with ⟨failure, failed, done⟩ | ⟨roster, delivery, delivered, done⟩
      · rw [done, Operation.request, Request.answer, Request.relay_notify_eq, failed, List.append_nil]
        rfl
      · rw [done, Operation.request, Request.answer, Request.relay_notify_eq, delivered]
        rfl
  | poll now => rfl

theorem after_operations (relay : Relay) (sent : List Output) (operations : List Operation) :
    (Line.mk relay.roster sent).after (operations.map (Operation.request relay.settings)) =
      ⟨(relay.after operations).roster, sent ++ relay.gather Relay.sent operations⟩ := by
  induction operations generalizing relay sent with
  | nil => rw [List.map_nil, Line.after, after, gather, List.append_nil]
  | cons operation rest ih =>
      rw [List.map_cons, Line.after, ask_operation, ← perform_settings relay operation, ih, List.append_assoc]
      rfl

def Answer.delivery? : Answer → Option Delivery
  | .delivered delivery => some delivery
  | _ => none

end Relay

def Event.request (settings : Settings) (now : Nat) : Event → Request
  | .connected device descriptor => .connect device descriptor
  | .disconnected device => .disconnect device
  | .notification device id report => .notify settings device id report now

namespace Relay

theorem handle_eq (relay : Relay) (now : Nat) (event : Event) :
    relay.handle now event = ((event.request relay.settings now).answer ⟨relay.roster, []⟩).map fun outcome =>
      ⟨{ relay with roster := outcome.1.roster }, outcome.2.delivery?, outcome.1.sent⟩ := by
  cases event with
  | connected device descriptor =>
      rw [handle, connect, Event.request, Request.answer]
      cases relay.roster.connect device descriptor <;> rfl
  | disconnected device => rfl
  | notification device id report =>
      rw [handle, Event.request, Request.answer, Request.relay_notify_eq]
      cases relay.roster.notify relay.settings device id report now <;> rfl

end Relay

end HidRelay
