import HidRelay.Descriptor.Boot
import HidRelay.Proofs.Device.Streams
import HidRelay.Proofs.Relay.Run

/-!
Every stream of a relay acts alone: an input layout has the encoder or the pacer that the device's own
reports for that layout make, with the polls between them.
-/

set_option autoImplicit false

namespace HidRelay

open Device
open Report (Catalog Layout)
open Pointer (Motion)

theorem Device.Roster.mem_flush (roster : Roster) (now : Nat) (device : Address) (motions : List Motion) :
    (device, motions) ∈ (roster.flush now).2 ↔
      ∃ session, roster.session? device = some session ∧ (session.flush now).2 = motions := by
  simp only [Roster.flush, List.mem_map, Prod.exists, Prod.mk.injEq]
  constructor
  · rintro ⟨other, session, member, rfl, given⟩
    exact ⟨session, (OrderedTable.mem_entries roster.sessions other session).mp member, given⟩
  · rintro ⟨session, found, given⟩
    exact ⟨device, session, (OrderedTable.mem_entries roster.sessions device session).mpr found, rfl, given⟩

namespace Relay

-- The device's session ends or starts over. A connection that fails does neither.
def Renews (relay : Relay) (device : Address) : Operation → Prop
  | .connect other descriptor => other = device ∧ (relay.perform (.connect other descriptor)).result = .connected
  | .disconnect other => other = device
  | .notify _ _ _ _ => False
  | .poll _ => False

def Keeps (relay : Relay) (device : Address) : List Operation → Prop
  | [] => True
  | operation :: rest => ¬ relay.Renews device operation ∧ (relay.perform operation).relay.Keeps device rest

def signal? (device : Address) (catalog : Catalog) (id : UInt8) : Operation → Option Signal
  | .notify other announced report now =>
      if other = device ∧ (catalog.resolveInput announced).map Layout.id = some id then some (.report report now) else none
  | .poll now => some (.poll now)
  | .connect _ _ => none
  | .disconnect _ => none

def signals (device : Address) (catalog : Catalog) (since : List Operation) (id : UInt8) : List Signal :=
  since.filterMap (signal? device catalog id)

def onward (settings : Settings) (device : Address) (session : Session) : Operation → Session
  | .notify other announced report now =>
      if other = device then
        match session.notify settings announced report now with
        | .error _ => session
        | .ok (next, _) => next
      else session
  | .poll now => (session.flush now).1
  | .connect _ _ => session
  | .disconnect _ => session

theorem keeps_concat (relay : Relay) (device : Address) (since : List Operation) (operation : Operation)
    (keeps : relay.Keeps device since) (last : ¬ (relay.after since).Renews device operation) :
    relay.Keeps device (since ++ [operation]) := by
  induction since generalizing relay with
  | nil => exact ⟨last, trivial⟩
  | cons first rest ih => exact ⟨keeps.1, ih _ keeps.2 last⟩

theorem signals_concat (device : Address) (catalog : Catalog) (since : List Operation) (operation : Operation) :
    signals device catalog (since ++ [operation]) = fun id =>
      signals device catalog since id ++ (signal? device catalog id operation).toList := by
  funext id
  rw [signals, List.filterMap_append]
  cases signal : signal? device catalog id operation <;> simp [signals, signal]

theorem session_notify_own (relay : Relay) (device : Address) (announced : UInt8) (report : Bytes) (now : Nat) :
    (relay.perform (.notify device announced report now)).relay.roster.session? device =
      (relay.roster.session? device).map fun session =>
        onward relay.settings device session (.notify device announced report now) := by
  cases connected : relay.roster.session? device with
  | none => simp only [perform, notify, Roster.notify, connected, Option.map_none]
  | some session =>
      rw [Option.map_some, onward, if_pos rfl]
      cases answer : session.notify relay.settings announced report now with
      | error failure => simp only [perform, notify, Roster.notify, connected, answer]
      | ok delivered => simp only [perform, notify, Roster.notify, connected, answer, Roster.session_update, if_true]

theorem session_notify_other (relay : Relay) (device other : Address) (announced : UInt8) (report : Bytes) (now : Nat)
    (different : device ≠ other) :
    (relay.perform (.notify other announced report now)).relay.roster.session? device = relay.roster.session? device := by
  cases connected : relay.roster.session? other with
  | none => simp only [perform, notify, Roster.notify, connected]
  | some session =>
      cases answer : session.notify relay.settings announced report now with
      | error failure => simp only [perform, notify, Roster.notify, connected, answer]
      | ok delivered =>
          simp only [perform, notify, Roster.notify, connected, answer, Roster.session_update, if_neg different]

theorem session_perform (relay : Relay) (device : Address) (operation : Operation)
    (keeps : ¬ relay.Renews device operation) :
    (relay.perform operation).relay.roster.session? device =
      (relay.roster.session? device).map fun session => onward relay.settings device session operation := by
  cases operation with
  | connect other descriptor =>
      rcases connect_cases relay other descriptor with ⟨_, _, kept⟩ | ⟨catalog, _, _, opened⟩
      · rw [kept]
        exact Option.map_id'.symm
      · have different : device ≠ other := fun same => keeps ⟨same.symm, by rw [opened]⟩
        rw [opened, Roster.session_update, if_neg different]
        exact Option.map_id'.symm
  | disconnect other =>
      have different : device ≠ other := fun same => keeps same.symm
      refine (Roster.session_disconnect relay.roster other device).trans ?_
      rw [if_neg different]
      exact Option.map_id'.symm
  | notify other announced report now =>
      by_cases own : device = other
      · rw [← own]
        exact session_notify_own relay device announced report now
      · rw [session_notify_other relay device other announced report now own]
        simp only [onward, if_neg (Ne.symm own), Option.map_id']
  | poll now => exact OrderedTable.lookup_map_values device _ relay.roster.sessions

theorem onward_isolated (settings : Settings) (device : Address) (session : Session) (signals : UInt8 → List Signal)
    (operation : Operation) (isolated : session.Isolated settings signals) :
    (onward settings device session operation).catalog = session.catalog ∧
    (onward settings device session operation).Isolated settings fun id =>
      signals id ++ (signal? device session.catalog id operation).toList := by
  have silent : (∀ id, signal? device session.catalog id operation = none) →
      session.Isolated settings fun id => signals id ++ (signal? device session.catalog id operation).toList := by
    intro none
    simpa only [none, Option.toList_none, List.append_nil] using isolated
  cases operation with
  | connect other descriptor => exact ⟨rfl, silent fun _ => rfl⟩
  | disconnect other => exact ⟨rfl, silent fun _ => rfl⟩
  | poll now => exact ⟨rfl, session.flush_isolated settings signals now isolated⟩
  | notify other announced report now =>
      by_cases own : other = device
      · cases found : session.catalog.resolveInput announced with
        | none =>
            have unknown : session.notify settings announced report now = .error (.unknownReport announced) := by
              rw [Session.notify, found]
            have nothing : ∀ id, signal? device session.catalog id (.notify other announced report now) = none := by
              intro id
              simp [signal?, found]
            rw [onward, if_pos own, unknown]
            exact ⟨rfl, silent nothing⟩
        | some layout =>
            -- The report goes to the stream of its layout, whatever ID was announced with it.
            have heard : (fun id => signals id ++
                (signal? device session.catalog id (.notify other announced report now)).toList) =
                withReport signals layout.id report now := by
              funext id
              by_cases target : id = layout.id
              · simp [signal?, own, found, withReport, target]
              · simp [signal?, found, withReport, target, Ne.symm target]
            rw [onward, if_pos own, heard]
            rcases session.notify_isolated settings signals now announced report layout isolated found with
              ⟨_, failed, later⟩ | ⟨next, given, _, answer, same, later⟩
            · rw [failed]
              exact ⟨rfl, later⟩
            · rw [answer]
              exact ⟨same, later⟩
      · have nothing : ∀ id, signal? device session.catalog id (.notify other announced report now) = none := by
          intro id
          simp [signal?, own]
        rw [onward, if_neg own]
        exact ⟨rfl, silent nothing⟩

structure Opened (settings : Settings) (device : Address) (operations before : List Operation) (descriptor : Bytes)
    (since : List Operation) : Prop where
  run : operations = before ++ .connect device descriptor :: since
  connected : (((start settings).after before).perform (.connect device descriptor)).result = .connected
  keeps : ((start settings).after (before ++ [.connect device descriptor])).Keeps device since

theorem opened_now (settings : Settings) (device : Address) (before : List Operation) (operation : Operation)
    (session : Session) (renews : ((start settings).after before).Renews device operation)
    (found : ((start settings).after (before ++ [operation])).roster.session? device = some session) :
    ∃ descriptor catalog, Descriptor.read descriptor = .ok catalog ∧ session = .start catalog ∧
      Opened settings device (before ++ [operation]) before descriptor [] := by
  rw [after_append] at found
  change (((start settings).after before).perform operation).relay.roster.session? device = some session at found
  cases operation with
  | connect other descriptor =>
      obtain ⟨rfl, connected⟩ := renews
      rcases connect_cases _ other descriptor with ⟨_, _, failed⟩ | ⟨catalog, read, _, opened⟩
      · rw [failed] at connected
        exact nomatch connected
      · rw [opened, Roster.session_update, if_pos rfl] at found
        exact ⟨descriptor, catalog, read, (Option.some.inj found).symm, rfl, connected, trivial⟩
  | disconnect other =>
      obtain rfl : other = device := renews
      have gone := Roster.session_disconnect ((start settings).after before).roster other other
      rw [if_pos rfl] at gone
      exact nomatch gone.symm.trans found
  | notify other announced report now => exact renews.elim
  | poll now => exact renews.elim

theorem opened_onward (settings : Settings) (device : Address) (operations before since : List Operation)
    (descriptor : Bytes) (operation : Operation) (opened : Opened settings device operations before descriptor since)
    (keeps : ¬ ((start settings).after operations).Renews device operation) :
    Opened settings device (operations ++ [operation]) before descriptor (since ++ [operation]) := by
  obtain ⟨run, connected, kept⟩ := opened
  subst run
  refine ⟨by rw [List.append_assoc, List.cons_append], connected, keeps_concat _ device since operation kept ?_⟩
  rw [← after_append, List.append_assoc]
  exact keeps

-- The induction is on the run from its last operation: that operation renews the session or moves it onward.
theorem session_history (settings : Settings) (operations : List Operation) (device : Address) (session : Session)
    (found : ((start settings).after operations).roster.session? device = some session) :
    ∃ before descriptor since, Opened settings device operations before descriptor since ∧
      Descriptor.read descriptor = .ok session.catalog ∧
      session.Isolated settings (signals device session.catalog since) := by
  induction operations using List.reverseRecOn generalizing session with
  | nil => exact nomatch found
  | append_singleton earlier operation ih =>
      by_cases renews : ((start settings).after earlier).Renews device operation
      · obtain ⟨descriptor, catalog, read, rfl, opened⟩ := opened_now settings device earlier operation session renews found
        exact ⟨earlier, descriptor, [], opened, read,
          Session.start_isolated settings catalog (Descriptor.read_keyed descriptor catalog read)⟩
      · rw [after_append] at found
        have moved := (session_perform _ device operation renews).symm.trans found
        obtain ⟨previous, present, rfl⟩ := Option.map_eq_some_iff.mp moved
        obtain ⟨before, descriptor, since, opened, read, isolated⟩ := ih previous present
        have constant : ((start settings).after earlier).settings = settings := after_settings _ earlier
        obtain ⟨same, later⟩ := onward_isolated settings device previous _ operation isolated
        have history := opened_onward settings device earlier before since descriptor operation opened renews
        rw [← signals_concat] at later
        rw [constant, same]
        exact ⟨before, descriptor, since ++ [operation], history, read, later⟩

structure ActsAlone (relay : Relay) (settings : Settings) (device : Address) (session : Session) (id : UInt8)
    (layout : Layout) (signals : List Signal) : Prop where
  encoder : session.encoders.lookup id = Stream.encoder? settings layout signals
  pacer : session.pacers.lookup id = Stream.pacer? settings layout signals
  unused : Stream.reports signals = [] → session.encoders.lookup id = none ∧ session.pacers.lookup id = none
  answers : ∀ announced report now, session.catalog.resolveInput announced = some layout →
    let reaction := relay.perform (.notify device announced report now)
    ∀ delivery, Stream.delivery settings layout signals report now = .ok delivery →
      reaction.result = .delivered delivery ∧ Wired settings delivery reaction.sent
  overflows : ∀ announced report now, session.catalog.resolveInput announced = some layout →
    Stream.delivery settings layout signals report now = .error ⟨⟩ →
      relay.perform (.notify device announced report now) = ⟨relay, .failed .numberOverflow, []⟩
  others : ∀ operation, ¬ relay.Renews device operation → signal? device session.catalog id operation = none →
    ∃ next, (relay.perform operation).relay.roster.session? device = some next ∧
      next.encoders.lookup id = session.encoders.lookup id ∧ next.pacers.lookup id = session.pacers.lookup id

theorem perform_delivers (relay : Relay) (device : Address) (session next : Session) (announced : UInt8) (report : Bytes)
    (now : Nat) (delivery : Delivery) (found : relay.roster.session? device = some session)
    (answer : session.notify relay.settings announced report now = .ok (next, delivery)) :
    (relay.perform (.notify device announced report now)).result = .delivered delivery ∧
    Wired relay.settings delivery (relay.perform (.notify device announced report now)).sent := by
  simp only [perform, notify, Roster.notify, found, answer, true_and]
  exact outputs_wired relay.settings delivery

theorem perform_fails (relay : Relay) (device : Address) (session : Session) (announced : UInt8) (report : Bytes)
    (now : Nat) (failure : Failure) (found : relay.roster.session? device = some session)
    (answer : session.notify relay.settings announced report now = .error failure) :
    relay.perform (.notify device announced report now) = ⟨relay, .failed failure, []⟩ := by
  simp only [perform, notify, Roster.notify, found, answer]

theorem isolated_acts_alone (relay : Relay) (device : Address) (session : Session) (signals : UInt8 → List Signal)
    (id : UInt8) (layout : Layout) (found : relay.roster.session? device = some session)
    (isolated : session.Isolated relay.settings signals) (stored : session.catalog.layout? .input id = some layout) :
    relay.ActsAlone relay.settings device session id layout (signals id) where
  encoder := by rw [isolated.encoders, stored, Option.bind_some]
  pacer := by rw [isolated.pacers, stored, Option.bind_some]
  unused := by
    intro unused
    rw [isolated.encoders, isolated.pacers, stored, Option.bind_some, Option.bind_some]
    exact ⟨Stream.encoder_unused _ _ _ unused, Stream.pacer_unused _ _ _ unused⟩
  answers := by
    intro announced report now resolved reaction delivery made
    obtain rfl : layout.id = id := (isolated.keyed .input id layout stored).2
    rcases session.notify_isolated relay.settings signals now announced report layout isolated resolved with
      ⟨failed, _, _⟩ | ⟨next, given, own, answer, _, _⟩
    · cases failed.symm.trans made
    · obtain rfl := Except.ok.inj (own.symm.trans made)
      exact perform_delivers relay device session next announced report now given found answer
  overflows := by
    intro announced report now resolved overflows
    obtain rfl : layout.id = id := (isolated.keyed .input id layout stored).2
    rcases session.notify_isolated relay.settings signals now announced report layout isolated resolved with
      ⟨_, answer, _⟩ | ⟨_, _, own, _, _, _⟩
    · exact perform_fails relay device session announced report now .numberOverflow found answer
    · cases own.symm.trans overflows
  others := by
    intro operation keeps silent
    refine ⟨onward relay.settings device session operation, ?_, ?_⟩
    · rw [session_perform relay device operation keeps, found, Option.map_some]
    · obtain ⟨same, later⟩ := onward_isolated relay.settings device session signals operation isolated
      rw [later.encoders, later.pacers, same]
      simp only [silent, Option.toList_none, List.append_nil]
      exact ⟨(isolated.encoders id).symm, (isolated.pacers id).symm⟩

theorem streams_act_alone (settings : Settings) (operations : List Operation) (device : Address) (session : Session)
    (found : ((start settings).after operations).roster.session? device = some session) :
    let relay := (start settings).after operations
    ∃ before descriptor since, Opened settings device operations before descriptor since ∧
      Descriptor.read descriptor = .ok session.catalog ∧
      (∀ id layout, session.catalog.layout? .input id = some layout →
        relay.ActsAlone settings device session id layout (signals device session.catalog since id)) ∧
      ∀ now motions, (device, motions) ∈ (relay.roster.flush now).2 ↔
        motions = session.catalog.input.entries.filterMap fun entry =>
          Stream.flushed settings entry.2 (signals device session.catalog since entry.1) now := by
  intro relay
  obtain ⟨before, descriptor, since, opened, read, isolated⟩ := session_history settings operations device session found
  have constant : relay.settings = settings := after_settings _ operations
  refine ⟨before, descriptor, since, opened, read, ?_, ?_⟩
  · intro id layout stored
    have alone := isolated_acts_alone relay device session _ id layout found (constant ▸ isolated) stored
    rw [constant] at alone
    exact alone
  · intro now motions
    rw [Roster.mem_flush, found, ← session.flush_gives settings _ now isolated]
    simp [eq_comm]

def combo : Address := ⟨1, 0, 0, 0, 0, 0⟩

def comboDescriptor : Bytes := [
  0x05, 0x01,         -- Usage Page (Generic Desktop)
  0x09, 0x06,         -- Usage (Keyboard)
  0xA1, 0x01,         -- Collection (Application)
  0x85, 0x01,         --   Report ID (1)
  0x05, 0x07,         --   Usage Page (Keyboard/Keypad)
  0x19, 0x00,         --   Usage Minimum (0)
  0x29, 0xFF,         --   Usage Maximum (255)
  0x26, 0xFF, 0x00,   --   Logical Maximum (255)
  0x75, 0x08,         --   Report Size (8)
  0x95, 0x02,         --   Report Count (2)
  0x81, 0x00,         --   Input (Data, Array)
  0xC0,               -- End Collection
  0x05, 0x01,         -- Usage Page (Generic Desktop)
  0x09, 0x02,         -- Usage (Mouse)
  0xA1, 0x01,         -- Collection (Application)
  0x85, 0x02,         --   Report ID (2)
  0x09, 0x30,         --   Usage (X)
  0x09, 0x31,         --   Usage (Y)
  0x15, 0x81,         --   Logical Minimum (-127)
  0x25, 0x7F,         --   Logical Maximum (127)
  0x81, 0x06,         --   Input (Data, Variable, Relative)
  0xC0]               -- End Collection

def comboRun : List Operation :=
  let mouse : Address := ⟨2, 0, 0, 0, 0, 0⟩
  [.connect combo comboDescriptor, .connect mouse Descriptor.BootDevice.mouse.descriptor,
    .notify combo 1 [0x29, 0x00] 0, .notify combo 2 [0x05, 0x03] 10, .notify mouse 0 [0x01, 0x07, 0x01] 20,
    .notify combo 3 [0x00, 0x00] 30, .poll 20000, .notify combo 1 [0x29, 0x04] 20001, .disconnect mouse,
    .notify combo 2 [0x7F, 0x00] 20002]

-- The keyboard lets go of the held key, and the mouse has its waiting report sent with the next.
theorem combo_streams_act_alone :
    let relay := (start .standard).after comboRun
    ∃ session, relay.roster.session? combo = some session ∧ session.encoders.keys = [1] ∧ session.pacers.keys = [2] ∧
      (∃ before descriptor since, Opened .standard combo comboRun before descriptor since ∧
        ∀ id layout, session.catalog.layout? .input id = some layout →
          relay.ActsAlone .standard combo session id layout (signals combo session.catalog since id)) ∧
      (relay.perform (.notify combo 1 [0x04, 0x00] 20003)).sent = [.scanCode [0xF0, 0x76]] ∧
      (relay.perform (.notify combo 2 [0x01, 0x02] 40000)).sent = [.packet ⟨128, 2, 0, 0⟩ [0x28, 0x80, 0xFE]] := by
  intro relay
  have keys : (relay.roster.session? combo).map (fun session => (session.encoders.keys, session.pacers.keys)) =
      some ([1], [2]) := by decide +kernel
  obtain ⟨session, found, same⟩ := Option.map_eq_some_iff.mp keys
  obtain ⟨encoders, pacers⟩ := Prod.mk.inj same
  obtain ⟨before, descriptor, since, opened, _, alone, _⟩ := streams_act_alone .standard comboRun combo session found
  exact ⟨session, found, encoders, pacers, ⟨before, descriptor, since, opened, alone⟩, by decide +kernel, by decide +kernel⟩

end Relay
end HidRelay
