import HidRelay.Proofs.Relay.KeyWire

/-!
Keys that a device leaves behind. A session that ends says nothing to the host, so a key that it holds
then stays down. No other key does: whatever else the device pressed has been released again by the
time it is gone.
-/

set_option autoImplicit false

namespace HidRelay

open Device
open Keyboard (Encoder Held Key KeyEvent Releasable eventsOf hostKeys)

namespace Keyboard

theorem event_key_changed (set : ScanSet) (changes : List Change) (event : KeyEvent)
    (member : event ∈ eventsOf set changes) : event.key ∈ changes.map Change.key := by
  obtain ⟨change, inChanges, sent⟩ := List.mem_filterMap.mp member
  exact List.mem_map.mpr ⟨change, inChanges, (code_of_event set change event sent).1.symm⟩

namespace Encoder

def Holds (encoder : Encoder) (key : Key) : Prop := ∃ last, encoder.previous = some last ∧ last.holdsKey key

theorem holds_iff (encoder : Encoder) (page : UInt16) (key : Key) :
    encoder.Holds key ↔ (encoder.held page).holdsKey key := by
  rw [Holds, held]
  cases encoder.previous with
  | none => simp [Held.holdsKey, Held.holds, Held.isDown, Held.empty]
  | some last => simp

theorem encode_down (encoder : Encoder) (current : Held) (down : Finset Key) (key : Key)
    (releasable : Releasable encoder.set key) (still : key ∈ hostKeys down (encoder.encode current).2.events) :
    current.holdsKey key ∨ (key ∈ down ∧ ¬ encoder.Holds key ∧
      ∀ event ∈ (encoder.encode current).2.events, event.key ≠ key) := by
  rw [encode_answer] at still ⊢
  by_cases changed : key ∈ ((encoder.held current.page).changes current).map Change.key
  · obtain ⟨change, member, rfl⟩ := List.mem_map.mp changed
    have pressed := (host_keys_changed encoder.set _ down change (changed_keys_distinct _ current) member releasable).mp still
    rcases List.mem_append.mp member with released | fresh
    · have way := ((mem_released _ current change).mp released).1
      rw [pressed] at way
      cases way
    · exact .inl ((mem_pressed _ current change).mp fresh).2.1
  · have same := holds_of_unchanged _ current key changed
    have before := (host_keys_unchanged encoder.set _ down key changed).mp still
    by_cases holds : current.holdsKey key
    · exact .inl holds
    · refine .inr ⟨before, fun held => holds (same.mp ((holds_iff encoder current.page key).mp held)), ?_⟩
      intro event member own
      exact changed (own ▸ event_key_changed encoder.set _ event member)

end Encoder
end Keyboard

def Device.Session.Holds (session : Session) (key : Key) : Prop :=
  ∃ id encoder, session.encoders.lookup id = some encoder ∧ encoder.Holds key

namespace Relay

theorem onward_down (settings : Settings) (device : Address) (session : Session) (operation : Operation)
    (down : Finset Key) (key : Key) (sets : session.encoders.Every fun encoder => encoder.set = settings.scanSet)
    (releasable : Releasable settings.scanSet key)
    (still : key ∈ hostKeys down (typed settings device session operation)) :
    (onward settings device session operation).Holds key ∨
      (key ∈ down ∧ ¬ session.Holds key ∧ ∀ event ∈ typed settings device session operation, event.key ≠ key) := by
  rcases typed_cases settings device session operation with ⟨nothing, same⟩ | ⟨layout, report, events, stored⟩
  · rw [nothing] at still ⊢
    by_cases holds : session.Holds key
    · rw [Session.Holds, same]
      exact .inl holds
    · exact .inr ⟨still, holds, fun event member => absurd member List.not_mem_nil⟩
  · have set := session_encoder_set settings session layout.id sets
    rw [events] at still ⊢
    rw [Session.Holds, stored]
    rcases Encoder.encode_down _ _ down key (set ▸ releasable) still with current | ⟨before, idle, silent⟩
    · have own := OrderedTable.lookup_insert layout.id layout.id
        ((session.encoder settings layout.id).encode (Keyboard.decode report layout).state).1 session.encoders
      rw [if_pos rfl] at own
      exact .inl ⟨layout.id, _, own, _, rfl, current⟩
    · by_cases holds : session.Holds key
      · obtain ⟨id, encoder, present, held⟩ := holds
        -- The key may be held by another encoder of the session, which the report does not reach.
        have other : id ≠ layout.id := by
          rintro rfl
          rw [Session.encoder, present] at idle
          exact idle held
        refine .inl ⟨id, encoder, ?_, held⟩
        rw [OrderedTable.lookup_insert, if_neg other, present]
      · exact .inr ⟨before, holds, silent⟩

theorem renewal_keyless (relay : Relay) (device : Address) (operation : Operation) (renews : relay.Renews device operation) :
    relay.keysFrom device operation = [] := by
  cases operation with
  | connect other descriptor => rfl
  | disconnect other => rfl
  | notify other announced report now => exact renews.elim
  | poll now => exact renews.elim

def Holds (relay : Relay) (device : Address) (key : Key) : Prop :=
  ∃ session, relay.roster.session? device = some session ∧ session.Holds key

theorem perform_down (settings : Settings) (earlier : List Operation) (operation : Operation) (device : Address)
    (down : Finset Key) (key : Key) (keeps : ¬((start settings).after earlier).Renews device operation)
    (releasable : Releasable settings.scanSet key)
    (still : key ∈ hostKeys down (((start settings).after earlier).keysFrom device operation)) :
    ((start settings).after (earlier ++ [operation])).Holds device key ∨
      (key ∈ down ∧ ¬((start settings).after earlier).Holds device key ∧
        ∀ event ∈ ((start settings).after earlier).keysFrom device operation, event.key ≠ key) := by
  have moved := session_perform _ device operation keeps
  have constant : ((start settings).after earlier).settings = settings := after_settings _ earlier
  rw [constant] at moved
  rw [keys_from_eq, constant] at still ⊢
  cases found : ((start settings).after earlier).roster.session? device with
  | none =>
      rw [found, Option.elim_none] at still
      refine .inr ⟨still, ?_, fun event member => absurd member List.not_mem_nil⟩
      rintro ⟨session, present, _⟩
      cases found.symm.trans present
  | some session =>
      rw [found, Option.elim_some] at still
      have sets := stored_encoder_set settings earlier device session found
      rcases onward_down settings device session operation down key sets releasable still with
        holds | ⟨before, idle, silent⟩
      · refine .inl ⟨_, ?_, holds⟩
        rw [after_append]
        exact moved.trans (congrArg (Option.map _) found)
      · refine .inr ⟨before, ?_, silent⟩
        rintro ⟨other, present, holds⟩
        cases found.symm.trans present
        exact idle holds

structure LeftBy (settings : Settings) (device : Address) (key : Key) (earlier : List Operation) (ending : Operation)
    (later : List Operation) : Prop where
  ends : ((start settings).after earlier).Renews device ending
  held : ((start settings).after earlier).Holds device key
  since : ∀ event ∈ ((start settings).after (earlier ++ [ending])).gather (keysFrom device) later, event.key ≠ key

def Left (settings : Settings) (device : Address) (key : Key) (operations : List Operation) : Prop :=
  ∃ earlier ending later, operations = earlier ++ ending :: later ∧ LeftBy settings device key earlier ending later

theorem left_onward (settings : Settings) (device : Address) (key : Key) (operations : List Operation)
    (operation : Operation) (left : Left settings device key operations)
    (silent : ∀ event ∈ ((start settings).after operations).keysFrom device operation, event.key ≠ key) :
    Left settings device key (operations ++ [operation]) := by
  obtain ⟨earlier, ending, later, rfl, ends, held, since⟩ := left
  refine ⟨earlier, ending, later ++ [operation], by rw [List.append_assoc, List.cons_append], ends, held, ?_⟩
  intro event member
  rw [gather_append, gather_single, ← after_append, List.append_assoc] at member
  rcases List.mem_append.mp member with before | last
  · exact since event before
  · exact silent event last

-- The induction is on the run from its last operation, which either ends the session or moves it onward.
theorem down_key_held (settings : Settings) (operations : List Operation) (device : Address) (key : Key)
    (releasable : Releasable settings.scanSet key)
    (down : key ∈ hostKeys ∅ ((start settings).gather (keysFrom device) operations)) :
    ((start settings).after operations).Holds device key ∨ Left settings device key operations := by
  induction operations using List.reverseRecOn with
  | nil => exact absurd down (Finset.notMem_empty key)
  | append_singleton earlier operation ih =>
      rw [gather_append, gather_single, Keyboard.host_keys_append] at down
      by_cases renews : ((start settings).after earlier).Renews device operation
      · have nothing := renewal_keyless _ device operation renews
        rw [nothing] at down
        rcases ih down with held | left
        · refine .inr ⟨earlier, operation, [], rfl, renews, held, ?_⟩
          exact fun event member => absurd member List.not_mem_nil
        · refine .inr (left_onward settings device key earlier operation left ?_)
          rw [nothing]
          exact fun event member => absurd member List.not_mem_nil
      · rcases perform_down settings earlier operation device _ key renews releasable down with
          holds | ⟨before, idle, silent⟩
        · exact .inl holds
        · exact .inr (left_onward settings device key earlier operation ((ih before).resolve_left idle) silent)

def Gone (settings : Settings) (device : Address) (operations : List Operation) : Prop :=
  ((start settings).after operations).roster.session? device = none ∨
    ∃ earlier ending, operations = earlier ++ [ending] ∧ ((start settings).after earlier).Renews device ending

theorem gone_holds_nothing (settings : Settings) (device : Address) (operations : List Operation) (key : Key)
    (gone : Gone settings device operations) : ¬((start settings).after operations).Holds device key := by
  rintro ⟨session, found, holds⟩
  rcases gone with absent | ⟨earlier, ending, rfl, renews⟩
  · cases absent.symm.trans found
  · obtain ⟨_, catalog, _, rfl, _⟩ := opened_now settings device earlier ending session renews found
    obtain ⟨id, encoder, stored, _⟩ := holds
    cases stored

theorem notify_key_bytes (relay : Relay) (device : Address) (id : UInt8) (report : Bytes) (now : Nat) :
    (relay.sent (.notify device id report now)).flatMap Output.keyBytes =
      (relay.keysFrom device (.notify device id report now)).flatMap (·.code) := by
  rw [keysFrom, if_pos rfl]
  exact sent_key_bytes relay (.notify device id report now)

theorem gone_device_keys (settings : Settings) (operations : List Operation) (device : Address)
    (gone : Gone settings device operations) :
    (∀ key, Releasable settings.scanSet key →
      key ∈ hostKeys ∅ ((start settings).gather (keysFrom device) operations) → Left settings device key operations) ∧
    (∀ (relay : Relay) (other : Address),
      (∀ descriptor, relay.sent (.connect other descriptor) = []) ∧ relay.sent (.disconnect other) = []) ∧
    ∀ (relay : Relay), (∀ id report now, (relay.sent (.notify device id report now)).flatMap Output.keyBytes =
        (relay.keysFrom device (.notify device id report now)).flatMap (·.code)) ∧
      ∀ now, (relay.sent (.poll now)).flatMap Output.keyBytes = [] := by
  refine ⟨fun key releasable down => ?_, fun relay other => ⟨relay.connect_silent other, rfl⟩,
    fun relay => ⟨relay.notify_key_bytes device, fun now => relay.sent_key_bytes (.poll now)⟩⟩
  exact (down_key_held settings operations device key releasable down).resolve_left
    (gone_holds_nothing settings device operations key gone)

def unplugged : List Operation :=
  [.connect combo comboDescriptor, .notify combo 1 [0x04, 0x05] 0, .notify combo 1 [0x04, 0x00] 10, .disconnect combo]

def heldA : Key := ⟨0x07, 0x04⟩

theorem held_a_releasable : Releasable .two heldA := by
  have coded : Keyboard.Change.Coded .two ⟨0x07, 0x04, .release⟩ := by decide +kernel
  exact coded

theorem unplugged_gone : Gone .standard combo unplugged := by
  have absent : (((start .standard).after unplugged).roster.session? combo).isNone = true := by decide +kernel
  exact .inl (Option.isNone_iff_eq_none.mp absent)

theorem unplugged_keyboard_leaves_key :
    Gone .standard combo unplugged ∧ Releasable .two heldA ∧
      hostKeys ∅ ((start .standard).gather (keysFrom combo) unplugged) = {heldA} ∧
      Left .standard combo heldA unplugged := by
  have down : hostKeys ∅ ((start .standard).gather (keysFrom combo) unplugged) = {heldA} := by decide +kernel
  have left := (gone_device_keys .standard unplugged combo unplugged_gone).1 heldA held_a_releasable
    (down ▸ Finset.mem_singleton_self heldA)
  exact ⟨unplugged_gone, held_a_releasable, down, left⟩

theorem unplugged_key_never_released :
    ¬ ∀ settings operations device, Gone settings device operations → ∀ key, Releasable settings.scanSet key →
      key ∉ hostKeys ∅ ((start settings).gather (keysFrom device) operations) := by
  intro released
  refine released .standard unplugged combo unplugged_gone heldA held_a_releasable ?_
  decide +kernel

end Relay
end HidRelay
