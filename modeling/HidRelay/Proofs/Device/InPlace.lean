import HidRelay.Device.Roster
import HidRelay.Proofs.TableTotals

/-!
The operations of a roster step by step, on sessions that are changed where they stand. A failure does
not take back what was changed before it, so only the order of the steps keeps a failed operation from
leaving anything behind.
-/

set_option autoImplicit false

namespace HidRelay

abbrev InPlace (σ α : Type) := ExceptT Failure (StateM σ) α

namespace InPlace

variable {σ τ α : Type}

def perform (program : InPlace σ α) (state : σ) : Except Failure α × σ := program.run.run state

def within (part : τ) (put : τ → σ → σ) (program : InPlace τ α) : InPlace σ α :=
  ExceptT.mk do
    let outcome := program.perform part
    modify (put outcome.2)
    return outcome.1

def settle (state : σ) : Except Failure (σ × α) → Except Failure α × σ
  | .error failure => (.error failure, state)
  | .ok (next, answer) => (.ok answer, next)

theorem perform_bind {β : Type} (first : InPlace σ α) (next : α → InPlace σ β) (state : σ) :
    (first >>= next).perform state =
      match first.perform state with
      | (.error failure, after) => (.error failure, after)
      | (.ok value, after) => (next value).perform after := by
  change (match first.perform state with
    | (outcome, after) => StateT.run (ExceptT.bindCont next outcome) after) = _
  cases first.perform state with
  | mk outcome after => cases outcome <;> rfl

theorem map_ok {α β : Type} {outcome : Except Failure α} {f : α → β} {result : β} (done : outcome.map f = .ok result) :
    ∃ value, outcome = .ok value ∧ f value = result := by
  cases outcome with
  | error failure => cases done
  | ok value => exact ⟨value, rfl, Except.ok.inj done⟩

theorem map_error_iff {α β : Type} (outcome : Except Failure α) (f : α → β) (failure : Failure) :
    outcome.map f = .error failure ↔ outcome = .error failure := by
  cases outcome <;> simp [Except.map]

end InPlace

namespace OrderedTable

variable {κ α : Type} [Ranked κ]

def orInsert (key : κ) (value : α) (table : OrderedTable κ α) : OrderedTable κ α :=
  if (table.lookup key).isSome then table else table.insert key value

theorem lookup_or_insert [DecidableEq κ] (key : κ) (value : α) (table : OrderedTable κ α) :
    (table.orInsert key value).lookup key = some ((table.lookup key).getD value) := by
  unfold orInsert
  cases found : table.lookup key with
  | none => simp [lookup_insert]
  | some old => simp [found]

theorem insert_or_insert [DecidableEq κ] (key : κ) (first second : α) (table : OrderedTable κ α) :
    (table.orInsert key first).insert key second = table.insert key second := by
  apply eq_of_lookup
  intro query
  unfold orInsert
  split
  · rfl
  · rw [lookup_insert, lookup_insert, lookup_insert]
    by_cases own : query = key <;> simp [own]

theorem insert_same [DecidableEq κ] (key : κ) (value : α) (table : OrderedTable κ α)
    (found : table.lookup key = some value) : table.insert key value = table := by
  apply eq_of_lookup
  intro query
  rw [lookup_insert]
  by_cases own : query = key
  · rw [if_pos own, own, found]
  · rw [if_neg own]

theorem or_insert_erase [DecidableEq κ] (key : κ) (value : α) (table : OrderedTable κ α) :
    (table.erase key).orInsert key value = table.insert key value := by
  have gone : (table.erase key).lookup key = none := by rw [lookup_erase, if_pos rfl]
  rw [orInsert, gone]
  apply eq_of_lookup
  intro query
  rw [Option.isSome_none, if_neg (by simp), lookup_insert, lookup_erase, lookup_insert]
  by_cases own : query = key <;> simp [own]

end OrderedTable

namespace Device

open InPlace (settle within)
open Keyboard (Encoder)
open Pointer (Pacer)
open Report (Layout)

namespace Session

def openEncoder (settings : Settings) (id : UInt8) (session : Session) : Session :=
  { session with encoders := session.encoders.orInsert id (Encoder.start settings.scanSet) }

def openPacer (settings : Settings) (id : UInt8) (now : Nat) (session : Session) : Session :=
  { session with pacers := session.pacers.orInsert id (Pacer.start Settings.waitingCapacity settings.interval now) }

def putEncoder (id : UInt8) (encoder : Encoder) (session : Session) : Session :=
  { session with encoders := session.encoders.insert id encoder }

def putPacer (id : UInt8) (pacer : Pacer) (session : Session) : Session :=
  { session with pacers := session.pacers.insert id pacer }

theorem encoder_open (session : Session) (settings : Settings) (id : UInt8) :
    (session.openEncoder settings id).encoder settings id = session.encoder settings id := by
  rw [encoder, openEncoder, OrderedTable.lookup_or_insert]
  rfl

theorem pacer_open (session : Session) (settings : Settings) (id : UInt8) (now : Nat) :
    (session.openPacer settings id now).pacer settings id now = session.pacer settings id now := by
  rw [pacer, openPacer, OrderedTable.lookup_or_insert]
  rfl

theorem put_encoder_open (session : Session) (settings : Settings) (id : UInt8) (encoder : Encoder) :
    (session.openEncoder settings id).putEncoder id encoder = session.putEncoder id encoder := by
  simp only [putEncoder, openEncoder, OrderedTable.insert_or_insert]

theorem put_pacer_open (session : Session) (settings : Settings) (id : UInt8) (now : Nat) (pacer : Pacer) :
    (session.openPacer settings id now).putPacer id pacer = session.putPacer id pacer := by
  simp only [putPacer, openPacer, OrderedTable.insert_or_insert]

-- The first report of a layout opens its encoder or pacer before it goes through it.
def dispatchTo (settings : Settings) (layout : Layout) (report : Bytes) (now : Nat) : InPlace Session Delivery := do
  if layout.application.isKeyboardLike then
    modify (openEncoder settings layout.id)
    let encoded := ((← get).encoder settings layout.id).encode (Keyboard.decode report layout).state
    modify (putEncoder layout.id encoded.1)
    return .keyboard encoded.2
  else if layout.application.isPointerLike then
    match Pointer.decode report layout with
    | .error _ => throw .numberOverflow
    | .ok decoded =>
        modify (openPacer settings layout.id now)
        let pushed := ((← get).pacer settings layout.id now).push decoded.state now
        modify (putPacer layout.id pushed.1)
        return .pointer pushed.2
  else return .ignored

def dispatch (settings : Settings) (id : UInt8) (report : Bytes) (now : Nat) : InPlace Session Delivery := do
  match (← get).catalog.resolveInput id with
  | none => throw (.unknownReport id)
  | some layout => dispatchTo settings layout report now

theorem dispatch_eq (session : Session) (settings : Settings) (id : UInt8) (report : Bytes) (now : Nat) :
    (dispatch settings id report now).perform session = settle session (session.notify settings id report now) := by
  have asked : (dispatch settings id report now).perform session =
      (match session.catalog.resolveInput id with
        | none => throw (.unknownReport id)
        | some layout => dispatchTo settings layout report now : InPlace Session Delivery).perform session := rfl
  rw [asked, notify]
  cases session.catalog.resolveInput id with
  | none => rfl
  | some layout =>
      simp only [dispatchTo]
      split
      · let encoded := ((session.openEncoder settings layout.id).encoder settings layout.id).encode
          (Keyboard.decode report layout).state
        show (Except.ok (Delivery.keyboard encoded.2),
          (session.openEncoder settings layout.id).putEncoder layout.id encoded.1) = _
        rw [put_encoder_open]
        simp only [encoded, encoder_open]
        rfl
      · split
        · cases Pointer.decode report layout with
          | error _ => rfl
          | ok decoded =>
              let pushed := ((session.openPacer settings layout.id now).pacer settings layout.id now).push decoded.state now
              show (Except.ok (Delivery.pointer pushed.2),
                (session.openPacer settings layout.id now).putPacer layout.id pushed.1) = _
              rw [put_pacer_open]
              simp only [pushed, pacer_open]
              rfl
        · rfl

end Session

namespace Roster

def insertSteps (device : Address) (catalog : Report.Catalog) : InPlace Roster Unit := do
  let roster ← get
  if (roster.session? device).isNone ∧ roster.limit ≤ roster.size then throw .tooManyDevices
  else
    modify fun roster => { roster with sessions := roster.sessions.erase device }
    modify fun roster => { roster with sessions := roster.sessions.orInsert device (Session.start catalog) }

def connectSteps (device : Address) (descriptor : Bytes) : InPlace Roster Unit := do
  match Descriptor.read descriptor with
  | .error fault => throw (.descriptor fault)
  | .ok catalog => insertSteps device catalog

def disconnectSteps (device : Address) : InPlace Roster Bool := do
  let known := ((← get).session? device).isSome
  modify fun roster => { roster with sessions := roster.sessions.erase device }
  return known

def dispatch (settings : Settings) (device : Address) (id : UInt8) (report : Bytes) (now : Nat) :
    InPlace Roster Delivery := do
  match (← get).session? device with
  | none => throw .unknownDevice
  | some session =>
      within session (fun next roster => roster.update device next) (Session.dispatch settings id report now)

def flushSteps (now : Nat) : InPlace Roster (List Pointer.Motion) := do
  let flushed := (← get).flush now
  set flushed.1
  return flushed.2.flatMap (·.2)

theorem insert_steps_eq (roster : Roster) (device : Address) (catalog : Report.Catalog) :
    (insertSteps device catalog).perform roster = settle roster ((roster.insert device catalog).map (·, ())) := by
  have asked : (insertSteps device catalog).perform roster =
      (if (roster.session? device).isNone ∧ roster.limit ≤ roster.size then throw .tooManyDevices
      else do
        modify fun roster => { roster with sessions := roster.sessions.erase device }
        modify fun roster => { roster with sessions := roster.sessions.orInsert device (Session.start catalog) } :
        InPlace Roster Unit).perform roster := rfl
  rw [asked, insert]
  split
  · rfl
  · show (Except.ok (),
      { roster with sessions := (roster.sessions.erase device).orInsert device (Session.start catalog) }) = _
    rw [OrderedTable.or_insert_erase]
    rfl

theorem connect_steps_eq (roster : Roster) (device : Address) (descriptor : Bytes) :
    (connectSteps device descriptor).perform roster = settle roster ((roster.connect device descriptor).map (·, ())) := by
  rw [connect, connectSteps]
  cases Descriptor.read descriptor with
  | error fault => rfl
  | ok catalog => exact insert_steps_eq roster device catalog

theorem dispatch_eq (roster : Roster) (settings : Settings) (device : Address) (id : UInt8) (report : Bytes) (now : Nat) :
    (dispatch settings device id report now).perform roster =
      settle roster (roster.notify settings device id report now) := by
  have asked : (dispatch settings device id report now).perform roster =
      (match roster.session? device with
        | none => throw .unknownDevice
        | some session => within session (fun next roster => roster.update device next)
            (Session.dispatch settings id report now) : InPlace Roster Delivery).perform roster := rfl
  rw [asked, notify]
  cases found : roster.session? device with
  | none => rfl
  | some session =>
      show (((Session.dispatch settings id report now).perform session).1,
        roster.update device ((Session.dispatch settings id report now).perform session).2) = _
      rw [Session.dispatch_eq]
      dsimp only
      cases session.notify settings id report now with
      | error failure =>
          show (Except.error failure, roster.update device session) = (Except.error failure, roster)
          rw [update, OrderedTable.insert_same device session roster.sessions found]
      | ok delivered => rfl

theorem flush_steps_eq (roster : Roster) (now : Nat) : (flushSteps now).perform roster =
    settle roster (.ok ((roster.flush now).1, (roster.flush now).2.flatMap (·.2))) := rfl

end Roster
end Device
end HidRelay
