import HidRelay.Proofs.Descriptor.Keyed
import HidRelay.Proofs.Device.Waiting
import HidRelay.Proofs.Keyboard.HostKeys

/-!
The streams of a device, one for each of its input layouts. A stream on its own is an encoder or a
pacer that is given the reports of one layout and the polls, and nothing else. A session keeps all its
streams side by side; a report moves the one that its ID leads to, a poll moves every pacer.
-/

set_option autoImplicit false

namespace HidRelay.Device

open Report (Catalog Layout)
open Keyboard (Encoder)
open Pointer (Pacer Motion NumberOverflow)

inductive Signal where
  | report (bytes : Bytes) (now : Nat)
  | poll (now : Nat)
deriving DecidableEq, Repr

namespace Stream

def report? : Signal → Option Bytes
  | .report bytes _ => some bytes
  | .poll _ => none

def reports (signals : List Signal) : List Bytes := signals.filterMap report?

def typed (settings : Settings) (layout : Layout) (signals : List Signal) : Encoder :=
  (Encoder.start settings.scanSet).after ((reports signals).map fun bytes => (Keyboard.decode bytes layout).state)

def operation? (layout : Layout) : Signal → Option Pacer.Operation
  | .report bytes now =>
      match Pointer.decode bytes layout with
      | .error _ => none
      | .ok decoded => some (.push decoded.state now)
  | .poll now => some (.flush now)

-- A new pacer, begun by the first report that can be decoded; the polls before it find nothing.
def paced (settings : Settings) (layout : Layout) : List Signal → Option Pacer
  | [] => none
  | .poll _ :: later => paced settings layout later
  | .report bytes now :: later =>
      match Pointer.decode bytes layout with
      | .error _ => paced settings layout later
      | .ok decoded =>
          let operations := .push decoded.state now :: later.filterMap (operation? layout)
          some ((Pacer.start Settings.waitingCapacity settings.interval now).run operations).1

def encoder? (settings : Settings) (layout : Layout) (signals : List Signal) : Option Encoder :=
  if layout.application.isKeyboardLike ∧ reports signals ≠ [] then some (typed settings layout signals) else none

def pacer? (settings : Settings) (layout : Layout) (signals : List Signal) : Option Pacer :=
  if layout.application.isPointerLike then paced settings layout signals else none

def delivery (settings : Settings) (layout : Layout) (signals : List Signal) (bytes : Bytes) (now : Nat) :
    Except NumberOverflow Delivery :=
  if layout.application.isKeyboardLike then
    .ok (.keyboard ((typed settings layout signals).encode (Keyboard.decode bytes layout).state).2)
  else if layout.application.isPointerLike then
    let pacer := (paced settings layout signals).getD (Pacer.start Settings.waitingCapacity settings.interval now)
    (Pointer.decode bytes layout).map fun decoded => .pointer (pacer.push decoded.state now).2
  else .ok .ignored

def flushed (settings : Settings) (layout : Layout) (signals : List Signal) (now : Nat) : Option Motion :=
  (pacer? settings layout signals).bind fun pacer => (pacer.flush now).2

variable (settings : Settings) (layout : Layout) (signals : List Signal) (bytes : Bytes) (now : Nat)

theorem reports_report : reports (signals ++ [.report bytes now]) = reports signals ++ [bytes] := by
  rw [reports, List.filterMap_append]
  rfl

theorem reports_poll : reports (signals ++ [.poll now]) = reports signals := by
  rw [reports, List.filterMap_append]
  exact List.append_nil _

theorem typed_report : typed settings layout (signals ++ [.report bytes now]) =
    ((typed settings layout signals).encode (Keyboard.decode bytes layout).state).1 := by
  rw [typed, reports_report, List.map_append, Encoder.after, List.foldl_append]
  rfl

theorem encoder_or_start (keyboard : layout.application.isKeyboardLike = true) :
    (encoder? settings layout signals).getD (Encoder.start settings.scanSet) = typed settings layout signals := by
  by_cases unused : reports signals = []
  · simp [encoder?, typed, unused, Encoder.after]
  · simp [encoder?, keyboard, unused]

theorem encoder_report (keyboard : layout.application.isKeyboardLike = true) :
    encoder? settings layout (signals ++ [.report bytes now]) =
      some ((typed settings layout signals).encode (Keyboard.decode bytes layout).state).1 := by
  rw [encoder?, reports_report, typed_report]
  simp [keyboard]

theorem encoder_poll : encoder? settings layout (signals ++ [.poll now]) = encoder? settings layout signals := by
  rw [encoder?, encoder?, typed, typed, reports_poll]

theorem encoder_none (other : layout.application.isKeyboardLike = false) : encoder? settings layout signals = none := by
  simp [encoder?, other]

-- A pacer takes each signal as its next operation; where there is none yet, the signal stands alone.
theorem paced_concat (signal : Signal) : paced settings layout (signals ++ [signal]) =
    ((paced settings layout signals).map fun pacer => (pacer.run (operation? layout signal).toList).1).or
      (paced settings layout [signal]) := by
  induction signals with
  | nil => rfl
  | cons first rest ih =>
      cases first with
      | poll time => exact ih
      | report early time =>
          simp only [List.cons_append, paced]
          cases Pointer.decode early layout with
          | error _ => exact ih
          | ok decoded =>
              have last : [signal].filterMap (operation? layout) = (operation? layout signal).toList := by
                rw [List.filterMap_cons]
                cases operation? layout signal <;> rfl
              simp only [List.filterMap_append, last, ← List.cons_append, Pacer.run_append]
              rfl

theorem paced_report (decoded : Report.Decoded Pointer.State) (decodes : Pointer.decode bytes layout = .ok decoded) :
    paced settings layout (signals ++ [.report bytes now]) = some (((paced settings layout signals).getD
      (Pacer.start Settings.waitingCapacity settings.interval now)).push decoded.state now).1 := by
  rw [paced_concat, operation?, paced, decodes]
  cases paced settings layout signals with
  | none => rfl
  | some pacer => rfl

theorem pacer_report (pointer : layout.application.isPointerLike = true) (decoded : Report.Decoded Pointer.State)
    (decodes : Pointer.decode bytes layout = .ok decoded) :
    pacer? settings layout (signals ++ [.report bytes now]) =
      some (((paced settings layout signals).getD
        (Pacer.start Settings.waitingCapacity settings.interval now)).push decoded.state now).1 := by
  rw [pacer?, if_pos pointer, paced_report settings layout signals bytes now decoded decodes]

theorem pacer_overflow (overflows : Pointer.decode bytes layout = .error ⟨⟩) :
    pacer? settings layout (signals ++ [.report bytes now]) = pacer? settings layout signals := by
  rw [pacer?, pacer?, paced_concat, operation?, paced, overflows]
  cases paced settings layout signals with
  | none => rfl
  | some pacer => rfl

theorem paced_poll : paced settings layout (signals ++ [.poll now]) =
    (paced settings layout signals).map fun pacer => (pacer.flush now).1 := by
  rw [paced_concat]
  exact Option.or_none

theorem pacer_poll : pacer? settings layout (signals ++ [.poll now]) =
    (pacer? settings layout signals).map fun pacer => (pacer.flush now).1 := by
  rw [pacer?, pacer?, paced_poll]
  split
  · rfl
  · rfl

theorem pacer_none (other : layout.application.isPointerLike = false) : pacer? settings layout signals = none := by
  simp [pacer?, other]

theorem encoder_unused (unused : reports signals = []) : encoder? settings layout signals = none := by
  simp [encoder?, unused]

theorem pacer_unused (unused : reports signals = []) : pacer? settings layout signals = none := by
  have nothing : paced settings layout signals = none := by
    induction signals with
    | nil => rfl
    | cons signal rest ih =>
        cases signal with
        | poll time => exact ih unused
        | report first time => exact nomatch unused
  rw [pacer?, nothing, ite_self]

end Stream

def withReport (signals : UInt8 → List Signal) (target : UInt8) (report : Bytes) (now : Nat) (id : UInt8) : List Signal :=
  if id = target then signals id ++ [.report report now] else signals id

def Follows {α : Type} (table : OrderedTable UInt8 α) (catalog : Catalog) (make : Layout → List Signal → Option α)
    (signals : UInt8 → List Signal) : Prop :=
  ∀ id, table.lookup id = (catalog.layout? .input id).bind fun layout => make layout (signals id)

section
variable {α : Type} (table : OrderedTable UInt8 α) (catalog : Catalog) (make : Layout → List Signal → Option α)
  (signals : UInt8 → List Signal) (layout : Layout) (report : Bytes) (now : Nat)

theorem empty_follows (idle : ∀ layout, make layout [] = none) : Follows .empty catalog make fun _ => [] := by
  intro id
  rw [OrderedTable.lookup_empty]
  cases catalog.layout? .input id with
  | none => rfl
  | some layout => exact (idle layout).symm

theorem lookup_follows (follows : Follows table catalog make signals)
    (stored : catalog.layout? .input layout.id = some layout) : table.lookup layout.id = make layout (signals layout.id) := by
  rw [follows, stored, Option.bind_some]

theorem insert_follows (value : α) (follows : Follows table catalog make signals)
    (stored : catalog.layout? .input layout.id = some layout)
    (made : make layout (signals layout.id ++ [.report report now]) = some value) :
    Follows (table.insert layout.id value) catalog make (withReport signals layout.id report now) := by
  intro id
  rw [OrderedTable.lookup_insert, withReport]
  by_cases own : id = layout.id
  · rw [if_pos own, if_pos own, own, stored, Option.bind_some, made]
  · rw [if_neg own, if_neg own, follows]

theorem kept_follows (follows : Follows table catalog make signals)
    (stored : catalog.layout? .input layout.id = some layout)
    (same : make layout (signals layout.id ++ [.report report now]) = make layout (signals layout.id)) :
    Follows table catalog make (withReport signals layout.id report now) := by
  intro id
  rw [follows, withReport]
  by_cases own : id = layout.id
  · rw [if_pos own, own, stored, Option.bind_some, Option.bind_some, same]
  · rw [if_neg own]

end

namespace Session

structure Isolated (session : Session) (settings : Settings) (signals : UInt8 → List Signal) : Prop where
  keyed : session.catalog.Keyed
  encoders : Follows session.encoders session.catalog (Stream.encoder? settings) signals
  pacers : Follows session.pacers session.catalog (Stream.pacer? settings) signals

theorem start_isolated (settings : Settings) (catalog : Catalog) (keyed : catalog.Keyed) :
    (start catalog).Isolated settings fun _ => [] :=
  ⟨keyed, empty_follows catalog _ fun layout => Stream.encoder_unused settings layout [] rfl,
    empty_follows catalog _ fun layout => Stream.pacer_unused settings layout [] rfl⟩

variable (session : Session) (settings : Settings) (signals : UInt8 → List Signal) (now : Nat)

theorem notify_isolated (announced : UInt8) (report : Bytes) (layout : Layout) (isolated : session.Isolated settings signals)
    (found : session.catalog.resolveInput announced = some layout) :
    let heard := withReport signals layout.id report now
    let delivery := Stream.delivery settings layout (signals layout.id) report now
    (delivery = .error ⟨⟩ ∧ session.notify settings announced report now = .error .numberOverflow ∧
      session.Isolated settings heard) ∨
    ∃ next given, delivery = .ok given ∧ session.notify settings announced report now = .ok (next, given) ∧
      next.catalog = session.catalog ∧ next.Isolated settings heard := by
  have stored := session.catalog.resolved_stored isolated.keyed announced layout found
  have encoder := lookup_follows _ _ _ _ layout isolated.encoders stored
  have pacer := lookup_follows _ _ _ _ layout isolated.pacers stored
  have encoders := kept_follows _ _ _ _ layout report now isolated.encoders stored
  have pacers := kept_follows _ _ _ _ layout report now isolated.pacers stored
  -- A report touches one of the two tables at most; the other one stands as it stood.
  rcases notify_cases session settings announced report now with
    ⟨missing, _⟩ | ⟨known, resolved, ⟨keyboard, encodes⟩ | ⟨other, pointer, overflows, failed⟩ |
      ⟨other, pointer, decoded, decodes, pushes⟩ | ⟨other, neither, ignores⟩⟩
  · cases missing.symm.trans found
  · obtain rfl := Option.some.inj (resolved.symm.trans found)
    have own : session.encoder settings known.id = Stream.typed settings known (signals known.id) := by
      rw [Session.encoder, encoder, Stream.encoder_or_start _ _ _ keyboard]
    have unpaced := known.application.keyboard_or_pointer keyboard
    rw [own] at encodes
    refine .inr ⟨_, _, if_pos keyboard, encodes, rfl, isolated.keyed, ?_, ?_⟩
    · exact insert_follows _ _ _ _ known report now _ isolated.encoders stored (Stream.encoder_report _ _ _ _ _ keyboard)
    · exact pacers (by rw [Stream.pacer_none _ _ _ unpaced, Stream.pacer_none _ _ _ unpaced])
  · obtain rfl := Option.some.inj (resolved.symm.trans found)
    refine .inl ⟨?_, failed, isolated.keyed, ?_, pacers (Stream.pacer_overflow _ _ _ _ _ overflows)⟩
    · rw [Stream.delivery, if_neg (Bool.eq_false_iff.mp other), if_pos pointer, overflows]
      rfl
    · exact encoders (by rw [Stream.encoder_none _ _ _ other, Stream.encoder_none _ _ _ other])
  · obtain rfl := Option.some.inj (resolved.symm.trans found)
    have own : session.pacer settings known.id now = (Stream.paced settings known (signals known.id)).getD
        (Pacer.start Settings.waitingCapacity settings.interval now) := by
      rw [Session.pacer, pacer, Stream.pacer?, if_pos pointer]
    rw [own] at pushes
    refine .inr ⟨_, _, ?_, pushes, rfl, isolated.keyed, ?_, ?_⟩
    · rw [Stream.delivery, if_neg (Bool.eq_false_iff.mp other), if_pos pointer, decodes]
      rfl
    · exact encoders (by rw [Stream.encoder_none _ _ _ other, Stream.encoder_none _ _ _ other])
    · exact insert_follows _ _ _ _ known report now _ isolated.pacers stored
        (Stream.pacer_report _ _ _ _ _ pointer decoded decodes)
  · obtain rfl := Option.some.inj (resolved.symm.trans found)
    refine .inr ⟨session, .ignored, ?_, ignores, rfl, isolated.keyed, ?_, ?_⟩
    · rw [Stream.delivery, if_neg (Bool.eq_false_iff.mp other), if_neg (Bool.eq_false_iff.mp neither)]
    · exact encoders (by rw [Stream.encoder_none _ _ _ other, Stream.encoder_none _ _ _ other])
    · exact pacers (by rw [Stream.pacer_none _ _ _ neither, Stream.pacer_none _ _ _ neither])

theorem flush_isolated (isolated : session.Isolated settings signals) :
    (session.flush now).1.Isolated settings fun id => signals id ++ [.poll now] := by
  refine ⟨isolated.keyed, fun id => ?_, fun id => ?_⟩
  · refine (isolated.encoders id).trans ?_
    simp only [Stream.encoder_poll, flush]
  · change (session.pacers.mapValues _).lookup id = _
    rw [OrderedTable.lookup_map_values, isolated.pacers, Option.map_bind]
    simp only [Stream.pacer_poll, Function.comp_def, flush]

theorem flush_gives (isolated : session.Isolated settings signals) :
    (session.flush now).2 =
      session.catalog.input.entries.filterMap fun entry => Stream.flushed settings entry.2 (signals entry.1) now := by
  have values := OrderedTable.values_of_lookup session.pacers session.catalog.input
    (fun id layout => Stream.pacer? settings layout (signals id)) isolated.pacers
  rw [flush, values, List.filterMap_filterMap]
  rfl

end Session
end HidRelay.Device
