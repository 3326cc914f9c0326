import HidRelay.Proofs.Pointer.Due
import HidRelay.Proofs.Relay.Streams
import Mathlib.Order.Bounds.Defs

/-!
Polls and deadlines. The next deadline of a relay is the least over all pacers in which something
waits. A poll flushes the pacers whose deadline has come and no others, so it sends something exactly
when the next deadline has come, and what it leaves waiting is due later.
-/

set_option autoImplicit false

namespace HidRelay

open Device (Address Session Roster Signal Stream.paced Stream.pacer?)
open Report (Layout)
open Pointer (Pacer Motion clockLimit)

theorem Device.Stream.paced_ran (settings : Settings) (layout : Layout) (signals : List Signal) (pacer : Pacer)
    (made : Stream.paced settings layout signals = some pacer) :
    ∃ now operations, pacer = ((Pacer.start Settings.waitingCapacity settings.interval now).run operations).1 := by
  induction signals with
  | nil => exact nomatch made
  | cons signal rest ih =>
      cases signal with
      | poll now => exact ih made
      | report bytes now =>
          rw [Stream.paced] at made
          split at made
          · exact ih made
          · exact ⟨now, _, (Option.some.inj made).symm⟩

structure Place where
  device : Address
  id : UInt8
deriving DecidableEq, Repr

def Place.Before (earlier later : Place) : Prop :=
  rank earlier.device < rank later.device ∨ earlier.device = later.device ∧ rank earlier.id < rank later.id

namespace Relay

def pacers (relay : Relay) : List (Place × Pacer) :=
  relay.roster.sessions.entries.flatMap fun entry =>
    entry.2.pacers.entries.map fun kept => (⟨entry.1, kept.1⟩, kept.2)

def due (relay : Relay) (now : Nat) : List (Place × Pacer) := relay.pacers.filter fun kept => kept.2.isDue now

def InTime (relay : Relay) : Prop := ∀ kept ∈ relay.pacers, kept.2.waiting ≠ [] → kept.2.due ≤ clockLimit

instance (relay : Relay) : Decidable relay.InTime :=
  inferInstanceAs (Decidable (∀ kept ∈ relay.pacers, kept.2.waiting ≠ [] → kept.2.due ≤ clockLimit))

theorem mem_pacers (relay : Relay) (place : Place) (pacer : Pacer) : (place, pacer) ∈ relay.pacers ↔
    ∃ session, relay.roster.session? place.device = some session ∧ session.pacers.lookup place.id = some pacer := by
  simp only [pacers, List.mem_flatMap, List.mem_map, Prod.exists, Prod.mk.injEq]
  constructor
  · rintro ⟨device, session, connected, id, own, stored, rfl, rfl⟩
    exact ⟨session, (OrderedTable.mem_entries _ _ _).mp connected, (OrderedTable.mem_entries _ _ _).mp stored⟩
  · rintro ⟨session, connected, stored⟩
    exact ⟨place.device, session, (OrderedTable.mem_entries _ _ _).mpr connected, place.id, pacer,
      (OrderedTable.mem_entries _ _ _).mpr stored, rfl, rfl⟩

theorem pacers_ordered (relay : Relay) : relay.pacers.Pairwise fun earlier later => earlier.1.Before later.1 := by
  refine List.pairwise_flatMap.mpr ⟨fun entry _ => ?_, relay.roster.sessions.ascending.imp fun {earlier later} less => ?_⟩
  · exact List.pairwise_map.mpr (entry.2.pacers.ascending.imp fun less => .inr ⟨rfl, less⟩)
  · intro left inLeft right inRight
    obtain ⟨_, _, rfl⟩ := List.mem_map.mp inLeft
    obtain ⟨_, _, rfl⟩ := List.mem_map.mp inRight
    exact .inl less

theorem pacers_ran (settings : Settings) (operations : List Operation) (kept : Place × Pacer)
    (member : kept ∈ ((start settings).after operations).pacers) :
    ∃ now own, kept.2 = ((Pacer.start Settings.waitingCapacity settings.interval now).run own).1 := by
  obtain ⟨session, connected, stored⟩ := (mem_pacers _ kept.1 kept.2).mp member
  obtain ⟨_, _, _, _, _, isolated⟩ := session_history settings operations kept.1.device session connected
  rw [isolated.pacers] at stored
  obtain ⟨layout, _, made⟩ := Option.bind_eq_some_iff.mp stored
  simp only [Stream.pacer?, Option.ite_none_right_eq_some] at made
  exact Device.Stream.paced_ran settings layout _ kept.2 made.2

theorem pacers_patient (settings : Settings) (operations : List Operation) :
    ∀ kept ∈ ((start settings).after operations).pacers, kept.2.Patient := by
  intro kept member
  obtain ⟨now, own, ran⟩ := pacers_ran settings operations kept member
  rw [ran]
  exact Pacer.run_patient _ own (Pacer.start_patient _ _ now)

theorem next_deadline_least (relay : Relay) (inTime : relay.InTime) :
    relay.nextDeadline = .ok (relay.pacers.flatMap fun kept => kept.2.dues).min? := by
  have session : ∀ entry ∈ relay.roster.sessions.entries,
      entry.2.deadline = .ok (entry.2.pacers.entries.flatMap fun kept => kept.2.dues).min? := by
    intro entry connected
    rw [Session.deadline, OrderedTable.values, List.map_map]
    refine Pointer.earliest_of_dues _ _ _ fun kept stored => Pacer.deadline_of_dues kept.2 ?_
    exact inTime (⟨entry.1, kept.1⟩, kept.2) (List.mem_flatMap.mpr ⟨entry, connected, List.mem_map_of_mem stored⟩)
  rw [nextDeadline, Roster.deadline, OrderedTable.values, List.map_map]
  refine (Pointer.earliest_of_dues _ _ _ session).trans ?_
  rw [pacers, List.flatMap_assoc]
  simp only [List.flatMap_map]

theorem poll_pacers (relay : Relay) (now : Nat) :
    (relay.poll now).relay.pacers = relay.pacers.map fun kept => (kept.1, (kept.2.flush now).1) := by
  simp only [pacers, poll, Roster.flush, Session.flush, OrderedTable.mapValues, List.flatMap_map, List.map_flatMap,
    List.map_map, Function.comp_def]

theorem poll_motions (relay : Relay) (now : Nat) :
    (relay.roster.flush now).2.flatMap (·.2) = relay.pacers.filterMap fun kept => (kept.2.flush now).2 := by
  simp only [pacers, Roster.flush, Session.flush, OrderedTable.values, List.flatMap_map, List.filterMap_flatMap,
    List.filterMap_map, Function.comp_def]

section
variable (relay : Relay) (now : Nat) (patient : ∀ kept ∈ relay.pacers, kept.2.Patient)
include patient

theorem poll_pacers_due : (relay.poll now).relay.pacers = relay.pacers.map fun kept =>
    if kept.2.isDue now then (kept.1, { kept.2 with waiting := [], lastEmission := now }) else kept := by
  rw [poll_pacers]
  refine List.map_congr_left fun kept member => ?_
  cases due : kept.2.isDue now with
  | true => rw [Pacer.flush_due kept.2 now due, if_pos rfl]
  | false => rw [Pacer.flush_early kept.2 now (patient kept member) due, if_neg Bool.false_ne_true]

theorem poll_motions_due : (relay.roster.flush now).2.flatMap (·.2) = (relay.due now).map fun kept => kept.2.gathered := by
  rw [poll_motions, due, ← List.filterMap_eq_map, List.filterMap_filter]
  refine List.filterMap_congr fun kept member => ?_
  cases due : kept.2.isDue now with
  | true => rw [Pacer.flush_due kept.2 now due, if_pos rfl]; rfl
  | false => rw [Pacer.flush_early kept.2 now (patient kept member) due, if_neg Bool.false_ne_true]

end

structure Polled (relay : Relay) (now : Nat) : Prop where
  selects : ∀ place pacer, (place, pacer) ∈ relay.due now ↔
    (∃ session, relay.roster.session? place.device = some session ∧ session.pacers.lookup place.id = some pacer) ∧
      ∃ time ≤ now, pacer.deadline = .ok (some time)
  ordered : (relay.due now).Pairwise fun earlier later => earlier.1.Before later.1
  flushes : (relay.poll now).relay.pacers = relay.pacers.map fun kept =>
    if kept.2.isDue now then (kept.1, { kept.2 with waiting := [], lastEmission := now }) else kept
  counts : (relay.poll now).result = (relay.due now).length
  sends : (relay.poll now).sent = (relay.due now).flatMap fun kept =>
    (kept.2.gathered.split relay.settings.protocol).map fun part => .packet part (part.encode relay.settings.protocol)

theorem polled (relay : Relay) (now : Nat) (inTime : relay.InTime) (patient : ∀ kept ∈ relay.pacers, kept.2.Patient) :
    relay.Polled now where
  selects place pacer := by
    rw [due, List.mem_filter, mem_pacers]
    refine and_congr_right fun stored => ?_
    have shown := inTime (place, pacer) ((mem_pacers relay place pacer).mpr stored)
    rw [Pacer.isDue, decide_eq_true_iff]
    constructor
    · intro ⟨waits, reached⟩
      exact ⟨pacer.due, reached, (Pacer.deadline_iff pacer shown _).mpr ⟨waits, rfl⟩⟩
    · intro ⟨time, reached, deadline⟩
      obtain ⟨waits, same⟩ := (Pacer.deadline_iff pacer shown time).mp deadline
      exact ⟨waits, same ▸ reached⟩
  ordered := (pacers_ordered relay).filter _
  flushes := poll_pacers_due relay now patient
  counts := by
    change ((relay.roster.flush now).2.flatMap (·.2)).length = _
    rw [poll_motions_due relay now patient, List.length_map]
  sends := by
    change ((relay.roster.flush now).2.flatMap (·.2)).flatMap _ = _
    rw [poll_motions_due relay now patient, List.flatMap_map]
    rfl

theorem left_waiting (relay : Relay) (now : Nat) (patient : ∀ kept ∈ relay.pacers, kept.2.Patient) (kept : Place × Pacer)
    (member : kept ∈ (relay.poll now).relay.pacers) (waits : kept.2.waiting ≠ []) :
    kept ∈ relay.pacers ∧ now < kept.2.due := by
  rw [poll_pacers_due relay now patient] at member
  obtain ⟨before, known, image⟩ := List.mem_map.mp member
  cases due : before.2.isDue now with
  | true =>
      rw [due, if_pos rfl] at image
      exact absurd (image ▸ rfl) waits
  | false =>
      rw [due, if_neg Bool.false_ne_true] at image
      subst image
      refine ⟨known, Nat.not_le.mp fun reached => ?_⟩
      exact of_decide_eq_false due ⟨waits, reached⟩

theorem poll_in_time (relay : Relay) (now : Nat) (inTime : relay.InTime) (patient : ∀ kept ∈ relay.pacers, kept.2.Patient) :
    (relay.poll now).relay.InTime := by
  intro kept member waits
  exact inTime kept (left_waiting relay now patient kept member waits).1 waits

theorem mem_all_dues (relay : Relay) (time : Nat) : (time ∈ relay.pacers.flatMap fun kept => kept.2.dues) ↔
    ∃ kept ∈ relay.pacers, kept.2.waiting ≠ [] ∧ kept.2.due = time := by
  simp only [List.mem_flatMap, Pacer.mem_dues]

theorem no_dues (relay : Relay) :
    (relay.pacers.flatMap fun kept => kept.2.dues) = [] ↔ ∀ kept ∈ relay.pacers, kept.2.pending = 0 := by
  rw [List.flatMap_eq_nil_iff]
  refine forall₂_congr fun kept _ => ?_
  rw [Pacer.pending, List.length_eq_zero_iff, Pacer.dues]
  split <;> simp_all

theorem least_deadline (relay : Relay) (inTime : relay.InTime) (time : Nat) :
    (relay.pacers.flatMap fun kept => kept.2.dues).min? = some time ↔
      IsLeast {due | ∃ kept ∈ relay.pacers, kept.2.deadline = .ok (some due)} time := by
  have same : {due | ∃ kept ∈ relay.pacers, kept.2.deadline = .ok (some due)} =
      {due | due ∈ relay.pacers.flatMap fun kept => kept.2.dues} := by
    ext due
    rw [Set.mem_ofPred_eq, Set.mem_ofPred_eq, mem_all_dues]
    refine exists_congr fun kept => and_congr_right fun member => ?_
    exact Pacer.deadline_iff kept.2 (inTime kept member) due
  rw [same, List.min?_eq_some_iff]
  rfl

theorem due_exists (relay : Relay) (now : Nat) : relay.due now ≠ [] ↔
    ∃ time ≤ now, (relay.pacers.flatMap fun kept => kept.2.dues).min? = some time := by
  constructor
  · intro some
    obtain ⟨kept, member⟩ := List.exists_mem_of_ne_nil _ some
    obtain ⟨stored, due⟩ := List.mem_filter.mp member
    obtain ⟨waits, reached⟩ := of_decide_eq_true due
    have known := (mem_all_dues relay kept.2.due).mpr ⟨kept, stored, waits, rfl⟩
    cases least : (relay.pacers.flatMap fun kept => kept.2.dues).min? with
    | none => exact absurd (List.min?_eq_none_iff.mp least) (List.ne_nil_of_mem known)
    | some time => exact ⟨time, Nat.le_trans ((List.min?_eq_some_iff.mp least).2 _ known) reached, rfl⟩
  · intro ⟨time, reached, least⟩
    obtain ⟨kept, stored, waits, same⟩ := (mem_all_dues relay time).mp (List.min?_eq_some_iff.mp least).1
    have due : kept.2.isDue now = true := decide_eq_true ⟨waits, same ▸ reached⟩
    exact List.ne_nil_of_mem (List.mem_filter.mpr ⟨stored, due⟩)

theorem nothing_due_after_poll (relay : Relay) (now earlier : Nat) (patient : ∀ kept ∈ relay.pacers, kept.2.Patient)
    (notLater : earlier ≤ now) : (relay.poll now).relay.due earlier = [] := by
  refine List.filter_eq_nil_iff.mpr fun kept member due => ?_
  obtain ⟨waits, reached⟩ := of_decide_eq_true due
  have later := (left_waiting relay now patient kept member waits).2
  omega

theorem polls_meet_deadlines (settings : Settings) (operations : List Operation)
    (inTime : ((start settings).after operations).InTime) :
    let relay := (start settings).after operations
    ∃ next, relay.nextDeadline = .ok next ∧
      (next = none ↔ ∀ kept ∈ relay.pacers, kept.2.pending = 0) ∧
      (∀ time, next = some time ↔ IsLeast {due | ∃ kept ∈ relay.pacers, kept.2.deadline = .ok (some due)} time) ∧
      ∀ now, relay.Polled now ∧
        ((relay.poll now).result ≠ 0 ↔ ∃ time ≤ now, next = some time) ∧
        (∃ later, (relay.poll now).relay.nextDeadline = .ok later ∧ ∀ time, later = some time → now < time) ∧
        ∀ earlier ≤ now, ((relay.poll now).relay.poll earlier).result = 0 ∧
          ((relay.poll now).relay.poll earlier).sent = [] := by
  intro relay
  have patient := pacers_patient settings operations
  refine ⟨_, next_deadline_least relay inTime, ?_, least_deadline relay inTime, fun now => ?_⟩
  · rw [List.min?_eq_none_iff]
    exact no_dues relay
  · have now_polled := polled relay now inTime patient
    have still_in_time := poll_in_time relay now inTime patient
    -- The relay behind the poll is reached by a run as well, one operation longer.
    have still_patient : ∀ kept ∈ (relay.poll now).relay.pacers, kept.2.Patient := by
      have next := pacers_patient settings (operations ++ [.poll now])
      rwa [after_append] at next
    refine ⟨now_polled, ?_, ⟨_, next_deadline_least _ still_in_time, ?_⟩, ?_⟩
    · rw [now_polled.counts, ← due_exists, ne_eq, List.length_eq_zero_iff]
    · intro time least
      obtain ⟨kept, member, waits, rfl⟩ := (mem_all_dues _ time).mp (List.min?_eq_some_iff.mp least).1
      exact (left_waiting relay now patient kept member waits).2
    · intro earlier notLater
      have again := polled _ earlier still_in_time still_patient
      rw [again.counts, again.sends, nothing_due_after_poll relay now earlier patient notLater]
      exact ⟨rfl, rfl⟩

-- The second mouse was heard first: the clock ran backwards.
def twoMice : List Operation :=
  let left : Address := ⟨1, 0, 0, 0, 0, 0⟩
  let right : Address := ⟨2, 0, 0, 0, 0, 0⟩
  [.connect left Descriptor.BootDevice.mouse.descriptor, .connect right Descriptor.BootDevice.mouse.descriptor,
    .notify left 0 [0x00, 0x03, 0x00] 100, .notify right 0 [0x00, 0x01, 0x01] 50, .notify left 0 [0x00, 0x04, 0x00] 200]

theorem two_mice_polled :
    ((start .standard).after twoMice).InTime ∧
    ((start .standard).after twoMice).nextDeadline = .ok (some 17050) ∧
    (((start .standard).after twoMice).poll 17060).sent =
      [.packet ⟨1, 1, 0, 0⟩ [0x28, 0x01, 0xFF]] ∧
    ∃ later, (((start .standard).after twoMice).poll 17060).relay.nextDeadline = .ok later ∧
      ∀ time, later = some time → 17060 < time := by
  have inTime : ((start .standard).after twoMice).InTime := by decide +kernel
  have next : ((start .standard).after twoMice).nextDeadline = .ok (some 17050) := by decide +kernel
  obtain ⟨_, _, _, _, polls⟩ := polls_meet_deadlines .standard twoMice inTime
  obtain ⟨polled, _, later, _⟩ := polls 17060
  refine ⟨inTime, next, ?_, later⟩
  rw [polled.sends]
  decide +kernel

end Relay
end HidRelay
