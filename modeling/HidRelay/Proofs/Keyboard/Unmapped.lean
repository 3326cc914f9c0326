import HidRelay.Proofs.Keyboard.HostKeys

set_option autoImplicit false

namespace HidRelay.Keyboard

def mapped (set : ScanSet) (page usage : UInt16) : Bool := (lookup set page usage .press).isOk

theorem code_of_transitions (set : ScanSet) (keyCode : KeyCode) (transition : Transition) :
    (keyCode.scanCode set transition).isSome = (keyCode.scanCode set .press).isSome := by
  cases transition <;> cases keyCode <;> rfl

theorem lookup_found (set : ScanSet) (page usage : UInt16) (transition : Transition) :
    (lookup set page usage transition).isOk =
      ((findRow (rowsOfPage page) usage).bind fun row => row.code.scanCode set transition).isSome := by
  rw [lookup]
  cases (findRow (rowsOfPage page) usage).bind fun row => row.code.scanCode set transition <;> rfl

theorem lookup_of_transitions (set : ScanSet) (page usage : UInt16) (transition : Transition) :
    (lookup set page usage transition).isOk = mapped set page usage := by
  rw [mapped, lookup_found, lookup_found]
  cases findRow (rowsOfPage page) usage with
  | none => rfl
  | some row => exact code_of_transitions set row.code transition

theorem lookup_error_iff (set : ScanSet) (page usage : UInt16) (transition : Transition) (miss : LookupMiss) :
    lookup set page usage transition = .error miss ↔
      mapped set page usage = false ∧ miss = ⟨page, usage, set.number⟩ := by
  rw [← lookup_of_transitions set page usage transition, lookup]
  cases (findRow (rowsOfPage page) usage).bind fun row => row.code.scanCode set transition with
  | none => exact ⟨fun failed => by cases failed; exact ⟨rfl, rfl⟩, fun known => by rw [known.2]⟩
  | some code => exact ⟨fun failed => (by cases failed), fun known => (by cases known.1)⟩

section

variable (set : ScanSet)

def Change.mapped (change : Change) : Bool := Keyboard.mapped set change.page change.usage

def Held.onlyMapped (held : Held) : Held :=
  ⟨held.page, held.keys.filter (Keyboard.mapped set held.page), held.distinct.filter _⟩

theorem event_of_unmapped (change : Change) (unmapped : change.mapped set = false) : change.event? set = none := by
  have failed : change.lookup set = .error ⟨change.page, change.usage, set.number⟩ :=
    (lookup_error_iff set change.page change.usage change.transition _).mpr ⟨unmapped, rfl⟩
  rw [Change.event?, failed]

theorem miss_of_change (change : Change) :
    change.miss? set = if change.mapped set then none else some ⟨change.page, change.usage, set.number⟩ := by
  rw [Change.miss?]
  cases found : change.lookup set with
  | error miss =>
      obtain ⟨unmapped, rfl⟩ := (lookup_error_iff set change.page change.usage change.transition miss).mp found
      rw [Change.mapped, unmapped]
      rfl
  | ok code =>
      have known : change.mapped set = true :=
        (lookup_of_transitions set change.page change.usage change.transition).symm.trans (congrArg Except.isOk found)
      rw [known]
      rfl

theorem miss_names (change : Change) (miss : LookupMiss) (missed : change.miss? set = some miss) :
    miss = ⟨change.page, change.usage, set.number⟩ := by
  rw [miss_of_change] at missed
  split at missed
  · cases missed
  · cases missed
    rfl

theorem events_of_mapped (changes : List Change) :
    eventsOf set (changes.filter (·.mapped set)) = eventsOf set changes := by
  rw [eventsOf, eventsOf, List.filterMap_filter]
  refine List.filterMap_congr fun change _ => ?_
  cases known : change.mapped set with
  | true => rfl
  | false => exact (event_of_unmapped set change known).symm

theorem holds_mapped (held : Held) (page usage : UInt16) (known : mapped set page usage = true) :
    (held.onlyMapped set).holds page usage = held.holds page usage := by
  simp only [Held.holds, Held.isDown, Held.onlyMapped, List.contains_eq_mem, List.mem_filter, decide_eq_true_eq,
    decide_eq_decide]
  refine and_congr_right fun same => and_iff_left ?_
  rw [same]
  exact known

theorem lacking_mapped (held other : Held) (transition : Transition) :
    (((held.onlyMapped set).keys.filter fun usage => !(other.onlyMapped set).holds held.page usage).map
        (⟨held.page, ·, transition⟩ : UInt16 → Change)) =
      ((held.keys.filter fun usage => !other.holds held.page usage).map
        (⟨held.page, ·, transition⟩ : UInt16 → Change)).filter (·.mapped set) := by
  have keys : (held.onlyMapped set).keys = held.keys.filter (mapped set held.page) := rfl
  rw [List.filter_map, keys, List.filter_filter, List.filter_filter]
  refine congrArg (List.map _) (List.filter_congr fun usage _ => ?_)
  cases known : mapped set held.page usage with
  | false => simp [Change.mapped, known]
  | true => simp [Change.mapped, known, holds_mapped set other held.page usage known]

theorem changes_mapped (before after : Held) :
    (before.onlyMapped set).changes (after.onlyMapped set) = (before.changes after).filter (·.mapped set) := by
  rw [Held.changes, Held.changes, List.filter_append]
  exact congrArg₂ List.append (lacking_mapped set before after .release) (lacking_mapped set after before .press)

end

namespace Encoder

def onlyMapped (encoder : Encoder) : Encoder := ⟨encoder.set, encoder.previous.map (Held.onlyMapped encoder.set)⟩

theorem held_mapped (encoder : Encoder) (page : UInt16) :
    encoder.onlyMapped.held page = (encoder.held page).onlyMapped encoder.set := by
  cases known : encoder.previous with
  | none => simp only [held, onlyMapped, known, Option.map_none, Option.getD_none]; rfl
  | some previous => simp only [held, onlyMapped, known, Option.map_some, Option.getD_some]

theorem encode_mapped (encoder : Encoder) (current : Held) :
    (encoder.onlyMapped.encode (current.onlyMapped encoder.set)).1 = (encoder.encode current).1.onlyMapped ∧
    (encoder.onlyMapped.encode (current.onlyMapped encoder.set)).2.events = (encoder.encode current).2.events := by
  refine ⟨rfl, ?_⟩
  have page : (current.onlyMapped encoder.set).page = current.page := rfl
  rw [encode_answer, encode_answer, page, held_mapped, changes_mapped]
  exact events_of_mapped encoder.set _

theorem answers_mapped (encoder : Encoder) (reports : List Held) :
    (encoder.onlyMapped.answers (reports.map (Held.onlyMapped encoder.set))).map (·.events) =
      (encoder.answers reports).map (·.events) := by
  induction reports generalizing encoder with
  | nil => rfl
  | cons current rest ih =>
      obtain ⟨next, same⟩ := encode_mapped encoder current
      rw [List.map_cons, answers, answers, List.map_cons, List.map_cons, same, next]
      exact congrArg (List.cons _) (ih (encoder.encode current).1)

theorem answer_at (encoder : Encoder) (reports : List Held) (call : Nat) :
    (encoder.answers reports)[call]? =
      reports[call]?.map fun current => ((encoder.after (reports.take call)).encode current).2 := by
  induction reports generalizing encoder call with
  | nil => rfl
  | cons first rest ih =>
      cases call with
      | zero => rfl
      | succ call => exact ih (encoder.encode first).1 call

end Encoder

theorem misses_of_keys (set : ScanSet) (page : UInt16) (transition : Transition) (keys : List UInt16) :
    (keys.map (⟨page, ·, transition⟩ : UInt16 → Change)).filterMap (·.miss? set) =
      (keys.filter fun usage => !mapped set page usage).map (⟨page, ·, set.number⟩) := by
  induction keys with
  | nil => rfl
  | cons usage rest ih =>
      rw [List.map_cons, List.filterMap_cons, miss_of_change, ih, Change.mapped]
      cases known : mapped set page usage with
      | true => rw [List.filter_cons_of_neg (by simp [known])]; rfl
      | false => rw [List.filter_cons_of_pos (by simp [known])]; rfl

def Held.missedBeside (set : ScanSet) (held : Held) (other : Option Held) : List LookupMiss :=
  (held.keys.filter fun usage => !mapped set held.page usage && !other.any (·.holds held.page usage)).map
    (⟨held.page, ·, set.number⟩)

def missedBetween (set : ScanSet) (previous : Option Held) (current : Held) : List LookupMiss :=
  (previous.toList.flatMap fun before => before.missedBeside set (some current)) ++ current.missedBeside set previous

namespace Encoder

theorem encode_misses (encoder : Encoder) (current : Held) :
    (encoder.encode current).2.misses = missedBetween encoder.set encoder.previous current := by
  have answer : (encoder.encode current).2.misses =
      ((encoder.held current.page).changes current).filterMap (·.miss? encoder.set) := rfl
  rw [answer, Held.changes, List.filterMap_append, Held.released, Held.pressed, misses_of_keys, misses_of_keys,
    List.filter_filter, List.filter_filter, held]
  cases encoder.previous with
  | none => simp [missedBetween, Held.missedBeside, Held.empty, Held.holds, Held.isDown]
  | some before => simp [missedBetween, Held.missedBeside]

theorem misses_distinct (encoder : Encoder) (current : Held) : (encoder.encode current).2.misses.Nodup := by
  have distinct := changed_keys_distinct (encoder.held current.page) current
  rw [List.Nodup, List.pairwise_map] at distinct
  refine distinct.filterMap _ fun one other different miss missed miss' missed' same => different ?_
  have named := miss_names encoder.set one miss missed
  rw [same, miss_names encoder.set other miss' missed'] at named
  obtain ⟨page, usage, _⟩ := LookupMiss.mk.inj named
  rw [Change.key, Change.key, page, usage]

end Encoder

theorem unmapped_keys_inert (set : ScanSet) (reports : List Held) :
    let answers := (Encoder.start set).answers reports
    (∀ page usage transition miss, lookup set page usage transition = .error miss ↔
      mapped set page usage = false ∧ miss = ⟨page, usage, set.number⟩) ∧
    ((Encoder.start set).answers (reports.map (Held.onlyMapped set))).map (·.events) = answers.map (·.events) ∧
    (∀ call, answers[call]?.map (·.misses) = reports[call]?.map (missedBetween set (reports.take call).getLast?)) ∧
    ∀ answer ∈ answers, answer.misses.Nodup := by
  intro answers
  refine ⟨lookup_error_iff set, Encoder.answers_mapped (Encoder.start set) reports, fun call => ?_, fun answer member => ?_⟩
  · rw [Encoder.answer_at, Option.map_map]
    refine Option.map_congr fun current _ => ?_
    have misses := ((Encoder.start set).after (reports.take call)).encode_misses current
    have first : (Encoder.start set).previous = none := rfl
    rw [Encoder.after_previous, Encoder.after_set, first, Option.or_none] at misses
    exact misses
  · obtain ⟨call, here⟩ := List.getElem?_of_mem member
    rw [Encoder.answer_at] at here
    obtain ⟨current, _, rfl⟩ := Option.map_eq_some_iff.mp here
    exact Encoder.misses_distinct _ current

end HidRelay.Keyboard
