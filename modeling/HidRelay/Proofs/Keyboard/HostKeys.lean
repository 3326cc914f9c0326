import HidRelay.Keyboard.Encoder
import Mathlib.Data.Finset.Insert
import Mathlib.Data.Finset.Erase

/-!
The keys that a host believes to be down: it adds a key when it is pressed and forgets it when it is
released, so what it believes depends on every event since the start.
-/

set_option autoImplicit false

namespace HidRelay.Keyboard

structure Key where
  page : UInt16
  usage : UInt16
deriving DecidableEq, Repr

def Change.key (change : Change) : Key := ⟨change.page, change.usage⟩
def KeyEvent.key (event : KeyEvent) : Key := ⟨event.page, event.usage⟩

def releaseOf (set : ScanSet) (key : Key) : Except LookupMiss ScanCode := lookup set key.page key.usage .release

def Releasable (set : ScanSet) (key : Key) : Prop := ∃ code, releaseOf set key = .ok (.bytes code)

def hostStep (down : Finset Key) (event : KeyEvent) : Finset Key :=
  match event.transition with
  | .press => insert event.key down
  | .release => down.erase event.key

def hostKeys (down : Finset Key) (events : List KeyEvent) : Finset Key := events.foldl hostStep down

structure Expected (set : ScanSet) (down : Finset Key) (event : KeyEvent) : Prop where
  releasesDown : event.transition = .release → event.key ∈ down
  pressesUp : event.transition = .press → Releasable set event.key → event.key ∉ down
  neverSilent : releaseOf set event.key = .ok .silent → event.transition ≠ .release

def AllExpected (set : ScanSet) (down : Finset Key) : List KeyEvent → Prop
  | [] => True
  | event :: rest => Expected set down event ∧ AllExpected set (hostStep down event) rest

def Held.holdsKey (held : Held) (key : Key) : Bool := held.holds key.page key.usage

def Agrees (set : ScanSet) (held : Held) (down : Finset Key) : Prop :=
  ∀ key, Releasable set key → (key ∈ down ↔ held.holdsKey key)

theorem all_expected_append (set : ScanSet) (down : Finset Key) (before after : List KeyEvent) :
    AllExpected set down (before ++ after) ↔
      AllExpected set down before ∧ AllExpected set (hostKeys down before) after := by
  induction before generalizing down with
  | nil => exact ⟨fun rest => ⟨trivial, rest⟩, And.right⟩
  | cons event rest ih =>
      have later := ih (hostStep down event)
      simp only [List.cons_append, AllExpected, later]
      exact and_assoc.symm

theorem lookup_ok_iff (set : ScanSet) (page usage : UInt16) (transition : Transition) (code : ScanCode) :
    lookup set page usage transition = .ok code ↔
      ∃ row, findRow (rowsOfPage page) usage = some row ∧ row.code.scanCode set transition = some code := by
  constructor
  · intro found
    rw [lookup] at found
    cases coded : (findRow (rowsOfPage page) usage).bind fun row => row.code.scanCode set transition with
    | none =>
        rw [coded] at found
        cases found
    | some known =>
        rw [coded] at found
        cases found
        exact Option.bind_eq_some_iff.mp coded
  · intro ⟨row, present, coded⟩
    rw [lookup, present, Option.bind_some, coded]

theorem full_of_release_code (set : ScanSet) (keyCode : KeyCode) (code : Bytes)
    (coded : keyCode.scanCode set .release = some (.bytes code)) :
    ∃ press1 press2, keyCode = .full press1 press2 := by
  cases keyCode with
  | full press1 press2 => exact ⟨press1, press2, rfl⟩
  | pressOnly press1 press2 => cases coded
  | silent => cases coded
  | unassigned => cases coded

theorem press_of_releasable (set : ScanSet) (key : Key) (releasable : Releasable set key) :
    ∃ code, lookup set key.page key.usage .press = .ok (.bytes code) := by
  obtain ⟨code, found⟩ := releasable
  obtain ⟨row, present, coded⟩ := (lookup_ok_iff set key.page key.usage .release _).mp found
  obtain ⟨press1, press2, full⟩ := full_of_release_code set row.code code coded
  refine ⟨KeyCode.pressIn set press1 press2, (lookup_ok_iff set key.page key.usage .press _).mpr ⟨row, present, ?_⟩⟩
  rw [full]
  rfl

theorem event_of_code (set : ScanSet) (change : Change) (code : Bytes)
    (found : change.lookup set = .ok (.bytes code)) :
    change.event? set = some ⟨change.page, change.usage, change.transition, code⟩ := by
  rw [Change.event?, found]

theorem code_of_event (set : ScanSet) (change : Change) (event : KeyEvent)
    (sent : change.event? set = some event) :
    event.key = change.key ∧ event.transition = change.transition ∧
      change.lookup set = .ok (.bytes event.code) := by
  rw [Change.event?] at sent
  cases found : change.lookup set with
  | error miss =>
      rw [found] at sent
      cases sent
  | ok code =>
      rw [found] at sent
      cases code with
      | silent => cases sent
      | bytes code =>
          cases sent
          exact ⟨rfl, rfl, rfl⟩

theorem event_of_releasable (set : ScanSet) (change : Change) (releasable : Releasable set change.key) :
    ∃ event, change.event? set = some event := by
  cases way : change.transition with
  | press =>
      obtain ⟨code, found⟩ := press_of_releasable set change.key releasable
      exact ⟨_, event_of_code set change code (by rw [Change.lookup, way]; exact found)⟩
  | release =>
      obtain ⟨code, found⟩ := releasable
      exact ⟨_, event_of_code set change code (by rw [Change.lookup, way]; exact found)⟩

def eventsOf (set : ScanSet) (changes : List Change) : List KeyEvent := changes.filterMap (·.event? set)

theorem events_of_cons (set : ScanSet) (change : Change) (rest : List Change) :
    eventsOf set (change :: rest) = (change.event? set).toList ++ eventsOf set rest := by
  cases sent : change.event? set with
  | none => exact List.filterMap_cons_none sent
  | some event => exact List.filterMap_cons_some sent

theorem host_keys_append (down : Finset Key) (before after : List KeyEvent) :
    hostKeys down (before ++ after) = hostKeys (hostKeys down before) after := List.foldl_append

theorem host_keys_other (set : ScanSet) (change : Change) (down : Finset Key) (key : Key)
    (other : key ≠ change.key) : key ∈ hostKeys down (change.event? set).toList ↔ key ∈ down := by
  cases sent : change.event? set with
  | none => exact Iff.rfl
  | some event =>
      have otherEvent : key ≠ event.key := (code_of_event set change event sent).1 ▸ other
      change key ∈ hostStep down event ↔ key ∈ down
      cases way : event.transition with
      | press => simp [hostStep, way, otherEvent]
      | release => simp [hostStep, way, otherEvent]

theorem host_keys_own (set : ScanSet) (change : Change) (down : Finset Key)
    (releasable : Releasable set change.key) :
    change.key ∈ hostKeys down (change.event? set).toList ↔ change.transition = .press := by
  obtain ⟨event, sent⟩ := event_of_releasable set change releasable
  obtain ⟨sameKey, sameWay, _⟩ := code_of_event set change event sent
  rw [sent, ← sameKey, ← sameWay]
  change event.key ∈ hostStep down event ↔ event.transition = .press
  cases way : event.transition with
  | press => simp [hostStep, way]
  | release => simp [hostStep, way]

theorem host_keys_unchanged (set : ScanSet) (changes : List Change) (down : Finset Key) (key : Key)
    (unchanged : key ∉ changes.map Change.key) : key ∈ hostKeys down (eventsOf set changes) ↔ key ∈ down := by
  induction changes generalizing down with
  | nil => exact Iff.rfl
  | cons change rest ih =>
      obtain ⟨other, others⟩ := not_or.mp (fun either => unchanged (List.mem_cons.mpr either))
      rw [events_of_cons, host_keys_append]
      exact (ih _ others).trans (host_keys_other set change down key other)

-- Where each key changes once, the last word on a key is its own change.
theorem host_keys_changed (set : ScanSet) (changes : List Change) (down : Finset Key) (change : Change)
    (distinct : (changes.map Change.key).Nodup) (member : change ∈ changes)
    (releasable : Releasable set change.key) :
    change.key ∈ hostKeys down (eventsOf set changes) ↔ change.transition = .press := by
  induction changes generalizing down with
  | nil => cases member
  | cons first rest ih =>
      obtain ⟨fresh, restDistinct⟩ := List.nodup_cons.mp distinct
      rw [events_of_cons, host_keys_append]
      rcases List.mem_cons.mp member with rfl | later
      · exact (host_keys_unchanged set rest _ change.key fresh).trans (host_keys_own set change down releasable)
      · exact ih _ restDistinct later

def Fits (set : ScanSet) (down : Finset Key) (change : Change) : Prop :=
  Releasable set change.key → (change.key ∈ down ↔ change.transition = .release)

theorem expected_of_fits (set : ScanSet) (down : Finset Key) (change : Change) (event : KeyEvent)
    (fits : Fits set down change) (sent : change.event? set = some event) : Expected set down event := by
  obtain ⟨sameKey, sameWay, found⟩ := code_of_event set change event sent
  have releaseFound : event.transition = .release → releaseOf set event.key = .ok (.bytes event.code) := by
    intro released
    rw [sameKey, releaseOf, ← found, Change.lookup, ← sameWay, released]
    rfl
  refine ⟨?_, ?_, ?_⟩
  · intro released
    have releasable : Releasable set change.key := ⟨event.code, sameKey ▸ releaseFound released⟩
    rw [sameKey]
    exact (fits releasable).mpr (sameWay ▸ released)
  · intro pressed releasable down
    have released := (fits (sameKey ▸ releasable)).mp (sameKey ▸ down)
    rw [← sameWay, pressed] at released
    cases released
  · intro silent released
    rw [releaseFound released] at silent
    cases silent

theorem all_expected_of_fits (set : ScanSet) (changes : List Change) (down : Finset Key)
    (distinct : (changes.map Change.key).Nodup) (fits : ∀ change ∈ changes, Fits set down change) :
    AllExpected set down (eventsOf set changes) := by
  induction changes generalizing down with
  | nil => trivial
  | cons change rest ih =>
      obtain ⟨fresh, restDistinct⟩ := List.nodup_cons.mp distinct
      -- The keys of the other changes are not this one, so they are as they were.
      have restFits : ∀ other ∈ rest, Fits set (hostKeys down (change.event? set).toList) other := by
        intro other member releasable
        have different : other.key ≠ change.key := fun same => fresh (same ▸ List.mem_map_of_mem member)
        exact (host_keys_other set change down other.key different).trans
          (fits other (List.mem_cons_of_mem _ member) releasable)
      rw [events_of_cons, all_expected_append]
      refine ⟨?_, ih _ restDistinct restFits⟩
      cases sent : change.event? set with
      | none => trivial
      | some event => exact ⟨expected_of_fits set down change event (fits change List.mem_cons_self) sent, trivial⟩

theorem holds_key_iff (held : Held) (key : Key) :
    held.holdsKey key ↔ held.page = key.page ∧ key.usage ∈ held.keys := by
  simp [Held.holdsKey, Held.holds, Held.isDown]

theorem mem_released (before after : Held) (change : Change) :
    change ∈ before.released after ↔
      change.transition = .release ∧ before.holdsKey change.key ∧ ¬ after.holdsKey change.key := by
  obtain ⟨page, usage, transition⟩ := change
  rw [holds_key_iff]
  simp only [Held.released, List.mem_map, List.mem_filter, Held.holdsKey, Change.key, Change.mk.injEq]
  constructor
  · rintro ⟨_, ⟨member, lifted⟩, rfl, rfl, rfl⟩
    exact ⟨rfl, ⟨rfl, member⟩, by simpa using lifted⟩
  · rintro ⟨rfl, ⟨rfl, member⟩, lifted⟩
    exact ⟨usage, ⟨member, by simpa using lifted⟩, rfl, rfl, rfl⟩

theorem mem_pressed (before after : Held) (change : Change) :
    change ∈ before.pressed after ↔
      change.transition = .press ∧ after.holdsKey change.key ∧ ¬ before.holdsKey change.key := by
  obtain ⟨page, usage, transition⟩ := change
  rw [holds_key_iff]
  simp only [Held.pressed, List.mem_map, List.mem_filter, Held.holdsKey, Change.key, Change.mk.injEq]
  constructor
  · rintro ⟨_, ⟨member, fresh⟩, rfl, rfl, rfl⟩
    exact ⟨rfl, ⟨rfl, member⟩, by simpa using fresh⟩
  · rintro ⟨rfl, ⟨rfl, member⟩, fresh⟩
    exact ⟨usage, ⟨member, by simpa using fresh⟩, rfl, rfl, rfl⟩

theorem changed_keys_distinct (before after : Held) : ((before.changes after).map Change.key).Nodup := by
  have once (page : UInt16) (transition : Transition) (usages : List UInt16) (distinct : usages.Nodup) :
      ((usages.map (⟨page, ·, transition⟩ : UInt16 → Change)).map Change.key).Nodup := by
    rw [List.map_map]
    refine List.Nodup.map ?_ distinct
    intro left right same
    exact congrArg Key.usage same
  rw [Held.changes, List.map_append]
  refine List.nodup_append.mpr ⟨once _ _ _ (before.distinct.filter _), once _ _ _ (after.distinct.filter _), ?_⟩
  rintro _ released _ pressed rfl
  obtain ⟨lifted, liftedMember, liftedKey⟩ := List.mem_map.mp released
  obtain ⟨fresh, freshMember, freshKey⟩ := List.mem_map.mp pressed
  have held := ((mem_released before after lifted).mp liftedMember).2.1
  have notHeld := ((mem_pressed before after fresh).mp freshMember).2.2
  rw [freshKey, ← liftedKey] at notHeld
  exact notHeld held

theorem changes_fit (set : ScanSet) (before after : Held) (down : Finset Key) (agrees : Agrees set before down)
    (change : Change) (member : change ∈ before.changes after) : Fits set down change := by
  intro releasable
  rw [agrees change.key releasable]
  rcases List.mem_append.mp member with released | pressed
  · obtain ⟨way, held, _⟩ := (mem_released before after change).mp released
    simp [way, held]
  · obtain ⟨way, _, notHeld⟩ := (mem_pressed before after change).mp pressed
    simp [way, notHeld]

theorem holds_of_unchanged (before after : Held) (key : Key)
    (unchanged : key ∉ (before.changes after).map Change.key) : before.holdsKey key ↔ after.holdsKey key := by
  have notReleased : ¬ (before.holdsKey key ∧ ¬ after.holdsKey key) := by
    intro lifted
    refine unchanged (List.mem_map.mpr ⟨⟨key.page, key.usage, .release⟩, List.mem_append_left _ ?_, rfl⟩)
    exact (mem_released before after _).mpr ⟨rfl, lifted⟩
  have notPressed : ¬ (after.holdsKey key ∧ ¬ before.holdsKey key) := by
    intro fresh
    refine unchanged (List.mem_map.mpr ⟨⟨key.page, key.usage, .press⟩, List.mem_append_right _ ?_, rfl⟩)
    exact (mem_pressed before after _).mpr ⟨rfl, fresh⟩
  tauto

theorem changes_agree (set : ScanSet) (before after : Held) (down : Finset Key) (agrees : Agrees set before down) :
    Agrees set after (hostKeys down (eventsOf set (before.changes after))) := by
  intro key releasable
  by_cases changed : key ∈ (before.changes after).map Change.key
  · obtain ⟨change, member, rfl⟩ := List.mem_map.mp changed
    rw [host_keys_changed set _ down change (changed_keys_distinct before after) member releasable]
    rcases List.mem_append.mp member with released | pressed
    · obtain ⟨way, _, lifted⟩ := (mem_released before after change).mp released
      simp [way, lifted]
    · obtain ⟨way, held, _⟩ := (mem_pressed before after change).mp pressed
      simp [way, held]
  · rw [host_keys_unchanged set _ down key changed, agrees key releasable]
    exact holds_of_unchanged before after key changed

theorem changes_release_first (set : ScanSet) (before after : Held) :
    (eventsOf set (before.changes after)).Pairwise fun earlier later =>
      later.transition = .release → earlier.transition = .release := by
  rw [eventsOf, List.pairwise_filterMap, Held.changes, List.pairwise_append]
  refine ⟨?_, ?_, ?_⟩
  · refine List.pairwise_of_forall_mem_list fun earlier member later _ => ?_
    rintro event sent _ _ _
    exact (code_of_event set earlier event sent).2.1.trans ((mem_released before after earlier).mp member).1
  · refine List.pairwise_of_forall_mem_list fun earlier _ later member => ?_
    rintro _ _ event sent released
    rw [(code_of_event set later event sent).2.1, ((mem_pressed before after later).mp member).1] at released
    cases released
  · rintro earlier member _ _ event sent _ _ _
    exact (code_of_event set earlier event sent).2.1.trans ((mem_released before after earlier).mp member).1

namespace Encoder

def answers (encoder : Encoder) : List Held → List Encoded
  | [] => []
  | current :: rest => (encoder.encode current).2 :: (encoder.encode current).1.answers rest

def after (encoder : Encoder) (reports : List Held) : Encoder :=
  reports.foldl (fun encoder current => (encoder.encode current).1) encoder

-- Before the first report nothing is held, on whatever page.
def held (encoder : Encoder) (page : UInt16) : Held := encoder.previous.getD (Held.empty page)

theorem encode_answer (encoder : Encoder) (current : Held) :
    (encoder.encode current).2.events =
      eventsOf encoder.set ((encoder.held current.page).changes current) := rfl

theorem held_page_irrelevant (encoder : Encoder) (left right : UInt16) (key : Key) :
    (encoder.held left).holdsKey key = (encoder.held right).holdsKey key := by
  cases known : encoder.previous with
  | none => simp [held, known, Held.holdsKey, Held.holds, Held.isDown, Held.empty]
  | some previous => simp [held, known]

theorem encode_agrees (encoder : Encoder) (current : Held) (page : UInt16) (down : Finset Key)
    (agrees : Agrees encoder.set (encoder.held page) down) :
    AllExpected encoder.set down (encoder.encode current).2.events ∧
      Agrees encoder.set current (hostKeys down (encoder.encode current).2.events) := by
  have here : Agrees encoder.set (encoder.held current.page) down := by
    intro key releasable
    rw [held_page_irrelevant encoder current.page page]
    exact agrees key releasable
  rw [encode_answer]
  exact ⟨all_expected_of_fits encoder.set _ down (changed_keys_distinct _ current) (changes_fit _ _ current down here),
    changes_agree encoder.set _ current down here⟩

theorem answers_expected (encoder : Encoder) (reports : List Held) (page : UInt16) (down : Finset Key)
    (agrees : Agrees encoder.set (encoder.held page) down) :
    AllExpected encoder.set down ((encoder.answers reports).flatMap (·.events)) := by
  induction reports generalizing encoder down with
  | nil => trivial
  | cons current rest ih =>
      obtain ⟨expected, next⟩ := encode_agrees encoder current page down agrees
      rw [answers, List.flatMap_cons, all_expected_append]
      exact ⟨expected, ih (encoder.encode current).1 _ next⟩

theorem answers_agree (encoder : Encoder) (reports : List Held) (page : UInt16) (down : Finset Key)
    (agrees : Agrees encoder.set (encoder.held page) down) :
    Agrees encoder.set ((encoder.after reports).held page)
      (hostKeys down ((encoder.answers reports).flatMap (·.events))) := by
  induction reports generalizing encoder down with
  | nil => exact agrees
  | cons current rest ih =>
      rw [answers, List.flatMap_cons, host_keys_append]
      exact ih (encoder.encode current).1 _ (encode_agrees encoder current page down agrees).2

theorem answers_take (encoder : Encoder) (reports : List Held) (calls : Nat) :
    (encoder.answers reports).take calls = encoder.answers (reports.take calls) := by
  induction reports generalizing encoder calls with
  | nil => simp [answers]
  | cons current rest ih =>
      cases calls with
      | zero => rfl
      | succ calls => simp only [answers, List.take_succ_cons, ih]

theorem after_set (encoder : Encoder) (reports : List Held) : (encoder.after reports).set = encoder.set := by
  induction reports generalizing encoder with
  | nil => rfl
  | cons current rest ih => exact ih (encoder.encode current).1

theorem after_previous (encoder : Encoder) (reports : List Held) :
    (encoder.after reports).previous = reports.getLast?.or encoder.previous := by
  induction reports generalizing encoder with
  | nil => rfl
  | cons current rest ih =>
      refine (ih (encoder.encode current).1).trans ?_
      cases last : rest.getLast? with
      | none => rw [List.getLast?_eq_none_iff.mp last]; rfl
      | some held => simp [List.getLast?_cons, last]

theorem answers_release_first (encoder : Encoder) (reports : List Held) (answer : Encoded)
    (member : answer ∈ encoder.answers reports) :
    answer.events.Pairwise fun earlier later => later.transition = .release → earlier.transition = .release := by
  induction reports generalizing encoder with
  | nil => cases member
  | cons current rest ih =>
      rcases List.mem_cons.mp member with rfl | later
      · exact changes_release_first encoder.set (encoder.held current.page) current
      · exact ih (encoder.encode current).1 later

theorem start_agrees (set : ScanSet) (page : UInt16) : Agrees set ((start set).held page) ∅ := by
  intro key _
  simp [held, start, Held.holdsKey, Held.holds, Held.isDown, Held.empty]

end Encoder

theorem host_keys_follow_reports (set : ScanSet) (reports : List Held) :
    let answers := (Encoder.start set).answers reports
    AllExpected set ∅ (answers.flatMap (·.events)) ∧
    (∀ calls key, Releasable set key →
      (key ∈ hostKeys ∅ ((answers.take calls).flatMap (·.events)) ↔
        ∃ last, (reports.take calls).getLast? = some last ∧ last.holds key.page key.usage)) ∧
    ∀ answer ∈ answers,
      answer.events.Pairwise fun earlier later => later.transition = .release → earlier.transition = .release := by
  intro answers
  have started := Encoder.start_agrees set 0
  refine ⟨Encoder.answers_expected (.start set) reports 0 ∅ started, ?_, Encoder.answers_release_first _ reports⟩
  intro calls key releasable
  rw [Encoder.answers_take, Encoder.answers_agree _ (reports.take calls) 0 ∅ started key releasable,
    Encoder.held, Encoder.after_previous]
  cases (reports.take calls).getLast? with
  | none => simp [Encoder.start, Held.holdsKey, Held.holds, Held.isDown, Held.empty]
  | some last => simp [Held.holdsKey]

end HidRelay.Keyboard
