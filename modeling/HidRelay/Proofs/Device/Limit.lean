import HidRelay.Proofs.Device.Waiting

set_option autoImplicit false

namespace HidRelay.Device.Roster

def Kept (limit : Nat) (roster : Roster) : Prop := roster.limit = limit ∧ roster.size ≤ limit

theorem start_kept (limit : Nat) : (start limit).Kept limit := ⟨rfl, Nat.zero_le limit⟩

theorem size_update (roster : Roster) (device : Address) (session : Session) :
    (roster.update device session).size = if (roster.session? device).isSome then roster.size else roster.size + 1 :=
  OrderedTable.size_insert device session roster.sessions

theorem insert_answer (limit : Nat) (roster : Roster) (device : Address) (catalog : Report.Catalog)
    (kept : roster.Kept limit) : roster.insert device catalog =
      if roster.session? device = none ∧ roster.size = limit then .error .tooManyDevices
      else .ok (roster.update device (Session.start catalog)) := by
  obtain ⟨same, bounded⟩ := kept
  have full : ((roster.session? device).isNone ∧ roster.limit ≤ roster.size) ↔
      roster.session? device = none ∧ roster.size = limit := by
    rw [Option.isNone_iff_eq_none, same]
    exact and_congr_right fun _ => ⟨Nat.le_antisymm bounded, fun level => level.ge⟩
  rw [insert]
  exact if_congr full rfl rfl

theorem insert_kept (limit : Nat) (roster next : Roster) (device : Address) (catalog : Report.Catalog)
    (kept : roster.Kept limit) (opened : roster.insert device catalog = .ok next) : next.Kept limit := by
  rw [insert_answer limit roster device catalog kept] at opened
  by_cases full : roster.session? device = none ∧ roster.size = limit
  · rw [if_pos full] at opened
    cases opened
  · rw [if_neg full] at opened
    cases opened
    refine ⟨kept.1, ?_⟩
    have bounded := kept.2
    rw [size_update]
    cases known : roster.session? device with
    | none =>
        have room : roster.size ≠ limit := fun level => full ⟨known, level⟩
        rw [Option.isSome_none, if_neg Bool.false_ne_true]
        omega
    | some session => exact bounded

theorem disconnect_kept (limit : Nat) (roster : Roster) (device : Address) (kept : roster.Kept limit) :
    (roster.disconnect device).1.Kept limit :=
  ⟨kept.1, Nat.le_trans (OrderedTable.size_erase device roster.sessions) kept.2⟩

-- Of what a report says, nothing makes a notification fail but buttons that cannot all be numbered.
inductive Unanswered (roster : Roster) (device : Address) (id : UInt8) (report : Bytes) : Failure → Prop where
  | stranger (absent : roster.session? device = none) : Unanswered roster device id report .unknownDevice
  | undeclared (session : Session) (found : roster.session? device = some session)
      (missing : session.catalog.resolveInput id = none) : Unanswered roster device id report (.unknownReport id)
  | uncounted (session : Session) (layout : Report.Layout) (found : roster.session? device = some session)
      (resolved : session.catalog.resolveInput id = some layout) (other : layout.application.isKeyboardLike = false)
      (pointer : layout.application.isPointerLike = true) (overflows : Pointer.decode report layout = .error ⟨⟩) :
      Unanswered roster device id report .numberOverflow

theorem notify_outcome (roster : Roster) (settings : Settings) (device : Address) (id : UInt8) (report : Bytes) (now : Nat) :
    (∃ failure, Unanswered roster device id report failure ∧
      roster.notify settings device id report now = .error failure) ∨
    ∃ session next delivery, roster.session? device = some session ∧
      roster.notify settings device id report now = .ok (roster.update device next, delivery) := by
  cases found : roster.session? device with
  | none => exact .inl ⟨.unknownDevice, .stranger found, by rw [notify, found]⟩
  | some session =>
      rcases Session.notify_cases session settings id report now with
        ⟨missing, failed⟩ | ⟨layout, resolved, ⟨_, done⟩ | ⟨other, pointer, overflows, failed⟩ | ⟨_, _, _, _, done⟩ | ⟨_, _, done⟩⟩
      · exact .inl ⟨.unknownReport id, .undeclared session found missing, by simp only [notify, found, failed]⟩
      · exact .inr ⟨session, _, _, rfl, by simp only [notify, found, done]; rfl⟩
      · exact .inl ⟨.numberOverflow, .uncounted session layout found resolved other pointer overflows,
          by simp only [notify, found, failed]⟩
      all_goals exact .inr ⟨session, _, _, rfl, by simp only [notify, found, done]; rfl⟩

theorem unanswered_fails (roster : Roster) (settings : Settings) (device : Address) (id : UInt8) (report : Bytes)
    (now : Nat) (failure : Failure) (unanswered : Unanswered roster device id report failure) :
    roster.notify settings device id report now = .error failure := by
  cases unanswered with
  | stranger absent => rw [notify, absent]
  | undeclared session found missing => simp only [notify, found, Session.notify, missing]
  | uncounted session layout found resolved other pointer overflows =>
      simp [notify, found, Session.notify, resolved, other, pointer, overflows]

theorem notify_error_iff (roster : Roster) (settings : Settings) (device : Address) (id : UInt8) (report : Bytes)
    (now : Nat) (failure : Failure) :
    roster.notify settings device id report now = .error failure ↔ Unanswered roster device id report failure := by
  refine ⟨fun failed => ?_, unanswered_fails roster settings device id report now failure⟩
  rcases notify_outcome roster settings device id report now with ⟨own, unanswered, known⟩ | ⟨_, _, _, _, done⟩
  · exact Except.error.inj (known.symm.trans failed) ▸ unanswered
  · cases done.symm.trans failed

theorem notify_kept (limit : Nat) (roster next : Roster) (settings : Settings) (device : Address) (id : UInt8)
    (report : Bytes) (now : Nat) (delivery : Delivery) (kept : roster.Kept limit)
    (answered : roster.notify settings device id report now = .ok (next, delivery)) : next.Kept limit := by
  rcases notify_outcome roster settings device id report now with ⟨_, _, failed⟩ | ⟨session, after, _, found, done⟩
  · rw [failed] at answered
    cases answered
  · rw [done] at answered
    cases answered
    refine ⟨kept.1, ?_⟩
    rw [size_update, found, Option.isSome_some, if_pos rfl]
    exact kept.2

theorem flush_kept (limit : Nat) (roster : Roster) (now : Nat) (kept : roster.Kept limit) :
    (roster.flush now).1.Kept limit :=
  ⟨kept.1, Nat.le_trans (Nat.le_of_eq (List.length_map _)) kept.2⟩

end HidRelay.Device.Roster
