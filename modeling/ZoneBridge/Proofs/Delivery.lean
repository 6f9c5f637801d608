import ZoneBridge.Proofs.Trackers

/-!
# Handing a pushed message to one entity

An entity takes in a pushed message only when four checks pass, in this order: it is attached
(it holds the link and has subscribed), the payload reads as an event of the message's type,
the event is about the entity's own zone or source, and the entity's tracker can use the event.
Then the tracked state becomes what the tracker made of the event, the entity becomes available
and live, and the bridge signals one refresh with the entity's identity. A message that fails a
check leaves the entity as it was and signals nothing: for the last check this rests on every
tracker refusing atomically (`Tracker.Atomic`). A tracker whose arithmetic overflows stops the
program instead; the bridge records the panic and nothing else.

Main statement: `Bridge.handleAt_applies_only_checked_events`.
-/

namespace ZoneBridge

namespace Binding

/-- An entity is attached while it holds the link and has subscribed. -/
def Attached (b : Binding) : Prop := b.linked = true ∧ b.lifecycle ≠ .uninitialized

variable {τ : Type} [Tracker τ] (b : Binding) (t : τ) (n : Notification)

theorem handle_applied_iff :
    (b.handle t n).1 = .applied ↔ b.Attached ∧
      ∃ e t', n.event = .ok e ∧ e.origin = b.id.target ∧ (Tracker.apply e).run t = .ok () t' := by
  unfold handle Attached
  constructor
  · intro h
    split at h
    · cases h
    · rename_i hb
      split at h
      · cases h
      · rename_i e he
        split at h
        · cases h
        · rename_i ho
          split at h
          · rename_i t' hrun
            exact ⟨by simpa using hb, e, t', he, by simpa using ho, hrun⟩
          all_goals cases h
  · rintro ⟨⟨hl, hc⟩, e, t', he, ho, hrun⟩
    simp [hl, hc, he, ho, hrun]

theorem handle_panicked_iff (o : Overflow) :
    (b.handle t n).1 = .panicked o ↔ b.Attached ∧
      ∃ e t', n.event = .ok e ∧ e.origin = b.id.target ∧ (Tracker.apply e).run t = .error (.panic o) t' := by
  unfold handle Attached
  constructor
  · intro h
    split at h
    · cases h
    · rename_i hb
      split at h
      · cases h
      · rename_i e he
        split at h
        · cases h
        · rename_i ho
          split at h
          · cases h
          · rename_i o' t' hrun
            cases h
            exact ⟨by simpa using hb, e, t', he, by simpa using ho, hrun⟩
          · cases h
  · rintro ⟨⟨hl, hc⟩, e, t', he, ho, hrun⟩
    simp [hl, hc, he, ho, hrun]

/-- Handing a message over leaves the binding as it was, or makes an attached binding available
and live. -/
theorem handle_binding_cases :
    (b.handle t n).2.1 = b ∨
      (b.Attached ∧ (b.handle t n).2.1 = { b with available := true, lifecycle := .live }) := by
  by_cases ha : (b.handle t n).1 = .applied
  · obtain ⟨hb, e, t', he, ho, hrun⟩ := (handle_applied_iff b t n).1 ha
    exact .inr ⟨hb, by simp [handle, hb.1, hb.2, he, ho, hrun]⟩
  · left
    unfold handle at ha ⊢
    repeat' split
    all_goals first | rfl | simp_all

/-- Handing a message over never changes which entity a binding is for. -/
@[simp] theorem handle_id : (b.handle t n).2.1.id = b.id := by
  rcases handle_binding_cases b t n with h | ⟨-, h⟩ <;> rw [h]

variable [Tracker.Atomic τ]

/-- What handing a message to an entity does, in two cases, for a tracker that refuses atomically:
the message is taken in, or the binding and the tracked state stay as they were. -/
theorem handle_cases :
    (b.Attached ∧ ∃ e t', n.event = .ok e ∧ e.origin = b.id.target ∧
      (Tracker.apply e).run t = .ok () t' ∧
      b.handle t n = (.applied, { b with available := true, lifecycle := .live }, t')) ∨
    ((b.handle t n).1 ≠ .applied ∧ (b.handle t n).2 = (b, t)) := by
  by_cases ha : (b.handle t n).1 = .applied
  · obtain ⟨hb, e, t', he, ho, hrun⟩ := (handle_applied_iff b t n).1 ha
    refine .inl ⟨hb, e, t', he, ho, hrun, ?_⟩
    simp [handle, hb.1, hb.2, he, ho, hrun]
  · refine .inr ⟨ha, ?_⟩
    unfold handle at ha ⊢
    split
    · rfl
    · split
      · rfl
      · split
        · rfl
        · split
          · simp_all
          · rfl
          · -- the tracker refused the event without a panic, and so kept its state
            rename_i err t' hpanic hrun
            rw [Tracker.Atomic.refuse_eq _ t t' err hrun hpanic]

end Binding

/-- A mapped computation succeeds exactly when the computation does. -/
theorem map_eq_ok_iff {ε α β : Type} {f : α → β} {r : Except ε α} {b : β} :
    f <$> r = .ok b ↔ ∃ a, r = .ok a ∧ f a = b := by
  cases r <;> simp [Functor.map, Except.map]

theorem map_eq_error_iff {ε α β : Type} {f : α → β} {r : Except ε α} {e : ε} :
    f <$> r = .error e ↔ r = .error e := by
  cases r <;> simp [Functor.map, Except.map]

namespace Entity

/-- The entity after its tracker takes in an event: the state the tracker's update ends in, or
why it failed. -/
def apply (e : Entity) (ev : DeviceEvent) : Outcome Entity :=
  match e with
  | .player x => (fun t => .player { x with tracked := t }) <$> (Tracker.apply ev).outcome x.tracked
  | .loudness x => (fun t => .loudness { x with tracked := t }) <$> (Tracker.apply ev).outcome x.tracked
  | .dial x => (fun t => .dial { x with tracked := t }) <$> (Tracker.apply ev).outcome x.tracked

/-- A zone player's entity takes in an event as the player's `take` does. -/
theorem apply_player (x : Bound Player) (ev : DeviceEvent) :
    (Entity.player x).apply ev = (fun p => .player { x with tracked := p }) <$> x.tracked.take ev :=
  congrArg (fun r => (fun p => Entity.player { x with tracked := p }) <$> r)
    (Player.outcome_apply x.tracked ev)

/-- The two cases of `Binding.handle_cases`, for an entity of any of the three kinds. -/
theorem handle_cases (e : Entity) (n : Notification) :
    (e.binding.Attached ∧ ∃ ev e', n.event = .ok ev ∧ ev.origin = e.id.target ∧
      e.apply ev = .ok e' ∧
      e.handle n = (.applied, e'.setBinding { e.binding with available := true, lifecycle := .live })) ∨
    ((e.handle n).1 ≠ .applied ∧ (e.handle n).2 = e) := by
  -- the three kinds differ only in the constructor that wraps the bound entity
  cases e with
  | player x | loudness x | dial x =>
    rcases x.binding.handle_cases x.tracked n with ⟨hb, ev, t', he, ho, ht, hh⟩ | ⟨hne, hh⟩
    · exact .inl ⟨hb, ev, _, he, ho,
        by simp [apply, Update.outcome_eq_ok_iff.2 ht, Functor.map, Except.map]; rfl,
        by simp [handle, hh]; rfl⟩
    · exact .inr ⟨by simpa [handle] using hne, by simp [handle, hh]⟩

theorem handle_applied_iff (e : Entity) (n : Notification) :
    (e.handle n).1 = .applied ↔ e.binding.Attached ∧
      ∃ ev e', n.event = .ok ev ∧ ev.origin = e.id.target ∧ e.apply ev = .ok e' := by
  cases e with
  | player x | loudness x | dial x =>
    simp only [handle, apply, id, binding, map_eq_ok_iff, Binding.handle_applied_iff,
      Update.outcome_eq_ok_iff]
    -- the entity the tracker's state makes is determined by that state
    constructor
    · rintro ⟨hb, ev, t', he, ho, hrun⟩
      exact ⟨hb, ev, _, he, ho, t', hrun, rfl⟩
    · rintro ⟨hb, ev, _, he, ho, t', hrun, -⟩
      exact ⟨hb, ev, t', he, ho, hrun⟩

theorem handle_panicked_iff (e : Entity) (n : Notification) (o : Overflow) :
    (e.handle n).1 = .panicked o ↔ e.binding.Attached ∧
      ∃ ev, n.event = .ok ev ∧ ev.origin = e.id.target ∧ e.apply ev = .error (.panic o) := by
  cases e with
  | player x | loudness x | dial x =>
    simp [handle, apply, id, binding, map_eq_error_iff, Binding.handle_panicked_iff,
      Update.outcome_eq_error_iff]

/-- A panic leaves the entity as it was. -/
theorem handle_of_panicked {e : Entity} {n : Notification} {o : Overflow}
    (h : (e.handle n).1 = .panicked o) : (e.handle n).2 = e := by
  rcases e.handle_cases n with ⟨-, _, _, -, -, -, hh⟩ | ⟨-, hh⟩
  · rw [hh] at h
    cases h
  · exact hh

@[simp] theorem binding_setBinding (e : Entity) (b : Binding) : (e.setBinding b).binding = b := by
  cases e <;> rfl

end Entity

namespace Bridge

theorem setEntity_self {b : Bridge} {i : Nat} {e : Entity} (he : b.entity? i = some e) :
    b.setEntity i e = b := by
  obtain ⟨hi, rfl⟩ := Array.getElem?_eq_some_iff.1 he
  simp [setEntity, Array.setIfInBounds_def, hi]

/-- An entity of the bridge takes a pushed message in exactly when it is attached and the
message is an event about its own zone or source that its tracker takes in. Then the entity
keeps the state its tracker's update ended in, becomes available and live, and the bridge
signals one refresh with the entity's identity. When the entity is not attached, the payload
does not read, the event is about another zone or source, or the tracker refuses it, the
bridge is left exactly as it was: each tracker refuses atomically. A tracker that overflows
panics, and the bridge records the panic and nothing else. -/
theorem handleAt_applies_only_checked_events (b : Bridge) (i : Nat) (e : Entity)
    (n : Notification) (he : b.entity? i = some e) :
    ((e.handle n).1 = .applied ↔ e.binding.Attached ∧
      ∃ ev e', n.event = .ok ev ∧ ev.origin = e.id.target ∧ e.apply ev = .ok e') ∧
    (∀ ev e', n.event = .ok ev → e.apply ev = .ok e' → (e.handle n).1 = .applied →
      b.handleAt n i =
        { b.setEntity i (e'.setBinding { e.binding with available := true, lifecycle := .live })
          with refresh := b.refresh.send e.id }) ∧
    ((e.handle n).1 ∈ [.inactive, .malformed, .foreign] → (e.handle n).2 = e ∧ b.handleAt n i = b) ∧
    (∀ o, ((e.handle n).1 = .panicked o ↔ e.binding.Attached ∧
      ∃ ev, n.event = .ok ev ∧ ev.origin = e.id.target ∧ e.apply ev = .error (.panic o)) ∧
      ((e.handle n).1 = .panicked o → b.handleAt n i = { b with panicked := b.panicked.or (some o) })) ∧
    (Tracker.Atomic Player ∧ Tracker.Atomic LoudnessReading ∧ Tracker.Atomic DialReading) := by
  refine ⟨e.handle_applied_iff n, ?_, ?_, fun o => ⟨e.handle_panicked_iff n o, fun hp => ?_⟩,
    ⟨inferInstance, inferInstance, inferInstance⟩⟩
  · intro ev e' hev ha happ
    rcases e.handle_cases n with ⟨-, ev₀, e₀, hev₀, -, ha₀, hh⟩ | ⟨hne, -⟩
    · -- the event and the tracker's result are the ones the entity found
      obtain rfl : ev₀ = ev := Except.ok.inj (hev₀.symm.trans hev)
      obtain rfl : e₀ = e' := Except.ok.inj (ha₀.symm.trans ha)
      simp [handleAt, he, hh, setEntity, Entity.id]
    · exact absurd happ hne
  · intro hd
    have hne : (e.handle n).1 ≠ .applied := by
      intro h
      simp [h] at hd
    rcases e.handle_cases n with ⟨-, _, _, -, -, -, hh⟩ | ⟨-, hh⟩
    · exact absurd (by rw [hh]) hne
    · refine ⟨hh, ?_⟩
      -- none of the three outcomes signals or records anything
      simp only [List.mem_cons, List.not_mem_nil, or_false] at hd
      rcases hd with hd | hd | hd <;> simp [handleAt, he, hd, hh, setEntity_self he]
  · simp [handleAt, he, hp, Entity.handle_of_panicked hp, setEntity_self he]

/-- The zone player of a one-zone bridge, handed a status of its zone. -/
theorem handleAt_applies_only_checked_events_player :
    let e := Entity.ofPlayer "entry" .grandConcerto 1 "Kitchen" ⟨[]⟩ 1
    let b : Bridge := { model := .grandConcerto, refresh := .withCapacity 4, entities := #[e] }
    let n := Notification.ofEvent (.zoneStatus { zone := 1, power := true })
    b.entity? 0 = some e ∧
    (((e.handle n).1 = .applied ↔ e.binding.Attached ∧
      ∃ ev e', n.event = .ok ev ∧ ev.origin = e.id.target ∧ e.apply ev = .ok e') ∧
    (∀ ev e', n.event = .ok ev → e.apply ev = .ok e' → (e.handle n).1 = .applied →
      b.handleAt n 0 =
        { b.setEntity 0 (e'.setBinding { e.binding with available := true, lifecycle := .live })
          with refresh := b.refresh.send e.id }) ∧
    ((e.handle n).1 ∈ [.inactive, .malformed, .foreign] → (e.handle n).2 = e ∧ b.handleAt n 0 = b) ∧
    (∀ o, ((e.handle n).1 = .panicked o ↔ e.binding.Attached ∧
      ∃ ev, n.event = .ok ev ∧ ev.origin = e.id.target ∧ e.apply ev = .error (.panic o)) ∧
      ((e.handle n).1 = .panicked o → b.handleAt n 0 = { b with panicked := b.panicked.or (some o) })) ∧
    (Tracker.Atomic Player ∧ Tracker.Atomic LoudnessReading ∧ Tracker.Atomic DialReading)) := by
  intro e b n
  have he : b.entity? 0 = some e := rfl
  exact ⟨he, handleAt_applies_only_checked_events b 0 e n he⟩

end Bridge

end ZoneBridge
