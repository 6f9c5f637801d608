import Mathlib
import ZoneBridge.Bridge

/-!
# What each tracker does with an event

A tracker takes in an event by changing its state in place (`Update`), and the bridge keeps the
state an update failed in. Each of the three trackers computes what can fail before it writes,
so an event it refuses leaves its state as it was (`Tracker.Atomic`): the loudness switch
refuses every event but an eq status before touching anything; a dial reads its value, which
may fail, and only then writes it; the zone player converts the volume of a status, and the two
tone levels of an eq status, before it writes them. The one write made ahead of a failure is the
tone of an eq status, before its balance is read: the balance reading fails only by overflowing
the absolute value of its magnitude, a panic that stops the program.

What the zone player makes of an event is a function of the player (`Player.take`), and its
update ends in that player or fails as the function does (`Player.outcome_apply`).
-/

namespace ZoneBridge

namespace Update

variable {τ α β : Type}

/-- The state an update ends in, or why it failed. -/
def outcome (x : Update τ Unit) (t : τ) : Outcome τ :=
  match x.run t with
  | .ok () t' => .ok t'
  | .error e _ => .error e

theorem outcome_eq_ok_iff {x : Update τ Unit} {t t' : τ} :
    x.outcome t = .ok t' ↔ x.run t = .ok () t' := by
  unfold outcome
  split <;> simp_all

theorem outcome_eq_error_iff {x : Update τ Unit} {t : τ} {e : BridgeError} :
    x.outcome t = .error e ↔ ∃ t', x.run t = .error e t' := by
  unfold outcome
  split <;> simp_all

/-! The run of an update, step by step: a simp set that executes an update symbolically. -/

@[simp] theorem run_bind (x : Update τ α) (f : α → Update τ β) (t : τ) :
    (x >>= f).run t = match x.run t with
      | .ok a t' => (f a).run t'
      | .error e t' => .error e t' := by
  cases h : x.run t <;> simp only [EStateM.run] at h <;> simp [EStateM.run, bind, EStateM.bind, h]

@[simp] theorem run_map (f : α → β) (x : Update τ α) (t : τ) :
    (f <$> x).run t = match x.run t with
      | .ok a t' => .ok (f a) t'
      | .error e t' => .error e t' := by
  cases h : x.run t <;> simp only [EStateM.run] at h <;> simp [EStateM.run, Functor.map, EStateM.map, h]

@[simp] theorem run_pure (a : α) (t : τ) : (pure a : Update τ α).run t = .ok a t := rfl

@[simp] theorem run_get (t : τ) : (get : Update τ τ).run t = .ok t t := rfl

@[simp] theorem run_modify (g : τ → τ) (t : τ) : (modify g : Update τ Unit).run t = .ok () (g t) :=
  rfl

@[simp] theorem run_throw (e : BridgeError) (t : τ) : (throw e : Update τ α).run t = .error e t :=
  rfl

@[simp] theorem run_ofOutcome_ok (a : α) (t : τ) :
    (Update.ofOutcome (.ok a) : Update τ α).run t = .ok a t := rfl

@[simp] theorem run_ofOutcome_error (e : BridgeError) (t : τ) :
    (Update.ofOutcome (.error e) : Update τ α).run t = .error e t := rfl

end Update

/-- A tracker that refuses an event atomically: an update that fails, unless by a panic, leaves
the state as it was. -/
class Tracker.Atomic (τ : Type) [Tracker τ] : Prop where
  refuse_eq : ∀ (e : DeviceEvent) (t t' : τ) (err : BridgeError),
    (Tracker.apply e).run t = .error err t' → (∀ o, err ≠ .panic o) → t' = t

@[simp] theorem Outcome.ofRange_ok {α : Type} (a : α) : Outcome.ofRange (.ok a) = .ok a := rfl

@[simp] theorem Outcome.ofRange_error {α : Type} (f : RangeFault) :
    (Outcome.ofRange (.error f) : Outcome α) = .error (.invalidRange f) := rfl

namespace Native

/-- The absolute value is exact, and fails only below `-(2 ^ 31 - 1)`, where negating
overflows. -/
theorem abs_eq_ok_iff {a b : Int} : abs a = .ok b ↔ -2147483647 ≤ a ∧ b = |a| := by
  by_cases ha : a < 0
  · simp only [abs, ha, if_true, neg, checked_eq_ok_iff, Fits32, abs_of_neg ha]
    omega
  · simp only [abs, ha, if_false, Except.ok.injEq, abs_of_nonneg (not_lt.1 ha)]
    omega

/-- The absolute value overflows only at the most negative value. -/
theorem abs_eq_error {a : Int} {err : BridgeError} (h : abs a = .error err) :
    err = .panic .neg := by
  unfold abs neg checked at h
  split_ifs at h
  cases h
  rfl

end Native

namespace Convert

variable {α : Type} [HostNumber α]

/-- The balance reading fails only by overflowing the absolute value of its magnitude. -/
theorem toHostBalance_eq_error {p : BalancePosition} {m : Int} {err : BridgeError}
    (h : (toHostBalance p m : Outcome α) = .error err) : err = .panic .neg := by
  cases p with
  | center => cases h
  | left | right =>
    simp only [toHostBalance, bind, Except.bind] at h
    split at h
    · rename_i e ha
      cases h
      exact Native.abs_eq_error ha
    · cases h

end Convert

/-! ### The loudness switch and the dials -/

namespace LoudnessReading

@[simp] theorem run_apply_eqStatus (q : ZoneEqStatus) (r : LoudnessReading) :
    (Tracker.apply (.zoneEqStatus q)).run r = .ok () { r with enabled := some q.loudcmp } := rfl

theorem run_apply_of_ne {e : DeviceEvent} (he : e.messageType ≠ .zoneEqStatus) (r : LoudnessReading) :
    (Tracker.apply e).run r = .error (.malformed (.unreadable "loudcmp" e.messageType)) r := by
  cases e with
  | zoneEqStatus q => exact absurd rfl he
  | _ => rfl

instance : Tracker.Atomic LoudnessReading := by
  refine ⟨fun e t t' err h _ => ?_⟩
  by_cases he : e.messageType = .zoneEqStatus
  · -- the one event it takes in never fails
    cases e <;> simp [DeviceEvent.messageType] at he
    simp at h
  · rw [run_apply_of_ne he] at h
    cases h
    rfl

end LoudnessReading

namespace DialReading

/-- A dial reads its value from the event and then writes it. -/
theorem run_apply (e : DeviceEvent) (r : DialReading) :
    (Tracker.apply e).run r = match (r.dial.read e r.scale : Outcome Float) with
      | .ok v => .ok () { r with value := some v }
      | .error err => .error err r := by
  cases hr : (r.dial.read e r.scale : Outcome Float) <;> simp [Tracker.apply, hr]

instance : Tracker.Atomic DialReading := by
  refine ⟨fun e t t' err h _ => ?_⟩
  rw [run_apply] at h
  split at h
  · cases h
  · cases h
    rfl

end DialReading

/-! ### The zone player -/

namespace Player

/-- The level a status of a powered zone gives: that of an audible volume, converted. -/
def statusVolume (p : Player) (s : ZoneStatus) : Outcome (Option Float) :=
  match s.volume, s.mute with
  | some n, false => some <$> Outcome.ofRange (Convert.toHostVolume n p.model.volume)
  | _, _ => .ok none

/-- The player a zone status makes: power off only marks the zone off; power on sets mute and
source, and the level of an audible volume, which is converted before anything is written. -/
def takeStatus (p : Player) (s : ZoneStatus) : Outcome Player :=
  if s.power then
    (fun volume => { p with state := { p.state with
      power := some true, mute := some s.mute, volume := volume.or p.state.volume,
      source := s.source.bind p.sources.name } }) <$> p.statusVolume s
  else .ok { p with state := { p.state with power := some false } }

/-- What taking in an event makes of a player, as a value. -/
def take (p : Player) : DeviceEvent → Outcome Player
  | .zoneStatus s => p.takeStatus s
  | .zoneConfiguration c =>
    .ok { p with state := { p.state with
      sourceList := (sourceIds c.sources).filterMap p.sources.name } }
  | .zoneEqStatus q => do
    let bass ← Convert.toHostEq q.bass p.model.bass
    let treble ← Convert.toHostEq q.treble p.model.treble
    let balance ← Convert.toHostBalance q.balancePosition q.balance
    pure { p with state := { p.state with
      bass := some bass, bassNative := some q.bass, treble := some treble,
      trebleNative := some q.treble, balance := some balance, loudness := some q.loudcmp } }
  | e => .error (.malformed (.unusable "zone" e.messageType))

/-- A zone status is taken in as `takeStatus` says, and refused before anything is written. -/
theorem run_applyStatus (p : Player) (s : ZoneStatus) :
    (applyStatus s).run p = match p.takeStatus s with
      | .ok p' => .ok () p'
      | .error e => .error e p := by
  unfold applyStatus takeStatus statusVolume
  cases hpow : s.power
  · rfl
  · -- the volume is converted only for an audible status that gives one
    cases hv : s.volume with
    | none => simp [modifyState]
    | some n =>
      cases hmute : s.mute
      · cases hc : (Outcome.ofRange (Convert.toHostVolume n p.model.volume) : Outcome Float) <;>
          simp [hc, modifyState]
      · simp [modifyState]

/-- An eq status is taken in as `take` says; its tone is written before the balance is read. -/
theorem run_apply_eqStatus (p : Player) (q : ZoneEqStatus) :
    (apply (.zoneEqStatus q)).run p =
      match (Convert.toHostEq q.bass p.model.bass : Outcome Float),
        (Convert.toHostEq q.treble p.model.treble : Outcome Float) with
      | .ok bass, .ok treble =>
        let p₁ := { p with state := { p.state with
          bass := some bass, bassNative := some q.bass, treble := some treble,
          trebleNative := some q.treble } }
        match (Convert.toHostBalance q.balancePosition q.balance : Outcome Float) with
        | .ok balance => .ok () { p₁ with state := { p₁.state with
            balance := some balance, loudness := some q.loudcmp } }
        | .error e => .error e p₁
      | .error e, _ => .error e p
      | .ok _, .error e => .error e p := by
  cases hb : (Convert.toHostEq q.bass p.model.bass : Outcome Float) <;>
    cases ht : (Convert.toHostEq q.treble p.model.treble : Outcome Float) <;>
    cases hl : (Convert.toHostBalance q.balancePosition q.balance : Outcome Float) <;>
    simp [apply, modifyState, hb, ht, hl]

/-- The update of a player ends in the player that `take` makes, or fails as `take` does. -/
theorem outcome_apply (p : Player) (e : DeviceEvent) : Update.outcome (apply e) p = p.take e := by
  cases e with
  | zoneStatus s =>
    simp only [Update.outcome, apply, run_applyStatus, take]
    cases p.takeStatus s <;> rfl
  | zoneConfiguration c => rfl
  | zoneEqStatus q =>
    rw [Update.outcome, run_apply_eqStatus]
    cases hb : (Convert.toHostEq q.bass p.model.bass : Outcome Float) <;>
      cases ht : (Convert.toHostEq q.treble p.model.treble : Outcome Float) <;>
      cases hl : (Convert.toHostBalance q.balancePosition q.balance : Outcome Float) <;>
      simp [take, hb, ht, hl, bind, Except.bind, pure, Except.pure]
  | zoneVolumeConfiguration _ | sourceConfiguration _ => rfl

/-- A player takes in an event exactly when `take` makes a player of it. -/
theorem run_apply_eq_ok_iff {e : DeviceEvent} {p p' : Player} :
    (Tracker.apply e).run p = .ok () p' ↔ p.take e = .ok p' := by
  show (apply e).run p = _ ↔ _
  rw [← outcome_apply, Update.outcome_eq_ok_iff]

/-- A player refuses an event with the error that `take` gives. -/
theorem run_apply_eq_error_iff {e : DeviceEvent} {p : Player} {err : BridgeError} :
    (∃ p', (Tracker.apply e).run p = .error err p') ↔ p.take e = .error err := by
  show (∃ p', (apply e).run p = _) ↔ _
  rw [← outcome_apply, Update.outcome_eq_error_iff]

instance : Tracker.Atomic Player := by
  refine ⟨fun e p p' err h hne => ?_⟩
  change (apply e).run p = _ at h
  cases e with
  | zoneStatus s =>
    rw [apply, run_applyStatus] at h
    split at h
    · cases h
    · cases h
      rfl
  | zoneConfiguration c => cases h
  | zoneEqStatus q =>
    rw [run_apply_eqStatus] at h
    split at h
    · -- after the tone is written only the balance can fail, and only by a panic
      split at h
      · cases h
      · cases h
        exact absurd (Convert.toHostBalance_eq_error (by assumption)) (hne _)
    · cases h
      rfl
    · cases h
      rfl
  | zoneVolumeConfiguration _ | sourceConfiguration _ =>
    cases h
    rfl

end Player

end ZoneBridge
