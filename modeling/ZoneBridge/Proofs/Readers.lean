import Mathlib
import ZoneBridge.Proofs.Delivery

/-!
# Every entity reads the events it subscribes to

An entity subscribes to the message types its kind reads: the zone player to its zone's status,
configuration and eq status, the loudness switch to the eq status, and each dial to the one type
that carries its value (`Entity.readTypes`). Its tracker then takes in every event of those
types whose values its conversions handle in 32 bits (`Entity.Converts`), as long as the scales
it converts with are usable, which holds of every known model: so the tracker's arm for an event
of another type is never reached through a subscription, and a conversion refuses no reading
(`Entity.apply_of_reads`).

The conversions overflow only on values far outside what the amplifier reports: a tone level
measured from the low end of its scale, and a balance magnitude or a volume preset negated
(`DeviceEvent.InRange`).

Taking in an event changes only what the tracker keeps, never the scales or the dial, so an
entity that reads its events goes on doing so (`Entity.Reads.apply`).
-/

namespace ZoneBridge

namespace ModelSpec

/-- A model whose scales the conversions accept: every scale has a positive step and two
different ends whose distance is a 32-bit value, and the quiet end of the volume scale is not
zero. -/
structure Usable (m : ModelSpec) : Prop where
  scale : ∀ k, (m.scale k).validate = .ok ()
  widths : ∀ k, Fits32 ((m.scale k).max - (m.scale k).min)
  volumeFloor : m.volume.min ≠ 0

theorem usable_of_mem {m : ModelSpec} (h : m ∈ all) : m.Usable := by
  simp only [all, List.mem_cons, List.not_mem_nil, or_false] at h
  -- both models: every scale has a positive step and two ends at most 80 apart, and the volume
  -- floor is 79
  rcases h with rfl | rfl <;>
    exact ⟨fun k => by cases k <;> rfl, fun k => by cases k <;> decide, by decide⟩

theorem usable_of_lookup {name : String} {m : ModelSpec} (h : lookup name = some m) : m.Usable :=
  usable_of_mem (List.mem_of_find?_eq_some h)

end ModelSpec

namespace Convert

variable {α : Type} [HostNumber α] {s : Scale}

open HostNumber

theorem toHostSigned_of_validate (h : s.validate = .ok ()) (n : Int) :
    (toHostSigned n s : Except RangeFault α) = .ok (ofInt n) := by
  simp [toHostSigned, h, bind, Except.bind, pure, Except.pure]

/-- A tone level: the value's distance from `min` over the width, both computed in 32 bits. -/
theorem toHostEq_of_fits (h : s.validate = .ok ()) (hw : Fits32 (s.max - s.min)) {n : Int}
    (hn : Fits32 (n - s.min)) :
    (toHostEq n s : Outcome α) = .ok (ofInt (n - s.min) / ofInt (s.max - s.min)) := by
  simp [toHostEq, h, Native.sub, Native.checked_of_fits hn, Native.checked_of_fits hw, bind,
    Except.bind, pure, Except.pure]

/-- A tone value whose distance from `min` leaves 32 bits overflows the subtraction. -/
theorem toHostEq_of_not_fits (h : s.validate = .ok ()) {n : Int} (hn : ¬ Fits32 (n - s.min)) :
    (toHostEq n s : Outcome α) = .error (.panic .sub) := by
  simp [toHostEq, h, Native.sub, Native.checked_of_not_fits hn, bind, Except.bind]

theorem toHostAttenuation_of_fits (h : s.validate = .ok ()) {n : Int} (hn : Fits32 (-n)) :
    (toHostAttenuation n s : Outcome α) = .ok (ofInt (-n)) := by
  simp [toHostAttenuation, h, Native.neg, Native.checked_of_fits hn, bind, Except.bind, pure,
    Except.pure]

theorem toHostVolume_of_validate (h : s.validate = .ok ()) (hmin : s.min ≠ 0) (n : Int) :
    (toHostVolume n s : Except RangeFault α) = .ok (ofInt 1 - ofInt n / ofInt s.min) := by
  simp [toHostVolume, volumeFloor, h, hmin, bind, Except.bind, pure, Except.pure]

/-- A balance is read at the centre, and off it unless the magnitude's absolute value overflows. -/
theorem toHostBalance_eq_ok_iff {p : BalancePosition} {m : Int} :
    (∃ v, (toHostBalance p m : Outcome α) = .ok v) ↔ p = .center ∨ -2147483647 ≤ m := by
  cases p with
  | center => simp [toHostBalance, pure, Except.pure]
  | left | right =>
    cases ha : Native.abs m with
    | ok a => simp [toHostBalance, ha, bind, Except.bind, pure, Except.pure, (Native.abs_eq_ok_iff.1 ha).1]
    | error e =>
      have hm : ¬ -2147483647 ≤ m := fun hm => by simp [Native.abs_eq_ok_iff.2 ⟨hm, rfl⟩] at ha
      simp [toHostBalance, ha, bind, Except.bind, hm]

end Convert

/-- A bind that succeeds ran its first computation to a success. -/
theorem bind_eq_ok {ε α β : Type} {x : Except ε α} {f : α → Except ε β} {b : β}
    (h : x >>= f = .ok b) : ∃ a, x = .ok a ∧ f a = .ok b := by
  cases x with
  | error e => cases h
  | ok a => exact ⟨a, rfl, h⟩

theorem map_eq_ok {ε α β : Type} {f : α → β} {x : Except ε α} {b : β}
    (h : f <$> x = .ok b) : ∃ a, x = .ok a ∧ f a = b :=
  map_eq_ok_iff.mp h

/-- A mapped error changes no success. -/
@[simp] theorem mapError_eq_ok {ε ε' α : Type} {f : ε → ε'} {x : Except ε α} {a : α} :
    x.mapError f = .ok a ↔ x = .ok a := by
  cases x <;> simp [Except.mapError]

theorem exists_eq_of_mapError_map {ε ε' α β : Type} {f : ε → ε'} {g : α → β}
    {x : Except ε α} {b : β} (h : (g <$> x).mapError f = .ok b) : ∃ a, g a = b := by
  cases x with
  | error _ => cases h
  | ok a =>
    refine ⟨a, ?_⟩
    simpa [Functor.map, Except.map, Except.mapError] using h

theorem DeviceEvent.messageType_of_parse {m : MessageType} {payload : Json} {e : DeviceEvent}
    (h : DeviceEvent.parse m payload = .ok e) : e.messageType = m := by
  unfold DeviceEvent.parse at h
  split at h
  · cases h
  · -- each type reads its own record and wraps it in its own constructor
    cases m <;>
    · dsimp only at h
      obtain ⟨r, rfl⟩ := exists_eq_of_mapError_map h
      rfl

/-- The event of a message is of the message's type. -/
theorem Notification.messageType_of_event {n : Notification} {e : DeviceEvent}
    (h : n.event = .ok e) : e.messageType = n.messageType :=
  DeviceEvent.messageType_of_parse h

/-! ### Events the conversions handle in 32 bits -/

namespace DeviceEvent

/-- The values of an event that the conversions negate stay within 32 bits when negated: a
balance magnitude off the centre, whose absolute value is taken, and the four volume presets. -/
def Negates : DeviceEvent → Prop
  | .zoneEqStatus q => q.balancePosition = .center ∨ -2147483647 ≤ q.balance
  | .zoneVolumeConfiguration v =>
    Fits32 (-v.maxVol) ∧ Fits32 (-v.iniVol) ∧ Fits32 (-v.pageVol) ∧ Fits32 (-v.partyVol)
  | _ => True

/-- The tone values of an eq status, measured from the `min` of a model's tone scales, stay
within 32 bits. -/
def TonesFit (m : ModelSpec) : DeviceEvent → Prop
  | .zoneEqStatus q => Fits32 (q.bass - m.bass.min) ∧ Fits32 (q.treble - m.treble.min)
  | _ => True

/-- An event whose values the conversions of a model handle in 32-bit arithmetic. -/
structure InRange (m : ModelSpec) (e : DeviceEvent) : Prop where
  negates : e.Negates
  tones : e.TonesFit m

end DeviceEvent

namespace Player

variable {p p' : Player}

theorem takeStatus_of_usable (hm : p.model.Usable) (s : ZoneStatus) :
    ∃ p', p.takeStatus s = .ok p' := by
  have hvol : p.model.volume.validate = .ok () := hm.scale .volume
  unfold takeStatus statusVolume
  cases hp : s.power
  · exact ⟨_, rfl⟩
  · -- only an audible volume is converted, and the volume scale converts every value
    cases hv : s.volume <;> cases hmute : s.mute <;>
      simp [Convert.toHostVolume_of_validate hvol hm.volumeFloor, Outcome.ofRange,
        Except.mapError, Functor.map, Except.map]

/-- A player of a usable model takes in every status, configuration and eq status whose values
its conversions handle. -/
theorem take_of_usable (hm : p.model.Usable) {e : DeviceEvent} (hr : e.InRange p.model)
    (he : e.messageType ∈ [.zoneStatus, .zoneConfiguration, .zoneEqStatus]) :
    ∃ p', p.take e = .ok p' := by
  cases e with
  | zoneStatus s => exact takeStatus_of_usable hm s
  | zoneConfiguration c => exact ⟨_, rfl⟩
  | zoneEqStatus q =>
    obtain ⟨hbal, hb, ht⟩ : (q.balancePosition = .center ∨ -2147483647 ≤ q.balance) ∧
        Fits32 (q.bass - p.model.bass.min) ∧ Fits32 (q.treble - p.model.treble.min) :=
      ⟨hr.negates, hr.tones⟩
    have hbs : p.model.bass.validate = .ok () := hm.scale .bass
    have hbw : Fits32 (p.model.bass.max - p.model.bass.min) := hm.widths .bass
    have hts : p.model.treble.validate = .ok () := hm.scale .treble
    have htw : Fits32 (p.model.treble.max - p.model.treble.min) := hm.widths .treble
    obtain ⟨v, hv⟩ := Convert.toHostBalance_eq_ok_iff (α := Float).2 hbal
    simp [take, Convert.toHostEq_of_fits hbs hbw hb, Convert.toHostEq_of_fits hts htw ht, hv, bind,
      Except.bind, pure, Except.pure]
  | zoneVolumeConfiguration _ | sourceConfiguration _ => simp [DeviceEvent.messageType] at he

/-- Taking in a zone status changes only what the player knows of its zone. -/
theorem eq_of_takeStatus {s : ZoneStatus} (h : p.takeStatus s = .ok p') :
    ∃ st, p' = { p with state := st } := by
  unfold takeStatus at h
  split at h
  · obtain ⟨v, -, rfl⟩ := map_eq_ok h
    exact ⟨_, rfl⟩
  · cases h
    exact ⟨_, rfl⟩

/-- Taking in an event changes only what the player knows of its zone. -/
theorem eq_of_take {e : DeviceEvent} (h : p.take e = .ok p') : ∃ st, p' = { p with state := st } := by
  cases e with
  | zoneStatus s => exact eq_of_takeStatus h
  | zoneConfiguration c =>
    cases h
    exact ⟨_, rfl⟩
  | zoneEqStatus q =>
    obtain ⟨bass, -, h⟩ := bind_eq_ok h
    obtain ⟨treble, -, h⟩ := bind_eq_ok h
    obtain ⟨balance, -, h⟩ := bind_eq_ok h
    cases h
    exact ⟨_, rfl⟩
  | zoneVolumeConfiguration _ | sourceConfiguration _ => cases h

theorem model_of_take {e : DeviceEvent} (h : p.take e = .ok p') : p'.model = p.model := by
  obtain ⟨st, rfl⟩ := eq_of_take h
  rfl

end Player

namespace Dial

variable {α : Type} [HostNumber α]

/-- A dial reads its value from every event of its type, on a usable scale, when the values it
negates stay within 32 bits. -/
theorem read_of_validate (d : Dial) {e : DeviceEvent} {s : Scale}
    (he : e.messageType = d.messageType) (hs : s.validate = .ok ()) (hn : e.Negates) :
    ∃ v, (d.read e s : Outcome α) = .ok v := by
  cases d <;> cases e <;> simp only [messageType, DeviceEvent.messageType,
    reduceCtorEq] at he
  case balance.zoneEqStatus q =>
    obtain ⟨v, hv⟩ := Convert.toHostBalance_eq_ok_iff (α := α) (m := q.balance).2 hn
    exact ⟨v, by simp [read, hs, hv, Outcome.ofRange, Except.mapError, bind, Except.bind]⟩
  all_goals
    simp only [DeviceEvent.Negates] at hn
    simp [read, Convert.toHostSigned_of_validate hs, Convert.toHostAttenuation_of_fits hs, hn,
      Outcome.ofRange, Except.mapError]

end Dial

theorem DialReading.of_apply {r r' : DialReading} {e : DeviceEvent}
    (h : (Tracker.apply e).run r = .ok () r') : r'.dial = r.dial ∧ r'.scale = r.scale := by
  rw [DialReading.run_apply] at h
  split at h
  · cases h
    exact ⟨rfl, rfl⟩
  · cases h

namespace Entity

/-- The message types an entity reads, by its kind. -/
def readTypes : Entity → List MessageType
  | .player _ => [.zoneStatus, .zoneConfiguration, .zoneEqStatus]
  | .loudness _ => [.zoneEqStatus]
  | .dial x => [x.tracked.dial.messageType]

/-- The scales an entity converts with are usable: the zone player's model, and a dial's own
scale. -/
def ScalesUsable : Entity → Prop
  | .player x => x.tracked.model.Usable
  | .loudness _ => True
  | .dial x => x.tracked.scale.validate = .ok ()

/-- An event whose values the entity's conversions handle in 32 bits: those of the zone
player's model, the negated ones for a dial, and any for the loudness switch. -/
def Converts : Entity → DeviceEvent → Prop
  | .player x, ev => ev.InRange x.tracked.model
  | .loudness _, _ => True
  | .dial _, ev => ev.Negates

/-- An entity that reads every event it subscribes to: it subscribes to the types of its kind,
and its scales are usable. -/
structure Reads (x : Entity) : Prop where
  types : x.binding.messageTypes = x.readTypes
  scales : x.ScalesUsable

/-- The tracker of an entity with usable scales takes in every event of a type its kind reads,
whose values its conversions handle. -/
theorem apply_of_scalesUsable {x : Entity} (hx : x.ScalesUsable) {ev : DeviceEvent}
    (hm : ev.messageType ∈ x.readTypes) (hc : x.Converts ev) : ∃ x', x.apply ev = .ok x' := by
  cases x with
  | player b =>
    obtain ⟨p', hp'⟩ := Player.take_of_usable hx hc hm
    exact ⟨.player { b with tracked := p' }, by simp [apply_player, hp', Functor.map, Except.map]⟩
  | loudness b =>
    -- the loudness switch reads the eq status alone, and takes in each one
    have he : ev.messageType = .zoneEqStatus := by simpa [readTypes] using hm
    cases ev with
    | zoneEqStatus q =>
      exact ⟨.loudness { b with tracked := { enabled := some q.loudcmp } },
        by simp [apply, Update.outcome, Functor.map, Except.map]⟩
    | _ => simp [DeviceEvent.messageType] at he
  | dial b =>
    have hd : ev.messageType = b.tracked.dial.messageType := by simpa [readTypes] using hm
    obtain ⟨v, hv⟩ : ∃ v, (b.tracked.dial.read ev b.tracked.scale : Outcome Float) = .ok v :=
      b.tracked.dial.read_of_validate hd hx hc
    exact ⟨.dial { b with tracked := { b.tracked with value := some v } },
      by simp [apply, Update.outcome, DialReading.run_apply, hv, Functor.map, Except.map]⟩

theorem apply_of_reads {x : Entity} (hx : x.Reads) {ev : DeviceEvent}
    (hm : ev.messageType ∈ x.binding.messageTypes) (hc : x.Converts ev) :
    ∃ x', x.apply ev = .ok x' :=
  apply_of_scalesUsable hx.scales (hx.types ▸ hm) hc

/-- Taking in an event keeps the entity's kind, binding and scales. -/
theorem Reads.apply {x x' : Entity} (hx : x.Reads) {ev : DeviceEvent}
    (h : x.apply ev = .ok x') : x'.Reads ∧ x'.binding = x.binding := by
  cases x with
  | player b =>
    rw [apply_player] at h
    obtain ⟨p', hp, rfl⟩ := map_eq_ok h
    have hm := Player.model_of_take hp
    exact ⟨⟨hx.types, by simpa [ScalesUsable, hm] using hx.scales⟩, rfl⟩
  | loudness b =>
    obtain ⟨r', -, rfl⟩ := map_eq_ok h
    exact ⟨⟨hx.types, trivial⟩, rfl⟩
  | dial b =>
    obtain ⟨r', hr, rfl⟩ := map_eq_ok h
    obtain ⟨hd, hs⟩ := DialReading.of_apply (Update.outcome_eq_ok_iff.1 hr)
    exact ⟨⟨by simpa [readTypes, binding, hd] using hx.types,
      by simpa [ScalesUsable, hs] using hx.scales⟩, rfl⟩

theorem converts_setBinding (x : Entity) (b : Binding) : (x.setBinding b).Converts = x.Converts := by
  cases x <;> rfl

/-- Taking in an event keeps what the entity's conversions handle: the player keeps its model. -/
theorem converts_of_apply {x x' : Entity} {ev : DeviceEvent} (h : x.apply ev = .ok x') :
    x'.Converts = x.Converts := by
  cases x with
  | player b =>
    rw [apply_player] at h
    obtain ⟨p', hp, rfl⟩ := map_eq_ok h
    have hm := Player.model_of_take hp
    funext ev'
    simp [Converts, hm]
  | loudness b =>
    obtain ⟨_, -, rfl⟩ := map_eq_ok h
    rfl
  | dial b =>
    obtain ⟨_, -, rfl⟩ := map_eq_ok h
    rfl

/-- An entity that reads its events lists each type once. -/
theorem Reads.nodup {x : Entity} (hx : x.Reads) : x.binding.messageTypes.Nodup := by
  rw [hx.types]
  cases x <;> simp [readTypes]

theorem readTypes_setBinding (x : Entity) (b : Binding) : (x.setBinding b).readTypes = x.readTypes := by
  cases x <;> rfl

theorem Reads.setBinding {x : Entity} (hx : x.Reads) {b : Binding}
    (hb : b.messageTypes = x.binding.messageTypes) : (x.setBinding b).Reads := by
  refine ⟨?_, ?_⟩
  · rw [binding_setBinding, readTypes_setBinding, hb, hx.types]
  · cases x <;> exact hx.scales

end Entity

end ZoneBridge
