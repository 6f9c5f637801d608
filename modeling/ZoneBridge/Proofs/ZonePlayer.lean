import Mathlib
import ZoneBridge.Proofs.RoundTrips

/-!
# What a zone player knows of its zone

A zone player's state is a function of the events about its zone that it took in: every field
holds what the last event of its kind wrote, under that field's guard, and keeps its first value
until such an event comes (`PlayerState.ofPushes`). Power follows every zone status; mute and
source only a status of a powered zone; the volume only a status of a powered, unmuted zone that
gives one; the source list the zone configurations; tone, balance and loudness the eq statuses.

The one event a player of a usable model cannot take in without stopping the program is an eq
status out of 32-bit range: a tone value too far from the scale's `min`, or a balance of
`-2 ^ 31` off the centre (`Player.take_panics_iff`). Handed push messages one after another
while attached and with no such status among them, a new player's state is the fold over the
events of its own zone that parse (`Binding.handleAll_player_state`).

Volume up and down start from the native volume read back from the level. For a level that a
status of native volume `n` set, they send `n` moved by the step and kept at the end of the scale
on that side (`Player.volume_steps_stop_at_ends`); with no level known they send nothing.
-/

namespace ZoneBridge

/-! ### The last event of a kind -/

/-- The last value that a run of events gives through `f`. -/
def lastOf {β : Type} (f : DeviceEvent → Option β) (es : List DeviceEvent) : Option β :=
  (es.filterMap f).getLast?

@[simp] theorem lastOf_nil {β : Type} (f : DeviceEvent → Option β) : lastOf f [] = none := rfl

/-- One more event gives the last value when it gives one at all. -/
@[simp] theorem lastOf_append_singleton {β : Type} (f : DeviceEvent → Option β)
    (es : List DeviceEvent) (e : DeviceEvent) : lastOf f (es ++ [e]) = (f e).or (lastOf f es) := by
  unfold lastOf
  cases h : f e <;> simp [List.filterMap_append, h, List.getLast?_append]

namespace DeviceEvent

/-- A zone status. -/
@[simp] def status? : DeviceEvent → Option ZoneStatus
  | .zoneStatus s => some s
  | _ => none

/-- A zone status of a powered zone. -/
@[simp] def poweredStatus? : DeviceEvent → Option ZoneStatus
  | .zoneStatus s => if s.power then some s else none
  | _ => none

/-- The volume that a status of a powered, unmuted zone gives. -/
@[simp] def audibleVolume? : DeviceEvent → Option Int
  | .zoneStatus s => if s.power && !s.mute then s.volume else none
  | _ => none

/-- A zone configuration. -/
@[simp] def configuration? : DeviceEvent → Option ZoneConfiguration
  | .zoneConfiguration c => some c
  | _ => none

/-- A zone eq status. -/
@[simp] def eqStatus? : DeviceEvent → Option ZoneEqStatus
  | .zoneEqStatus q => some q
  | _ => none

end DeviceEvent

open DeviceEvent

/-- What a zone player of model `m` with sources `sources` knows after the events `es` about its
zone, from the start: every field from the last event of its kind, the source list from all
configured sources before any zone configuration. -/
def PlayerState.ofPushes (m : ModelSpec) (sources : SourceMap) (es : List DeviceEvent) :
    PlayerState where
  power := (lastOf status? es).map (·.power)
  volume := (lastOf audibleVolume? es).bind fun n =>
    (Convert.toHostVolume n m.volume : Except RangeFault Float).toOption
  mute := (lastOf poweredStatus? es).map (·.mute)
  source := (lastOf poweredStatus? es).bind fun s => s.source.bind sources.name
  sourceList := match lastOf configuration? es with
    | some c => (sourceIds c.sources).filterMap sources.name
    | none => sources.names
  bass := (lastOf eqStatus? es).bind fun q =>
    (Convert.toHostEq q.bass m.bass : Outcome Float).toOption
  bassNative := (lastOf eqStatus? es).map (·.bass)
  treble := (lastOf eqStatus? es).bind fun q =>
    (Convert.toHostEq q.treble m.treble : Outcome Float).toOption
  trebleNative := (lastOf eqStatus? es).map (·.treble)
  balance := (lastOf eqStatus? es).bind fun q =>
    (Convert.toHostBalance q.balancePosition q.balance : Outcome Float).toOption
  loudness := (lastOf eqStatus? es).map (·.loudcmp)

namespace Player

variable {p p' : Player} {es : List DeviceEvent}

/-- A zone status writes power, and for a powered zone mute, source and an audible volume, as
the last status of its kind. -/
theorem state_takeStatus (hs : p.state = PlayerState.ofPushes p.model p.sources es)
    {st : ZoneStatus} (h : p.takeStatus st = .ok p') :
    p'.state = PlayerState.ofPushes p.model p.sources (es ++ [.zoneStatus st]) := by
  unfold takeStatus at h
  cases hpow : st.power
  · simp only [hpow, Bool.false_eq_true, if_false] at h
    cases h
    simp [PlayerState.ofPushes, hs, hpow]
  · simp only [hpow, if_true] at h
    obtain ⟨vol, hvol, rfl⟩ := map_eq_ok h
    unfold statusVolume at hvol
    cases hv : st.volume with
    | none =>
      simp only [hv] at hvol
      cases hvol
      simp [PlayerState.ofPushes, hs, hpow, hv]
    | some n =>
      cases hmute : st.mute
      · -- the level of an audible volume replaces the last one
        simp only [hv, hmute] at hvol
        obtain ⟨level, hl, rfl⟩ := map_eq_ok hvol
        simp [PlayerState.ofPushes, hs, hpow, hv, hmute, Outcome.ofRange_eq_ok.mp hl,
          Except.toOption]
      · simp only [hv, hmute] at hvol
        cases hvol
        simp [PlayerState.ofPushes, hs, hpow, hmute]

/-- An event the player takes in writes its fields as the last event of its kind. -/
theorem state_take (hs : p.state = PlayerState.ofPushes p.model p.sources es) {e : DeviceEvent}
    (h : p.take e = .ok p') : p'.state = PlayerState.ofPushes p.model p.sources (es ++ [e]) := by
  cases e with
  | zoneStatus st => exact state_takeStatus hs h
  | zoneConfiguration c =>
    cases h
    simp [PlayerState.ofPushes, hs]
  | zoneEqStatus q =>
    -- tone and balance were all read, so each field holds the value read
    obtain ⟨bass, hb, h⟩ := bind_eq_ok h
    obtain ⟨treble, ht, h⟩ := bind_eq_ok h
    obtain ⟨balance, hl, h⟩ := bind_eq_ok h
    cases h
    simp [PlayerState.ofPushes, hs, hb, ht, hl, Except.toOption]
  | zoneVolumeConfiguration _ | sourceConfiguration _ => cases h

/-- What a player of a usable model refuses: an eq status out of range, or an event of no kind it
takes in. -/
theorem take_error_cases (hm : p.model.Usable) {e : DeviceEvent} {err : BridgeError}
    (h : p.take e = .error err) :
    (e.messageType = .zoneEqStatus ∧ ¬ e.InRange p.model) ∨
      e.messageType ∉ [.zoneStatus, .zoneConfiguration, .zoneEqStatus] := by
  by_cases he : e.messageType ∈ [.zoneStatus, .zoneConfiguration, .zoneEqStatus]
  · have hr : ¬ e.InRange p.model := fun hr => by
      obtain ⟨p', hp'⟩ := take_of_usable hm hr he
      cases h.symm.trans hp'
    refine .inl ⟨?_, hr⟩
    -- a status and a configuration are always in range
    cases e with
    | zoneEqStatus q => rfl
    | zoneStatus _ | zoneConfiguration _ => exact absurd ⟨trivial, trivial⟩ hr
    | zoneVolumeConfiguration _ | sourceConfiguration _ => simp [DeviceEvent.messageType] at he
  · exact .inr he

/-- A player of a usable model stops the program on an event exactly when it is an eq status out
of 32-bit range: a tone value too far from its scale's `min`, or a balance off the centre whose
magnitude has no absolute value. -/
theorem take_panics_iff (hm : p.model.Usable) (e : DeviceEvent) :
    (∃ o, p.take e = .error (.panic o)) ↔ e.messageType = .zoneEqStatus ∧ ¬ e.InRange p.model := by
  constructor
  · rintro ⟨o, h⟩
    rcases take_error_cases hm h with h' | hnot
    · exact h'
    · -- an event of no kind the player takes in is refused as malformed, not by a panic
      cases e <;> simp [DeviceEvent.messageType] at hnot <;> cases h
  · rintro ⟨he, hr⟩
    cases e with
    | zoneEqStatus q =>
      have hbs : p.model.bass.validate = .ok () := hm.scale .bass
      have hts : p.model.treble.validate = .ok () := hm.scale .treble
      -- the first of the three readings that overflows stops the update
      by_cases hb : Fits32 (q.bass - p.model.bass.min)
      · by_cases ht : Fits32 (q.treble - p.model.treble.min)
        · have hbal : ¬ (q.balancePosition = .center ∨ -2147483647 ≤ q.balance) :=
            fun hbal => hr ⟨hbal, hb, ht⟩
          obtain ⟨err, hl⟩ : ∃ err, (Convert.toHostBalance q.balancePosition q.balance :
              Outcome Float) = .error err := by
            cases hl : (Convert.toHostBalance q.balancePosition q.balance : Outcome Float) with
            | error err => exact ⟨err, rfl⟩
            | ok v => exact absurd (Convert.toHostBalance_eq_ok_iff.mp ⟨v, hl⟩) hbal
          refine ⟨.neg, ?_⟩
          simp [take, Convert.toHostEq_of_fits hbs (hm.widths .bass) hb,
            Convert.toHostEq_of_fits hts (hm.widths .treble) ht, hl,
            Convert.toHostBalance_eq_error hl, bind, Except.bind]
        · refine ⟨.sub, ?_⟩
          simp [take, Convert.toHostEq_of_fits hbs (hm.widths .bass) hb,
            Convert.toHostEq_of_not_fits hts ht, bind, Except.bind]
      · refine ⟨.sub, ?_⟩
        simp [take, Convert.toHostEq_of_not_fits hbs hb, bind, Except.bind]
    | _ => cases he

/-- An event that a player of a usable model refuses, when it is no eq status out of range, is
of no kind the state reads. -/
theorem ofPushes_of_take_error (hm : p.model.Usable) {e : DeviceEvent} {err : BridgeError}
    (h : p.take e = .error err) (hr : e.messageType = .zoneEqStatus → e.InRange p.model) :
    PlayerState.ofPushes p.model p.sources (es ++ [e]) = PlayerState.ofPushes p.model p.sources es := by
  rcases take_error_cases hm h with ⟨he, hnr⟩ | hnot
  · exact absurd (hr he) hnr
  · cases e <;> simp [DeviceEvent.messageType] at hnot <;> simp [PlayerState.ofPushes]

end Player

/-! ### Push messages handed to a player -/

/-- The event of a push message about `t`, if the message parses. -/
def Notification.eventFor (t : Target) (n : Notification) : Option DeviceEvent :=
  match n.event with
  | .ok e => if e.origin = t then some e else none
  | .error _ => none

namespace Binding

/-- Hands push messages to an entity one after another; gives the binding and the tracked state
at the end. -/
def handleAll {τ : Type} [Tracker τ] (b : Binding) (t : τ) : List Notification → Binding × τ
  | [] => (b, t)
  | n :: ns => handleAll (b.handle t n).2.1 (b.handle t n).2.2 ns

variable {b : Binding} {p : Player} {es : List DeviceEvent}

/-- Handling a push message keeps a binding attached. -/
theorem Attached.handle {τ : Type} [Tracker τ] (hb : b.Attached) (t : τ) (n : Notification) :
    (b.handle t n).2.1.Attached := by
  rcases handle_binding_cases b t n with h | ⟨-, h⟩
  · rw [h]
    exact hb
  · rw [h]
    exact ⟨hb.1, by simp⟩

/-- The event of a push message about `t` was read from the message and is about `t`. -/
theorem eventFor_eq_some {t : Target} {n : Notification} {e : DeviceEvent}
    (h : n.eventFor t = some e) : n.event = .ok e ∧ e.origin = t := by
  unfold Notification.eventFor at h
  split at h
  · rename_i e' he
    split at h
    · cases h
      exact ⟨he, by assumption⟩
    · cases h
  · cases h

/-- A push message stops the program at an attached player of a usable model exactly when its
event about the zone is an eq status out of range. -/
theorem handle_panics_iff (hb : b.Attached) (hm : p.model.Usable) {n : Notification}
    {e : DeviceEvent} (hev : n.eventFor b.id.target = some e) :
    (∃ o, (b.handle p n).1 = .panicked o) ↔ e.messageType = .zoneEqStatus ∧ ¬ e.InRange p.model := by
  obtain ⟨he, ho⟩ := eventFor_eq_some hev
  rw [← Player.take_panics_iff hm]
  simp only [handle_panicked_iff]
  constructor
  · rintro ⟨o, -, e', t', he', -, hrun⟩
    obtain rfl : e = e' := by simpa [he] using he'
    exact ⟨o, Player.run_apply_eq_error_iff.mp ⟨t', hrun⟩⟩
  · rintro ⟨o, ht⟩
    obtain ⟨t', hrun⟩ := Player.run_apply_eq_error_iff.mpr ht
    exact ⟨o, hb, e, t', he, ho, hrun⟩

/-- A push message handed to an attached player, unless its event is an eq status out of range,
is the event about its zone, if it has one, taken in as the last event of its kind; model and
sources stay. -/
theorem handle_player (hb : b.Attached) (hm : p.model.Usable)
    (hs : p.state = PlayerState.ofPushes p.model p.sources es) (n : Notification)
    (hr : ∀ e, n.eventFor b.id.target = some e → e.messageType = .zoneEqStatus → e.InRange p.model) :
    (b.handle p n).2.2.model = p.model ∧ (b.handle p n).2.2.sources = p.sources ∧
      (b.handle p n).2.2.state =
        PlayerState.ofPushes p.model p.sources (es ++ (n.eventFor b.id.target).toList) := by
  rcases handle_cases b p n with ⟨-, e, p', he, ho, hrun, h⟩ | ⟨hne, h⟩
  · have hev : n.eventFor b.id.target = some e := by simp [Notification.eventFor, he, ho]
    have ht := Player.run_apply_eq_ok_iff.mp hrun
    obtain ⟨st, rfl⟩ := Player.eq_of_take ht
    rw [h, hev]
    exact ⟨rfl, rfl, Player.state_take hs ht⟩
  · rw [h]
    refine ⟨rfl, rfl, ?_⟩
    -- a message left aside carries no event about the zone, or one the player does not take in
    cases hev : n.eventFor b.id.target with
    | none => simpa using hs
    | some e =>
      obtain ⟨he, ho⟩ := eventFor_eq_some hev
      cases ht : p.take e with
      | ok p' =>
        exact absurd ((handle_applied_iff b p n).mpr
          ⟨hb, e, p', he, ho, Player.run_apply_eq_ok_iff.mpr ht⟩) hne
      | error err => simpa [Player.ofPushes_of_take_error hm ht (hr e hev)] using hs

/-- Push messages handed one after another to an attached player, with no eq status out of
range about its zone among them: its state is the fold over the events about its zone that
parse, after the events it had taken in before. -/
theorem handleAll_player_state (hb : b.Attached) (hm : p.model.Usable)
    (hs : p.state = PlayerState.ofPushes p.model p.sources es) (ns : List Notification)
    (hr : ∀ e ∈ ns.filterMap (Notification.eventFor b.id.target),
      e.messageType = .zoneEqStatus → e.InRange p.model) :
    (b.handleAll p ns).2.state = PlayerState.ofPushes p.model p.sources
      (es ++ ns.filterMap (Notification.eventFor b.id.target)) := by
  induction ns generalizing b p es with
  | nil => simpa [handleAll] using hs
  | cons n ns ih =>
    -- the next binding is for the same zone; the next player has the same model and sources
    have hrn : ∀ e, n.eventFor b.id.target = some e → e.messageType = .zoneEqStatus →
        e.InRange p.model :=
      fun e hev => hr e (List.mem_filterMap.mpr ⟨n, List.mem_cons_self, hev⟩)
    have hrs : ∀ e ∈ ns.filterMap (Notification.eventFor b.id.target),
        e.messageType = .zoneEqStatus → e.InRange p.model := by
      intro e he
      obtain ⟨a, ha, hfa⟩ := List.mem_filterMap.mp he
      exact hr e (List.mem_filterMap.mpr ⟨a, List.mem_cons_of_mem _ ha, hfa⟩)
    obtain ⟨hmod, hsrc, hst⟩ := handle_player hb hm hs n hrn
    have hnext := ih (hb.handle p n) (hmod ▸ hm) (by rw [hst, hmod, hsrc])
      (by rw [handle_id, hmod]; exact hrs)
    rw [handleAll, hnext, handle_id, hmod, hsrc]
    cases hev : n.eventFor b.id.target <;> simp [hev]

/-- A new zone player of a usable model, handed push messages one after another while attached,
knows of its zone exactly the fold over the events about its zone that parse, every field from
the last event of its kind under that field's guard, as long as no eq status about its zone is
out of 32-bit range; such a status, and only such a status, stops the program. -/
theorem player_state_folds_own_pushes {m : ModelSpec} (hm : m.Usable) (zone : UInt8)
    (sources : SourceMap) (volumeStep : Int) (hb : b.Attached) (ns : List Notification) :
    ((∀ e ∈ ns.filterMap (Notification.eventFor b.id.target),
        e.messageType = .zoneEqStatus → e.InRange m) →
      (b.handleAll (Player.create zone m sources volumeStep) ns).2.state =
        PlayerState.ofPushes m sources (ns.filterMap (Notification.eventFor b.id.target))) ∧
    ∀ (p : Player) (n : Notification) (e : DeviceEvent), p.model = m →
      n.eventFor b.id.target = some e →
      ((∃ o, (b.handle p n).1 = .panicked o) ↔ e.messageType = .zoneEqStatus ∧ ¬ e.InRange m) := by
  refine ⟨fun hr => ?_, fun p n e hpm hev => ?_⟩
  · -- a new player knows nothing yet but its configured sources: the fold over no events
    have hs : (Player.create zone m sources volumeStep).state = PlayerState.ofPushes m sources [] :=
      rfl
    have h := handleAll_player_state hb hm hs ns hr
    rwa [List.nil_append] at h
  · subst hpm
    exact handle_panics_iff hb hm hev

/-- A kitchen zone of the larger model, attached, handed a status and an eq status of its zone:
its state is the fold over both; an eq status with bass `2 ^ 31 - 1` stops the program. -/
theorem player_state_folds_own_pushes_kitchen :
    let b : Binding := { id := ⟨"entry", .zone 1, "zone"⟩, messageTypes := [], lifecycle := .live }
    let p := Player.create 1 .grandConcerto ⟨[(2, "Radio")]⟩ 5
    let ns := [Notification.ofEvent (.zoneStatus ⟨1, true, some 2, some 40, false⟩),
      Notification.ofEvent (.zoneEqStatus ⟨1, 4, -2, true, .center, 0⟩)]
    let n := Notification.ofEvent (.zoneEqStatus ⟨1, 2147483647, 0, false, .center, 0⟩)
    ns.filterMap (Notification.eventFor (.zone 1)) =
        [.zoneStatus ⟨1, true, some 2, some 40, false⟩, .zoneEqStatus ⟨1, 4, -2, true, .center, 0⟩] ∧
      (b.handleAll p ns).2.state =
        PlayerState.ofPushes .grandConcerto ⟨[(2, "Radio")]⟩
          (ns.filterMap (Notification.eventFor (.zone 1))) ∧
      ∃ o, (b.handle p n).1 = .panicked o := by
  intro b p ns n
  have hev : ns.filterMap (Notification.eventFor (.zone 1)) =
      [.zoneStatus ⟨1, true, some 2, some 40, false⟩, .zoneEqStatus ⟨1, 4, -2, true, .center, 0⟩] := by
    dsimp only [ns]
    rfl
  have hn : n.eventFor (.zone 1) = some (.zoneEqStatus ⟨1, 2147483647, 0, false, .center, 0⟩) := by
    dsimp only [n]
    rfl
  have h := player_state_folds_own_pushes (b := b) (m := .grandConcerto)
    (ModelSpec.usable_of_mem (by simp [ModelSpec.all]))
    1 ⟨[(2, "Radio")]⟩ 5 ⟨rfl, by decide⟩ ns
  refine ⟨hev, h.1 ?_, (h.2 p n _ rfl hn).mpr ⟨rfl, fun hr => absurd hr.tones.1 (by decide)⟩⟩
  rw [hev]
  intro e he hq
  simp only [List.mem_cons, List.not_mem_nil, or_false] at he
  rcases he with rfl | rfl
  · cases hq
  · exact ⟨Or.inl rfl, show Fits32 _ ∧ Fits32 _ from ⟨by decide, by decide⟩⟩

end Binding

/-! ### Volume steps -/

namespace Player

variable {p : Player}

/-- A step from a known level: the native volume read back from the level, moved by the step,
saturated to 32 bits and kept at the end of the scale on that side. -/
theorem stepVolume_of_level {level : Float} (hv : p.state.volume = some level) {n : ℤ}
    (hn : Convert.toDeviceVolume level p.model.volume = .ok n) (up : Bool) :
    p.stepVolume up = .ok (some (.setVolume p.zone
      (if up then Max.max (saturate32 (n - p.volumeStep)) p.model.volume.lower
        else Min.min (saturate32 (n + p.volumeStep)) p.model.volume.upper))) := by
  simp [stepVolume, hv, hn, Outcome.ofRange, Except.mapError, bind, Except.bind, pure, Except.pure]

/-- Volume up and down on a built-in model, for a level that a status of native volume `n` in
`[0, 79]` set: up sends `n` less the step but not below `0`, down sends `n` plus the step but not
above `79`, however large the step; with no level known neither sends anything. -/
theorem volume_steps_stop_at_ends (hm : p.model ∈ ModelSpec.all) (hs : 0 ≤ p.volumeStep) :
    (p.state.volume = none →
      p.requestFor .volumeUp = .ok none ∧ p.requestFor .volumeDown = .ok none) ∧
    ∀ n : ℤ, 0 ≤ n → n ≤ 79 →
      p.state.volume = (Convert.toHostVolume n p.model.volume : Except RangeFault Float).toOption →
      p.requestFor .volumeUp =
          .ok (some (.command (.setVolume p.zone (Max.max (n - p.volumeStep) 0)))) ∧
        p.requestFor .volumeDown =
          .ok (some (.command (.setVolume p.zone (Min.min (n + p.volumeStep) 79)))) := by
  have hvol : p.model.volume = ⟨79, 0, 1⟩ := by
    simp only [ModelSpec.all, List.mem_cons, List.not_mem_nil, or_false] at hm
    rcases hm with h | h <;> rw [h] <;> rfl
  refine ⟨fun hnone => ?_, fun n h0 h79 hlev => ?_⟩
  · simp [requestFor, stepVolume, hnone, Functor.map, Except.map, pure, Except.pure]
  -- the level reads back as `n`, since the volume scale fits 32 bits and its quiet end is `79`
  have hv : p.model.volume.validate = .ok () := by rw [hvol]; rfl
  have hmin : p.model.volume.min ≠ 0 := by rw [hvol]; decide
  have hfits : p.model.volume.Fits := by
    rw [hvol]
    exact ⟨by decide, by decide, by decide, by decide⟩
  have hn : p.model.volume.Holds n := by
    rw [hvol]
    exact ⟨by simp [Scale.lower]; omega, by simp [Scale.upper]; omega⟩
  have hrt := Convert.toDeviceVolume_toHostVolume hv hfits hmin hn
  rw [Convert.toHostVolume_of_validate hv hmin] at hrt hlev
  have hstep := stepVolume_of_level hlev hrt
  have hlo : p.model.volume.lower = 0 := by rw [hvol]; rfl
  have hhi : p.model.volume.upper = 79 := by rw [hvol]; rfl
  -- saturating the moved volume changes nothing once it is kept within the scale
  have hup : Max.max (saturate32 (n - p.volumeStep)) 0 = Max.max (n - p.volumeStep) 0 := by
    unfold saturate32
    omega
  have hdown : Min.min (saturate32 (n + p.volumeStep)) 79 = Min.min (n + p.volumeStep) 79 := by
    unfold saturate32
    omega
  simp [requestFor, hstep, hlo, hhi, hup, hdown, Functor.map, Except.map]

/-- Volume steps of five on a kitchen zone of the larger model, after a status of the powered,
unmuted zone at volume `40`: up sends `35`, down sends `45`. -/
theorem volume_steps_stop_at_ends_kitchen :
    let p := match (Player.create 1 .grandConcerto ⟨[]⟩ 5).take
        (.zoneStatus ⟨1, true, none, some 40, false⟩) with
      | .ok p => p
      | .error _ => Player.create 1 .grandConcerto ⟨[]⟩ 5
    p.state.volume =
        (Convert.toHostVolume 40 ModelSpec.grandConcerto.volume : Except RangeFault Float).toOption ∧
      p.requestFor .volumeUp = .ok (some (.command (.setVolume 1 (Max.max (40 - 5) 0)))) ∧
      p.requestFor .volumeDown = .ok (some (.command (.setVolume 1 (Min.min (40 + 5) 79)))) := by
  intro p
  have hvol : p.state.volume =
      (Convert.toHostVolume 40 ModelSpec.grandConcerto.volume : Except RangeFault Float).toOption := by
    dsimp only [p]
    rfl
  have hp : p.model = .grandConcerto ∧ p.zone = 1 ∧ p.volumeStep = 5 := by
    dsimp only [p]
    exact ⟨rfl, rfl, rfl⟩
  obtain ⟨hm, hz, hs⟩ := hp
  have h := (volume_steps_stop_at_ends (p := p) (by simp [hm, ModelSpec.all]) (by rw [hs]; decide)).2
    40 (by decide) (by decide) (by rw [hm]; exact hvol)
  rw [hz, hs] at h
  exact ⟨hvol, h⟩

end Player

end ZoneBridge
