import Mathlib
import ZoneBridge.Proofs.Readers

/-!
# Push messages read back what was written

Writing an event (`DeviceEvent.toJson`) puts every field of its record under the field's name,
an absent source or volume as null; `Notification.ofEvent` wraps it as the payload's `event`
under the event's own message type. Reading that payload back as a record of the message type
gives the event again, as long as each of its 32-bit fields holds a 32-bit value
(`DeviceEvent.Fits`), which every event the amplifier sends does.

Conversely a record read from any data value has its 32-bit fields in range: the blank record
has them at zero and each field's reader only takes 32-bit values (`Record.Keeps.decodeIn`). So
an event read from any push message is of the message's type, and writing it and reading it once
more gives it back: defaults filled in and unknown fields dropped, the event is a fixed point.

Main statement: `Notification.event_ofEvent_roundtrip`.
-/

namespace ZoneBridge

/-! ### Reading back one written value -/

namespace Decoder

@[simp] theorem bool_bool (b : Bool) : Decoder.bool (.bool b) = .ok b := rfl

@[simp] theorem string_string (s : String) : Decoder.string (.string s) = .ok s := rfl

@[simp] theorem u8_ofNat (z : UInt8) : Decoder.u8 (.ofNat z.toNat) = .ok z := by
  have h : (z.toNat : Int) ≤ 255 := by have := z.toNat_lt; omega
  simp [Decoder.u8, Decoder.integer, Json.ofNat, h, bind, Except.bind, pure, Except.pure]

theorem i32_ofInt {n : Int} (h : Fits32 n) : Decoder.i32 (.ofInt n) = .ok n := by
  obtain ⟨hlo, hhi⟩ := h
  unfold Decoder.i32 Decoder.integer Json.ofInt
  -- an integer is written as a natural number or as a negative one, by its sign
  by_cases hn : 0 ≤ n
  · simp [hn, hhi, Int.toNat_of_nonneg hn, pure, Except.pure]
  · simp [hn, hlo, hhi, pure, Except.pure]

theorem fits32_of_i32 {v : Json} {n : Int} (h : Decoder.i32 v = .ok n) : Fits32 n := by
  unfold Decoder.i32 Decoder.integer at h
  split at h
  · split at h
    · rename_i hk
      cases h
      exact ⟨by omega, hk⟩
    · cases h
  · split at h
    · rename_i hk
      cases h
      exact hk
    · cases h
  · cases h

theorem option_of_ne_null {α : Type} (d : Decoder α) {v : Json} (hv : v ≠ .null) :
    Decoder.option d v = some <$> d v := by
  cases v <;> simp_all [Decoder.option]

@[simp] theorem option_u8 (x : Option UInt8) :
    Decoder.option Decoder.u8 (.ofOption (fun s => .ofNat s.toNat) x) = .ok x := by
  cases x with
  | none => rfl
  | some z =>
    rw [Json.ofOption, option_of_ne_null _ (by simp [Json.ofNat]), u8_ofNat]
    rfl

theorem option_i32 {x : Option Int} (h : ∀ n ∈ x, Fits32 n) :
    Decoder.option Decoder.i32 (.ofOption .ofInt x) = .ok x := by
  cases x with
  | none => rfl
  | some n =>
    have hv : Json.ofInt n ≠ .null := by unfold Json.ofInt; split <;> simp
    rw [Json.ofOption, option_of_ne_null _ hv, i32_ofInt (h n rfl)]
    rfl

theorem fits_of_option_i32 {v : Json} {x : Option Int}
    (h : Decoder.option Decoder.i32 v = .ok x) : ∀ n ∈ x, Fits32 n := by
  intro n hn
  cases v with
  | null =>
    cases h
    cases hn
  | bool _ | number _ | string _ | array _ | object _ =>
    obtain ⟨m, hm, rfl⟩ := map_eq_ok h
    cases hn
    exact fits32_of_i32 hm

@[simp] theorem list_string (xs : List String) :
    Decoder.list Decoder.string (.array (xs.map .string)) = .ok xs := by
  induction xs with
  | nil => rfl
  | cons x xs ih =>
    simp only [Decoder.list, List.map_cons, List.mapM_cons] at ih ⊢
    simp [ih, bind, Except.bind, pure, Except.pure]

end Decoder

@[simp] theorem BalancePosition.decode_letter (p : BalancePosition) :
    BalancePosition.decode false (.string p.letter) = .ok p := by
  cases p <;> rfl

/-! ### What reading a record keeps -/

namespace Record

variable {β : Type} (r : Record β) (P : β → Prop)

/-- Each field of the record keeps `P` when it puts a value into a record. -/
def Keeps : Prop := ∀ f ∈ r.fields, ∀ v acc acc', P acc → f.put v acc = .ok acc' → P acc'

variable {r P}

theorem Keeps.putFields (hk : r.Keeps P) (fields : List (String × Json)) {acc acc' : β}
    (hacc : P acc) (h : r.putFields acc fields = .ok acc') : P acc' := by
  induction fields generalizing acc with
  | nil =>
    cases h
    exact hacc
  | cons kv rest ih =>
    obtain ⟨k, v⟩ := kv
    unfold Record.putFields at h
    -- a known key puts its value through its field, an unknown one is passed over
    split at h
    · rename_i f hf
      obtain ⟨a, ha, hrest⟩ := bind_eq_ok h
      exact ih (hk f (List.mem_of_find?_eq_some hf) v acc a hacc ha) hrest
    · exact ih hacc h

theorem Keeps.putItems (hk : r.Keeps P) (fs : List (Field β)) (hfs : ∀ f ∈ fs, f ∈ r.fields)
    (items : List Json) (i : Nat) {acc acc' : β} (hacc : P acc)
    (h : r.putItems acc fs items i = .ok acc') : P acc' := by
  induction fs generalizing acc items i with
  | nil =>
    cases items <;> (cases h; exact hacc)
  | cons f fs ih =>
    have hf : f ∈ r.fields := hfs f (by simp)
    have hfs' : ∀ g ∈ fs, g ∈ r.fields := fun g hg => hfs g (by simp [hg])
    cases items with
    | nil =>
      -- past the last element only fields that may be left out are passed over
      unfold Record.putItems at h
      split at h
      · exact ih hfs' [] (i + 1) hacc h
      · cases h
    | cons x xs =>
      unfold Record.putItems at h
      obtain ⟨a, ha, hrest⟩ := bind_eq_ok h
      exact ih hfs' xs (i + 1) (hk f hf x acc a hacc ha) hrest

/-- A record read from an object or an array has what its blank has and each field keeps. -/
theorem Keeps.decodeIn (hk : r.Keeps P) (hb : P r.blank) {buffered : Bool} {v : Json} {b : β}
    (h : r.decodeIn buffered v = .ok b) : P b := by
  unfold Record.decodeIn at h
  split at h
  · obtain ⟨acc, hacc, h⟩ := bind_eq_ok h
    split at h
    · cases h
    · cases h
      exact hk.putFields _ hb hacc
  · obtain ⟨acc, hacc, h⟩ := bind_eq_ok h
    split at h
    · cases h
      exact hk.putItems r.fields (fun _ hf => hf) _ 0 hb hacc
    · split at h <;> cases h
  · cases h

end Record

/-! ### Events whose 32-bit fields hold 32-bit values -/

/-- A zone status whose volume, if given, is a 32-bit value. -/
def ZoneStatus.Fits (e : ZoneStatus) : Prop := ∀ n ∈ e.volume, Fits32 n

def ZoneEqStatus.Fits (e : ZoneEqStatus) : Prop :=
  Fits32 e.bass ∧ Fits32 e.treble ∧ Fits32 e.balance

def ZoneVolumeConfiguration.Fits (e : ZoneVolumeConfiguration) : Prop :=
  Fits32 e.maxVol ∧ Fits32 e.iniVol ∧ Fits32 e.pageVol ∧ Fits32 e.partyVol

def SourceConfiguration.Fits (e : SourceConfiguration) : Prop := Fits32 e.gain

/-- An event whose 32-bit fields all hold 32-bit values, as every event of the amplifier does. -/
def DeviceEvent.Fits : DeviceEvent → Prop
  | .zoneStatus e => e.Fits
  | .zoneConfiguration _ => True
  | .zoneEqStatus e => e.Fits
  | .zoneVolumeConfiguration e => e.Fits
  | .sourceConfiguration e => e.Fits

instance : DecidablePred ZoneStatus.Fits := fun _ => inferInstanceAs (Decidable (∀ _ ∈ _, _))
instance : DecidablePred ZoneEqStatus.Fits := fun _ => inferInstanceAs (Decidable (_ ∧ _))
instance : DecidablePred ZoneVolumeConfiguration.Fits :=
  fun _ => inferInstanceAs (Decidable (_ ∧ _))
instance : DecidablePred SourceConfiguration.Fits := fun _ => inferInstanceAs (Decidable (Fits32 _))

instance : DecidablePred DeviceEvent.Fits
  | .zoneStatus e => inferInstanceAs (Decidable e.Fits)
  | .zoneConfiguration _ => instDecidableTrue
  | .zoneEqStatus e => inferInstanceAs (Decidable e.Fits)
  | .zoneVolumeConfiguration e => inferInstanceAs (Decidable e.Fits)
  | .sourceConfiguration e => inferInstanceAs (Decidable e.Fits)

theorem ZoneStatus.keeps_fits : ZoneStatus.record.Keeps ZoneStatus.Fits := by
  intro f hf v acc acc' hacc h
  simp only [ZoneStatus.record, List.mem_cons, List.not_mem_nil, or_false] at hf
  -- only the volume field sets the volume
  rcases hf with rfl | rfl | rfl | rfl | rfl <;> obtain ⟨a, ha, h⟩ := bind_eq_ok h <;> cases h
  · exact hacc
  · exact hacc
  · exact hacc
  · exact Decoder.fits_of_option_i32 ha
  · exact hacc

theorem ZoneEqStatus.keeps_fits : ZoneEqStatus.record.Keeps ZoneEqStatus.Fits := by
  intro f hf v acc acc' ⟨hbass, htreble, hbalance⟩ h
  simp only [ZoneEqStatus.record, List.mem_cons, List.not_mem_nil, or_false] at hf
  rcases hf with rfl | rfl | rfl | rfl | rfl | rfl <;> obtain ⟨a, ha, h⟩ := bind_eq_ok h <;> cases h
  · exact ⟨hbass, htreble, hbalance⟩
  · exact ⟨Decoder.fits32_of_i32 ha, htreble, hbalance⟩
  · exact ⟨hbass, Decoder.fits32_of_i32 ha, hbalance⟩
  · exact ⟨hbass, htreble, hbalance⟩
  · exact ⟨hbass, htreble, hbalance⟩
  · exact ⟨hbass, htreble, Decoder.fits32_of_i32 ha⟩

theorem ZoneVolumeConfiguration.keeps_fits :
    ZoneVolumeConfiguration.record.Keeps ZoneVolumeConfiguration.Fits := by
  intro f hf v acc acc' ⟨hmax, hini, hpage, hparty⟩ h
  simp only [ZoneVolumeConfiguration.record, List.mem_cons, List.not_mem_nil, or_false] at hf
  rcases hf with rfl | rfl | rfl | rfl | rfl | rfl <;> obtain ⟨a, ha, h⟩ := bind_eq_ok h <;> cases h
  · exact ⟨hmax, hini, hpage, hparty⟩
  · exact ⟨Decoder.fits32_of_i32 ha, hini, hpage, hparty⟩
  · exact ⟨hmax, Decoder.fits32_of_i32 ha, hpage, hparty⟩
  · exact ⟨hmax, hini, Decoder.fits32_of_i32 ha, hparty⟩
  · exact ⟨hmax, hini, hpage, Decoder.fits32_of_i32 ha⟩
  · exact ⟨hmax, hini, hpage, hparty⟩

theorem SourceConfiguration.keeps_fits :
    SourceConfiguration.record.Keeps SourceConfiguration.Fits := by
  intro f hf v acc acc' hgain h
  simp only [SourceConfiguration.record, List.mem_cons, List.not_mem_nil, or_false] at hf
  rcases hf with rfl | rfl | rfl | rfl <;> obtain ⟨a, ha, h⟩ := bind_eq_ok h <;> cases h
  · exact hgain
  · exact hgain
  · exact hgain
  · exact Decoder.fits32_of_i32 ha

/-! ### Each record reads back what was written -/

theorem ZoneStatus.decode_toJson (e : ZoneStatus) (h : e.Fits) :
    ZoneStatus.record.decode (DeviceEvent.zoneStatus e).toJson = .ok e := by
  -- the written fields, sorted by name
  have hj : (DeviceEvent.zoneStatus e).toJson = .object [("mute", .bool e.mute),
      ("power", .bool e.power), ("source", .ofOption (fun s => .ofNat s.toNat) e.source),
      ("volume", .ofOption .ofInt e.volume), ("zone", .ofNat e.zone.toNat)] := rfl
  rw [hj]
  simp [Record.decode, Record.decodeIn, Record.putFields, ZoneStatus.record, Decoder.option_i32 h,
    bind, Except.bind, pure, Except.pure]

theorem ZoneConfiguration.decode_toJson (e : ZoneConfiguration) :
    ZoneConfiguration.record.decode (DeviceEvent.zoneConfiguration e).toJson = .ok e := by
  have hj : (DeviceEvent.zoneConfiguration e).toJson = .object [("enabled", .bool e.enabled),
      ("name", .string e.name), ("sources", .array (e.sources.map .string)),
      ("zone", .ofNat e.zone.toNat)] := rfl
  rw [hj]
  simp [Record.decode, Record.decodeIn, Record.putFields, ZoneConfiguration.record,
    bind, Except.bind, pure, Except.pure]

theorem ZoneEqStatus.decode_toJson (e : ZoneEqStatus) (h : e.Fits) :
    ZoneEqStatus.record.decode (DeviceEvent.zoneEqStatus e).toJson = .ok e := by
  obtain ⟨hbass, htreble, hbalance⟩ := h
  have hj : (DeviceEvent.zoneEqStatus e).toJson = .object [("balance", .ofInt e.balance),
      ("balance_position", .string e.balancePosition.letter), ("bass", .ofInt e.bass),
      ("loudcmp", .bool e.loudcmp), ("treble", .ofInt e.treble),
      ("zone", .ofNat e.zone.toNat)] := rfl
  rw [hj]
  simp [Record.decode, Record.decodeIn, Record.putFields, ZoneEqStatus.record,
    Decoder.i32_ofInt hbass, Decoder.i32_ofInt htreble, Decoder.i32_ofInt hbalance,
    bind, Except.bind, pure, Except.pure]

theorem ZoneVolumeConfiguration.decode_toJson (e : ZoneVolumeConfiguration) (h : e.Fits) :
    ZoneVolumeConfiguration.record.decode (DeviceEvent.zoneVolumeConfiguration e).toJson =
      .ok e := by
  obtain ⟨hmax, hini, hpage, hparty⟩ := h
  have hj : (DeviceEvent.zoneVolumeConfiguration e).toJson = .object [
      ("ini_vol", .ofInt e.iniVol), ("max_vol", .ofInt e.maxVol), ("page_vol", .ofInt e.pageVol),
      ("party_vol", .ofInt e.partyVol), ("vol_rst", .bool e.volRst),
      ("zone", .ofNat e.zone.toNat)] := rfl
  rw [hj]
  simp [Record.decode, Record.decodeIn, Record.putFields, ZoneVolumeConfiguration.record,
    Decoder.i32_ofInt hmax, Decoder.i32_ofInt hini, Decoder.i32_ofInt hpage,
    Decoder.i32_ofInt hparty, bind, Except.bind, pure, Except.pure]

theorem SourceConfiguration.decode_toJson (e : SourceConfiguration) (h : e.Fits) :
    SourceConfiguration.record.decode (DeviceEvent.sourceConfiguration e).toJson = .ok e := by
  have hj : (DeviceEvent.sourceConfiguration e).toJson = .object [("enabled", .bool e.enabled),
      ("gain", .ofInt e.gain), ("name", .string e.name),
      ("source", .ofNat e.source.toNat)] := rfl
  rw [hj]
  simp [Record.decode, Record.decodeIn, Record.putFields, SourceConfiguration.record,
    Decoder.i32_ofInt h, bind, Except.bind, pure, Except.pure]

/-! ### Events -/

namespace DeviceEvent

/-- Reading the payload written for an event, under the event's own message type, gives the
event back. -/
theorem parse_toJson (e : DeviceEvent) (he : e.Fits) :
    parse e.messageType (.obj [("event", e.toJson)]) = .ok e := by
  have hget : (Json.obj [("event", e.toJson)]).get? "event" = some e.toJson := by
    simp [Json.obj, Json.insertField, Json.get?]
  unfold parse
  rw [hget]
  cases e with
  | zoneStatus s =>
    simp [messageType, ZoneStatus.decode_toJson s he, Except.mapError, Functor.map, Except.map]
  | zoneConfiguration c =>
    simp [messageType, ZoneConfiguration.decode_toJson c, Except.mapError, Functor.map, Except.map]
  | zoneEqStatus q =>
    simp [messageType, ZoneEqStatus.decode_toJson q he, Except.mapError, Functor.map, Except.map]
  | zoneVolumeConfiguration v =>
    simp [messageType, ZoneVolumeConfiguration.decode_toJson v he, Except.mapError, Functor.map,
      Except.map]
  | sourceConfiguration c =>
    simp [messageType, SourceConfiguration.decode_toJson c he, Except.mapError, Functor.map,
      Except.map]

/-- Every event read from a payload has its 32-bit fields in range. -/
theorem fits_of_parse {m : MessageType} {payload : Json} {e : DeviceEvent}
    (h : parse m payload = .ok e) : e.Fits := by
  unfold parse at h
  split at h
  · cases h
  · have hread := mapError_eq_ok.1 h
    -- each message type reads its own record and wraps it in its own constructor
    cases m <;> obtain ⟨r, hr, rfl⟩ := map_eq_ok hread
    · exact ZoneStatus.keeps_fits.decodeIn (fun n hn => by cases hn) hr
    · trivial
    · exact ZoneEqStatus.keeps_fits.decodeIn (by decide) hr
    · exact ZoneVolumeConfiguration.keeps_fits.decodeIn (by decide) hr
    · exact SourceConfiguration.keeps_fits.decodeIn (by decide) hr

end DeviceEvent

namespace Notification

theorem event_ofEvent (e : DeviceEvent) (he : e.Fits) : (ofEvent e).event = .ok e :=
  DeviceEvent.parse_toJson e he

/-- Writing an event as a push message and reading it back gives the event, under the event's
own message type; and an event read from any push message is of the message's type and is a
fixed point of writing and reading. -/
theorem event_ofEvent_roundtrip :
    (∀ e : DeviceEvent, e.Fits →
      (ofEvent e).messageType = e.messageType ∧
      (ofEvent e).payload = .obj [("event", e.toJson)] ∧
      (ofEvent e).event = .ok e) ∧
    (∀ (n : Notification) (e : DeviceEvent), n.event = .ok e →
      e.messageType = n.messageType ∧ (ofEvent e).event = .ok e) := by
  constructor
  · intro e he
    exact ⟨rfl, rfl, event_ofEvent e he⟩
  · intro n e h
    -- the event read has its 32-bit fields in range, so it reads back after writing
    exact ⟨messageType_of_event h, event_ofEvent e (DeviceEvent.fits_of_parse h)⟩

/-- An equalizer report of zone 3 reads back after writing. -/
theorem event_ofEvent_roundtrip_eq_status :
    (ofEvent (.zoneEqStatus ⟨3, -6, 4, true, .left, 2⟩)).event =
      .ok (.zoneEqStatus ⟨3, -6, 4, true, .left, 2⟩) :=
  (event_ofEvent_roundtrip.1 _ (by decide)).2.2

end Notification

end ZoneBridge
