import Mathlib
import ZoneBridge.Proofs.SourceNames
import ZoneBridge.Proofs.CommandFrames

/-!
# Building a bridge from its configuration

`Bridge.ofConfig` refuses exactly the configurations that `Config.validate` refuses, with the
same error. The bridge it builds lays its entities out in four blocks: the zone players, then the
loudness switches, each in zone order, then the seven dials of each zone, then the gain of each
source. Every entity is about a zone or source within the model's counts, and no two entities
share a unique id. Attaching every entity on the bridge's open link subscribes each one and
sends, in place order, the queries by which each entity learns its state: each entity asks for
the types it listens to, about its own zone or source.

The maps of a configuration are taken with their ids in ascending order (`Config.Ordered`), as
the maps read from text are (`IdMap.ordered_ofPairs`).

Main statement: `Bridge.built_entities_attach_in_order`.
-/

namespace ZoneBridge

/-! ### Lists -/

theorem getElem?_flatMap_of_length {α β : Type} {f : α → List β} {n : Nat}
    (hf : ∀ x, (f x).length = n) (xs : List α) (k : Nat) {j : Nat} (hj : j < n) :
    (xs.flatMap f)[n * k + j]? = xs[k]?.bind fun x => (f x)[j]? := by
  induction xs generalizing k with
  | nil => simp
  | cons x xs ih =>
    rw [List.flatMap_cons]
    cases k with
    | zero =>
      rw [Nat.mul_zero, Nat.zero_add, List.getElem?_append_left (by rw [hf]; exact hj)]
      rfl
    | succ k =>
      rw [List.getElem?_append_right (by rw [hf]; nlinarith), hf,
        show n * (k + 1) + j - n = n * k + j by rw [Nat.mul_succ]; omega, ih]
      rfl

/-- A prefix free of a separator ends at the separator's first occurrence. -/
theorem eq_of_append_cons_eq {α : Type} [DecidableEq α] {a : α} {x y r s : List α} (hx : a ∉ x) (hy : a ∉ y)
    (h : x ++ a :: r = y ++ a :: s) : x = y ∧ r = s := by
  have hsplit := congrArg (List.splitOn a) h
  rw [List.splitOn_append_cons_self_of_not_mem hx, List.splitOn_append_cons_self_of_not_mem hy] at hsplit
  obtain ⟨rfl, -⟩ := List.cons.inj hsplit
  exact ⟨rfl, (List.cons.inj (List.append_cancel_left h)).2⟩

theorem length_filter_range_getElem? {α : Type} (p : α → Bool) (l : List α) :
    ((List.range l.length).filter fun i => (l[i]?).any p).length = l.countP p := by
  induction l with
  | nil => rfl
  | cons x l ih =>
    rw [List.length_cons, List.range_succ_eq_map, List.filter_cons, List.filter_map,
      List.countP_cons]
    have hshift : ((fun i => ((x :: l)[i]?).any p) ∘ Nat.succ) = fun i => (l[i]?).any p := by
      funext i
      simp
    rw [hshift]
    by_cases hx : p x <;> simp [hx, ih]

theorem countP_flatMap_const {α β : Type} {p : β → Bool} {f : α → List β} {n : Nat}
    (hf : ∀ a, (f a).countP p = n) (l : List α) : (l.flatMap f).countP p = l.length * n := by
  induction l with
  | nil => simp
  | cons a l ih => rw [List.flatMap_cons, List.countP_append, hf, ih, List.length_cons, Nat.succ_mul]; omega

theorem countP_const {α : Type} (c : Bool) (l : List α) : l.countP (fun _ => c) = l.length * c.toNat := by
  cases c <;> simp

/-! ### Checking -/

namespace Config

/-- Both effective maps of a configuration hold their ids in ascending order, as maps keyed by
id do. -/
def Ordered (c : Config) : Prop := c.effectiveZones.Ordered ∧ c.effectiveSources.Ordered

instance (c : Config) : Decidable c.Ordered := inferInstanceAs (Decidable (_ ∧ _))

theorem firstOutside_eq_none_iff {m : IdMap} {count : Nat} :
    firstOutside m count = none ↔ ∀ p ∈ m, 1 ≤ p.1.toNat ∧ p.1.toNat ≤ count := by
  unfold firstOutside
  rw [Option.map_eq_none_iff, List.find?_eq_none]
  refine forall₂_congr fun p _ => ?_
  have hzero : p.1 = 0 ↔ p.1.toNat = 0 := by rw [← UInt8.toNat_inj]; rfl
  simp [hzero]
  omega

/-- A checked configuration names a known model, and its zones and sources lie within the
model's counts. -/
theorem inRange_of_validate {c : Config} (h : c.validate = .ok ()) :
    ∃ m, c.modelSpec = .ok m ∧ (∀ p ∈ c.effectiveZones, 1 ≤ p.1.toNat ∧ p.1.toNat ≤ m.zones) ∧
      ∀ p ∈ c.effectiveSources, 1 ≤ p.1.toNat ∧ p.1.toNat ≤ m.sources := by
  unfold validate at h
  obtain ⟨m, hm, h⟩ := bind_eq_ok h
  refine ⟨m, hm, ?_⟩
  -- each later check refuses, unless the ids are all in range
  by_cases hp : (Text.trim c.effectivePort).isEmpty
  · simp [hp, throw, throwThe, MonadExceptOf.throw, bind, Except.bind] at h
  by_cases hv : (decide (c.volumeStep ≤ 0) ||
      decide (m.volume.upper - m.volume.lower < c.volumeStep)) = true
  · simp [hp, hv, throw, throwThe, MonadExceptOf.throw, bind, Except.bind] at h
  cases hz : firstOutside c.effectiveZones m.zones
  · cases hs : firstOutside c.effectiveSources m.sources
    · exact ⟨firstOutside_eq_none_iff.1 hz, firstOutside_eq_none_iff.1 hs⟩
    · simp [hp, hv, hz, hs, throw, throwThe, MonadExceptOf.throw] at h
  · simp [hp, hv, hz, throw, throwThe, MonadExceptOf.throw, bind, Except.bind] at h

end Config

/-- How many zones or sources a model has. -/
def ModelSpec.count (m : ModelSpec) : EntityKind → Nat
  | .zone => m.zones
  | .source => m.sources

theorem IdMap.Ordered.nodup_keys {m : IdMap} (h : m.Ordered) : (m.map Prod.fst).Nodup := by
  refine List.pairwise_map.2 (h.imp fun hab heq => ?_)
  rw [heq] at hab
  exact UInt8.lt_irrefl _ hab

namespace Bridge

theorem ofConfig_eq_error_iff {c : Config} {e : BridgeError} :
    ofConfig c = .error e ↔ c.validate = .error e := by
  cases hv : c.validate with
  | error e' => simp [ofConfig, hv, bind, Except.bind]
  | ok u =>
    obtain ⟨m, hm, -⟩ := Config.inRange_of_validate hv
    simp [ofConfig, hv, hm, bind, Except.bind, pure, Except.pure]

/-- The bridge of a configuration is built from the configuration's effective maps, for the
model the configuration names, once the configuration is checked. -/
theorem eq_build_of_ofConfig {c : Config} {b : Bridge} (h : ofConfig c = .ok b) :
    c.validate = .ok () ∧ ∃ model, c.modelSpec = .ok model ∧
      b = build (c.entryId.getD "") model c.effectiveZones c.effectiveSources c.volumeStep := by
  obtain ⟨_, hv, h⟩ := bind_eq_ok h
  obtain ⟨model, hm, h⟩ := bind_eq_ok h
  exact ⟨hv, model, hm, (Except.ok.inj h).symm⟩

theorem exists_entity?_of_mem {b : Bridge} {x : Entity} (hx : x ∈ b.entities.toList) :
    ∃ i, b.entity? i = some x := by
  obtain ⟨i, hi⟩ := List.mem_iff_getElem?.1 hx
  exact ⟨i, by rwa [Array.getElem?_toList] at hi⟩

section Layout

variable {entry : String} {model : ModelSpec} {zones sources : IdMap} {vs : Int}

theorem entity?_build_eq (i : Nat) :
    (build entry model zones sources vs).entity? i =
      (zones.map (fun p => Entity.ofPlayer entry model p.1 p.2 ⟨sources⟩ vs) ++
        zones.map (fun p => Entity.ofLoudness entry model p.1 p.2) ++
        zones.flatMap (fun p => Dial.zoneDials.map (Entity.ofDial entry model p.1 p.2)) ++
        sources.flatMap (fun p => Dial.sourceDials.map (Entity.ofDial entry model p.1 p.2)))[i]? := by
  simp [entity?, build]

theorem size_build : (build entry model zones sources vs).entities.size = 9 * zones.length + sources.length := by
  simp [build, Dial.zoneDials, Dial.sourceDials, List.length_flatMap]
  omega

variable {k : Nat} {z : UInt8} {nm : String}

theorem entity?_build_player (hk : zones[k]? = some (z, nm)) :
    (build entry model zones sources vs).entity? k =
      some (.ofPlayer entry model z nm ⟨sources⟩ vs) := by
  have hlt : k < zones.length := (List.getElem?_eq_some_iff.1 hk).1
  rw [entity?_build_eq, List.append_assoc, List.append_assoc,
    List.getElem?_append_left (by simpa using hlt), List.getElem?_map, hk]
  rfl

theorem entity?_build_switch (hk : zones[k]? = some (z, nm)) :
    (build entry model zones sources vs).entity? (zones.length + k) =
      some (.ofLoudness entry model z nm) := by
  have hlt : k < zones.length := (List.getElem?_eq_some_iff.1 hk).1
  rw [entity?_build_eq, List.append_assoc, List.append_assoc,
    List.getElem?_append_right (by simp), List.length_map, Nat.add_sub_cancel_left,
    List.getElem?_append_left (by simpa using hlt), List.getElem?_map, hk]
  rfl

theorem entity?_build_zoneDial (hk : zones[k]? = some (z, nm)) {j : Nat} {d : Dial}
    (hj : Dial.zoneDials[j]? = some d) :
    (build entry model zones sources vs).entity? (2 * zones.length + 7 * k + j) =
      some (.ofDial entry model z nm d) := by
  have hj7 : j < 7 := (List.getElem?_eq_some_iff.1 hj).1
  rw [entity?_build_eq, List.append_assoc, List.append_assoc,
    List.getElem?_append_right (by simp; omega), List.length_map,
    List.getElem?_append_right (by simp; omega), List.length_map,
    show 2 * zones.length + 7 * k + j - zones.length - zones.length = 7 * k + j by omega,
    List.getElem?_append_left ?_, getElem?_flatMap_of_length (fun _ => by simp [Dial.zoneDials]) _ _ hj7, hk]
  · simp [hj]
  · have hlt : k < zones.length := (List.getElem?_eq_some_iff.1 hk).1
    simp [List.length_flatMap, Dial.zoneDials]
    omega

theorem entity?_build_gain {s : UInt8} (hk : sources[k]? = some (s, nm)) :
    (build entry model zones sources vs).entity? (9 * zones.length + k) =
      some (.ofDial entry model s nm .gain) := by
  -- the players, the loudness switches and the seven dials of each zone come first
  have hlen : (zones.map (fun p => Entity.ofPlayer entry model p.1 p.2 ⟨sources⟩ vs) ++
      zones.map (fun p => Entity.ofLoudness entry model p.1 p.2) ++
      zones.flatMap (fun p => Dial.zoneDials.map (Entity.ofDial entry model p.1 p.2))).length =
      9 * zones.length := by
    simp [List.length_flatMap, Dial.zoneDials]
    omega
  rw [entity?_build_eq, List.getElem?_append_right (by rw [hlen]; omega), hlen,
    Nat.add_sub_cancel_left, ← Nat.one_mul k, ← Nat.add_zero (1 * k),
    getElem?_flatMap_of_length (n := 1) (fun _ => rfl) _ _ Nat.one_pos, hk]
  rfl

end Layout

end Bridge

/-! ### Unique ids -/

namespace EntityId

theorem underscore_not_mem_name (k : EntityKind) : '_' ∉ k.name.toList := by
  cases k <;> decide

theorem underscore_not_mem_digitText (n : Nat) : '_' ∉ (Decimal.digitText n).toList := by
  rw [Decimal.digitText, String.toList_ofList]
  exact Nat.underscore_not_in_toDigits

theorem digitText_injective : Function.Injective Decimal.digitText := by
  intro m n h
  have h' := congrArg String.toList h
  simp only [Decimal.digitText, String.toList_ofList] at h'
  rw [← Nat.ofDigitChars_ten_toDigits (n := m), h', Nat.ofDigitChars_ten_toDigits]

theorem name_injective : Function.Injective EntityKind.name := by
  intro k k' h
  cases k <;> cases k' <;> simp_all [EntityKind.name]

/-- Within one namespace, the unique id gives back the zone or source and the control. -/
theorem eq_of_uniqueId_eq {e e' : EntityId} (he : e.entry = e'.entry)
    (h : e.uniqueId = e'.uniqueId) : e = e' := by
  have hu : "_".toList = ['_'] := rfl
  have hl := congrArg String.toList h
  simp only [uniqueId, String.toList_append, he, hu, List.append_assoc, List.singleton_append] at hl
  -- past the shared namespace, the kind and the digits end at the next separators
  obtain ⟨hk, hl⟩ := eq_of_append_cons_eq (underscore_not_mem_name _) (underscore_not_mem_name _)
    (List.cons.inj (List.append_cancel_left hl)).2
  obtain ⟨hd, hc⟩ := eq_of_append_cons_eq (underscore_not_mem_digitText _)
    (underscore_not_mem_digitText _) hl
  have hkind := name_injective (String.toList_inj.1 hk)
  have hid := UInt8.toNat_inj.1 (digitText_injective (String.toList_inj.1 hd))
  obtain ⟨entry, ⟨kind, id⟩, control⟩ := e
  obtain ⟨entry', ⟨kind', id'⟩, control'⟩ := e'
  simp_all [String.toList_inj]

/-- The ids of the given controls of each of the given zones or sources, zone by zone. -/
def grid (entry : String) (kind : EntityKind) (ids : List UInt8) (controls : List String) :
    List EntityId :=
  ids.flatMap fun id => controls.map fun c => ⟨entry, ⟨kind, id⟩, c⟩

theorem mem_grid {entry : String} {kind : EntityKind} {ids : List UInt8} {controls : List String}
    {e : EntityId} :
    e ∈ grid entry kind ids controls ↔
      e.entry = entry ∧ e.target.kind = kind ∧ e.target.id ∈ ids ∧ e.control ∈ controls := by
  obtain ⟨entry', ⟨kind', id'⟩, c'⟩ := e
  simp only [grid, List.mem_flatMap, List.mem_map, EntityId.mk.injEq, Target.mk.injEq]
  constructor
  · rintro ⟨id, hid, c, hc, rfl, ⟨rfl, rfl⟩, rfl⟩
    exact ⟨rfl, rfl, hid, hc⟩
  · rintro ⟨rfl, rfl, hid, hc⟩
    exact ⟨id', hid, c', hc, rfl, ⟨rfl, rfl⟩, rfl⟩

theorem nodup_grid {entry : String} {kind : EntityKind} {ids : List UInt8}
    {controls : List String} (hi : ids.Nodup) (hc : controls.Nodup) :
    (grid entry kind ids controls).Nodup := by
  refine List.nodup_flatMap.2 ⟨fun id _ => hc.map fun c c' h => ?_, hi.imp fun hne => ?_⟩
  · cases h
    rfl
  · -- the ids of two zones differ in their target
    intro e he he'
    simp only [List.mem_map] at he he'
    obtain ⟨c, -, rfl⟩ := he
    obtain ⟨c', -, h⟩ := he'
    cases h
    exact hne rfl

/-- Ids of different kinds, or of controls of disjoint lists, are different. -/
theorem ne_of_mem_grid {entry entry' : String} {kind kind' : EntityKind} {ids ids' : List UInt8}
    {controls controls' : List String} (h : kind ≠ kind' ∨ ∀ c ∈ controls, c ∉ controls')
    {e e' : EntityId} (he : e ∈ grid entry kind ids controls)
    (he' : e' ∈ grid entry' kind' ids' controls') : e ≠ e' := by
  rintro rfl
  rw [mem_grid] at he he'
  rcases h with hk | hc
  · exact hk (he.2.1.symm.trans he'.2.1)
  · exact hc _ he.2.2.2 he'.2.2.2

end EntityId

namespace Bridge

section Ids

variable {entry : String} {model : ModelSpec} {zones sources : IdMap} {vs : Int}

/-- The ids of a built bridge: the players', the switches', the zone dials' and the gains'. -/
theorem ids_build : (build entry model zones sources vs).entities.toList.map Entity.id =
    EntityId.grid entry .zone (zones.map Prod.fst) ["zone"] ++
      EntityId.grid entry .zone (zones.map Prod.fst) ["loudcmp"] ++
      EntityId.grid entry .zone (zones.map Prod.fst) (Dial.zoneDials.map Dial.controlName) ++
      EntityId.grid entry .source (sources.map Prod.fst) ["gain"] := by
  simp [build, EntityId.grid, List.map_flatMap, List.flatMap_map, Entity.id, Entity.binding,
    Entity.ofPlayer, Entity.ofLoudness, Entity.ofDial, Dial.zoneDials, Dial.sourceDials,
    Dial.entityKind, Dial.controlName, Function.comp_def, Target.zone, ← List.map_eq_flatMap]

/-- The entities of a bridge built from ordered maps have pairwise different ids. -/
theorem nodup_ids_build (hz : zones.Ordered) (hs : sources.Ordered) :
    ((build entry model zones sources vs).entities.toList.map Entity.id).Nodup := by
  have hzk := hz.nodup_keys
  rw [ids_build]
  -- the four blocks differ in their controls, and the gains also in their kind
  refine List.nodup_append.2 ⟨List.nodup_append.2 ⟨List.nodup_append.2
    ⟨EntityId.nodup_grid hzk (by decide), EntityId.nodup_grid hzk (by decide),
      fun a ha b hb => EntityId.ne_of_mem_grid (.inr (by decide)) ha hb⟩,
    EntityId.nodup_grid hzk (by decide), ?_⟩, EntityId.nodup_grid hs.nodup_keys (by decide), ?_⟩
  · intro a ha b hb
    rcases List.mem_append.1 ha with ha | ha
    · exact EntityId.ne_of_mem_grid (.inr (by decide)) ha hb
    · exact EntityId.ne_of_mem_grid (.inr (by decide)) ha hb
  · intro a ha b hb
    simp only [List.mem_append] at ha
    rcases ha with (ha | ha) | ha
    · exact EntityId.ne_of_mem_grid (.inl (by decide)) ha hb
    · exact EntityId.ne_of_mem_grid (.inl (by decide)) ha hb
    · exact EntityId.ne_of_mem_grid (.inl (by decide)) ha hb

/-- Every entity of a built bridge is in its namespace, about one of its zones or sources. -/
theorem mem_ids_build {x : Entity} (hx : x ∈ (build entry model zones sources vs).entities.toList) :
    x.id.entry = entry ∧ (x.id.target.kind = .zone ∧ x.id.target.id ∈ zones.map Prod.fst ∨
      x.id.target.kind = .source ∧ x.id.target.id ∈ sources.map Prod.fst) := by
  have h : x.id ∈ _ := List.mem_map_of_mem hx
  rw [ids_build] at h
  simp only [List.mem_append, EntityId.mem_grid] at h
  rcases h with ((h | h) | h) | h
  · exact ⟨h.1, .inl ⟨h.2.1, h.2.2.1⟩⟩
  · exact ⟨h.1, .inl ⟨h.2.1, h.2.2.1⟩⟩
  · exact ⟨h.1, .inl ⟨h.2.1, h.2.2.1⟩⟩
  · exact ⟨h.1, .inr ⟨h.2.1, h.2.2.1⟩⟩

/-- No two entities of a bridge built from ordered maps share a unique id. -/
theorem nodup_uniqueIds_build (hz : zones.Ordered) (hs : sources.Ordered) :
    ((build entry model zones sources vs).entities.toList.map Entity.uniqueId).Nodup := by
  have hmap : (build entry model zones sources vs).entities.toList.map Entity.uniqueId =
      ((build entry model zones sources vs).entities.toList.map Entity.id).map
        EntityId.uniqueId := by
    rw [List.map_map]
    rfl
  rw [hmap]
  refine (nodup_ids_build hz hs).map_on fun a ha b hb hab => ?_
  -- all ids share the bridge's namespace, and within it the unique id gives the id back
  obtain ⟨x, hx, rfl⟩ := List.mem_map.1 ha
  obtain ⟨y, hy, rfl⟩ := List.mem_map.1 hb
  exact EntityId.eq_of_uniqueId_eq ((mem_ids_build hx).1.trans (mem_ids_build hy).1.symm) hab

/-- Every entity of a built bridge asks, on attaching, for each type it listens to, in order,
about its own zone or source. -/
theorem attachQueries_build {x : Entity}
    (hx : x ∈ (build entry model zones sources vs).entities.toList) :
    x.attachQueries = x.binding.messageTypes.map fun m => ⟨m, x.id.target.id⟩ := by
  obtain ⟨i, hi⟩ := exists_entity?_of_mem hx
  rcases entity?_build hi with ⟨z, nm, -, rfl⟩ | ⟨z, nm, -, rfl⟩ | ⟨id, nm, d, -, rfl⟩ <;> rfl

end Ids

/-! ### Attaching -/

theorem length_subscribedTo (b : Bridge) (m : MessageType) :
    (b.subscribedTo m).length =
      b.entities.toList.countP fun x => x.binding.messageTypes.contains m := by
  rw [← length_filter_range_getElem?, @Array.length_toList _ b.entities]
  simp only [subscribedTo, Array.getElem?_toList]
  rfl

section Counts

variable {entry : String} {model : ModelSpec} {zones sources : IdMap} {vs : Int}

theorem countP_build (m : MessageType) :
    (build entry model zones sources vs).entities.toList.countP
        (fun x => x.binding.messageTypes.contains m) =
      zones.length * (([MessageType.zoneStatus, .zoneConfiguration, .zoneEqStatus].contains m).toNat +
        ([MessageType.zoneEqStatus].contains m).toNat +
        (Dial.zoneDials.map Dial.messageType).count m) +
      sources.length * (Dial.sourceDials.map Dial.messageType).count m := by
  simp only [build, List.toList_toArray, List.countP_append, List.countP_map]
  -- players and switches count once per zone if they list the type, dials once per owner each
  have hplayer : ((fun x : Entity => x.binding.messageTypes.contains m) ∘
      fun p : UInt8 × String => Entity.ofPlayer entry model p.1 p.2 ⟨sources⟩ vs) =
      fun _ => [MessageType.zoneStatus, .zoneConfiguration, .zoneEqStatus].contains m := rfl
  have hswitch : ((fun x : Entity => x.binding.messageTypes.contains m) ∘
      fun p : UInt8 × String => Entity.ofLoudness entry model p.1 p.2) =
      fun _ => [MessageType.zoneEqStatus].contains m := rfl
  have hdials : ∀ (ds : List Dial) (p : UInt8 × String),
      (ds.map (Entity.ofDial entry model p.1 p.2)).countP
        (fun x => x.binding.messageTypes.contains m) = (ds.map Dial.messageType).count m := by
    intro ds p
    simp only [List.countP_map, List.count, Function.comp_def, Entity.ofDial, Entity.binding,
      List.contains_cons, List.contains_nil, Bool.or_false]
    congr 1
    funext d
    by_cases h : d.messageType = m
    · simp [h]
    · simp [h, Ne.symm h]
  rw [hplayer, hswitch, countP_const, countP_const, countP_flatMap_const (hdials _),
    countP_flatMap_const (hdials _)]
  ring

end Counts

end Bridge

theorem Binding.subscribeAll_fst {σ : Type} (l : Link σ) (who : σ) (ms : List MessageType) :
    (subscribeAll l who ms).1 = { l with hub := (subscribeAll l who ms).1.hub } := by
  induction ms generalizing l with
  | nil => rfl
  | cons m ms ih =>
    simp only [subscribeAll]
    rw [ih]
    rfl

namespace Bridge

/-- Attaching a fresh entity on an open link subscribes it and sends all its queries. -/
theorem attach_of_fresh_open {b : Bridge} {k : Nat} {x : Entity} (h : b.entity? k = some x)
    (hl : x.binding.linked = true) (hc : x.binding.lifecycle = .uninitialized)
    (ho : (b.link.isOpen && b.link.receiving) = true) :
    ∃ (bd : Binding) (H : Hub Nat), bd.id = x.binding.id ∧ bd.lifecycle = .subscribed ∧
      bd.messageTypes = x.binding.messageTypes ∧
      b.attach k = (({ b with
        link := { b.link with hub := H, sent := b.link.sent ++ x.attachQueries.map .query } } :
          Bridge).setEntity k (x.setBinding bd), .ok ()) := by
  refine ⟨{ x.binding with
      lifecycle := .subscribed
      subscriptions := x.binding.subscriptions ++
        (Binding.subscribeAll b.link k x.binding.messageTypes).2 },
    (Binding.subscribeAll b.link k x.binding.messageTypes).1.hub, rfl, rfl, rfl, ?_⟩
  have ho' : (({ b.link with hub := (Binding.subscribeAll b.link k x.binding.messageTypes).1.hub } :
      Link Nat).isOpen && b.link.receiving) = true := ho
  unfold attach
  simp only [h, Binding.attach_of_new _ _ _ hl hc]
  rw [Binding.subscribeAll_fst, Link.enqueueAll_of_open ho']

/-- `b` is `b₀` with its first `k` entities attached in place order on a link that stays open:
those entities have subscribed under their own ids and types, the others are as they were, and
the link has sent the queries of the first `k` entities, in place order. -/
structure AttachedFrom (b₀ b : Bridge) (k : Nat) : Prop where
  size : b.entities.size = b₀.entities.size
  isOpen : (b.link.isOpen && b.link.receiving) = true
  sent : b.link.sent = b₀.link.sent ++ (b₀.entities.toList.take k).flatMap fun x => x.attachQueries.map .query
  later : ∀ i, k ≤ i → b.entity? i = b₀.entity? i
  earlier : ∀ i x, b₀.entity? i = some x → i < k → ∃ bd : Binding, bd.id = x.binding.id ∧
    bd.lifecycle = .subscribed ∧ bd.messageTypes = x.binding.messageTypes ∧
    b.entity? i = some (x.setBinding bd)

theorem AttachedFrom.start {b₀ : Bridge} (ho : (b₀.link.isOpen && b₀.link.receiving) = true) :
    AttachedFrom b₀ b₀ 0 where
  size := rfl
  isOpen := ho
  sent := by simp
  later _ _ := rfl
  earlier _ _ _ hi := absurd hi (Nat.not_lt_zero _)

/-- Attaching the next entity, still fresh, keeps the link open and attaches one entity more. -/
theorem AttachedFrom.attach {b₀ b : Bridge} {k : Nat} (ha : AttachedFrom b₀ b k)
    (hfresh : ∀ i x, b₀.entity? i = some x →
      x.binding.linked = true ∧ x.binding.lifecycle = .uninitialized)
    (hk : k < b₀.entities.size) :
    (b.attach k).2 = .ok () ∧ AttachedFrom b₀ (b.attach k).1 (k + 1) := by
  obtain ⟨x, hx₀⟩ : ∃ x, b₀.entity? k = some x := ⟨_, Array.getElem?_eq_getElem hk⟩
  have hx : b.entity? k = some x := (ha.later k (Nat.le_refl k)).trans hx₀
  obtain ⟨hl, hc⟩ := hfresh k x hx₀
  obtain ⟨bd, H, hid, hsub, htypes, heq⟩ := attach_of_fresh_open hx hl hc ha.isOpen
  rw [heq]
  set L : Link Nat := { b.link with hub := H, sent := b.link.sent ++ x.attachQueries.map .query }
  have hx' : ({ b with link := L } : Bridge).entity? k = some x := hx
  refine ⟨rfl, ⟨?_, ha.isOpen, ?_, ?_, ?_⟩⟩
  · rw [size_setEntity]
    exact ha.size
  · -- the queries of entity `k` follow those of the entities before it
    show b.link.sent ++ x.attachQueries.map .query = _
    have htake : b₀.entities.toList.take (k + 1) = b₀.entities.toList.take k ++ [x] := by
      rw [List.take_add_one, Array.getElem?_toList]
      exact congrArg _ (congrArg Option.toList hx₀)
    rw [ha.sent, htake, List.flatMap_append, List.flatMap_singleton, List.append_assoc]
  · intro i hi
    rw [entity?_setEntity_of_ne (by omega)]
    exact ha.later i (by omega)
  · intro i y hy hi
    by_cases hki : k = i
    · subst hki
      rw [hx₀] at hy
      cases hy
      exact ⟨bd, hid, hsub, htypes, entity?_setEntity_self hx' _⟩
    · obtain ⟨bd', h1, h2, h3, h4⟩ := ha.earlier i y hy (by omega)
      exact ⟨bd', h1, h2, h3, (entity?_setEntity_of_ne hki _).trans h4⟩

theorem attachEach_append (b : Bridge) (is : List Nat) (i : Nat) :
    b.attachEach (is ++ [i]) = (((b.attachEach is).1.attach i).1,
      (b.attachEach is).2.andThen ((b.attachEach is).1.attach i).2) := by
  unfold attachEach
  rw [List.foldl_append]
  rfl

/-- Attaching the first `k` entities of a bridge whose entities are all fresh, on an open link,
refuses nothing and attaches them in place order. -/
theorem attachedFrom_attachEach {b₀ : Bridge}
    (hfresh : ∀ i x, b₀.entity? i = some x →
      x.binding.linked = true ∧ x.binding.lifecycle = .uninitialized)
    (ho : (b₀.link.isOpen && b₀.link.receiving) = true) :
    ∀ k ≤ b₀.entities.size, (b₀.attachEach (List.range k)).2 = .ok () ∧
      AttachedFrom b₀ (b₀.attachEach (List.range k)).1 k := by
  intro k
  induction k with
  | zero => exact fun _ => ⟨rfl, AttachedFrom.start ho⟩
  | succ k ih =>
    intro hk
    obtain ⟨hok, ha⟩ := ih (by omega)
    obtain ⟨hok', ha'⟩ := ha.attach hfresh (by omega)
    rw [List.range_succ, attachEach_append, hok, hok']
    exact ⟨rfl, ha'⟩

/-- Attaching every entity of a bridge whose entities are all fresh, on an open link, refuses
nothing and attaches them all. -/
theorem attachedFrom_attachAll {b₀ : Bridge}
    (hfresh : ∀ i x, b₀.entity? i = some x →
      x.binding.linked = true ∧ x.binding.lifecycle = .uninitialized)
    (ho : (b₀.link.isOpen && b₀.link.receiving) = true) :
    b₀.attachAll.2 = .ok () ∧ AttachedFrom b₀ b₀.attachAll.1 b₀.entities.size :=
  attachedFrom_attachEach hfresh ho _ (Nat.le_refl _)

section Attached

variable {b₀ b : Bridge} {k : Nat}

/-- Each entity is either as it was, or attached under its own id and types. -/
theorem AttachedFrom.entity?_eq (ha : AttachedFrom b₀ b k) (i : Nat) :
    b.entity? i = b₀.entity? i ∨ ∃ x bd, b₀.entity? i = some x ∧ bd.id = x.binding.id ∧
      bd.messageTypes = x.binding.messageTypes ∧ b.entity? i = some (x.setBinding bd) := by
  by_cases hi : k ≤ i
  · exact .inl (ha.later i hi)
  · cases hx : b₀.entity? i with
    | none =>
      -- past the last entity of both bridges
      have hsize : b₀.entities.size ≤ i := by simpa [entity?] using hx
      exact .inl (by simpa [entity?, ha.size] using hsize)
    | some x =>
      obtain ⟨bd, hid, -, htypes, hb⟩ := ha.earlier i x hx (by omega)
      exact .inr ⟨x, bd, rfl, hid, htypes, hb⟩

/-- Attaching keeps who subscribes to what. -/
theorem AttachedFrom.subscribes_eq (ha : AttachedFrom b₀ b k) (m : MessageType) :
    b.subscribes m = b₀.subscribes m := by
  funext i
  rcases ha.entity?_eq i with h | ⟨x, bd, hx, -, htypes, hb⟩
  · rw [Bridge.subscribes, Bridge.subscribes, h]
  · simp [Bridge.subscribes, hx, hb, htypes]

/-- Attaching keeps every entity's id. -/
theorem AttachedFrom.ids_eq (ha : AttachedFrom b₀ b k) :
    b.entities.toList.map Entity.id = b₀.entities.toList.map Entity.id := by
  apply List.ext_getElem?
  intro i
  rw [List.getElem?_map, List.getElem?_map, Array.getElem?_toList, Array.getElem?_toList]
  change (b.entity? i).map Entity.id = (b₀.entity? i).map Entity.id
  rcases ha.entity?_eq i with h | ⟨x, bd, hx, hid, -, hb⟩
  · rw [h]
  · simp [hx, hb, Entity.id, hid]

/-- Once every entity is attached, every entity has subscribed. -/
theorem AttachedFrom.subscribed (ha : AttachedFrom b₀ b b₀.entities.size) :
    ∀ x ∈ b.entities.toList, x.binding.lifecycle = .subscribed := by
  intro x hx
  obtain ⟨i, hb⟩ := exists_entity?_of_mem hx
  have hlt : i < b₀.entities.size := ha.size ▸ lt_of_entity? hb
  obtain ⟨bd, -, hsub, -, hb'⟩ := ha.earlier i _ (Array.getElem?_eq_getElem hlt) hlt
  rw [hb] at hb'
  cases hb'
  simpa using hsub

theorem subscriberCount_eq (l : Link Nat) (m : MessageType) :
    l.subscriberCount m = (l.hub.subscribers m).length := by
  simp [Link.subscriberCount, Hub.count, Hub.subscribers]

/-- Once every entity of a fresh bridge is attached, each type has as many subscribers as there
are entities listing it. -/
theorem AttachedFrom.subscriberCount (hs : b₀.Serving 0) (ha : AttachedFrom b₀ b₀.attachAll.1 k)
    (m : MessageType) :
    b₀.attachAll.1.link.subscriberCount m =
      b₀.entities.toList.countP fun x => x.binding.messageTypes.contains m := by
  rw [subscriberCount_eq, hs.attachAll.subscribers m, ha.subscribes_eq, ha.size]
  exact length_subscribedTo b₀ m

end Attached

/-- Building the bridge of a configuration fails exactly when checking the configuration fails.
A built bridge has one zone player per zone, then one loudness switch per zone, then the seven
dials of each zone, then one gain per source, each block in the order of its map; every entity
is about a zone or source within the model's counts, and no two share a unique id. Attaching
every entity refuses nothing: every entity keeps its id and has subscribed, the link has sent
each entity's queries in place order (each entity asks for the types it listens to, about its
own zone or source), and each message type has as many subscribers as the entities listing it:
one per zone for zone status and zone configuration, five per zone for the equalizer, four per
zone for the volume configuration and one per source for the source configuration. -/
theorem built_entities_attach_in_order (c : Config) (hc : c.Ordered) :
    (∀ e, ofConfig c = .error e ↔ c.validate = .error e) ∧
    ∀ b, ofConfig c = .ok b →
      ModelSpec.lookup c.model = some b.model ∧
      b.entities.size = 9 * c.effectiveZones.length + c.effectiveSources.length ∧
      (∀ k z nm, c.effectiveZones[k]? = some (z, nm) →
        b.entity? k =
          some (.ofPlayer (c.entryId.getD "") b.model z nm ⟨c.effectiveSources⟩ c.volumeStep) ∧
        b.entity? (c.effectiveZones.length + k) =
          some (.ofLoudness (c.entryId.getD "") b.model z nm) ∧
        ∀ j d, Dial.zoneDials[j]? = some d →
          b.entity? (2 * c.effectiveZones.length + 7 * k + j) =
            some (.ofDial (c.entryId.getD "") b.model z nm d)) ∧
      (∀ k s nm, c.effectiveSources[k]? = some (s, nm) →
        b.entity? (9 * c.effectiveZones.length + k) =
          some (.ofDial (c.entryId.getD "") b.model s nm .gain)) ∧
      (∀ x ∈ b.entities.toList, 1 ≤ x.id.target.id.toNat ∧
        x.id.target.id.toNat ≤ b.model.count x.id.target.kind) ∧
      (b.entities.toList.map Entity.uniqueId).Nodup ∧
      (∀ x ∈ b.entities.toList,
        x.attachQueries = x.binding.messageTypes.map fun m => ⟨m, x.id.target.id⟩) ∧
      b.attachAll.2 = .ok () ∧
      b.attachAll.1.entities.toList.map Entity.id = b.entities.toList.map Entity.id ∧
      (∀ x ∈ b.attachAll.1.entities.toList, x.binding.lifecycle = .subscribed) ∧
      b.attachAll.1.link.sent = b.entities.toList.flatMap (fun x => x.attachQueries.map .query) ∧
      b.attachAll.1.link.subscriberCount .zoneStatus = c.effectiveZones.length ∧
      b.attachAll.1.link.subscriberCount .zoneConfiguration = c.effectiveZones.length ∧
      b.attachAll.1.link.subscriberCount .zoneEqStatus = 5 * c.effectiveZones.length ∧
      b.attachAll.1.link.subscriberCount .zoneVolumeConfiguration = 4 * c.effectiveZones.length ∧
      b.attachAll.1.link.subscriberCount .sourceConfiguration = c.effectiveSources.length := by
  refine ⟨fun e => ofConfig_eq_error_iff, fun b hb => ?_⟩
  obtain ⟨hv, model, hm, rfl⟩ := eq_build_of_ofConfig hb
  obtain ⟨m, hm', hz, hs⟩ := Config.inRange_of_validate hv
  cases hm.symm.trans hm'
  have hserving := @serving_build (c.entryId.getD "") _
    (ModelSpec.usable_of_lookup (Config.lookup_of_modelSpec hm)) c.effectiveZones
    c.effectiveSources c.volumeStep
  -- every entity starts fresh, on the open link of a new bridge
  obtain ⟨hok, ha⟩ := attachedFrom_attachAll (fun i x h => hserving.fresh i x h (Nat.zero_le i)) rfl
  refine ⟨Config.lookup_of_modelSpec hm, size_build, fun k z nm hk =>
    ⟨entity?_build_player hk, entity?_build_switch hk, fun j d hj => entity?_build_zoneDial hk hj⟩,
    fun k s nm hk => entity?_build_gain hk, ?_, nodup_uniqueIds_build hc.1 hc.2,
    fun x hx => attachQueries_build hx, hok, ha.ids_eq, ha.subscribed, ?_, ?_⟩
  · intro x hx
    rcases (mem_ids_build hx).2 with ⟨hk, hid⟩ | ⟨hk, hid⟩
    · obtain ⟨p, hp, hpid⟩ := List.mem_map.1 hid
      rw [hk, ← hpid]
      exact hz p hp
    · obtain ⟨p, hp, hpid⟩ := List.mem_map.1 hid
      rw [hk, ← hpid]
      exact hs p hp
  · rw [ha.sent, List.take_of_length_le (by simp)]
    rfl
  · simp only [ha.subscriberCount hserving, countP_build]
    -- per zone: three types of the player, one of the switch, one of each dial
    simp [Dial.zoneDials, Dial.sourceDials, Dial.messageType]
    exact ⟨Nat.mul_comm _ _, Nat.mul_comm _ _⟩

theorem built_entities_attach_in_order_two_zones :
    let c : Config :=
      { port := "/dev/ttyUSB0", model := "Grand_Concerto", zones := [(1, "Kitchen"), (2, "Den")]
        sources := [(1, "Radio")] }
    c.Ordered ∧
    (∀ e, ofConfig c = .error e ↔ c.validate = .error e) ∧
    ∀ b, ofConfig c = .ok b →
      ModelSpec.lookup c.model = some b.model ∧
      b.entities.size = 9 * c.effectiveZones.length + c.effectiveSources.length ∧
      (∀ k z nm, c.effectiveZones[k]? = some (z, nm) →
        b.entity? k =
          some (.ofPlayer (c.entryId.getD "") b.model z nm ⟨c.effectiveSources⟩ c.volumeStep) ∧
        b.entity? (c.effectiveZones.length + k) =
          some (.ofLoudness (c.entryId.getD "") b.model z nm) ∧
        ∀ j d, Dial.zoneDials[j]? = some d →
          b.entity? (2 * c.effectiveZones.length + 7 * k + j) =
            some (.ofDial (c.entryId.getD "") b.model z nm d)) ∧
      (∀ k s nm, c.effectiveSources[k]? = some (s, nm) →
        b.entity? (9 * c.effectiveZones.length + k) =
          some (.ofDial (c.entryId.getD "") b.model s nm .gain)) ∧
      (∀ x ∈ b.entities.toList, 1 ≤ x.id.target.id.toNat ∧
        x.id.target.id.toNat ≤ b.model.count x.id.target.kind) ∧
      (b.entities.toList.map Entity.uniqueId).Nodup ∧
      (∀ x ∈ b.entities.toList,
        x.attachQueries = x.binding.messageTypes.map fun m => ⟨m, x.id.target.id⟩) ∧
      b.attachAll.2 = .ok () ∧
      b.attachAll.1.entities.toList.map Entity.id = b.entities.toList.map Entity.id ∧
      (∀ x ∈ b.attachAll.1.entities.toList, x.binding.lifecycle = .subscribed) ∧
      b.attachAll.1.link.sent = b.entities.toList.flatMap (fun x => x.attachQueries.map .query) ∧
      b.attachAll.1.link.subscriberCount .zoneStatus = c.effectiveZones.length ∧
      b.attachAll.1.link.subscriberCount .zoneConfiguration = c.effectiveZones.length ∧
      b.attachAll.1.link.subscriberCount .zoneEqStatus = 5 * c.effectiveZones.length ∧
      b.attachAll.1.link.subscriberCount .zoneVolumeConfiguration = 4 * c.effectiveZones.length ∧
      b.attachAll.1.link.subscriberCount .sourceConfiguration = c.effectiveSources.length := by
  intro c
  have hc : c.Ordered := by decide
  exact ⟨hc, built_entities_attach_in_order c hc⟩

end Bridge

end ZoneBridge
