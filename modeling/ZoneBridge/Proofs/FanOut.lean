import ZoneBridge.Proofs.Readers
import ZoneBridge.Proofs.Lifecycle

/-!
# One pushed message, many entities

The bridge hands a pushed message to every subscriber of its type, in the order they
subscribed; each entity then takes it in, passes it by as foreign, or drops it. This file follows
one message through a bridge whose entities are all attached.

`Bridge.Serving` says what such a bridge keeps: the hub's subscribers of each type are the places
of the entities that list the type, in place order; every entity holds the link and has
subscribed; every entity reads the events it subscribes to (`Entity.Reads`); and an event whose
values the model's conversions handle in 32 bits is one every entity's conversions handle.
Building the bridge of a checked configuration and attaching every entity gives it, and every
delivery keeps it. On such a bridge an event goes exactly to the entities of its type; those
about the event's zone or source take it in and signal one refresh each, and the others pass it
by unchanged. A payload that does not read is dropped by every entity of its type.

Main statement: `Bridge.push_applied_by_its_targets`.
-/

namespace ZoneBridge

namespace Entity

variable (x : Entity) (n : Notification)

/-- Handing a message over keeps the entity's identity and subscriptions, and it stays attached. -/
theorem handle_binding :
    (x.handle n).2.binding.id = x.binding.id ∧
    (x.handle n).2.binding.messageTypes = x.binding.messageTypes ∧
    (x.binding.Attached → (x.handle n).2.binding.Attached) := by
  rcases x.handle_cases n with ⟨-, _, _, -, -, -, hh⟩ | ⟨-, hh⟩
  · rw [hh, binding_setBinding]
    exact ⟨rfl, rfl, fun ⟨hl, _⟩ => ⟨hl, by simp⟩⟩
  · rw [hh]
    exact ⟨rfl, rfl, fun h => h⟩

@[simp] theorem id_handle : (x.handle n).2.id = x.id := (x.handle_binding n).1

theorem Reads.handle {x : Entity} (hx : x.Reads) (n : Notification) : (x.handle n).2.Reads := by
  rcases x.handle_cases n with ⟨-, ev, e', -, -, ha, hh⟩ | ⟨-, hh⟩
  · obtain ⟨he', hb⟩ := hx.apply ha
    rw [hh]
    exact he'.setBinding (by rw [hb])
  · rwa [hh]

/-- What an entity's conversions handle is kept through a handed message. -/
theorem converts_handle (x : Entity) (n : Notification) : (x.handle n).2.Converts = x.Converts := by
  rcases x.handle_cases n with ⟨-, _, _, -, -, ha, hh⟩ | ⟨-, hh⟩
  · rw [hh, converts_setBinding, converts_of_apply ha]
  · rw [hh]

/-- An attached entity drops a payload that does not read, and stays as it was. -/
theorem handle_malformed {x : Entity} (hx : x.binding.Attached) {n : Notification} {err : EventFault}
    (he : n.event = .error err) : x.handle n = (.malformed, x) := by
  obtain ⟨hl, hc⟩ := hx
  have hbind : ∀ {τ : Type} [Tracker τ] (b : Binding) (t : τ), b.linked = true →
      b.lifecycle ≠ .uninitialized → b.handle t n = (.malformed, b, t) := by
    intro τ _ b t hl hc
    simp [Binding.handle, hl, hc, he]
  cases x with
  | player b | loudness b | dial b => simp [handle, hbind b.binding b.tracked hl hc]

/-- An attached entity passes by an event about another zone or source, and stays as it was. -/
theorem handle_foreign {x : Entity} (hx : x.binding.Attached) {n : Notification} {ev : DeviceEvent}
    (he : n.event = .ok ev) (ho : ev.origin ≠ x.id.target) : x.handle n = (.foreign, x) := by
  obtain ⟨hl, hc⟩ := hx
  have hbind : ∀ {τ : Type} [Tracker τ] (b : Binding) (t : τ), b.linked = true →
      b.lifecycle ≠ .uninitialized → ev.origin ≠ b.id.target → b.handle t n = (.foreign, b, t) := by
    intro τ _ b t hl hc ho
    simp [Binding.handle, hl, hc, he, ho]
  cases x with
  | player b | loudness b | dial b => simp [handle, hbind b.binding b.tracked hl hc ho]

/-- An attached entity takes in an event about its own zone or source that its tracker can use. -/
theorem handle_of_apply {x x' : Entity} (hx : x.binding.Attached) {n : Notification}
    {ev : DeviceEvent} (he : n.event = .ok ev) (ho : ev.origin = x.id.target)
    (ha : x.apply ev = .ok x') :
    x.handle n = (.applied, x'.setBinding { x.binding with available := true, lifecycle := .live }) := by
  rcases x.handle_cases n with ⟨-, ev₀, x₀, he₀, -, ha₀, hh⟩ | ⟨hne, -⟩
  · obtain rfl : ev₀ = ev := Except.ok.inj (he₀.symm.trans he)
    obtain rfl : x₀ = x' := Except.ok.inj (ha₀.symm.trans ha)
    exact hh
  · exact absurd ((x.handle_applied_iff n).2 ⟨hx, ev, x', he, ho, ha⟩) hne

end Entity

/-- The overflow a delivery stopped at, if it panicked. -/
def Delivery.overflow? : Delivery → Option Overflow
  | .panicked o => some o
  | _ => none

namespace Bridge

variable {b : Bridge} {i j : Nat} {x : Entity}

@[simp] theorem size_setEntity (b : Bridge) (i : Nat) (y : Entity) :
    (b.setEntity i y).entities.size = b.entities.size := by
  simp [setEntity]

theorem entity?_setEntity (b : Bridge) (i j : Nat) (y : Entity) :
    (b.setEntity i y).entity? j = if i = j ∧ i < b.entities.size then some y else b.entity? j := by
  simp only [setEntity, entity?, Array.getElem?_setIfInBounds]
  by_cases hij : i = j
  · subst hij
    by_cases hi : i < b.entities.size <;> simp [hi]
  · simp [hij]

theorem entity?_setEntity_self (h : b.entity? i = some x) (y : Entity) :
    (b.setEntity i y).entity? i = some y := by
  have hi : i < b.entities.size := (Array.getElem?_eq_some_iff.1 h).1
  simp [entity?_setEntity, hi]

theorem entity?_setEntity_of_ne (h : i ≠ j) (y : Entity) :
    (b.setEntity i y).entity? j = b.entity? j := by
  simp [entity?_setEntity, h]

theorem lt_of_entity? (h : b.entity? i = some x) : i < b.entities.size :=
  (Array.getElem?_eq_some_iff.1 h).1

/-- Handing a message to the entity at a place puts what it made of the message there, signals
a refresh with its identity when it took the message in, and records a panic. -/
theorem handleAt_of_entity (h : b.entity? i = some x) (n : Notification) :
    b.handleAt n i =
      { b.setEntity i (x.handle n).2 with
        refresh := if (x.handle n).1 = .applied then b.refresh.send x.id else b.refresh
        panicked := b.panicked.or (x.handle n).1.overflow? } := by
  unfold handleAt
  rw [h]
  cases hd : (x.handle n).1 <;> simp [hd, setEntity, Delivery.overflow?]

theorem handleAt_of_none (h : b.entity? i = none) (n : Notification) : b.handleAt n i = b := by
  simp [handleAt, h]

@[simp] theorem size_handleAt (b : Bridge) (n : Notification) (i : Nat) :
    (b.handleAt n i).entities.size = b.entities.size := by
  cases h : b.entity? i with
  | none => rw [handleAt_of_none h]
  | some x => rw [handleAt_of_entity h]; exact size_setEntity b i _

theorem link_handleAt (b : Bridge) (n : Notification) (i : Nat) : (b.handleAt n i).link = b.link := by
  cases h : b.entity? i with
  | none => rw [handleAt_of_none h]
  | some x => rw [handleAt_of_entity h]; rfl

theorem model_handleAt (b : Bridge) (n : Notification) (i : Nat) :
    (b.handleAt n i).model = b.model := by
  cases h : b.entity? i with
  | none => rw [handleAt_of_none h]
  | some x => rw [handleAt_of_entity h]; rfl

theorem entity?_handleAt (b : Bridge) (n : Notification) (i j : Nat) :
    (b.handleAt n i).entity? j = if i = j then (b.entity? j).map (·.handle n |>.2) else b.entity? j := by
  cases h : b.entity? i with
  | none =>
    rw [handleAt_of_none h]
    by_cases hij : i = j
    · subst hij; simp [h]
    · simp [hij]
  | some x =>
    rw [handleAt_of_entity h]
    by_cases hij : i = j
    · subst hij
      simp only [if_true, h, Option.map_some]
      exact entity?_setEntity_self h _
    · simp only [hij, if_false]
      exact entity?_setEntity_of_ne hij _

/-- The refresh an entity signals when handed a message: its identity, if it took the message
in. -/
def refreshOf (n : Notification) (x : Entity) : Option EntityId :=
  if (x.handle n).1 = .applied then some x.id else none

theorem refresh_handleAt (b : Bridge) (n : Notification) (i : Nat) :
    (b.handleAt n i).refresh = (((b.entity? i).bind (refreshOf n)).toList).foldl Broadcast.send b.refresh := by
  cases h : b.entity? i with
  | none => rw [handleAt_of_none h]; rfl
  | some x =>
    rw [handleAt_of_entity h]
    by_cases ha : (x.handle n).1 = .applied <;> simp [ha, refreshOf]

/-- Handing a message to the entities at distinct places, in turn: each gets it once, as it was
before, and the others are untouched. -/
theorem entity?_handleAll (n : Notification) (is : List Nat) (hnd : is.Nodup) (b : Bridge)
    (j : Nat) :
    (is.foldl (fun b i => b.handleAt n i) b).entity? j =
      if j ∈ is then (b.entity? j).map (·.handle n |>.2) else b.entity? j := by
  induction is generalizing b with
  | nil => simp
  | cons i rest ih =>
    rw [List.nodup_cons] at hnd
    rw [List.foldl_cons, ih hnd.2, entity?_handleAt]
    by_cases hij : i = j
    · subst hij
      simp [hnd.1]
    · by_cases hj : j ∈ rest
      · simp [hij, hj]
      · simp [hij, hj, Ne.symm hij]

/-- The refreshes of those handings are signalled in their order. -/
theorem refresh_handleAll (n : Notification) (is : List Nat) (hnd : is.Nodup) (b : Bridge) :
    (is.foldl (fun b i => b.handleAt n i) b).refresh =
      (is.filterMap fun i => (b.entity? i).bind (refreshOf n)).foldl Broadcast.send b.refresh := by
  induction is generalizing b with
  | nil => rfl
  | cons i rest ih =>
    rw [List.nodup_cons] at hnd
    -- the later places see the entities as they were: only place `i` changed
    have hrest : (rest.filterMap fun j => ((b.handleAt n i).entity? j).bind (refreshOf n)) =
        rest.filterMap fun j => (b.entity? j).bind (refreshOf n) := by
      refine List.filterMap_congr fun j hj => ?_
      have hij : i ≠ j := fun h => hnd.1 (h ▸ hj)
      simp [entity?_handleAt, hij]
    rw [List.foldl_cons, ih hnd.2, hrest, refresh_handleAt, List.filterMap_cons]
    cases (b.entity? i).bind (refreshOf n) <;> rfl

theorem size_handleAll (n : Notification) (is : List Nat) (b : Bridge) :
    (is.foldl (fun b i => b.handleAt n i) b).entities.size = b.entities.size := by
  induction is generalizing b with
  | nil => rfl
  | cons i rest ih => rw [List.foldl_cons, ih, size_handleAt]

theorem link_handleAll (n : Notification) (is : List Nat) (b : Bridge) :
    (is.foldl (fun b i => b.handleAt n i) b).link = b.link := by
  induction is generalizing b with
  | nil => rfl
  | cons i rest ih => rw [List.foldl_cons, ih, link_handleAt]

theorem model_handleAll (n : Notification) (is : List Nat) (b : Bridge) :
    (is.foldl (fun b i => b.handleAt n i) b).model = b.model := by
  induction is generalizing b with
  | nil => rfl
  | cons i rest ih => rw [List.foldl_cons, ih, model_handleAt]

/-- Handings at distinct places in which no entity panics record no panic. -/
theorem panicked_handleAll (n : Notification) (is : List Nat) (hnd : is.Nodup) (b : Bridge)
    (hnp : ∀ i ∈ is, ∀ x, b.entity? i = some x → (x.handle n).1.overflow? = none) :
    (is.foldl (fun b i => b.handleAt n i) b).panicked = b.panicked := by
  induction is generalizing b with
  | nil => rfl
  | cons i rest ih =>
    rw [List.nodup_cons] at hnd
    rw [List.foldl_cons, ih hnd.2]
    · cases h : b.entity? i with
      | none => rw [handleAt_of_none h]
      | some x => simp [handleAt_of_entity h, hnp i (by simp) x h]
    · -- the later places see the entities as they were: only place `i` changed
      intro j hj y hy
      have hij : i ≠ j := fun h => hnd.1 (h ▸ hj)
      rw [entity?_handleAt, if_neg hij] at hy
      exact hnp j (by simp [hj]) y hy

end Bridge

namespace Link

variable {σ : Type} (l : Link σ)

theorem hub_enqueueAll (rs : List Request) : (l.enqueueAll rs).1.hub = l.hub := by
  induction rs generalizing l with
  | nil => rfl
  | cons r rest ih =>
    unfold enqueueAll
    split
    · rename_i l' hl
      rw [ih]
      unfold enqueue at hl
      split at hl
      · cases hl
        rfl
      · cases hl
    · rfl

/-- Taking a pushed message in leaves the subscriptions alone, and calls the subscribers of its
type. -/
theorem deliver_hub (n : Notification) :
    (l.deliver n).1.hub = l.hub ∧ (l.deliver n).2 = l.hub.subscribers n.messageType := by
  unfold deliver
  split <;> exact ⟨rfl, rfl⟩

end Link

namespace Bridge

/-- Whether the entity at a place subscribes to a message type. -/
def subscribes (b : Bridge) (m : MessageType) (i : Nat) : Bool :=
  (b.entity? i).any fun x => x.binding.messageTypes.contains m

/-- The places of the entities that subscribe to a message type, in place order. -/
def subscribedTo (b : Bridge) (m : MessageType) : List Nat :=
  (List.range b.entities.size).filter (b.subscribes m)

/-- A bridge whose first `k` entities are attached, in place order: the hub's subscribers of a
type are the places below `k` of the entities that list it, those entities hold the link and
have subscribed, the others are still fresh, every entity reads the events it subscribes to,
and every entity's conversions handle the events the model's conversions handle. -/
structure Serving (b : Bridge) (k : Nat) : Prop where
  le : k ≤ b.entities.size
  subscribers : ∀ m, b.link.hub.subscribers m = (List.range k).filter (b.subscribes m)
  attached : ∀ i x, b.entity? i = some x → i < k → x.binding.Attached
  fresh : ∀ i x, b.entity? i = some x → k ≤ i →
    x.binding.linked = true ∧ x.binding.lifecycle = .uninitialized
  reads : ∀ i x, b.entity? i = some x → x.Reads
  converts : ∀ i x, b.entity? i = some x → ∀ ev, ev.InRange b.model → x.Converts ev

/-! ### Building -/

/-- Every entity of a bridge is the zone player or loudness switch of one of its zones, or a dial
of a zone or a source. -/
theorem entity?_build {entry : String} {model : ModelSpec} {zones sources : IdMap} {vs : Int}
    {i : Nat} {x : Entity} (h : (build entry model zones sources vs).entity? i = some x) :
    (∃ z nm, (z, nm) ∈ zones ∧ x = .ofPlayer entry model z nm ⟨sources⟩ vs) ∨
    (∃ z nm, (z, nm) ∈ zones ∧ x = .ofLoudness entry model z nm) ∨
    ∃ id nm d, ((id, nm) ∈ zones ∧ d ∈ Dial.zoneDials ∨ (id, nm) ∈ sources ∧ d ∈ Dial.sourceDials) ∧
      x = .ofDial entry model id nm d := by
  have hmem : x ∈ _ := List.mem_of_getElem? (by simpa [entity?, build] using h)
  simp only [List.mem_append, List.mem_map, List.mem_flatMap, Prod.exists] at hmem
  rcases hmem with ⟨z, nm, hz, rfl⟩ | ⟨z, nm, hz, rfl⟩ | ⟨z, nm, hz, d, hd, rfl⟩ |
    ⟨s, nm, hs, d, hd, rfl⟩
  · exact .inl ⟨z, nm, hz, rfl⟩
  · exact .inr (.inl ⟨z, nm, hz, rfl⟩)
  · exact .inr (.inr ⟨z, nm, d, .inl ⟨hz, hd⟩, rfl⟩)
  · exact .inr (.inr ⟨s, nm, d, .inr ⟨hs, hd⟩, rfl⟩)

theorem serving_build {entry : String} {model : ModelSpec} (hm : model.Usable) (zones sources : IdMap)
    (vs : Int) : (build entry model zones sources vs).Serving 0 where
  le := Nat.zero_le _
  subscribers _ := rfl
  attached _ _ _ hi := absurd hi (Nat.not_lt_zero _)
  fresh i x h _ := by
    rcases entity?_build h with ⟨z, nm, -, rfl⟩ | ⟨z, nm, -, rfl⟩ | ⟨id, nm, d, -, rfl⟩ <;>
      exact ⟨rfl, rfl⟩
  reads i x h := by
    rcases entity?_build h with ⟨z, nm, -, rfl⟩ | ⟨z, nm, -, rfl⟩ | ⟨id, nm, d, -, rfl⟩
    · exact ⟨rfl, hm⟩
    · exact ⟨rfl, trivial⟩
    · exact ⟨rfl, hm.scale d.controlKind⟩
  converts i x h ev hr := by
    -- the players convert on the bridge's model, and a dial only negates
    rcases entity?_build h with ⟨z, nm, -, rfl⟩ | ⟨z, nm, -, rfl⟩ | ⟨id, nm, d, -, rfl⟩
    · exact hr
    · trivial
    · exact hr.negates

/-- The bridge of a checked configuration is built for a known model. -/
theorem ofConfig_eq_ok {c : Config} {b : Bridge} (h : ofConfig c = .ok b) :
    ∃ model : ModelSpec, model.Usable ∧
      b = build (c.entryId.getD "") model c.effectiveZones c.effectiveSources c.volumeStep := by
  obtain ⟨_, -, h⟩ := bind_eq_ok h
  obtain ⟨model, hm, h⟩ := bind_eq_ok h
  refine ⟨model, ?_, (Except.ok.inj h).symm⟩
  unfold Config.modelSpec at hm
  split at hm
  · cases hm
    exact ModelSpec.usable_of_lookup ‹_›
  · cases hm

/-! ### Attaching -/

/-- The types a list without repeats holds once each: `who` joins a type's subscribers once if
the type is listed. -/
theorem map_filter_beq_of_nodup {α : Type} {ms : List MessageType} (hnd : ms.Nodup)
    (m : MessageType) (who : α) :
    (ms.filter (· == m)).map (fun _ => who) = if ms.contains m then [who] else [] := by
  rw [List.filter_beq, List.map_replicate]
  by_cases hm : m ∈ ms
  · simp [List.count_eq_one_of_mem hnd hm, hm]
  · simp [List.count_eq_zero_of_not_mem hm, hm]

/-- Attaching a fresh entity subscribes it to its types under its place, leaves it attached
with the same types, and changes nothing else but the link. -/
theorem attach_of_fresh {b : Bridge} {k : Nat} {x : Entity} (h : b.entity? k = some x)
    (hl : x.binding.linked = true) (hc : x.binding.lifecycle = .uninitialized) :
    ∃ (bd : Binding) (L : Link Nat), bd.messageTypes = x.binding.messageTypes ∧ bd.Attached ∧
      L.hub = (Binding.subscribeAll b.link k x.binding.messageTypes).1.hub ∧
      (b.attach k).1 = ({ b with link := L } : Bridge).setEntity k (x.setBinding bd) := by
  refine ⟨{ x.binding with
      lifecycle := .subscribed
      subscriptions := x.binding.subscriptions ++
        (Binding.subscribeAll b.link k x.binding.messageTypes).2 },
    _, rfl, ⟨hl, by simp⟩, Link.hub_enqueueAll _ (x.attachQueries.map .query), ?_⟩
  unfold attach
  simp only [h, Binding.attach_of_new _ _ _ hl hc]

theorem size_attach (b : Bridge) (k : Nat) : (b.attach k).1.entities.size = b.entities.size := by
  unfold attach
  split
  · rfl
  · split
    · rfl
    · exact size_setEntity _ _ _

theorem model_attach (b : Bridge) (k : Nat) : (b.attach k).1.model = b.model := by
  unfold attach
  split
  · rfl
  · split <;> rfl

theorem size_attachFold (is : List Nat) (b : Bridge) :
    (is.foldl (fun b i => (b.attach i).1) b).entities.size = b.entities.size := by
  induction is generalizing b with
  | nil => rfl
  | cons i rest ih => rw [List.foldl_cons, ih, size_attach]

theorem model_attachFold (is : List Nat) (b : Bridge) :
    (is.foldl (fun b i => (b.attach i).1) b).model = b.model := by
  induction is generalizing b with
  | nil => rfl
  | cons i rest ih => rw [List.foldl_cons, ih, model_attach]

/-- Replacing an entity by one with the same types keeps who subscribes to what. -/
theorem subscribes_setEntity {b : Bridge} {k : Nat} {x y : Entity} (h : b.entity? k = some x)
    (hy : y.binding.messageTypes = x.binding.messageTypes) (m : MessageType) :
    (b.setEntity k y).subscribes m = b.subscribes m := by
  funext i
  by_cases hki : k = i
  · subst hki
    rw [subscribes, subscribes, entity?_setEntity_self h, h]
    simp [hy]
  · rw [subscribes, subscribes, entity?_setEntity_of_ne hki]

/-- Attaching the first entity not yet attached keeps the bridge serving, one entity further. -/
theorem Serving.attach {b : Bridge} {k : Nat} (hs : b.Serving k) (hk : k < b.entities.size) :
    (b.attach k).1.Serving (k + 1) := by
  obtain ⟨x, hx⟩ : ∃ x, b.entity? k = some x := ⟨_, Array.getElem?_eq_getElem hk⟩
  obtain ⟨hl, hc⟩ := hs.fresh k x hx (Nat.le_refl k)
  obtain ⟨bd, L, hbt, hba, hL, heq⟩ := attach_of_fresh hx hl hc
  rw [heq]
  have hx' : ({ b with link := L } : Bridge).entity? k = some x := hx
  have hsub : ∀ m, (({ b with link := L } : Bridge).setEntity k (x.setBinding bd)).subscribes m =
      b.subscribes m :=
    subscribes_setEntity hx' (by rw [Entity.binding_setBinding, hbt])
  refine ⟨?_, ?_, ?_, ?_, ?_, ?_⟩
  · rw [size_setEntity]
    exact hk
  · -- the entity joins the subscribers of each of its types, after the places before it
    intro m
    rw [hsub, List.range_succ, List.filter_append]
    show L.hub.subscribers m = _
    rw [hL, Binding.subscribeAll_subscribers, hs.subscribers,
      map_filter_beq_of_nodup (hs.reads k x hx).nodup, List.filter_singleton]
    simp [subscribes, hx]
  · intro i y hy hi
    by_cases hki : k = i
    · subst hki
      rw [entity?_setEntity_self hx'] at hy
      cases hy
      rwa [Entity.binding_setBinding]
    · rw [entity?_setEntity_of_ne hki] at hy
      exact hs.attached i y hy (by omega)
  · intro i y hy hi
    rw [entity?_setEntity_of_ne (by omega)] at hy
    exact hs.fresh i y hy (by omega)
  · intro i y hy
    by_cases hki : k = i
    · subst hki
      rw [entity?_setEntity_self hx'] at hy
      cases hy
      exact (hs.reads k x hx).setBinding hbt
    · rw [entity?_setEntity_of_ne hki] at hy
      exact hs.reads i y hy
  · intro i y hy ev hr
    by_cases hki : k = i
    · subst hki
      rw [entity?_setEntity_self hx'] at hy
      cases hy
      rw [Entity.converts_setBinding]
      exact hs.converts k x hx ev hr
    · rw [entity?_setEntity_of_ne hki] at hy
      exact hs.converts i y hy ev hr

/-- Attaching at the given places, in turn, whatever each attach gives. -/
theorem attachEach_fst (b : Bridge) (is : List Nat) :
    (b.attachEach is).1 = is.foldl (fun b i => (b.attach i).1) b := by
  unfold attachEach
  -- the outcomes ride along and never change the bridges
  generalize (Except.ok () : Outcome Unit) = r
  induction is generalizing b r with
  | nil => rfl
  | cons i rest ih => exact ih _ _

theorem Serving.attachUpTo {b : Bridge} (hs : b.Serving 0) :
    ∀ k ≤ b.entities.size, ((List.range k).foldl (fun b i => (b.attach i).1) b).Serving k := by
  intro k
  induction k with
  | zero => intro _; exact hs
  | succ k ih =>
    intro hk
    rw [List.range_succ, List.foldl_append, List.foldl_cons, List.foldl_nil]
    exact (ih (by omega)).attach (by rw [size_attachFold]; omega)

/-- Attaching every entity of a freshly built bridge leaves it serving all of them. -/
theorem Serving.attachAll {b : Bridge} (hs : b.Serving 0) :
    b.attachAll.1.Serving b.attachAll.1.entities.size := by
  rw [Bridge.attachAll, attachEach_fst, size_attachFold]
  exact hs.attachUpTo b.entities.size (Nat.le_refl _)

/-! ### Delivering -/

theorem deliver_eq (b : Bridge) (n : Notification) :
    b.deliver n =
      ((b.link.hub.subscribers n.messageType).foldl (fun b i => b.handleAt n i)
        { b with link := (b.link.deliver n).1 }, (b.link.hub.subscribers n.messageType).length) := by
  rw [← (b.link.deliver_hub n).2]
  rfl

theorem mem_subscribedTo {b : Bridge} {m : MessageType} {i : Nat} {x : Entity}
    (h : b.entity? i = some x) : i ∈ b.subscribedTo m ↔ m ∈ x.binding.messageTypes := by
  simp [subscribedTo, subscribes, h, lt_of_entity? h]

/-- A bridge that differs from a serving one only by entities that were handed a message still
serves all its entities. -/
theorem Serving.of_handled {b c : Bridge} (hs : b.Serving b.entities.size)
    (hhub : c.link.hub = b.link.hub) (hsize : c.entities.size = b.entities.size)
    (hmodel : c.model = b.model) (n : Notification) (S : List Nat)
    (hc : ∀ j, c.entity? j = if j ∈ S then (b.entity? j).map (·.handle n |>.2) else b.entity? j) :
    c.Serving c.entities.size := by
  -- the entity of `c` at a place is the one of `b`, maybe handed the message
  have hof : ∀ j y, c.entity? j = some y →
      ∃ x, b.entity? j = some x ∧ (x = y ∨ (x.handle n).2 = y) := by
    intro j y hy
    rw [hc j] at hy
    split at hy
    · obtain ⟨x, hx, rfl⟩ := Option.map_eq_some_iff.1 hy
      exact ⟨x, hx, .inr rfl⟩
    · exact ⟨y, hy, .inl rfl⟩
  have hsub : ∀ m, c.subscribes m = b.subscribes m := by
    intro m
    funext j
    rw [subscribes, subscribes, hc j]
    split
    · cases b.entity? j <;> simp [(Entity.handle_binding _ n).2.1]
    · rfl
  refine ⟨le_refl _, fun m => ?_, fun i y hy _ => ?_, fun i y hy hi => ?_, fun i y hy => ?_,
    fun i y hy ev hr => ?_⟩
  · rw [hhub, hs.subscribers, hsub, hsize]
  · obtain ⟨x, hx, rfl | rfl⟩ := hof i y hy
    · exact hs.attached i x hx (lt_of_entity? hx)
    · exact (x.handle_binding n).2.2 (hs.attached i x hx (lt_of_entity? hx))
  · exact absurd (lt_of_entity? hy) (Nat.not_lt.2 hi)
  · obtain ⟨x, hx, rfl | rfl⟩ := hof i y hy
    · exact hs.reads i x hx
    · exact (hs.reads i x hx).handle n
  · rw [hmodel] at hr
    obtain ⟨x, hx, rfl | rfl⟩ := hof i y hy
    · exact hs.converts i x hx ev hr
    · rw [Entity.converts_handle]
      exact hs.converts i x hx ev hr

/-- On a serving bridge a pushed message goes to the entities that list its type, each once,
in place order. -/
theorem Serving.deliver_eq {b : Bridge} (hs : b.Serving b.entities.size) (n : Notification) :
    b.deliver n =
      ((b.subscribedTo n.messageType).foldl (fun b i => b.handleAt n i)
        { b with link := (b.link.deliver n).1 }, (b.subscribedTo n.messageType).length) := by
  rw [Bridge.deliver_eq, hs.subscribers]
  rfl

theorem nodup_subscribedTo (b : Bridge) (m : MessageType) : (b.subscribedTo m).Nodup :=
  List.nodup_range.filter _

theorem Serving.entity?_deliver {b : Bridge} (hs : b.Serving b.entities.size) (n : Notification)
    (j : Nat) :
    (b.deliver n).1.entity? j =
      if j ∈ b.subscribedTo n.messageType then (b.entity? j).map (·.handle n |>.2)
      else b.entity? j := by
  rw [hs.deliver_eq]
  exact entity?_handleAll n _ (nodup_subscribedTo b _) _ j

theorem Serving.deliver {b : Bridge} (hs : b.Serving b.entities.size) (n : Notification) :
    (b.deliver n).1.Serving (b.deliver n).1.entities.size := by
  refine hs.of_handled ?_ ?_ ?_ n _ (hs.entity?_deliver n)
  · rw [hs.deliver_eq, link_handleAll]
    exact (b.link.deliver_hub n).1
  · rw [hs.deliver_eq, size_handleAll]
  · rw [hs.deliver_eq, model_handleAll]

/-- Any number of deliveries keep a bridge serving all its entities. -/
theorem Serving.deliverAll {b : Bridge} (hs : b.Serving b.entities.size) (ps : List Notification) :
    let a := ps.foldl (fun a p => (a.deliver p).1) b
    a.Serving a.entities.size := by
  induction ps generalizing b with
  | nil => exact hs
  | cons p rest ih => exact ih (hs.deliver p)

theorem Serving.refresh_deliver {b : Bridge} (hs : b.Serving b.entities.size) (n : Notification) :
    (b.deliver n).1.refresh =
      ((b.subscribedTo n.messageType).filterMap fun i => (b.entity? i).bind (refreshOf n)).foldl
        Broadcast.send b.refresh := by
  rw [hs.deliver_eq]
  exact refresh_handleAll n _ (nodup_subscribedTo b _) _

/-- What an entity of a serving bridge does with an event of a type it lists, whose values the
model's conversions handle: it takes the event in when the event is about its own zone or
source, and passes it by otherwise. -/
theorem Serving.handle_listed {b : Bridge} (hs : b.Serving b.entities.size) {i : Nat} {x : Entity}
    (hx : b.entity? i = some x) {n : Notification} {e : DeviceEvent} (he : n.event = .ok e)
    (hr : e.InRange b.model) (hm : n.messageType ∈ x.binding.messageTypes) :
    (x.id.target = e.origin → ∃ x', x.apply e = .ok x' ∧
      x.handle n = (.applied, x'.setBinding { x.binding with available := true, lifecycle := .live })) ∧
    (x.id.target ≠ e.origin → x.handle n = (.foreign, x)) := by
  have hatt := hs.attached i x hx (lt_of_entity? hx)
  refine ⟨fun ho => ?_, fun ho => Entity.handle_foreign hatt he (Ne.symm ho)⟩
  -- the event is of the message's type, which the entity's tracker reads
  have hme : e.messageType ∈ x.binding.messageTypes := by
    rwa [Notification.messageType_of_event he]
  obtain ⟨x', hx'⟩ := Entity.apply_of_reads (hs.reads i x hx) hme (hs.converts i x hx e hr)
  exact ⟨x', hx', Entity.handle_of_apply hatt he ho.symm hx'⟩

/-- What the entities of a serving bridge do with a payload that does not read: those that list
its type drop it, and none changes. -/
theorem Serving.handle_unread {b : Bridge} (hs : b.Serving b.entities.size) {i : Nat} {x : Entity}
    (hx : b.entity? i = some x) {n : Notification} {err : EventFault} (he : n.event = .error err) :
    x.handle n = (.malformed, x) :=
  Entity.handle_malformed (hs.attached i x hx (lt_of_entity? hx)) he

theorem model_attachAll (b : Bridge) : b.attachAll.1.model = b.model := by
  rw [Bridge.attachAll, attachEach_fst, model_attachFold]

theorem model_deliver {b : Bridge} (hs : b.Serving b.entities.size) (n : Notification) :
    (b.deliver n).1.model = b.model := by
  rw [hs.deliver_eq, model_handleAll]

/-- Deliveries one after another to a serving bridge keep its model. -/
theorem model_deliverAll {b : Bridge} (hs : b.Serving b.entities.size) (ps : List Notification) :
    (ps.foldl (fun a p => (a.deliver p).1) b).model = b.model := by
  induction ps generalizing b with
  | nil => rfl
  | cons p rest ih => rw [List.foldl_cons, ih (hs.deliver p), model_deliver hs]

/-- One pushed message on the bridge of a checked configuration, with every entity attached and
after any earlier pushes. The link calls the entities that list the message's type, once each
and in place order, and no other. When the payload reads as an event whose values the model's
conversions handle in 32 bits, exactly the entities about the event's zone or source take it in:
each keeps what its tracker made of the event and signals one refresh with its own identity, in
place order. The others pass it by as foreign, every entity stays as it was unless it took the
event in, and nothing panics. When the payload does not read, every entity that lists its type
drops it, and the entities, the refreshes and the record of panics stay as they were. -/
theorem push_applied_by_its_targets {c : Config} {b : Bridge} (hb : ofConfig c = .ok b)
    (earlier : List Notification) (n : Notification) :
    let a := earlier.foldl (fun a p => (a.deliver p).1) b.attachAll.1
    (a.deliver n).2 = (a.subscribedTo n.messageType).length ∧
    (∀ e, n.event = .ok e → e.InRange b.model →
      (∀ i x, a.entity? i = some x →
        (n.messageType ∈ x.readTypes → x.id.target = e.origin →
          (x.handle n).1 = .applied ∧ ∃ x', x.apply e = .ok x' ∧
            (a.deliver n).1.entity? i =
              some (x'.setBinding { x.binding with available := true, lifecycle := .live })) ∧
        (n.messageType ∈ x.readTypes → x.id.target ≠ e.origin →
          (x.handle n).1 = .foreign ∧ (a.deliver n).1.entity? i = some x) ∧
        (n.messageType ∉ x.readTypes → (a.deliver n).1.entity? i = some x)) ∧
      (a.deliver n).1.refresh =
        ((a.subscribedTo n.messageType).filterMap fun i =>
          (a.entity? i).bind fun x => if x.id.target = e.origin then some x.id else none).foldl
          Broadcast.send a.refresh ∧
      (a.deliver n).1.panicked = a.panicked) ∧
    (∀ err, n.event = .error err →
      (∀ i x, a.entity? i = some x →
        (n.messageType ∈ x.readTypes → (x.handle n).1 = .malformed) ∧
        (a.deliver n).1.entity? i = some x) ∧
      (a.deliver n).1.refresh = a.refresh ∧ (a.deliver n).1.panicked = a.panicked) := by
  intro a
  obtain ⟨model, hm, rfl⟩ := ofConfig_eq_ok hb
  have hs : a.Serving a.entities.size := ((serving_build hm _ _ _).attachAll).deliverAll earlier
  -- the model stays that of the built bridge through attaching and delivering
  have hmodel : a.model = model := by
    rw [model_deliverAll (serving_build hm _ _ _).attachAll earlier, model_attachAll]
    rfl
  -- every entity lists exactly the types its kind reads
  have htypes : ∀ i x, a.entity? i = some x → x.binding.messageTypes = x.readTypes :=
    fun i x hx => (hs.reads i x hx).types
  have hent : ∀ i x, a.entity? i = some x → (a.deliver n).1.entity? i =
      if n.messageType ∈ x.readTypes then some (x.handle n).2 else some x := by
    intro i x hx
    have h := hs.entity?_deliver n i
    simpa only [mem_subscribedTo hx, hx, htypes i x hx, Option.map_some] using h
  refine ⟨by rw [hs.deliver_eq], fun e he hr => ?_, fun err he => ?_⟩
  · rw [← hmodel] at hr
    refine ⟨fun i x hx => ⟨fun hrt ho => ?_, fun hrt ho => ?_, fun hrt => ?_⟩, ?_, ?_⟩
    · obtain ⟨x', hx', hh⟩ := (hs.handle_listed hx he hr (htypes i x hx ▸ hrt)).1 ho
      refine ⟨by rw [hh], x', hx', ?_⟩
      rw [hent i x hx, if_pos hrt, hh]
    · have hh := (hs.handle_listed hx he hr (htypes i x hx ▸ hrt)).2 ho
      refine ⟨by rw [hh], ?_⟩
      rw [hent i x hx, if_pos hrt, hh]
    · rw [hent i x hx, if_neg hrt]
    · rw [hs.refresh_deliver]
      congr 1
      refine List.filterMap_congr fun i hi => ?_
      -- a subscriber signals exactly when the event is about its own zone or source
      cases hx : a.entity? i with
      | none => rfl
      | some x =>
        have hrt : n.messageType ∈ x.binding.messageTypes := (mem_subscribedTo hx).1 hi
        simp only [Option.bind_some, refreshOf]
        by_cases ho : x.id.target = e.origin
        · obtain ⟨x', -, hh⟩ := (hs.handle_listed hx he hr hrt).1 ho
          simp [hh, ho]
        · simp [(hs.handle_listed hx he hr hrt).2 ho, ho]
    · -- every subscriber takes the event in or passes it by, and neither panics
      rw [hs.deliver_eq]
      refine panicked_handleAll n _ (nodup_subscribedTo _ _) _ fun i hi x hx => ?_
      have hrt : n.messageType ∈ x.binding.messageTypes := (mem_subscribedTo hx).1 hi
      by_cases ho : x.id.target = e.origin
      · obtain ⟨x', -, hh⟩ := (hs.handle_listed hx he hr hrt).1 ho
        simp [hh, Delivery.overflow?]
      · simp [(hs.handle_listed hx he hr hrt).2 ho, Delivery.overflow?]
  · refine ⟨fun i x hx => ⟨fun _ => by rw [hs.handle_unread hx he], ?_⟩, ?_, ?_⟩
    · rw [hent i x hx, hs.handle_unread hx he]
      simp
    · -- no subscriber takes the payload in, so none signals
      rw [hs.refresh_deliver]
      have hnone : ((a.subscribedTo n.messageType).filterMap fun i =>
          (a.entity? i).bind (refreshOf n)) = [] := by
        refine List.filterMap_eq_nil_iff.2 fun i _ => ?_
        cases hx : a.entity? i with
        | none => rfl
        | some x => simp [refreshOf, hs.handle_unread hx he]
      rw [hnone]
      rfl
    · rw [hs.deliver_eq]
      exact panicked_handleAll n _ (nodup_subscribedTo _ _) _ fun i _ x hx => by
        simp [hs.handle_unread hx he, Delivery.overflow?]

/-- A bridge of one zone, handed an eq status of that zone. -/
theorem push_applied_by_its_targets_eq_status :
    let c : Config := { port := "/dev/ttyUSB0", model := "Grand_Concerto", zones := [(1, "Kitchen")] }
    let b := build "" .grandConcerto [(1, "Kitchen")] [] 1
    let e : DeviceEvent := .zoneEqStatus
      { zone := 1, bass := 4, treble := -2, loudcmp := true, balancePosition := .center, balance := 0 }
    let n := Notification.ofEvent e
    let a := ([] : List Notification).foldl (fun a p => (a.deliver p).1) b.attachAll.1
    ofConfig c = .ok b ∧ n.event = .ok e ∧ e.InRange b.model ∧
    ((a.deliver n).2 = (a.subscribedTo n.messageType).length ∧
    (∀ e, n.event = .ok e → e.InRange b.model →
      (∀ i x, a.entity? i = some x →
        (n.messageType ∈ x.readTypes → x.id.target = e.origin →
          (x.handle n).1 = .applied ∧ ∃ x', x.apply e = .ok x' ∧
            (a.deliver n).1.entity? i =
              some (x'.setBinding { x.binding with available := true, lifecycle := .live })) ∧
        (n.messageType ∈ x.readTypes → x.id.target ≠ e.origin →
          (x.handle n).1 = .foreign ∧ (a.deliver n).1.entity? i = some x) ∧
        (n.messageType ∉ x.readTypes → (a.deliver n).1.entity? i = some x)) ∧
      (a.deliver n).1.refresh =
        ((a.subscribedTo n.messageType).filterMap fun i =>
          (a.entity? i).bind fun x => if x.id.target = e.origin then some x.id else none).foldl
          Broadcast.send a.refresh ∧
      (a.deliver n).1.panicked = a.panicked) ∧
    (∀ err, n.event = .error err →
      (∀ i x, a.entity? i = some x →
        (n.messageType ∈ x.readTypes → (x.handle n).1 = .malformed) ∧
        (a.deliver n).1.entity? i = some x) ∧
      (a.deliver n).1.refresh = a.refresh ∧ (a.deliver n).1.panicked = a.panicked)) := by
  intro c b e n a
  have hb : ofConfig c = .ok b := by
    dsimp only [c, b]
    rfl
  have he : n.event = .ok e := by
    dsimp only [n, e]
    rfl
  have hr : e.InRange b.model := ⟨Or.inl rfl, show Fits32 _ ∧ Fits32 _ from ⟨by decide, by decide⟩⟩
  exact ⟨hb, he, hr, push_applied_by_its_targets hb [] n⟩

end Bridge

end ZoneBridge
