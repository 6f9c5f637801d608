import Mathlib
import ZoneBridge.Proofs.ZonePlayer

/-!
# Source names and ids

A source map holds the configured sources as pairs in ascending id order, one name per id
(`IdMap.Ordered`); every map the configuration reader builds is one (`IdMap.ordered_ofPairs`).
Looking a source up by id gives its name; looking it up by name gives the highest id of that
name (`SourceMap.id_eq_some_iff`), since nothing keeps two ids from sharing one name. So every
name comes back from its id, while an id comes back from its name exactly when no higher id has
the same name.

A zone player shows the name of the source that the last status of its powered zone reported,
and offers the names of its sources to select. Selecting the shown source sends the highest id
of its name, which is the reported id when no higher id shares the name; every name offered
selects a source of that name (`SourceMap.names_select_their_highest_id`).
-/

namespace ZoneBridge

namespace IdMap

/-- Ids strictly ascending, as in the maps a configuration is read into: one name per id. -/
def Ordered (m : IdMap) : Prop := m.Pairwise (fun a b => a.1 < b.1)

instance (m : IdMap) : Decidable m.Ordered := inferInstanceAs (Decidable (List.Pairwise _ _))

variable {m : IdMap}

theorem mem_insert {id : UInt8} {name : String} {a : UInt8 × String} (h : a ∈ insert id name m) :
    a = (id, name) ∨ a ∈ m := by
  induction m with
  | nil => simpa [insert] using h
  | cons p rest ih =>
    obtain ⟨k, v⟩ := p
    unfold insert at h
    split_ifs at h <;> grind

theorem Ordered.insert (h : m.Ordered) (id : UInt8) (name : String) :
    (insert id name m).Ordered := by
  induction m with
  | nil => simp [IdMap.insert, Ordered]
  | cons p rest ih =>
    obtain ⟨k, v⟩ := p
    have hk : ∀ a ∈ rest, k < a.1 := fun a ha => List.rel_of_pairwise_cons h ha
    unfold IdMap.insert Ordered
    split_ifs with h₁ h₂
    · -- the new id goes first, below every id after it
      refine List.Pairwise.cons (fun a ha => ?_) h
      rcases List.mem_cons.mp ha with rfl | ha
      · exact h₁
      · have hka := hk a ha
        show id < a.1
        rw [UInt8.lt_iff_toNat_lt] at h₁ hka ⊢
        omega
    · -- the name of an id already there is replaced
      have hkid : id = k := by simpa using h₂
      subst hkid
      exact List.Pairwise.cons (fun a ha => hk a ha) h.of_cons
    · -- the new id goes further in, above `k`
      have hlt : k < id := by
        have hne : id.toNat ≠ k.toNat := fun he => h₂ (by simp [UInt8.toNat_inj.mp he])
        rw [UInt8.lt_iff_toNat_lt] at h₁ ⊢
        omega
      refine List.Pairwise.cons (fun a ha => ?_) (ih h.of_cons)
      rcases mem_insert ha with rfl | ha
      · exact hlt
      · exact hk a ha

/-- Every map the configuration reader builds has its ids in ascending order. -/
theorem ordered_ofPairs (pairs : List (UInt8 × String)) : (ofPairs pairs).Ordered := by
  unfold ofPairs
  -- each pair is inserted into a map already in order
  suffices h : ∀ acc : IdMap, acc.Ordered →
      (pairs.foldl (fun m p => insert p.1 p.2 m) acc).Ordered from h [] List.Pairwise.nil
  induction pairs with
  | nil => exact fun _ h => h
  | cons p rest ih => exact fun acc h => ih _ (h.insert p.1 p.2)

/-- In an ordered map two pairs with one id are the same pair. -/
theorem Ordered.eq_of_mem (h : m.Ordered) {a b : UInt8 × String} (ha : a ∈ m) (hb : b ∈ m)
    (hab : a.1 = b.1) : a = b := by
  induction m with
  | nil => cases ha
  | cons p rest ih =>
    have hp : ∀ c ∈ rest, p.1 < c.1 := fun c hc => List.rel_of_pairwise_cons h hc
    rcases List.mem_cons.mp ha with rfl | ha' <;> rcases List.mem_cons.mp hb with rfl | hb'
    · rfl
    · exact absurd (hp b hb') (by rw [hab]; exact UInt8.lt_irrefl _)
    · exact absurd (hp a ha') (by rw [← hab]; exact UInt8.lt_irrefl _)
    · exact ih h.of_cons ha' hb'

theorem mem_of_lookup_eq_some {i : UInt8} {s : String} (h : m.lookup i = some s) : (i, s) ∈ m := by
  obtain ⟨l₁, l₂, rfl, -⟩ := List.lookup_eq_some_iff.mp h
  simp

theorem Ordered.lookup_eq_some_iff (h : m.Ordered) {i : UInt8} {s : String} :
    m.lookup i = some s ↔ (i, s) ∈ m := by
  refine ⟨mem_of_lookup_eq_some, fun hi => ?_⟩
  -- the id is there, and its one pair is the one found
  have hsome : (m.lookup i).isSome := List.lookup_isSome_iff.mpr ⟨(i, s), hi, by simp⟩
  obtain ⟨s', hs'⟩ := Option.isSome_iff_exists.mp hsome
  rw [hs', (Prod.mk.inj (h.eq_of_mem (mem_of_lookup_eq_some hs') hi rfl)).2]

end IdMap

namespace SourceMap

variable {m : SourceMap}

theorem name_eq_some_iff (hm : m.byId.Ordered) {i : UInt8} {s : String} :
    m.name i = some s ↔ (i, s) ∈ m.byId :=
  hm.lookup_eq_some_iff

/-- The id of a name is the highest id of that name. -/
theorem id_eq_some_iff (hm : m.byId.Ordered) {s : String} {j : UInt8} :
    m.id s = some j ↔ (j, s) ∈ m.byId ∧ ∀ k, (k, s) ∈ m.byId → k ≤ j := by
  have hf : IdMap.Ordered (m.byId.filter (·.2 == s)) := hm.filter _
  have hmem : ∀ {a : UInt8 × String}, a ∈ m.byId.filter (·.2 == s) ↔ a ∈ m.byId ∧ a.2 = s := by
    simp
  unfold id
  constructor
  · intro h
    obtain ⟨x, hx, rfl⟩ := Option.map_eq_some_iff.mp h
    obtain ⟨ys, hys⟩ := List.getLast?_eq_some_iff.mp hx
    have hxm := hmem.mp (hys ▸ List.mem_append_right ys (List.mem_singleton_self x))
    refine ⟨by rw [← hxm.2]; exact hxm.1, fun k hk => ?_⟩
    -- every other pair of the name comes before the last one, with a lower id
    have hk' := hmem.mpr ⟨hk, rfl⟩
    rw [hys] at hk' hf
    rcases List.mem_append.mp hk' with hk' | hk'
    · exact UInt8.le_of_lt ((List.pairwise_append.mp hf).2.2 _ hk' x (List.mem_singleton_self x))
    · rw [← List.mem_singleton.mp hk']
      exact UInt8.le_refl _
  · rintro ⟨hj, hmax⟩
    have hj' := hmem.mpr ⟨hj, rfl⟩
    obtain ⟨x, hx⟩ := Option.ne_none_iff_exists'.mp
      (mt List.getLast?_eq_none_iff.mp (List.ne_nil_of_mem hj'))
    obtain ⟨ys, hys⟩ := List.getLast?_eq_some_iff.mp hx
    have hxm := hmem.mp (hys ▸ List.mem_append_right ys (List.mem_singleton_self x))
    refine Option.map_eq_some_iff.mpr ⟨x, hx, ?_⟩
    -- the last pair of the name has the highest id, which is `j`
    have hxj : x.1 ≤ j := hmax x.1 (by rw [← hxm.2]; exact hxm.1)
    rw [hys] at hj' hf
    rcases List.mem_append.mp hj' with hj' | hj'
    · have hjx : j < x.1 := (List.pairwise_append.mp hf).2.2 _ hj' x (List.mem_singleton_self x)
      exact absurd hxj (UInt8.not_le.mpr hjx)
    · rw [← List.mem_singleton.mp hj']

/-- Every configured name comes back from the id it selects. -/
theorem exists_id_of_mem_names (hm : m.byId.Ordered) {s : String} (hs : s ∈ m.names) :
    ∃ j, m.id s = some j ∧ m.name j = some s := by
  obtain ⟨⟨i, s'⟩, hi, rfl⟩ := List.mem_map.mp hs
  -- among the finitely many ids of the name there is a highest
  have hne : (m.byId.filter (·.2 == s')).getLast? ≠ none :=
    mt List.getLast?_eq_none_iff.mp (List.ne_nil_of_mem (List.mem_filter.mpr ⟨hi, by simp⟩))
  obtain ⟨x, hx⟩ := Option.ne_none_iff_exists'.mp hne
  have hxm : x ∈ m.byId ∧ x.2 = s' := by
    simpa using List.mem_of_getLast? hx
  have hid : m.id s' = some x.1 := Option.map_eq_some_iff.mpr ⟨x, hx, rfl⟩
  refine ⟨x.1, hid, (name_eq_some_iff hm).mpr ?_⟩
  rw [← hxm.2]
  exact hxm.1

/-- An id comes back from its name exactly when no higher id has the same name. -/
theorem id_name_eq_some_iff (hm : m.byId.Ordered) {i : UInt8} {s : String}
    (hi : m.name i = some s) : m.id s = some i ↔ ∀ k, m.name k = some s → k ≤ i := by
  simp only [id_eq_some_iff hm, name_eq_some_iff hm] at hi ⊢
  exact ⟨fun h => h.2, fun h => ⟨hi, h⟩⟩

end SourceMap

namespace Player

theorem requestFor_selectSource {p : Player} {s : String} {j : UInt8} (h : p.sources.id s = some j) :
    p.requestFor (.selectSource s) = .ok (some (.command (.setSource p.zone j))) := by
  simp only [requestFor, h]
  rfl

end Player

/-- Every name of a source list is a configured name. -/
theorem PlayerState.mem_names_of_mem_sourceList {md : ModelSpec} {m : SourceMap}
    {es : List DeviceEvent} {s : String} (hs : s ∈ (PlayerState.ofPushes md m es).sourceList) :
    s ∈ m.names := by
  unfold PlayerState.ofPushes at hs
  split at hs
  · obtain ⟨i, -, hi⟩ := List.mem_filterMap.mp hs
    exact List.mem_map.mpr ⟨(i, s), IdMap.mem_of_lookup_eq_some hi, rfl⟩
  · exact hs

namespace SourceMap

/-- Names and ids of an ordered source map: every name comes back from its id, and an id from
its name exactly when no higher id has that name. A zone player whose state folds the events
about its zone shows the name of the source that the last status of its powered zone reported;
selecting it sends the highest id of that name, which is the reported one exactly when no
higher id shares the name, and every name the player offers selects a source of that name. -/
theorem names_select_their_highest_id {m : SourceMap} (hm : m.byId.Ordered) :
    (∀ s ∈ m.names, ∃ j, m.id s = some j ∧ m.name j = some s) ∧
    (∀ i s, m.name i = some s → (m.id s = some i ↔ ∀ k, m.name k = some s → k ≤ i)) ∧
    ∀ (p : Player) (es : List DeviceEvent), p.sources = m →
      p.state = PlayerState.ofPushes p.model p.sources es →
      (∀ s, p.state.source = some s → ∃ st i j,
        lastOf DeviceEvent.poweredStatus? es = some st ∧ st.source = some i ∧
        m.name i = some s ∧
        p.requestFor (.selectSource s) = .ok (some (.command (.setSource p.zone j))) ∧
        m.name j = some s ∧ (∀ k, m.name k = some s → k ≤ j) ∧
        (j = i ↔ ∀ k, m.name k = some s → k ≤ i)) ∧
      ∀ s ∈ p.state.sourceList, ∃ j,
        p.requestFor (.selectSource s) = .ok (some (.command (.setSource p.zone j))) ∧
        m.name j = some s := by
  refine ⟨fun s hs => exists_id_of_mem_names hm hs, fun i s hi => id_name_eq_some_iff hm hi,
    fun p es hp hst => ⟨fun s hs => ?_, fun s hs => ?_⟩⟩
  · -- the shown name is that of the id in the last status of the powered zone
    rw [hst] at hs
    obtain ⟨st, hlast, hsrc⟩ := Option.bind_eq_some_iff.mp hs
    obtain ⟨i, hsi, hname⟩ := Option.bind_eq_some_iff.mp hsrc
    rw [hp] at hname
    obtain ⟨j, hj, hjn⟩ := exists_id_of_mem_names hm
      (List.mem_map.mpr ⟨(i, s), (name_eq_some_iff hm).mp hname, rfl⟩)
    have hmax := ((id_eq_some_iff hm).mp hj).2
    refine ⟨st, i, j, hlast, hsi, hname, Player.requestFor_selectSource (hp ▸ hj), hjn,
      fun k hk => hmax k ((name_eq_some_iff hm).mp hk), ?_⟩
    rw [← id_name_eq_some_iff hm hname, hj, Option.some_inj]
  · rw [hst] at hs
    obtain ⟨j, hj, hjn⟩ := exists_id_of_mem_names hm (hp ▸ PlayerState.mem_names_of_mem_sourceList hs)
    exact ⟨j, Player.requestFor_selectSource (hp ▸ hj), hjn⟩

/-- Two ids sharing one name: the name selects the higher id, so the lower one does not come
back from its name. -/
theorem shared_name_selects_highest :
    (⟨[(1, "Radio"), (2, "Radio")]⟩ : SourceMap).name 1 = some "Radio" ∧
    (⟨[(1, "Radio"), (2, "Radio")]⟩ : SourceMap).id "Radio" = some 2 := by
  decide

/-- A radio and a tuner on distinct ids. -/
theorem names_select_their_highest_id_radio :
    let m : SourceMap := ⟨[(1, "Radio"), (2, "Tuner")]⟩
    m.byId.Ordered ∧
    (∀ s ∈ m.names, ∃ j, m.id s = some j ∧ m.name j = some s) ∧
    (∀ i s, m.name i = some s → (m.id s = some i ↔ ∀ k, m.name k = some s → k ≤ i)) ∧
    ∀ (p : Player) (es : List DeviceEvent), p.sources = m →
      p.state = PlayerState.ofPushes p.model p.sources es →
      (∀ s, p.state.source = some s → ∃ st i j,
        lastOf DeviceEvent.poweredStatus? es = some st ∧ st.source = some i ∧
        m.name i = some s ∧
        p.requestFor (.selectSource s) = .ok (some (.command (.setSource p.zone j))) ∧
        m.name j = some s ∧ (∀ k, m.name k = some s → k ≤ j) ∧
        (j = i ↔ ∀ k, m.name k = some s → k ≤ i)) ∧
      ∀ s ∈ p.state.sourceList, ∃ j,
        p.requestFor (.selectSource s) = .ok (some (.command (.setSource p.zone j))) ∧
        m.name j = some s := by
  intro m
  have hm : m.byId.Ordered := by decide
  exact ⟨hm, names_select_their_highest_id hm⟩

end SourceMap

end ZoneBridge
