import Mathlib
import ZoneBridge.Proofs.Construction
import ZoneBridge.Discovery

/-!
# What a scan of the amplifier finds

A scan asks for the configuration of every zone of the model and then of every source, each by
increasing id (`Discovery.queries`), and the amplifier answers each query in turn, through the
link: with an event, or not in time, or the link fails. Asking the same queries one after
another and going on past every failure (`Discovery.askAll`) gives the transcript the scan
reads: each query with its outcome, and what that outcome says of the zone or source asked
about (`Discovery.verdict`): its name if it is enabled, nothing if it is disabled, or a failure.

The scan reads the transcript as far as the first failure other than a timeout, which becomes
its result; when there is none it has asked every query, and it keeps the enabled zones and
sources with their names, in the order asked (`Discovery.enabledOf`). The ids it keeps are thus
the model's, so a configuration made of what it found passes the check for a model of the table
(`Discovery.scan_reports_what_is_enabled`).
-/

namespace ZoneBridge

namespace Discovery

variable {σ : Type} (answer : Link σ → Link σ)

/-- The queries of the configurations of the given ids. -/
def asks (m : MessageType) (ids : List Nat) : List Query := ids.map fun id => ⟨m, id.toUInt8⟩

/-- The queries of a scan: every zone's configuration, then every source's, by increasing id. -/
def queries (model : ModelSpec) : List Query :=
  asks .zoneConfiguration ((List.range model.zones).map (· + 1)) ++
    asks .sourceConfiguration ((List.range model.sources).map (· + 1))

/-- Asks the queries in turn, going on past every failure: the link afterwards, and each query
with its outcome. -/
def askAll : Link σ → List Query → Link σ × List (Query × Outcome DeviceEvent)
  | l, [] => (l, [])
  | l, q :: qs =>
    let r := ask answer l q
    ((askAll r.1 qs).1, (q, r.2) :: (askAll r.1 qs).2)

/-- What the outcome of a query says of the zone or source asked about: its trimmed name if it
is enabled, nothing if it is disabled, or the failure. -/
def verdict (p : Query × Outcome DeviceEvent) : Outcome (Option String) :=
  p.2 >>= enabledName p.1.messageType

/-- The enabled zones or sources of a transcript, by the type of their queries, with their names,
in the order asked. -/
def enabledOf (m : MessageType) (t : List (Query × Outcome DeviceEvent)) : IdMap :=
  t.filterMap fun p =>
    if p.1.messageType = m then ((verdict p).toOption.join).map (p.1.id, ·) else none

/-! ### The transcript -/

@[simp] theorem askAll_nil (l : Link σ) : askAll answer l [] = (l, []) := rfl

theorem askAll_cons (l : Link σ) (q : Query) (qs : List Query) :
    askAll answer l (q :: qs) =
      ((askAll answer (ask answer l q).1 qs).1,
        (q, (ask answer l q).2) :: (askAll answer (ask answer l q).1 qs).2) :=
  rfl

/-- Asking two lists of queries one after the other. -/
theorem askAll_append (l : Link σ) (qs rs : List Query) :
    askAll answer l (qs ++ rs) =
      ((askAll answer (askAll answer l qs).1 rs).1,
        (askAll answer l qs).2 ++ (askAll answer (askAll answer l qs).1 rs).2) := by
  induction qs generalizing l with
  | nil => rfl
  | cons q qs ih => rw [List.cons_append, askAll_cons, askAll_cons, ih, List.cons_append]

/-- The transcript lists the queries asked, in order. -/
theorem map_fst_askAll (l : Link σ) (qs : List Query) :
    (askAll answer l qs).2.map Prod.fst = qs := by
  induction qs generalizing l with
  | nil => rfl
  | cons q qs ih => rw [askAll_cons, List.map_cons, ih]

/-- The ids of the transcript are those of the queries. -/
theorem ids_askAll (l : Link σ) (qs : List Query) :
    (askAll answer l qs).2.map (·.1.id) = qs.map (·.id) :=
  calc (askAll answer l qs).2.map (·.1.id)
        = ((askAll answer l qs).2.map Prod.fst).map (·.id) := by rw [List.map_map]; rfl
    _ = qs.map (·.id) := by rw [map_fst_askAll]

theorem enabledOf_append (m : MessageType) (t u : List (Query × Outcome DeviceEvent)) :
    enabledOf m (t ++ u) = enabledOf m t ++ enabledOf m u := List.filterMap_append

/-- A transcript of queries of one type holds no enabled id of another. -/
theorem enabledOf_of_ne {m m' : MessageType} (hm : m' ≠ m) {t : List (Query × Outcome DeviceEvent)}
    (ht : ∀ p ∈ t, p.1.messageType = m') : enabledOf m t = [] := by
  rw [enabledOf, List.filterMap_eq_nil_iff]
  intro p hp
  rw [if_neg (by rw [ht p hp]; exact hm)]

/-- Every id found enabled was asked about. -/
theorem mem_ids_of_mem_enabledOf {m : MessageType} {t : List (Query × Outcome DeviceEvent)}
    {p : UInt8 × String} (hp : p ∈ enabledOf m t) : p.1 ∈ t.map (·.1.id) := by
  obtain ⟨x, hx, hxp⟩ := List.mem_filterMap.1 hp
  split at hxp
  · obtain ⟨name, -, rfl⟩ := Option.map_eq_some_iff.1 hxp
    exact List.mem_map.2 ⟨x, hx, rfl⟩
  · cases hxp

/-! ### One pass of a scan -/

@[simp] theorem asks_cons (m : MessageType) (id : Nat) (ids : List Nat) :
    asks m (id :: ids) = ⟨m, id.toUInt8⟩ :: asks m ids := rfl

/-- Inserting what a transcript found enabled, one entry after another. -/
def insertFound (m : MessageType) (t : List (Query × Outcome DeviceEvent)) (found : IdMap) :
    IdMap :=
  (enabledOf m t).foldl (fun acc p => acc.insert p.1 p.2) found

theorem insertFound_cons (m : MessageType) (x : Query × Outcome DeviceEvent)
    (t : List (Query × Outcome DeviceEvent)) (found : IdMap) :
    insertFound m (x :: t) found = insertFound m t (insertFound m [x] found) := by
  rw [insertFound, insertFound, insertFound, ← List.foldl_append, ← enabledOf_append,
    List.singleton_append]

/-- One step of a pass: if the verdict on the first id passes (an answer, or a timeout), the pass
goes on over the rest from the link the query left, the id inserted with its name if it is
enabled; otherwise the verdict is a failure other than a timeout and the pass ends with it. -/
theorem collect_cons (m : MessageType) (l : Link σ) (found : IdMap) (id : Nat) (rest : List Nat) :
    ((∀ e, verdict (⟨m, id.toUInt8⟩, (ask answer l ⟨m, id.toUInt8⟩).2) = .error e → e = .timeout) ∧
      collect answer m l found (id :: rest) =
        collect answer m (ask answer l ⟨m, id.toUInt8⟩).1
          (insertFound m [(⟨m, id.toUInt8⟩, (ask answer l ⟨m, id.toUInt8⟩).2)] found) rest) ∨
    (∃ e, e ≠ .timeout ∧ verdict (⟨m, id.toUInt8⟩, (ask answer l ⟨m, id.toUInt8⟩).2) = .error e ∧
      collect answer m l found (id :: rest) = ((ask answer l ⟨m, id.toUInt8⟩).1, .error e)) := by
  rcases hask : ask answer l ⟨m, id.toUInt8⟩ with ⟨l₁, r₁⟩
  have hv : verdict ((⟨m, id.toUInt8⟩ : Query), r₁) = r₁ >>= enabledName m := rfl
  have hins : ∀ v, r₁ >>= enabledName m = v → insertFound m [(⟨m, id.toUInt8⟩, r₁)] found =
      (v.toOption.join).elim found (fun name => found.insert id.toUInt8 name) := by
    rintro v rfl
    simp only [insertFound, enabledOf, List.filterMap_cons, List.filterMap_nil, hv]
    rcases (r₁ >>= enabledName m).toOption.join with _ | name <;> rfl
  simp only [collect, hask, hv]
  -- the verdict on the first id: an enabled or a disabled answer, a timeout, or another failure
  rcases hr : r₁ >>= enabledName m with e | (_ | name)
  · by_cases ht : e = .timeout
    · subst ht
      exact .inl ⟨fun e he => (Except.error.inj he).symm, by rw [hins _ hr]; rfl⟩
    · refine .inr ⟨e, ht, rfl, ?_⟩
      split
      · rename_i heq; cases heq
      · rename_i heq; cases heq
      · rename_i heq; cases heq; exact absurd rfl ht
      · rename_i e' _ heq; cases heq; rfl
  · exact .inl ⟨(fun e he => by cases he), by rw [hins _ hr]; rfl⟩
  · exact .inl ⟨(fun e he => by cases he), by rw [hins _ hr]; rfl⟩

/-- A pass over ids that succeeds asked every one of them, none failed otherwise than by timing
out, and the map it built holds the enabled ones inserted in the order asked. -/
theorem collect_of_ok {m : MessageType} {l l' : Link σ} {found r : IdMap} {ids : List Nat}
    (h : collect answer m l found ids = (l', .ok r)) :
    l' = (askAll answer l (asks m ids)).1 ∧
      (∀ p ∈ (askAll answer l (asks m ids)).2, ∀ e, verdict p = .error e → e = .timeout) ∧
      r = insertFound m (askAll answer l (asks m ids)).2 found := by
  induction ids generalizing l found with
  | nil =>
    cases h
    exact ⟨rfl, by simp [asks], rfl⟩
  | cons id rest ih =>
    rw [asks_cons, askAll_cons, insertFound_cons]
    rcases collect_cons answer m l found id rest with ⟨hfirst, hgo⟩ | ⟨e, -, -, hend⟩
    · -- the pass went on: the rest is a pass from the link the first query left
      obtain ⟨hl, hall, hr⟩ := ih (hgo ▸ h)
      refine ⟨hl, ?_, hr⟩
      intro p hp e he
      rcases List.mem_cons.1 hp with rfl | hp
      · exact hfirst e he
      · exact hall p hp e he
    · rw [hend] at h
      cases h

/-- A pass over ids that fails asked them in order up to one whose verdict failed otherwise
than by timing out, every verdict before it having passed; that failure is the pass's. -/
theorem collect_of_error {m : MessageType} {l l' : Link σ} {found : IdMap} {ids : List Nat}
    {e : BridgeError} (h : collect answer m l found ids = (l', .error e)) :
    e ≠ .timeout ∧ ∃ k q, (asks m ids)[k]? = some q ∧
      (∀ p ∈ (askAll answer l ((asks m ids).take k)).2, ∀ e', verdict p = .error e' →
        e' = .timeout) ∧
      verdict (q, (ask answer (askAll answer l ((asks m ids).take k)).1 q).2) = .error e ∧
      l' = (ask answer (askAll answer l ((asks m ids).take k)).1 q).1 := by
  induction ids generalizing l found with
  | nil => cases h
  | cons id rest ih =>
    rcases collect_cons answer m l found id rest with ⟨hfirst, hgo⟩ | ⟨e₀, hne, hver, hend⟩
    · -- the pass went on, so it failed one place further on
      obtain ⟨hne, k, q, hq, hpre, hver, hl⟩ := ih (hgo ▸ h)
      refine ⟨hne, k + 1, q, by simpa using hq, ?_, ?_, ?_⟩
      · intro p hp e' he'
        rw [asks_cons, List.take_succ_cons, askAll_cons] at hp
        rcases List.mem_cons.1 hp with rfl | hp
        · exact hfirst e' he'
        · exact hpre p hp e' he'
      · rwa [asks_cons, List.take_succ_cons, askAll_cons]
      · rwa [asks_cons, List.take_succ_cons, askAll_cons]
    · -- the first verdict ended it
      rw [hend] at h
      obtain ⟨rfl, he⟩ := Prod.mk.inj h
      obtain rfl := Except.error.inj he
      exact ⟨hne, 0, _, rfl, by simp, hver, rfl⟩

/-! ### Maps built in increasing order -/

/-- An id above every id of a map goes at its end. -/
theorem insert_of_lt {m : IdMap} {id : UInt8} (name : String) (h : ∀ p ∈ m, p.1 < id) :
    IdMap.insert id name m = m ++ [(id, name)] := by
  induction m with
  | nil => rfl
  | cons p rest ih =>
    obtain ⟨k, v⟩ := p
    have hk : k.toNat < id.toNat := UInt8.lt_iff_toNat_lt.1 (h (k, v) (by simp))
    have hnlt : ¬ id < k := fun hlt => by rw [UInt8.lt_iff_toNat_lt] at hlt; omega
    have hne : (id == k) = false := beq_eq_false_iff_ne.2 (fun he => by subst he; omega)
    rw [IdMap.insert, if_neg hnlt, hne, if_neg Bool.false_ne_true,
      ih fun q hq => h q (List.mem_cons_of_mem _ hq), List.cons_append]

/-- Inserting entries of increasing ids, each above those already there, appends them. -/
theorem foldl_insert_of_ordered (pairs : IdMap) :
    ∀ acc : IdMap, (acc ++ pairs).Ordered →
      pairs.foldl (fun acc p => acc.insert p.1 p.2) acc = acc ++ pairs := by
  induction pairs with
  | nil => exact fun acc _ => (List.append_nil acc).symm
  | cons p rest ih =>
    intro acc hord
    -- the first entry is above every id of the map it goes into
    have hlt : ∀ q ∈ acc, q.1 < p.1 :=
      fun q hq => (List.pairwise_append.1 hord).2.2 q hq p (by simp)
    rw [List.foldl_cons, insert_of_lt p.2 hlt, ih (acc ++ [p]) (by simpa using hord)]
    simp

/-- The ids found enabled come in the order they were asked about. -/
theorem keys_enabledOf_sublist (m : MessageType) (t : List (Query × Outcome DeviceEvent)) :
    List.Sublist ((enabledOf m t).map Prod.fst) (t.map (·.1.id)) := by
  induction t with
  | nil => exact List.Sublist.slnil
  | cons x t ih =>
    rw [enabledOf, List.filterMap_cons]
    split
    · exact ih.cons _
    · rename_i p hp
      have hid : p.1 = x.1.id := by
        split at hp
        · obtain ⟨name, -, rfl⟩ := Option.map_eq_some_iff.1 hp
          rfl
        · cases hp
      rw [List.map_cons, hid]
      exact ih.cons_cons _

/-- The ids `1, …, n` of a model, for `n` up to 255, are 8-bit ids in increasing order. -/
theorem ids_asks_ordered (m : MessageType) {n : Nat} (hn : n ≤ 255) :
    ((asks m ((List.range n).map (· + 1))).map (·.id)).Pairwise (· < ·) := by
  simp only [asks, List.map_map]
  refine List.pairwise_map.2 (List.pairwise_lt_range.imp_of_mem fun {i j} hi hj hij => ?_)
  have hi' := List.mem_range.1 hi
  have hj' := List.mem_range.1 hj
  show (i + 1).toUInt8 < (j + 1).toUInt8
  rw [UInt8.lt_iff_toNat_lt, Nat.toUInt8_eq, Nat.toUInt8_eq, UInt8.toNat_ofNat', UInt8.toNat_ofNat']
  omega

/-- Every id asked about among `1, …, n`, for `n` up to 255, lies in `[1, n]`. -/
theorem mem_ids_asks {m : MessageType} {n : Nat} (hn : n ≤ 255) {id : UInt8}
    (h : id ∈ (asks m ((List.range n).map (· + 1))).map (·.id)) : 1 ≤ id.toNat ∧ id.toNat ≤ n := by
  simp only [asks, List.map_map, List.mem_map, List.mem_range, Function.comp_apply] at h
  obtain ⟨i, hi, rfl⟩ := h
  rw [Nat.toUInt8_eq, UInt8.toNat_ofNat']
  omega

/-- A pass over the ids `1, …, n` from an empty map, `n` up to 255, that succeeds reports the
enabled ones in the order asked. -/
theorem insertFound_asks {m : MessageType} {n : Nat} (hn : n ≤ 255) (l : Link σ) :
    insertFound m (askAll answer l (asks m ((List.range n).map (· + 1)))).2 [] =
      enabledOf m (askAll answer l (asks m ((List.range n).map (· + 1)))).2 := by
  rw [insertFound, foldl_insert_of_ordered _ [] ?_, List.nil_append]
  -- the ids found enabled are some of the ids asked about, which increase
  have hsub := keys_enabledOf_sublist m (askAll answer l (asks m ((List.range n).map (· + 1)))).2
  rw [ids_askAll] at hsub
  rw [List.nil_append]
  exact List.pairwise_map.1 ((ids_asks_ordered m hn).sublist hsub)

/-! ### The two passes of a scan -/

variable {answer}

/-- A scan that succeeds made a pass over the zones and then one over the sources, from the
link the first left, both succeeding. -/
theorem scan_of_ok {model : ModelSpec} {l : Link σ} {d : Discovered}
    (h : (scan model answer l).2 = .ok d) :
    ∃ l₁, collect answer .zoneConfiguration l [] ((List.range model.zones).map (· + 1)) =
        (l₁, .ok d.zones) ∧
      collect answer .sourceConfiguration l₁ [] ((List.range model.sources).map (· + 1)) =
        ((scan model answer l).1, .ok d.sources) := by
  unfold scan at h ⊢
  rcases hz : collect answer .zoneConfiguration l [] ((List.range model.zones).map (· + 1))
    with ⟨l₁, ez | zones⟩
  · simp [hz] at h
  · rcases hs : collect answer .sourceConfiguration l₁ [] ((List.range model.sources).map (· + 1))
      with ⟨l₂, es | sources⟩
    · simp [hz, hs, Functor.map, Except.map] at h
    · simp only [hz, hs, Functor.map, Except.map, Except.ok.injEq] at h ⊢
      subst h
      exact ⟨l₁, rfl, hs⟩

/-- A scan that fails either failed in its pass over the zones, or passed them and failed in
its pass over the sources. -/
theorem scan_of_error {model : ModelSpec} {l : Link σ} {e : BridgeError}
    (h : (scan model answer l).2 = .error e) :
    collect answer .zoneConfiguration l [] ((List.range model.zones).map (· + 1)) =
        ((scan model answer l).1, .error e) ∨
      ∃ l₁ zones, collect answer .zoneConfiguration l [] ((List.range model.zones).map (· + 1)) =
          (l₁, .ok zones) ∧
        collect answer .sourceConfiguration l₁ [] ((List.range model.sources).map (· + 1)) =
          ((scan model answer l).1, .error e) := by
  unfold scan at h ⊢
  rcases hz : collect answer .zoneConfiguration l [] ((List.range model.zones).map (· + 1))
    with ⟨l₁, ez | zones⟩
  · simp only [hz, Except.error.injEq] at h ⊢
    exact .inl (by rw [h])
  · rcases hs : collect answer .sourceConfiguration l₁ [] ((List.range model.sources).map (· + 1))
      with ⟨l₂, es | sources⟩
    · simp only [hz, hs, Functor.map, Except.map, Except.error.injEq] at h ⊢
      exact .inr ⟨l₁, zones, rfl, by rw [hs, h]⟩
    · simp [hz, hs, Functor.map, Except.map] at h

/-- A configuration of a model of the table whose port is not blank, whose volume step is one and
whose zones and sources lie within the model's counts passes the check. -/
theorem validate_of_inRange {model : ModelSpec} (hm : ModelSpec.lookup model.name = some model)
    {port : String} (hp : Text.trim port ≠ "") {zones sources : IdMap}
    (hz : ∀ p ∈ zones, 1 ≤ p.1.toNat ∧ p.1.toNat ≤ model.zones)
    (hs : ∀ p ∈ sources, 1 ≤ p.1.toNat ∧ p.1.toNat ≤ model.sources) :
    ({ port, model := model.name, zones, sources, volumeStep := 1 } : Config).validate =
      .ok () := by
  -- both models of the table have a volume scale 79 steps wide
  have hwidth : model.volume.upper - model.volume.lower = 79 := by
    have hmem := List.mem_of_find?_eq_some hm
    simp only [ModelSpec.all, List.mem_cons, List.not_mem_nil, or_false] at hmem
    rcases hmem with rfl | rfl <;> rfl
  have hport : (Text.trim port).isEmpty = false := by simpa using hp
  simp [Config.validate, Config.modelSpec, hm, Config.effectivePort, Config.effectiveZones,
    Config.effectiveSources, hport, hwidth, Config.firstOutside_eq_none_iff.2 hz,
    Config.firstOutside_eq_none_iff.2 hs, bind, Except.bind, pure, Except.pure]

/-- The queries of a pass over ids are all of its message type. -/
theorem messageType_of_mem_askAll {m : MessageType} {l : Link σ} {ids : List Nat}
    {p : Query × Outcome DeviceEvent} (hp : p ∈ (askAll answer l (asks m ids)).2) :
    p.1.messageType = m := by
  have hmem : p.1 ∈ asks m ids := by
    rw [← map_fst_askAll answer l (asks m ids)]
    exact List.mem_map_of_mem hp
  obtain ⟨id, -, hid⟩ := List.mem_map.1 hmem
  rw [← hid]

/-- A scan that succeeds: the transcript of its queries is that of its pass over the zones
followed by that of its pass over the sources, none of its verdicts failed otherwise than by
timing out, and each pass reports what it found enabled among the ids it asked about. -/
theorem scan_ok_transcript {model : ModelSpec} (hz : model.zones ≤ 255) (hs : model.sources ≤ 255)
    {l : Link σ} {d : Discovered} (h : (scan model answer l).2 = .ok d) :
    ∃ tz ts, askAll answer l (queries model) = ((scan model answer l).1, tz ++ ts) ∧
      (∀ p ∈ tz, p.1.messageType = .zoneConfiguration) ∧
      (∀ p ∈ ts, p.1.messageType = .sourceConfiguration) ∧
      (∀ p ∈ tz ++ ts, ∀ e, verdict p = .error e → e = .timeout) ∧
      d.zones = enabledOf .zoneConfiguration tz ∧ d.sources = enabledOf .sourceConfiguration ts ∧
      tz.map (·.1.id) =
        (asks .zoneConfiguration ((List.range model.zones).map (· + 1))).map (·.id) ∧
      ts.map (·.1.id) =
        (asks .sourceConfiguration ((List.range model.sources).map (· + 1))).map (·.id) := by
  obtain ⟨l₁, hzc, hsc⟩ := scan_of_ok h
  obtain ⟨hl₁, hallz, hrz⟩ := collect_of_ok answer hzc
  obtain ⟨hl₂, halls, hrs⟩ := collect_of_ok answer hsc
  refine ⟨_, _, ?_, fun p hp => messageType_of_mem_askAll hp,
    fun p hp => messageType_of_mem_askAll hp, ?_, ?_, ?_, ids_askAll answer l _,
    ids_askAll answer l₁ _⟩
  · rw [queries, askAll_append, ← hl₁, ← hl₂]
  · intro p hp
    rcases List.mem_append.1 hp with hp | hp
    · exact hallz p hp
    · exact halls p hp
  · rw [hrz, insertFound_asks answer hz]
  · rw [hrs, insertFound_asks answer hs]

/-- Every id a scan that succeeds reports is one of the model's. -/
theorem scan_ok_inRange {model : ModelSpec} (hz : model.zones ≤ 255) (hs : model.sources ≤ 255)
    {l : Link σ} {d : Discovered} (hd : (scan model answer l).2 = .ok d) :
    (∀ p ∈ d.zones, 1 ≤ p.1.toNat ∧ p.1.toNat ≤ model.zones) ∧
      (∀ p ∈ d.sources, 1 ≤ p.1.toNat ∧ p.1.toNat ≤ model.sources) := by
  obtain ⟨tz, ts, -, -, -, -, hzones, hsources, hidz, hids⟩ := scan_ok_transcript hz hs hd
  -- each id found enabled was asked about, and the ids asked about are the model's
  refine ⟨fun p hp => mem_ids_asks (m := .zoneConfiguration) hz ?_,
    fun p hp => mem_ids_asks (m := .sourceConfiguration) hs ?_⟩
  · rw [← hidz]
    exact mem_ids_of_mem_enabledOf (hzones ▸ hp)
  · rw [← hids]
    exact mem_ids_of_mem_enabledOf (hsources ▸ hp)

/-- A scan that fails asked the queries in order up to the first whose verdict failed otherwise
than by timing out, and stopped right after it, with its failure: in the pass over the zones, or
after all of them in the pass over the sources. -/
theorem scan_error_stops {model : ModelSpec} {l : Link σ} {e : BridgeError}
    (h : (scan model answer l).2 = .error e) :
    e ≠ .timeout ∧ ∃ k q, (queries model)[k]? = some q ∧
      (∀ p ∈ (askAll answer l ((queries model).take k)).2, ∀ e', verdict p = .error e' →
        e' = .timeout) ∧
      verdict (q, (ask answer (askAll answer l ((queries model).take k)).1 q).2) = .error e ∧
      (scan model answer l).1 = (ask answer (askAll answer l ((queries model).take k)).1 q).1 := by
  rcases scan_of_error h with hzc | ⟨l₁, zones, hzc, hsc⟩
  · -- a zone's verdict ended it: the place among the zones is the place among all queries
    obtain ⟨hne, k, q, hq, hpre, hver, hl⟩ := collect_of_error answer hzc
    have hk : k < (asks .zoneConfiguration ((List.range model.zones).map (· + 1))).length :=
      (List.getElem?_eq_some_iff.1 hq).1
    have htake : (queries model).take k =
        (asks .zoneConfiguration ((List.range model.zones).map (· + 1))).take k := by
      rw [queries, List.take_append_of_le_length hk.le]
    refine ⟨hne, k, q, by rw [queries, List.getElem?_append_left hk, hq], ?_, ?_, ?_⟩
    · rw [htake]
      exact hpre
    · rw [htake]
      exact hver
    · rw [htake]
      exact hl
  · -- every zone passed and a source's verdict ended it, as many places further on
    obtain ⟨hl₁, hallz, -⟩ := collect_of_ok answer hzc
    obtain ⟨hne, k, q, hq, hpre, hver, hl⟩ := collect_of_error answer hsc
    have htake : (queries model).take
        ((asks .zoneConfiguration ((List.range model.zones).map (· + 1))).length + k) =
        asks .zoneConfiguration ((List.range model.zones).map (· + 1)) ++
          (asks .sourceConfiguration ((List.range model.sources).map (· + 1))).take k := by
      rw [queries, List.take_append, List.take_of_length_le (by omega), Nat.add_sub_cancel_left]
    have htrans : askAll answer l ((queries model).take
        ((asks .zoneConfiguration ((List.range model.zones).map (· + 1))).length + k)) =
        ((askAll answer l₁
            ((asks .sourceConfiguration ((List.range model.sources).map (· + 1))).take k)).1,
          (askAll answer l (asks .zoneConfiguration ((List.range model.zones).map (· + 1)))).2 ++
          (askAll answer l₁
            ((asks .sourceConfiguration ((List.range model.sources).map (· + 1))).take k)).2) := by
      rw [htake, askAll_append, ← hl₁]
    refine ⟨hne, (asks .zoneConfiguration ((List.range model.zones).map (· + 1))).length + k, q,
      ?_, ?_, ?_, ?_⟩
    · rw [queries, List.getElem?_append_right (by omega), Nat.add_sub_cancel_left, hq]
    · intro p hp e' he'
      rw [htrans] at hp
      rcases List.mem_append.1 hp with hp | hp
      · exact hallz p hp e' he'
      · exact hpre p hp e' he'
    · rw [htrans]
      exact hver
    · rw [htrans]
      exact hl

/-- What a scan of `model` on the amplifier `answer`, from the link `l`, reports, read against the
transcript of its queries. -/
structure Reports (model : ModelSpec) (answer : Link σ → Link σ) (l : Link σ) : Prop where
  /-- A scan that succeeds asked every query, in order, and none failed otherwise than by timing
  out... -/
  asked_all : ∀ d, (scan model answer l).2 = .ok d →
    (scan model answer l).1 = (askAll answer l (queries model)).1 ∧
    ∀ p ∈ (askAll answer l (queries model)).2, ∀ e, verdict p = .error e → e = .timeout
  /-- ...and it reports exactly the zones and the sources whose answers were enabled
  configurations, with their trimmed names, in the order asked. -/
  keeps_enabled : ∀ d, (scan model answer l).2 = .ok d →
    d.zones = enabledOf .zoneConfiguration (askAll answer l (queries model)).2 ∧
    d.sources = enabledOf .sourceConfiguration (askAll answer l (queries model)).2
  /-- Every id it reports is one of the model's... -/
  in_range : ∀ d, (scan model answer l).2 = .ok d →
    (∀ p ∈ d.zones, 1 ≤ p.1.toNat ∧ p.1.toNat ≤ model.zones) ∧
    (∀ p ∈ d.sources, 1 ≤ p.1.toNat ∧ p.1.toNat ≤ model.sources)
  /-- ...so, for a model of the table, a configuration of what it found passes the check. -/
  validates : ∀ d, (scan model answer l).2 = .ok d → ModelSpec.lookup model.name = some model →
    ∀ port, Text.trim port ≠ "" →
      ({ port, model := model.name, zones := d.zones, sources := d.sources, volumeStep := 1 } :
        Config).validate = .ok ()
  /-- A scan that fails asked the queries in order up to the first whose answer failed otherwise
  than by timing out, and stopped right after it, with its failure. -/
  stops_at_failure : ∀ e, (scan model answer l).2 = .error e →
    e ≠ .timeout ∧ ∃ k q, (queries model)[k]? = some q ∧
      (∀ p ∈ (askAll answer l ((queries model).take k)).2, ∀ e', verdict p = .error e' →
        e' = .timeout) ∧
      verdict (q, (ask answer (askAll answer l ((queries model).take k)).1 q).2) = .error e ∧
      (scan model answer l).1 = (ask answer (askAll answer l ((queries model).take k)).1 q).1

/-- A scan asks the amplifier for the configuration of every zone and then every source of the
model, by increasing id, each once, and stops at the first answer that fails otherwise than by
timing out, with that failure. When there is none it has asked them all, and it reports the
zones and sources whose answers were enabled configurations, with their trimmed names, by
increasing id, passing over disabled ones and timeouts. Every id it reports is the model's, so a
configuration of a model of the table with those zones and sources, any port that is not blank
and a volume step of one passes the check. -/
theorem scan_reports_what_is_enabled (model : ModelSpec) (hz : model.zones ≤ 255)
    (hs : model.sources ≤ 255) (answer : Link σ → Link σ) (l : Link σ) :
    Reports model answer l := by
  refine ⟨?_, ?_, ?_, ?_, ?_⟩
  · intro d hd
    obtain ⟨tz, ts, hq, -, -, hall, -⟩ := scan_ok_transcript hz hs hd
    rw [hq]
    exact ⟨rfl, hall⟩
  · intro d hd
    obtain ⟨tz, ts, hq, htz, hts, -, hzones, hsources, -⟩ := scan_ok_transcript hz hs hd
    -- each pass's transcript holds no enabled id of the other's type
    have hnz : enabledOf .zoneConfiguration ts = [] := enabledOf_of_ne (by decide) hts
    have hns : enabledOf .sourceConfiguration tz = [] := enabledOf_of_ne (by decide) htz
    rw [hq, enabledOf_append, enabledOf_append, hnz, hns, hzones, hsources]
    exact ⟨(List.append_nil _).symm, (List.nil_append _).symm⟩
  · exact fun d hd => scan_ok_inRange hz hs hd
  · intro d hd hm port hp
    obtain ⟨hzr, hsr⟩ := scan_ok_inRange hz hs hd
    exact validate_of_inRange hm hp hzr hsr
  · exact fun e he => scan_error_stops he

/-- A scan of the larger model on an amplifier that closes the link when it reads the third
request: the two zones asked first time out, and the third zone's query fails. -/
theorem scan_reports_what_is_enabled_closing :
    ModelSpec.grandConcerto.zones ≤ 255 ∧ ModelSpec.grandConcerto.sources ≤ 255 ∧
      Reports ModelSpec.grandConcerto
        (fun l : Link Unit => if l.sent.length = 3 then l.close else l) {} :=
  ⟨by decide, by decide, scan_reports_what_is_enabled _ (by decide) (by decide) _ _⟩

end Discovery

end ZoneBridge
