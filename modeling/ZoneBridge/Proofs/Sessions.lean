import Mathlib
import ZoneBridge.Proofs.Commands
import ZoneBridge.Proofs.FanOut
import ZoneBridge.Sim.Session

/-!
# What every session keeps, and the commands its calls send

An entity is made with its identity and, by kind, what it converts with: a zone player with its
zone, the model, the configured sources and the volume step; a dial with its dial and scale
(`Entity.setup`). No step of a session changes that: taking in an event changes what an entity
keeps of its zone or source, attaching and detaching change its binding's state, and every other
step touches only the link or the refresh channel. So in every session a checked configuration
reaches, each entity is still as it was made for the configuration's model, zones and sources
(`Session.Reachable.made`).

Then every command that a call of the host sends, through a zone player, a dial or a loudness
switch, is for the entity's own configured zone or source and fits the model's scales
(`Session.calls_send_fitting_commands`).
-/

namespace ZoneBridge

/-! ### What an entity is made with -/

/-- What an entity is made with and keeps for good: its identity, and by kind what it converts
with. -/
inductive Entity.Setup where
  | player (id : EntityId) (zone : UInt8) (model : ModelSpec) (sources : SourceMap)
      (volumeStep : Int)
  | loudness (id : EntityId)
  | dial (id : EntityId) (d : Dial) (scale : Scale)

namespace Entity

/-- What an entity was made with. -/
def setup : Entity → Setup
  | .player x =>
    .player x.binding.id x.tracked.zone x.tracked.model x.tracked.sources x.tracked.volumeStep
  | .loudness x => .loudness x.binding.id
  | .dial x => .dial x.binding.id x.tracked.dial x.tracked.scale

/-- An entity of a bridge built for model `m`, the configured zones and sources and the volume
step `vs`: it is for a configured zone or source, a zone player converts with the model and the
configuration, and a dial with the model's scale of its control. -/
def Setup.Made (m : ModelSpec) (zones sources : IdMap) (vs : Int) : Setup → Prop
  | .player id z m' srcs vs' =>
    id.target = .zone z ∧ id.target.Configured zones sources ∧ m' = m ∧ srcs = ⟨sources⟩ ∧ vs' = vs
  | .loudness id => id.target.kind = .zone ∧ id.target.Configured zones sources
  | .dial id d s =>
    id.target.kind = d.entityKind ∧ id.target.Configured zones sources ∧ s = m.scale d.controlKind

theorem setup_setBinding (e : Entity) {b : Binding} (h : b.id = e.binding.id) :
    (e.setBinding b).setup = e.setup := by
  cases e <;> simp_all [setBinding, setup, binding]

/-- Taking in an event keeps the binding and what the entity was made with. -/
theorem apply_setup {e e' : Entity} {ev : DeviceEvent} (h : e.apply ev = .ok e') :
    e'.binding = e.binding ∧ e'.setup = e.setup := by
  cases e with
  | player x =>
    rw [apply_player] at h
    obtain ⟨p', hp, rfl⟩ := map_eq_ok h
    obtain ⟨st, rfl⟩ := Player.eq_of_take hp
    exact ⟨rfl, rfl⟩
  | loudness x =>
    obtain ⟨r', -, rfl⟩ := map_eq_ok h
    exact ⟨rfl, rfl⟩
  | dial x =>
    obtain ⟨r', hr, rfl⟩ := map_eq_ok h
    obtain ⟨hd, hs⟩ := DialReading.of_apply (Update.outcome_eq_ok_iff.1 hr)
    exact ⟨rfl, by simp [setup, hd, hs]⟩

@[simp] theorem setup_handle (e : Entity) (n : Notification) : (e.handle n).2.setup = e.setup := by
  rcases e.handle_cases n with ⟨-, ev, e', -, -, ha, hh⟩ | ⟨-, hh⟩
  · obtain ⟨hb, hs⟩ := apply_setup ha
    rw [hh, setup_setBinding _ (by rw [hb]), hs]
  · rw [hh]

end Entity

theorem Binding.id_attach {σ : Type} {b b' : Binding} {l l' : Link σ} {who : σ}
    (h : b.attach l who = .ok (b', l')) : b'.id = b.id := by
  obtain ⟨-, -, h⟩ := bind_eq_ok h
  split at h
  · cases h
    rfl
  · cases h
    rfl

namespace Config

/-- A checked configuration moves volume by a positive step. -/
theorem volumeStep_pos {c : Config} (h : c.validate = .ok ()) : 0 < c.volumeStep := by
  unfold Config.validate at h
  obtain ⟨m, -, h⟩ := bind_eq_ok h
  -- a step that is not positive is refused, whatever the port
  by_contra hneg
  have hle : c.volumeStep ≤ 0 := by omega
  by_cases hp : (Text.trim c.effectivePort).isEmpty <;>
    simp [hp, hle, bind, Except.bind, throw, throwThe, MonadExceptOf.throw] at h

theorem lookup_of_modelSpec {c : Config} {m : ModelSpec} (h : c.modelSpec = .ok m) :
    ModelSpec.lookup c.model = some m := by
  unfold modelSpec at h
  split at h
  · cases h
    assumption
  · cases h

end Config

namespace Dial

theorem entityKind_of_mem_zoneDials {d : Dial} (h : d ∈ zoneDials) : d.entityKind = .zone := by
  simp only [zoneDials, List.mem_cons, List.not_mem_nil, or_false] at h
  rcases h with rfl | rfl | rfl | rfl | rfl | rfl | rfl <;> rfl

theorem entityKind_of_mem_sourceDials {d : Dial} (h : d ∈ sourceDials) : d.entityKind = .source := by
  simp only [sourceDials, List.mem_cons, List.not_mem_nil, or_false] at h
  rw [h]
  rfl

end Dial

/-- Every entity of a built bridge is made for its model, zones, sources and volume step. -/
theorem Bridge.made_build {entry : String} {m : ModelSpec} {zones sources : IdMap} {vs : Int}
    {i : Nat} {x : Entity} (h : (Bridge.build entry m zones sources vs).entity? i = some x) :
    x.setup.Made m zones sources vs := by
  -- players and switches of the zones, dials of the zones and of the sources
  rcases Bridge.entity?_build h with ⟨z, nm, hz, rfl⟩ | ⟨z, nm, hz, rfl⟩ |
    ⟨id, nm, d, ⟨hz, hd⟩ | ⟨hs, hd⟩, rfl⟩
  · exact ⟨rfl, List.mem_map.2 ⟨(z, nm), hz, rfl⟩, rfl, rfl, rfl⟩
  · exact ⟨rfl, List.mem_map.2 ⟨(z, nm), hz, rfl⟩⟩
  · have hk := Dial.entityKind_of_mem_zoneDials hd
    refine ⟨rfl, ?_, rfl⟩
    simp only [Target.Configured, hk]
    exact List.mem_map.2 ⟨(id, nm), hz, rfl⟩
  · have hk := Dial.entityKind_of_mem_sourceDials hd
    refine ⟨rfl, ?_, rfl⟩
    simp only [Target.Configured, hk]
    exact List.mem_map.2 ⟨(id, nm), hs, rfl⟩

/-! ### No step changes what an entity is made with -/

namespace Bridge

/-- What the entity at each place is made with. -/
def setups (b : Bridge) (i : Nat) : Option Entity.Setup := (b.entity? i).map Entity.setup

theorem setups_of_entities {b b' : Bridge} (h : b'.entities = b.entities) :
    b'.setups = b.setups := by
  funext i
  simp [setups, entity?, h]

@[simp] theorem setups_withLink (b : Bridge) (l : Link Nat) : { b with link := l }.setups = b.setups :=
  rfl

@[simp] theorem setups_withRefresh (b : Bridge) (r : Broadcast EntityId) :
    { b with refresh := r }.setups = b.setups :=
  rfl

theorem setups_setEntity {b : Bridge} {i : Nat} {e e' : Entity} (he : b.entity? i = some e)
    (h : e'.setup = e.setup) : (b.setEntity i e').setups = b.setups := by
  funext j
  simp only [setups, entity?_setEntity]
  split_ifs with hij
  · obtain ⟨rfl, -⟩ := hij
    simp [he, h]
  · rfl

theorem setups_foldl {α : Type} {f : Bridge → α → Bridge} (hf : ∀ b a, (f b a).setups = b.setups)
    (l : List α) (b : Bridge) : (l.foldl f b).setups = b.setups := by
  induction l generalizing b with
  | nil => rfl
  | cons a l ih => rw [List.foldl_cons, ih, hf]

/-- A fold that carries a bridge beside other data keeps what the entities are made with when
each of its steps does. -/
theorem setups_foldl_fst {α β : Type} {f : Bridge × β → α → Bridge × β}
    (hf : ∀ p a, (f p a).1.setups = p.1.setups) (l : List α) (p : Bridge × β) :
    (l.foldl f p).1.setups = p.1.setups := by
  induction l generalizing p with
  | nil => rfl
  | cons a l ih => rw [List.foldl_cons, ih, hf]

@[simp] theorem setups_handleAt (b : Bridge) (n : Notification) (i : Nat) :
    (b.handleAt n i).setups = b.setups := by
  cases h : b.entity? i with
  | none => rw [handleAt_of_none h]
  | some x =>
    rw [handleAt_of_entity h]
    exact setups_setEntity h (x.setup_handle n)

@[simp] theorem setups_deliver (b : Bridge) (n : Notification) :
    (b.deliver n).1.setups = b.setups := by
  rw [deliver_eq]
  exact (setups_foldl (fun b i => setups_handleAt b n i) _ _).trans (setups_of_entities rfl)

@[simp] theorem setups_attach (b : Bridge) (i : Nat) : (b.attach i).1.setups = b.setups := by
  unfold attach
  split
  · rfl
  · rename_i e he
    split
    · rfl
    · rename_i bd link ha
      exact setups_setEntity (b := { b with link := _ }) he
        (e.setup_setBinding (Binding.id_attach ha))

@[simp] theorem setups_attachEach (b : Bridge) (is : List Nat) :
    (b.attachEach is).1.setups = b.setups := by
  rw [attachEach_fst]
  exact setups_foldl (fun b i => setups_attach b i) _ _

@[simp] theorem setups_detach (b : Bridge) (i : Nat) : (b.detach i).setups = b.setups := by
  unfold detach
  split
  · rfl
  · rename_i e he
    exact setups_setEntity (b := { b with link := _ }) he (e.setup_setBinding rfl)

@[simp] theorem setups_detachAll (b : Bridge) : b.detachAll.setups = b.setups :=
  setups_foldl setups_detach _ _

@[simp] theorem entities_sendFrom (b : Bridge) (i : Nat) (r : Outcome (Option Request)) :
    (b.sendFrom i r).1.entities = b.entities := by
  unfold sendFrom
  split
  · rfl
  · rfl
  · rfl
  · split
    · rfl
    · split <;> rfl

@[simp] theorem setups_callPlayer (b : Bridge) (i : Nat) (c : PlayerCall) :
    (b.callPlayer i c).1.setups = b.setups := by
  unfold callPlayer
  split
  · exact setups_of_entities (entities_sendFrom _ _ _)
  · rfl

@[simp] theorem setups_setSwitch (b : Bridge) (i : Nat) (on : Bool) :
    (b.setSwitch i on).1.setups = b.setups := by
  unfold setSwitch
  split
  · exact setups_of_entities (entities_sendFrom _ _ _)
  · rfl

@[simp] theorem setups_setDial (b : Bridge) (i : Nat) (v : Float) :
    (b.setDial i v).1.setups = b.setups := by
  unfold setDial
  split
  · exact setups_of_entities (entities_sendFrom _ _ _)
  · rfl

@[simp] theorem setups_askStatus (b : Bridge) (i : Nat) : (b.askStatus i).1.setups = b.setups := by
  unfold askStatus
  split
  · split
    · rfl
    · split <;> rfl
  · rfl

@[simp] theorem setups_saveStatus (b : Bridge) (i : Nat) (t : Outcome Nat) :
    (b.saveStatus i t).1.setups = b.setups := by
  unfold saveStatus
  split
  · rfl
  · split
    · rename_i x hx
      exact setups_setEntity hx rfl
    all_goals rfl

@[simp] theorem setups_close (b : Bridge) : b.close.setups = b.setups := setups_of_entities rfl

theorem setups_snapshot (b : Bridge) (is : List Nat) {meanwhile : Bridge → Bridge}
    (hm : ∀ b, (meanwhile b).setups = b.setups) : (b.snapshot is meanwhile).1.setups = b.setups := by
  unfold snapshot
  dsimp only
  -- saving the statuses, what happened meanwhile, and asking for them, each keep the setups
  refine (setups_foldl_fst ?_ _ _).trans ?_
  · rintro ⟨b, r⟩ ⟨i, t⟩
    exact setups_saveStatus b i t
  dsimp only
  rw [setups_withLink, hm]
  refine setups_foldl_fst ?_ _ _
  rintro ⟨b, ts⟩ i
  exact setups_askStatus b i

@[simp] theorem setups_restoreAt (b : Bridge) (i : Nat) : (b.restoreAt i).1.setups = b.setups := by
  unfold restoreAt
  split
  · split
    · rfl
    · split <;> rfl
  · rfl

@[simp] theorem setups_restore (b : Bridge) (is : List Nat) :
    (b.restore is).1.setups = b.setups := by
  refine setups_foldl_fst ?_ _ _
  rintro ⟨b, r⟩ i
  exact setups_restoreAt b i

end Bridge

namespace Session

@[simp] theorem setups_deliverTimes (b : Bridge) (n : Notification) (k : Nat) :
    (deliverTimes b n k).1.setups = b.setups := by
  induction k generalizing b with
  | zero => rfl
  | succ k ih =>
    simp only [deliverTimes]
    rw [ih, Bridge.setups_deliver]

@[simp] theorem setups_deliverAll (b : Bridge) (ns : List Notification) :
    (deliverAll b ns).setups = b.setups :=
  Bridge.setups_foldl (fun b n => Bridge.setups_deliver b n) _ _

@[simp] theorem setups_meanwhile (answers : List Notification) (close : Bool) (b : Bridge) :
    (meanwhile answers close b).setups = b.setups := by
  unfold meanwhile
  rw [setups_deliverAll]
  split <;> simp

theorem setups_withEntity (s : Session) (r : EntityRef) {f : Nat → Bridge × Reply}
    (hf : ∀ i, (f i).1.setups = s.bridge.setups) :
    (s.withEntity r f).1.bridge.setups = s.bridge.setups := by
  unfold withEntity
  split
  · rfl
  · exact hf _

@[simp] theorem setups_zoneStep (b : Bridge) (i : Nat) (a : ZoneAction) :
    (zoneStep b i a).1.setups = b.setups := by
  cases a with
  | call c => exact b.setups_callPlayer i c
  | snapshot answers close => exact b.setups_snapshot [i] (setups_meanwhile answers close)
  | restore => exact b.setups_restore [i]
  | info => rfl

/-- No step of a session changes what its entities are made with. -/
theorem setups_step (s : Session) (st : SessionStep) :
    (s.step st).1.bridge.setups = s.bridge.setups := by
  cases st with
  | entities | isClosed | subscriberCount _ => rfl
  | attachAll => exact s.bridge.setups_attachEach _
  | detachAll => exact s.bridge.setups_detachAll
  | attach e => exact s.setups_withEntity e fun i => s.bridge.setups_attach i
  | detach e => exact s.setups_withEntity e fun i => s.bridge.setups_detach i
  | state e | deviceInfo e => exact s.setups_withEntity e fun _ => rfl
  | deliver n times => exact setups_deliverTimes _ _ _
  | deliverText text =>
    simp only [step]
    split
    · rfl
    · exact s.bridge.setups_deliver _
  | recvRefresh push times =>
    simp only [step]
    split
    · rfl
    · -- taking a refresh signal only moves the channel
      dsimp only
      rw [Bridge.setups_withRefresh]
      split
      · exact setups_deliverTimes _ _ _
      · rfl
  | client ids =>
    simp only [step]
    split <;> rfl
  | close => exact s.bridge.setups_close
  | zone id a =>
    refine s.setups_withEntity _ fun i => ?_
    cases a with
    | ok a => exact setups_zoneStep _ _ _
    | error r => rfl
  | dial d id v =>
    cases v with
    | none => exact s.setups_withEntity _ fun _ => rfl
    | some v => exact s.setups_withEntity _ fun i => s.bridge.setups_setDial i v
  | switch id on => exact s.setups_withEntity _ fun i => s.bridge.setups_setSwitch i on
  | snapshot zones answers close =>
    simp only [step]
    split
    · rfl
    · exact s.bridge.setups_snapshot _ (setups_meanwhile answers close)
  | restore zones =>
    simp only [step]
    split
    · rfl
    · exact s.bridge.setups_restore _

/-- A report that did not panic drains the refresh channel of the session it reports on: the
stepped session, or the session itself when the step could not be read. -/
theorem setups_runReported {s s' : Session} {st : Except Reply SessionStep} {j : Json}
    (h : s.runReported st = .ok (s', j)) : s'.bridge.setups = s.bridge.setups := by
  cases st with
  | ok st =>
    simp only [runReported] at h
    generalize hp : s.step st = p at h
    obtain ⟨s₁, reply⟩ := p
    dsimp only at h
    split at h
    · cases h
    · split at h
      · cases h
      · obtain ⟨states, -, h⟩ := bind_eq_ok h
        cases h
        rw [Bridge.setups_withRefresh, ← s.setups_step st, hp]
  | error r =>
    simp only [runReported] at h
    split at h
    · cases h
    · split at h
      · cases h
      · obtain ⟨states, -, h⟩ := bind_eq_ok h
        cases h
        exact Bridge.setups_withRefresh _ _

/-- The sessions a checked configuration reaches: its own session, then the session after any
step of the host or the amplifier that did not panic, reported. -/
inductive Reachable (c : Config) : Session → Prop
  | start {s : Session} : Session.ofConfig c = .ok s → Reachable c s
  | step {s s' : Session} {j : Json} (st : Except Reply SessionStep) : Reachable c s →
      s.runReported st = .ok (s', j) → Reachable c s'

/-- Every reachable session has the entities of the checked configuration's own bridge, as they
were made. -/
theorem Reachable.setups {c : Config} {s : Session} (h : s.Reachable c) :
    ∃ b₀, Bridge.ofConfig c = .ok b₀ ∧ s.bridge.setups = b₀.setups := by
  induction h with
  | start h =>
    obtain ⟨b, hb, h⟩ := bind_eq_ok h
    cases h
    exact ⟨b, hb, rfl⟩
  | step st _ hrun ih =>
    obtain ⟨b₀, hb, hs⟩ := ih
    exact ⟨b₀, hb, (setups_runReported hrun).trans hs⟩

/-- In every reachable session each entity is as it was made for the configuration's model,
zones, sources and volume step, and that step is positive. -/
theorem Reachable.made {c : Config} {s : Session} (h : s.Reachable c) :
    ∃ m, ModelSpec.lookup c.model = some m ∧ 0 < c.volumeStep ∧
      ∀ i e, s.bridge.entity? i = some e →
        e.setup.Made m c.effectiveZones c.effectiveSources c.volumeStep := by
  obtain ⟨b₀, hb, hs⟩ := h.setups
  obtain ⟨_, hval, hb⟩ := bind_eq_ok hb
  obtain ⟨m, hm, hb⟩ := bind_eq_ok hb
  cases hb
  refine ⟨m, Config.lookup_of_modelSpec hm, Config.volumeStep_pos hval, fun i e he => ?_⟩
  -- the entity at `i` is made as the one the configuration's bridge has there
  have hi := congrFun hs i
  simp only [Bridge.setups, he, Option.map_some] at hi
  obtain ⟨e₀, he₀, hsetup⟩ := Option.map_eq_some_iff.1 hi.symm
  rw [← hsetup]
  exact Bridge.made_build he₀

end Session

/-! ### What the calls of the host send -/

namespace Bridge

/-- Sending what an entity computed adds at most that request to what was sent. -/
theorem sent_sendFrom (b : Bridge) (i : Nat) (r : Outcome (Option Request)) :
    ∃ rs, (b.sendFrom i r).1.link.sent = b.link.sent ++ rs ∧ ∀ q ∈ rs, r = .ok (some q) := by
  unfold sendFrom
  split
  · exact ⟨[], by simp, by simp⟩
  · exact ⟨[], by simp, by simp⟩
  · exact ⟨[], by simp, by simp⟩
  · rename_i req _ _
    split
    · exact ⟨[], by simp, by simp⟩
    · split
      · rename_i link hl
        refine ⟨[req], ?_, by simp⟩
        unfold Link.enqueue at hl
        split at hl
        · cases hl
          rfl
        · cases hl
      · exact ⟨[], by simp, by simp⟩

theorem sent_callPlayer (b : Bridge) (i : Nat) (call : PlayerCall) :
    ∃ rs, (b.callPlayer i call).1.link.sent = b.link.sent ++ rs ∧
      ∀ q ∈ rs, ∃ x, b.entity? i = some (.player x) ∧ x.tracked.requestFor call = .ok (some q) := by
  unfold callPlayer
  split
  · rename_i x hx
    obtain ⟨rs, hsent, hrs⟩ := b.sent_sendFrom i (x.tracked.requestFor call)
    exact ⟨rs, hsent, fun q hq => ⟨x, hx, hrs q hq⟩⟩
  · exact ⟨[], by simp, by simp⟩

theorem sent_setDial (b : Bridge) (i : Nat) (v : Float) :
    ∃ rs, (b.setDial i v).1.link.sent = b.link.sent ++ rs ∧
      ∀ q ∈ rs, ∃ x c, b.entity? i = some (.dial x) ∧
        x.tracked.dial.command x.binding.id.target.id v x.tracked.scale = .ok c ∧ q = .command c := by
  unfold setDial
  split
  · rename_i x hx
    obtain ⟨rs, hsent, hrs⟩ := b.sent_sendFrom i
      ((fun c => some (.command c)) <$> x.tracked.dial.command x.binding.id.target.id v
        x.tracked.scale)
    refine ⟨rs, hsent, fun q hq => ?_⟩
    obtain ⟨c, hc, hq⟩ := map_eq_ok (hrs q hq)
    exact ⟨x, c, hx, hc, (Option.some.inj hq).symm⟩
  · exact ⟨[], by simp, by simp⟩

theorem sent_setSwitch (b : Bridge) (i : Nat) (on : Bool) :
    ∃ rs, (b.setSwitch i on).1.link.sent = b.link.sent ++ rs ∧
      ∀ q ∈ rs, ∃ e, b.entity? i = some e ∧ q = .command (.setLoudnessComp e.id.target.id on) := by
  unfold setSwitch
  split
  · rename_i e he
    obtain ⟨rs, hsent, hrs⟩ := b.sent_sendFrom i
      (.ok (some (.command (.setLoudnessComp e.id.target.id on))))
    refine ⟨rs, hsent, fun q hq => ⟨e, he, ?_⟩⟩
    have := hrs q hq
    simp only [Except.ok.injEq, Option.some.injEq] at this
    exact this.symm
  · exact ⟨[], by simp, by simp⟩

theorem entity?_of_findIndex? {b : Bridge} {p : Entity → Bool} {i : Nat}
    (h : b.findIndex? p = some i) : ∃ e, b.entity? i = some e ∧ p e = true := by
  obtain ⟨hi, hp, -⟩ := Array.findIdx?_eq_some_iff_getElem.1 h
  exact ⟨_, Array.getElem?_eq_getElem hi, hp⟩

end Bridge

namespace Session

/-- The switch a step names is a loudness switch. -/
theorem place_switch {s : Session} {id : UInt8} {i : Nat} (h : s.place (.switch id) = .ok i) :
    ∃ x, s.bridge.entity? i = some (.loudness x) := by
  unfold place at h
  cases hs : s.bridge.switchIndex? id with
  | none => simp [hs] at h
  | some j =>
    simp only [hs, Option.elim, Except.ok.injEq] at h
    subst h
    obtain ⟨e, he, hp⟩ := Bridge.entity?_of_findIndex? hs
    cases e with
    | loudness x => exact ⟨x, he⟩
    | player _ | dial _ => simp at hp

/-- The requests a step adds come after all that was sent before, and every command among them
is for the entity the step names: its zone or source is configured, and the command fits it on
model `m`. -/
def SendsFitting (m : ModelSpec) (c : Config) (s s' : Session) (r : EntityRef) : Prop :=
  ∃ rs, s'.bridge.link.sent = s.bridge.link.sent ++ rs ∧
    ∀ cmd, .command cmd ∈ rs → ∃ i e, s.place r = .ok i ∧ s.bridge.entity? i = some e ∧
      e.id.target.Configured c.effectiveZones c.effectiveSources ∧
      cmd.Fits m c.effectiveSources e.id.target

theorem sendsFitting_withEntity {m : ModelSpec} {c : Config} {s : Session} {r : EntityRef}
    {f : Nat → Bridge × Reply}
    (hf : ∀ i, s.place r = .ok i → ∃ rs, (f i).1.link.sent = s.bridge.link.sent ++ rs ∧
      ∀ cmd, .command cmd ∈ rs → ∃ e, s.bridge.entity? i = some e ∧
        e.id.target.Configured c.effectiveZones c.effectiveSources ∧
        cmd.Fits m c.effectiveSources e.id.target) :
    SendsFitting m c s (s.withEntity r f).1 r := by
  unfold withEntity
  split
  · exact ⟨[], by simp, by simp⟩
  · rename_i i hi
    obtain ⟨rs, hsent, hrs⟩ := hf i hi
    refine ⟨rs, hsent, fun cmd hc => ?_⟩
    obtain ⟨e, he, hconf, hfits⟩ := hrs cmd hc
    exact ⟨i, e, hi, he, hconf, hfits⟩

/-- Every command that a call of the host sends in a reachable session is for the entity it
calls, whose zone or source the configuration lists, and fits the model's scales: through a zone
player (every call, volume steps included), a dial (every one of its eight kinds) and a loudness
switch. -/
theorem calls_send_fitting_commands {c : Config} {m : ModelSpec}
    (hm : ModelSpec.lookup c.model = some m) {s : Session} (hs : s.Reachable c) :
    (∀ id call, SendsFitting m c s (s.step (.zone id (.ok (.call call)))).1 (.zone id)) ∧
    (∀ d id v, SendsFitting m c s (s.step (.dial d id (some v))).1 (.dial d id)) ∧
    (∀ id on, SendsFitting m c s (s.step (.switch id on)).1 (.switch id)) := by
  obtain ⟨m', hm', hvs, hmade⟩ := hs.made
  obtain rfl : m = m' := Option.some.inj (hm.symm.trans hm')
  have hcm : m.Commandable := ModelSpec.commandable_of_mem (List.mem_of_find?_eq_some hm)
  refine ⟨fun id call => ?_, fun d id v => ?_, fun id on => ?_⟩
  · refine sendsFitting_withEntity fun i _ => ?_
    obtain ⟨rs, hsent, hrs⟩ := s.bridge.sent_callPlayer i call
    refine ⟨rs, hsent, fun cmd hc => ?_⟩
    obtain ⟨x, hx, hreq⟩ := hrs _ hc
    -- the player converts with the model, the configured sources and the volume step
    obtain ⟨htarget, hconf, hmodel, hsrc, hstep⟩ := hmade i _ hx
    have hfits := x.tracked.requestFor_fits (hmodel ▸ hcm) (hstep ▸ hvs.le) hreq
    rw [hmodel, hsrc] at hfits
    exact ⟨_, hx, hconf, htarget ▸ hfits⟩
  · refine sendsFitting_withEntity fun i _ => ?_
    obtain ⟨rs, hsent, hrs⟩ := s.bridge.sent_setDial i v
    refine ⟨rs, hsent, fun cmd hc => ?_⟩
    obtain ⟨x, c', hx, hcmd, hq⟩ := hrs _ hc
    obtain rfl : cmd = c' := Request.command.inj hq
    -- the dial converts with the model's scale of its control, for its own zone or source
    obtain ⟨hkind, hconf, hscale⟩ := hmade i _ hx
    rw [hscale] at hcmd
    have hfits := Dial.command_fits hcm _ _ v c.effectiveSources hcmd
    rw [← hkind] at hfits
    exact ⟨_, hx, hconf, hfits⟩
  · refine sendsFitting_withEntity fun i hi => ?_
    obtain ⟨x, hx⟩ := place_switch hi
    obtain ⟨rs, hsent, hrs⟩ := s.bridge.sent_setSwitch i on
    refine ⟨rs, hsent, fun cmd hc => ?_⟩
    obtain ⟨e, he, hq⟩ := hrs _ hc
    obtain rfl : e = .loudness x := Option.some.inj (he.symm.trans hx)
    obtain rfl : cmd = _ := Request.command.inj hq
    -- a switch is for a configured zone
    obtain ⟨hkind, hconf⟩ := hmade i _ hx
    refine ⟨_, hx, hconf, ?_⟩
    show x.binding.id.target = .zone x.binding.id.target.id
    rw [Target.zone, ← hkind]

/-- One zone and one source of the larger model, once every entity is attached. -/
theorem calls_send_fitting_commands_attached :
    let c : Config :=
      { port := "/dev/ttyUSB0", model := "Grand_Concerto", zones := [(1, "Kitchen")],
        sources := [(2, "Radio")], volumeStep := 5 }
    let s₀ : Session :=
      { bridge := Bridge.build "" .grandConcerto [(1, "Kitchen")] [(2, "Radio")] 5, config := some c }
    let s := match s₀.runReported (.ok .attachAll) with
      | .ok (s, _) => s
      | .error _ => s₀
    ModelSpec.lookup c.model = some .grandConcerto ∧ Session.ofConfig c = .ok s₀ ∧ s.Reachable c ∧
    (∀ id call, SendsFitting .grandConcerto c s (s.step (.zone id (.ok (.call call)))).1 (.zone id)) ∧
    (∀ d id v, SendsFitting .grandConcerto c s (s.step (.dial d id (some v))).1 (.dial d id)) ∧
    (∀ id on, SendsFitting .grandConcerto c s (s.step (.switch id on)).1 (.switch id)) := by
  intro c s₀ s
  have hm : ModelSpec.lookup c.model = some .grandConcerto := by
    dsimp only [c]
    rfl
  have hs₀ : Session.ofConfig c = .ok s₀ := by
    dsimp only [c, s₀]
    rfl
  -- attaching every entity panics nowhere
  have hrun : s₀.runReported (.ok .attachAll) =
      .ok (s, match s₀.runReported (.ok .attachAll) with
        | .ok (_, j) => j
        | .error _ => .null) := by
    dsimp only [s, s₀, c]
    rfl
  have hs : s.Reachable c := (Reachable.start hs₀).step (.ok .attachAll) hrun
  exact ⟨hm, hs₀, hs, calls_send_fitting_commands hm hs⟩

end Session

end ZoneBridge
