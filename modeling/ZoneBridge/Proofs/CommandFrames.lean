import Mathlib
import ZoneBridge.Proofs.Sessions
import ZoneBridge.Proofs.Queries

/-!
# Commands leave the cached state alone

What an entity shows the host (`Entity.Cached`) is whether it is available, its lifecycle and
the state it keeps from the amplifier's pushes; a zone player's saved snapshot is no part of it.
A command of the host only computes requests and hands them to the link, so no command changes
what any entity shows: a zone player's calls and restore, a dial's new value and a loudness
switch's setting keep the entities as they were, and a snapshot changes only the saved status,
so what it leaves shown is what the pushes during its wait made of it.

A command that fails has handed nothing to the link: the conversions and the source lookup run
before the link is used, and a link that refuses one request refuses every request, so a
restore sends all of its requests or none. A snapshot's query may have gone out before its wait
failed; a snapshot that fails keeps the saved status, so a later restore sends what it would have
sent before (`Bridge.commands_change_no_cached_state`).
-/

namespace ZoneBridge

/-- What an entity shows the host and keeps from the amplifier's pushes: whether it is
available, its lifecycle and, by kind, the state it keeps. -/
inductive Entity.Cached where
  | player (available : Bool) (lifecycle : Lifecycle) (state : PlayerState)
  | loudness (available : Bool) (lifecycle : Lifecycle) (reading : LoudnessReading)
  | dial (available : Bool) (lifecycle : Lifecycle) (reading : DialReading)

namespace Entity

/-- What an entity shows; a zone player's saved snapshot is no part of it. -/
def cached : Entity → Cached
  | .player x => .player x.binding.available x.binding.lifecycle x.tracked.state
  | .loudness x => .loudness x.binding.available x.binding.lifecycle x.tracked
  | .dial x => .dial x.binding.available x.binding.lifecycle x.tracked

/-- The requests a restore of the entity sends: those of a zone player's saved status, none
when no snapshot was taken. -/
def savedRequests : Entity → List Request
  | .player x => (x.tracked.saved.map x.tracked.restoreRequests).getD []
  | _ => []

/-- An event a tracker takes in never touches a zone player's zone or saved status. -/
theorem savedRequests_apply {e e' : Entity} {ev : DeviceEvent} (h : e.apply ev = .ok e') :
    e'.savedRequests = e.savedRequests := by
  cases e with
  | player x =>
    rw [apply_player] at h
    obtain ⟨p', hp, rfl⟩ := map_eq_ok h
    obtain ⟨st, rfl⟩ := Player.eq_of_take hp
    rfl
  | loudness x =>
    obtain ⟨r, -, rfl⟩ := map_eq_ok h
    rfl
  | dial x =>
    obtain ⟨r, -, rfl⟩ := map_eq_ok h
    rfl

@[simp] theorem savedRequests_setBinding (e : Entity) (b : Binding) :
    (e.setBinding b).savedRequests = e.savedRequests := by
  cases e <;> rfl

@[simp] theorem savedRequests_handle (e : Entity) (n : Notification) :
    (e.handle n).2.savedRequests = e.savedRequests := by
  rcases e.handle_cases n with ⟨-, ev, e', -, -, ha, hh⟩ | ⟨-, hh⟩
  · rw [hh, savedRequests_setBinding, savedRequests_apply ha]
  · rw [hh]

end Entity

namespace Link

variable {σ : Type} {l : Link σ}

/-- An open link that is read takes every request, in order. -/
theorem enqueueAll_of_open (h : (l.isOpen && l.receiving) = true) (rs : List Request) :
    l.enqueueAll rs = ({ l with sent := l.sent ++ rs }, .ok ()) := by
  induction rs generalizing l with
  | nil => simp [enqueueAll]
  | cons r rs ih =>
    -- a request taken leaves the link open and read
    have h' : (({ l with sent := l.sent ++ [r] } : Link σ).isOpen &&
        ({ l with sent := l.sent ++ [r] } : Link σ).receiving) = true := h
    simp only [enqueueAll, enqueue, h, if_true]
    rw [ih h']
    simp

/-- A link that refuses a request refuses all, and is left as it was. -/
theorem enqueueAll_of_closed (h : (l.isOpen && l.receiving) = false) {rs : List Request}
    (hrs : rs ≠ []) : l.enqueueAll rs = (l, .error .connectionUnavailable) := by
  obtain ⟨r, rs, rfl⟩ := List.exists_cons_of_ne_nil hrs
  simp [enqueueAll, enqueue, h]

end Link

namespace Bridge

variable {b : Bridge} {i : Nat}

/-- What the entity at each place shows. -/
def cached (b : Bridge) (i : Nat) : Option Entity.Cached := (b.entity? i).map Entity.cached

/-- The requests a restore of the entity at a place sends. -/
def savedRequests (b : Bridge) (i : Nat) : List Request :=
  ((b.entity? i).map Entity.savedRequests).getD []

theorem cached_of_entities {b' : Bridge} (h : b'.entities = b.entities) : b'.cached = b.cached := by
  funext j
  simp [cached, entity?, h]

theorem savedRequests_of_entities {b' : Bridge} (h : b'.entities = b.entities) :
    b'.savedRequests = b.savedRequests := by
  funext j
  simp [savedRequests, entity?, h]

theorem cached_setEntity {e e' : Entity} (he : b.entity? i = some e) (h : e'.cached = e.cached) :
    (b.setEntity i e').cached = b.cached := by
  funext j
  simp only [cached, entity?_setEntity]
  split_ifs with hij
  · obtain ⟨rfl, -⟩ := hij
    simp [he, h]
  · rfl

theorem savedRequests_setEntity {e e' : Entity} (he : b.entity? i = some e)
    (h : e'.savedRequests = e.savedRequests) : (b.setEntity i e').savedRequests = b.savedRequests := by
  funext j
  simp only [savedRequests, entity?_setEntity]
  split_ifs with hij
  · obtain ⟨rfl, -⟩ := hij
    simp [he, h]
  · rfl

/-! ### Sending what an entity computed -/

/-- Sending what an entity computed: nothing changes but the requests handed to the link, and
only when the request goes out. -/
theorem sendFrom_cases (b : Bridge) (i : Nat) (r : Outcome (Option Request)) :
    (∃ e, b.sendFrom i r = (b, .error e)) ∨ b.sendFrom i r = (b, .ok ()) ∨
      ∃ req, r = .ok (some req) ∧
        b.sendFrom i r = ({ b with link := { b.link with sent := b.link.sent ++ [req] } }, .ok ()) := by
  unfold sendFrom
  split
  · exact .inl ⟨_, rfl⟩
  · exact .inr (.inl rfl)
  · exact .inr (.inl rfl)
  · rename_i req _ _
    split
    · exact .inl ⟨_, rfl⟩
    · by_cases hopen : (b.link.isOpen && b.link.receiving) = true
      · exact .inr (.inr ⟨req, rfl, by simp [Link.enqueue, hopen]⟩)
      · exact .inl ⟨.connectionUnavailable, by simp [Link.enqueue, hopen]⟩

theorem sendFrom_of_error {r : Outcome (Option Request)} {e : BridgeError}
    (h : (b.sendFrom i r).2 = .error e) : (b.sendFrom i r).1 = b := by
  -- a request that went out ends in success
  rcases b.sendFrom_cases i r with ⟨e', he⟩ | he | ⟨req, -, he⟩ <;> rw [he] at h ⊢
  cases h

theorem callPlayer_cases (b : Bridge) (i : Nat) (c : PlayerCall) :
    b.callPlayer i c = (b, .ok ()) ∨ ∃ x, b.entity? i = some (.player x) ∧
      b.callPlayer i c = b.sendFrom i (x.tracked.requestFor c) := by
  unfold callPlayer
  split
  · exact .inr ⟨_, ‹_›, rfl⟩
  · exact .inl rfl

theorem setDial_cases (b : Bridge) (i : Nat) (v : Float) :
    b.setDial i v = (b, .ok ()) ∨ ∃ r, b.setDial i v = b.sendFrom i r := by
  unfold setDial
  split
  · exact .inr ⟨_, rfl⟩
  · exact .inl rfl

theorem setSwitch_cases (b : Bridge) (i : Nat) (on : Bool) :
    b.setSwitch i on = (b, .ok ()) ∨ ∃ r, b.setSwitch i on = b.sendFrom i r := by
  unfold setSwitch
  split
  · exact .inr ⟨_, rfl⟩
  · exact .inl rfl

/-- A zone player's call, a dial's new value and a switch's setting, which only send what the
entity computed. -/
theorem sends_of_cases (i : Nat) {f : Bridge × Outcome Unit} (hf : f = (b, .ok ()) ∨ ∃ r, f = b.sendFrom i r) :
    f.1.entities = b.entities ∧ (∀ e, f.2 = .error e → f.1 = b) := by
  rcases hf with rfl | ⟨r, rfl⟩
  · exact ⟨rfl, fun e h => by cases h⟩
  · exact ⟨entities_sendFrom b i r, fun e h => sendFrom_of_error h⟩

theorem sends_callPlayer (b : Bridge) (i : Nat) (c : PlayerCall) :
    (b.callPlayer i c).1.entities = b.entities ∧
      ∀ e, (b.callPlayer i c).2 = .error e → (b.callPlayer i c).1 = b := by
  refine sends_of_cases i ?_
  rcases b.callPlayer_cases i c with h | ⟨x, -, h⟩
  · exact .inl h
  · exact .inr ⟨_, h⟩

theorem sends_setDial (b : Bridge) (i : Nat) (v : Float) :
    (b.setDial i v).1.entities = b.entities ∧
      ∀ e, (b.setDial i v).2 = .error e → (b.setDial i v).1 = b :=
  sends_of_cases i (b.setDial_cases i v)

theorem sends_setSwitch (b : Bridge) (i : Nat) (on : Bool) :
    (b.setSwitch i on).1.entities = b.entities ∧
      ∀ e, (b.setSwitch i on).2 = .error e → (b.setSwitch i on).1 = b :=
  sends_of_cases i (b.setSwitch_cases i on)

/-! ### Restore -/

/-- A restore sends all of the saved status's requests or, failing, none. -/
theorem restoreAt_cases (b : Bridge) (i : Nat) :
    (∃ e, b.restoreAt i = (b, .error e)) ∨
      ((b.restoreAt i).2 = .ok () ∧ (b.restoreAt i).1.entities = b.entities ∧
        (b.restoreAt i).1.link.sent = b.link.sent ++ b.savedRequests i) := by
  unfold restoreAt
  split
  · rename_i x hx
    have hs : b.savedRequests i = (x.tracked.saved.map x.tracked.restoreRequests).getD [] := by
      simp [savedRequests, hx, Entity.savedRequests]
    split
    · rename_i hsv
      exact .inr ⟨rfl, rfl, by simp [hs, hsv]⟩
    · rename_i s hsv
      rw [hsv] at hs
      split
      · exact .inl ⟨_, rfl⟩
      · -- the requests of a saved status start with its power, so there is at least one
        by_cases hopen : (b.link.isOpen && b.link.receiving) = true
        · rw [Link.enqueueAll_of_open hopen]
          exact .inr ⟨rfl, rfl, by simp [hs]⟩
        · rw [Link.enqueueAll_of_closed (Bool.eq_false_iff.mpr hopen)
            (by simp [Player.restoreRequests])]
          exact .inl ⟨_, rfl⟩
  · rename_i hnp
    -- a place without a zone player has nothing to restore
    have hs : b.savedRequests i = [] := by
      unfold savedRequests
      cases he : b.entity? i with
      | none => rfl
      | some e =>
        cases e with
        | player x => exact absurd he (hnp x)
        | loudness _ | dial _ => rfl
    exact .inr ⟨rfl, rfl, by simp [hs]⟩

/-! ### Snapshot -/

/-- A snapshot of one place: the query, what happens meanwhile, the timers running out, and the
saving of the answer. -/
theorem snapshot_single (b : Bridge) (i : Nat) (meanwhile : Bridge → Bridge) :
    b.snapshot [i] meanwhile =
      ((({ meanwhile (b.askStatus i).1 with
          link := (meanwhile (b.askStatus i).1).link.expire } : Bridge).saveStatus i
        (b.askStatus i).2).1,
       (({ meanwhile (b.askStatus i).1 with
          link := (meanwhile (b.askStatus i).1).link.expire } : Bridge).saveStatus i
        (b.askStatus i).2).2) :=
  rfl

/-- Asking for a zone's status changes only the link: a query refused sends nothing, and one
taken goes out as the zone status query of the player's zone. -/
theorem askStatus_cases (b : Bridge) (i : Nat) :
    (b.askStatus i).1.entities = b.entities ∧
    ((b.askStatus i = (b, .error .connectionUnavailable)) ∨
      ∃ x t, b.entity? i = some (.player x) ∧ (b.askStatus i).2 = .ok t ∧
        (b.askStatus i).1.link.sent = b.link.sent ++ [.query ⟨.zoneStatus, x.tracked.zone⟩]) := by
  unfold askStatus
  split
  · rename_i x hx
    split
    · rename_i e he
      -- the entity has let the link go
      have : e = .connectionUnavailable := by
        unfold Binding.ready at he
        split at he <;> cases he
        rfl
      exact ⟨rfl, .inl (by rw [this])⟩
    · split
      · rename_i link t hl
        refine ⟨rfl, .inr ⟨x, t, hx, rfl, ?_⟩⟩
        obtain ⟨rfl, -⟩ := Link.ask_eq_ok hl
        rfl
      · rename_i e he
        have : e = .connectionUnavailable := by
          rw [Link.ask_eq] at he
          split at he <;> cases he
          rfl
        exact ⟨rfl, .inl (by rw [this])⟩
  · exact ⟨rfl, .inl rfl⟩

/-- Saving a snapshot's answer writes only the saved status, and a failed one writes nothing. -/
theorem saveStatus_cases (b : Bridge) (i : Nat) (t : Outcome Nat) :
    (b.saveStatus i t).1.cached = b.cached ∧ (b.saveStatus i t).1.link = b.link ∧
      ∀ e, (b.saveStatus i t).2 = .error e → (b.saveStatus i t).1 = b := by
  unfold saveStatus
  split
  · exact ⟨rfl, rfl, fun _ _ => rfl⟩
  · split
    · rename_i x hx
      exact ⟨cached_setEntity hx rfl, rfl, fun e h => by cases h⟩
    all_goals exact ⟨rfl, rfl, fun _ _ => rfl⟩

theorem savedRequests_handleAt (b : Bridge) (n : Notification) (i : Nat) :
    (b.handleAt n i).savedRequests = b.savedRequests := by
  cases h : b.entity? i with
  | none => rw [handleAt_of_none h]
  | some x =>
    rw [handleAt_of_entity h]
    exact savedRequests_setEntity h (x.savedRequests_handle n)

/-- A push settles waits and hands the message to entities: it sends nothing, and every zone
player keeps its snapshot. -/
theorem deliver_keeps (b : Bridge) (n : Notification) :
    (b.deliver n).1.link.sent = b.link.sent ∧ (b.deliver n).1.savedRequests = b.savedRequests := by
  rw [deliver_eq]
  refine ⟨?_, ?_⟩
  · rw [link_handleAll]
    unfold Link.deliver Link.answer
    split <;> rfl
  · -- each entity handed the message keeps its snapshot
    generalize b.link.hub.subscribers n.messageType = whos
    suffices h : ∀ c : Bridge, c.savedRequests = b.savedRequests →
        (whos.foldl (fun b i => b.handleAt n i) c).savedRequests = b.savedRequests from h _ rfl
    induction whos with
    | nil => exact fun c hc => hc
    | cons j rest ih => exact fun c hc => ih _ ((savedRequests_handleAt c n j).trans hc)

end Bridge

namespace Session

/-- What happens during a snapshot's wait in a session, a close and pushed answers, sends
nothing and keeps what a restore would send. -/
theorem meanwhile_keeps (answers : List Notification) (close : Bool) (b : Bridge) :
    (meanwhile answers close b).link.sent = b.link.sent ∧
      (meanwhile answers close b).savedRequests = b.savedRequests := by
  have hclose : (if close then b.close else b).link.sent = b.link.sent ∧
      (if close then b.close else b).savedRequests = b.savedRequests := by
    split <;> exact ⟨rfl, rfl⟩
  unfold meanwhile deliverAll
  generalize (if close then b.close else b) = c at hclose
  induction answers generalizing c with
  | nil => exact hclose
  | cons n rest ih =>
    obtain ⟨hs, hr⟩ := Bridge.deliver_keeps c n
    exact ih _ ⟨hs.trans hclose.1, hr.trans hclose.2⟩

end Session

namespace Bridge

/-- A snapshot changes nothing an entity shows: what it leaves shown is what happened during
its wait made of the entities as they were. -/
theorem cached_snapshot (b : Bridge) (i : Nat) (meanwhile : Bridge → Bridge) :
    ∃ b₁ : Bridge, b₁.entities = b.entities ∧
      (b.snapshot [i] meanwhile).1.cached = (meanwhile b₁).cached := by
  refine ⟨(b.askStatus i).1, (b.askStatus_cases i).1, ?_⟩
  rw [snapshot_single]
  -- saving the answer writes only the saved status; the timers touch only the link
  exact ((saveStatus_cases _ i _).1).trans (cached_of_entities rfl)

/-- A snapshot that fails in a session keeps what a restore sends, and has sent nothing, the
link having refused its query, or only that query. -/
theorem snapshot_of_error (b : Bridge) (i : Nat) (answers : List Notification) (close : Bool)
    {e : BridgeError} (h : (b.snapshot [i] (Session.meanwhile answers close)).2 = .error e) :
    (b.snapshot [i] (Session.meanwhile answers close)).1.savedRequests = b.savedRequests ∧
      ((b.snapshot [i] (Session.meanwhile answers close)).1.link.sent = b.link.sent ∧
          e = .connectionUnavailable ∨
        ∃ x, b.entity? i = some (.player x) ∧
          (b.snapshot [i] (Session.meanwhile answers close)).1.link.sent =
            b.link.sent ++ [.query ⟨.zoneStatus, x.tracked.zone⟩]) := by
  rw [snapshot_single] at h ⊢
  obtain ⟨hent, hask⟩ := b.askStatus_cases i
  obtain ⟨hsent, hsaved⟩ := Session.meanwhile_keeps answers close (b.askStatus i).1
  -- a failed save leaves the bridge as the wait left it
  rw [(saveStatus_cases _ i _).2.2 e h]
  refine ⟨hsaved.trans (savedRequests_of_entities hent), ?_⟩
  -- the timers running out settle waits and send nothing
  have hexp : ({ Session.meanwhile answers close (b.askStatus i).1 with
      link := (Session.meanwhile answers close (b.askStatus i).1).link.expire } : Bridge).link.sent =
      (b.askStatus i).1.link.sent := hsent
  rw [hexp]
  rcases hask with hask | ⟨x, t, hx, -, hq⟩
  · rw [hask] at h ⊢
    exact .inl ⟨rfl, (Except.error.inj h).symm⟩
  · exact .inr ⟨x, hx, hq⟩

/-- The commands of the host on the entity at a place, in every state of the bridge. None
changes what any entity shows: a zone player's calls and restore, a dial's new value and a
loudness switch's setting keep every entity, and a snapshot leaves shown what happened during
its wait made of the entities as they were. A zone player's call, a dial's new value and a
switch's setting that fail leave the bridge as it was; a restore that fails does too, and one
that succeeds sends every request of the saved status. A snapshot that fails in a session,
whatever was pushed and whether the link closed during its wait, keeps the saved status, so a
later restore sends what it would have sent before, and has sent at most its zone status
query. -/
theorem commands_change_no_cached_state (b : Bridge) (i : Nat) :
    (∀ c, (b.callPlayer i c).1.cached = b.cached) ∧
    (∀ v, (b.setDial i v).1.cached = b.cached) ∧
    (∀ on, (b.setSwitch i on).1.cached = b.cached) ∧
    (b.restoreAt i).1.cached = b.cached ∧
    (∀ meanwhile : Bridge → Bridge, ∃ b₁ : Bridge, b₁.entities = b.entities ∧
      (b.snapshot [i] meanwhile).1.cached = (meanwhile b₁).cached) ∧
    (∀ c e, (b.callPlayer i c).2 = .error e → (b.callPlayer i c).1 = b) ∧
    (∀ v e, (b.setDial i v).2 = .error e → (b.setDial i v).1 = b) ∧
    (∀ on e, (b.setSwitch i on).2 = .error e → (b.setSwitch i on).1 = b) ∧
    (∀ e, (b.restoreAt i).2 = .error e → (b.restoreAt i).1 = b) ∧
    ((b.restoreAt i).2 = .ok () → (b.restoreAt i).1.link.sent = b.link.sent ++ b.savedRequests i) ∧
    (∀ answers close e, (b.snapshot [i] (Session.meanwhile answers close)).2 = .error e →
      (b.snapshot [i] (Session.meanwhile answers close)).1.savedRequests = b.savedRequests ∧
      ((b.snapshot [i] (Session.meanwhile answers close)).1.link.sent = b.link.sent ∧
          e = .connectionUnavailable ∨
        ∃ x, b.entity? i = some (.player x) ∧
          (b.snapshot [i] (Session.meanwhile answers close)).1.link.sent =
            b.link.sent ++ [.query ⟨.zoneStatus, x.tracked.zone⟩])) := by
  have hrestore := b.restoreAt_cases i
  refine ⟨fun c => cached_of_entities (b.sends_callPlayer i c).1,
    fun v => cached_of_entities (b.sends_setDial i v).1,
    fun on => cached_of_entities (b.sends_setSwitch i on).1, ?_, b.cached_snapshot i,
    fun c => (b.sends_callPlayer i c).2, fun v => (b.sends_setDial i v).2,
    fun on => (b.sends_setSwitch i on).2, fun e he => ?_, fun hok => ?_,
    fun answers close e he => b.snapshot_of_error i answers close he⟩
  · rcases hrestore with ⟨e, he⟩ | ⟨-, hent, -⟩
    · rw [he]
    · exact cached_of_entities hent
  · rcases hrestore with ⟨e', he'⟩ | ⟨hok, -, -⟩
    · rw [he']
    · rw [hok] at he
      cases he
  · rcases hrestore with ⟨e, he⟩ | ⟨-, -, hsent⟩
    · rw [he] at hok
      cases hok
    · exact hsent

end Bridge

end ZoneBridge
