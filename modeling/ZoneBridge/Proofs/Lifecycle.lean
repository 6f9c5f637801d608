import Mathlib
import ZoneBridge.Proofs.Delivery
import ZoneBridge.Proofs.Hub

/-!
# Dispatchers sharing one link

Any number of entities may share one link, each through its own dispatcher: its binding and the
state of its tracker, of the entity's own type. A dispatcher subscribes under its place among
the members, so the hub's subscribers are places. Four things happen, in any order: a
dispatcher attaches or detaches, a message is handed to one dispatcher, or the link takes a
pushed message in and hands it to every subscriber of its type in turn.

`Fleet.Inv` is what every reachable state keeps: an attached dispatcher holds the link and one
subscription per message type it lists, one that is not attached holds none, no handle is held
twice, and the hub holds exactly the subscriptions the dispatchers hold. Each step keeps it
(`Fleet.Inv.step`), so every reachable state has it (`Fleet.Reachable.inv`). Counting the hub's
groups through it gives the number of subscribers of each type, and a dispatcher that let the
link go never takes it up again.

Main statement: `Fleet.subscription_lifecycle`.
-/

namespace ZoneBridge

namespace Binding

variable {σ : Type} (b : Binding) (l : Link σ) (who : σ)

/-! ### What attaching does, by the state of the binding -/

theorem attach_of_unlinked (hl : b.linked = false) :
    b.attach l who = .error .connectionUnavailable := by
  simp [attach, ready, hl, bind, Except.bind]

theorem attach_of_attached (hl : b.linked = true) (hc : b.lifecycle ≠ .uninitialized) :
    b.attach l who = .ok (b, l) := by
  simp [attach, ready, hl, hc, bind, Except.bind, pure, Except.pure]

theorem attach_of_new (hl : b.linked = true) (hc : b.lifecycle = .uninitialized) :
    b.attach l who =
      .ok ({ b with
              lifecycle := .subscribed
              subscriptions := b.subscriptions ++ (subscribeAll l who b.messageTypes).2 },
        (subscribeAll l who b.messageTypes).1) := by
  simp [attach, ready, hl, hc, bind, Except.bind, pure, Except.pure]

end Binding

/-- One entity's side of the link: its binding and the state its tracker keeps. -/
structure Dispatcher where
  {τ : Type}
  [tracker : Tracker τ]
  binding : Binding
  state : τ

attribute [instance] Dispatcher.tracker

/-- Dispatchers sharing one link; each subscribes under its place among the members. -/
structure Fleet where
  link : Link Nat
  members : List Dispatcher

/-- What happens to dispatchers sharing a link. -/
inductive FleetStep where
  | attach (i : Nat)
  | detach (i : Nat)
  /-- A message handed to one dispatcher directly. -/
  | handle (i : Nat) (n : Notification)
  /-- A message pushed in through the link. -/
  | deliver (n : Notification)

namespace Fleet

/-- Attaches the member at a place; an attach that is refused changes nothing. -/
def attach (f : Fleet) (i : Nat) : Fleet :=
  match f.members[i]? with
  | none => f
  | some d =>
    match d.binding.attach f.link i with
    | .ok (b, l) => ⟨l, f.members.set i { d with binding := b }⟩
    | .error _ => f

/-- Detaches the member at a place. -/
def detach (f : Fleet) (i : Nat) : Fleet :=
  match f.members[i]? with
  | none => f
  | some d =>
    let (b, l) := d.binding.detach f.link
    ⟨l, f.members.set i { d with binding := b }⟩

/-- Hands a message to the member at a place. -/
def handle (f : Fleet) (i : Nat) (n : Notification) : Fleet :=
  match f.members[i]? with
  | none => f
  | some d =>
    let (_, b, t) := d.binding.handle d.state n
    ⟨f.link, f.members.set i { d with binding := b, state := t }⟩

/-- Pushes a message in: it answers the queries waiting for it, then goes to every subscriber
of its type in turn. -/
def deliver (f : Fleet) (n : Notification) : Fleet :=
  let (l, whos) := f.link.deliver n
  whos.foldl (fun f i => f.handle i n) { f with link := l }

/-- Takes one step. -/
def step (f : Fleet) : FleetStep → Fleet
  | .attach i => f.attach i
  | .detach i => f.detach i
  | .handle i n => f.handle i n
  | .deliver n => f.deliver n

/-- Takes the steps in order. -/
def run (f : Fleet) (steps : List FleetStep) : Fleet := steps.foldl step f

/-- The states that dispatchers sharing a new link can reach, each dispatcher starting as it
was made: holding the link, not attached, with no reading taken in. -/
inductive Reachable : Fleet → Prop
  | start (ds : List Dispatcher)
      (hnew : ∀ d ∈ ds, d.binding = { id := d.binding.id, messageTypes := d.binding.messageTypes }) :
      Reachable ⟨{}, ds⟩
  | step {f : Fleet} (s : FleetStep) : Reachable f → Reachable (f.step s)

/-- The member at place `j` holds the subscription with handle `k` to message type `m`. -/
def Holds (f : Fleet) (j : Nat) (m : MessageType) (k : Nat) : Prop :=
  ∃ d, f.members[j]? = some d ∧ (m, k) ∈ d.binding.subscriptions

/-- What every reachable state keeps. -/
structure Inv (f : Fleet) : Prop where
  /-- An attached member holds the link. -/
  linked : ∀ d ∈ f.members, d.binding.lifecycle ≠ .uninitialized → d.binding.linked = true
  /-- A member that is not attached holds no subscription. -/
  idle : ∀ d ∈ f.members, d.binding.lifecycle = .uninitialized → d.binding.subscriptions = []
  /-- An attached member holds one subscription per message type it lists, in order. -/
  types : ∀ d ∈ f.members, d.binding.lifecycle ≠ .uninitialized →
    d.binding.subscriptions.map Prod.fst = d.binding.messageTypes
  /-- A member holds each of its handles once. -/
  own_nodup : ∀ d ∈ f.members, (d.binding.subscriptions.map Prod.snd).Nodup
  /-- No handle is held by two members or for two types. -/
  unique : ∀ {j j' m m' k}, f.Holds j m k → f.Holds j' m' k → j = j' ∧ m = m'
  /-- Every handle held was given out already. -/
  lt_next : ∀ {j m k}, f.Holds j m k → k < f.link.hub.next
  /-- The hub holds exactly the subscriptions the members hold. -/
  hub : ∀ m k j, (∃ s ∈ f.link.hub.group m, s.handle = k ∧ s.who = j) ↔ f.Holds j m k
  /-- No handle appears twice in a group. -/
  hub_nodup : ∀ m, ((f.link.hub.group m).map (·.handle)).Nodup

/-! ### Replacing one member -/

section Replace

variable {f : Fleet} {i : Nat} {d d' : Dispatcher} {l : Link Nat}

theorem set_self (hi : f.members[i]? = some d) : f.members.set i d = f.members := by
  apply List.ext_getElem?
  intro j
  rw [List.getElem?_set]
  split
  · subst_vars
    obtain ⟨hlt, rfl⟩ := List.getElem?_eq_some_iff.1 hi
    simp [hlt]
  · rfl

theorem holds_set (hi : f.members[i]? = some d) {j : Nat} {m : MessageType} {k : Nat} :
    Holds ⟨l, f.members.set i d'⟩ j m k ↔
      (j = i ∧ (m, k) ∈ d'.binding.subscriptions) ∨ (j ≠ i ∧ f.Holds j m k) := by
  have hlt : i < f.members.length := (List.getElem?_eq_some_iff.1 hi).1
  unfold Holds
  simp only [List.getElem?_set, hlt, if_true]
  by_cases hj : i = j
  · subst hj
    simp
  · simp [hj, Ne.symm hj]

/-- A property every member has survives replacing one member by a dispatcher that has it. -/
theorem forall_mem_set {P : Dispatcher → Prop} (h : ∀ x ∈ f.members, P x) (hd : P d') :
    ∀ x ∈ f.members.set i d', P x := by
  intro x hx
  rcases List.mem_or_eq_of_mem_set hx with hx | rfl
  · exact h x hx
  · exact hd

theorem holds_iff (hi : f.members[i]? = some d) {m : MessageType} {k : Nat} :
    f.Holds i m k ↔ (m, k) ∈ d.binding.subscriptions := by
  simp [Holds, hi]

/-- A member that is not attached holds nothing. -/
theorem Inv.holds_ne (hf : f.Inv) (hi : f.members[i]? = some d)
    (hc : d.binding.lifecycle = .uninitialized) {j : Nat} {m : MessageType} {k : Nat}
    (h : f.Holds j m k) : j ≠ i := by
  rintro rfl
  rw [holds_iff hi, hf.idle d (List.mem_of_getElem? hi) hc] at h
  exact List.not_mem_nil h

end Replace

/-! ### Each step keeps the invariant -/

section Steps

variable {f : Fleet} {i : Nat} {d : Dispatcher}

/-- Attaching a member for the first time: it subscribes to each of its message types, with
handles above every handle given out before. -/
theorem Inv.subscribe (hf : f.Inv) (hi : f.members[i]? = some d)
    (hc : d.binding.lifecycle = .uninitialized) (hlk : d.binding.linked = true) {b : Binding}
    {l : Link Nat}
    (hb : b = { d.binding with
      lifecycle := .subscribed
      subscriptions := d.binding.subscriptions ++
        (Binding.subscribeAll f.link i d.binding.messageTypes).2 })
    (hl : l = (Binding.subscribeAll f.link i d.binding.messageTypes).1) :
    Inv ⟨l, f.members.set i { d with binding := b }⟩ := by
  have htypes := Binding.subscribeAll_types i f.link d.binding.messageTypes
  have hhandles := Binding.subscribeAll_handles i f.link d.binding.messageTypes
  have hnext := Binding.subscribeAll_next i f.link d.binding.messageTypes
  have hgroup := Binding.subscribeAll_group i f.link d.binding.messageTypes
  generalize Binding.subscribeAll f.link i d.binding.messageTypes = r
    at htypes hhandles hnext hgroup hb hl
  subst hb hl
  have hnil : d.binding.subscriptions = [] := hf.idle d (List.mem_of_getElem? hi) hc
  have hnodup : (r.2.map Prod.snd).Nodup := by
    rw [hhandles]
    exact List.nodup_range' ..
  -- the new handles lie above every handle given out before
  have hfresh : ∀ {m k}, (m, k) ∈ r.2 → f.link.hub.next ≤ k ∧ k < r.1.hub.next := by
    intro m k hmk
    have hk : k ∈ r.2.map Prod.snd := List.mem_map.2 ⟨(m, k), hmk, rfl⟩
    rw [hhandles, List.mem_range'_1] at hk
    rw [hnext]
    exact hk
  have hinj : ∀ {m m' k}, (m, k) ∈ r.2 → (m', k) ∈ r.2 → m = m' := by
    intro m m' k h₁ h₂
    exact (Prod.mk.inj (List.inj_on_of_nodup_map hnodup h₁ h₂ rfl)).1
  -- afterwards member `i` holds exactly the new subscriptions
  have hholds : ∀ {j m k}, Holds ⟨r.1, f.members.set i { d with binding := { d.binding with
      lifecycle := .subscribed, subscriptions := d.binding.subscriptions ++ r.2 } }⟩ j m k ↔
      (j = i ∧ (m, k) ∈ r.2) ∨ (j ≠ i ∧ f.Holds j m k) := by
    intro j m k
    rw [holds_set hi]
    simp [hnil]
  refine ⟨?_, ?_, ?_, ?_, ?_, ?_, ?_, ?_⟩
  · exact forall_mem_set hf.linked fun _ => hlk
  · exact forall_mem_set hf.idle fun hxc => by simp at hxc
  · exact forall_mem_set hf.types fun _ => by simpa [hnil] using htypes
  · exact forall_mem_set hf.own_nodup (by simpa [hnil] using hnodup)
  · intro j j' m m' k h₁ h₂
    rw [hholds] at h₁ h₂
    rcases h₁ with ⟨rfl, h₁⟩ | ⟨-, h₁⟩ <;> rcases h₂ with ⟨rfl, h₂⟩ | ⟨-, h₂⟩
    · exact ⟨rfl, hinj h₁ h₂⟩
    · exact absurd (hf.lt_next h₂) (Nat.not_lt.2 (hfresh h₁).1)
    · exact absurd (hf.lt_next h₁) (Nat.not_lt.2 (hfresh h₂).1)
    · exact hf.unique h₁ h₂
  · intro j m k h
    rw [hholds] at h
    rcases h with ⟨-, h⟩ | ⟨-, h⟩
    · exact (hfresh h).2
    · have := hf.lt_next h
      show k < r.1.hub.next
      rw [hnext]
      omega
  · intro m k j
    rw [hholds]
    show (∃ s ∈ r.1.hub.group m, _) ↔ _
    rw [hgroup]
    constructor
    · rintro ⟨s, hs, rfl, rfl⟩
      rcases List.mem_append.1 hs with hs | hs
      · have h := (hf.hub m s.handle s.who).1 ⟨s, hs, rfl, rfl⟩
        exact .inr ⟨hf.holds_ne hi hc h, h⟩
      · obtain ⟨p, hp, rfl⟩ := List.mem_map.1 hs
        obtain ⟨hp, hpm⟩ := List.mem_filter.1 hp
        have hpm : p.1 = m := beq_iff_eq.1 hpm
        exact .inl ⟨rfl, hpm ▸ hp⟩
    · rintro (⟨rfl, hmk⟩ | ⟨-, h⟩)
      · refine ⟨⟨k, j⟩, List.mem_append_right _ (List.mem_map.2 ⟨(m, k), ?_, rfl⟩), rfl, rfl⟩
        exact List.mem_filter.2 ⟨hmk, beq_self_eq_true m⟩
      · obtain ⟨s, hs, h₁, h₂⟩ := (hf.hub m k j).2 h
        exact ⟨s, List.mem_append_left _ hs, h₁, h₂⟩
  · intro m
    show ((r.1.hub.group m).map (·.handle)).Nodup
    rw [hgroup, List.map_append, List.nodup_append]
    refine ⟨hf.hub_nodup m, ?_, ?_⟩
    · -- the new group members are some of the new subscriptions, whose handles differ
      rw [List.map_map]
      exact ((List.filter_sublist).map Prod.snd).nodup hnodup
    · intro a ha b hb
      obtain ⟨s, hs, rfl⟩ := List.mem_map.1 ha
      obtain ⟨p, hp, rfl⟩ := List.mem_map.1 (List.map_map ▸ hb)
      have hold := hf.lt_next ((hf.hub m s.handle s.who).1 ⟨s, hs, rfl, rfl⟩)
      have hnew := (hfresh (List.mem_filter.1 hp).1).1
      simp only [Function.comp_apply]
      omega

/-- Detaching ends, under the invariant, exactly the member's subscriptions: a member that
let the link go already holds none. -/
theorem Inv.detach_link (hf : f.Inv) (hi : f.members[i]? = some d) :
    (d.binding.detach f.link).2 = Binding.unsubscribeAll f.link d.binding.subscriptions := by
  cases hlk : d.binding.linked
  · have hc : d.binding.lifecycle = .uninitialized := by
      by_contra hc
      have h := hf.linked d (List.mem_of_getElem? hi) hc
      rw [hlk] at h
      cases h
    rw [hf.idle d (List.mem_of_getElem? hi) hc]
    simp [Binding.detach, hlk, Binding.unsubscribeAll]
  · simp [Binding.detach, hlk]

/-- Detaching a member: its subscriptions leave the hub, and it holds neither the link nor any
subscription. -/
theorem Inv.release (hf : f.Inv) (hi : f.members[i]? = some d) :
    Inv ⟨(d.binding.detach f.link).2,
      f.members.set i { d with binding := (d.binding.detach f.link).1 }⟩ := by
  rw [hf.detach_link hi]
  have hgroup := Binding.unsubscribeAll_group f.link d.binding.subscriptions
  have hnext := Binding.unsubscribeAll_next f.link d.binding.subscriptions
  have hd : (d.binding.detach f.link).1 = { d.binding with
      linked := false, subscriptions := [], lifecycle := .uninitialized } := rfl
  -- afterwards member `i` holds nothing, and every other member what it held
  have hholds : ∀ {j m k}, Holds ⟨Binding.unsubscribeAll f.link d.binding.subscriptions,
      f.members.set i { d with binding := (d.binding.detach f.link).1 }⟩ j m k ↔
      j ≠ i ∧ f.Holds j m k := by
    intro j m k
    rw [holds_set hi, hd]
    simp
  -- a subscription of member `i` is held by nobody else
  have hmine : ∀ {j m k}, f.Holds j m k → ((m, k) ∈ d.binding.subscriptions ↔ j = i) := by
    intro j m k h
    constructor
    · intro hmk
      exact (hf.unique h ((holds_iff hi).2 hmk)).1
    · rintro rfl
      exact (holds_iff hi).1 h
  refine ⟨?_, ?_, ?_, ?_, ?_, ?_, ?_, ?_⟩
  · exact forall_mem_set hf.linked fun hxc => by simp [hd] at hxc
  · exact forall_mem_set hf.idle fun _ => by simp [hd]
  · exact forall_mem_set hf.types fun hxc => by simp [hd] at hxc
  · exact forall_mem_set hf.own_nodup (by simp [hd])
  · intro j j' m m' k h₁ h₂
    rw [hholds] at h₁ h₂
    exact hf.unique h₁.2 h₂.2
  · intro j m k h
    rw [hholds] at h
    show k < (Binding.unsubscribeAll f.link d.binding.subscriptions).hub.next
    rw [hnext]
    exact hf.lt_next h.2
  · intro m k j
    rw [hholds]
    show (∃ s ∈ (Binding.unsubscribeAll f.link d.binding.subscriptions).hub.group m, _) ↔ _
    rw [hgroup]
    constructor
    · rintro ⟨s, hs, rfl, rfl⟩
      obtain ⟨hs, hnot⟩ := List.mem_filter.1 hs
      have h := (hf.hub m s.handle s.who).1 ⟨s, hs, rfl, rfl⟩
      refine ⟨fun hw => ?_, h⟩
      exact absurd ((hmine h).2 hw) (by simpa using hnot)
    · rintro ⟨hj, h⟩
      obtain ⟨s, hs, rfl, rfl⟩ := (hf.hub m k j).2 h
      refine ⟨s, List.mem_filter.2 ⟨hs, ?_⟩, rfl, rfl⟩
      simpa using fun hmk => hj ((hmine h).1 hmk)
  · intro m
    show ((Binding.unsubscribeAll f.link d.binding.subscriptions).hub.group m |>.map _).Nodup
    rw [hgroup]
    exact ((List.filter_sublist).map _).nodup (hf.hub_nodup m)

/-- Replacing a member's binding by one with the same subscriptions, message types and link,
attached exactly when the old one was, keeps the invariant. -/
theorem Inv.rebind (hf : f.Inv) (hi : f.members[i]? = some d) (d' : Dispatcher)
    (hs : d'.binding.subscriptions = d.binding.subscriptions)
    (ht : d'.binding.messageTypes = d.binding.messageTypes)
    (hl : d'.binding.linked = d.binding.linked)
    (hc : d'.binding.lifecycle = .uninitialized ↔ d.binding.lifecycle = .uninitialized) :
    Inv ⟨f.link, f.members.set i d'⟩ := by
  have hd := List.mem_of_getElem? hi
  have hholds : ∀ {j m k}, Holds ⟨f.link, f.members.set i d'⟩ j m k ↔ f.Holds j m k := by
    intro j m k
    rw [holds_set hi, hs]
    by_cases hj : j = i
    · subst hj
      simp [holds_iff hi]
    · simp [hj]
  -- the new member has each per-member property because the old one had it
  refine ⟨?_, ?_, ?_, ?_, ?_, ?_, ?_, hf.hub_nodup⟩
  · refine forall_mem_set hf.linked fun hxc => ?_
    rw [hl]
    exact hf.linked d hd fun h => hxc (hc.2 h)
  · refine forall_mem_set hf.idle fun hxc => ?_
    rw [hs]
    exact hf.idle d hd (hc.1 hxc)
  · refine forall_mem_set hf.types fun hxc => ?_
    rw [hs, ht]
    exact hf.types d hd fun h => hxc (hc.2 h)
  · refine forall_mem_set hf.own_nodup ?_
    rw [hs]
    exact hf.own_nodup d hd
  · intro j j' m m' k h₁ h₂
    exact hf.unique (hholds.1 h₁) (hholds.1 h₂)
  · intro j m k h
    exact hf.lt_next (hholds.1 h)
  · intro m k j
    rw [hholds]
    exact hf.hub m k j

/-- A message handed to a member changes at most whether it is available and live. -/
theorem Inv.handle (hf : f.Inv) (i : Nat) (n : Notification) : (f.handle i n).Inv := by
  unfold Fleet.handle
  split
  · exact hf
  · rename_i d hi
    have hcases := d.binding.handle_binding_cases d.state n
    generalize d.binding.handle d.state n = r at hcases
    obtain ⟨dl, b, t⟩ := r
    dsimp only at hcases
    rcases hcases with rfl | ⟨⟨-, hc⟩, rfl⟩
    · -- not taken in: the member keeps its binding
      exact hf.rebind hi _ rfl rfl rfl Iff.rfl
    · -- taken in: the member was attached and becomes live
      exact hf.rebind hi _ rfl rfl rfl (by simp [hc])

theorem Inv.of_hub_eq {g : Fleet} (hf : f.Inv) (hm : g.members = f.members)
    (hh : g.link.hub = f.link.hub) : g.Inv := by
  have hholds : ∀ {j m k}, g.Holds j m k ↔ f.Holds j m k := by
    intro j m k
    simp [Holds, hm]
  refine ⟨hm ▸ hf.linked, hm ▸ hf.idle, hm ▸ hf.types, hm ▸ hf.own_nodup, ?_, ?_, ?_, ?_⟩
  · intro j j' m m' k h₁ h₂
    exact hf.unique (hholds.1 h₁) (hholds.1 h₂)
  · intro j m k h
    rw [hh]
    exact hf.lt_next (hholds.1 h)
  · intro m k j
    rw [hh, hholds]
    exact hf.hub m k j
  · intro m
    rw [hh]
    exact hf.hub_nodup m

theorem Inv.handleAll (hf : f.Inv) (n : Notification) (whos : List Nat) :
    (whos.foldl (fun f i => f.handle i n) f).Inv := by
  induction whos generalizing f with
  | nil => exact hf
  | cons i whos ih => exact ih (hf.handle i n)

/-- Pushing a message in answers waiting queries, which leaves the hub alone, and hands the
message to the subscribers of its type. -/
theorem Inv.deliver (hf : f.Inv) (n : Notification) : (f.deliver n).Inv := by
  have hh : (f.link.deliver n).1.hub = f.link.hub := by
    unfold Link.deliver
    split <;> rfl
  unfold Fleet.deliver
  generalize f.link.deliver n = r at hh
  obtain ⟨l, whos⟩ := r
  exact (hf.of_hub_eq (g := { f with link := l }) rfl hh).handleAll n whos

theorem Inv.attach (hf : f.Inv) (i : Nat) : (f.attach i).Inv := by
  unfold Fleet.attach
  split
  · exact hf
  · rename_i d hi
    split
    · rename_i b l h
      cases hlk : d.binding.linked
      · rw [Binding.attach_of_unlinked _ _ _ hlk] at h
        cases h
      · by_cases hc : d.binding.lifecycle = .uninitialized
        · rw [Binding.attach_of_new _ _ _ hlk hc] at h
          obtain ⟨hb, hl⟩ := Prod.mk.inj (Except.ok.inj h)
          exact hf.subscribe hi hc hlk hb.symm hl.symm
        · -- attaching again changes nothing
          rw [Binding.attach_of_attached _ _ _ hlk hc] at h
          obtain ⟨rfl, rfl⟩ := Prod.mk.inj (Except.ok.inj h)
          show Inv ⟨f.link, f.members.set i d⟩
          rw [set_self hi]
          exact hf
    · exact hf

theorem Inv.detach (hf : f.Inv) (i : Nat) : (f.detach i).Inv := by
  unfold Fleet.detach
  split
  · exact hf
  · rename_i d hi
    exact hf.release hi

theorem Inv.step (hf : f.Inv) : ∀ s, (f.step s).Inv
  | .attach i => hf.attach i
  | .detach i => hf.detach i
  | .handle i n => hf.handle i n
  | .deliver n => hf.deliver n

/-- Dispatchers as they are made, on a new link, have the invariant. -/
theorem Inv.start (ds : List Dispatcher)
    (hnew : ∀ d ∈ ds, d.binding = { id := d.binding.id, messageTypes := d.binding.messageTypes }) :
    Inv ⟨{}, ds⟩ := by
  have hsubs : ∀ d ∈ ds, d.binding.subscriptions = [] := by
    intro d hd
    rw [hnew d hd]
  have hholds : ∀ {j m k}, ¬ Holds ⟨{}, ds⟩ j m k := by
    rintro j m k ⟨d, hd, hmk⟩
    rw [hsubs d (List.mem_of_getElem? hd)] at hmk
    exact List.not_mem_nil hmk
  refine ⟨?_, ?_, ?_, ?_, ?_, ?_, ?_, ?_⟩
  · intro d hd hc
    rw [hnew d hd] at hc
    exact absurd rfl hc
  · intro d hd _
    exact hsubs d hd
  · intro d hd hc
    rw [hnew d hd] at hc
    exact absurd rfl hc
  · intro d hd
    rw [hsubs d hd]
    exact List.nodup_nil
  · intro j j' m m' k h
    exact absurd h hholds
  · intro j m k h
    exact absurd h hholds
  · intro m k j
    simp only [hholds, iff_false]
    rintro ⟨s, hs, -⟩
    exact List.not_mem_nil hs
  · intro m
    exact List.nodup_nil

theorem Reachable.inv {f : Fleet} (h : f.Reachable) : f.Inv := by
  induction h with
  | start ds hnew => exact Inv.start ds hnew
  | step s _ ih => exact ih.step s

theorem Reachable.run {f : Fleet} (h : f.Reachable) (steps : List FleetStep) :
    (f.run steps).Reachable := by
  induction steps generalizing f with
  | nil => exact h
  | cons s steps ih => exact ih (h.step s)

end Steps

/-! ### Counting subscribers -/

section Count

variable {f : Fleet}

/-- The subscriptions to `m` that the members hold, as pairs of handle and place, member by
member. -/
def entries (f : Fleet) (m : MessageType) : List (Nat × Nat) :=
  f.members.zipIdx.flatMap fun x =>
    (x.1.binding.subscriptions.filter (·.1 == m)).map fun p => (p.2, x.2)

theorem mem_entries {m : MessageType} {k j : Nat} : (k, j) ∈ f.entries m ↔ f.Holds j m k := by
  simp only [entries, List.mem_flatMap, List.mem_map, List.mem_filter, Prod.mk.injEq,
    List.mem_zipIdx_iff_getElem?, Holds]
  constructor
  · rintro ⟨⟨d, j⟩, hd, ⟨m', k⟩, ⟨hp, hm⟩, rfl, rfl⟩
    have hm : m' = m := beq_iff_eq.1 hm
    exact ⟨d, hd, hm ▸ hp⟩
  · rintro ⟨d, hd, hmk⟩
    exact ⟨(d, j), hd, (m, k), ⟨hmk, beq_self_eq_true m⟩, rfl, rfl⟩

/-- A member's part of the entries does not depend on its place. -/
theorem length_entries (m : MessageType) :
    (f.entries m).length =
      (f.members.map fun d => (d.binding.subscriptions.filter (·.1 == m)).length).sum := by
  rw [entries, List.length_flatMap]
  have hpart : (fun x : Dispatcher × Nat =>
      ((x.1.binding.subscriptions.filter (·.1 == m)).map fun p => (p.2, x.2)).length) =
      (fun d : Dispatcher => (d.binding.subscriptions.filter (·.1 == m)).length) ∘ Prod.fst := by
    funext x
    simp
  rw [hpart, ← List.map_map, List.zipIdx_map_fst]

theorem Inv.entries_nodup (hf : f.Inv) (m : MessageType) : (f.entries m).Nodup := by
  rw [entries, List.nodup_flatMap]
  constructor
  · -- one member's handles differ
    rintro ⟨d, j⟩ hx
    have hd : d ∈ f.members := List.mem_of_getElem? (List.mem_zipIdx_iff_getElem?.1 hx)
    apply List.Nodup.of_map Prod.fst
    rw [List.map_map]
    exact ((List.filter_sublist).map Prod.snd).nodup (hf.own_nodup d hd)
  · -- the parts of two places are told apart by the place
    have hpw : f.members.zipIdx.Pairwise (fun x y => x.2 ≠ y.2) := by
      have h := List.nodup_range' (s := 0) (n := f.members.length)
      rw [← List.zipIdx_map_snd 0 f.members] at h
      exact List.pairwise_map.1 h
    refine hpw.imp ?_
    intro x y hxy a ha hb
    obtain ⟨p, -, rfl⟩ := List.mem_map.1 ha
    obtain ⟨q, -, hq⟩ := List.mem_map.1 hb
    exact hxy (Prod.mk.inj hq).2.symm

/-- An attached member subscribes once per listing of a type; any other member not at all. -/
theorem Inv.length_filter_subscriptions (hf : f.Inv) {d : Dispatcher} (hd : d ∈ f.members)
    (m : MessageType) :
    (d.binding.subscriptions.filter (·.1 == m)).length =
      if d.binding.lifecycle != .uninitialized then d.binding.messageTypes.count m else 0 := by
  by_cases hc : d.binding.lifecycle = .uninitialized
  · simp [hc, hf.idle d hd hc]
  · rw [← hf.types d hd hc, List.count_eq_countP, List.countP_map, List.countP_eq_length_filter]
    simp [hc, Function.comp_def]

theorem sum_map_filter (l : List Dispatcher) (p : Dispatcher → Bool) (c : Dispatcher → Nat) :
    ((l.filter p).map c).sum = (l.map fun a => if p a then c a else 0).sum := by
  induction l with
  | nil => rfl
  | cons a l ih => by_cases h : p a <;> simp [h, ih]

/-- The subscribers of a type are one per listing of the type by an attached member. -/
theorem Inv.subscriberCount (hf : f.Inv) (m : MessageType) :
    f.link.subscriberCount m =
      ((f.members.filter (·.binding.lifecycle != .uninitialized)).map
        (·.binding.messageTypes.count m)).sum := by
  -- the hub's group of `m` and the members' subscriptions to `m` are the same pairs
  have hperm : ((f.link.hub.group m).map fun s => (s.handle, s.who)).Perm (f.entries m) := by
    have hnd : ((f.link.hub.group m).map fun s => (s.handle, s.who)).Nodup := by
      apply List.Nodup.of_map Prod.fst
      rw [List.map_map]
      exact hf.hub_nodup m
    rw [List.perm_ext_iff_of_nodup hnd (hf.entries_nodup m)]
    rintro ⟨k, j⟩
    rw [mem_entries, ← hf.hub m k j]
    simp
  calc f.link.subscriberCount m = (f.link.hub.group m).length := rfl
    _ = (f.entries m).length := by rw [← hperm.length_eq, List.length_map]
    _ = (f.members.map fun d => (d.binding.subscriptions.filter (·.1 == m)).length).sum :=
      length_entries m
    _ = _ := by
      rw [sum_map_filter, List.map_congr_left fun d hd => hf.length_filter_subscriptions hd m]

end Count

/-! ### One hub entry per subscription -/

/-- Each subscription a member holds stands for exactly one entry of the hub, the member's own. -/
theorem Inv.group_filter_handle {f : Fleet} (hf : f.Inv) {j : Nat} {d : Dispatcher}
    (hj : f.members[j]? = some d) {p : MessageType × Nat} (hp : p ∈ d.binding.subscriptions) :
    ((f.link.hub.group p.1).filter (·.handle == p.2)).map (·.who) = [j] := by
  have hheld : f.Holds j p.1 p.2 := ⟨d, hj, hp⟩
  -- every entry with this handle is member `j`'s
  have hwho : ∀ s ∈ (f.link.hub.group p.1).filter (·.handle == p.2), s.who = j := by
    intro s hs
    obtain ⟨hs, hk⟩ := List.mem_filter.1 hs
    have h := (hf.hub p.1 s.handle s.who).1 ⟨s, hs, rfl, rfl⟩
    rw [beq_iff_eq.1 hk] at h
    exact (hf.unique h hheld).1
  -- and there is exactly one, since handles do not repeat within a group
  have hlen : ((f.link.hub.group p.1).filter (·.handle == p.2)).length = 1 := by
    obtain ⟨s, hs, hk, -⟩ := (hf.hub p.1 p.2 j).2 hheld
    have hone := List.count_eq_one_of_mem (hf.hub_nodup p.1) (List.mem_map.2 ⟨s, hs, hk⟩)
    rw [List.count_eq_countP, List.countP_map, List.countP_eq_length_filter] at hone
    simpa [Function.comp_def] using hone
  obtain ⟨s, hs⟩ := List.length_eq_one_iff.1 hlen
  rw [hs, List.map_singleton, hwho s (by rw [hs]; exact List.mem_singleton_self s)]

/-! ### Letting the link go is for good -/

/-- The member at a place, if there is one, let the link go. -/
def Released (f : Fleet) (i : Nat) : Prop :=
  ∀ d, f.members[i]? = some d → d.binding.linked = false

section Released

variable {f : Fleet} {i : Nat}

theorem Released.set {g : Fleet} {j : Nat} {d' : Dispatcher} (h : f.Released i)
    (hg : g.members = f.members.set j d') (hj : j = i → d'.binding.linked = false) :
    g.Released i := by
  intro d hd
  rw [hg, List.getElem?_set] at hd
  split at hd
  · split at hd
    · cases hd
      exact hj ‹_›
    · cases hd
  · exact h d hd

/-- A member that let the link go cannot attach again. -/
theorem Released.attach (h : f.Released i) (j : Nat) : (f.attach j).Released i := by
  unfold Fleet.attach
  split
  · exact h
  · rename_i d hj
    split
    · rename_i b l hb
      refine h.set rfl fun hji => ?_
      subst hji
      rw [Binding.attach_of_unlinked _ _ _ (h d hj)] at hb
      cases hb
    · exact h

theorem Released.detach (h : f.Released i) (j : Nat) : (f.detach j).Released i := by
  unfold Fleet.detach
  split
  · exact h
  · exact h.set rfl fun _ => rfl

/-- A member without the link takes no message in, so its binding stays as it is. -/
theorem Released.handle (h : f.Released i) (j : Nat) (n : Notification) :
    (f.handle j n).Released i := by
  unfold Fleet.handle
  split
  · exact h
  · rename_i d hj
    have hcases := d.binding.handle_binding_cases d.state n
    generalize d.binding.handle d.state n = r at hcases
    obtain ⟨dl, b, t⟩ := r
    dsimp only at hcases
    refine h.set rfl fun hji => ?_
    subst hji
    rcases hcases with rfl | ⟨⟨hlk, -⟩, -⟩
    · exact h d hj
    · rw [h d hj] at hlk
      cases hlk

theorem Released.handleAll (h : f.Released i) (n : Notification) (whos : List Nat) :
    (whos.foldl (fun f j => f.handle j n) f).Released i := by
  induction whos generalizing f with
  | nil => exact h
  | cons j whos ih => exact ih (h.handle j n)

theorem Released.deliver (h : f.Released i) (n : Notification) : (f.deliver n).Released i := by
  unfold Fleet.deliver
  generalize f.link.deliver n = r
  obtain ⟨l, whos⟩ := r
  exact (show Released { f with link := l } i from h).handleAll n whos

theorem Released.step (h : f.Released i) : ∀ s, (f.step s).Released i
  | .attach j => h.attach j
  | .detach j => h.detach j
  | .handle j n => h.handle j n
  | .deliver n => h.deliver n

theorem Released.run (h : f.Released i) (steps : List FleetStep) : (f.run steps).Released i := by
  induction steps generalizing f with
  | nil => exact h
  | cons s steps ih => exact ih (h.step s)

theorem released_detach (f : Fleet) (i : Nat) : (f.detach i).Released i := by
  intro d hd
  unfold Fleet.detach at hd
  split at hd
  · rename_i hi
    rw [hi] at hd
    cases hd
  · rename_i d₀ hi
    have hlt := (List.getElem?_eq_some_iff.1 hi).1
    simp only [List.getElem?_set, hlt, if_true, Option.some.injEq] at hd
    subst hd
    rfl

end Released

/-- Subscription lifecycle of dispatchers sharing one link. In every reachable state: each
message type has exactly one subscriber per listing of the type by an attached dispatcher; an
attached dispatcher holds the link and, for each type it lists, one hub entry of its own, while
one that is not attached holds no subscription; and a dispatcher that detached is, in every
later state, not attached, refused when it attaches and deaf to every message. -/
theorem subscription_lifecycle {f : Fleet} (hf : f.Reachable) :
    (∀ m, f.link.subscriberCount m =
      ((f.members.filter (·.binding.lifecycle != .uninitialized)).map
        (·.binding.messageTypes.count m)).sum) ∧
    (∀ j d, f.members[j]? = some d →
      (d.binding.lifecycle ≠ .uninitialized → d.binding.linked = true ∧
        d.binding.subscriptions.map Prod.fst = d.binding.messageTypes ∧
        (d.binding.subscriptions.map Prod.snd).Nodup ∧
        ∀ p ∈ d.binding.subscriptions,
          ((f.link.hub.group p.1).filter (·.handle == p.2)).map (·.who) = [j]) ∧
      (d.binding.lifecycle = .uninitialized → d.binding.subscriptions = [])) ∧
    (∀ i post d, ((f.step (.detach i)).run post).members[i]? = some d →
      d.binding.lifecycle = .uninitialized ∧
      (∀ (l : Link Nat) (who : Nat), d.binding.attach l who = .error .connectionUnavailable) ∧
      ∀ (t : d.τ) (n : Notification), (d.binding.handle t n).1 = .inactive) := by
  have hinv := hf.inv
  refine ⟨hinv.subscriberCount, ?_, ?_⟩
  · intro j d hj
    have hd := List.mem_of_getElem? hj
    refine ⟨fun hc => ⟨hinv.linked d hd hc, hinv.types d hd hc, hinv.own_nodup d hd,
      fun p hp => hinv.group_filter_handle hj hp⟩, hinv.idle d hd⟩
  · intro i post d hd
    have hlater := ((hf.step (.detach i)).run post).inv
    have hlk : d.binding.linked = false := ((released_detach f i).run post) d hd
    -- a member without the link is not attached
    have hc : d.binding.lifecycle = .uninitialized := by
      by_contra hc
      have h := hlater.linked d (List.mem_of_getElem? hd) hc
      rw [hlk] at h
      cases h
    refine ⟨hc, fun l who => Binding.attach_of_unlinked _ _ _ hlk, fun t n => ?_⟩
    simp [Binding.handle, hlk]

/-- One loudness switch that attached on a new link. -/
theorem subscription_lifecycle_one_switch :
    let b : Binding := { id := ⟨"entry", .zone 1, "loudcmp"⟩, messageTypes := [.zoneEqStatus] }
    let f : Fleet := (Fleet.mk {} [⟨b, ({} : LoudnessReading)⟩]).step (.attach 0)
    f.Reachable ∧
    (∀ m, f.link.subscriberCount m =
      ((f.members.filter (·.binding.lifecycle != .uninitialized)).map
        (·.binding.messageTypes.count m)).sum) ∧
    (∀ j d, f.members[j]? = some d →
      (d.binding.lifecycle ≠ .uninitialized → d.binding.linked = true ∧
        d.binding.subscriptions.map Prod.fst = d.binding.messageTypes ∧
        (d.binding.subscriptions.map Prod.snd).Nodup ∧
        ∀ p ∈ d.binding.subscriptions,
          ((f.link.hub.group p.1).filter (·.handle == p.2)).map (·.who) = [j]) ∧
      (d.binding.lifecycle = .uninitialized → d.binding.subscriptions = [])) ∧
    (∀ i post d, ((f.step (.detach i)).run post).members[i]? = some d →
      d.binding.lifecycle = .uninitialized ∧
      (∀ (l : Link Nat) (who : Nat), d.binding.attach l who = .error .connectionUnavailable) ∧
      ∀ (t : d.τ) (n : Notification), (d.binding.handle t n).1 = .inactive) := by
  intro b f
  have hf : f.Reachable := .step _ (.start _ (by simp [b]))
  exact ⟨hf, subscription_lifecycle hf⟩

end Fleet

end ZoneBridge
