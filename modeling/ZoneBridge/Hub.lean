import ZoneBridge.Event

/-!
# Subscriptions by message type

A `Hub` hands each pushed message to every subscriber of its type, in the order they
subscribed. Every subscription gets a fresh handle, by which it is removed again; a type whose
last subscriber leaves is forgotten. The subscribers themselves are left abstract: a hub stores
for each subscription a tag of type `σ` saying who is to be called.

Publishing a message takes the subscribers of its type as the hub holds them when it starts,
then calls each in turn. A subscriber being called may itself add and remove subscriptions: what
it does to the hub is the list of calls it makes, worked out from the message, the hub as it
finds it and the rest of the world `ω`, which it may change as well.

Main statements: adding a subscriber makes it the last one called for its type
(`subscribers_add`), and removing a handle that is not there changes nothing (`remove_absent`).
-/

namespace ZoneBridge

/-- One subscription: its handle and whom to call. -/
structure Subscription (σ : Type) where
  handle : Nat
  who : σ

/-- Subscribers grouped by message type, each group in the order of subscribing. -/
structure Hub (σ : Type) where
  groups : List (MessageType × List (Subscription σ)) := []
  /-- The handle of the next subscription. -/
  next : Nat := 0

namespace Hub

variable {σ : Type}

/-- The subscriptions to a message type, oldest first. -/
def group (h : Hub σ) (m : MessageType) : List (Subscription σ) :=
  (h.groups.lookup m).getD []

/-- Whom to call for a message of this type, in the order of subscribing. -/
def subscribers (h : Hub σ) (m : MessageType) : List σ := (h.group m).map (·.who)

/-- How many subscribe to a message type. -/
def count (h : Hub σ) (m : MessageType) : Nat := (h.group m).length

/-- Replaces the group of a message type; an empty group is dropped. -/
def setGroup (h : Hub σ) (m : MessageType) (g : List (Subscription σ)) : Hub σ :=
  let rest := h.groups.filter (·.1 != m)
  { h with groups := if g.isEmpty then rest else (m, g) :: rest }

/-- Subscribes to a message type; gives the new subscription's handle. -/
def add (h : Hub σ) (m : MessageType) (who : σ) : Hub σ × Nat :=
  ({ h.setGroup m (h.group m ++ [⟨h.next, who⟩]) with next := h.next + 1 }, h.next)

/-- Ends a subscription; tells whether the handle was subscribed to this type. -/
def remove (h : Hub σ) (m : MessageType) (handle : Nat) : Hub σ × Bool :=
  let g := h.group m
  if g.any (·.handle == handle) then (h.setGroup m (g.filter (·.handle != handle)), true)
  else (h, false)

/-- A call on the hub that changes it. -/
inductive Call (σ : Type) where
  | add (m : MessageType) (who : σ)
  | remove (m : MessageType) (handle : Nat)

/-- Makes one call, its answer dropped. -/
def perform (h : Hub σ) : Call σ → Hub σ
  | .add m who => (h.add m who).1
  | .remove m k => (h.remove m k).1

/-- Makes the calls in order. -/
def performAll (h : Hub σ) (cs : List (Call σ)) : Hub σ := cs.foldl perform h

/-- What publishing leaves: the hub and the world after the subscribers ran, the calls they made
on the hub, in order, and the subscribers called, in order. -/
structure Published (σ ω : Type) where
  hub : Hub σ
  world : ω
  calls : List (Call σ)
  called : List σ

/-- How many subscribers publishing called. -/
def Published.count {ω : Type} (p : Published σ ω) : Nat := p.called.length

/-- Publishes a message: takes the subscribers of its type, then calls each of them in turn;
`react who n h w` is what calling `who` with `n` does on the hub `h` in the world `w`, the calls
it makes on the hub and the world it leaves. -/
def publish {ω : Type} (h : Hub σ) (n : Notification)
    (react : σ → Notification → Hub σ → ω → List (Call σ) × ω) (w : ω) : Published σ ω :=
  let called := h.subscribers n.messageType
  let after := called.foldl (fun (acc : Hub σ × ω × List (Call σ)) who =>
      let (cs, w') := react who n acc.1 acc.2.1
      (acc.1.performAll cs, w', acc.2.2 ++ cs)) (h, w, [])
  ⟨after.1, after.2.1, after.2.2, called⟩

theorem lookup_filter_ne {β : Type} (l : List (MessageType × β)) (m : MessageType) :
    (l.filter (·.1 != m)).lookup m = none := by
  induction l with
  | nil => rfl
  | cons p t ih =>
    obtain ⟨k, v⟩ := p
    by_cases hk : k = m
    · subst hk
      rw [List.filter_cons_of_neg (by simp)]
      exact ih
    · have hkm : (k != m) = true := bne_iff_ne.2 hk
      have hk' : (m == k) = false := beq_eq_false_iff_ne.2 (Ne.symm hk)
      simp only [List.filter_cons, hkm, if_true, List.lookup_cons, hk']
      exact ih

theorem group_setGroup (h : Hub σ) (m : MessageType) (g : List (Subscription σ)) :
    (h.setGroup m g).group m = g := by
  unfold setGroup group
  cases hg : g.isEmpty
  · simp
  · simp [List.isEmpty_iff.1 hg, lookup_filter_ne]

theorem subscribers_add (h : Hub σ) (m : MessageType) (who : σ) :
    (h.add m who).1.subscribers m = h.subscribers m ++ [who] := by
  have hg := group_setGroup h m (h.group m ++ [⟨h.next, who⟩])
  simp only [group] at hg
  simp only [add, subscribers, group, hg, List.map_append]
  rfl

theorem remove_absent (h : Hub σ) (m : MessageType) (handle : Nat)
    (hn : (h.group m).all (·.handle != handle)) : h.remove m handle = (h, false) := by
  unfold remove
  have : ¬ (h.group m).any (·.handle == handle) := by
    simpa [List.all_eq_true, List.any_eq_true] using hn
  simp [this]

end Hub

end ZoneBridge
