import Mathlib
import ZoneBridge.Proofs.Hub

/-!
# A hub is the record of the calls made on it

Every hub a program holds comes from a fresh one through the calls made on it, adds and removes
in the order they were made, those that subscribers make while a message is being published
included; publishing and counting change nothing. The history of those calls determines the hub:
the subscriptions to a message type are the adds to it that no later call removes (`alive`),
oldest first, each with the handle that counts the adds before it (`group_ofHistory`).

Everything the hub answers follows (`Hub.answers_follow_history`): no message type is kept with
no subscriber; counting gives the number of live subscriptions, whose handles all differ;
removing a handle says whether it is live, and otherwise leaves the hub as it was; and publishing
calls exactly the subscribers live when it starts, in the order they subscribed, whatever they
add or remove meanwhile, leaving the hub of the history with their calls appended.
-/

namespace ZoneBridge

namespace Hub

variable {σ : Type}

/-- Whether a call removes the handle `k` from the message type `m`. -/
def Call.removes (m : MessageType) (k : Nat) : Call σ → Bool
  | .remove m' k' => m' == m && k' == k
  | .add _ _ => false

/-- Whether a call adds a subscription. -/
def Call.isAdd : Call σ → Bool
  | .add _ _ => true
  | .remove _ _ => false

/-- The subscriptions to `m` that a history of calls leaves, oldest first: each add to `m`, with
its handle (`k` plus the number of adds before it), unless a later call removes that handle from
`m`. -/
def alive (m : MessageType) : Nat → List (Call σ) → List (Subscription σ)
  | _, [] => []
  | k, .add m' who :: rest =>
    (if m' = m ∧ rest.any (Call.removes m k) = false then [⟨k, who⟩] else []) ++
      alive m (k + 1) rest
  | k, .remove _ _ :: rest => alive m k rest

/-- The hub that a history of calls makes of a fresh one. -/
def ofHistory (hist : List (Call σ)) : Hub σ := ({} : Hub σ).performAll hist

/-! ### Making calls -/

@[simp] theorem performAll_nil (h : Hub σ) : h.performAll [] = h := rfl

@[simp] theorem performAll_cons (h : Hub σ) (c : Call σ) (cs : List (Call σ)) :
    h.performAll (c :: cs) = (h.perform c).performAll cs := rfl

theorem performAll_append (h : Hub σ) (cs ds : List (Call σ)) :
    h.performAll (cs ++ ds) = (h.performAll cs).performAll ds := List.foldl_append

/-- Each add takes the next handle. -/
theorem next_performAll (h : Hub σ) (cs : List (Call σ)) :
    (h.performAll cs).next = h.next + cs.countP Call.isAdd := by
  induction cs generalizing h with
  | nil => rfl
  | cons c cs ih =>
    cases c with
    | add m who =>
      rw [performAll_cons, ih, perform, next_add, List.countP_cons_of_pos (by rfl)]
      omega
    | remove m k =>
      rw [performAll_cons, ih, perform, next_remove,
        List.countP_cons_of_neg (by simp [Call.isAdd])]

/-- The calls made on a hub keep the subscriptions to `m` it had that no call removes, and add
after them those that the calls leave. -/
theorem group_performAll (h : Hub σ) (cs : List (Call σ)) (m : MessageType) :
    (h.performAll cs).group m =
      (h.group m).filter (fun s => !cs.any (Call.removes m s.handle)) ++ alive m h.next cs := by
  induction cs generalizing h with
  | nil => simp [alive]
  | cons c rest ih =>
    cases c with
    | add m' who =>
      have hadd := group_add h m' m who
      rw [performAll_cons, perform, ih, next_add, hadd]
      simp only [alive, List.any_cons, Call.removes, Bool.false_or]
      -- the new subscription joins `m`'s group only if it was made to `m`
      by_cases hm : m = m'
      · subst hm
        cases hr : rest.any (Call.removes m h.next) <;> simp [hr]
      · simp [hm, Ne.symm hm]
    | remove m' k =>
      have hrem := group_remove h m' m k
      rw [performAll_cons, perform, ih, next_remove, hrem]
      simp only [alive, List.any_cons, Call.removes]
      by_cases hm : m = m'
      · subst hm
        rw [if_pos rfl, List.filter_filter]
        congr 1
        apply List.filter_congr
        intro s _
        rcases eq_or_ne s.handle k with hk | hk
        · subst hk
          simp
        · have hne : (s.handle != k) = true := bne_iff_ne.2 hk
          have hbeq : (k == s.handle) = false := beq_eq_false_iff_ne.2 (Ne.symm hk)
          simp [hne, hbeq]
      · have hb : (m' == m) = false := beq_eq_false_iff_ne.2 (Ne.symm hm)
        simp [hm, hb]

/-! ### No empty group -/

/-- Every message type the hub keeps has a subscriber. -/
def NoEmptyGroup (h : Hub σ) : Prop := ∀ g ∈ h.groups, g.2 ≠ []

theorem NoEmptyGroup.setGroup {h : Hub σ} (hh : h.NoEmptyGroup) (m : MessageType)
    (g : List (Subscription σ)) : (h.setGroup m g).NoEmptyGroup := by
  intro p hp
  -- an empty group is dropped; what is kept besides is a part of what was there
  have hrest : ∀ q ∈ h.groups.filter (·.1 != m), q.2 ≠ [] :=
    fun q hq => hh q (List.mem_filter.1 hq).1
  unfold Hub.setGroup at hp
  by_cases hg : g.isEmpty = true
  · simp only [hg, if_true] at hp
    exact hrest p hp
  · simp only [hg, Bool.false_eq_true, if_false, List.mem_cons] at hp
    rcases hp with rfl | hp
    · simpa using hg
    · exact hrest p hp

theorem NoEmptyGroup.perform {h : Hub σ} (hh : h.NoEmptyGroup) (c : Call σ) :
    (h.perform c).NoEmptyGroup := by
  cases c with
  | add m who => exact hh.setGroup m _
  | remove m k =>
    show (h.remove m k).1.NoEmptyGroup
    unfold Hub.remove
    dsimp only
    split
    · exact hh.setGroup m _
    · exact hh

theorem NoEmptyGroup.performAll {h : Hub σ} (hh : h.NoEmptyGroup) (cs : List (Call σ)) :
    (h.performAll cs).NoEmptyGroup := by
  induction cs generalizing h with
  | nil => exact hh
  | cons c cs ih => exact ih (hh.perform c)

/-! ### The live subscriptions -/

theorem le_handle_of_mem_alive {m : MessageType} {k : Nat} {cs : List (Call σ)}
    {s : Subscription σ} (hs : s ∈ alive m k cs) : k ≤ s.handle := by
  induction cs generalizing k with
  | nil => cases hs
  | cons c rest ih =>
    cases c with
    | add m' who =>
      simp only [alive, List.mem_append] at hs
      rcases hs with hs | hs
      · split at hs
        · simp only [List.mem_singleton] at hs
          rw [hs]
        · cases hs
      · have := ih hs
        omega
    | remove m' k' => exact ih hs

/-- The live handles are in increasing order, so no handle is live twice. -/
theorem alive_handles_sorted (m : MessageType) (k : Nat) (cs : List (Call σ)) :
    ((alive m k cs).map (·.handle)).Pairwise (· < ·) := by
  induction cs generalizing k with
  | nil => exact List.Pairwise.nil
  | cons c rest ih =>
    cases c with
    | add m' who =>
      simp only [alive, List.map_append]
      apply List.pairwise_append.2
      refine ⟨?_, ih (k + 1), ?_⟩
      · split <;> simp
      · -- the handle taken here is below every handle taken later
        intro a ha b hb
        split at ha
        · simp only [List.map_cons, List.map_nil, List.mem_singleton] at ha
          obtain ⟨s, hs, rfl⟩ := List.mem_map.1 hb
          have := le_handle_of_mem_alive hs
          omega
        · cases ha
    | remove m' k' => exact ih k

/-! ### What a history's hub answers -/

@[simp] theorem group_empty (m : MessageType) : ({} : Hub σ).group m = [] := rfl

theorem group_ofHistory (hist : List (Call σ)) (m : MessageType) :
    (ofHistory hist).group m = alive m 0 hist := by
  simp [ofHistory, group_performAll]

theorem ofHistory_append (hist cs : List (Call σ)) :
    ofHistory (hist ++ cs) = (ofHistory hist).performAll cs :=
  performAll_append _ hist cs

theorem remove_snd (h : Hub σ) (m : MessageType) (k : Nat) :
    (h.remove m k).2 = (h.group m).any (·.handle == k) := by
  unfold Hub.remove
  dsimp only
  split <;> simp_all

theorem remove_of_snd_false {h : Hub σ} {m : MessageType} {k : Nat}
    (hr : (h.remove m k).2 = false) : (h.remove m k).1 = h := by
  unfold Hub.remove at hr ⊢
  dsimp only at hr ⊢
  split
  · simp_all
  · rfl

/-- Publishing calls the subscribers the hub holds when it starts. -/
@[simp] theorem called_publish {ω : Type} (h : Hub σ) (n : Notification)
    (react : σ → Notification → Hub σ → ω → List (Call σ) × ω) (w : ω) :
    (h.publish n react w).called = h.subscribers n.messageType := rfl

/-- The hub publishing leaves is the one the subscribers' calls make of it, in order. -/
theorem hub_publish {ω : Type} (h : Hub σ) (n : Notification)
    (react : σ → Notification → Hub σ → ω → List (Call σ) × ω) (w : ω) :
    (h.publish n react w).hub = h.performAll (h.publish n react w).calls := by
  -- along the calls, the hub reached is the one made by the calls collected so far
  suffices key : ∀ (callees : List σ) (acc : Hub σ × ω × List (Call σ)),
      acc.1 = h.performAll acc.2.2 →
      (callees.foldl (fun (acc : Hub σ × ω × List (Call σ)) who =>
        (acc.1.performAll (react who n acc.1 acc.2.1).1, (react who n acc.1 acc.2.1).2,
          acc.2.2 ++ (react who n acc.1 acc.2.1).1)) acc).1 =
      h.performAll (callees.foldl (fun (acc : Hub σ × ω × List (Call σ)) who =>
        (acc.1.performAll (react who n acc.1 acc.2.1).1, (react who n acc.1 acc.2.1).2,
          acc.2.2 ++ (react who n acc.1 acc.2.1).1)) acc).2.2 from
    key _ (h, w, []) rfl
  intro callees
  induction callees with
  | nil => exact fun acc hacc => hacc
  | cons who rest ih =>
    intro acc hacc
    apply ih
    show acc.1.performAll (react who n acc.1 acc.2.1).1 =
      h.performAll (acc.2.2 ++ (react who n acc.1 acc.2.1).1)
    rw [performAll_append, ← hacc]

/-- A hub is what the history of the calls made on it, from a fresh one, says: no message type
is kept with no subscriber; the subscriptions to a type are those added and not removed since,
oldest first, with distinct handles, and counting gives their number; an add takes the next
handle and a remove reports whether the handle is live under that type, changing nothing when it
is not, each extending the history by itself; publishing calls, in order, exactly the
subscribers live when it starts, returns their number, and leaves the hub of the history
extended by the calls the subscribers made while they ran. -/
theorem answers_follow_history (hist : List (Call σ)) :
    (∀ g ∈ (ofHistory hist).groups, g.2 ≠ []) ∧
    (∀ m, (ofHistory hist).group m = alive m 0 hist ∧
      (ofHistory hist).count m = (alive m 0 hist).length ∧
      ((alive m 0 hist).map (·.handle)).Nodup) ∧
    (∀ m who, (ofHistory hist).add m who =
      (ofHistory (hist ++ [.add m who]), hist.countP Call.isAdd)) ∧
    (∀ m k, ((ofHistory hist).remove m k).1 = ofHistory (hist ++ [.remove m k]) ∧
      (((ofHistory hist).remove m k).2 = true ↔ k ∈ (alive m 0 hist).map (·.handle)) ∧
      (((ofHistory hist).remove m k).2 = false →
        ((ofHistory hist).remove m k).1 = ofHistory hist)) ∧
    (∀ {ω : Type} (n : Notification)
      (react : σ → Notification → Hub σ → ω → List (Call σ) × ω) (w : ω),
      ((ofHistory hist).publish n react w).called = (alive n.messageType 0 hist).map (·.who) ∧
      ((ofHistory hist).publish n react w).count = (alive n.messageType 0 hist).length ∧
      ((ofHistory hist).publish n react w).hub =
        ofHistory (hist ++ ((ofHistory hist).publish n react w).calls)) := by
  refine ⟨?_, ?_, ?_, ?_, ?_⟩
  · -- a fresh hub keeps no group, and no call leaves an empty one
    exact NoEmptyGroup.performAll (fun g hg => by cases hg) hist
  · intro m
    refine ⟨group_ofHistory hist m, ?_, (alive_handles_sorted m 0 hist).nodup⟩
    rw [count, group_ofHistory]
  · intro m who
    have hnext : (ofHistory hist).next = hist.countP Call.isAdd := by
      rw [ofHistory, next_performAll]
      exact Nat.zero_add _
    rw [ofHistory_append, ← hnext]
    rfl
  · intro m k
    refine ⟨by rw [ofHistory_append]; rfl, ?_, remove_of_snd_false⟩
    rw [remove_snd, group_ofHistory]
    simp
  · intro ω n react w
    refine ⟨?_, ?_, ?_⟩
    · rw [called_publish, subscribers, group_ofHistory]
    · rw [Published.count, called_publish, subscribers, group_ofHistory, List.length_map]
    · rw [ofHistory_append]
      exact hub_publish _ n react w

end Hub

end ZoneBridge
