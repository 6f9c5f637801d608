import ZoneBridge.Binding

/-!
# How subscribing changes the hub

The hub keeps, for each message type, its subscriptions in the order they were made. Each
operation changes one group only: adding appends one subscription with the next handle, and
removing a handle filters it out of its type's group. An entity attaching subscribes to its
message types in order (`Binding.subscribeAll`), which appends one subscription per type with
consecutive handles; detaching ends a list of subscriptions (`Binding.unsubscribeAll`), which
filters exactly those out of the hub.
-/

namespace ZoneBridge

namespace Hub

variable {σ : Type} (h : Hub σ)

theorem lookup_filter_of_ne {β : Type} (l : List (MessageType × β)) {m m' : MessageType}
    (hne : m' ≠ m) : (l.filter (·.1 != m)).lookup m' = l.lookup m' := by
  induction l with
  | nil => rfl
  | cons p t ih =>
    obtain ⟨k, v⟩ := p
    by_cases hk : k = m
    · subst hk
      have hb : (m' == k) = false := beq_eq_false_iff_ne.2 hne
      rw [List.filter_cons_of_neg (by simp), ih, List.lookup_cons, hb]
    · rw [List.filter_cons_of_pos (by simpa using hk), List.lookup_cons, List.lookup_cons, ih]

theorem group_setGroup_of_ne {m m' : MessageType} (g : List (Subscription σ)) (hne : m' ≠ m) :
    (h.setGroup m g).group m' = h.group m' := by
  have hb : (m' == m) = false := beq_eq_false_iff_ne.2 hne
  unfold setGroup group
  cases g.isEmpty
  · simp only [Bool.false_eq_true, if_false, List.lookup_cons, hb, lookup_filter_of_ne _ hne]
  · simp only [if_true, lookup_filter_of_ne _ hne]

@[simp] theorem next_setGroup (m : MessageType) (g : List (Subscription σ)) :
    (h.setGroup m g).next = h.next := rfl

/-- Adding appends the new subscription, with the next handle, to its type's group. -/
theorem group_add (m m' : MessageType) (who : σ) :
    (h.add m who).1.group m' = if m' = m then h.group m ++ [⟨h.next, who⟩] else h.group m' := by
  show (h.setGroup m _).group m' = _
  split
  · subst_vars
    exact group_setGroup h m' _
  · exact group_setGroup_of_ne h _ ‹_›

@[simp] theorem next_add (m : MessageType) (who : σ) : (h.add m who).1.next = h.next + 1 := rfl

@[simp] theorem handle_add (m : MessageType) (who : σ) : (h.add m who).2 = h.next := rfl

/-- Removing a handle filters it out of its type's group; a handle that is not there changes
nothing. -/
theorem group_remove (m m' : MessageType) (k : Nat) :
    (h.remove m k).1.group m' =
      if m' = m then (h.group m).filter (·.handle != k) else h.group m' := by
  unfold remove
  dsimp only
  by_cases hm : m' = m
  · subst hm
    rw [if_pos rfl]
    split
    · exact group_setGroup h m' _
    · rename_i hany
      symm
      rw [List.filter_eq_self]
      intro s hs
      have : ¬ (s.handle == k) = true := fun he => hany (List.any_eq_true.2 ⟨s, hs, he⟩)
      simpa using this
  · rw [if_neg hm]
    split
    · exact group_setGroup_of_ne h _ hm
    · rfl

@[simp] theorem next_remove (m : MessageType) (k : Nat) : (h.remove m k).1.next = h.next := by
  unfold remove
  dsimp only
  split <;> rfl

end Hub

namespace Binding

variable {σ : Type} (who : σ)

/-- Attaching subscribes to the message types in order... -/
theorem subscribeAll_types (l : Link σ) (ms : List MessageType) :
    (subscribeAll l who ms).2.map Prod.fst = ms := by
  induction ms generalizing l with
  | nil => rfl
  | cons m ms ih => simp [subscribeAll, ih]

/-- ...with the consecutive handles the hub gives out next. -/
theorem subscribeAll_handles (l : Link σ) (ms : List MessageType) :
    (subscribeAll l who ms).2.map Prod.snd = List.range' l.hub.next ms.length := by
  induction ms generalizing l with
  | nil => rfl
  | cons m ms ih =>
    simp only [subscribeAll, List.map_cons, ih, List.length_cons, List.range'_succ]
    rfl

theorem subscribeAll_next (l : Link σ) (ms : List MessageType) :
    (subscribeAll l who ms).1.hub.next = l.hub.next + ms.length := by
  induction ms generalizing l with
  | nil => rfl
  | cons m ms ih =>
    simp only [subscribeAll, ih, List.length_cons]
    show (l.hub.add m who).1.next + ms.length = _
    rw [Hub.next_add]
    omega

/-- Each new subscription joins the end of its type's group. -/
theorem subscribeAll_group (l : Link σ) (ms : List MessageType) (m : MessageType) :
    (subscribeAll l who ms).1.hub.group m =
      l.hub.group m ++ ((subscribeAll l who ms).2.filter (·.1 == m)).map fun p => ⟨p.2, who⟩ := by
  induction ms generalizing l with
  | nil => simp [subscribeAll]
  | cons m' ms ih =>
    simp only [subscribeAll, ih]
    show (l.hub.add m' who).1.group m ++ _ = _
    rw [Hub.group_add]
    by_cases hm : m = m'
    · subst hm
      simp
      rfl
    · simp [hm, Ne.symm hm]

/-- ...so each type's subscribers gain `who` once for each time the type is listed. -/
theorem subscribeAll_subscribers (l : Link σ) (ms : List MessageType) (m : MessageType) :
    (subscribeAll l who ms).1.hub.subscribers m =
      l.hub.subscribers m ++ (ms.filter (· == m)).map fun _ => who := by
  unfold Hub.subscribers
  rw [subscribeAll_group, List.map_append, List.map_map]
  congr 1
  -- the listed types are the first components of the subscriptions made
  conv => rhs; rw [← subscribeAll_types who l ms]
  rw [List.filter_map, List.map_map]
  rfl

/-- Detaching filters the ended subscriptions out of the hub. -/
theorem unsubscribeAll_group (l : Link σ) (subs : List (MessageType × Nat)) (m : MessageType) :
    (unsubscribeAll l subs).hub.group m = (l.hub.group m).filter fun s => (m, s.handle) ∉ subs := by
  induction subs generalizing l with
  | nil => exact (List.filter_eq_self.2 fun s _ => by simp).symm
  | cons p rest ih =>
    obtain ⟨m', k⟩ := p
    simp only [unsubscribeAll, ih]
    show ((l.hub.remove m' k).1.group m).filter _ = _
    rw [Hub.group_remove]
    by_cases hm : m = m'
    · subst hm
      simp only [if_true, List.filter_filter]
      congr 1
      funext s
      simp only [List.mem_cons, Prod.mk.injEq, true_and, not_or]
      by_cases hk : s.handle = k <;> simp [hk]
    · simp [hm]

theorem unsubscribeAll_next (l : Link σ) (subs : List (MessageType × Nat)) :
    (unsubscribeAll l subs).hub.next = l.hub.next := by
  induction subs generalizing l with
  | nil => rfl
  | cons p rest ih =>
    obtain ⟨m', k⟩ := p
    simp only [unsubscribeAll, ih]
    exact Hub.next_remove l.hub m' k

end Binding

end ZoneBridge
