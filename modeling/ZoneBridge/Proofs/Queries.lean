import Mathlib
import ZoneBridge.Link
import ZoneBridge.Event.Text

/-!
# Waiting for answers

Queries wait on a link for the pushed message that answers them. Callers ask at any time and in
any order, messages are pushed in between, each query's timer may run out, the link may close
and the serial side may let go of the outbound queue; `Link.run` takes such steps in the order
they happen. A query is registered in the same step that sends it, so no answer can come between
the two.

What becomes of a query is fixed by the steps after its own: the first of them that ends it
(`LinkStep.ends`) gives its outcome (`Link.Tickets.outcome_run`). That step is the first pushed
event of the query's type about its zone or source, the closing of the link, or the running out
of the query's own timer. A push that is no event, or an event about another zone or source,
ends nothing. The argument rests on tickets telling the waiting queries apart (`Link.Tickets`).

Main statement: `Link.queries_answered_by_first_matching_push`.
-/

namespace ZoneBridge

/-- One thing that can happen to a link while queries wait on it. -/
inductive LinkStep where
  /-- A caller sends a query and waits for its answer. -/
  | ask (q : Query)
  /-- A message is pushed in. -/
  | deliver (n : Notification)
  /-- A message is pushed in as text, to be read first. -/
  | deliverText (text : String)
  /-- The timer of the query with this ticket runs out. -/
  | timeOut (ticket : Nat)
  /-- The link is closed. -/
  | close
  /-- The serial side lets go of the outbound queue. -/
  | dropReceiver

namespace LinkStep

/-- The message a step pushes in; a text that reads as no message pushes nothing. -/
def pushed : LinkStep → Option Notification
  | .deliver n => some n
  | .deliverText text => (Notification.parse text).toOption
  | _ => none

/-- The event a step pushes in, when its message reads as one. -/
def event (s : LinkStep) : Option DeviceEvent := s.pushed.bind (·.event.toOption)

/-- How a step ends the query waiting as `w`, if it does: the closing of the link fails it, its
own timer times it out, and a pushed event of its type about its zone or source answers it. -/
def ends (w : Wait) : LinkStep → Option (Except BridgeError DeviceEvent)
  | .close => some (.error .connectionClosed)
  | .timeOut t => if t = w.ticket then some (.error .timeout) else none
  | s => (s.event.filter w.answeredBy).map .ok

/-- A step that pushes an event ends exactly the queries the event answers. -/
theorem ends_of_event {s : LinkStep} {e : DeviceEvent} (he : s.event = some e) (w : Wait) :
    s.ends w = if w.answeredBy e then some (.ok e) else none := by
  have hpush : s.ends w = (s.event.filter w.answeredBy).map .ok := by
    cases s with
    | close | timeOut _ => simp [event, pushed] at he
    | ask _ | deliver _ | deliverText _ | dropReceiver => rfl
  rw [hpush, he]
  by_cases ha : w.answeredBy e <;> simp [ha]

/-- Only a pushed event that answers a query ends it with an answer. -/
theorem event_of_ends_eq_ok {s : LinkStep} {w : Wait} {e : DeviceEvent}
    (h : s.ends w = some (.ok e)) : s.event = some e ∧ w.answeredBy e = true := by
  -- a close or a timer ends a query with a failure, never an answer
  have hpush : (s.event.filter w.answeredBy).map Except.ok =
      (some (.ok e) : Option (Except BridgeError DeviceEvent)) := by
    cases s with
    | close => simp [ends] at h
    | timeOut t =>
      simp only [ends] at h
      split at h <;> simp at h
    | ask _ | deliver _ | deliverText _ | dropReceiver => exact h
  obtain ⟨e', he', hok⟩ := Option.map_eq_some_iff.1 hpush
  obtain rfl := Except.ok.inj hok
  exact Option.filter_eq_some_iff.1 he'

end LinkStep

theorem Wait.answeredBy_iff (w : Wait) (e : DeviceEvent) :
    w.answeredBy e = true ↔ e.messageType = w.messageType ∧ e.origin = w.target := by
  simp only [Wait.answeredBy, Bool.and_eq_true, beq_iff_eq]
  exact ⟨fun ⟨h₁, h₂⟩ => ⟨h₁.symm, h₂.symm⟩, fun ⟨h₁, h₂⟩ => ⟨h₁.symm, h₂.symm⟩⟩

namespace Link

variable {σ : Type}

/-- Takes one step. A query the link refuses, and a text that reads as no message, change
nothing. -/
def step (l : Link σ) : LinkStep → Link σ
  | .ask q =>
    match l.ask q with
    | .ok (l', _) => l'
    | .error _ => l
  | .deliver n => (l.deliver n).1
  | .deliverText text =>
    match Notification.parse text with
    | .ok n => (l.deliver n).1
    | .error _ => l
  | .timeOut t => l.timeOut t
  | .close => l.close
  | .dropReceiver => l.dropReceiver

/-- Takes the steps in order. -/
def run (l : Link σ) (steps : List LinkStep) : Link σ := steps.foldl step l

@[simp] theorem run_nil (l : Link σ) : l.run [] = l := rfl

@[simp] theorem run_cons (l : Link σ) (s : LinkStep) (steps : List LinkStep) :
    l.run (s :: steps) = (l.step s).run steps := rfl

/-- The link once it has taken a query: the query is sent, and its wait is registered under
the next ticket. -/
def register (l : Link σ) (q : Query) : Link σ :=
  { l with sent := l.sent ++ [.query q],
           waiting := l.waiting ++ [⟨l.nextTicket, q.messageType, q.target⟩],
           nextTicket := l.nextTicket + 1 }

/-- Sending a query registers its wait in the same step, so no answer comes in between. -/
theorem ask_eq (l : Link σ) (q : Query) :
    l.ask q =
      if l.isOpen && l.receiving then .ok (l.register q, l.nextTicket)
      else .error .connectionUnavailable := by
  unfold ask request enqueue
  split <;> rfl

theorem ask_eq_ok {l l' : Link σ} {q : Query} {t : Nat} (h : l.ask q = .ok (l', t)) :
    l' = l.register q ∧ t = l.nextTicket := by
  rw [ask_eq] at h
  split at h
  · cases h
    exact ⟨rfl, rfl⟩
  · cases h

theorem step_ask (l : Link σ) (q : Query) :
    l.step (.ask q) = if l.isOpen && l.receiving then l.register q else l := by
  rw [step, ask_eq]
  by_cases hc : (l.isOpen && l.receiving) = true
  · rw [if_pos hc, if_pos hc]
  · rw [if_neg hc, if_neg hc]

theorem step_deliverText (l : Link σ) (text : String) :
    l.step (.deliverText text) =
      match Notification.parse text with
      | .ok n => (l.deliver n).1
      | .error _ => l := rfl

/-! ## Settling the waits that a test picks

Answering, timing out and failing all take the waits some test picks out of the waiting list
and settle each with an outcome; `settleWhere` is that shape once. -/

/-- Settles the waiting queries that `p` picks, each with the outcome `r` gives it. -/
def settleWhere (l : Link σ) (p : Wait → Bool) (r : Wait → Except BridgeError DeviceEvent) :
    Link σ :=
  { l with waiting := l.waiting.filter (!p ·),
           settled := l.settled ++ (l.waiting.filter p).map fun w => (w.ticket, r w) }

theorem answer_eq_settleWhere (l : Link σ) (e : DeviceEvent) :
    l.answer e = l.settleWhere (·.answeredBy e) fun _ => .ok e := by
  simp [answer, settleWhere, List.partition_eq_filter_filter]
  rfl

theorem timeOut_eq_settleWhere (l : Link σ) (t : Nat) :
    l.timeOut t = l.settleWhere (·.ticket == t) fun _ => .error .timeout := by
  simp [timeOut, settleWhere, List.partition_eq_filter_filter]
  rfl

theorem close_eq_settleWhere (l : Link σ) :
    l.close = { l.settleWhere (fun _ => true) fun _ => .error .connectionClosed with
                isOpen := false } := by
  simp [close, fail, settleWhere]

/-- A delivered message that is no event leaves the link as it was. -/
theorem deliver_of_error (l : Link σ) {n : Notification} {f : EventFault}
    (h : n.event = .error f) : (l.deliver n).1 = l := by
  simp [deliver, h]

theorem deliver_of_ok (l : Link σ) {n : Notification} {e : DeviceEvent}
    (h : n.event = .ok e) : (l.deliver n).1 = l.answer e := by
  simp [deliver, h]

/-! ## Tickets -/

/-- Tickets tell the waiting queries apart: each is one the link gave out, none is given to two
waits, and none has an outcome yet. -/
structure Tickets (l : Link σ) : Prop where
  nodup : (l.waiting.map (·.ticket)).Nodup
  waiting_lt : ∀ w ∈ l.waiting, w.ticket < l.nextTicket
  settled_lt : ∀ p ∈ l.settled, p.1 < l.nextTicket
  unsettled : ∀ w ∈ l.waiting, l.outcome w.ticket = none

theorem tickets_empty : ({} : Link σ).Tickets where
  nodup := List.nodup_nil
  waiting_lt := by simp
  settled_lt := by simp
  unsettled := by simp

/-- The tickets depend on the waiting list, the outcomes and the ticket counter only. -/
theorem Tickets.of_eq {l l' : Link σ} (h : l.Tickets) (hw : l'.waiting = l.waiting)
    (hs : l'.settled = l.settled) (hn : l'.nextTicket = l.nextTicket) : l'.Tickets where
  nodup := hw ▸ h.nodup
  waiting_lt := hw ▸ hn ▸ h.waiting_lt
  settled_lt := hs ▸ hn ▸ h.settled_lt
  unsettled := by
    intro w hw'
    simpa [outcome, hs] using h.unsettled w (hw ▸ hw')

theorem lookup_map_ticket {ws : List Wait} (hnd : (ws.map (·.ticket)).Nodup) {w : Wait}
    (hw : w ∈ ws) (r : Wait → Except BridgeError DeviceEvent) :
    (ws.map fun v => (v.ticket, r v)).lookup w.ticket = some (r w) := by
  induction ws with
  | nil => cases hw
  | cons v ws ih =>
    rw [List.map_cons, List.nodup_cons] at hnd
    rw [List.map_cons, List.lookup_cons]
    rcases List.mem_cons.1 hw with rfl | hw
    · simp
    · have hne : w.ticket ≠ v.ticket := fun h => hnd.1 (List.mem_map.2 ⟨w, hw, h⟩)
      rw [beq_false_of_ne hne]
      exact ih hnd.2 hw

variable {l : Link σ} {w : Wait}

/-- A waiting query is settled exactly when the test picks it, and then with its own outcome. -/
theorem Tickets.outcome_settleWhere (h : l.Tickets) (hw : w ∈ l.waiting) (p : Wait → Bool)
    (r : Wait → Except BridgeError DeviceEvent) :
    (l.settleWhere p r).outcome w.ticket = if p w then some (r w) else none := by
  have hpicked : ((l.waiting.filter p).map (·.ticket)).Nodup :=
    h.nodup.sublist (List.filter_sublist.map _)
  have hnone : l.settled.lookup w.ticket = none := h.unsettled w hw
  simp only [outcome, settleWhere, List.lookup_append, hnone, Option.none_or]
  split
  · exact lookup_map_ticket hpicked (List.mem_filter.2 ⟨hw, ‹_›⟩) r
  · -- a picked wait with the same ticket would be `w` itself
    rw [List.lookup_eq_none_iff]
    intro x hx
    obtain ⟨v, hv, rfl⟩ := List.mem_map.1 hx
    have hv' := List.mem_filter.1 hv
    have hne : v ≠ w := fun hvw => ‹¬ p w = true› (hvw ▸ hv'.2)
    have : w.ticket ≠ v.ticket := fun ht => hne (List.inj_on_of_nodup_map h.nodup hv'.1 hw ht.symm)
    simpa using this

theorem Tickets.settleWhere (h : l.Tickets) (p : Wait → Bool)
    (r : Wait → Except BridgeError DeviceEvent) : (l.settleWhere p r).Tickets where
  nodup := h.nodup.sublist (List.filter_sublist.map _)
  waiting_lt w hw := h.waiting_lt w (List.mem_of_mem_filter hw)
  settled_lt x hx := by
    rcases List.mem_append.1 hx with hx | hx
    · exact h.settled_lt x hx
    · obtain ⟨v, hv, rfl⟩ := List.mem_map.1 hx
      exact h.waiting_lt v (List.mem_of_mem_filter hv)
  unsettled w hw := by
    have hw' := List.mem_filter.1 hw
    rw [h.outcome_settleWhere hw'.1 p r]
    simpa using hw'.2

theorem mem_waiting_settleWhere (p : Wait → Bool) (r : Wait → Except BridgeError DeviceEvent) :
    w ∈ (l.settleWhere p r).waiting ↔ w ∈ l.waiting ∧ p w = false := by
  simp [settleWhere]

/-- Registering keeps tickets apart: the new one is the counter, above every ticket given out. -/
theorem Tickets.register (h : l.Tickets) (q : Query) : (l.register q).Tickets where
  nodup := by
    have hfresh : l.nextTicket ∉ l.waiting.map (·.ticket) := by
      rintro hmem
      obtain ⟨v, hv, heq⟩ := List.mem_map.1 hmem
      exact absurd (h.waiting_lt v hv) (by omega)
    rw [Link.register, List.map_append, List.nodup_append_comm]
    exact List.nodup_cons.2 ⟨hfresh, h.nodup⟩
  waiting_lt v hv := by
    rcases List.mem_append.1 hv with hv | hv
    · exact Nat.lt_succ_of_lt (h.waiting_lt v hv)
    · obtain rfl := List.mem_singleton.1 hv
      exact Nat.lt_succ_self _
  settled_lt x hx := Nat.lt_succ_of_lt (h.settled_lt x hx)
  unsettled v hv := by
    rcases List.mem_append.1 hv with hv | hv
    · exact h.unsettled v hv
    · -- nothing is settled under the counter yet
      obtain rfl := List.mem_singleton.1 hv
      rw [outcome, List.lookup_eq_none_iff]
      intro x hx
      have := h.settled_lt x hx
      simp only [bne_iff_ne, ne_eq]
      omega

theorem Tickets.deliver (h : l.Tickets) (n : Notification) : (l.deliver n).1.Tickets := by
  cases hn : n.event with
  | error f => rwa [deliver_of_error l hn]
  | ok e => rw [deliver_of_ok l hn, answer_eq_settleWhere]; exact h.settleWhere _ _

theorem Tickets.step (h : l.Tickets) : ∀ s, (l.step s).Tickets
  | .ask q => by
    rw [step_ask]
    split
    · exact h.register q
    · exact h
  | .deliver n => h.deliver n
  | .deliverText text => by
    rw [step_deliverText]
    split
    · exact h.deliver _
    · exact h
  | .timeOut t => by rw [Link.step, timeOut_eq_settleWhere]; exact h.settleWhere _ _
  | .close => by
    rw [Link.step, close_eq_settleWhere]
    exact (h.settleWhere _ _).of_eq rfl rfl rfl
  | .dropReceiver => h.of_eq rfl rfl rfl

theorem Tickets.run (h : l.Tickets) (steps : List LinkStep) : (l.run steps).Tickets := by
  induction steps generalizing l with
  | nil => exact h
  | cons s rest ih => exact ih (h.step s)

/-! ## What one step does to a waiting query -/

/-- A pushed message settles a waiting query exactly when it is an event that answers it. -/
theorem Tickets.outcome_deliver (h : l.Tickets) (hw : w ∈ l.waiting) (n : Notification) :
    (l.deliver n).1.outcome w.ticket = (n.event.toOption.filter w.answeredBy).map .ok := by
  cases hn : n.event with
  | error f => rw [deliver_of_error l hn]; exact h.unsettled w hw
  | ok e =>
    rw [deliver_of_ok l hn, answer_eq_settleWhere, h.outcome_settleWhere hw]
    by_cases ha : w.answeredBy e <;> simp [ha, Except.toOption]

theorem mem_waiting_deliver (hw : w ∈ l.waiting) (n : Notification) :
    w ∈ (l.deliver n).1.waiting ↔ n.event.toOption.filter w.answeredBy = none := by
  cases hn : n.event with
  | error f => simp [deliver_of_error l hn, hw, Except.toOption]
  | ok e =>
    rw [deliver_of_ok l hn, answer_eq_settleWhere, mem_waiting_settleWhere]
    by_cases ha : w.answeredBy e <;> simp [ha, hw, Except.toOption]

/-- The outcome a step gives a waiting query is how the step ends it; a step that does not end
it gives it none. -/
theorem Tickets.outcome_step (h : l.Tickets) (hw : w ∈ l.waiting) :
    ∀ s, (l.step s).outcome w.ticket = s.ends w
  | .ask q => by
    -- registering another query settles nothing
    rw [step_ask]
    split <;> exact h.unsettled w hw
  | .deliver n => h.outcome_deliver hw n
  | .deliverText text => by
    rw [step_deliverText]
    split
    · rename_i n hn
      simp [h.outcome_deliver hw n, LinkStep.ends, LinkStep.event, LinkStep.pushed, hn,
        Except.toOption]
    · rename_i f hf
      simp [h.unsettled w hw, LinkStep.ends, LinkStep.event, LinkStep.pushed, hf, Except.toOption]
  | .timeOut t => by
    rw [Link.step, timeOut_eq_settleWhere, h.outcome_settleWhere hw]
    by_cases ht : t = w.ticket
    · subst ht
      simp [LinkStep.ends]
    · simp [LinkStep.ends, ht, Ne.symm ht]
  | .close => by
    rw [Link.step, close_eq_settleWhere]
    exact (h.outcome_settleWhere hw _ _).trans (if_pos rfl)
  | .dropReceiver => h.unsettled w hw

/-- A waiting query goes on waiting exactly when the step does not end it. -/
theorem mem_waiting_step (hw : w ∈ l.waiting) :
    ∀ s, w ∈ (l.step s).waiting ↔ s.ends w = none
  | .ask q => by
    rw [step_ask]
    split
    · simp [Link.register, hw, LinkStep.ends, LinkStep.event, LinkStep.pushed]
    · simp [hw, LinkStep.ends, LinkStep.event, LinkStep.pushed]
  | .deliver n => by
    rw [Link.step, mem_waiting_deliver hw]
    simp [LinkStep.ends, LinkStep.event, LinkStep.pushed]
  | .deliverText text => by
    rw [step_deliverText]
    split
    · rename_i n hn
      rw [mem_waiting_deliver hw]
      simp [LinkStep.ends, LinkStep.event, LinkStep.pushed, hn, Except.toOption]
    · rename_i f hf
      simp [hw, LinkStep.ends, LinkStep.event, LinkStep.pushed, hf, Except.toOption]
  | .timeOut t => by
    rw [Link.step, timeOut_eq_settleWhere, mem_waiting_settleWhere]
    by_cases ht : t = w.ticket
    · subst ht
      simp [LinkStep.ends]
    · simp [LinkStep.ends, ht, Ne.symm ht, hw]
  | .close => by
    rw [Link.step, close_eq_settleWhere]
    simp [settleWhere, LinkStep.ends]
  | .dropReceiver => by simp [Link.step, dropReceiver, hw, LinkStep.ends, LinkStep.event, LinkStep.pushed]

/-- A pushed message that is no event leaves the link as it was. -/
theorem step_of_pushed_error (l : Link σ) {s : LinkStep} {n : Notification} {f : EventFault}
    (hs : s.pushed = some n) (hn : n.event = .error f) : l.step s = l := by
  cases s with
  | deliver n' =>
    obtain rfl : n' = n := Option.some.inj hs
    exact deliver_of_error l hn
  | deliverText text =>
    rw [step_deliverText]
    split
    · rename_i n' hn'
      obtain rfl : n' = n := by simpa [LinkStep.pushed, hn', Except.toOption] using hs
      exact deliver_of_error l hn
    · rfl
  | ask _ | timeOut _ | close | dropReceiver => simp [LinkStep.pushed] at hs

/-! ## Whole runs -/

theorem settled_prefix_deliver (l : Link σ) (n : Notification) :
    l.settled <+: (l.deliver n).1.settled := by
  cases hn : n.event with
  | error f => rw [deliver_of_error l hn]
  | ok e => rw [deliver_of_ok l hn, answer_eq_settleWhere]; exact List.prefix_append _ _

/-- Outcomes once given are kept: a step only adds to them. -/
theorem settled_prefix_step (l : Link σ) : ∀ s, l.settled <+: (l.step s).settled
  | .ask q => by
    rw [step_ask]
    split
    · exact List.prefix_refl _
    · exact List.prefix_refl _
  | .deliver n => settled_prefix_deliver l n
  | .deliverText text => by
    rw [step_deliverText]
    split
    · exact settled_prefix_deliver l _
    · exact List.prefix_refl _
  | .timeOut t => by rw [Link.step, timeOut_eq_settleWhere]; exact List.prefix_append _ _
  | .close => by rw [Link.step, close_eq_settleWhere]; exact List.prefix_append _ _
  | .dropReceiver => List.prefix_refl _

theorem settled_prefix_run (l : Link σ) (steps : List LinkStep) :
    l.settled <+: (l.run steps).settled := by
  induction steps generalizing l with
  | nil => exact List.prefix_refl _
  | cons s rest ih => exact (settled_prefix_step l s).trans (ih _)

theorem outcome_run_of_some {t : Nat} {r : Except BridgeError DeviceEvent}
    (ho : l.outcome t = some r) (steps : List LinkStep) : (l.run steps).outcome t = some r := by
  obtain ⟨extra, hext⟩ := settled_prefix_run l steps
  rw [outcome, ← hext, List.lookup_append]
  rw [outcome] at ho
  rw [ho]
  rfl

/-- A waiting query ends as the first step that ends it, and has no outcome while none has. -/
theorem Tickets.outcome_run (h : l.Tickets) (hw : w ∈ l.waiting) (steps : List LinkStep) :
    (l.run steps).outcome w.ticket = steps.findSome? (·.ends w) := by
  -- induction on the steps; the query waits, with no outcome, until a step ends it
  induction steps generalizing l with
  | nil => exact h.unsettled w hw
  | cons s rest ih =>
    rw [run_cons, List.findSome?_cons]
    cases hs : s.ends w with
    | none => exact ih (h.step s) ((mem_waiting_step hw s).2 hs)
    | some r => exact outcome_run_of_some ((h.outcome_step hw s).trans hs) rest

/-- A query the link takes ends as the first step after it that ends it. -/
theorem Tickets.outcome_after_ask (h : l.Tickets) {q : Query} {l' : Link σ} {t : Nat}
    (hq : l.ask q = .ok (l', t)) (post : List LinkStep) :
    (l'.run post).outcome t = post.findSome? (·.ends ⟨t, q.messageType, q.target⟩) := by
  obtain ⟨rfl, rfl⟩ := ask_eq_ok hq
  have hw : (⟨l.nextTicket, q.messageType, q.target⟩ : Wait) ∈ (l.register q).waiting := by
    simp [Link.register]
  exact (h.register q).outcome_run hw post

/-- An answer is the event of the first step that pushes one answering the query. -/
theorem first_answer {w : Wait} {post : List LinkStep} {e : DeviceEvent}
    (h : post.findSome? (·.ends w) = some (.ok e)) :
    w.answeredBy e = true ∧ ∃ mid s rest, post = mid ++ s :: rest ∧ s.event = some e ∧
      ∀ s' ∈ mid, ∀ e', s'.event = some e' → w.answeredBy e' = false := by
  obtain ⟨mid, s, rest, rfl, hs, hmid⟩ := List.findSome?_eq_some_iff.1 h
  obtain ⟨hev, ha⟩ := LinkStep.event_of_ends_eq_ok hs
  refine ⟨ha, mid, s, rest, rfl, hev, fun s' hs' e' he' => ?_⟩
  have hnone := hmid s' hs'
  rw [LinkStep.ends_of_event he'] at hnone
  simpa using hnone

/-- Queries on a link opened fresh, after any steps taken in any order:
* a query the link takes is sent and registered in the same step, and its outcome is the first
  ending among the steps after it;
* it is answered only by an event of its type about its zone or source, the first such pushed
  after it;
* one pushed event answers every query waiting for it;
* a pushed message that is no event, or a text that reads as no message, changes nothing, and
  an event about another zone or source leaves a query waiting. -/
theorem queries_answered_by_first_matching_push (pre post : List LinkStep) :
    let l := ({} : Link σ).run pre
    (∀ q l' t, l.ask q = .ok (l', t) →
      l'.sent = l.sent ++ [.query q] ∧ ⟨t, q.messageType, q.target⟩ ∈ l'.waiting ∧
      (l'.run post).outcome t = post.findSome? (·.ends ⟨t, q.messageType, q.target⟩)) ∧
    (∀ q l' t e, l.ask q = .ok (l', t) → (l'.run post).outcome t = some (.ok e) →
      e.messageType = q.messageType ∧ e.origin = q.target ∧
      ∃ mid s rest, post = mid ++ s :: rest ∧ s.event = some e ∧
        ∀ s' ∈ mid, ∀ e', s'.event = some e' →
          ¬ (e'.messageType = q.messageType ∧ e'.origin = q.target)) ∧
    (∀ w ∈ l.waiting, ∀ s e, s.event = some e →
      e.messageType = w.messageType → e.origin = w.target →
      (l.step s).outcome w.ticket = some (.ok e) ∧ w ∉ (l.step s).waiting) ∧
    (∀ s n f, s.pushed = some n → n.event = .error f → l.step s = l) ∧
    (∀ text f, Notification.parse text = .error f → l.step (.deliverText text) = l) ∧
    (∀ w ∈ l.waiting, ∀ s e, s.event = some e → e.origin ≠ w.target →
      (l.step s).outcome w.ticket = none ∧ w ∈ (l.step s).waiting) := by
  intro l
  have hl : l.Tickets := tickets_empty.run pre
  refine ⟨?_, ?_, ?_, ?_, ?_, ?_⟩
  · -- registration
    intro q l' t hq
    have hout := hl.outcome_after_ask hq post
    obtain ⟨rfl, rfl⟩ := ask_eq_ok hq
    exact ⟨rfl, by simp [Link.register], hout⟩
  · -- the answer and the push it comes from
    intro q l' t e hq ho
    rw [hl.outcome_after_ask hq post] at ho
    obtain ⟨ha, mid, s, rest, hpost, hev, hmid⟩ := first_answer ho
    obtain ⟨htype, horigin⟩ := (Wait.answeredBy_iff _ _).1 ha
    refine ⟨htype, horigin, mid, s, rest, hpost, hev, fun s' hs' e' he' hmatch => ?_⟩
    have hno := hmid s' hs' e' he'
    rw [(Wait.answeredBy_iff _ _).2 hmatch] at hno
    exact Bool.noConfusion hno
  · -- a push answers every query waiting for it
    intro w hw s e he htype horigin
    have hends : s.ends w = some (.ok e) := by
      rw [LinkStep.ends_of_event he, if_pos ((Wait.answeredBy_iff _ _).2 ⟨htype, horigin⟩)]
    refine ⟨(hl.outcome_step hw s).trans hends, fun hin => ?_⟩
    rw [(mem_waiting_step hw s).1 hin] at hends
    cases hends
  · intro s n f hs hn
    exact step_of_pushed_error l hs hn
  · intro text f hf
    rw [step_deliverText, hf]
  · -- an event about another target passes the query by
    intro w hw s e he horigin
    have hends : s.ends w = none := by
      have hna : w.answeredBy e = false := by
        rw [Bool.eq_false_iff]
        exact fun ha => horigin ((Wait.answeredBy_iff _ _).1 ha).2
      rw [LinkStep.ends_of_event he, hna]
      rfl
    exact ⟨(hl.outcome_step hw s).trans hends, (mem_waiting_step hw s).2 hends⟩

end Link

end ZoneBridge
