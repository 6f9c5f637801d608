import ZoneBridge.Hub

/-!
# Tracing a hub

A scripted run of a `Hub` whose subscribers are named by their handles: each step adds or
removes a subscription, publishes a message type, or counts subscribers, and the trace records
each step's answer. Publishing calls the subscribers of the type in the order they subscribed.
-/

namespace ZoneBridge

/-- One step of a scripted hub run. -/
inductive HubStep where
  | add (m : MessageType)
  | remove (m : MessageType) (handle : Nat)
  | publish (m : MessageType)
  | count (m : MessageType)

/-- What a step of a hub run answers. -/
inductive HubAnswer where
  /-- The handle of a new subscription. -/
  | added (handle : Nat)
  /-- Whether a subscription was removed. -/
  | removed (found : Bool)
  /-- The handles called, in order. -/
  | published (called : List Nat)
  | counted (n : Nat)

/-- The answer as data. -/
def HubAnswer.toJson : HubAnswer → Json
  | .added h => .ofNat h
  | .removed b => .bool b
  | .published called =>
    .obj [("count", .ofNat called.length), ("called", .array (called.map .ofNat))]
  | .counted n => .ofNat n

/-- Runs one step. -/
def HubStep.run (h : Hub Nat) : HubStep → Hub Nat × HubAnswer
  | .add m => let (h', k) := h.add m h.next; (h', .added k)
  | .remove m k => let (h', b) := h.remove m k; (h', .removed b)
  | .publish m =>
    -- the recording subscribers make no calls on the hub
    let p := h.publish ⟨m, .obj []⟩ (fun _ _ _ w => ([], w)) ()
    (p.hub, .published p.called)
  | .count m => (h, .counted (h.count m))

/-- Runs the steps on a fresh hub; gives every step's answer. -/
def HubStep.trace (steps : List HubStep) : List HubAnswer :=
  (steps.foldl (fun (h, acc) s => let (h', a) := s.run h; (h', acc ++ [a])) (({} : Hub Nat), [])).2

end ZoneBridge
