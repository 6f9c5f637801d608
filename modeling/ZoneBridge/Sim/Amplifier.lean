import ZoneBridge.Link
import ZoneBridge.Sim.Reply

/-!
# Calling an amplifier

The calls the bridge makes on an amplifier: typed queries, each answered by an event of the
type asked for, and commands. A query's answer comes either through the link (the amplifier
pushes messages in while the query waits) or from a script of push messages, one per query in
order, which is read without regard to what was asked; an event of another type than the one
asked for is then refused as unexpected.
-/

namespace ZoneBridge

/-- The event itself, if it is of the expected type. -/
def expectEvent (m : MessageType) (e : DeviceEvent) : Outcome DeviceEvent :=
  if e.messageType == m then .ok e else .error (.unexpectedEvent (some m) e.messageType)

/-- A call on an amplifier. -/
inductive AmplifierCall where
  /-- A typed query; through the link, the link is closed if `close` while it waits, and the
  `answers` are pushed in. -/
  | query (q : Query) (answers : List Notification) (close : Bool)
  | command (c : Command)
  | close

/-- An amplifier on a link, its queries answered through the link or from a script. -/
structure SimAmplifier where
  link : Link Unit := {}
  /-- The push messages that answer the next queries, if queries are answered from a script. -/
  script : Option (List Notification) := none

namespace SimAmplifier

/-- Asks a query and reads its answer. -/
def ask (a : SimAmplifier) (q : Query) (answers : List Notification) (close : Bool) :
    SimAmplifier × Outcome DeviceEvent :=
  match a.script with
  | none =>
    match a.link.ask q with
    | .error e => (a, .error e)
    | .ok (l, t) =>
      let l := if close then l.close else l
      let l := (answers.foldl (fun l n => (l.deliver n).1) l).expire
      ({ a with link := l }, (l.outcome t).getD (.error .timeout) >>= expectEvent q.messageType)
  | some script =>
    match a.link.request q with
    | .error e => (a, .error e)
    | .ok l =>
      match script with
      | [] => ({ a with link := l }, .error .timeout)
      | n :: rest =>
        ({ link := l, script := some rest },
          (n.event.mapError (.malformed ∘ .event)) >>= expectEvent q.messageType)

/-- Makes a call. -/
def call (a : SimAmplifier) : AmplifierCall → SimAmplifier × Reply
  | .query q answers close =>
    let (a, r) := a.ask q answers close
    (a, .ofOutcome DeviceEvent.describe r)
  | .command c =>
    match a.link.send c with
    | .ok l => ({ a with link := l }, .ok .null)
    | .error e => (a, .fail e)
  | .close => ({ a with link := a.link.close }, .ok .null)

/-- Makes the calls in order; reports each call's result and the requests it sent. -/
def run (a : SimAmplifier) (calls : List AmplifierCall) : List Json :=
  (calls.foldl (fun (a, acc) c =>
    let before := a.link.sent.length
    let (a, r) := a.call c
    (a, acc ++ [.obj [("result", r.result),
      ("requests", .array ((a.link.sent.drop before).map Request.toJson))]])) (a, [])).2

end SimAmplifier

end ZoneBridge
