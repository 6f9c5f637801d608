import ZoneBridge.Discovery
import ZoneBridge.Sim.Reply

/-!
# Scanning a scripted amplifier

A scripted amplifier reads every request sent to it, in order. For a query it pushes back the
messages scripted under the query's key, its message type and id written `zone_status:3`, in
order; a query with nothing scripted under its key is left unanswered, and a script key of any
other spelling (`zone_status:03`, `zone_status`) answers nothing. It may be set to close the link on seeing its `n`-th request, which it then
does not answer.
-/

namespace ZoneBridge

/-- The key of a query in a script: its message type and id, as in `zone_status:3`. -/
def Query.key (q : Query) : String := q.messageType.wireName ++ ":" ++ Decimal.digitText q.id.toNat

/-- An amplifier answering queries with scripted push messages. -/
structure ScriptedAmplifier where
  /-- The push messages answering the query of each key. -/
  answers : List (String × List Notification)
  /-- The number, counting from one, of the request on which the link is closed. -/
  closeAt : Option Nat := none

namespace ScriptedAmplifier

/-- The push messages scripted for a query. -/
def answersTo (a : ScriptedAmplifier) (q : Query) : List Notification :=
  (a.answers.lookup q.key).getD []

/-- What the amplifier does on seeing the latest request of the link. -/
def react {σ : Type} (a : ScriptedAmplifier) (l : Link σ) : Link σ :=
  if a.closeAt == some l.sent.length then l.close
  else
    match l.sent.getLast? with
    | some (.query q) => (a.answersTo q).foldl (fun l n => (l.deliver n).1) l
    | _ => l

/-- Scans the amplifier as a model of the given name, on a link that is closed beforehand if
`closed`. The reply lists every request sent, also after a failure. -/
def scanReply (a : ScriptedAmplifier) (modelName : String) (closed : Bool) : Reply :=
  match ModelSpec.lookup modelName with
  | none => .fail (.unknownModel modelName)
  | some model =>
    let l : Link Unit := if closed then ({} : Link Unit).close else {}
    let (l, r) := Discovery.scan model a.react l
    let requests := Json.array (l.sent.map Request.toJson)
    match r with
    | .ok found =>
      .ok (.obj [("zones", found.zones.toJson), ("sources", found.sources.toJson),
        ("requests", requests)])
    | .error e => .failed e [("requests", requests)]

end ScriptedAmplifier

end ZoneBridge
