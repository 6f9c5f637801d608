import ZoneBridge.Model
import ZoneBridge.Error
import ZoneBridge.Text.Blank

/-!
# Configuration of one amplifier

A `Config` names the amplifier's port and model, the zones and sources to show with their names,
the step of volume up and down, and the namespace of the entities' unique ids. Its `options`
may override port, zones and sources; the *effective* values are the overrides where given.

A configuration is checked against its model in a fixed order: the model must be known, the
effective port must not be blank, the volume step must lie within the width of the volume
scale, and every effective zone and source id must lie within the model's count.
-/

namespace ZoneBridge

/-- Names by zone or source id, in ascending id order, one name per id. -/
abbrev IdMap := List (UInt8 × String)

namespace IdMap

/-- Sets the name of an id, keeping the ids in ascending order. -/
def insert (id : UInt8) (name : String) : IdMap → IdMap
  | [] => [(id, name)]
  | (k, v) :: rest =>
    if id < k then (id, name) :: (k, v) :: rest
    else if id == k then (id, name) :: rest
    else (k, v) :: insert id name rest

/-- The map of a list of pairs; of two pairs with one id the later one counts. -/
def ofPairs (pairs : List (UInt8 × String)) : IdMap := pairs.foldl (fun m p => insert p.1 p.2 m) []

/-- The map as data: `[id, name]` pairs in ascending id order. -/
def toJson (m : IdMap) : Json := .array (m.map fun (k, v) => .array [.ofNat k.toNat, .string v])

theorem lookup_insert_self (id : UInt8) (name : String) (m : IdMap) :
    (insert id name m).lookup id = some name := by
  induction m with
  | nil => simp [insert]
  | cons p rest ih =>
    obtain ⟨k, v⟩ := p
    unfold insert
    by_cases h₁ : id < k
    · simp [h₁]
    · by_cases h₂ : id = k
      · subst h₂; simp
      · have : (id == k) = false := beq_eq_false_iff_ne.2 h₂
        simp [h₁, List.lookup_cons, this, ih]

end IdMap

/-- Looks sources up by id and by name. A name given to several ids stands for the highest. -/
structure SourceMap where
  byId : IdMap
deriving DecidableEq, Repr

namespace SourceMap

/-- The name of a source id. -/
def name (m : SourceMap) (id : UInt8) : Option String := m.byId.lookup id

/-- The id of a source name: the highest id of that name. -/
def id (m : SourceMap) (name : String) : Option UInt8 :=
  (m.byId.filter (·.2 == name)).getLast?.map (·.1)

/-- All names, by ascending id. -/
def names (m : SourceMap) : List String := m.byId.map (·.2)

end SourceMap

/-- Overrides of a configuration. -/
structure Options where
  port : Option String := none
  zones : Option IdMap := none
  sources : Option IdMap := none
deriving DecidableEq, Repr

/-- How one amplifier is set up. -/
structure Config where
  port : String
  /-- The name of the model, as in the model table. -/
  model : String
  zones : IdMap := []
  sources : IdMap := []
  /-- Native steps moved by volume up and down. -/
  volumeStep : Int := 1
  /-- The namespace of unique ids; when none is given a fresh one is made up. -/
  entryId : Option String := none
  options : Options := {}
deriving DecidableEq, Repr

namespace Config

/-- The port, preferring the override. -/
def effectivePort (c : Config) : String := c.options.port.getD c.port

/-- The zones, preferring the override. -/
def effectiveZones (c : Config) : IdMap := c.options.zones.getD c.zones

/-- The sources, preferring the override. -/
def effectiveSources (c : Config) : IdMap := c.options.sources.getD c.sources

/-- The model of the configuration. -/
def modelSpec (c : Config) : Except BridgeError ModelSpec :=
  match ModelSpec.lookup c.model with
  | some m => .ok m
  | none => .error (.unknownModel c.model)

/-- The first id of a map that is zero or above `count`. -/
def firstOutside (m : IdMap) (count : Nat) : Option UInt8 :=
  (m.find? fun (k, _) => k == 0 || count < k.toNat).map (·.1)

/-- Checks the configuration against its model. -/
def validate (c : Config) : Except BridgeError Unit := do
  let model ← c.modelSpec
  if (Text.trim c.effectivePort).isEmpty then throw (.config .emptyPort)
  let width := model.volume.upper - model.volume.lower
  if c.volumeStep ≤ 0 || width < c.volumeStep then
    throw (.config (.volumeStep width c.volumeStep))
  if let some z := firstOutside c.effectiveZones model.zones then
    throw (.config (.outOfRange .zone z model.name model.zones))
  if let some s := firstOutside c.effectiveSources model.sources then
    throw (.config (.outOfRange .source s model.name model.sources))

/-- The configuration as data. -/
def toJson (c : Config) : Json :=
  let idMap := fun (m : Option IdMap) => Json.ofOption IdMap.toJson m
  .obj [("port", .string c.port), ("model", .string c.model), ("zones", c.zones.toJson),
    ("sources", c.sources.toJson), ("volume_step", .ofInt c.volumeStep),
    ("entry_id", .ofOption .string c.entryId),
    ("options", .obj [("port", .ofOption .string c.options.port),
      ("zones", idMap c.options.zones), ("sources", idMap c.options.sources)]),
    ("effective_port", .string c.effectivePort),
    ("effective_zones", c.effectiveZones.toJson),
    ("effective_sources", c.effectiveSources.toJson),
    ("display_name", .ofOption .string ((ModelSpec.lookup c.model).map (·.displayName)))]

end Config

/-- Reads names keyed `<word>_<id>`: the id is what follows the first underscore, read as an
8-bit unsigned number; names lose their blanks at both ends. Keys are taken in the given order,
so of two keys with one id the later counts; the first key without an id is refused. -/
def parseIndexed (input : List (String × String)) : Except BridgeError IdMap :=
  let step := fun (m : IdMap) (entry : String × String) =>
    match entry.1.splitOn "_" with
    | _ :: rest@(_ :: _) =>
      match readU8 ("_".intercalate rest) with
      | some id => .ok (IdMap.insert id (Text.trim entry.2) m)
      | none => .error (.config (.invalidKey entry.1))
    | _ => .error (.config (.invalidKey entry.1))
  input.foldlM step []

end ZoneBridge
