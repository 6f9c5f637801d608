import ZoneBridge.Model
import ZoneBridge.Event

/-!
# Identity of entities

An entity of the home-automation host is one control of one zone or source of one configured
amplifier. Its unique id joins the configuration's namespace, the kind and id of the zone or
source, and the control's name with underscores. All entities of one amplifier share one
`DeviceInfo`, which groups them under the amplifier in the host.
-/

namespace ZoneBridge

/-- Which configured amplifier, which zone or source, which control. -/
structure EntityId where
  /-- The namespace of the configuration the entity belongs to. -/
  entry : String
  target : Target
  control : String
deriving DecidableEq, Repr

/-- The unique id under which the host registers an entity: `<entry>_<kind>_<id>_<control>`. -/
def EntityId.uniqueId (e : EntityId) : String :=
  e.entry ++ "_" ++ e.target.kind.name ++ "_" ++ Decimal.digitText e.target.id.toNat ++ "_" ++
    e.control

example : (EntityId.mk "entry1" (.zone 5) "bass").uniqueId = "entry1_zone_5_bass" := by decide

/-- The integration's domain, first of the identifiers of a device. -/
def integrationDomain : String := "nuvo_serial"

/-- What the host shows about the amplifier all entities belong to. -/
structure DeviceInfo where
  entry : String
  name : String
  manufacturer : String
  model : String
deriving DecidableEq, Repr

namespace DeviceInfo

/-- The device of a configuration's namespace and model. -/
def ofModel (entry : String) (m : ModelSpec) : DeviceInfo :=
  ⟨entry, m.displayName, "Nuvo", m.name⟩

/-- The device as data. -/
def toJson (d : DeviceInfo) : Json :=
  .obj [("identifiers", .array [.string integrationDomain, .string d.entry]),
    ("name", .string d.name), ("manufacturer", .string d.manufacturer), ("model", .string d.model)]

end DeviceInfo

end ZoneBridge
