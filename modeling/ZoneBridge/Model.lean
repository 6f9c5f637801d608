import ZoneBridge.Scale

/-!
# Amplifier models

A model fixes how many zones and sources an amplifier has and the native scale of each of its
controls. Two models are known; a model is looked up by its exact name, and shown with the
underscores of its name turned into spaces.
-/

namespace ZoneBridge

/-- The kinds of control an amplifier has. -/
inductive ControlKind where
  | volume
  | bass
  | treble
  | balance
  | gain
deriving DecidableEq, Repr

/-- The name of a control kind. -/
def ControlKind.name : ControlKind → String
  | .volume => "volume"
  | .bass => "bass"
  | .treble => "treble"
  | .balance => "balance"
  | .gain => "gain"

/-- What a model of amplifier offers. -/
structure ModelSpec where
  name : String
  zones : Nat
  sources : Nat
  volume : Scale
  bass : Scale
  treble : Scale
  balance : Scale
  gain : Scale
deriving DecidableEq, Repr

namespace ModelSpec

/-- The larger model: twenty zones, tone from -18 to 18. -/
def grandConcerto : ModelSpec where
  name := "Grand_Concerto"
  zones := 20
  sources := 6
  volume := ⟨79, 0, 1⟩
  bass := ⟨-18, 18, 2⟩
  treble := ⟨-18, 18, 2⟩
  balance := ⟨0, 18, 2⟩
  gain := ⟨0, 14, 1⟩

/-- The smaller model: twelve zones, tone from -12 to 12. -/
def essentiaG : ModelSpec where
  name := "Essentia_G"
  zones := 12
  sources := 6
  volume := ⟨79, 0, 1⟩
  bass := ⟨-12, 12, 2⟩
  treble := ⟨-12, 12, 2⟩
  balance := ⟨0, 18, 2⟩
  gain := ⟨0, 14, 1⟩

/-- The known models, in table order. -/
def all : List ModelSpec := [grandConcerto, essentiaG]

/-- The model of exactly this name. -/
def lookup (name : String) : Option ModelSpec := all.find? (·.name == name)

/-- The name shown to users: underscores become spaces. -/
def displayName (m : ModelSpec) : String := m.name.map fun c => if c == '_' then ' ' else c

/-- The scale of a control kind. -/
def scale (m : ModelSpec) : ControlKind → Scale
  | .volume => m.volume
  | .bass => m.bass
  | .treble => m.treble
  | .balance => m.balance
  | .gain => m.gain

theorem lookup_name {name : String} {m : ModelSpec} (h : lookup name = some m) : m.name = name := by
  have := List.find?_some h
  simpa using this

end ModelSpec

end ZoneBridge
