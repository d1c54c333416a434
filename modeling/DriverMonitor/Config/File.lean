import DriverMonitor.Config.Basic
import DriverMonitor.Files.Directory
import DriverMonitor.Text.Utf8
import DriverMonitor.Toml.Reader

/-! # Configuration files

A configuration file is a TOML document with the sections `inference`, `gaze`, `identity` and
`storage`. What it leaves out keeps its default, keys of other names are passed over, and a whole
number may stand where a floating-point number is expected, but not the reverse. A section may also
be an array of its settings in order.

A file that cannot be read this way is refused without a reason; one that can is validated.
-/

namespace DriverMonitor

open Number (Single)

namespace TomlValue

/-- The settings of a section by name. An array gives them in the order of `names`, as far as it
goes. -/
def settings? (names : List String) : TomlValue → Option (List (String × TomlValue))
  | table members => some members
  | array items => some (names.zip items)
  | datetime _ => some []
  | _ => none

def float? : TomlValue → Option Float
  | float x => some x
  | integer i => some (.ofInt i)
  | _ => none

def single? : TomlValue → Option Single
  | float x => some (.ofFloat x)
  | integer i => some ⟨.ofNat (Number.Layout.single.ofDyadic (i < 0) i.natAbs 0)⟩
  | _ => none

def nat? : TomlValue → Option Nat
  | integer i => if 0 ≤ i then some i.toNat else none
  | _ => none

def uint32? (v : TomlValue) : Option UInt32 :=
  v.nat?.bind fun n => if n < UInt32.size then some (.ofNat n) else none

def text? : TomlValue → Option String
  | string text => some text
  | _ => none

/-- Whether a value is an array or a table without anything in it. -/
def isHollow : TomlValue → Bool
  | array [] | table [] => true
  | _ => false

/-- A strategy by its name, or as a table with the name as its only key and nothing under it. -/
def strategy? : TomlValue → Option GazeStrategy
  | string name => GazeStrategy.ofName? name
  | table [(name, v)] => if v.isHollow then GazeStrategy.ofName? name else none
  | _ => none

end TomlValue

/-- The setting of a name, `default` where it is left out. -/
def setting {α : Type} (members : List (String × TomlValue)) (name : String)
    (read : TomlValue → Option α) (default : α) : Option α :=
  match members.lookup name with
  | none => some default
  | some v => read v

def InferenceSettings.ofToml? (v : TomlValue) : Option InferenceSettings := do
  let ms ← v.settings? ["rate_hz", "frame_width", "frame_height", "capture_rate_hz"]
  let base : InferenceSettings := {}
  return {
    rateHz := ← setting ms "rate_hz" TomlValue.float? base.rateHz
    frameWidth := ← setting ms "frame_width" TomlValue.uint32? base.frameWidth
    frameHeight := ← setting ms "frame_height" TomlValue.uint32? base.frameHeight
    captureRateHz := ← setting ms "capture_rate_hz" (·.float?.map some) base.captureRateHz }

def GazeSettings.ofToml? (v : TomlValue) : Option GazeSettings := do
  let ms ← v.settings? ["strategy", "extension", "max_affine_residual"]
  let base : GazeSettings := {}
  return {
    strategy := ← setting ms "strategy" TomlValue.strategy? base.strategy
    extension := ← setting ms "extension" TomlValue.float? base.extension
    maxAffineResidual := ←
      setting ms "max_affine_residual" TomlValue.float? base.maxAffineResidual }

def IdentitySettings.ofToml? (v : TomlValue) : Option IdentitySettings := do
  let ms ← v.settings?
    ["distance_threshold", "slot_capacity", "min_enrollment_samples", "embedding_dim"]
  let base : IdentitySettings := {}
  return {
    distanceThreshold := ←
      setting ms "distance_threshold" TomlValue.single? base.distanceThreshold
    slotCapacity := ← setting ms "slot_capacity" TomlValue.uint32? base.slotCapacity
    minEnrollmentSamples := ←
      setting ms "min_enrollment_samples" TomlValue.nat? base.minEnrollmentSamples
    embeddingDim := ← setting ms "embedding_dim" TomlValue.nat? base.embeddingDim }

def StorageSettings.ofToml? (v : TomlValue) : Option StorageSettings := do
  let ms ← v.settings? ["profiles_dir"]
  return { profilesDir := ← setting ms "profiles_dir" (·.text?.map some) none }

namespace Config

def ofToml? (members : List (String × TomlValue)) : Option Config := do
  return {
    inference := ← setting members "inference" InferenceSettings.ofToml? {}
    gaze := ← setting members "gaze" GazeSettings.ofToml? {}
    identity := ← setting members "identity" IdentitySettings.ofToml? {}
    storage := ← setting members "storage" StorageSettings.ofToml? {} }

def parse (text : String) : Except Failure Config :=
  match (Toml.parse? text).bind ofToml? with
  | none => .error (.config .unparsable)
  | some config => do
    config.validate
    return config

def load (path : String) : Option Entry → Except Failure Config
  | none => .error (.config (.notFound path))
  | some .directory => .error .io
  | some (.file bytes) => (Text.ofUtf8? bytes).elim (.error .io) parse

/-- The configuration in what stands under a path, the default where nothing does. -/
def loadOrDefault (path : String) : Option Entry → Except Failure Config
  | none => .ok .default
  | entry => load path entry

/-- Where the configuration is looked for unless another path is given. -/
def usualPath : String := "configs/watchout.toml"

end Config

end DriverMonitor
