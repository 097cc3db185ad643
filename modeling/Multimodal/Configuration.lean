import Multimodal.Import.Options
import Multimodal.Storage
import Multimodal.Toml.Reader

/-!
# Configurations

A configuration says in which directories the rows of a network are stored, and how they are to be
imported. Before an import its directories are looked for and the ids of its networks compared.
-/
namespace Multimodal

/-- The directory of one public transport network. -/
structure TransitDirectory where
  id : RecordId
  name : String
  dir : String
  deriving DecidableEq, Repr, Inhabited

/-- Where the rows of a network are, and how to import them. -/
structure Configuration where
  roadDir : String
  transit : List TransitDirectory := []
  options : ImportOptions := {}
  deriving DecidableEq, Repr, Inhabited

namespace Configuration

/-- mirrors `with_public_transport` -/
def addTransit (c : Configuration) (id : RecordId) (name dir : String) : Configuration :=
  { c with transit := c.transit ++ [⟨id, name, dir⟩] }

/-- Checks public transport networks, `seen` being the ids of those before. -/
def checkTransit (isDirectory : String → Bool) :
    List RecordId → List TransitDirectory → Except Failure Unit
  | _, [] => .ok ()
  | seen, network :: rest =>
    if !isDirectory network.dir then
      .error (.sourceUnavailable .stop (.networkDirectoryMissing network.id network.dir))
    else if seen.contains network.id then .error (.invalidData (.networkRepeated network.id))
    else checkTransit isDirectory (network.id :: seen) rest

/-- Checks that every directory is there and that no id comes twice.
mirrors `validate_config` -/
def check (isDirectory : String → Bool) (c : Configuration) : Except Failure Unit :=
  if !isDirectory c.roadDir then
    .error (.sourceUnavailable .roadNode (.roadDirectoryMissing c.roadDir))
  else checkTransit isDirectory [] c.transit

end Configuration

namespace Json

def transitDirectoryFields : List (RecordField Json TransitDirectory) :=
  [ .required "id" asInt64 fun v r => { r with id := v },
    .required "name" asText fun v r => { r with name := v },
    .required "dir" asText fun v r => { r with dir := v } ]

def asTransitDirectory (medium : Medium) : Json → Decoded TransitDirectory :=
  asRecordIn medium transitDirectoryFields default

def ofTransitDirectory (d : TransitDirectory) : Json :=
  .obj [("id", ofInt64 d.id), ("name", .str d.name), ("dir", .str d.dir)]

def configurationFields (medium : Medium) : List (RecordField Json Configuration) :=
  [ .required "road_dir" asText fun v r => { r with roadDir := v },
    .defaulted "public_transport" (asList (asTransitDirectory medium)) fun v r =>
      { r with transit := v },
    .defaulted "import" (asImportOptions medium) fun v r => { r with options := v } ]

def asConfiguration (medium : Medium) : Json → Decoded Configuration :=
  asRecordIn medium (configurationFields medium) default

def ofConfiguration (c : Configuration) : Json :=
  .obj
    [ ("road_dir", .str c.roadDir), ("public_transport", ofList ofTransitDirectory c.transit),
      ("import", ofImportOptions c.options) ]

end Json

namespace Configuration

/-- mirrors `from_toml_str` -/
def ofText (text : String) : Except Failure Configuration :=
  match Toml.read text with
  | none => .error .configuration
  | some v => (v.asConfiguration .table).mapError fun _ => .configuration

/-- mirrors `from_toml_file` -/
def ofFile (storage : Storage) (path : String) : Except Failure Configuration :=
  match storage.readText path with
  | .ok text => ofText text
  | .error fault =>
    .error (.unreadableFile ("Failed to read config '" ++ path ++ "': " ++ fault.message))

end Configuration

end Multimodal
