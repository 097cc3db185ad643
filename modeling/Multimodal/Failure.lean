import Multimodal.Number.Integer

/-!
# What can go wrong

Failures are causes with the data that explains them. Their wording is one function, `message`, and
the messages of the parts that make up a failure stand beside the part.
-/
namespace Multimodal

/-- The identifier of a record where it is stored. -/
abbrev RecordId := Int64

/-- The four kinds of records a network is made from. -/
inductive RecordKind where
  | roadNode
  | roadSection
  | stop
  | transitSection
  deriving DecidableEq, Repr

/-- A kind as messages name it. -/
def RecordKind.label : RecordKind → String
  | .roadNode => "road node"
  | .roadSection => "road section"
  | .stop => "stop"
  | .transitSection => "pt section"

def idText (id : RecordId) : String := String.ofList (Number.integerText id.toInt)

/-- Why a value cannot be decoded. `shape` covers all that is plainly of another form: a wrong type,
a missing or repeated field, an unknown name. -/
inductive DecodeFault where
  | shape
  | flag (text : String)
  | id (text : String) (cause : Number.IntegerFault)
  | distance (km : Float)
  deriving DecidableEq, Repr

/-- What is said about a distance that is negative or not finite. -/
def distanceText (km : Float) : String := "invalid step distance " ++ Number.plainText km

/-- What is known about a decoding fault beyond its shape. -/
def DecodeFault.detail : DecodeFault → Option String
  | .shape => none
  | .flag text => some ("invalid boolean '" ++ text ++ "'")
  | .id text cause => some ("invalid id '" ++ text ++ "': " ++ cause.message)
  | .distance km => some ("Invalid data: " ++ distanceText km)

abbrev Decoded (α : Type) := Except DecodeFault α

/-- Why a file cannot be had. -/
inductive FileFault where
  | notFound
  | notADirectory
  | isADirectory
  | nameTooLong
  | zeroInPath
  | notText
  deriving DecidableEq, Repr

/-- The fault as the system words it. -/
def FileFault.message : FileFault → String
  | .notFound => "No such file or directory (os error 2)"
  | .notADirectory => "Not a directory (os error 20)"
  | .isADirectory => "Is a directory (os error 21)"
  | .nameTooLong => "File name too long (os error 36)"
  | .zeroInPath => "file name contained an unexpected NUL byte"
  | .notText => "stream did not contain valid UTF-8"

/-- Why a row of a table cannot be used. -/
inductive TableFault where
  | notText
  | fieldCount
  | undecodable (cause : DecodeFault)
  deriving DecidableEq, Repr

/-- The class of a table fault. -/
def TableFault.message : TableFault → String
  | .notText => "CSV parse error"
  | .fieldCount => "CSV error"
  | .undecodable _ => "CSV deserialize error"

/-- Why a record is malformed. -/
inductive RowFault where
  | unknownRoadType (id : RecordId) (code : Int32)
  | invalidLength (id : RecordId) (length : Float)
  | abscissaOutside (id : RecordId) (abscissa : Float)
  | unusable (path : String) (cause : TableFault)
  | described (text : String)
  deriving DecidableEq, Repr

def RowFault.message : RowFault → String
  | .unknownRoadType id code =>
    "section " ++ idText id ++ ": unknown road type "
      ++ String.ofList (Number.integerText code.toInt)
  | .invalidLength id length =>
    "section " ++ idText id ++ ": invalid length " ++ Number.plainText length
  | .abscissaOutside id abscissa =>
    "stop " ++ idText id ++ ": abscissa " ++ Number.plainText abscissa ++ " is outside [0, 1]"
  | .unusable path cause => path ++ ": " ++ cause.message
  | .described text => text

/-- Why a stream of records cannot be had at all. -/
inductive SourceFault where
  | roadDirectoryMissing (dir : String)
  | networkDirectoryMissing (id : RecordId) (dir : String)
  | unopened (path : String) (cause : FileFault)
  | described (text : String)
  deriving DecidableEq, Repr

def SourceFault.message : SourceFault → String
  | .roadDirectoryMissing dir => "road directory not found: " ++ dir
  | .networkDirectoryMissing id dir =>
    "directory of public transport network " ++ idText id ++ " not found: " ++ dir
  | .unopened path cause => "failed to open '" ++ path ++ "': " ++ cause.message
  | .described text => text

/-- Why a value that was given is refused. -/
inductive DataFault where
  | distance (km : Float)
  | networkRepeated (id : RecordId)
  | described (text : String)
  deriving DecidableEq, Repr

def DataFault.message : DataFault → String
  | .distance km => distanceText km
  | .networkRepeated id => "Public transport network id " ++ idText id ++ " is configured twice"
  | .described text => text

/-- A failure of any operation of the library. Rows are numbered from zero in their own stream. -/
inductive Failure where
  /-- A second record has the id of an earlier one. -/
  | duplicateId (kind : RecordKind) (id : RecordId)
  /-- No record has the id. -/
  | unknownId (kind : RecordKind) (id : RecordId)
  /-- A record refers to one that does not exist. -/
  | danglingReference (kind : RecordKind) (row : Nat) (recordId : Option RecordId) (field : String)
      (target : RecordKind) (missingId : RecordId)
  /-- A record cannot be what it says. -/
  | malformedRecord (kind : RecordKind) (row : Nat) (cause : RowFault)
  /-- An itinerary has no such step. -/
  | outOfRange (index length : Nat)
  /-- The records of a kind cannot be had. -/
  | sourceUnavailable (kind : RecordKind) (cause : SourceFault)
  /-- A handle belongs to no vertex of the graph. -/
  | invalidHandle
  /-- A value is refused. -/
  | invalidData (cause : DataFault)
  /-- A geometry cannot be decoded. -/
  | geometry (text : String)
  /-- A file cannot be read. -/
  | unreadableFile (text : String)
  /-- A configuration is not one. -/
  | configuration
  /-- A JSON text does not hold the wanted value. -/
  | json (cause : DecodeFault)
  deriving DecidableEq, Repr

/-- The label of the record that holds a reference, if it has an id.
mirrors `record_label` -/
def recordLabel : Option RecordId → String
  | none => ""
  | some id => " (id " ++ idText id ++ ")"

/-- A failure as one line of text. -/
def Failure.message : Failure → String
  | .duplicateId kind id => "Duplicate " ++ kind.label ++ " id " ++ idText id
  | .unknownId kind id => "Unknown " ++ kind.label ++ " id " ++ idText id
  | .danglingReference kind row recordId field target missingId =>
    "Referential integrity violated at " ++ kind.label ++ " row " ++ toString row
      ++ recordLabel recordId ++ ": " ++ field ++ " references unknown " ++ target.label ++ " id "
      ++ idText missingId
  | .malformedRecord kind row cause =>
    "Malformed " ++ kind.label ++ " record at row " ++ toString row ++ ": " ++ cause.message
  | .outOfRange index length =>
    "Step index " ++ toString index ++ " out of range (roadmap has " ++ toString length ++ " steps)"
  | .sourceUnavailable kind cause =>
    "Unable to read " ++ kind.label ++ " records: " ++ cause.message
  | .invalidHandle => "Invalid node index"
  | .invalidData cause => "Invalid data: " ++ cause.message
  | .geometry text => "Geometry error: " ++ text
  | .unreadableFile text => "I/O error: " ++ text
  | .configuration => "Configuration error"
  | .json _ => "JSON error"

/-- The kind of records a failure speaks about, if it speaks about a stream of them.
mirrors `record_kind` -/
def Failure.recordKind? : Failure → Option RecordKind
  | .duplicateId kind _ => some kind
  | .unknownId kind _ => some kind
  | .danglingReference kind _ _ _ _ _ => some kind
  | .malformedRecord kind _ _ => some kind
  | .sourceUnavailable kind _ => some kind
  | _ => none

end Multimodal
