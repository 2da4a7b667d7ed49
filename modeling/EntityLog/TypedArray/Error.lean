import EntityLog.Number.Fixed
import EntityLog.Schema.TypeText
import EntityLog.Text.Utf8
import EntityLog.Time.Stamp

namespace EntityLog

inductive ArrayErrorKind
  | cast
  | compute
  | invalidArgument
  | schema
  | external
  | parser
  | arithmetic
  | keys
  deriving DecidableEq

def ArrayErrorKind.heading : ArrayErrorKind → String
  | cast => "Cast error: "
  | compute => "Compute error: "
  | invalidArgument => "Invalid argument error: "
  | schema => "Schema error: "
  | external => "External error: "
  | parser => "Parser error: "
  | arithmetic => "Arithmetic overflow: "
  | keys => ""

inductive ArrayError
  | notCastable (source target : DataType)
  | notKeyed (source target : DataType)
  | notEncodable (source target : DataType)
  | notPackable (value : DataType)
  | keyType (key : DataType)
  | keyOverflow
  | runTooLong (stop : Nat)
  | valueOutOfRange (value : String) (target : IntegerType)
  | notNumeric (text : String) (target : FlatType)
  | notBoolean (text : String)
  | listToFlat
  | fixedSizeDiffers
  | listLength (size : Int) (index length : Nat)
  | malformedText (cause : Text.Utf8.Malformed)
  | malformedCell (index : Nat) (cause : Text.Utf8.Malformed)
  | splitCharacter (offset : Nat)
  | byteCount
  | itemsTooFew (stop length : Nat)
  | maskLength (list : String) (expected length : Nat)
  | nullItems (list name : String)
  | itemType (list : String) (item : Field) (found : DataType)
  | unmaskedItems (name : String)
  | noColumns
  | columnCount (expected count : Nat)
  | columnType (column : Field) (found : DataType)
  | unmaskedField (name : String)
  | columnLength (name : String) (expected length : Nat)
  | variantCount
  | offsetCount
  | variantLength
  | negativeSize (size : Int)
  | negativeLength (length : Int)
  | offsetOverflow
  | nothingToJoin
  | typesDiffer (types : List DataType)
  | tooManyInstances (component : String) (count : Nat)
  | wrongType (found : DataType)
  | fixed (cause : FixedError)
  | stamp (cause : StampError)
  | overflow (left right : Int)
  | undated (value : Int) (type : TemporalType)
  | noDate (unit : TimeUnit) (value : Int)
  | noTimeOfDay (unit : TimeUnit) (value : Int)
  | zoneOutOfRange
  | momentOutOfRange (moment : Moment)
  | reported (kind : ArrayErrorKind) (text : String)
  deriving DecidableEq

def FixedError.isCast : FixedError → Bool
  | scaleOverflow .. | notFixed .. | notDecimal .. => true
  | _ => false

namespace ArrayError

def kind : ArrayError → ArrayErrorKind
  | notCastable .. | notKeyed .. | notEncodable .. | notPackable .. | keyType .. | runTooLong ..
  | valueOutOfRange .. | notNumeric .. | notBoolean .. | listToFlat | fixedSizeDiffers
  | listLength .. | wrongType .. | undated .. | noDate .. | noTimeOfDay .. | zoneOutOfRange
  | momentOutOfRange .. => .cast
  | nothingToJoin => .compute
  | malformedText .. | malformedCell .. | splitCharacter .. | byteCount | itemsTooFew ..
  | maskLength .. | nullItems .. | itemType .. | unmaskedItems .. | noColumns | columnCount ..
  | columnType .. | unmaskedField .. | columnLength .. | variantCount | offsetCount
  | variantLength | negativeSize .. | negativeLength .. | offsetOverflow
  | typesDiffer .. | tooManyInstances .. => .invalidArgument
  | fixed cause => if cause.isCast then .cast else .invalidArgument
  | stamp _ => .parser
  | overflow .. => .arithmetic
  | keyOverflow => .keys
  | reported kind _ => kind

def typeNames (types : List DataType) : String :=
  ", ".intercalate ((types.take 10).map DataType.display) ++
    (if 10 < types.length then ", ..." else "")

def stampName (unit : TimeUnit) : String := "arrow_array::types::Timestamp" ++ unit.debug ++ "Type"

def text : ArrayError → String
  | notCastable source target =>
    "Casting from " ++ source.display ++ " to " ++ target.display ++ " not supported"
  | notKeyed source target =>
    "Casting from type " ++ source.display ++ " to dictionary type " ++ target.display ++
      " not supported"
  | notEncodable source target =>
    "Casting from type " ++ source.display ++ " to run end encoded type " ++ target.debug ++
      " not supported"
  | notPackable value => "Unsupported output type for dictionary packing: " ++ value.display
  | keyType key => "Unsupported type " ++ key.display ++ " for dictionary index"
  | keyOverflow => "Dictionary key bigger than the key type"
  | runTooLong stop => "Run end index out of range: " ++ toString stop
  | valueOutOfRange value target => "Can't cast value " ++ value ++ " to type " ++ target.display
  | notNumeric text target =>
    "Cannot cast string '" ++ text ++ "' to value of " ++ target.display ++ " type"
  | notBoolean text => "Cannot cast value '" ++ text ++ "' to value of Boolean type"
  | listToFlat => "Cannot cast list to non-list data types"
  | fixedSizeDiffers => "cannot cast fixed-size-list to fixed-size-list with different size"
  | listLength size index length =>
    "Cannot cast to FixedSizeList(" ++ toString size ++ "): value at index " ++ toString index ++
      " has length " ++ toString length
  | malformedText cause => "Encountered non UTF-8 data: " ++ cause.message
  | malformedCell index cause =>
    "Encountered non-UTF-8 data at index " ++ toString index ++ ": " ++ cause.message
  | splitCharacter offset => "Split UTF-8 codepoint at offset " ++ toString offset
  | byteCount => "Byte slice does not have the same length as FixedSizeBinaryBuilder value lengths"
  | itemsTooFew stop length =>
    "Max offset of " ++ toString stop ++ " exceeds length of values " ++ toString length
  | maskLength list expected length =>
    "Incorrect length of null buffer for " ++ list ++ "Array, expected " ++ toString expected ++
      " got " ++ toString length
  | nullItems list name =>
    "Non-nullable field of " ++ list ++ "Array " ++ Text.quoted name ++ " cannot contain nulls"
  | itemType list item found =>
    list ++ "Array expected data type " ++ item.type.display ++ " got " ++ found.display ++
      " for " ++ Text.quoted item.name
  | unmaskedItems name =>
    "Found unmasked nulls for non-nullable FixedSizeListArray field " ++ Text.quoted name
  | noColumns =>
    "use StructArray::try_new_with_length or StructArray::new_empty_fields to create a struct " ++
      "array with no fields so that the length can be set correctly"
  | columnCount expected count =>
    "Incorrect number of arrays for StructArray fields, expected " ++ toString expected ++
      " got " ++ toString count
  | columnType column found =>
    "Incorrect datatype for StructArray field " ++ Text.quoted column.name ++ ", expected " ++
      column.type.display ++ " got " ++ found.display
  | unmaskedField name =>
    "Found unmasked nulls for non-nullable StructArray field " ++ Text.quoted name
  | columnLength name expected length =>
    "Incorrect array length for StructArray field " ++ Text.quoted name ++ ", expected " ++
      toString expected ++ " got " ++ toString length
  | variantCount => "Union fields length must match child arrays length"
  | offsetCount => "Type Ids and Offsets lengths must match"
  | variantLength => "Sparse union child arrays must be equal in length to the length of the union"
  | negativeSize size => "Size cannot be negative, got " ++ toString size
  | negativeLength length => "list lengths must be non-negative, got " ++ toString length
  | offsetOverflow => "list offsets overflow i32"
  | nothingToJoin => "concat requires input of at least one array"
  | typesDiffer types =>
    "It is not possible to concatenate arrays of different data types (" ++ typeNames types ++ ")."
  | tooManyInstances component count =>
    component ++ " has too many instances (" ++ toString count ++ ") to be partitioned"
  | wrongType found => "Failed to downcast array of type " ++ found.display
  | fixed cause => cause.message
  | stamp cause => cause.message
  | overflow left right =>
    "Overflow happened on: " ++ toString left ++ " * " ++ toString right
  | undated value type =>
    let sort := match type with
      | .timestamp .. => "datetime"
      | _ => "temporal"
    "Failed to convert " ++ toString value ++ " to " ++ sort ++ " for " ++ type.display
  | noDate unit value =>
    "Cannot convert " ++ stampName unit ++ " " ++ toString value ++ " to datetime"
  | noTimeOfDay unit value =>
    "Failed to create naive time with " ++ stampName unit ++ " " ++ toString value
  | zoneOutOfRange => "Cannot cast timezone to different timezone"
  | momentOutOfRange moment =>
    "Overflow converting " ++ moment.text " " ++ " to Nanosecond. The dates that can be " ++
      "represented as nanoseconds have to be between 1677-09-21T00:12:44.0 and " ++
      "2262-04-11T23:47:16.854775804"
  | reported _ text => text

def message (e : ArrayError) : String := e.kind.heading ++ e.text

end ArrayError

end EntityLog
