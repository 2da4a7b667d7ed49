import EntityLog.Schema.DataType
import EntityLog.Text.Quoted

namespace EntityLog

def IntegerType.display : IntegerType → String
  | int8 => "Int8"
  | int16 => "Int16"
  | int32 => "Int32"
  | int64 => "Int64"
  | uint8 => "UInt8"
  | uint16 => "UInt16"
  | uint32 => "UInt32"
  | uint64 => "UInt64"

def FloatType.display : FloatType → String
  | half => "Float16"
  | single => "Float32"
  | double => "Float64"

def TimeUnit.display : TimeUnit → String
  | second => "s"
  | millisecond => "ms"
  | microsecond => "µs"
  | nanosecond => "ns"

def TimeUnit.debug : TimeUnit → String
  | second => "Second"
  | millisecond => "Millisecond"
  | microsecond => "Microsecond"
  | nanosecond => "Nanosecond"

def TemporalType.display : TemporalType → String
  | date32 => "Date32"
  | date64 => "Date64"
  | time64 => "Time64(ns)"
  | timestamp unit none => "Timestamp(" ++ unit.display ++ ")"
  | timestamp unit (some zone) => "Timestamp(" ++ unit.display ++ ", " ++ Text.quoted zone ++ ")"
  | duration unit => "Duration(" ++ unit.display ++ ")"

def TemporalType.debug : TemporalType → String
  | date32 => "Date32"
  | date64 => "Date64"
  | time64 => "Time64(Nanosecond)"
  | timestamp unit none => "Timestamp(" ++ unit.debug ++ ", None)"
  | timestamp unit (some zone) => "Timestamp(" ++ unit.debug ++ ", Some(" ++ Text.quoted zone ++ "))"
  | duration unit => "Duration(" ++ unit.debug ++ ")"

def Layout.textName : Layout → String
  | regular => "Utf8"
  | large => "LargeUtf8"
  | view => "Utf8View"

def Layout.binaryName : Layout → String
  | regular => "Binary"
  | large => "LargeBinary"
  | view => "BinaryView"

def ListWidth.display : ListWidth → String
  | regular => "List"
  | large => "LargeList"

def UnionMode.display : UnionMode → String
  | dense => "Dense"
  | sparse => "Sparse"

def FlatType.display : FlatType → String
  | null => "Null"
  | boolean => "Boolean"
  | integer t => t.display
  | float t => t.display
  | text l => l.textName
  | binary l => l.binaryName
  | fixedBinary n => "FixedSizeBinary(" ++ toString n ++ ")"
  | decimal p s => "Decimal128(" ++ toString p ++ ", " ++ toString s ++ ")"
  | temporal t => t.display

def FlatType.plain : List FlatType :=
  [.null, .boolean, .text .regular, .text .large, .text .view, .binary .regular, .binary .large,
    .binary .view, .temporal .date32, .temporal .date64, .temporal .time64] ++
  [.int8, .int16, .int32, .int64, .uint8, .uint16, .uint32, .uint64].map integer ++
  [.half, .single, .double].map float

def FlatType.ofName? (name : String) : Option FlatType := plain.find? (·.display = name)

def FlatType.debug : FlatType → String
  | temporal t => t.debug
  | t => t.display

def Metadata.display (m : Metadata) : String :=
  "\x7b" ++ ", ".intercalate (m.map fun (k, v) => Text.quoted k ++ ": " ++ Text.quoted v) ++ "\x7d"

def Metadata.displayTail (m : Metadata) : String :=
  if m.isEmpty then "" else ", metadata: " ++ m.display

def nullability (nullable : Bool) : String := if nullable then "" else "non-null "

mutual

def DataType.display : DataType → String
  | .flat t => t.display
  | .list w f => w.display ++ "(" ++ f.displayItem ++ ")"
  | .fixedList n f => "FixedSizeList(" ++ toString n ++ " x " ++ f.displayItem ++ ")"
  | .struct fields => "Struct(" ++ ", ".intercalate (Field.displayAll fields) ++ ")"
  | .union mode variants =>
    "Union(" ++ mode.display ++ ", " ++ ", ".intercalate (Field.displayVariants variants) ++ ")"
  | .map entries sorted =>
    "Map(" ++ entries.display ++ ", " ++ (if sorted then "sorted" else "unsorted") ++ ")"
  | .dictionary key value => "Dictionary(" ++ key.display ++ ", " ++ value.display ++ ")"
  | .runEnd ends values => "RunEndEncoded(" ++ ends.display ++ ", " ++ values.display ++ ")"

def Field.displayItem : Field → String
  | ⟨name, type, nullable, metadata⟩ =>
    nullability nullable ++ type.display ++
      (if name = "item" then "" else ", field: '" ++ name ++ "'") ++ metadata.displayTail

def Field.display : Field → String
  | ⟨name, type, nullable, metadata⟩ =>
    Text.quoted name ++ ": " ++ nullability nullable ++ type.display ++ metadata.displayTail

def Field.displayAll : List Field → List String
  | [] => []
  | f :: fs => f.display :: Field.displayAll fs

def Field.displayVariants : List (Int × Field) → List String
  | [] => []
  | (id, f) :: fs => (toString id ++ ": (" ++ f.display ++ ")") :: Field.displayVariants fs

end

mutual

def DataType.debug : DataType → String
  | .flat t => t.debug
  | .list w f => w.display ++ "(" ++ f.debug ++ ")"
  | .fixedList n f => "FixedSizeList(" ++ f.debug ++ ", " ++ toString n ++ ")"
  | .struct fields => "Struct([" ++ ", ".intercalate (Field.debugAll fields) ++ "])"
  | .union mode variants =>
    "Union([" ++ ", ".intercalate (Field.debugVariants variants) ++ "], " ++ mode.display ++ ")"
  | .map entries sorted => "Map(" ++ entries.debug ++ ", " ++ toString sorted ++ ")"
  | .dictionary key value => "Dictionary(" ++ key.debug ++ ", " ++ value.debug ++ ")"
  | .runEnd ends values => "RunEndEncoded(" ++ ends.debug ++ ", " ++ values.debug ++ ")"

def Field.debug : Field → String
  | ⟨name, type, nullable, metadata⟩ =>
    "Field \x7b " ++ (if name = "item" then "" else "name: " ++ Text.quoted name ++ ", ") ++
      "data_type: " ++ type.debug ++ (if nullable then ", nullable: true" else "") ++
      metadata.displayTail ++ " \x7d"

def Field.debugAll : List Field → List String
  | [] => []
  | f :: fs => f.debug :: Field.debugAll fs

def Field.debugVariants : List (Int × Field) → List String
  | [] => []
  | (id, f) :: fs => ("(" ++ toString id ++ ", " ++ f.debug ++ ")") :: Field.debugVariants fs

end

end EntityLog
