import EntityLog.Value

namespace EntityLog

inductive Wanted
  | integer
  | number
  | text
  | bytes
  | list
  | bool
  | null
  | type (type : DataType)
  deriving DecidableEq

def Wanted.display : Wanted → String
  | integer => "an integer"
  | number => "a number"
  | text => "a string"
  | bytes => "bytes"
  | list => "a list"
  | bool => "a bool"
  | null => "null"
  | type t => "a " ++ t.display

inductive Refusal
  | notA (wanted : Wanted) (kind : ValueKind)
  | outOfRange (value : Int) (type : IntegerType)
  | negative (value : Int)
  | notWhole (bits : Nat)
  | malformedText (cause : Text.Utf8.Malformed)
  | listLength (expected length : Nat)
  | negativeSize
  | sizeTooLarge
  | notBuildable (type : DataType)
  | mixed (first second : String)
  | onlyNulls
  | nestedInList (kind : ValueKind)
  | tensorOf (native : NativeType)
  | tensorBytes (shape : List Nat) (needed length : Nat)
  | tensorAddress
  | tensorIsFlat
  | tensorShape (shape : List Nat)
  | array (cause : ArrayError)
  deriving DecidableEq

def IntegerType.article : IntegerType → String
  | int8 => "an i8"
  | int16 => "an i16"
  | int32 => "an i32"
  | int64 => "an i64"
  | uint8 => "a u8"
  | uint16 => "a u16"
  | uint32 => "a u32"
  | uint64 => "a u64"

def shapeText (shape : List Nat) : String :=
  "[" ++ ", ".intercalate (shape.map toString) ++ "]"

def Refusal.message : Refusal → String
  | notA wanted kind => "a " ++ kind.display ++ " is not " ++ wanted.display
  | outOfRange value type => toString value ++ " does not fit in " ++ type.article
  | negative value => toString value ++ " is negative"
  | notWhole bits => "float " ++ floatText bits ++ " is not an integer"
  | malformedText cause => "invalid UTF-8: " ++ cause.message
  | listLength expected length =>
    "expected lists of length " ++ toString expected ++ ", got " ++ toString length
  | negativeSize => "number too small to fit in target type"
  | sizeTooLarge => "number too large to fit in target type"
  | notBuildable type => type.display ++ " cannot be built from native values"
  | mixed first second => "cannot mix " ++ first ++ " and " ++ second ++ " values"
  | onlyNulls => "cannot infer a type from null values only"
  | nestedInList kind => "a " ++ kind.display ++ " cannot be nested in a list"
  | tensorOf native => native.display ++ " tensors are not supported"
  | tensorBytes shape needed length =>
    "tensor of shape " ++ shapeText shape ++ " needs " ++ toString needed ++
      " bytes, but its buffer has " ++ toString length
  | tensorAddress => "tensor buffer is not aligned"
  | tensorIsFlat => "tensors are flattened, use a flat target type"
  | tensorShape shape => "cannot reshape a tensor of shape " ++ shapeText shape
  | array cause => cause.message

inductive Strategy
  | tensor
  | text
  | scalar
  deriving DecidableEq

def Strategy.display : Strategy → String
  | tensor => "tensor"
  | text => "string"
  | scalar => "scalar"

inductive CoercionError
  | notApplicable (strategy : Strategy) (kind : ValueKind)
  | cannotConvert (target : Option DataType) (reason : Refusal)
  deriving DecidableEq

def CoercionError.message : CoercionError → String
  | notApplicable strategy kind =>
    "the " ++ strategy.display ++ " strategy does not apply to a " ++ kind.display ++ " value"
  | cannotConvert target reason =>
    "cannot convert value to " ++ target.elim "an arrow array" DataType.display ++ ": " ++
      reason.message

end EntityLog
