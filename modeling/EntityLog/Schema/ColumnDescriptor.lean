import EntityLog.Component.Descriptor
import EntityLog.Path
import EntityLog.Schema.TypeText
import EntityLog.Time.Point

namespace EntityLog

namespace Metadata

/-- The key is there and does not say no. Only letters of ASCII fold to the letters of the words. -/
def getBool (m : Metadata) (key : String) : Bool :=
  match Entries.get? key m with
  | some value =>
    let word := String.ofList (value.toList.map Char.toLower)
    word ≠ "false" && word ≠ "no"
  | none => false

def kindKey : String := "rerun.kind"

def entityPathKey : String := "rerun.entity_path"

def indexNameKey : String := "rerun.index_name"

def archetypeKey : String := "rerun.archetype"

def componentKey : String := "rerun.component"

def componentTypeKey : String := "rerun.component_type"

def isStaticKey : String := "rerun.is_static"

def isIndicatorKey : String := "rerun.is_indicator"

end Metadata

inductive ColumnKind
  | control
  | index
  | component
  deriving DecidableEq

inductive ColumnError
  | unknownKind (kind : String)
  | notAList (column : String) (type : DataType)
  deriving DecidableEq

def ColumnError.message : ColumnError → String
  | unknownKind kind => "Unknown `" ++ Metadata.kindKey ++ "`: " ++ Text.quoted kind
  | notAList column type =>
    "Data column " ++ Text.quoted column ++ " must be a list array, got " ++ type.display

namespace ColumnKind

def display : ColumnKind → String
  | control => "control"
  | index => "index"
  | component => "data"

def read (kind : String) : Except ColumnError ColumnKind :=
  if kind = "control" ∨ kind = "row_id" then .ok .control
  else if kind = "index" ∨ kind = "time" then .ok .index
  else if kind = "component" ∨ kind = "data" then .ok .component
  else .error (.unknownKind kind)

def ofField (f : Field) : Except ColumnError ColumnKind :=
  match f.metadata.get? Metadata.kindKey with
  | some kind => read kind
  | none => .ok .component

end ColumnKind

structure IndexColumn where
  timeline : TimelineName
  type : DataType
  deriving DecidableEq

def IndexColumn.ofField (f : Field) : IndexColumn where
  timeline := (f.metadata.get? Metadata.indexNameKey).getD f.name
  type := f.type

structure DataColumn where
  storeType : DataType
  entityPath : EntityPath
  descriptor : ComponentDescriptor
  isStatic : Bool
  isIndicator : Bool
  deriving DecidableEq

namespace DataColumn

def beforeColon (name : String) : Option String :=
  let (before, rest) := name.toList.span (· ≠ ':')
  if rest.isEmpty then none else some (String.ofList before)

def unknownType : ComponentType := "Unknown"

/-- The metadata, and where it says nothing the name `entity:component`. -/
def ofField (f : Field) : DataColumn where
  storeType := f.type
  entityPath :=
    match f.metadata.get? Metadata.entityPathKey <|> beforeColon f.name with
    | some path => .parse path
    | none => .root
  descriptor := {
    archetype := f.metadata.get? Metadata.archetypeKey
    component := (f.metadata.get? Metadata.componentKey).getD f.name
    componentType := some ((f.metadata.get? Metadata.componentTypeKey).getD unknownType) }
  isStatic := f.metadata.getBool Metadata.isStaticKey
  isIndicator := f.metadata.getBool Metadata.isIndicatorKey

def display (c : DataColumn) : String := c.entityPath.display ++ ":" ++ c.descriptor.fullName

def instanceType (c : DataColumn) : Option DataType :=
  match c.storeType with
  | .list _ item => some item.type
  | _ => none

end DataColumn

inductive ColumnDescriptor
  | time (column : IndexColumn)
  | component (column : DataColumn)
  deriving DecidableEq

def ColumnDescriptor.ofField (f : Field) : Except ColumnError (Option ColumnDescriptor) := do
  match ← ColumnKind.ofField f with
  | .control => return none
  | .index => return some (.time (.ofField f))
  | .component =>
    match f.type with
    | .list .regular _ => return some (.component (.ofField f))
    | type => throw (.notAList f.name type)

end EntityLog
