namespace EntityLog

abbrev ArchetypeName := String

abbrev ComponentType := String

abbrev ComponentIdentifier := String

def shortName (name : String) : String :=
  String.ofList ((name.toList.reverse.takeWhile (· ≠ '.')).reverse)

def ComponentIdentifier.fieldName (name : ComponentIdentifier) : String :=
  match name.toList.dropWhile (· ≠ ':') with
  | [] => name
  | _ :: field => String.ofList field

structure ComponentDescriptor where
  archetype : Option ArchetypeName := none
  component : ComponentIdentifier
  componentType : Option ComponentType := none
  deriving DecidableEq

namespace ComponentDescriptor

def partialOf (component : ComponentIdentifier) : ComponentDescriptor :=
  { component }

def indicator (archetype : ArchetypeName) : ComponentDescriptor :=
  { archetype := some archetype, component := archetype ++ "Indicator" }

def isIndicator (d : ComponentDescriptor) : Bool :=
  "Indicator".toList.isSuffixOf d.component.toList

def displayName (d : ComponentDescriptor) : String := d.component.fieldName

/-- `archetype:type#component`, without the parts that are not given. -/
def fullName (d : ComponentDescriptor) : String :=
  match d.archetype, d.componentType with
  | none, none => d.component
  | some archetype, none => archetype ++ ":" ++ d.component
  | none, some type => type ++ "#" ++ d.component
  | some archetype, some type => archetype ++ ":" ++ type ++ "#" ++ d.component

def withArchetype (d : ComponentDescriptor) (archetype : ArchetypeName) : ComponentDescriptor :=
  { d with archetype := some archetype }

def withComponentType (d : ComponentDescriptor) (type : ComponentType) : ComponentDescriptor :=
  { d with componentType := some type }

def orWithArchetype (d : ComponentDescriptor) (archetype : ArchetypeName) : ComponentDescriptor :=
  { d with archetype := d.archetype <|> some archetype }

def orWithComponentType (d : ComponentDescriptor) (type : ComponentType) : ComponentDescriptor :=
  { d with componentType := d.componentType <|> some type }

def compareOptional : Option String → Option String → Ordering
  | none, none => .eq
  | none, some _ => .lt
  | some _, none => .gt
  | some a, some b => compare a b

instance : Ord ComponentDescriptor where
  compare a b := (compareOptional a.archetype b.archetype).then
    ((compare a.component b.component).then (compareOptional a.componentType b.componentType))

end ComponentDescriptor

end EntityLog
