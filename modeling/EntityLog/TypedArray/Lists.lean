import EntityLog.TypedArray.Basic
import EntityLog.TypedArray.Error
import EntityLog.Fault

namespace EntityLog

def int32Max : Int := pow2 31 - 1

def boundsFrom (total : Int) : List Int → Except ArrayError (List Int)
  | [] => .ok [total]
  | n :: ns =>
    if n < 0 then .error (.negativeLength n)
    else if int32Max < total + n then .error .offsetOverflow
    else (total :: ·) <$> boundsFrom (total + n) ns

def listBounds (lengths : List Int) : Except ArrayError (List Int) := boundsFrom 0 lengths

namespace TypedArray

/-- Lists over a column: they may not take more items than there are, a mask says so for each
list, items that may not be null hold no null anywhere, and they have the type of the item. -/
def tryLists (width : ListWidth) (item : Field) (skipped : Nat) (lengths : List Nat)
    (valid : Option (List Bool)) (items : TypedArray) : Except ArrayError TypedArray := do
  if items.length < skipped + itemCount lengths then
    throw (.itemsTooFew (skipped + itemCount lengths) items.length)
  if let some valid := valid then
    if valid.length ≠ lengths.length then
      throw (.maskLength width.display lengths.length valid.length)
  if !item.nullable && items.hasNulls then throw (.nullItems width.display item.name)
  if items.type ≠ item.type then throw (.itemType width.display item items.type)
  return .lists width item skipped (.ofMask lengths valid) items

def nullsMasked (size : Nat) (valid items : List Bool) : Bool :=
  ((valid.flatMap (List.replicate size ·)).zip items).all fun (list, item) => item || !list

/-- Lists of one size over a column. Without a mask their number is read off the column, so that
lists of size zero are then none. -/
def tryFixedLists (size : Int) (item : Field) (valid : Option (List Bool)) (items : TypedArray) :
    Except ArrayError TypedArray := do
  if size < 0 then throw (.negativeSize size)
  let count := if size = 0 then (valid.elim 0 List.length) else items.length / size.toNat
  if let some valid := valid then
    if valid.length ≠ count then throw (.maskLength "FixedSizeList" count valid.length)
  if items.type ≠ item.type then throw (.itemType "FixedSizeList" item items.type)
  let valid := valid.getD (List.replicate count true)
  if !item.nullable && !nullsMasked size.toNat valid items.validity then
    throw (.unmaskedItems item.name)
  return .fixedLists size.toNat item valid (items.slice 0 (count * size.toNat))

def columnError? (valid : List Bool) (field : Field) (column : TypedArray) : Option ArrayError :=
  if column.type ≠ field.type then some (.columnType field column.type)
  else if !field.nullable && !nullsMasked 1 valid column.validity then
    some (.unmaskedField field.name)
  else none

def tryStructs (fields : List Field) (valid : List Bool) (columns : List TypedArray) :
    Except ArrayError TypedArray := do
  if columns.isEmpty then throw .noColumns
  if fields.length ≠ columns.length then throw (.columnCount fields.length columns.length)
  match (fields.zip columns).findSome? fun (field, column) => columnError? valid field column with
  | some cause => throw cause
  | none => return .structs fields valid columns

def wrapInLists (items : TypedArray) (lengths : List Int) (valid : Option (List Bool)) :
    Except ArrayError TypedArray := do
  let _ ← listBounds lengths
  tryLists .regular (.item items.type) 0 (lengths.map Int.toNat) valid items

def sharesKeys : DataType → Bool
  | .flat (.integer _) | .flat (.float _) | .flat (.temporal _) | .flat (.decimal ..) => true
  | .flat (.text layout) | .flat (.binary layout) => layout ≠ .view
  | _ => false

def checkRoom (shared : Bool) (key value : DataType) (parts : List TypedArray) :
    Except (Failure ArrayError) Unit :=
  let stored := itemCount (parts.map fun
    | dictionaries _ _ values => values.length
    | _ => 0)
  let inUse := (parts.flatMap fun
    | dictionaries _ keys values => lookUp (keys.filter Option.isSome) values.rows
    | _ => []).eraseDups
  match key.integer? with
  | none => .ok ()
  | some t =>
    if t.holds stored then .ok ()
    else if !(shared && sharesKeys value) then .error (.fault (.tooManyKeys stored))
    else if t.maxValue + 1 < inUse.length then .error (.error .keyOverflow)
    else .ok ()

mutual

def checkJoin (shared : Bool) : DataType → List TypedArray → Except (Failure ArrayError) Unit
  | .dictionary key value, parts => checkRoom shared key value parts
  | .list _ ⟨_, t, _, _⟩, parts =>
    checkJoin shared t (parts.map fun
      | lists _ _ _ _ items => items
      | a => a)
  | .fixedList _ ⟨_, t, _, _⟩, parts =>
    checkJoin false t (parts.map fun
      | fixedLists _ _ _ items => items
      | a => a)
  | .struct fields, parts =>
    checkColumns shared fields (parts.map fun
      | structs _ _ columns => columns
      | _ => [])
  | _, _ => .ok ()

def checkColumns (shared : Bool) :
    List Field → List (List TypedArray) → Except (Failure ArrayError) Unit
  | [], _ => .ok ()
  | ⟨_, t, _, _⟩ :: fields, parts => do
    checkJoin shared t (parts.filterMap List.head?)
    checkColumns shared fields (parts.map List.tail)

end

def join : List TypedArray → Except (Failure ArrayError) TypedArray
  | [] => .error (.error .nothingToJoin)
  | [a] => .ok a
  | a :: as =>
    if as.all (·.type = a.type) then do
      let first := a.compact 0 a.length
      let others := as.map fun b => b.compact 0 b.length
      checkJoin true a.type (first :: others)
      return others.foldl append first
    else .error (.error (.typesDiffer ((a :: as).map TypedArray.type).eraseDups))

end TypedArray

inductive ArrayClass
  | boolean
  | int32
  | int64
  | float64
  | text
  | list
  | struct
  deriving DecidableEq

namespace ArrayClass

def display : ArrayClass → String
  | boolean => "Boolean"
  | int32 => "Int32"
  | int64 => "Int64"
  | float64 => "Float64"
  | text => "Utf8"
  | list => "List"
  | struct => "Struct"

def ofName? (name : String) : Option ArrayClass :=
  [boolean, int32, int64, float64, text, list, struct].find? (·.display = name)

def admits : ArrayClass → DataType → Bool
  | boolean, t => t = .boolean
  | int32, t => t = .integer .int32
  | int64, t => t = .int64
  | float64, t => t = .float64
  | text, t => t = .utf8
  | list, .list .regular _ => true
  | struct, .struct _ => true
  | _, _ => false

end ArrayClass

def TypedArray.asClass? (a : TypedArray) (c : ArrayClass) : Option TypedArray :=
  if c.admits a.type then some a else none

def TypedArray.asClass (a : TypedArray) (c : ArrayClass) : Except ArrayError TypedArray :=
  match a.asClass? c with
  | some a => .ok a
  | none => .error (.wrongType a.type)

end EntityLog
