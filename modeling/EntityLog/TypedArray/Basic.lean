import EntityLog.TypedArray.Flat

/-!
Typed arrays: columns of a type, laid out with their nested columns beside each other. `rows` reads
an array as the elements of its cells; slices, joins and wrapping keep to it.
-/

namespace EntityLog

/-- A list in a column of lists: how many items it takes from the column of items, and whether it
is there at all. A null list may take items, which then nobody sees. -/
structure Slot where
  length : Nat
  valid : Bool
  deriving DecidableEq

inductive Slots
  | plain (lengths : List Nat)
  | masked (lists : List Slot)
  deriving DecidableEq

def itemCount (lengths : List Nat) : Nat := lengths.foldr (· + ·) 0

namespace Slots

def toList : Slots → List Slot
  | plain lengths => lengths.map (⟨·, true⟩)
  | masked lists => lists

def lengths : Slots → List Nat
  | plain lengths => lengths
  | masked lists => lists.map Slot.length

def valid (s : Slots) : List Bool := s.toList.map Slot.valid

def count (s : Slots) : Nat := s.lengths.length

def total (s : Slots) : Nat := itemCount s.lengths

def slice (offset count : Nat) : Slots → Slots
  | plain lengths => plain ((lengths.drop offset).take count)
  | masked lists => masked ((lists.drop offset).take count)

def append (s t : Slots) : Slots :=
  if s.valid.all id && t.valid.all id then plain (s.lengths ++ t.lengths)
  else masked (s.toList ++ t.toList)

def ofMask (lengths : List Nat) : Option (List Bool) → Slots
  | none => plain lengths
  | some valid => masked ((lengths.zip valid).map fun (n, v) => ⟨n, v⟩)

def mask : Slots → Option (List Bool)
  | plain _ => none
  | masked lists => some (lists.map Slot.valid)

end Slots

def maskOf (valid : List Bool) : Option (List Bool) := if valid.all id then none else some valid

inductive TypedArray
  | flat (cells : FlatArray)
  /-- The lists take their items one after the other, after the first `skipped` ones. -/
  | lists (width : ListWidth) (item : Field) (skipped : Nat) (slots : Slots) (items : TypedArray)
  /-- Every list takes `size` items, a null one too. -/
  | fixedLists (size : Nat) (item : Field) (valid : List Bool) (items : TypedArray)
  | structs (fields : List Field) (valid : List Bool) (columns : List TypedArray)
  | dictionaries (key : DataType) (keys : List (Option Nat)) (values : TypedArray)
  | runEnds (ends values : Field) (decoded : TypedArray)
  | blanks (type : DataType) (length : Nat)

namespace TypedArray

def type : TypedArray → DataType
  | flat cells => .flat cells.type
  | lists w item _ _ _ => .list w item
  | fixedLists n item _ _ => .fixedList n item
  | structs fields _ _ => .struct fields
  | dictionaries key _ values => .dictionary key values.type
  | runEnds ends values _ => .runEnd ends values
  | blanks type _ => type

def length : TypedArray → Nat
  | flat cells => cells.length
  | lists _ _ _ slots _ => slots.count
  | fixedLists _ _ valid _ => valid.length
  | structs _ valid _ => valid.length
  | dictionaries _ keys _ => keys.length
  | runEnds _ _ decoded => decoded.length
  | blanks _ n => n

def isEmpty (a : TypedArray) : Bool := a.length = 0

def cutItems : List Slot → List Element → List Element
  | [], _ => []
  | slot :: slots, items =>
    (if slot.valid then .list (items.take slot.length) else .null) ::
      cutItems slots (items.drop slot.length)

def cutFixed (size : Nat) : List Bool → List Element → List Element
  | [], _ => []
  | valid :: rest, items =>
    (if valid then .list (items.take size) else .null) :: cutFixed size rest (items.drop size)

def zipColumns : List Bool → List (List Element) → List Element
  | [], _ => []
  | valid :: rest, columns =>
    (if valid then .struct (columns.map (·.headD .null)) else .null) ::
      zipColumns rest (columns.map (·.drop 1))

def lookUp (keys : List (Option Nat)) (values : List Element) : List Element :=
  keys.map (·.elim .null (values.getD · .null))

mutual

def rows : TypedArray → List Element
  | flat cells => cells.elements
  | lists _ _ skipped slots items => cutItems slots.toList (items.rows.drop skipped)
  | fixedLists size _ valid items => cutFixed size valid items.rows
  | structs _ valid columns => zipColumns valid (rowsAll columns)
  | dictionaries _ keys values => lookUp keys values.rows
  | runEnds _ _ decoded => decoded.rows
  | blanks _ n => List.replicate n .null

def rowsAll : List TypedArray → List (List Element)
  | [] => []
  | a :: as => a.rows :: rowsAll as

end

def validity : TypedArray → List Bool
  | lists _ _ _ slots _ => slots.valid
  | fixedLists _ _ valid _ => valid
  | structs _ valid _ => valid
  | flat cells => cells.elements.map (!·.isNull)
  | dictionaries _ keys values => keys.map (·.any (values.validity.getD · false))
  | runEnds _ _ decoded => decoded.validity
  | blanks _ n => List.replicate n false

def hasNulls (a : TypedArray) : Bool := a.validity.any (!·)

/-- Which cells the mask of an array marks as there. Arrays of the null type, runs and unions have
none, so that all are; the mask of a dictionary is that of its keys, whatever they stand for. -/
def marks : TypedArray → List Bool
  | flat (.nulls n) => List.replicate n true
  | dictionaries _ keys _ => keys.map Option.isSome
  | runEnds _ _ decoded => List.replicate decoded.length true
  | blanks (.union _ _) n => List.replicate n true
  | a => a.validity

def markedNulls (a : TypedArray) : Nat := a.marks.countP (!·)

def listLengths : TypedArray → Option (List Nat)
  | lists .regular _ _ slots _ => some slots.lengths
  | _ => none

mutual

def slice (offset count : Nat) : TypedArray → TypedArray
  | flat cells => flat (cells.slice offset count)
  | lists w item skipped slots items =>
    lists w item (skipped + (slots.slice 0 offset).total) (slots.slice offset count) items
  | fixedLists size item valid items =>
    fixedLists size item ((valid.drop offset).take count) (slice (offset * size) (count * size) items)
  | structs fields valid columns =>
    structs fields ((valid.drop offset).take count) (sliceAll offset count columns)
  | dictionaries key keys values => dictionaries key ((keys.drop offset).take count) values
  | runEnds ends values decoded => runEnds ends values (slice offset count decoded)
  | blanks type n => blanks type (min count (n - offset))

def sliceAll (offset count : Nat) : List TypedArray → List TypedArray
  | [] => []
  | a :: as => slice offset count a :: sliceAll offset count as

end

mutual

def compact (offset count : Nat) : TypedArray → TypedArray
  | lists w item skipped slots items =>
    let kept := slots.slice offset count
    lists w item 0 kept (compact (skipped + (slots.slice 0 offset).total) kept.total items)
  | fixedLists size item valid items =>
    fixedLists size item ((valid.drop offset).take count)
      (compact (offset * size) (count * size) items)
  | structs fields valid columns =>
    structs fields ((valid.drop offset).take count) (compactAll offset count columns)
  | dictionaries key keys values =>
    dictionaries key ((keys.drop offset).take count) (compact 0 values.length values)
  | runEnds ends values decoded => runEnds ends values (compact offset count decoded)
  | flat cells => flat (cells.slice offset count).bare
  | blanks type n => blanks type (min count (n - offset))

def compactAll (offset count : Nat) : List TypedArray → List TypedArray
  | [] => []
  | a :: as => compact offset count a :: compactAll offset count as

end

mutual

def append : TypedArray → TypedArray → TypedArray
  | flat as, flat bs => flat (as.append bs)
  | lists w item _ slots items, lists _ _ _ slots' items' =>
    lists w item 0 (slots.append slots') (append items items')
  | fixedLists size item valid items, fixedLists _ _ valid' items' =>
    fixedLists size item (valid ++ valid') (append items items')
  | structs fields valid columns, structs _ valid' columns' =>
    structs fields (valid ++ valid') (appendAll columns columns')
  | dictionaries key keys values, dictionaries _ keys' values' =>
    dictionaries key (keys ++ keys'.map (Option.map (· + values.length))) (append values values')
  | runEnds ends values decoded, runEnds _ _ decoded' =>
    runEnds ends values (append decoded decoded')
  | blanks type m, blanks _ n => blanks type (m + n)
  | a, _ => a

def appendAll : List TypedArray → List TypedArray → List TypedArray
  | a :: as, b :: bs => append a b :: appendAll as bs
  | as, _ => as

end

def fieldElements (index : Nat) (elements : List Element) : List Element :=
  elements.map fun
    | .struct items => items.getD index .null
    | _ => .null

def pack (elements : List Element) : List (Option Nat) × List Element :=
  let distinct := (elements.filter (!·.isNull)).eraseDups
  (elements.map fun e => if e.isNull then none else some (distinct.idxOf e), distinct)

mutual

def ofElements (elements : List Element) : DataType → TypedArray
  | .flat t => flat (.ofElements elements t)
  | .list w ⟨name, t, nullable, metadata⟩ =>
    let items : Element → List Element := fun | .list items => items | _ => []
    lists w ⟨name, t, nullable, metadata⟩ 0
      (.ofMask (elements.map fun e => (items e).length) (maskOf (elements.map (!·.isNull))))
      (ofElements (elements.flatMap items) t)
  | .fixedList size ⟨name, t, nullable, metadata⟩ =>
    let items : Element → List Element := fun
      | .list items => items
      | _ => List.replicate size.toNat .null
    if size < 0 then blanks (.fixedList size ⟨name, t, nullable, metadata⟩) elements.length
    else
      fixedLists size.toNat ⟨name, t, nullable, metadata⟩ (elements.map (!·.isNull))
        (ofElements (elements.flatMap items) t)
  | .struct fields =>
    structs fields (elements.map (!·.isNull)) (columnsOf elements 0 fields)
  | .dictionary key value =>
    let (keys, distinct) := pack elements
    dictionaries key keys (ofElements distinct value)
  | .runEnd ends ⟨name, t, nullable, metadata⟩ =>
    runEnds ends ⟨name, t, nullable, metadata⟩ (ofElements elements t)
  | t => blanks t elements.length

def columnsOf (elements : List Element) (index : Nat) : List Field → List TypedArray
  | [] => []
  | ⟨_, t, _, _⟩ :: fields =>
    ofElements (fieldElements index elements) t :: columnsOf elements (index + 1) fields

end

@[simp] theorem type_ofElements (elements : List Element) (t : DataType) :
    (ofElements elements t).type = t := by
  match t with
  | .flat t => simp [ofElements, type]
  | .list w ⟨_, _, _, _⟩ => rfl
  | .fixedList size ⟨_, _, _, _⟩ =>
    by_cases h : size < 0
    · simp [ofElements, type, h]
    · simp [ofElements, type, h]; omega
  | .struct _ => rfl
  | .dictionary key value => simp [ofElements, type, type_ofElements (pack elements).2 value]
  | .union .. => rfl
  | .map .. => rfl
  | .runEnd _ ⟨_, _, _, _⟩ => rfl

def nullsOf (type : DataType) (count : Nat) : TypedArray :=
  ofElements (List.replicate count .null) type

def empty (type : DataType) : TypedArray := ofElements [] type

def ofBounds (width : ListWidth) (item : Field) (bounds : List Nat) (mask : Option (List Bool))
    (items : TypedArray) : TypedArray :=
  lists width item (bounds.headD 0)
    (.ofMask ((bounds.zip (bounds.drop 1)).map fun (start, stop) => stop - start) mask) items

end TypedArray

namespace TypedArray

def Same (a b : TypedArray) : Prop := a.type = b.type ∧ a.rows = b.rows

instance (a b : TypedArray) : Decidable (a.Same b) := inferInstanceAs (Decidable (_ ∧ _))

end TypedArray

end EntityLog
