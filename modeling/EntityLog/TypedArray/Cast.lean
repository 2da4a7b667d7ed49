import EntityLog.TypedArray.Cast.Shared
import EntityLog.TypedArray.Empty

namespace EntityLog

namespace TypedArray

def refuse (source : TypedArray) (target : DataType) : CastResult TypedArray :=
  .error (.error (.notCastable source.type target))

def castNulls (count : Nat) (target : DataType) : Option (CastResult TypedArray) :=
  match target with
  | .runEnd .. | .union .. | .flat .null | .flat (.float .half) => none
  | t => some (if t.hasNulls count then .ok (nullsOf t count) else .error (.fault (.noNulls t)))

def castCells (source : TypedArray) (cells : FlatArray) (target : DataType) :
    Option (CastResult TypedArray) :=
  match cells, target with
  | .nulls n, t => castNulls n t
  | cells, .flat t => some ((cells.cast? t).elim (source.refuse (.flat t)) (flat <$> ·))
  | _, _ => none

def castInto (source : TypedArray) (own : DataType → Option (CastResult TypedArray))
    (target : DataType) : CastResult TypedArray :=
  let direct (t : FlatType) : CastResult TypedArray :=
    if source.type = .flat t then .ok source else (own (.flat t)).getD (source.refuse (.flat t))
  if source.type = target then .ok source
  else match own target with
  | some result => result
  | none =>
    match target with
    | .runEnd ends ⟨name, type, nullable, metadata⟩ =>
      encodeRuns source (castInto source own type) ends ⟨name, type, nullable, metadata⟩
    | .dictionary key value => packInto source direct key value
    | .list w ⟨name, type, nullable, metadata⟩ => do
      let items ← castInto source own type
      reporting (tryLists w ⟨name, type, nullable, metadata⟩ 0 (List.replicate items.length 1) none
        items)
    | .fixedList size ⟨name, type, nullable, metadata⟩ =>
      if size = 1 then do
        let items ← castInto source own type
        reporting (tryFixedLists 1 ⟨name, type, nullable, metadata⟩ none items)
      else source.refuse (.fixedList size ⟨name, type, nullable, metadata⟩)
    | t => source.refuse t

structure Refill where
  items : TypedArray
  next : Nat
  valid : List Bool

def refill (size : Nat) (items : TypedArray) (start index : Nat) (done : Refill) :
    List Slot → Except ArrayError Refill
  | [] => .ok { done with valid := done.valid.reverse }
  | slot :: slots =>
    let stop := start + slot.length
    if slot.length = size then
      refill size items stop (index + 1) { done with valid := slot.valid :: done.valid } slots
    else if slot.valid then .error (.listLength size index slot.length)
    else
      let own := done.items.append (items.compact done.next (start - done.next))
      refill size items stop (index + 1)
        ⟨own.append (nullsOf items.type size), stop, false :: done.valid⟩ slots

/-- Items for lists of one size. They are taken from the first item on, those before the first list
too, so that the lists of a slice are not the ones it shows. -/
def fixedItems (size skipped : Nat) (slots : List Slot) (items : TypedArray) :
    CastResult (TypedArray × Option (List Bool)) := do
  let room := slots.length * size
  let done ← reporting (refill size items skipped 0 ⟨items.compact 0 0, 0, []⟩ slots)
  let valid := maskOf (slots.map Slot.valid) |>.map fun _ => done.valid
  if done.next = 0 ∧ !(skipped = 0 ∧ slots.head?.any (·.length = 0)) then
    return (items.slice 0 room, valid)
  else if room < done.items.length then throw (.fault (.itemOverflow room done.items.length))
  else
    return (done.items.append (items.compact done.next (room - done.items.length)), valid)

def listsToTexts (source : TypedArray) (layout : Layout) : Except ArrayError TypedArray := do
  source.type.checkZones
  let cells ← FlatArray.mapCells (Element.write source.type)
    (source.rows.map fun e => if e.isNull then none else some e)
  return flat (.texts layout cells)

abbrev Caster := String × (DataType → CastResult TypedArray)

/-- The columns for some fields: those of the same names, the first of each name; or else, or if the
names are in the same order, those in the same places. -/
def castColumns (casters : List Caster) (targets : List Field) : CastResult (List TypedArray) :=
  let names := casters.map (·.1)
  let inPlace := casters.map (·.2)
  let byName := targets.filterMap fun t => casters.lookup t.name
  let chosen :=
    if names = targets.map Field.name ∨ byName.length < targets.length then inPlace else byName
  (chosen.zip targets).mapM fun (cast, t) => cast t.type

mutual

def castFrom : DataType → DataType → TypedArray → CastResult TypedArray
  | .flat _, target, source =>
    match source with
    | flat cells => castInto source (source.castCells cells) target
    | _ => source.refuse target
  | .list _ ⟨_, type, _, _⟩, target, source =>
    match source with
    | lists _ _ skipped slots items =>
      castInto source (fun
        | .runEnd .. | .dictionary .. => none
        | .list w item => some do
          let items ← castFrom type item.type items
          reporting (tryLists w item skipped slots.lengths slots.mask items)
        | .fixedList size item => some do
          if size < 0 ∧ slots.count ≠ 0 then throw (.fault (.negativeSize size))
          let (items, valid) ← fixedItems size.toNat skipped slots.toList items
          let items ← castFrom type item.type items
          reporting (tryFixedLists size item valid items)
        | .flat (.text .regular) => some (reporting (source.listsToTexts .regular))
        | .flat (.text .large) => some (reporting (source.listsToTexts .large))
        | _ => some (.error (.error .listToFlat))) target
    | _ => source.refuse target
  | .fixedList size ⟨_, type, _, _⟩, target, source =>
    match source with
    | fixedLists n item valid items =>
      castInto source (fun
        | .runEnd .. | .dictionary .. => none
        | .fixedList size' item' => some (
          if size = size' then do
            let items ← castFrom type item'.type items
            reporting (tryFixedLists size item' (maskOf valid) items)
          else .error (.error .fixedSizeDiffers))
        | .list w item' => some do
          let slots := Slots.ofMask (valid.map fun _ => n) (maskOf valid)
          if item'.type = type then return lists w item 0 slots items
          let items ← castFrom type item'.type items
          let fixed ← reporting (tryFixedLists size item' (maskOf valid) items)
          return lists w item' 0 slots (match fixed with | fixedLists _ _ _ items => items | a => a)
        | t => some (if size = 1 then castFrom type t items else source.refuse t)) target
    | _ => source.refuse target
  | .struct fields, target, source =>
    match source with
    | structs _ valid columns =>
      castInto source (fun
        | .struct targets => some do
          let columns ← castColumns (casters fields columns) targets
          reporting (tryStructs targets valid columns)
        | _ => none) target
    | _ => source.refuse target
  | .dictionary key value, target, source =>
    match source with
    | dictionaries _ keys values =>
      castInto source (fun
        | .runEnd .. => none
        | .dictionary key' value' => some do
          let _ ← castFrom key key' (keyColumn key keys)
          let values ← castFrom value value' values
          if key'.integer?.isNone then throw (.error (.keyType key'))
          return dictionaries key' keys values
        | t => some (select keys <$> castFrom value t values)) target
    | _ => source.refuse target
  | _, target, source => if source.type = target then .ok source else source.refuse target

def casters : List Field → List TypedArray → List Caster
  | ⟨name, type, _, _⟩ :: fields, column :: columns =>
    (name, fun target => castFrom type target column) :: casters fields columns
  | _, _ => []

end

def cast (source : TypedArray) (target : DataType) : CastResult TypedArray :=
  castFrom source.type target source

end TypedArray

end EntityLog
