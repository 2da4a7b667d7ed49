/-!
Entries: pairs of a key and a value, each key once. `put` keeps the order in which the keys came,
`insert` the order of the keys themselves.
-/

namespace EntityLog

abbrev Entries (κ α : Type) := List (κ × α)

namespace Entries

variable {κ α : Type} [DecidableEq κ]

def get? (key : κ) : Entries κ α → Option α
  | [] => none
  | (k, v) :: rest => if k = key then some v else get? key rest

def put (key : κ) (value : α) : Entries κ α → Entries κ α
  | [] => [(key, value)]
  | (k, v) :: rest => if k = key then (k, value) :: rest else (k, v) :: put key value rest

def insert (key : String) (value : α) : Entries String α → Entries String α
  | [] => [(key, value)]
  | (k, v) :: rest =>
    if key < k then (key, value) :: (k, v) :: rest
    else if key = k then (key, value) :: rest
    else (k, v) :: insert key value rest

def erase (key : κ) (entries : Entries κ α) : Entries κ α := entries.filter (·.1 ≠ key)

def keys (entries : Entries κ α) : List κ := entries.map (·.1)

def values (entries : Entries κ α) : List α := entries.map (·.2)

def ofList (pairs : List (String × α)) : Entries String α :=
  pairs.foldl (fun entries (key, value) => insert key value entries) []

@[simp] theorem get?_put (key k : κ) (value : α) (entries : Entries κ α) :
    get? k (put key value entries) = if k = key then some value else get? k entries := by
  induction entries with
  | nil => grind [put, get?]
  | cons entry rest ih =>
    obtain ⟨k', v⟩ := entry
    by_cases h : k' = key <;> by_cases h' : k' = k <;> grind [put, get?]

@[simp] theorem get?_insert (key k : String) (value : α) (entries : Entries String α) :
    get? k (insert key value entries) = if k = key then some value else get? k entries := by
  induction entries with
  | nil => grind [insert, get?]
  | cons entry rest ih =>
    obtain ⟨k', v⟩ := entry
    by_cases h : key = k' <;> by_cases h' : k' = k <;> grind [insert, get?]

@[simp] theorem get?_erase (key k : κ) (entries : Entries κ α) :
    get? k (erase key entries) = if k = key then none else get? k entries := by
  induction entries with
  | nil => simp [erase, get?]
  | cons entry rest ih =>
    obtain ⟨k', v⟩ := entry
    by_cases h : k' = key <;> by_cases h' : k' = k <;> grind [erase, get?]

end Entries

end EntityLog
