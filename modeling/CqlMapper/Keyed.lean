/-! Entries kept in the order of their keys, one for each key. -/

namespace CqlMapper

abbrev Keyed (α : Type) := List (String × α)

namespace Keyed

variable {α : Type}

def put (key : String) (value : α) : Keyed α → Keyed α
  | [] => [(key, value)]
  | entry :: rest =>
    if key < entry.1 then (key, value) :: entry :: rest
    else if key = entry.1 then (key, value) :: rest
    else entry :: put key value rest

def get? (entries : Keyed α) (key : String) : Option α :=
  (entries.find? (·.1 == key)).map (·.2)

/-- Leaves an entry of the same key alone. -/
def putNew (key : String) (value : α) (entries : Keyed α) : Keyed α :=
  match entries.get? key with
  | some _ => entries
  | none => entries.put key value

def erase (entries : Keyed α) (key : String) : Keyed α :=
  entries.filter fun entry => entry.1 != key

/-- Of entries with the same key the last is kept. -/
def ofList (entries : List (String × α)) : Keyed α :=
  entries.foldl (fun kept entry => put entry.1 entry.2 kept) []

end Keyed

end CqlMapper
