namespace VulnProbe

/-- Dictionaries with text keys: pairs in increasing order of their keys, each key once. The order is
    that of the code points, which is also that of the UTF-8 bytes. -/
abbrev Dict (α : Type) := List (String × α)

namespace Dict

variable {α β : Type}

/-- Binds a key, in place of what it was bound to. -/
def insert (key : String) (value : α) : Dict α → Dict α
  | [] => [(key, value)]
  | (k, v) :: rest =>
    if key < k then (key, value) :: (k, v) :: rest
    else if key = k then (key, value) :: rest
    else (k, v) :: insert key value rest

/-- What a key is bound to. -/
def get? (key : String) : Dict α → Option α
  | [] => none
  | (k, v) :: rest => if k = key then some v else get? key rest

/-- Whether a key is bound. -/
def contains (key : String) (d : Dict α) : Bool :=
  (get? key d).isSome

/-- The keys in order. -/
def keys (d : Dict α) : List String :=
  d.map (·.1)

/-- Binds pairs one after another, a later one in place of an earlier one. -/
def insertAll (pairs : List (String × α)) (d : Dict α) : Dict α :=
  pairs.foldl (fun acc p => insert p.1 p.2 acc) d

/-- The dictionary of a list of pairs; the last pair of a key counts. -/
def ofList (pairs : List (String × α)) : Dict α :=
  insertAll pairs []

/-- Changes every value. -/
def mapValues (f : α → β) (d : Dict α) : Dict β :=
  d.map fun p => (p.1, f p.2)

end Dict

end VulnProbe
