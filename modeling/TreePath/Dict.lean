/-! # Insertion-ordered dictionaries

A dictionary is the list of its entries, in the order in which their keys first came in. Putting a
value under a key that is there replaces the value in place; a new key goes to the end. -/

namespace TreePath

/-- Entries in order; operations keep the keys apart. -/
abbrev Dict (α : Type) := List (String × α)

namespace Dict

variable {α : Type}

/-- The keys in order. -/
def keys (entries : Dict α) : List String :=
  entries.map Prod.fst

/-- The values in order. -/
def values (entries : Dict α) : List α :=
  entries.map Prod.snd

/-- The value under a key. -/
def get? (key : String) : Dict α → Option α
  | [] => none
  | (k, value) :: rest => if k = key then some value else get? key rest

/-- Whether a key is there. -/
def contains (key : String) (entries : Dict α) : Bool :=
  (get? key entries).isSome

/-- Puts a value under a key and gives the value that was there before. -/
def put (key : String) (value : α) : Dict α → Option α × Dict α
  | [] => (none, [(key, value)])
  | (k, old) :: rest =>
    if k = key then (some old, (k, value) :: rest)
    else
      let (previous, rest) := put key value rest
      (previous, (k, old) :: rest)

/-- The dictionary with a value under a key. -/
def insert (key : String) (value : α) (entries : Dict α) : Dict α :=
  (put key value entries).2

/-- Takes a key out and gives the value that was under it. -/
def take (key : String) : Dict α → Option α × Dict α
  | [] => (none, [])
  | (k, value) :: rest =>
    if k = key then (some value, rest)
    else
      let (taken, rest) := take key rest
      (taken, (k, value) :: rest)

/-- The dictionary without a key. -/
def erase (key : String) (entries : Dict α) : Dict α :=
  (take key entries).2

/-- Writes through a key that is there; a key that is not there stays away. -/
def replace (key : String) (value : α) : Dict α → Dict α
  | [] => []
  | (k, old) :: rest => if k = key then (k, value) :: rest else (k, old) :: replace key value rest

/-- Writes one value under every key. -/
def fill (value : α) (entries : Dict α) : Dict α :=
  entries.map fun (k, _) => (k, value)

/-- Writes a value of its own under every key, made from the key and the value that was there. -/
def overwrite (renew : String → α → α) (entries : Dict α) : Dict α :=
  entries.map fun (k, old) => (k, renew k old)

/-- The dictionary of a list of pairs, put in one after the other. -/
def ofPairs (pairs : List (String × α)) : Dict α :=
  pairs.foldl (fun entries (k, value) => insert k value entries) []

end Dict

end TreePath
