import Phrasebook.Engine.Rendering

/-! A bounded memory of templates, from which the oldest leave first. -/

namespace Phrasebook

/-- Templates by their texts, oldest first. -/
structure Cache where
  entries : List (Text × Template)
  deriving DecidableEq

namespace Cache

def empty : Cache := ⟨[]⟩

/-- The texts of the templates, oldest first. -/
def sources (cache : Cache) : List Text := cache.entries.map Prod.fst

def find? (cache : Cache) (source : Text) : Option Template := cache.entries.lookup source

/-- How many templates leave a full cache at once: a quarter, or one if the cache is small. -/
def leaving (size : Nat) : Nat := if 4 < size then size / 4 else 1

/-- The cache with one more template, for which the oldest leave if the cache is full. -/
def insert (size : Nat) (cache : Cache) (t : Text × Template) : Cache :=
  if size ≤ cache.entries.length then ⟨cache.entries.drop (leaving size) ++ [t]⟩
  else ⟨cache.entries ++ [t]⟩

/-- The template of a text, which is parsed and remembered if the cache does not hold it.  A text
that cannot be parsed changes nothing. -/
def fetch (size : Nat) : Shelf Cache := fun source cache =>
  match cache.find? source with
  | some t => (.ok t, cache)
  | none =>
    match Template.parse source with
    | .error e => (.error e, cache)
    | .ok t => (.ok t, cache.insert size (source, t))

end Cache

end Phrasebook
