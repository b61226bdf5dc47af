/-!
# Dictionaries

Text keys with values, each key once, in the order of the keys' code points (which is also
the order of their UTF-8 bytes).  The order is part of the type's meaning: look-ups that take
the first of several matching keys and every written form depend on it.
-/

namespace ComponentGen

/-- Keys with values in ascending order of the keys. -/
abbrev Dictionary (α : Type) := List (String × α)

namespace Dictionary

variable {α β : Type}

/-- Sets a key, replacing the value it had. -/
def insert (key : String) (value : α) : Dictionary α → Dictionary α
  | [] => [(key, value)]
  | (k, v) :: rest =>
      if key < k then (key, value) :: (k, v) :: rest
      else if key = k then (key, value) :: rest
      else (k, v) :: insert key value rest

/-- Collects entries; the last value given for a key wins. -/
def ofEntries (entries : List (String × α)) : Dictionary α :=
  entries.foldl (fun d entry => insert entry.1 entry.2 d) []

/-- The value of a key. -/
def get? (d : Dictionary α) (key : String) : Option α := d.lookup key

/-- The keys are strictly ascending, so each occurs once. -/
def Ordered (d : Dictionary α) : Prop := d.Pairwise fun a b => a.1 < b.1

end Dictionary

end ComponentGen
