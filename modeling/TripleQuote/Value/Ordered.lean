/-! # Ordered maps

A map is its list of entries in the order in which the keys came in. A key that is set again
keeps its place and its first spelling and takes the new value. -/

namespace TripleQuote.Ordered

variable {κ : Type} {β : Type}

/-- Set a key. `same` says which keys are one. -/
def insert (same : κ → κ → Bool) (k : κ) (v : β) : List (κ × β) → List (κ × β)
  | [] => [(k, v)]
  | (k', v') :: rest => if same k' k then (k', v) :: rest else (k', v') :: insert same k v rest

/-- The value of a key. -/
def get? (same : κ → κ → Bool) (k : κ) : List (κ × β) → Option β
  | [] => none
  | (k', v) :: rest => if same k' k then some v else get? same k rest

/-- Set the keys of `more` one after the other. -/
def insertAll (same : κ → κ → Bool) (entries more : List (κ × β)) : List (κ × β) :=
  more.foldl (fun acc entry => insert same entry.1 entry.2 acc) entries

/-- The map that a list of entries stands for when keys may come more than once. -/
def ofList (same : κ → κ → Bool) (entries : List (κ × β)) : List (κ × β) :=
  insertAll same [] entries

end TripleQuote.Ordered
