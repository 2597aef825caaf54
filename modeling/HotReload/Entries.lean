import HotReload.Text
/-!
Ordered entries: lists of pairs of a key and a value.

`putBy` writes an entry under an equality of keys: a key that is present keeps its
place and its form and takes the new value, a new key goes to the end.
-/

namespace HotReload

variable {κ : Type} {α : Type}

/-- The value of the first entry whose key equals `key`. -/
def getBy? (same : κ → κ → Bool) (key : κ) : List (κ × α) → Option α
  | [] => none
  | e :: es => if same key e.1 then some e.2 else getBy? same key es

/-- Writes an entry: over the first one with an equal key, or at the end. -/
def putBy (same : κ → κ → Bool) (key : κ) (value : α) : List (κ × α) → List (κ × α)
  | [] => [(key, value)]
  | e :: es =>
      if same key e.1 then (e.1, value) :: es else e :: putBy same key value es

/-- Writes entries in turn. -/
def putAllBy (same : κ → κ → Bool) (entries more : List (κ × α)) : List (κ × α) :=
  more.foldl (fun es e => putBy same e.1 e.2 es) entries

end HotReload
