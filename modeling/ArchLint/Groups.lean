/-!
# Groups

Values gathered under keys.  Keys keep the order in which they first came, and so do the values of
a key.

* `Groups.get_add`: adding a value changes the group of its key and no other.
* `Groups.keys_add`: a key is new at most once.
-/

namespace ArchLint

/-- Keys in the order of their first value, each with its values. -/
abbrev Groups (κ α : Type) := List (κ × List α)

namespace Groups

variable {κ α : Type} [DecidableEq κ]

/-- The values of a key; none when the key is not there. -/
def get (groups : Groups κ α) (key : κ) : List α :=
  (groups.lookup key).getD []

def keys (groups : Groups κ α) : List κ :=
  groups.map (·.1)

/-- Puts a value last in the group of its key; a new key comes last. -/
def add (groups : Groups κ α) (key : κ) (value : α) : Groups κ α :=
  match groups with
  | [] => [(key, [value])]
  | (k, values) :: rest =>
    if k = key then (k, values ++ [value]) :: rest else (k, values) :: add rest key value

def ofList (pairs : List (κ × α)) : Groups κ α :=
  pairs.foldl (fun groups (key, value) => groups.add key value) []

/-- Replaces the group of a key; a new key comes last. -/
def set (groups : Groups κ α) (key : κ) (values : List α) : Groups κ α :=
  match groups with
  | [] => [(key, values)]
  | (k, old) :: rest => if k = key then (k, values) :: rest else (k, old) :: set rest key values

def values (groups : Groups κ α) : List α :=
  groups.flatMap (·.2)

def total (groups : Groups κ α) : Nat :=
  groups.foldr (fun group total => group.2.length + total) 0

theorem get_add (groups : Groups κ α) (key other : κ) (value : α) :
    (groups.add key value).get other =
      if other = key then groups.get key ++ [value] else groups.get other := by
  induction groups with
  | nil =>
    by_cases h : other = key
    · simp [add, get, h]
    · have : (other == key) = false := by simpa using h
      simp [add, get, h, List.lookup_cons, this]
  | cons head rest ih =>
    obtain ⟨k, vs⟩ := head
    simp only [get] at ih
    by_cases hk : k = key
    · subst hk
      by_cases h : other = k
      · simp [add, get, h]
      · have : (other == k) = false := by simpa using h
        simp [add, get, h, List.lookup_cons, this]
    · by_cases h : other = k
      · subst h
        simp [add, get, hk]
      · have hok : (other == k) = false := by simpa using h
        by_cases hkey : other = key
        · subst hkey
          simpa [add, get, hk, List.lookup_cons, hok] using ih
        · simpa [add, get, hk, List.lookup_cons, hok, hkey] using ih

theorem keys_add (groups : Groups κ α) (key : κ) (value : α) :
    (groups.add key value).keys =
      if key ∈ groups.keys then groups.keys else groups.keys ++ [key] := by
  induction groups with
  | nil => simp [add, keys]
  | cons head rest ih =>
    obtain ⟨k, vs⟩ := head
    simp only [keys] at ih
    by_cases hk : k = key
    · simp [add, keys, hk]
    · have hk' : key ≠ k := fun h => hk h.symm
      by_cases hm : key ∈ rest.map (·.1)
      · simp only [hm, if_true] at ih
        simp [add, keys, hk, ih]
        grind
      · simp only [hm, if_false] at ih
        simp [add, keys, hk, hk', ih]
        grind

end Groups
end ArchLint
