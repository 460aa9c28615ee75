/-!
# Queues

A queue keeps what is next in front, and what was put in since in lists of its own, so that putting
in takes one step.

* `toList_putAll`: what is put in stands at the end.
* `take?_eq`: what is taken is the first of the list.
-/

namespace ArchLint

/-- A queue: what is next, and the lists that were put in since, the last first. -/
structure Queue (α : Type) where
  front : List α
  later : List (List α) := []

namespace Queue

variable {α : Type}

def toList (q : Queue α) : List α :=
  q.front ++ q.later.reverse.flatten

def putAll (q : Queue α) (items : List α) : Queue α :=
  { q with later := items :: q.later }

def take? (q : Queue α) : Option (α × Queue α) :=
  match q.front with
  | a :: rest => some (a, { q with front := rest })
  | [] =>
    match q.later.reverse.flatten with
    | a :: rest => some (a, ⟨rest, []⟩)
    | [] => none

@[simp] theorem toList_putAll (q : Queue α) (items : List α) :
    (q.putAll items).toList = q.toList ++ items := by
  simp [putAll, toList]

theorem take?_eq (q : Queue α) :
    q.take?.map (fun (a, rest) => (a, rest.toList)) =
      match q.toList with
      | a :: rest => some (a, rest)
      | [] => none := by
  obtain ⟨front, later⟩ := q
  cases front with
  | cons a rest => simp [take?, toList]
  | nil =>
    simp only [take?, toList, List.nil_append]
    cases later.reverse.flatten with
    | nil => rfl
    | cons a rest => simp

end Queue
end ArchLint
