import ArchLint.Proofs.Decoding
import ArchLint.Proofs.LevelOrder
import ArchLint.Proofs.Partition

/-!
# Repeated literals, counted

Literals are collected from a queue into groups of lines.  Here the same is said by counting the
constants of a tree, level by level and from left to right, without a queue and without groups.

* `Node.breadthFirst`, `Node.occurrences`: the nodes of a tree, and those that hold a text.
* `Rule.Literals.ofTree_eq`: **the collected lines are the lines of the occurrences**, text by text in
  the order of the first of them.
* `Rule.Literals.Repeated`: a list of the texts that stand more than once.
* `Rule.Literals.analyze_eq_map_filter`: **there is one finding for each of them**, and no other.
-/

namespace ArchLint

open ArchLint.Syntax (Node Position)
open ArchLint.Text (Letters)

/-! ## Gathering other values -/

namespace Groups

variable {κ α β : Type} [DecidableEq κ]

def mapValues (f : α → β) (groups : Groups κ α) : Groups κ β :=
  List.map (fun entry => (entry.1, entry.2.map f)) groups

omit [DecidableEq κ] in
theorem mapValues_cons (f : α → β) (entry : κ × List α) (rest : Groups κ α) :
    mapValues f (entry :: rest) = (entry.1, entry.2.map f) :: mapValues f rest :=
  rfl

theorem add_mapValues (f : α → β) (groups : Groups κ α) (key : κ) (value : α) :
    (groups.mapValues f).add key (f value) = (groups.add key value).mapValues f := by
  induction groups with
  | nil => rfl
  | cons head rest ih =>
    rw [mapValues_cons, add, add]
    by_cases hk : head.1 = key
    · rw [if_pos hk, if_pos hk, mapValues_cons, List.map_append]
      rfl
    · rw [if_neg hk, if_neg hk, mapValues_cons, ih]

theorem get_mapValues (f : α → β) (groups : Groups κ α) (key : κ) :
    (groups.mapValues f).get key = (groups.get key).map f := by
  induction groups with
  | nil => rfl
  | cons head rest ih =>
    rw [mapValues_cons, get, get, List.lookup_cons, List.lookup_cons]
    cases key == head.1 with
    | true => rfl
    | false => exact ih

/-- Values may be changed before they are gathered or after. -/
theorem ofList_map (f : α → β) (pairs : List (κ × α)) :
    ofList (pairs.map fun pair => (pair.1, f pair.2)) = (ofList pairs).mapValues f := by
  induction pairs using List.reverseRecOn with
  | nil => rfl
  | append_singleton pairs pair ih =>
    rw [List.map_append, List.map_singleton, ofList_concat, ofList_concat, ih, add_mapValues]

end Groups

/-! ## Occurrences -/

/-- The nodes of a tree with their positions, level by level and each level from left to right. -/
def Syntax.Node.breadthFirst (tree : Node) : List (Position × Node) :=
  (List.range tree.count).flatMap tree.level

def Syntax.Node.heldText? (n : Node) : Option Letters :=
  match n.get? .value with
  | some (.constant (.text t)) => if n.kind = .constant then some t else none
  | _ => none

/-- The constants of a tree that hold a text, in the order of the levels. -/
def Syntax.Node.occurrences (tree : Node) (t : Letters) : List (Position × Node) :=
  tree.breadthFirst.filter fun spot => spot.2.heldText? = some t

/-- How many nodes come before the first constant that holds a text. -/
def Syntax.Node.firstOccurrence (tree : Node) (t : Letters) : Nat :=
  tree.breadthFirst.findIdx fun spot => spot.2.heldText? = some t

/-- The line of the first constant that holds a text. -/
def Syntax.Node.firstLine (tree : Node) (t : Letters) : Int :=
  ((tree.occurrences t).head?.bind fun spot => spot.2.line).getD 0

namespace Rule.Literals

theorem textOf?_eq (n : Node) : textOf? n = n.heldText?.filter fun t => 2 ≤ t.length := by
  by_cases hkind : n.kind = .constant
  · rw [textOf?, Node.heldText?, hkind]
    rcases n.get? .value with _ | value
    · rfl
    · cases value with
      | constant c =>
        cases c with
        | text t =>
          simp only [if_true, Option.filter_some, decide_eq_true_eq]
          rfl
        | _ => rfl
      | _ => rfl
  · have hheld : n.heldText? = none := by
      simp only [Node.heldText?, hkind, if_false]
      split <;> rfl
    rw [hheld, textOf?]
    split
    · exact absurd ‹_› hkind
    · rfl

theorem textOf?_eq_some {n : Node} {t : Letters} :
    textOf? n = some t ↔ 2 ≤ t.length ∧ n.heldText? = some t := by
  rw [textOf?_eq, Option.filter_eq_some_iff, decide_eq_true_eq, and_comm]

/-! ## The collected lines -/

/-- The texts of at least two characters that a tree holds, in the order of their first constants. -/
def textsOf (tree : Node) : List Letters :=
  (Groups.gather (fun spot => textOf? spot.2) tree.breadthFirst).keys

theorem mem_textsOf {tree : Node} {t : Letters} :
    t ∈ textsOf tree ↔ 2 ≤ t.length ∧ tree.occurrences t ≠ [] := by
  rw [textsOf, Groups.mem_keys_gather]
  simp only [textOf?_eq_some, Node.occurrences, ne_eq, List.filter_eq_nil_iff, decide_eq_true_eq]
  constructor
  · rintro ⟨spot, hspot, hlong, hheld⟩
    exact ⟨hlong, fun hnone => hnone spot hspot hheld⟩
  · rintro ⟨hlong, hsome⟩
    by_contra hnone
    refine hsome fun spot hspot hheld => hnone ⟨spot, hspot, hlong, hheld⟩

theorem nodup_textsOf (tree : Node) : (textsOf tree).Nodup :=
  Groups.nodup_keys_ofList _

theorem ordered_textsOf (tree : Node) :
    (textsOf tree).Pairwise fun a b => tree.firstOccurrence a < tree.firstOccurrence b := by
  have hplace : ∀ t ∈ textsOf tree,
      Groups.firstPlace (fun spot => textOf? spot.2) tree.breadthFirst t =
        tree.firstOccurrence t := by
    intro t ht
    have hlong := (mem_textsOf.mp ht).1
    simp only [Groups.firstPlace, Node.firstOccurrence, textOf?_eq_some, hlong, true_and]
  refine (Groups.ordered_keys_gather _ tree.breadthFirst).imp_of_mem ?_
  intro a b ha hb hab
  rw [← hplace a ha, ← hplace b hb]
  exact hab

/-- Collecting lines is gathering constants. -/
theorem ofTree_eq_mapValues (tree : Node) :
    ofTree tree = (Groups.gather (fun spot => textOf? spot.2) tree.breadthFirst).mapValues
      fun spot => spot.2.lineNumber := by
  rw [Groups.gather, ← Groups.ofList_map, List.map_filterMap, ofTree, tree.walk_eq_levels le_rfl]
  refine congrArg Groups.ofList (List.filterMap_congr ?_)
  rintro ⟨p, n⟩ _
  rw [Option.map_map]
  rfl

/-- **The collected lines are the lines of the occurrences**, text by text. -/
theorem ofTree_eq (tree : Node) :
    ofTree tree = (textsOf tree).map fun t =>
      (t, (tree.occurrences t).map fun spot => spot.2.lineNumber) := by
  rw [ofTree_eq_mapValues, (Groups.gathers_gather _ tree.breadthFirst).eq_map_keys, Groups.mapValues,
    List.map_map]
  refine List.map_congr_left ?_
  intro t ht
  have hlong := (mem_textsOf.mp ht).1
  simp only [Function.comp_apply, textOf?_eq_some, hlong, true_and]
  rfl

theorem get_ofTree (tree : Node) (t : Letters) :
    (ofTree tree).get t =
      if 2 ≤ t.length then (tree.occurrences t).map fun spot => spot.2.lineNumber else [] := by
  have hget := Groups.get_gather (fun spot => textOf? spot.2) tree.breadthFirst t
  rw [ofTree_eq_mapValues, Groups.get_mapValues, hget]
  by_cases hlong : 2 ≤ t.length
  · simp only [textOf?_eq_some, hlong, true_and, if_true]
    rfl
  · simp only [textOf?_eq_some, hlong, false_and, if_false, decide_false, List.filter_false,
      List.map_nil]

theorem total_ofTree (tree : Node) :
    (ofTree tree).total =
      tree.breadthFirst.countP fun spot => spot.2.heldText?.any fun t => 2 ≤ t.length := by
  rw [ofTree, Groups.total_ofList, List.length_filterMap_eq_countP, tree.walk_eq_levels le_rfl]
  refine List.countP_congr ?_
  intro spot _
  rw [Option.isSome_map, textOf?_eq]
  cases spot.2.heldText? with
  | none => rfl
  | some t => by_cases h : 2 ≤ t.length <;> simp [Option.filter, h]

/-! ## One finding for each repeated text -/

/-- A list of the texts of at least two characters that a tree holds more than once, in the order of
their first constants. -/
structure Repeated (tree : Node) (texts : List Letters) : Prop where
  nodup : texts.Nodup
  mem_iff : ∀ t, t ∈ texts ↔ 2 ≤ t.length ∧ 2 ≤ (tree.occurrences t).length
  ordered : texts.Pairwise fun a b => tree.firstOccurrence a < tree.firstOccurrence b

theorem headD_lines (tree : Node) (t : Letters) :
    ((tree.occurrences t).map fun spot => spot.2.lineNumber).headD 0 = tree.firstLine t := by
  rw [Node.firstLine]
  cases tree.occurrences t with
  | nil => rfl
  | cons spot rest => rfl

/-- **There is one finding for each repeated text**, in the order of the first constants. -/
theorem analyze_eq_map_filter (tree : Node) (file : String) :
    analyze tree file =
      ((textsOf tree).filter fun t => 2 ≤ (tree.occurrences t).length).map fun t =>
        literalFinding file (tree.firstLine t) t.toString (tree.occurrences t).length := by
  refine Eq.trans ?_ (congrFun List.filterMap_eq_map _)
  rw [analyze, findings, ofTree_eq, List.filterMap_map, List.filterMap_filter]
  refine List.filterMap_congr ?_
  intro t _
  simp only [Function.comp_apply, finding?_eq, List.length_map, headD_lines, decide_eq_true_eq]

theorem repeated_filter (tree : Node) :
    Repeated tree ((textsOf tree).filter fun t => 2 ≤ (tree.occurrences t).length) := by
  refine ⟨(nodup_textsOf tree).filter _, ?_, (ordered_textsOf tree).filter _⟩
  intro t
  rw [List.mem_filter, mem_textsOf, decide_eq_true_eq]
  constructor
  · rintro ⟨⟨hlong, _⟩, htwice⟩
    exact ⟨hlong, htwice⟩
  · rintro ⟨hlong, htwice⟩
    refine ⟨⟨hlong, ?_⟩, htwice⟩
    intro hnone
    rw [hnone] at htwice
    exact absurd htwice (by simp)

end Rule.Literals

open Rule (Literals)

/-- **Repeated literals are found exactly.**  There is one finding for each text of at least two
characters that two or more constants hold, in the order of the first of them; it tells their number
and stands at the line of the first.  The lines that are collected for a text are those of its
constants, and each constant with such a text is collected once. -/
theorem repeated_literals_found_exactly (tree : Node) (file : String) :
    (∃ texts, Literals.Repeated tree texts ∧
      Literals.analyze tree file = texts.map fun t =>
        literalFinding file (tree.firstLine t) t.toString (tree.occurrences t).length) ∧
    (∀ t, (Literals.ofTree tree).get t =
      if 2 ≤ t.length then (tree.occurrences t).map (·.2.lineNumber) else []) ∧
    (Literals.ofTree tree).total =
      tree.breadthFirst.countP (fun spot => spot.2.heldText?.any fun t => 2 ≤ t.length) ∧
    ((∀ p n, (p, n) ∈ tree.breadthFirst ↔ tree.at? p = some n) ∧
      (tree.breadthFirst.map Prod.fst).Nodup) := by
  have hwalk : tree.breadthFirst = tree.walk := (tree.walk_eq_levels le_rfl).symm
  refine ⟨⟨_, Literals.repeated_filter tree, Literals.analyze_eq_map_filter tree file⟩,
    Literals.get_ofTree tree, Literals.total_ofTree tree, ?_, ?_⟩
  · intro p n
    rw [hwalk, Node.mem_walk]
  · rw [hwalk]
    exact tree.nodup_walk

end ArchLint
