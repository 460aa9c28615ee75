import ArchLint.Syntax.Walk
import Mathlib.Data.List.Nodup
import Mathlib.Data.List.Range

/-!
# Level order

A position leads from the root of a tree down to a node.  The queue of `Node.walk` goes through the
nodes level by level; this file says what a level is without a queue, and joins the two.

* `Node.at?_append`, `Node.ancestors_concat`: what stands on the way to a node.
* `Node.walk_eq_levels`: **the walk is the levels, one after the other**.
* `Node.mem_walk`: the walk comes to every node of the tree, and to nothing else.
* `Node.nodup_walk`: it comes to no position twice.

A queue whose first part is `xs` and whose second part is `ys` is worked off as `xs`, followed by the
queue of `ys` and the children of `xs` (`walkList_append`).  The weight of a queue, the number of
nodes that are still to come, says that the fuel suffices.
-/

namespace ArchLint.Syntax

/-! ## Positions -/

namespace Node

theorem at?_append (n : Node) (p q : Position) : n.at? (p ++ q) = (n.at? p).bind (·.at? q) := by
  induction p generalizing n with
  | nil => rfl
  | cons i rest ih =>
    rw [List.cons_append, at?, at?]
    cases n.children[i]? with
    | none => rfl
    | some c => exact ih c

theorem at?_concat {tree n : Node} {p : Position} (h : tree.at? p = some n) (i : Nat) :
    tree.at? (p ++ [i]) = n.children[i]? := by
  rw [at?_append, h, Option.bind_some, at?]
  cases n.children[i]? <;> rfl

/-- The proper ancestors of the node at a position, the root first. -/
def ancestors : Node → Position → List Node
  | _, [] => []
  | n, i :: rest =>
    n :: match n.children[i]? with
      | some c => c.ancestors rest
      | none => []

theorem ancestors_append {n m : Node} {p : Position} (h : n.at? p = some m) (q : Position) :
    n.ancestors (p ++ q) = n.ancestors p ++ m.ancestors q := by
  induction p generalizing n with
  | nil =>
    rw [at?, Option.some.injEq] at h
    rw [List.nil_append, ancestors, List.nil_append, h]
  | cons i rest ih =>
    rw [at?] at h
    obtain ⟨c, hc, hm⟩ := Option.bind_eq_some_iff.mp h
    simp only [List.cons_append, ancestors, hc]
    rw [ih hm]

theorem ancestors_concat {tree n : Node} {p : Position} (h : tree.at? p = some n) (i : Nat) :
    tree.ancestors (p ++ [i]) = tree.ancestors p ++ [n] := by
  rw [ancestors_append h, ancestors]
  cases n.children[i]? <;> rfl

theorem length_add_count_le {n m : Node} {p : Position} (h : n.at? p = some m) :
    p.length + m.count ≤ n.count := by
  induction p generalizing n with
  | nil =>
    rw [at?, Option.some.injEq] at h
    rw [h, List.length_nil, Nat.zero_add]
  | cons i rest ih =>
    rw [at?] at h
    obtain ⟨c, hc, hm⟩ := Option.bind_eq_some_iff.mp h
    have hle := ih hm
    have hlt := count_lt_of_mem (List.mem_of_getElem? hc)
    rw [List.length_cons]
    omega

/-! ## Levels -/

theorem mem_childrenAt {n c : Node} {p q : Position} :
    (q, c) ∈ n.childrenAt p ↔ ∃ i, q = p ++ [i] ∧ n.children[i]? = some c := by
  simp only [childrenAt, List.mem_map, Prod.mk.injEq, Prod.exists, List.mem_zipIdx_iff_getElem?]
  constructor
  · rintro ⟨d, i, hd, rfl, rfl⟩
    exact ⟨i, rfl, hd⟩
  · rintro ⟨i, rfl, hc⟩
    exact ⟨c, i, hc, rfl, rfl⟩

end Node

/-- The nodes so many steps below a node at a position, from left to right, with their positions. -/
def levelFrom : Nat → Position × Node → List (Position × Node)
  | 0, spot => [spot]
  | d + 1, spot => (spot.2.childrenAt spot.1).flatMap (levelFrom d)

/-- The nodes of a tree at a depth, from left to right, with their positions. -/
def Node.level (tree : Node) (d : Nat) : List (Position × Node) :=
  levelFrom d ([], tree)

theorem mem_levelFrom {d : Nat} {p q : Position} {n m : Node} :
    (q, m) ∈ levelFrom d (p, n) ↔ ∃ r, r.length = d ∧ q = p ++ r ∧ n.at? r = some m := by
  induction d generalizing p n with
  | zero =>
    simp only [levelFrom, List.mem_singleton, Prod.mk.injEq, List.length_eq_zero_iff]
    constructor
    · rintro ⟨rfl, rfl⟩
      exact ⟨[], rfl, (List.append_nil _).symm, rfl⟩
    · rintro ⟨r, rfl, rfl, h⟩
      rw [Node.at?, Option.some.injEq] at h
      exact ⟨List.append_nil _, h.symm⟩
  | succ d ih =>
    simp only [levelFrom, List.mem_flatMap, Prod.exists, Node.mem_childrenAt]
    constructor
    · rintro ⟨_, c, ⟨i, rfl, hc⟩, hm⟩
      obtain ⟨r, rfl, rfl, hr⟩ := ih.mp hm
      refine ⟨i :: r, rfl, by rw [List.append_assoc, List.singleton_append], ?_⟩
      rw [Node.at?, hc]
      exact hr
    · rintro ⟨r, hlen, rfl, hr⟩
      cases r with
      | nil => simp at hlen
      | cons i rest =>
        rw [Node.at?] at hr
        obtain ⟨c, hc, hm⟩ := Option.bind_eq_some_iff.mp hr
        refine ⟨p ++ [i], c, ⟨i, rfl, hc⟩, ih.mpr ⟨rest, by simpa using hlen, ?_, hm⟩⟩
        rw [List.append_assoc, List.singleton_append]

theorem Node.mem_level {tree n : Node} {d : Nat} {p : Position} :
    (p, n) ∈ tree.level d ↔ p.length = d ∧ tree.at? p = some n := by
  rw [Node.level, mem_levelFrom]
  constructor
  · rintro ⟨r, hlen, rfl, h⟩
    exact ⟨hlen, h⟩
  · rintro ⟨hlen, h⟩
    exact ⟨p, hlen, rfl, h⟩

/-! ## The queue -/

/-- The number of nodes that are still to come when the given ones are in the queue. -/
def weight (spots : List (Position × Node)) : Nat :=
  countAll (spots.map Prod.snd)

def below (spots : List (Position × Node)) : List (Position × Node) :=
  spots.flatMap fun spot => spot.2.childrenAt spot.1

def walkList : Nat → List (Position × Node) → List (Position × Node)
  | 0, _ => []
  | _ + 1, [] => []
  | fuel + 1, spot :: rest => spot :: walkList fuel (rest ++ spot.2.childrenAt spot.1)

theorem walkFrom_eq (fuel : Nat) (queue : Queue (Position × Node)) :
    walkFrom fuel queue = walkList fuel queue.toList := by
  induction fuel generalizing queue with
  | zero => rw [walkFrom, walkList]
  | succ fuel ih =>
    have htake := queue.take?_eq
    rw [walkFrom]
    cases hq : queue.take? with
    | none =>
      rw [hq] at htake
      cases hl : queue.toList with
      | nil => rw [walkList]
      | cons a rest => rw [hl] at htake; simp at htake
    | some taken =>
      obtain ⟨⟨p, n⟩, after⟩ := taken
      rw [hq] at htake
      cases hl : queue.toList with
      | nil => rw [hl] at htake; simp at htake
      | cons a rest =>
        rw [hl] at htake
        simp only [Option.map_some, Option.some.injEq, Prod.mk.injEq] at htake
        obtain ⟨rfl, hrest⟩ := htake
        simp only [walkList, ih, Queue.toList_putAll, hrest]

theorem weight_append (xs ys : List (Position × Node)) :
    weight (xs ++ ys) = weight xs + weight ys := by
  rw [weight, List.map_append, countAll_append]
  rfl

theorem weight_childrenAt (n : Node) (p : Position) : weight (n.childrenAt p) + 1 = n.count := by
  have hchildren : (n.childrenAt p).map Prod.snd = n.children := by
    rw [Node.childrenAt, List.map_map]
    exact List.zipIdx_map_fst 0 n.children
  rw [weight, hchildren, n.count_eq]
  omega

theorem weight_below (xs : List (Position × Node)) : weight (below xs) + xs.length = weight xs := by
  induction xs with
  | nil => rfl
  | cons spot rest ih =>
    have hspot := weight_childrenAt spot.2 spot.1
    have hcons : weight (spot :: rest) = spot.2.count + weight rest := rfl
    have hbelow : below (spot :: rest) = spot.2.childrenAt spot.1 ++ below rest := rfl
    rw [hbelow, weight_append, List.length_cons, hcons]
    omega

theorem eq_nil_of_weight {xs : List (Position × Node)} (h : weight xs = 0) : xs = [] := by
  have hlen := weight_below xs
  rw [h] at hlen
  exact List.eq_nil_of_length_eq_zero (by omega)

theorem walkList_append {fuel : Nat} (xs ys : List (Position × Node))
    (h : weight (xs ++ ys) ≤ fuel) :
    walkList fuel (xs ++ ys) = xs ++ walkList (fuel - xs.length) (ys ++ below xs) := by
  induction xs generalizing fuel ys with
  | nil => simp [below]
  | cons spot rest ih =>
    have hspot := weight_childrenAt spot.2 spot.1
    have hcons : weight (spot :: rest ++ ys) = spot.2.count + weight (rest ++ ys) := rfl
    cases fuel with
    | zero => omega
    | succ fuel =>
      have hle : weight (rest ++ (ys ++ spot.2.childrenAt spot.1)) ≤ fuel := by
        rw [← List.append_assoc, weight_append]
        omega
      rw [List.cons_append, walkList, List.append_assoc, ih _ hle, List.length_cons,
        Nat.add_sub_add_right, List.append_assoc, List.cons_append]
      rfl

theorem walkList_eq_levels {fuel depth : Nat} {xs : List (Position × Node)} (hf : weight xs ≤ fuel)
    (hd : weight xs ≤ depth) :
    walkList fuel xs = (List.range depth).flatMap fun d => xs.flatMap (levelFrom d) := by
  induction depth generalizing fuel xs with
  | zero =>
    have hxs : xs = [] := eq_nil_of_weight (by omega)
    rw [hxs]
    cases fuel <;> rfl
  | succ depth ih =>
    by_cases hxs : xs = []
    · subst hxs
      rw [List.flatMap_eq_nil_iff.mpr fun d _ => List.flatMap_nil]
      cases fuel <;> rfl
    · have hpos : 0 < xs.length := List.length_pos_of_ne_nil hxs
      have hbelow := weight_below xs
      have hstep : walkList fuel xs = xs ++ walkList (fuel - xs.length) (below xs) := by
        simpa using walkList_append xs [] (by rwa [List.append_nil])
      have hfirst : xs.flatMap (levelFrom 0) = xs := by
        simp only [levelFrom, List.flatMap_singleton']
      have hlater : ∀ d, xs.flatMap (levelFrom (d + 1)) = (below xs).flatMap (levelFrom d) :=
        fun d => by rw [below, List.flatMap_assoc]; rfl
      rw [hstep, ih (by omega) (by omega), List.range_succ_eq_map, List.flatMap_cons, hfirst,
        List.flatMap_map]
      simp only [hlater]

/-- **The walk is the levels of the tree, one after the other**, as far as there are nodes. -/
theorem Node.walk_eq_levels (tree : Node) {depth : Nat} (h : tree.count ≤ depth) :
    tree.walk = (List.range depth).flatMap tree.level := by
  have hweight : weight [([], tree)] = tree.count := rfl
  have hlist : (⟨[([], tree)], []⟩ : Queue (Position × Node)).toList = [([], tree)] := rfl
  rw [Node.walk, walkFrom_eq, hlist, walkList_eq_levels (by omega) (by omega : _ ≤ depth)]
  simp only [List.flatMap_singleton]
  rfl

/-- **The walk comes to every node of the tree, and to nothing else.** -/
theorem Node.mem_walk {tree n : Node} {p : Position} :
    (p, n) ∈ tree.walk ↔ tree.at? p = some n := by
  rw [tree.walk_eq_levels le_rfl, List.mem_flatMap]
  constructor
  · rintro ⟨d, _, hmem⟩
    exact (Node.mem_level.mp hmem).2
  · intro h
    have hle := Node.length_add_count_le h
    have hpos := n.count_pos
    exact ⟨p.length, List.mem_range.mpr (by omega), Node.mem_level.mpr ⟨rfl, h⟩⟩

/-! ## No position twice -/

theorem nodup_childrenAt (n : Node) (p : Position) : ((n.childrenAt p).map Prod.fst).Nodup := by
  have hfst : (n.childrenAt p).map Prod.fst = (n.children.zipIdx.map Prod.snd).map (p ++ [·]) := by
    rw [Node.childrenAt, List.map_map, List.map_map]
    rfl
  rw [hfst, List.zipIdx_map_snd, List.range'_eq_map_range]
  refine List.Nodup.map ?_ (List.Nodup.map ?_ List.nodup_range)
  · intro i j hij
    simpa using hij
  · intro i j hij
    simpa using hij

theorem nodup_levelFrom (d : Nat) (spot : Position × Node) :
    ((levelFrom d spot).map Prod.fst).Nodup := by
  induction d generalizing spot with
  | zero => simp [levelFrom]
  | succ d ih =>
    rw [levelFrom, List.map_flatMap, List.nodup_flatMap]
    refine ⟨fun child _ => ih child, ?_⟩
    refine (List.pairwise_map.mp (nodup_childrenAt spot.2 spot.1)).imp_of_mem ?_
    rintro ⟨p, c⟩ ⟨q, c'⟩ hp hq hne
    refine List.disjoint_left.mpr ?_
    intro r hr hr'
    obtain ⟨⟨_, m⟩, hm, rfl⟩ := List.mem_map.mp hr
    obtain ⟨⟨_, m'⟩, hm', heq⟩ := List.mem_map.mp hr'
    obtain ⟨s, _, hs, _⟩ := mem_levelFrom.mp hm
    obtain ⟨s', _, hs', _⟩ := mem_levelFrom.mp hm'
    obtain ⟨i, rfl, _⟩ := Node.mem_childrenAt.mp hp
    obtain ⟨j, rfl, _⟩ := Node.mem_childrenAt.mp hq
    simp only at heq
    rw [hs, hs', List.append_assoc, List.append_assoc, List.append_cancel_left_eq] at heq
    simp only [List.singleton_append, List.cons.injEq] at heq
    exact hne (by rw [heq.1])

/-- **The walk comes to no position twice.** -/
theorem Node.nodup_walk (tree : Node) : (tree.walk.map Prod.fst).Nodup := by
  rw [tree.walk_eq_levels le_rfl, List.map_flatMap, List.nodup_flatMap]
  refine ⟨fun d _ => nodup_levelFrom d _, ?_⟩
  refine List.nodup_range.imp ?_
  intro d e hne
  refine List.disjoint_left.mpr ?_
  intro p hp hp'
  obtain ⟨⟨_, m⟩, hm, rfl⟩ := List.mem_map.mp hp
  obtain ⟨⟨_, m'⟩, hm', rfl⟩ := List.mem_map.mp hp'
  exact hne ((Node.mem_level.mp hm).1.symm.trans (Node.mem_level.mp hm').1)

end ArchLint.Syntax
