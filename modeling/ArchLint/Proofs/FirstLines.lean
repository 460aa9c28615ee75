import ArchLint.Proofs.RepeatedLiterals
import ArchLint.Source.Statement
import Mathlib.Data.List.Shortlex

/-!
# The line of a repeated literal

A repeated literal is reported at the first of its constants, and first means first in the order of
the levels.  Here that order is told by the positions alone, and the line that is reported is
compared with the lines of all constants of the text.

* `Node.shortlex_breadthFirst`: **the walk goes by the length of positions**, and among positions of
  one length from left to right.
* `Node.HoldsAt`, `Node.Leads`: a constant with a text, and the one that comes before all others.
* `Rule.Literals.exists_leads`: a finding stands at the line of the leading constant.
* `Node.Leads.le_of_inReadingOrder`: **where lines follow the text, it is the first line of the
  shallowest constants**.
* `pendingText_tree`: a deeper constant on an earlier line is passed over.
-/

namespace ArchLint

open ArchLint.Syntax (Node Position levelFrom)
open ArchLint.Text (Letters)

/-! ## The order of the levels -/

namespace Syntax

theorem lex_childrenAt (n : Node) (p : Position) :
    (n.childrenAt p).Pairwise fun a b => ∃ i j, i < j ∧ a.1 = p ++ [i] ∧ b.1 = p ++ [j] := by
  rw [Node.childrenAt, List.pairwise_map]
  refine (List.pairwise_map.mp ?_ : n.children.zipIdx.Pairwise fun a b => a.2 < b.2).imp ?_
  · rw [List.zipIdx_map_snd]
    exact List.pairwise_lt_range'
  · intro a b hab
    exact ⟨a.2, b.2, hab, rfl, rfl⟩

theorem lex_levelFrom (d : Nat) (spot : Position × Node) :
    (levelFrom d spot).Pairwise fun a b => List.Lex (· < ·) a.1 b.1 := by
  induction d generalizing spot with
  | zero => exact List.pairwise_singleton _ _
  | succ d ih =>
    rw [levelFrom, List.pairwise_flatMap]
    refine ⟨fun child _ => ih child, (lex_childrenAt spot.2 spot.1).imp ?_⟩
    rintro ⟨_, c⟩ ⟨_, c'⟩ ⟨i, j, hij, rfl, rfl⟩ ⟨q, m⟩ hq ⟨q', m'⟩ hq'
    obtain ⟨r, _, rfl, _⟩ := mem_levelFrom.mp hq
    obtain ⟨r', _, rfl, _⟩ := mem_levelFrom.mp hq'
    rw [List.append_assoc, List.append_assoc]
    exact List.Lex.append_left _ (List.Lex.rel hij) spot.1

/-- **The walk goes by the length of positions**, and among positions of one length from left to
right. -/
theorem Node.shortlex_breadthFirst (tree : Node) :
    tree.breadthFirst.Pairwise fun a b => List.Shortlex (· < ·) a.1 b.1 := by
  rw [Node.breadthFirst, List.pairwise_flatMap]
  constructor
  · intro d _
    refine (lex_levelFrom d ([], tree)).imp_of_mem ?_
    rintro ⟨p, n⟩ ⟨q, m⟩ hp hq hlex
    have hlength := (Node.mem_level.mp hp).1.trans (Node.mem_level.mp hq).1.symm
    exact List.Shortlex.of_lex hlength hlex
  · refine List.pairwise_lt_range.imp ?_
    rintro d e hde ⟨p, n⟩ hp ⟨q, m⟩ hq
    have hlength : p.length < q.length := by
      rw [(Node.mem_level.mp hp).1, (Node.mem_level.mp hq).1]
      exact hde
    exact List.Shortlex.of_length_lt hlength

/-! ## The leading constant -/

theorem Node.kind_of_heldText? {n : Node} {t : Letters} (h : n.heldText? = some t) :
    n.kind = .constant := by
  unfold Node.heldText? at h
  split at h
  · by_contra hkind
    rw [if_neg hkind] at h
    exact nomatch h
  · exact nomatch h

/-- At the position of a tree stands a constant with the text. -/
def Node.HoldsAt (tree : Node) (t : Letters) (p : Position) (n : Node) : Prop :=
  tree.at? p = some n ∧ n.heldText? = some t

theorem Node.mem_occurrences {tree n : Node} {t : Letters} {p : Position} :
    (p, n) ∈ tree.occurrences t ↔ tree.HoldsAt t p n := by
  rw [Node.occurrences, Node.breadthFirst, ← tree.walk_eq_levels le_rfl, List.mem_filter,
    Node.mem_walk, decide_eq_true_eq]
  rfl

/-- At the position stands a constant with the text, and all others with the text are deeper, or as
deep and further to the right. -/
structure Node.Leads (tree : Node) (t : Letters) (p : Position) (n : Node) : Prop where
  holds : tree.HoldsAt t p n
  first : ∀ q m, tree.HoldsAt t q m → q = p ∨ List.Shortlex (· < ·) p q

theorem Node.leads_head {tree n : Node} {t : Letters} {p : Position} {rest : List (Position × Node)}
    (h : tree.occurrences t = (p, n) :: rest) : tree.Leads t p n := by
  have hordered : (tree.occurrences t).Pairwise fun a b => List.Shortlex (· < ·) a.1 b.1 :=
    tree.shortlex_breadthFirst.filter _
  rw [h, List.pairwise_cons] at hordered
  refine ⟨Node.mem_occurrences.mp (h ▸ List.mem_cons_self), ?_⟩
  intro q m hq
  have hmem := Node.mem_occurrences.mpr hq
  rw [h, List.mem_cons] at hmem
  rcases hmem with heq | hrest
  · exact Or.inl (congrArg Prod.fst heq)
  · exact Or.inr (hordered.1 (q, m) hrest)

/-- The lines of the constants with a text do not go back, read from left to right. -/
def Node.InReadingOrder (tree : Node) (t : Letters) : Prop :=
  ∀ p q n m, tree.HoldsAt t p n → tree.HoldsAt t q m → List.Lex (· < ·) p q →
    n.lineNumber ≤ m.lineNumber

namespace Node.Leads

variable {tree n : Node} {t : Letters} {p : Position}

theorem eq_or_before (h : tree.Leads t p n) {q : Position} {m : Node} (hq : tree.HoldsAt t q m) :
    n = m ∨ List.Shortlex (· < ·) p q := by
  rcases h.first q m hq with rfl | hbefore
  · exact Or.inl (Option.some.inj (h.holds.1.symm.trans hq.1))
  · exact Or.inr hbefore

/-- **Where lines follow the text, the leading constant has the first line of the shallowest
constants.** -/
theorem le_of_inReadingOrder (h : tree.Leads t p n) (horder : tree.InReadingOrder t) {q : Position}
    {m : Node} (hq : tree.HoldsAt t q m) (hdepth : q.length = p.length) :
    n.lineNumber ≤ m.lineNumber := by
  rcases h.eq_or_before hq with rfl | hbefore
  · exact le_rfl
  · exact horder p q n m h.holds hq ((List.shortlex_iff_lex hdepth.symm).mp hbefore)

theorem forall_le_iff (h : tree.Leads t p n) :
    (∀ q m, tree.HoldsAt t q m → n.lineNumber ≤ m.lineNumber) ↔
      ∀ q m, tree.HoldsAt t q m → List.Shortlex (· < ·) p q → n.lineNumber ≤ m.lineNumber := by
  refine ⟨fun hall q m hq _ => hall q m hq, fun hlater q m hq => ?_⟩
  rcases h.eq_or_before hq with rfl | hbefore
  · exact le_rfl
  · exact hlater q m hq hbefore

end Node.Leads

end Syntax

namespace Rule.Literals

/-- **A finding stands at the line of the leading constant.** -/
theorem exists_leads {tree : Node} {file : String} {f : Finding} (h : f ∈ analyze tree file) :
    ∃ t p n, tree.Leads t p n ∧
      f = literalFinding file n.lineNumber t.toString (tree.occurrences t).length := by
  rw [analyze_eq_map_filter] at h
  obtain ⟨t, ht, rfl⟩ := List.mem_map.mp h
  have htwice := of_decide_eq_true (List.mem_filter.mp ht).2
  cases hocc : tree.occurrences t with
  | nil =>
    rw [hocc] at htwice
    exact absurd htwice (by decide)
  | cons spot rest =>
    obtain ⟨p, n⟩ := spot
    have hline : tree.firstLine t = n.lineNumber := by
      rw [Node.firstLine, hocc]
      rfl
    refine ⟨t, p, n, Node.leads_head hocc, ?_⟩
    rw [hline, hocc]

end Rule.Literals

open Rule (Literals)

/-- **At which line a repeated literal is reported.**  When every constant has a line, a finding
stands at the line of the constant with its text that is least deep and, among those, furthest to
the left.  This is the first line of all constants with the text if and only if none of those that
are deeper or further to the right is on an earlier line; and where the lines follow the text, it is
the first line of the least deep ones. -/
theorem literal_line_by_level (tree : Node) (file : String)
    (hlines : ∀ p n, tree.at? p = some n → n.kind = .constant → n.line.isSome = true)
    (f : Finding) (hf : f ∈ Literals.analyze tree file) :
    ∃ t p n, f = literalFinding file f.line t.toString (tree.occurrences t).length ∧
      (tree.HoldsAt t p n ∧ n.line = some f.line) ∧
      (∀ q m, tree.HoldsAt t q m → q = p ∨ List.Shortlex (· < ·) p q) ∧
      ((∀ q m, tree.HoldsAt t q m → f.line ≤ m.lineNumber) ↔
        ∀ q m, tree.HoldsAt t q m → List.Shortlex (· < ·) p q → f.line ≤ m.lineNumber) ∧
      (tree.InReadingOrder t →
        ∀ q m, tree.HoldsAt t q m → q.length = p.length → f.line ≤ m.lineNumber) := by
  obtain ⟨t, p, n, hleads, rfl⟩ := Literals.exists_leads hf
  have hline : n.line = some n.lineNumber := by
    have hkind : n.kind = .constant := Node.kind_of_heldText? hleads.holds.2
    obtain ⟨line, hline⟩ := Option.isSome_iff_exists.mp (hlines p n hleads.holds.1 hkind)
    rw [Node.lineNumber, hline]
    rfl
  exact ⟨t, p, n, rfl, ⟨hleads.holds, hline⟩, hleads.first, hleads.forall_le_iff,
    fun horder q m => hleads.le_of_inReadingOrder horder⟩

/-! ## A deeper constant on an earlier line -/

/-- A literal inside a function, and the same literal after it. -/
def pendingText : String :=
  "def f():\n    x = 'pending'\ny = 'pending'\n"

theorem pendingText_tree :
    ∃ tree, Source.parse pendingText = some tree ∧
      (∀ p n, tree.at? p = some n → n.kind = .constant → n.line.isSome = true) ∧
      Literals.analyze tree "m.py" = [literalFinding "m.py" 3 "pending" 2] ∧
      ∃ n, tree.HoldsAt (.ofString "pending") [0, 1, 1] n ∧ n.line = some 2 := by
  have h : (Source.parse pendingText).any (fun tree =>
      tree.walk.all (fun spot => !decide (spot.2.kind = .constant) || spot.2.line.isSome) &&
      decide (Literals.analyze tree "m.py" = [literalFinding "m.py" 3 "pending" 2]) &&
      (tree.at? [0, 1, 1]).any fun n =>
        decide (n.heldText? = some (.ofString "pending")) && decide (n.line = some 2)) = true := by
    decide +kernel
  simp only [Option.any_eq_true, Bool.and_eq_true, decide_eq_true_eq, List.all_eq_true,
    Bool.or_eq_true, Bool.not_eq_true', decide_eq_false_iff_not] at h
  obtain ⟨tree, hparse, ⟨hlines, hfound⟩, n, hn, hheld, hline⟩ := h
  refine ⟨tree, hparse, ?_, hfound, n, ⟨hn, hheld⟩, hline⟩
  intro p n hat hkind
  exact (hlines (p, n) (Node.mem_walk.mpr hat)).resolve_left (not_not.mpr hkind)

theorem literal_line_by_level_pending :
    ∃ tree f, Source.parse pendingText = some tree ∧
      (∀ p n, tree.at? p = some n → n.kind = .constant → n.line.isSome = true) ∧
      f ∈ Literals.analyze tree "m.py" ∧
      ∃ t p n, (tree.HoldsAt t p n ∧ n.line = some f.line) ∧
        ∀ q m, tree.HoldsAt t q m → q = p ∨ List.Shortlex (· < ·) p q := by
  obtain ⟨tree, hparse, hlines, hfound, _⟩ := pendingText_tree
  have hmem : literalFinding "m.py" 3 "pending" 2 ∈ Literals.analyze tree "m.py" := by
    rw [hfound]
    exact List.mem_cons_self
  obtain ⟨t, p, n, _, hholds, hfirst, _⟩ := literal_line_by_level tree "m.py" hlines _ hmem
  exact ⟨tree, _, hparse, hlines, hmem, t, p, n, hholds, hfirst⟩

/-- **A deeper constant on an earlier line is passed over**, in the tree of a text. -/
theorem literal_reported_late :
    ∃ tree f, Source.parse pendingText = some tree ∧
      (∀ p n, tree.at? p = some n → n.kind = .constant → n.line.isSome = true) ∧
      f ∈ Literals.analyze tree "m.py" ∧ f = literalFinding "m.py" 3 "pending" 2 ∧
      ∃ n, tree.HoldsAt (.ofString "pending") [0, 1, 1] n ∧ n.line = some 2 := by
  obtain ⟨tree, hparse, hlines, hfound, hearlier⟩ := pendingText_tree
  refine ⟨tree, _, hparse, hlines, ?_, rfl, hearlier⟩
  rw [hfound]
  exact List.mem_cons_self

end ArchLint
