import ArchLint.Proofs.Parsing.Expression
import ArchLint.Source.Pattern

/-!
# Parsed patterns are well-formed

The rules for patterns, which read expressions as well: literals, and names that are looked up.

* `splitMapping_gives`, `splitArguments_gives`: what a list is split into is what was in it.
* `patterns_yields`: **every pattern that is read is well-formed**.
-/

namespace ArchLint.Source

open ArchLint.Syntax
open ArchLint.Source.Parser

variable {g : Rules} {pattern : Parser Node}

/-! ## Literals and names -/

theorem signedNumber_yields : Yields signedNumber fun found => found.1.Is .expression := by
  rw [signedNumber]
  refine .after fun line => .after fun negative => .after fun t => ?_
  split
  · rename_i value _
    refine .pure ?_
    have hnumber := constant_is .noText t.line value
    dsimp only
    split
    · exact unary_is rfl hnumber _
    · exact hnumber
  · exact .failure

theorem numberPattern_yields : Yields numberPattern (Node.Is .expression) := by
  rw [numberPattern]
  refine .after fun line => .bind signedNumber_yields fun ⟨left, real⟩ hleft => ?_
  refine .bind (acceptOperator_yields .binary (by decide)) fun found hfound => ?_
  cases found with
  | none => exact .pure hleft
  | some kind =>
    refine .after fun _ => .after fun t => ?_
    split
    · exact .after fun _ => .pure (binary_is hleft (hfound kind rfl) (constant_is .noText _ _) _)
    · exact .failure

theorem dottedValue_yields : Yields (dottedValue g) (Node.Is .expression) := by
  rw [dottedValue]
  refine .after fun line => .after fun name => .extend (fun n hn => ?_) _ (nameNode_is line name)
  refine .after fun _ => .ite (.after fun attr => .pure fun m hm => ?_) (.pure (by simp))
  rw [← Option.some.inj hm]
  exact attribute_is hn _ attr

theorem attributeValue_yields : Yields (attributeValue g) (Node.Is .expression) := by
  rw [attributeValue]
  exact .bind dottedValue_yields fun n hn => .after fun _ => .pure hn

theorem capture_is (line : Nat) (name : Option String) : (capture line name).Is .pattern :=
  .build rfl (.cons .none (.cons (.optionalText name) .nil)) rfl

/-! ## Sequences -/

theorem starPattern_yields (hp : Yields pattern (Node.Is .pattern)) :
    Yields (starPattern pattern) (Node.Is .pattern) := by
  rw [starPattern]
  refine .after fun line => .after fun _ => .ite (.after fun _ => .ite ?_ ?_) hp
  · exact .pure (.build rfl (.cons .noText .nil) rfl)
  · exact .after fun name => .pure (.build rfl (.cons (.optionalText (some name)) .nil) rfl)

theorem sequence_is {patterns : List Node} (h : ∀ n ∈ patterns, n.Is .pattern) (line : Nat) :
    (sequence line patterns).Is .pattern :=
  .build rfl (.cons (.many h) .nil) rfl

theorem sequenceOr_yields {patterns : List Node} (h : ∀ n ∈ patterns, n.Is .pattern) (line : Nat)
    (comma : Bool) : Yields (sequenceOr line patterns comma) (Node.Is .pattern) := by
  unfold sequenceOr
  split
  · exact .after fun _ => .pure (h _ List.mem_cons_self)
  · exact .pure (sequence_is h line)

theorem openSequence_yields (hp : Yields pattern (Node.Is .pattern)) :
    Yields (openSequence g pattern) (Node.Is .pattern) := by
  rw [openSequence]
  exact .after fun line => .bind (.commaList (starPattern_yields hp) _) fun found hfound =>
    sequenceOr_yields hfound _ _

theorem roundPattern_yields (hp : Yields pattern (Node.Is .pattern)) :
    Yields (roundPattern g pattern) (Node.Is .pattern) := by
  rw [roundPattern]
  refine .after fun line => .after fun _ => .after fun _ => .ite ?_ ?_
  · exact .pure (sequence_is (by simp) line)
  · exact .bind (.commaList (starPattern_yields hp) _) fun found hfound => .after fun _ =>
      sequenceOr_yields hfound _ _

theorem squarePattern_yields (hp : Yields pattern (Node.Is .pattern)) :
    Yields (squarePattern g pattern) (Node.Is .pattern) := by
  rw [squarePattern]
  refine .after fun line => .after fun _ => .after fun _ => .ite ?_ ?_
  · exact .pure (sequence_is (by simp) line)
  · exact .bind (.commaList (starPattern_yields hp) _) fun found hfound => .after fun _ =>
      .pure (sequence_is hfound line)

/-! ## Mappings -/

theorem mappingKey_yields (hg : g.Good) : Yields (mappingKey g) (Node.Is .expression) := by
  rw [mappingKey]
  refine .after fun line => .after fun _ => .ite numberPattern_yields (.after fun _ =>
    .ite (literal_yields hg) (.after fun _ => .ite (.after fun t => ?_) attributeValue_yields))
  split
  · exact .pure (constant_is .noText line _)
  · exact .failure

def IsMappingEntry : (Node × Node) ⊕ String → Prop
  | .inl pair => pair.1.Is .expression ∧ pair.2.Is .pattern
  | .inr _ => True

theorem mappingEntry_yields (hg : g.Good) (hp : Yields pattern (Node.Is .pattern)) :
    Yields (mappingEntry g pattern) IsMappingEntry := by
  rw [mappingEntry]
  refine .after fun _ => .ite (.after fun name => .pure trivial) ?_
  exact .bind (mappingKey_yields hg) fun key hkey => .after fun _ => .bind hp fun n hn =>
    .pure ⟨hkey, hn⟩

theorem splitMapping_gives {entries : List ((Node × Node) ⊕ String)}
    (h : ∀ e ∈ entries, IsMappingEntry e) :
    Gives (splitMapping entries) fun found =>
      ∀ pair ∈ found.1, pair.1.Is .expression ∧ pair.2.Is .pattern := by
  fun_induction splitMapping entries with
  | case1 => exact .some (by simp)
  | case2 => exact .some (by simp)
  | case3 pair rest ih =>
    obtain ⟨hfirst, hrest⟩ := List.forall_mem_cons.mp h
    exact .map fun found hfound => List.forall_mem_cons.mpr ⟨hfirst, ih hrest found hfound⟩
  | case4 => exact .none

theorem mappingPattern_yields (hg : g.Good) (hp : Yields pattern (Node.Is .pattern)) :
    Yields (mappingPattern g pattern) (Node.Is .pattern) := by
  rw [mappingPattern]
  refine .after fun line => .after fun _ => .after fun _ =>
    .branch (P := fun entries => ∀ e ∈ entries, IsMappingEntry e)
      (.map (.commaList (mappingEntry_yields hg hp) _)) (.pure (by simp)) fun entries hentries =>
        .after fun _ => ?_
  cases hsplit : splitMapping entries with
  | none => exact .failure
  | some found =>
    have hpairs := splitMapping_gives hentries found hsplit
    refine .pure (.build rfl (.cons (.many ?_) (.cons (.many ?_)
      (.cons (.optionalText _) .nil))) rfl)
    · intro n hn
      obtain ⟨pair, hpair, rfl⟩ := List.mem_map.mp hn
      exact (hpairs pair hpair).1
    · intro n hn
      obtain ⟨pair, hpair, rfl⟩ := List.mem_map.mp hn
      exact (hpairs pair hpair).2

/-! ## Classes -/

def IsClassArgument : Node ⊕ (String × Node) → Prop
  | .inl n => n.Is .pattern
  | .inr pair => pair.2.Is .pattern

theorem classArgument_yields (hp : Yields pattern (Node.Is .pattern)) :
    Yields (classArgument pattern) IsClassArgument := by
  rw [classArgument]
  refine .after fun _ => .ite ?_ (.bind hp fun n hn => .pure hn)
  exact .after fun name => .after fun _ => .bind hp fun n hn => .pure hn

theorem splitArguments_gives {arguments : List (Node ⊕ (String × Node))}
    (h : ∀ a ∈ arguments, IsClassArgument a) :
    Gives (splitArguments arguments) fun found =>
      (∀ n ∈ found.1, n.Is .pattern) ∧ ∀ pair ∈ found.2, pair.2.Is .pattern := by
  fun_induction splitArguments arguments with
  | case1 => exact .some ⟨by simp, by simp⟩
  | case2 n rest ih =>
    obtain ⟨hfirst, hrest⟩ := List.forall_mem_cons.mp h
    refine .map fun found hfound => ?_
    obtain ⟨hpatterns, hnamed⟩ := ih hrest found hfound
    exact ⟨List.forall_mem_cons.mpr ⟨hfirst, hpatterns⟩, hnamed⟩
  | case3 pair rest named hsplit ih =>
    obtain ⟨hfirst, hrest⟩ := List.forall_mem_cons.mp h
    obtain ⟨_, hnamed⟩ := ih hrest _ hsplit
    exact .some ⟨by simp, List.forall_mem_cons.mpr ⟨hfirst, hnamed⟩⟩
  | case4 => exact .none

theorem classPattern_yields (hp : Yields pattern (Node.Is .pattern)) (line : Nat) {cls : Node}
    (hcls : cls.Is .expression) :
    Yields (classPattern g pattern line cls) (Node.Is .pattern) := by
  rw [classPattern]
  refine .after fun _ => .after fun _ =>
    .branch (P := fun arguments => ∀ a ∈ arguments, IsClassArgument a)
      (.map (.commaList (classArgument_yields hp) _)) (.pure (by simp)) fun arguments harguments =>
        .after fun _ => ?_
  cases hsplit : splitArguments arguments with
  | none => exact .failure
  | some found =>
    obtain ⟨patterns, named⟩ := found
    obtain ⟨hpatterns, hnamed⟩ := splitArguments_gives harguments _ hsplit
    have hnames : Shape.texts.Holds (.list (named.map fun entry => .text entry.1)) := by
      have htexts := Shape.Holds.texts (named.map (·.1))
      rw [List.map_map] at htexts
      exact htexts
    refine .pure (.build rfl (.cons (.one hcls) (.cons (.many hpatterns) (.cons hnames
      (.cons (.many ?_) .nil)))) rfl)
    intro n hn
    obtain ⟨pair, hpair, rfl⟩ := List.mem_map.mp hn
    exact hnamed pair hpair

/-! ## Patterns -/

theorem value_is {n : Node} (h : n.Is .expression) (line : Option Int) :
    (Node.mk .matchValue line [(.value, .node n)]).Is .pattern :=
  .build rfl (.cons (.one h) .nil) rfl

theorem namePattern_yields (hp : Yields pattern (Node.Is .pattern)) :
    Yields (namePattern g pattern) (Node.Is .pattern) := by
  rw [namePattern]
  refine .after fun line => .bind dottedValue_yields fun n hn => .after fun _ =>
    .ite (classPattern_yields hp line hn) (.after fun _ => .after fun _ => ?_)
  split
  · exact .pure (capture_is line _)
  · exact .pure (value_is hn _)

theorem closedPattern_yields (hg : g.Good) (hp : Yields pattern (Node.Is .pattern)) :
    Yields (closedPattern g pattern) (Node.Is .pattern) := by
  rw [closedPattern]
  refine .after fun line => .after fun _ => .ite ?_ (.after fun _ => .ite ?_ (.after fun _ =>
    .ite (.pure (capture_is line none)) (.after fun _ => .ite (namePattern_yields hp)
      (.after fun _ => .ite (roundPattern_yields hp) (.after fun _ => .ite (squarePattern_yields hp)
        (.after fun _ => .ite (mappingPattern_yields hg hp) (.after fun t => ?_)))))))
  · exact .bind numberPattern_yields fun n hn => .pure (value_is hn _)
  · exact .bind (literal_yields hg) fun n hn => .pure (value_is hn _)
  · split
    · exact .pure (.build rfl (.cons (.literal _) .nil) rfl)
    · exact .failure

theorem patternRule_yields (hg : g.Good) (hp : Yields pattern (Node.Is .pattern)) :
    Yields (patternRule g pattern) (Node.Is .pattern) := by
  rw [patternRule]
  refine .after fun line => .bind (closedPattern_yields hg hp) fun first hfirst =>
    .bind (.repeatWhile (closedPattern_yields hg hp) _) fun rest hrest => ?_
  have hchoice : (if rest.isEmpty then first
      else .mk .matchOr (some line) [(.patterns, nodeList (first :: rest))]).Is .pattern := by
    split
    · exact hfirst
    · exact .build rfl (.cons (.many (List.forall_mem_cons.mpr ⟨hfirst, hrest⟩)) .nil) rfl
  refine .after fun _ => .ite (.after fun name => ?_) (.pure hchoice)
  exact .pure (.build rfl (.cons (.some hchoice) (.cons (.optionalText (some name)) .nil)) rfl)

theorem patternAt_yields (hg : g.Good) (depth : Nat) :
    Yields (patternAt g depth) (Node.Is .pattern) := by
  induction depth with
  | zero => exact .failure
  | succ depth ih =>
    intro tokens n rest hread
    exact patternRule_yields hg ih tokens n rest hread

/-- **Every pattern that is read is well-formed.** -/
theorem patterns_yields (hg : g.Good) : Yields (patterns g) (Node.Is .pattern) := by
  rw [patterns]
  exact openSequence_yields (patternAt_yields hg g.limit)

end ArchLint.Source
