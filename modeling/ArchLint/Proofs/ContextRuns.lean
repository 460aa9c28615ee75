import ArchLint.Context
import Mathlib.Data.List.Induction

/-!
# Runs of contexts

The analysis moves through a file by entering scopes and leaving them.  A context keeps its scopes
outermost first and is never changed in place; here a whole run of moves is compared with a stack
that has the innermost scope on top, and the questions that a context answers are followed along the
run.

* `Context.after`: the context after a run of moves.
* `Context.after_eq`: **a run works on a stack**, and on nothing else.
* `Context.after_nested`: what is entered and left again leaves no trace.
* `Context.depth_after`: how deep a run ends, with the moves that find nothing to leave.
* `Context.Keeps`: a run that leaves no scope of the context in which it starts.
* `Context.Within.holds`: **what the scopes around say is still said further inside**.
-/

namespace ArchLint

/-- A move through a file: into a scope, or out of the innermost one. -/
inductive Move where
  | enter (s : Scope)
  | leave
  deriving DecidableEq, Repr

namespace Move

/-- What a move does to a stack of scopes, the innermost first; an empty stack stays empty when
there is nothing to leave. -/
def onStack : Move → List Scope → List Scope
  | .enter s, stack => s :: stack
  | .leave, [] => []
  | .leave, _ :: below => below

def isEnter : Move → Bool
  | .enter _ => true
  | .leave => false

/-- Moves in which every scope that is entered is left again, and no other scope is left. -/
inductive Nested : List Move → Prop
  | nil : Nested []
  | wrap (s : Scope) {inner : List Move} : Nested inner → Nested (.enter s :: (inner ++ [.leave]))
  | append {first second : List Move} : Nested first → Nested second → Nested (first ++ second)

end Move

namespace Context

def move (c : Context) : Move → Context
  | .enter s => c.enter s
  | .leave => c.leave

def after (c : Context) (moves : List Move) : Context :=
  moves.foldl move c

@[simp] theorem after_cons (c : Context) (m : Move) (moves : List Move) :
    c.after (m :: moves) = (c.move m).after moves :=
  rfl

theorem after_append (c : Context) (first later : List Move) :
    c.after (first ++ later) = (c.after first).after later :=
  List.foldl_append

theorem after_concat (c : Context) (moves : List Move) (m : Move) :
    c.after (moves ++ [m]) = (c.after moves).move m :=
  c.after_append moves [m]

/-! ## The stack of a run -/

/-- One move on the scopes of a context is one on the stack. -/
theorem move_eq (c : Context) (m : Move) :
    c.move m = { c with scopes := (m.onStack c.scopes.reverse).reverse } := by
  cases m with
  | enter s => simp [move, enter, Move.onStack]
  | leave =>
    have htail : Move.leave.onStack c.scopes.reverse = c.scopes.reverse.tail := by
      cases c.scopes.reverse <;> rfl
    rw [htail, List.tail_reverse, List.reverse_reverse]
    rfl

/-- **A run works on a stack**, and on nothing else. -/
theorem after_eq (c : Context) (moves : List Move) :
    c.after moves =
      { c with
        scopes := (moves.foldl (fun stack m => m.onStack stack) c.scopes.reverse).reverse } := by
  induction moves generalizing c with
  | nil =>
    rw [List.foldl_nil, List.reverse_reverse]
    rfl
  | cons m rest ih => rw [after_cons, ih, move_eq, List.reverse_reverse, List.foldl_cons]

theorem file_after (c : Context) (moves : List Move) : (c.after moves).file = c.file := by
  rw [after_eq]

theorem moduleType_after (c : Context) (moves : List Move) :
    (c.after moves).moduleType = c.moduleType := by
  rw [after_eq]

theorem reverse_scopes_after (c : Context) (moves : List Move) :
    (c.after moves).scopes.reverse =
      moves.foldl (fun stack m => m.onStack stack) c.scopes.reverse := by
  rw [after_eq, List.reverse_reverse]

/-- **What is entered and left again leaves no trace.** -/
theorem after_nested {moves : List Move} (h : Move.Nested moves) (c : Context) :
    c.after moves = c := by
  induction h generalizing c with
  | nil => rfl
  | wrap s inner ih =>
    rw [after_cons, after_concat, ih]
    exact leave_enter c s
  | append first second ihFirst ihSecond => rw [after_append, ihFirst, ihSecond]

/-! ## How deep a run ends -/

/-- How many moves of a run find nothing to leave. -/
def idle : Context → List Move → Nat
  | _, [] => 0
  | c, m :: rest => (if m = .leave ∧ c.depth = 0 then 1 else 0) + (c.move m).idle rest

theorem depth_move (c : Context) (m : Move) :
    (c.move m).depth + (if m = .leave then 1 else 0) =
      c.depth + (if m.isEnter then 1 else 0) + if m = .leave ∧ c.depth = 0 then 1 else 0 := by
  cases m with
  | enter s => simp [move, enter, depth, Move.isEnter]
  | leave =>
    simp only [move, leave, depth, Move.isEnter, List.length_dropLast]
    by_cases h : c.scopes.length = 0
    · simp [h]
    · simp [h]
      omega

/-- The depth counts what was entered and not left, where an idle move leaves nothing. -/
theorem depth_after (c : Context) (moves : List Move) :
    (c.after moves).depth + moves.count .leave =
      c.depth + moves.countP Move.isEnter + c.idle moves := by
  induction moves generalizing c with
  | nil => rfl
  | cons m rest ih =>
    have hstep := c.depth_move m
    have hrest := ih (c.move m)
    rw [after_cons, idle, List.count_cons, List.countP_cons]
    simp only [beq_iff_eq]
    omega

/-! ## Further inside -/

/-- The second context is in the same file and inside every scope of the first. -/
structure Within (c d : Context) : Prop where
  file : d.file = c.file
  moduleType : d.moduleType = c.moduleType
  scopes : c.scopes <+: d.scopes

/-- The run leaves no scope of the context in which it starts: when it leaves, then a scope that it
has entered itself, or none. -/
def Keeps (c : Context) (moves : List Move) : Prop :=
  ∀ i < moves.length, moves[i]? = some .leave →
    (c.after (moves.take i)).depth = 0 ∨ c.depth < (c.after (moves.take i)).depth

instance (c : Context) (moves : List Move) : Decidable (c.Keeps moves) :=
  inferInstanceAs (Decidable (∀ i < moves.length, moves[i]? = some .leave →
    (c.after (moves.take i)).depth = 0 ∨ c.depth < (c.after (moves.take i)).depth))

theorem Keeps.of_concat {c : Context} {moves : List Move} {m : Move}
    (h : c.Keeps (moves ++ [m])) : c.Keeps moves := by
  intro i hi hleave
  have hkeeps := h i (by rw [List.length_append]; omega) (by rwa [List.getElem?_append_left hi])
  rwa [List.take_append_of_le_length (by omega)] at hkeeps

theorem Keeps.of_concat_leave {c : Context} {moves : List Move}
    (h : c.Keeps (moves ++ [.leave])) :
    (c.after moves).depth = 0 ∨ c.depth < (c.after moves).depth := by
  have hkeeps := h moves.length (by simp) (by simp)
  rwa [List.take_left] at hkeeps

/-- The induction is from the end of the run: before the last move all scopes are still around. -/
theorem Keeps.within {c : Context} {moves : List Move} (h : c.Keeps moves) :
    c.Within (c.after moves) := by
  refine ⟨c.file_after moves, c.moduleType_after moves, ?_⟩
  induction moves using List.reverseRecOn with
  | nil => exact List.prefix_rfl
  | append_singleton moves m ih =>
    have hbefore := ih h.of_concat
    rw [after_concat]
    cases m with
    | enter s => exact hbefore.trans (List.prefix_append _ _)
    | leave =>
      obtain ⟨own, hown⟩ := hbefore
      rcases h.of_concat_leave with hnone | hdeeper
      · have hempty : c.scopes = [] := by
          have hlength := congrArg List.length hown
          rw [depth] at hnone
          rw [List.length_append, hnone] at hlength
          exact List.eq_nil_of_length_eq_zero (by omega)
        rw [hempty]
        exact List.nil_prefix
      · have hne : own ≠ [] := by
          rintro rfl
          rw [depth, depth, ← hown, List.append_nil] at hdeeper
          exact absurd hdeeper (Nat.lt_irrefl _)
        rw [move, leave, ← hown, List.dropLast_append_of_ne_nil hne]
        exact List.prefix_append _ _

/-! ## What a context says -/

/-- The questions whose answer, once yes, stays so further inside. -/
def lasting : List (Context → Bool) :=
  [inSerialization, inValidation, inBoundary, inTypeChecking]

theorem Within.any {c d : Context} (h : c.Within d) {test : Scope → Bool}
    (hc : c.scopes.any test = true) : d.scopes.any test = true := by
  obtain ⟨s, hs, htest⟩ := List.any_eq_true.mp hc
  exact List.any_eq_true.mpr ⟨s, h.scopes.subset hs, htest⟩

theorem Within.inBoundary {c d : Context} (h : c.Within d) (hc : c.inBoundary = true) :
    d.inBoundary = true := by
  have hfile : d.fileSuggestsBoundary = c.fileSuggestsBoundary := by
    rw [fileSuggestsBoundary, fileSuggestsBoundary, h.file]
  have hmodule : d.moduleSuggestsBoundary = c.moduleSuggestsBoundary := by
    rw [moduleSuggestsBoundary, moduleSuggestsBoundary, h.moduleType]
  rw [Context.inBoundary, Bool.or_eq_true, Bool.or_eq_true] at hc ⊢
  rw [hfile, hmodule]
  rcases hc with (hc | hc) | hc
  · exact Or.inl (Or.inl hc)
  · exact Or.inl (Or.inr (h.any hc))
  · exact Or.inr hc

/-- **What the scopes around say is still said further inside.** -/
theorem Within.holds {c d : Context} (h : c.Within d) {flag : Context → Bool}
    (hflag : flag ∈ lasting) (hc : flag c = true) : flag d = true := by
  simp only [lasting, List.mem_cons, List.not_mem_nil, or_false] at hflag
  rcases hflag with rfl | rfl | rfl | rfl
  · exact h.any hc
  · exact h.any hc
  · exact h.inBoundary hc
  · exact h.any hc

theorem inBusinessLogic_eq_false {c : Context} (h : c.inBoundary = true) :
    c.inBusinessLogic = false := by
  rw [inBusinessLogic, h, Bool.not_true, Bool.and_false]

end Context

/-- **Runs of a context.**  Whatever is entered and left, in whatever order, the file and the type
of the module stay.  The scopes are those of a stack on which leaving does nothing when it is empty,
so that nested moves lead back to where they began; the depth is what was entered less what was
left, idle moves apart, and never negative.  No context is in business logic and at a boundary.  And
as long as no scope of a context on the way is left, what its scopes say stays said: so from a
boundary on, no further scope brings a run into business logic. -/
theorem context_runs_on_stack (c : Context) (moves : List Move) :
    ((c.after moves).file = c.file ∧ (c.after moves).moduleType = c.moduleType ∧
      (c.after moves).scopes.reverse =
        moves.foldl (fun stack m => m.onStack stack) c.scopes.reverse) ∧
    (Move.Nested moves → c.after moves = c) ∧
    (((c.after moves).depth : Int) =
        c.depth + moves.countP Move.isEnter - moves.count .leave + c.idle moves ∧
      (0 : Int) ≤ c.depth + moves.countP Move.isEnter - moves.count .leave + c.idle moves) ∧
    ¬((c.after moves).inBusinessLogic = true ∧ (c.after moves).inBoundary = true) ∧
    ∀ first later, moves = first ++ later → (c.after first).Keeps later →
      (∀ flag ∈ [Context.inSerialization, Context.inValidation, Context.inBoundary,
          Context.inTypeChecking], flag (c.after first) = true → flag (c.after moves) = true) ∧
      ((c.after first).inBoundary = true → (c.after moves).inBusinessLogic = false) := by
  refine ⟨⟨c.file_after moves, c.moduleType_after moves, c.reverse_scopes_after moves⟩,
    fun h => Context.after_nested h c, ?_, ?_, ?_⟩
  · have hdepth := c.depth_after moves
    omega
  · rintro ⟨hbusiness, hboundary⟩
    rw [Context.inBusinessLogic_eq_false hboundary] at hbusiness
    exact absurd hbusiness (by decide)
  · rintro first later rfl hkeeps
    have hwithin := hkeeps.within
    rw [← Context.after_append] at hwithin
    exact ⟨fun flag hflag => hwithin.holds hflag, fun hboundary =>
      Context.inBusinessLogic_eq_false (hwithin.inBoundary hboundary)⟩

/-- A move that finds nothing to leave, a class that faces outwards, and in it two functions. -/
def clientRun : List Move :=
  [.leave, .enter ⟨.classBody, .text "ApiClient", 1⟩, .enter ⟨.function, .text "validate", 2⟩,
   .leave, .enter ⟨.function, .text "total", 5⟩]

theorem context_runs_on_stack_client :
    (Move.Nested (.enter ⟨.classBody, .text "Order", 1⟩ ::
        ([.enter ⟨.function, .text "total", 2⟩, .leave] ++ [.leave])) ∧
      (Context.ofFile "m.py" .domain).after [.enter ⟨.classBody, .text "Order", 1⟩,
        .enter ⟨.function, .text "total", 2⟩, .leave, .leave] = .ofFile "m.py" .domain) ∧
    clientRun = clientRun.take 2 ++ clientRun.drop 2 ∧
    ((Context.ofFile "m.py" .domain).after (clientRun.take 2)).Keeps (clientRun.drop 2) ∧
    ((Context.ofFile "m.py" .domain).after (clientRun.take 2)).inBoundary = true ∧
    ((Context.ofFile "m.py" .domain).after clientRun).inBoundary = true ∧
    ((Context.ofFile "m.py" .domain).after clientRun).inBusinessLogic = false := by
  have hnested : Move.Nested (.enter ⟨.classBody, .text "Order", 1⟩ ::
      ([.enter ⟨.function, .text "total", 2⟩, .leave] ++ [.leave])) :=
    .wrap _ (.wrap _ .nil)
  have hkeeps : ((Context.ofFile "m.py" .domain).after (clientRun.take 2)).Keeps
      (clientRun.drop 2) := by
    decide
  have hboundary :
      ((Context.ofFile "m.py" .domain).after (clientRun.take 2)).inBoundary = true := by
    decide +kernel
  obtain ⟨_, hback, _⟩ := context_runs_on_stack (.ofFile "m.py" .domain)
    (.enter ⟨.classBody, .text "Order", 1⟩ ::
      ([.enter ⟨.function, .text "total", 2⟩, .leave] ++ [.leave]))
  obtain ⟨_, _, _, _, hlater⟩ := context_runs_on_stack (.ofFile "m.py" .domain) clientRun
  obtain ⟨hflags, hbusiness⟩ := hlater (clientRun.take 2) (clientRun.drop 2) rfl hkeeps
  exact ⟨⟨hnested, hback hnested⟩, rfl, hkeeps, hboundary,
    hflags _ (by simp) hboundary, hbusiness hboundary⟩

/-- Business logic is not among what lasts: a block that handles errors ends it. -/
example :
    ((Context.ofFile "m.py" .domain).after
      [.enter ⟨.classBody, .text "Order", 1⟩]).inBusinessLogic = true ∧
    ((Context.ofFile "m.py" .domain).after [.enter ⟨.classBody, .text "Order", 1⟩,
      .enter ⟨.tryBlock, .text "try", 2⟩]).inBusinessLogic = false := by
  decide +kernel

end ArchLint
