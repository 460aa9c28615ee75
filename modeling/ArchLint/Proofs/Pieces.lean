import ArchLint.Syntax.Printer
import Mathlib.Data.List.TakeWhile

/-!
# Pieces without surprises

The rules of the printer can stop for many reasons.  In a well-formed expression there are two: a
whole number with too many digits, and a replacement field whose expression, as it is printed there,
holds a backslash.  Pieces that stop for no other reason, and the condition under which they do, are
followed here through everything that the rules do with pieces.

* `Sound`: pieces that are text, or stop for one of the two reasons, and when they stop.
* `Answers`: a result that is there unless one of the two reasons keeps it away.
* `Sound.assemble`, `Sound.setAside`: **sound pieces make a text unless they stop**.
-/

namespace ArchLint.Syntax

open ArchLint.Text (Letter Letters)

/-! ## Pieces -/

/-- The faults that printing a well-formed expression can have. -/
def Fault.isPrinting : Fault → Bool
  | .backslashInField | .tooManyDigits => true
  | _ => false

theorem Fault.eq_of_isPrinting {fault : Fault} (h : fault.isPrinting = true) :
    fault = .backslashInField ∨ fault = .tooManyDigits := by
  cases fault with
  | backslashInField => exact Or.inl rfl
  | tooManyDigits => exact Or.inr rfl
  | _ => cases h

/-- Whether a piece is text, or stops for one of the two reasons. -/
def Piece.isPlain : Piece → Bool
  | .text _ => true
  | .stop fault => fault.isPrinting
  | _ => false

/-- A result that is there unless the condition holds; then one of the two faults is. -/
def Answers {α : Type} (blocked : Prop) (result : Except Fault α) : Prop :=
  (¬ blocked ∧ ∃ a, result = .ok a) ∨
    (blocked ∧ ∃ fault, fault.isPrinting = true ∧ result = .error fault)

/-- Pieces that are text or stop for one of the two reasons, and stop under the given condition. -/
structure Sound (blocked : Prop) (pieces : List Piece) : Prop where
  plain : ∀ p ∈ pieces, p.isPlain = true
  stops : (∃ fault, Piece.stop fault ∈ pieces) ↔ blocked

namespace Sound

variable {a b : Prop} {pieces others : List Piece}

theorem nil : Sound False [] :=
  ⟨by simp, by simp⟩

theorem congr (h : Sound a pieces) (hab : a ↔ b) : Sound b pieces :=
  ⟨h.plain, h.stops.trans hab⟩

theorem append (h : Sound a pieces) (h' : Sound b others) : Sound (a ∨ b) (pieces ++ others) := by
  refine ⟨?_, ?_⟩
  · intro p hp
    rcases List.mem_append.mp hp with hp | hp
    · exact h.plain p hp
    · exact h'.plain p hp
  · rw [← h.stops, ← h'.stops, ← exists_or]
    simp only [List.mem_append]

theorem quiet_append (h : Sound False pieces) (h' : Sound a others) : Sound a (pieces ++ others) :=
  (h.append h').congr (by rw [false_or])

theorem append_quiet (h : Sound a pieces) (h' : Sound False others) : Sound a (pieces ++ others) :=
  (h.append h').congr (by rw [or_false])

theorem text (t : Letters) (h : Sound a pieces) : Sound a (.text t :: pieces) := by
  refine ⟨?_, ?_⟩
  · intro p hp
    rcases List.mem_cons.mp hp with rfl | hp
    · rfl
    · exact h.plain p hp
  · rw [← h.stops]
    simp

theorem str (s : String) (h : Sound a pieces) : Sound a (.str s :: pieces) :=
  h.text (Letters.ofString s)

theorem stop {fault : Fault} (h : fault.isPrinting = true) : Sound True [.stop fault] := by
  refine ⟨?_, by simp⟩
  intro p hp
  rw [List.mem_singleton.mp hp]
  exact h

theorem ite {c : Prop} [Decidable c] (h : Sound a pieces) (h' : Sound a others) :
    Sound a (if c then pieces else others) := by
  split
  · exact h
  · exact h'

theorem flatMap {α : Type} {xs : List α} {f : α → List Piece} {bad : α → Prop}
    (h : ∀ x ∈ xs, Sound (bad x) (f x)) : Sound (∃ x ∈ xs, bad x) (xs.flatMap f) := by
  induction xs with
  | nil => exact nil.congr (by simp)
  | cons x rest ih =>
    rw [List.flatMap_cons]
    refine ((h x List.mem_cons_self).append
      (ih fun y hy => h y (List.mem_cons_of_mem x hy))).congr ?_
    simp

/-! ## Sheets -/

theorem eq_texts (h : Sound a pieces) :
    (¬ a ∧ ∃ texts : List Letters, pieces = texts.map .text) ∨
      a ∧ ∃ (texts : List Letters) (fault : Fault) (rest : List Piece),
        fault.isPrinting = true ∧ pieces = texts.map .text ++ .stop fault :: rest := by
  rw [← h.stops]
  have hplain := h.plain
  clear h
  induction pieces with
  | nil => exact Or.inl ⟨by simp, [], rfl⟩
  | cons p rest ih =>
    have hp := hplain p List.mem_cons_self
    have hrest := ih fun q hq => hplain q (List.mem_cons_of_mem p hq)
    cases p with
    | text t =>
      rcases hrest with ⟨hno, texts, rfl⟩ | ⟨⟨fault, hmem⟩, texts, other, more, hfault, rfl⟩
      · refine Or.inl ⟨?_, t :: texts, rfl⟩
        rintro ⟨fault, hmem⟩
        rcases List.mem_cons.mp hmem with heq | hmem
        · exact absurd heq (by simp)
        · exact hno ⟨fault, hmem⟩
      · exact Or.inr ⟨⟨fault, List.mem_cons_of_mem _ hmem⟩, t :: texts, other, more, hfault, rfl⟩
    | stop fault => exact Or.inr ⟨⟨fault, List.mem_cons_self⟩, [], fault, rest, hp, rfl⟩
    | odd label => exact absurd hp (by simp [Piece.isPlain])
    | lineEnd => exact absurd hp (by simp [Piece.isPlain])
    | restart => exact absurd hp (by simp [Piece.isPlain])
    | check => exact absurd hp (by simp [Piece.isPlain])

theorem write_texts_stop (texts : List Letters) (fault : Fault) (rest : List Piece)
    (sheet : Sheet) :
    write (texts.map .text ++ .stop fault :: rest) sheet = .error fault := by
  rw [write_append, write_map_text]
  rfl

/-- **Sound pieces make a text unless they stop.** -/
theorem assemble (h : Sound a pieces) : Answers a (Syntax.assemble pieces) := by
  rcases h.eq_texts with ⟨hno, texts, rfl⟩ | ⟨ha, texts, fault, rest, hfault, rfl⟩
  · exact Or.inl ⟨hno, _, assemble_map_text texts⟩
  · refine Or.inr ⟨ha, fault, hfault, ?_⟩
    rw [Syntax.assemble, write_texts_stop]

theorem takeWhile_texts (texts : List Letters) :
    (texts.map Piece.text).takeWhile (· != .restart) = texts.map .text := by
  rw [List.takeWhile_eq_self_iff]
  intro p hp
  obtain ⟨t, _, rfl⟩ := List.mem_map.mp hp
  rfl

theorem setAside_texts (texts : List Letters) :
    Syntax.setAside (texts.map .text) = texts.map .text := by
  rw [Syntax.setAside, takeWhile_texts, write_map_text]
  simp

theorem setAside (h : Sound a pieces) : Sound a (Syntax.setAside pieces) := by
  rcases h.eq_texts with ⟨hno, texts, rfl⟩ | ⟨ha, texts, fault, rest, hfault, rfl⟩
  · rw [setAside_texts]
    exact h
  · have hset : Syntax.setAside (texts.map .text ++ .stop fault :: rest) = [.stop fault] := by
      rw [Syntax.setAside, write_texts_stop]
    rw [hset]
    exact (stop hfault).congr (by simp [ha])

theorem exists_texts (h : Sound a pieces) (ha : ¬ a) :
    ∃ texts : List Letters, pieces = texts.map .text := by
  rcases h.eq_texts with ⟨_, htexts⟩ | ⟨hyes, _⟩
  · exact htexts
  · exact absurd hyes ha

end Sound

namespace Answers

variable {α β : Type} {a b : Prop}

theorem congr {result : Except Fault α} (h : Answers a result) (hab : a ↔ b) :
    Answers b result := by
  rw [← propext hab]
  exact h

theorem exists_ok_iff {result : Except Fault α} (h : Answers a result) :
    (∃ x, result = .ok x) ↔ ¬ a := by
  rcases h with ⟨hno, hok⟩ | ⟨hyes, fault, -, hfault⟩
  · exact ⟨fun _ => hno, fun _ => hok⟩
  · simp [hyes, hfault]

theorem isPrinting {result : Except Fault α} (h : Answers a result) {fault : Fault}
    (hfault : result = .error fault) : fault.isPrinting = true := by
  rcases h with ⟨-, x, hx⟩ | ⟨-, other, hother, hx⟩
  · simp [hx] at hfault
  · rw [hx, Except.error.injEq] at hfault
    exact hfault ▸ hother

theorem map {result : Except Fault α} (f : α → β) (h : Answers a result) :
    Answers a (result.map f) := by
  rcases h with ⟨hno, x, rfl⟩ | ⟨ha, fault, hfault, rfl⟩
  · exact Or.inl ⟨hno, f x, rfl⟩
  · exact Or.inr ⟨ha, fault, hfault, rfl⟩

/-- Results one after the other are all there, or the first that is not decides. -/
theorem mapM {xs : List α} {f : α → Except Fault β} {bad : α → Prop}
    (h : ∀ x ∈ xs, Answers (bad x) (f x)) : Answers (∃ x ∈ xs, bad x) (xs.mapM f) := by
  induction xs with
  | nil => exact Or.inl ⟨by simp, [], rfl⟩
  | cons x rest ih =>
    rw [List.mapM_cons]
    rcases h x List.mem_cons_self with ⟨hno, y, hy⟩ | ⟨hbad, fault, hfault, hy⟩
    · rcases ih fun z hz => h z (List.mem_cons_of_mem x hz) with
        ⟨hnone, ys, hys⟩ | ⟨hsome, fault, hfault, hys⟩
      · refine Or.inl ⟨?_, y :: ys, ?_⟩
        · simpa [hno] using hnone
        · rw [hy, hys]
          rfl
      · refine Or.inr ⟨?_, fault, hfault, ?_⟩
        · simpa [hno] using hsome
        · rw [hy, hys]
          rfl
    · refine Or.inr ⟨⟨x, List.mem_cons_self, hbad⟩, fault, hfault, ?_⟩
      rw [hy]
      rfl

end Answers
end ArchLint.Syntax
