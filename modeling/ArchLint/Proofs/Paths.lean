import ArchLint.Disk.Selection
import Mathlib.Data.List.Basic

/-!
# Paths as text

A path is read from a text and written as one.  Reading drops what makes no difference, so that a
path that was read is normal, and a normal path is read back from what it is written as.

* `Text.pieces_eq_splitOn`: the pieces of a text are those of the library's `List.splitOn`.
* `Path.IsNormal`: no part is empty, a single dot, or holds a slash.
* `Path.isNormal_ofString`, `Path.ofString_toString`: **reading gives normal paths, and every normal
  path is read back from its text**.
* `Path.mem_toString`: what stands in the text of a path stands in one of its parts.
* `steps_toString`: the steps that the text of a normal path asks for are its parts.
* `Path.suffix_eq_ending`: **a name has the suffix of a source file if it has the ending and
  something before it**.
-/

namespace ArchLint

/-! ## Pieces -/

namespace Text

theorem pieces_cons (mark c : Char) (text : List Char) :
    pieces mark (c :: text) =
      if c = mark then [] :: pieces mark text else (pieces mark text).modifyHead (c :: ·) := by
  by_cases h : c = mark
  · simp [pieces, h]
  · simp [pieces, h]

theorem pieces_eq_splitOn (mark : Char) (text : List Char) :
    pieces mark text = text.splitOn mark := by
  induction text with
  | nil => rfl
  | cons c rest ih =>
    rw [pieces_cons, List.splitOn_cons_eq_if_modifyHead, ih]
    simp only [beq_iff_eq]

theorem not_mem_of_mem_pieces {mark : Char} {text piece : List Char}
    (h : piece ∈ pieces mark text) : mark ∉ piece := by
  induction text generalizing piece with
  | nil =>
    rw [List.mem_singleton.mp h]
    exact List.not_mem_nil
  | cons c rest ih =>
    rw [pieces_cons] at h
    split at h
    · rcases List.mem_cons.mp h with rfl | h
      · exact List.not_mem_nil
      · exact ih h
    · rename_i hc
      cases hrest : pieces mark rest with
      | nil =>
        rw [hrest] at h
        exact absurd h List.not_mem_nil
      | cons first more =>
        rw [hrest] at h ih
        rcases List.mem_cons.mp h with rfl | h
        · rw [List.mem_cons, not_or]
          exact ⟨Ne.symm hc, ih List.mem_cons_self⟩
        · exact ih (List.mem_cons_of_mem first h)

end Text

namespace Disk

namespace Path

/-! ## Normal paths -/

/-- The path is as reading leaves it: no part is empty or a single dot, and none holds a slash. -/
def IsNormal (p : Path) : Prop :=
  ∀ part ∈ p.parts, part ≠ "" ∧ part ≠ "." ∧ '/' ∉ part.toList

theorem isNormal_ofString (text : String) : (ofString text).IsNormal := by
  intro part hpart
  obtain ⟨piece, hpiece, rfl⟩ := List.mem_map.mp hpart
  obtain ⟨hmem, hkept⟩ := List.mem_filter.mp hpiece
  simp only [Bool.and_eq_true, Bool.not_eq_true', List.isEmpty_eq_false_iff, bne_iff_ne] at hkept
  have hback : (String.ofList piece).toList = piece := String.toList_ofList
  refine ⟨?_, ?_, ?_⟩
  · intro hempty
    rw [hempty] at hback
    exact hkept.1 hback.symm
  · intro hdot
    rw [hdot] at hback
    exact hkept.2 hback.symm
  · rw [hback]
    exact Text.not_mem_of_mem_pieces hmem

def body (parts : List String) : List Char :=
  ['/'].intercalate (parts.map String.toList)

theorem toList_toString {p : Path} (h : ¬(p.root = .none ∧ p.parts = [])) :
    p.toString.toList = p.root.text.toList ++ body p.parts := by
  rw [toString, if_neg h, String.toList_append, String.toList_intercalate]
  rfl

theorem body_ends {parts : List String} (hne : parts ≠ [])
    (h : ∀ part ∈ parts, part ≠ "" ∧ part ≠ "." ∧ '/' ∉ part.toList) :
    (∃ c rest, body parts = c :: rest ∧ c ≠ '/') ∧
      ∃ before c, body parts = before ++ [c] ∧ c ≠ '/' := by
  induction parts with
  | nil => exact absurd rfl hne
  | cons part more ih =>
    obtain ⟨hpart, _, hslash⟩ := h part List.mem_cons_self
    have hnonempty : part.toList ≠ [] := fun hnil => hpart (String.toList_eq_nil_iff.mp hnil)
    have hfirst : ∃ c rest, part.toList = c :: rest ∧ c ≠ '/' := by
      obtain ⟨c, rest, hc⟩ := List.exists_cons_of_ne_nil hnonempty
      refine ⟨c, rest, hc, ?_⟩
      rintro rfl
      exact hslash (hc ▸ List.mem_cons_self)
    have hlast : ∃ before c, part.toList = before ++ [c] ∧ c ≠ '/' := by
      refine ⟨_, _, (List.dropLast_append_getLast hnonempty).symm, ?_⟩
      intro hc
      exact hslash (hc ▸ List.getLast_mem hnonempty)
    cases more with
    | nil =>
      have hbody : body [part] = part.toList := List.intercalate_singleton
      rw [hbody]
      exact ⟨hfirst, hlast⟩
    | cons next more =>
      have hbody : body (part :: next :: more) = part.toList ++ ['/'] ++ body (next :: more) :=
        List.intercalate_cons_cons
      obtain ⟨_, before, c, hend, hc⟩ :=
        ih (List.cons_ne_nil _ _) fun other hother => h other (List.mem_cons_of_mem part hother)
      obtain ⟨a, rest, hstart, ha⟩ := hfirst
      rw [hbody]
      refine ⟨⟨a, rest ++ ['/'] ++ body (next :: more), by rw [hstart]; rfl, ha⟩, ?_⟩
      exact ⟨part.toList ++ ['/'] ++ before, c, by rw [hend, List.append_assoc _ before], hc⟩

theorem pieces_body {parts : List String} (hne : parts ≠ [])
    (h : ∀ part ∈ parts, part ≠ "" ∧ part ≠ "." ∧ '/' ∉ part.toList) :
    Text.pieces '/' (body parts) = parts.map String.toList := by
  rw [Text.pieces_eq_splitOn, body, List.splitOn_intercalate]
  · intro piece hpiece
    obtain ⟨part, hpart, rfl⟩ := List.mem_map.mp hpiece
    exact (h part hpart).2.2
  · exact mt List.map_eq_nil_iff.mp hne

theorem mem_body {c : Char} (hc : c ≠ '/') (parts : List String) :
    c ∈ body parts ↔ ∃ part ∈ parts, c ∈ part.toList := by
  induction parts with
  | nil => simp [body]
  | cons part more ih =>
    cases more with
    | nil =>
      have hbody : body [part] = part.toList := List.intercalate_singleton
      simp [hbody]
    | cons next more =>
      have hbody : body (part :: next :: more) = part.toList ++ ['/'] ++ body (next :: more) :=
        List.intercalate_cons_cons
      rw [hbody, List.mem_append, List.mem_append, List.mem_singleton, ih]
      simp [hc]

theorem mem_toString {c : Char} (hslash : c ≠ '/') (hdot : c ≠ '.') (p : Path) :
    c ∈ p.toString.toList ↔ ∃ part ∈ p.parts, c ∈ part.toList := by
  by_cases hempty : p.root = .none ∧ p.parts = []
  · have htext : p.toString.toList = ['.'] := by
      rw [toString, if_pos hempty]
      decide
    simp [htext, hempty.2, hdot]
  · have hroot : c ∉ p.root.text.toList := by
      cases p.root <;> simp [Root.text, hslash]
    rw [toList_toString hempty, List.mem_append, mem_body hslash]
    simp [hroot]

theorem filter_pieces {p : Path} (hne : p.parts ≠ []) (h : p.IsNormal) {keep : List Char → Bool}
    (hkeep : ∀ part ∈ p.parts, keep part.toList = true) (hempty : keep [] = false) :
    (Text.pieces '/' p.toString.toList).filter keep = p.parts.map String.toList := by
  have hbody : (Text.pieces '/' (body p.parts)).filter keep = p.parts.map String.toList := by
    rw [pieces_body hne h, List.filter_eq_self]
    intro piece hpiece
    obtain ⟨part, hpart, rfl⟩ := List.mem_map.mp hpiece
    exact hkeep part hpart
  rw [toList_toString fun hnone => hne hnone.2]
  -- each slash of the root makes one more empty piece in front
  have hslash : ∀ text, (Text.pieces '/' ('/' :: text)).filter keep =
      (Text.pieces '/' text).filter keep := by
    intro text
    rw [Text.pieces_cons, if_pos rfl, List.filter_cons_of_neg (by rw [hempty]; decide)]
  cases p.root with
  | none => exact hbody
  | slash => exact (hslash _).trans hbody
  | doubleSlash => exact (hslash _).trans ((hslash _).trans hbody)

theorem rootOf_append (root : Root) {text : List Char} (h : ∀ rest, text ≠ '/' :: rest) :
    rootOf (root.text.toList ++ text) = root := by
  cases root with
  | none =>
    change rootOf text = .none
    unfold rootOf
    split
    · exact absurd rfl (h _)
    · exact absurd rfl (h _)
    · exact absurd rfl (h _)
    · rfl
  | slash =>
    change rootOf ('/' :: text) = .slash
    rw [rootOf]
    · exact fun rest => h ('/' :: rest)
    · exact h
  | doubleSlash =>
    change rootOf ('/' :: '/' :: text) = .doubleSlash
    rw [rootOf]
    exact h

theorem rootOf_toString {p : Path} (hne : p.parts ≠ []) (h : p.IsNormal) :
    rootOf p.toString.toList = p.root := by
  rw [toList_toString fun hnone => hne hnone.2]
  refine rootOf_append p.root ?_
  intro rest hslash
  obtain ⟨⟨c, _, hc, hne⟩, _⟩ := body_ends hne h
  rw [hc] at hslash
  exact hne (List.cons.inj hslash).1

/-- **Every normal path is read back from its text.** -/
theorem ofString_toString {p : Path} (h : p.IsNormal) : ofString p.toString = p := by
  by_cases hparts : p.parts = []
  · obtain ⟨root, parts⟩ := p
    obtain rfl : parts = [] := hparts
    cases root <;> decide
  · have hkept : (Text.pieces '/' p.toString.toList).filter
        (fun piece => !piece.isEmpty && piece != ['.']) = p.parts.map String.toList := by
      refine filter_pieces hparts h ?_ rfl
      intro part hpart
      obtain ⟨hempty, hdot, _⟩ := h part hpart
      simp only [Bool.and_eq_true, Bool.not_eq_true', List.isEmpty_eq_false_iff, bne_iff_ne]
      exact ⟨mt String.toList_eq_nil_iff.mp hempty, fun hlist => hdot (String.toList_inj.mp hlist)⟩
    have hback : (p.parts.map String.toList).map String.ofList = p.parts := by
      rw [List.map_map]
      exact (List.map_congr_left fun part _ => String.ofList_toList).trans (List.map_id _)
    rw [ofString, rootOf_toString hparts h, hkept, hback]

end Path

theorem steps_toString {p : Path} (hne : p.parts ≠ []) (h : p.IsNormal) :
    steps p.toString.toList = p.parts := by
  have hkept : (Text.pieces '/' p.toString.toList).filter (!·.isEmpty) =
      p.parts.map String.toList := by
    refine Path.filter_pieces hne h ?_ rfl
    intro part hpart
    simpa using (h part hpart).1
  have hend : p.toString.toList.getLast? ≠ some '/' := by
    obtain ⟨_, before, c, hc, hslash⟩ := Path.body_ends hne h
    rw [Path.toList_toString fun hnone => hne hnone.2, hc, ← List.append_assoc,
      List.getLast?_concat]
    exact fun hlast => hslash (Option.some.inj hlast)
  rw [steps, hkept, if_neg hend, List.map_map]
  exact (List.map_congr_left fun part _ => String.ofList_toList).trans (List.map_id _)

/-! ## Suffixes -/

namespace Path

/-- A name is cut before its last dot, unless nothing stands before it. -/
theorem splitName_append (before : List Char) {tail : List Char} (htail : tail ≠ [])
    (hdot : '.' ∉ tail) :
    splitName (before ++ '.' :: tail) =
      if before = [] then ('.' :: tail, []) else (before, '.' :: tail) := by
  have hreverse : (before ++ '.' :: tail).reverse = tail.reverse ++ '.' :: before.reverse := by
    simp
  have htake : (tail.reverse ++ '.' :: before.reverse).takeWhile (· != '.') = tail.reverse := by
    rw [List.takeWhile_append_of_pos]
    · simp
    · intro c hc
      have hmem := List.mem_reverse.mp hc
      exact bne_iff_ne.mpr fun heq => hdot (heq ▸ hmem)
  have hdrop : ((tail.reverse ++ '.' :: before.reverse).drop (tail.reverse.length + 1)).reverse =
      before := by
    rw [List.drop_append, List.drop_eq_nil_of_le (Nat.le_succ _), Nat.add_sub_cancel_left]
    simp
  have hlength : tail.reverse.length ≠ (before ++ '.' :: tail).length := by
    simp only [List.length_reverse, List.length_append, List.length_cons]
    omega
  rw [splitName, hreverse, htake, hdrop, decide_eq_false hlength]
  by_cases hbefore : before = []
  · simp [hbefore]
  · simp [hbefore, htail]

/-- **A name with the ending of source files has it as its suffix, unless it is the ending.** -/
theorem suffix_eq_ending {p : Path} (h : ending.toList <:+ p.name.toList) :
    p.suffix = ending ↔ p.name ≠ ending := by
  obtain ⟨before, hname⟩ := h
  have hsplit : splitName p.name.toList =
      if before = [] then (ending.toList, []) else (before, ending.toList) := by
    have hending : ending.toList = ['.', 'p', 'y'] := by decide
    rw [← hname, hending]
    exact splitName_append before (by simp) (by simp)
  have hbare : p.name = ending ↔ before = [] := by
    rw [← String.toList_inj, ← hname, List.append_left_eq_self]
  rw [suffix, hsplit, ne_eq, hbare]
  by_cases hbefore : before = []
  · rw [if_pos hbefore]
    exact iff_of_false (by decide) (not_not.mpr hbefore)
  · rw [if_neg hbefore]
    exact iff_of_true String.ofList_toList hbefore

end Path

end Disk
end ArchLint
