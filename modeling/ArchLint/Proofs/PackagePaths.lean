import ArchLint.Proofs.Paths
import Mathlib.Data.List.TakeWhile

/-!
# Packages seen from a directory

The place of a package is told from a target: it stands beside a target with a suffix and below any
other.  Seen from a directory, the place is what is left of it when the directory is taken away.
Here this is undone: what is left leads back to the place, and there is something left exactly for
the places below the directory.

The place is a path, but it comes from texts and goes through one.  Texts are joined with a slash
only where none is, since a slash too many behind a root would make it another root: `//m` is not
`/m`.

* `Path.rootOf_eq`, `Path.partsOf_append_slash`: the root of a text is told by the slashes in front,
  and its parts by those in between.
* `Path.ofString_joinText`: **joining paths is reading one text after the other**.
* `Path.isEmpty_suffix`: which names have a suffix.
* `packagePath_eq_ofString`, `ofString_toString_packagePath`: the place of a package, told by texts;
  **it is not changed by being written and read**.
* `Path.relativeTo?_eq_some`, `packageFrom_eq_ok`: **a package is seen as the one normal text that
  leads from the directory to its place**.
* `package_leads_back`: when there is such a text, and what it is, in one statement.
-/

namespace ArchLint

namespace Disk

namespace Path

/-! ## Joining texts -/

/-- The text of a path that starts at another: an absolute one stands for itself, and a slash comes
between the two where none is. -/
def joinText (left right : String) : String :=
  if right.toList.head? = some '/' then right
  else if left = "" ∨ left.toList.getLast? = some '/' then left ++ right
  else left ++ "/" ++ right

def leadingSlashes (text : List Char) : Nat :=
  (text.takeWhile (· == '/')).length

@[simp] theorem leadingSlashes_cons (text : List Char) :
    leadingSlashes ('/' :: text) = leadingSlashes text + 1 := by
  simp [leadingSlashes]

theorem leadingSlashes_eq_zero {text : List Char} :
    leadingSlashes text = 0 ↔ text.head? ≠ some '/' := by
  cases text with
  | nil => simp [leadingSlashes]
  | cons c rest => by_cases hc : c = '/' <;> simp [leadingSlashes, hc]

/-- **Two slashes in front are a root of their own**; more of them are the same as one. -/
theorem rootOf_eq (text : List Char) :
    rootOf text =
      if leadingSlashes text = 0 then .none
      else if leadingSlashes text = 2 then .doubleSlash
      else .slash := by
  have hzero : ∀ {rest : List Char}, (∀ tail, rest = '/' :: tail → False) →
      leadingSlashes rest = 0 := by
    intro rest hrest
    refine leadingSlashes_eq_zero.mpr fun hhead => ?_
    obtain ⟨tail, htail⟩ := List.head?_eq_some_iff.mp hhead
    exact hrest tail htail
  unfold rootOf
  split
  · simp
  · rename_i hrest
    simp [hzero hrest]
  · rename_i hrest
    simp [hzero hrest]
  · rename_i hrest
    simp [hzero hrest]

theorem rootOf_eq_none {text : List Char} : rootOf text = .none ↔ text.head? ≠ some '/' := by
  rw [rootOf_eq, ← leadingSlashes_eq_zero]
  split
  · exact iff_of_true rfl ‹_›
  · rename_i hne
    refine iff_of_false ?_ hne
    split <;> simp

theorem rootOf_append_left {left right : List Char} (hne : left ≠ [])
    (h : right.head? = some '/' → left.getLast? ≠ some '/') :
    rootOf (left ++ right) = rootOf left := by
  have hleading : leadingSlashes (left ++ right) = leadingSlashes left := by
    rw [leadingSlashes, leadingSlashes, List.takeWhile_append]
    split
    · rename_i hall
      -- the text is made of slashes, so no slash may follow
      have hslashes : left.takeWhile (· == '/') = left :=
        (List.takeWhile_prefix _).eq_of_length hall
      have hlast : left.getLast? = some '/' := by
        rw [List.getLast?_eq_some_getLast hne]
        have hmem := List.getLast_mem hne
        rw [List.takeWhile_eq_self_iff] at hslashes
        exact congrArg some (beq_iff_eq.mp (hslashes _ hmem))
      have hright : leadingSlashes right = 0 :=
        leadingSlashes_eq_zero.mpr fun hhead => h hhead hlast
      rw [List.length_append, hslashes]
      exact congrArg (left.length + ·) hright
    · rfl
  rw [rootOf_eq, rootOf_eq, hleading]

def partsOf (text : List Char) : List String :=
  ((Text.pieces '/' text).filter fun piece => !piece.isEmpty && piece != ['.']).map String.ofList

theorem ofString_eq (text : String) :
    ofString text = ⟨rootOf text.toList, partsOf text.toList⟩ := rfl

/-- A slash keeps the parts on its sides apart. -/
theorem partsOf_append_slash (left right : List Char) :
    partsOf (left ++ '/' :: right) = partsOf left ++ partsOf right := by
  rw [partsOf, Text.pieces_eq_splitOn, List.splitOn_append_cons_self, List.filter_append,
    List.map_append, ← Text.pieces_eq_splitOn, ← Text.pieces_eq_splitOn]
  rfl

theorem partsOf_append_of_slash {left : List Char} (h : left.getLast? = some '/')
    (right : List Char) : partsOf (left ++ right) = partsOf left ++ partsOf right := by
  obtain ⟨before, rfl⟩ := List.getLast?_eq_some_iff.mp h
  have hleft : partsOf (before ++ ['/']) = partsOf before :=
    (partsOf_append_slash before []).trans (List.append_nil _)
  rw [hleft, List.append_assoc]
  exact partsOf_append_slash before right

theorem isAbsolute_ofString {text : String} :
    (ofString text).isAbsolute = true ↔ text.toList.head? = some '/' := by
  rw [isAbsolute, bne_iff_ne, ne_eq, ofString_eq, rootOf_eq_none, not_not]

/-- **Joining paths is reading one text after the other.** -/
theorem ofString_joinText (left right : String) :
    ofString (joinText left right) = (ofString left).join (ofString right) := by
  unfold joinText join
  by_cases hright : right.toList.head? = some '/'
  · rw [if_pos hright, if_pos (isAbsolute_ofString.mpr hright)]
  · rw [if_neg hright, if_neg (mt isAbsolute_ofString.mp hright)]
    simp only [ofString_eq]
    by_cases hleft : left = ""
    · subst hleft
      rw [if_pos (.inl rfl), String.empty_append, rootOf_eq_none.mpr hright]
      rfl
    · have hne : left.toList ≠ [] := mt String.toList_eq_nil_iff.mp hleft
      by_cases hslash : left.toList.getLast? = some '/'
      · rw [if_pos (.inr hslash), String.toList_append, partsOf_append_of_slash hslash,
          rootOf_append_left hne fun hhead => absurd hhead hright]
      · have htext : (left ++ "/" ++ right).toList = left.toList ++ '/' :: right.toList := by
          simp
        rw [if_neg (not_or.mpr ⟨hleft, hslash⟩), htext, partsOf_append_slash,
          rootOf_append_left hne fun _ => hslash]

/-! ## Names with a suffix -/

/-- The name has a dot that is neither its first nor its last character, and no dot after it. -/
def HasSuffix (p : Path) : Prop :=
  ∃ before tail, p.name.toList = before ++ '.' :: tail ∧ before ≠ [] ∧ tail ≠ [] ∧ '.' ∉ tail

theorem splitName_of_notMem {name : List Char} (h : '.' ∉ name) : splitName name = (name, []) := by
  have hall : name.reverse.takeWhile (· != '.') = name.reverse := by
    rw [List.takeWhile_eq_self_iff]
    intro c hc
    exact bne_iff_ne.mpr fun heq => h (heq ▸ List.mem_reverse.mp hc)
  rw [splitName, hall]
  simp

theorem splitName_concat (before : List Char) :
    splitName (before ++ ['.']) = (before ++ ['.'], []) := by
  simp [splitName]

/-- **A name has a suffix if its last dot has something on both of its sides.** -/
theorem isEmpty_suffix {p : Path} : p.suffix.isEmpty = true ↔ ¬p.HasSuffix := by
  have hsuffix : p.suffix.isEmpty = true ↔ (splitName p.name.toList).2 = [] := by
    rw [String.isEmpty_iff, suffix, String.ofList_eq_empty_iff]
  rw [hsuffix]
  constructor
  · rintro hempty ⟨before, tail, hname, hbefore, htail, hdot⟩
    rw [hname, splitName_append before htail hdot, if_neg hbefore] at hempty
    exact absurd hempty (List.cons_ne_nil _ _)
  · intro hnone
    by_cases hdot : '.' ∈ p.name.toList
    · -- the last dot is the first one from the other end
      obtain ⟨tail, before, hreverse, htail⟩ :=
        List.eq_append_cons_of_mem (List.mem_reverse.mpr hdot)
      have hname : p.name.toList = before.reverse ++ '.' :: tail.reverse := by
        rw [← List.reverse_reverse p.name.toList, hreverse]
        simp
      have hafter : '.' ∉ tail.reverse := mt List.mem_reverse.mp htail
      by_cases hnil : tail.reverse = []
      · rw [hname, hnil, splitName_concat]
      · rw [hname, splitName_append before.reverse hnil hafter]
        by_cases hbefore : before.reverse = []
        · rw [if_pos hbefore]
        · exact absurd ⟨before.reverse, tail.reverse, hname, hbefore, hnil, hafter⟩ hnone
    · rw [splitName_of_notMem hdot]

instance (p : Path) : Decidable p.HasSuffix :=
  decidable_of_iff (¬p.suffix.isEmpty = true) (not_congr isEmpty_suffix |>.trans not_not)

/-! ## Places below a directory -/

theorem IsNormal.parent {p : Path} (h : p.IsNormal) : p.parent.IsNormal :=
  fun part hpart => h part (List.dropLast_subset _ hpart)

theorem IsNormal.join {p q : Path} (hp : p.IsNormal) (hq : q.IsNormal) : (p.join q).IsNormal := by
  unfold Path.join
  split
  · exact hq
  · intro part hpart
    rcases List.mem_append.mp hpart with hpart | hpart
    · exact hp part hpart
    · exact hq part hpart

theorem IsNormal.of_join {p q : Path} (h : (p.join q).IsNormal) : q.IsNormal := by
  unfold Path.join at h
  split at h
  · exact h
  · exact fun part hpart => h part (List.mem_append_right p.parts hpart)

theorem isAbsolute_join (p q : Path) :
    (p.join q).isAbsolute = (q.isAbsolute || p.isAbsolute) := by
  unfold Path.join
  cases hq : q.isAbsolute with
  | false => rfl
  | true => exact hq

/-- The path is absolute, and it starts with the root and the parts of the directory. -/
structure LiesBelow (p directory : Path) : Prop where
  absolute : p.isAbsolute = true
  root : p.root = directory.root
  parts : directory.parts <+: p.parts

/-- **What is left of a path below a directory is the one relative path that leads there.** -/
theorem relativeTo?_eq_some {p directory r : Path} :
    p.relativeTo? directory = some r ↔ r.isAbsolute = false ∧ directory.join r = p := by
  constructor
  · intro h
    refine ⟨?_, join_relativeTo? h⟩
    unfold relativeTo? at h
    split at h
    · obtain rfl := Option.some.inj h
      rfl
    · exact nomatch h
  · rintro ⟨hrelative, rfl⟩
    obtain ⟨root, parts⟩ := r
    obtain rfl : root = .none := by simpa [isAbsolute] using hrelative
    have hjoin : directory.join ⟨.none, parts⟩ = ⟨directory.root, directory.parts ++ parts⟩ := rfl
    rw [hjoin, relativeTo?, if_pos ⟨rfl, List.prefix_append _ _⟩, List.drop_left]

theorem isSome_relativeTo? {p directory : Path} (h : directory.isAbsolute = true) :
    (p.relativeTo? directory).isSome = true ↔ p.LiesBelow directory := by
  unfold relativeTo?
  split
  · rename_i hbelow
    refine iff_of_true rfl ⟨?_, hbelow.1, hbelow.2⟩
    rw [isAbsolute, hbelow.1]
    exact h
  · rename_i hbelow
    exact iff_of_false Bool.false_ne_true fun hlies => hbelow ⟨hlies.root, hlies.parts⟩

end Path

/-! ## Packages -/

section Packages

variable {directory : Path} {target package : String}

theorem packagePath_eq (target package : String) :
    packagePath target package =
      (if (Path.ofString target).HasSuffix then (Path.ofString target).parent
        else .ofString target).join (.ofString package) := by
  simp only [packagePath, Path.isEmpty_suffix, ite_not]

theorem isNormal_packagePath (target package : String) : (packagePath target package).IsNormal := by
  rw [packagePath_eq]
  have htarget := Path.isNormal_ofString target
  refine .join ?_ (Path.isNormal_ofString package)
  split
  · exact htarget.parent
  · exact htarget

theorem packagePath_eq_ofString (target package : String) :
    packagePath target package =
      .ofString (Path.joinText
        (if (Path.ofString target).HasSuffix then (Path.ofString target).parent.toString
          else target) package) := by
  rw [packagePath_eq, Path.ofString_joinText]
  split
  · rw [Path.ofString_toString (Path.isNormal_ofString target).parent]
  · rfl

/-- **The place of a package is not changed by being written and read.** -/
theorem ofString_toString_packagePath (target package : String) :
    Path.ofString (packagePath target package).toString = packagePath target package :=
  Path.ofString_toString (isNormal_packagePath target package)

theorem packageFrom_of_some {below : Path}
    (h : (packagePath target package).relativeTo? directory = some below) :
    packageFrom directory target package = .ok below.toString := by
  unfold packageFrom
  rw [ofString_toString_packagePath]
  simp only [h]

theorem packageFrom_of_none (h : (packagePath target package).relativeTo? directory = none) :
    packageFrom directory target package = .error ⟨packagePath target package, directory⟩ := by
  unfold packageFrom
  rw [ofString_toString_packagePath]
  simp only [h]

/-- **A package is seen as the one normal relative text that leads to its place.** -/
theorem packageFrom_eq_ok {r : String} :
    packageFrom directory target package = .ok r ↔
      (Path.ofString r).isAbsolute = false ∧ (Path.ofString r).toString = r ∧
        directory.join (.ofString r) = packagePath target package := by
  constructor
  · intro h
    cases hbelow : (packagePath target package).relativeTo? directory with
    | none =>
      rw [packageFrom_of_none hbelow] at h
      exact nomatch h
    | some below =>
      rw [packageFrom_of_some hbelow] at h
      obtain rfl := Except.ok.inj h
      obtain ⟨hrelative, hjoin⟩ := Path.relativeTo?_eq_some.mp hbelow
      have hnormal : below.IsNormal := .of_join (hjoin ▸ isNormal_packagePath target package)
      rw [Path.ofString_toString hnormal]
      exact ⟨hrelative, rfl, hjoin⟩
  · rintro ⟨hrelative, htext, hjoin⟩
    rw [packageFrom_of_some (Path.relativeTo?_eq_some.mpr ⟨hrelative, hjoin⟩), htext]

theorem exists_packageFrom_iff (h : directory.isAbsolute = true) :
    (∃ r, packageFrom directory target package = .ok r) ↔
      (packagePath target package).LiesBelow directory := by
  rw [← Path.isSome_relativeTo? h]
  cases hbelow : (packagePath target package).relativeTo? directory with
  | none =>
    rw [packageFrom_of_none hbelow]
    exact iff_of_false (fun ⟨_, hr⟩ => nomatch hr) Bool.false_ne_true
  | some below => exact iff_of_true ⟨_, packageFrom_of_some hbelow⟩ rfl

/-- **A place elsewhere is refused**, by its path and the directory. -/
theorem packageFrom_of_not_liesBelow (h : directory.isAbsolute = true)
    (hplace : ¬(packagePath target package).LiesBelow directory) :
    packageFrom directory target package = .error ⟨packagePath target package, directory⟩ := by
  rw [← Path.isSome_relativeTo? h, Option.not_isSome_iff_eq_none] at hplace
  exact packageFrom_of_none hplace

theorem isAbsolute_packagePath (target package : String) :
    (packagePath target package).isAbsolute =
      ((Path.ofString package).isAbsolute || (Path.ofString target).isAbsolute) := by
  rw [packagePath_eq, Path.isAbsolute_join]
  split <;> rfl

end Packages

end Disk

open Disk (Path packageFrom)

/-- **Packages seen from a directory.**  The place of a package is told by its target, of which only
the directory counts when it has a suffix; joining and reading are the same for paths and for texts.
From an absolute directory, such as the current one of a disk, a package is seen exactly when its
place is absolute and starts with the root and the parts of the directory.  What is seen is the one
normal relative text that leads from the directory to the place.  Every other place is refused, and
so is any relative package of a relative target. -/
theorem package_leads_back (directory : Path) (target package : String)
    (h : directory.isAbsolute = true) :
    ∃ place : Path, place.IsNormal ∧
      place = (if (Path.ofString target).HasSuffix then (Path.ofString target).parent
        else .ofString target).join (.ofString package) ∧
      place = .ofString (Path.joinText
        (if (Path.ofString target).HasSuffix then (Path.ofString target).parent.toString
          else target) package) ∧
      ((∃ r, packageFrom directory target package = .ok r) ↔ place.LiesBelow directory) ∧
      (∀ r, packageFrom directory target package = .ok r ↔
        (Path.ofString r).isAbsolute = false ∧ (Path.ofString r).toString = r ∧
          directory.join (.ofString r) = place) ∧
      (¬place.LiesBelow directory →
        packageFrom directory target package = .error ⟨place, directory⟩) ∧
      ((Path.ofString target).isAbsolute = false → (Path.ofString package).isAbsolute = false →
        packageFrom directory target package = .error ⟨place, directory⟩) := by
  refine ⟨Disk.packagePath target package, Disk.isNormal_packagePath target package,
    Disk.packagePath_eq target package, Disk.packagePath_eq_ofString target package,
    Disk.exists_packageFrom_iff h, fun _ => Disk.packageFrom_eq_ok,
    Disk.packageFrom_of_not_liesBelow h, ?_⟩
  intro htarget hpackage
  refine Disk.packageFrom_of_not_liesBelow h fun hplace => ?_
  have habsolute := hplace.absolute
  rw [Disk.isAbsolute_packagePath, htarget, hpackage] at habsolute
  exact Bool.false_ne_true habsolute

/-- A disk whose current directory lies two steps below the top. -/
def homeDisk : Disk :=
  .empty ["home", "me"]

theorem package_leads_back_home :
    homeDisk.currentPath.isAbsolute = true ∧
      homeDisk.relativePackage "/home//me/./pkg/a.py" "x//y/." = .ok "pkg/x/y" ∧
      homeDisk.currentPath.join (.ofString "pkg/x/y") = .ofString "/home/me/pkg/x/y" ∧
      homeDisk.relativePackage "pkg/a.py" "x" =
        .error ⟨.ofString "pkg/x", homeDisk.currentPath⟩ := by
  have habsolute : homeDisk.currentPath.isAbsolute = true := rfl
  refine ⟨habsolute, ?_, by decide +kernel, ?_⟩
  · obtain ⟨_, _, rfl, _, _, hseen, _⟩ :=
      package_leads_back homeDisk.currentPath "/home//me/./pkg/a.py" "x//y/." habsolute
    exact (hseen "pkg/x/y").mpr (by decide +kernel)
  · obtain ⟨_, _, _, rfl, _, _, _, hrelative⟩ :=
      package_leads_back homeDisk.currentPath "pkg/a.py" "x" habsolute
    have hplace : Path.ofString (Path.joinText
        (if (Path.ofString "pkg/a.py").HasSuffix then (Path.ofString "pkg/a.py").parent.toString
          else "pkg/a.py") "x") = .ofString "pkg/x" := by decide +kernel
    rw [← hplace]
    exact hrelative (by decide +kernel) (by decide +kernel)

end ArchLint
