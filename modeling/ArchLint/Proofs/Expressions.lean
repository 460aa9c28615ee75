import ArchLint.Proofs.Writing

/-!
# Printing of well-formed expressions

A rule that writes the printed fields one by one stops exactly when one of them does.  Three rules
do more with what they print: literals are spelled, and the parts of a formatted text and the
expression of a replacement field are joined first.

* `Node.prints`: **a well-formed expression is printed unless an obstacle stands in it**.
-/

namespace ArchLint.Syntax

open ArchLint.Text (Letter Letters)

/-! ## Literals and formatted text -/

theorem Form.sound_spelled (form : Form) (c : Constant) :
    Sound (c.isTooLong = true) [form.spelled (.other c)] := by
  unfold Form.spelled
  split
  · rename_i t heq
    obtain rfl : c = .text t := Slot.other.inj heq
    refine Sound.congr (a := False) ?_ (by simp [Constant.isTooLong])
    split
    · exact Sound.nil.text _
    · exact Sound.nil.str _
  · rename_i d _ heq
    obtain rfl : c = d := Slot.other.inj heq
    split
    · rename_i hlong
      exact (Sound.stop rfl).congr (by simp [hlong])
    · rename_i hlong
      exact (Sound.nil.str _).congr (by simp [hlong])
  · rename_i hother
    exact absurd rfl (hother c)

theorem Form.sound_conversion {code : Int} (h : code ∈ conversionCodes) :
    Sound False (Form.conversion (.other (.int code))) := by
  rw [conversionCodes] at h
  simp only [List.mem_cons, List.not_mem_nil, or_false] at h
  rcases h with rfl | rfl | rfl | rfl
  · exact Sound.nil
  · exact Sound.nil.text _
  · exact Sound.nil.text _
  · exact Sound.nil.text _

namespace Ready

variable {n : Node}

theorem literal (h : Ready .constant n) : ∃ c, n.slot .value = .other c ∧
    (c.isTooLong = true ↔ n.Blocked) := by
  have hfits : Shape.literal.fits (n.field .value) = true := h.fits rfl
  obtain ⟨c, hc⟩ := Shape.eq_of_fits_literal hfits
  refine ⟨c, by rw [Node.slot, hc, Value.slot], ?_⟩
  have hobstacle : n.isObstacle = c.isTooLong := by
    rw [Node.isObstacle, h.kind_eq, hc]
  have hblocked : n.isObstacle = true ∨ False ↔ n.Blocked := h.blocked_iff rfl
  rw [← hblocked, or_false, hobstacle]

theorem constant (h : Ready .constant n) (style : Style) :
    Sound n.Blocked (n.form style).constant := by
  obtain ⟨c, hc, hblocked⟩ := h.literal
  refine Sound.congr (h.need rfl ?_) hblocked
  rw [hc]
  split
  · rename_i heq
    obtain rfl : c = .ellipsis := Slot.other.inj heq
    exact (Sound.nil.str _).congr (by simp [Constant.isTooLong])
  · refine h.need rfl (Sound.quiet_append ?_ (Form.sound_spelled _ c))
    exact (Sound.nil.str _).ite Sound.nil

theorem formattedValue_isSound (h : Ready .formattedValue n) :
    conversionCodes.any (fun code => n.field .conversion == .int code) = true ∧
      (n.field .formatSpec).nodes.all (·.kind = .joinedStr) = true := by
  have hsound := Node.isSound_of_isProper h.proper
  rw [Node.isSound, h.kind_eq] at hsound
  exact Bool.and_eq_true_iff.mp hsound

theorem conversion (h : Ready .formattedValue n) :
    Sound False (Form.conversion (n.slot .conversion)) := by
  obtain ⟨code, hmem, hcode⟩ := List.any_eq_true.mp h.formattedValue_isSound.1
  have hslot : n.slot .conversion = .other (.int code) := by
    rw [Node.slot, eq_of_beq hcode]
    rfl
  rw [hslot]
  exact Form.sound_conversion hmem

theorem format? (h : Ready .formattedValue n) :
    n.slot .formatSpec = .other .none ∨
      ∃ c ∈ n.children, n.slot .formatSpec = .node c c.show ∧ c.suits .part = true := by
  rcases h.node? .formatSpec rfl with hnone | ⟨c, hc, hslot, _, hnode⟩
  · exact Or.inl hnone
  · have hjoined := List.all_eq_true.mp h.formattedValue_isSound.2 c hnode
    refine Or.inr ⟨c, hc, hslot, ?_⟩
    rw [Node.suits, Bool.or_eq_true]
    exact Or.inr hjoined

theorem formatSpec (h : Ready .formattedValue n) (style : Style) :
    Sound (n.slot .formatSpec).Blocked
      (if (n.slot .formatSpec).isSet then .str ":" :: (n.slot .formatSpec).part style else []) := by
  rcases h.format? with hnone | ⟨c, hc, hslot, hsuits⟩
  · rw [hnone]
    exact Sound.nil.congr Slot.blocked_other.symm
  · rw [hslot, Slot.blocked_node]
    exact Sound.str _ (h.prints c hc _ hsuits)

/-- A replacement field stops at its expression, at a backslash in it, or at its format. -/
theorem replacement (h : Ready .formattedValue n) (style : Style) :
    Sound n.Blocked (n.form style).replacement := by
  have hvalue := h.one .value rfl rfl
  have hanswers : Answers (n.slot .value).Blocked
      (assemble ((n.slot .value).pieces fieldStyle)) := by
    obtain ⟨c, hslot, hprints⟩ := hvalue
    rw [hslot, Slot.blocked_node]
    exact (hprints fieldStyle rfl).assemble
  have hblocked : n.isObstacle = true ∨ (n.slot .value).Blocked ∨ (n.slot .formatSpec).Blocked ↔
      n.Blocked := h.blocked_iff rfl
  refine Sound.str _ (h.need rfl ?_)
  rw [hvalue.settled, List.nil_append, ← fieldStyle]
  rcases hanswers with ⟨hno, t, ht⟩ | ⟨hyes, fault, hfault, ht⟩
  · have hobstacle : n.isObstacle = t.contains (.char '\\') := by
      rw [Node.isObstacle, h.kind_eq]
      dsimp only
      rw [← Node.slot, ht]
    rw [ht]
    dsimp only
    cases hback : t.contains (.char '\\') with
    | true =>
      rw [hback] at hobstacle
      exact (Sound.stop rfl).congr (by simp [← hblocked, hobstacle])
    | false =>
      rw [hback] at hobstacle
      have hrest : (n.slot .formatSpec).Blocked ↔ n.Blocked := by
        simp [← hblocked, hobstacle, hno]
      refine Sound.congr (Sound.quiet_append ?_ (Sound.text t (h.need rfl ?_))) hrest
      · exact (Sound.nil.str _).ite Sound.nil
      · refine Sound.quiet_append h.conversion (h.need rfl ?_)
        exact (h.formatSpec style).append_quiet (Sound.nil.str _)
  · rw [ht]
    exact (Sound.stop hfault).congr (by simp [← hblocked, hyes])

theorem textParts (h : Ready .joinedStr n) :
    ∃ ns : List Node, n.slot .values = .list (ns.map fun c => .node c c.show) ∧
      ∀ c ∈ ns, c ∈ n.children ∧ c.kind.family = some .expression ∧ c.suits .part = true := by
  obtain ⟨ns, hns, hnodes, hall, _⟩ := h.nodes .values rfl
  have hparts : (n.field .values).nodes.all Node.isTextPart = true := by
    have hsound := Node.isSound_of_isProper h.proper
    rwa [Node.isSound, h.kind_eq] at hsound
  refine ⟨ns, hns, fun c hc => ⟨(hall c hc).1, (hall c hc).2, ?_⟩⟩
  rw [Node.suits, Bool.or_eq_true]
  exact Or.inl (List.all_eq_true.mp hparts c (hnodes ▸ hc))

theorem parts (h : Ready .joinedStr n) :
    ∃ items, n.slot .values = .list items ∧
      (∀ slot ∈ items, ∀ style, Sound slot.Blocked (slot.part style)) ∧
      ((∃ slot ∈ items, slot.Blocked) ↔ n.Blocked) := by
  obtain ⟨ns, hns, hall⟩ := h.textParts
  have hblocked : (n.slot .values).Blocked ↔ n.Blocked := h.blocked rfl
  refine ⟨_, hns, ?_, ?_⟩
  · intro slot hslot style
    obtain ⟨c, hc, rfl⟩ := List.mem_map.mp hslot
    rw [Slot.blocked_node]
    exact h.prints c (hall c hc).1 _ (hall c hc).2.2
  · refine (Slot.blocked_items hns ?_).trans hblocked
    intro slot hslot
    obtain ⟨c, hc, rfl⟩ := List.mem_map.mp hslot
    exact h.isPrinted (hall c hc).1 (hall c hc).2.1 rfl

theorem joined (h : Ready .joinedStr n) (style : Style) :
    Sound n.Blocked (n.form style).joined := by
  obtain ⟨items, hitems, hparts, hblocked⟩ := h.parts
  have hresults := Answers.mapM fun slot (hslot : slot ∈ items) =>
    (hparts slot hslot (n.form style).style).assemble.map fun t =>
      (t, slot.kind? == some .constant)
  refine Sound.str _ (h.need rfl ?_)
  rw [hitems, Form.each]
  dsimp only [Slot.items?]
  rcases hresults.congr hblocked with ⟨hno, texts, htexts⟩ | ⟨hyes, fault, hfault, htexts⟩
  · rw [htexts]
    exact (Sound.nil.text _).congr (by simp [hno])
  · rw [htexts]
    exact (Sound.stop hfault).congr (by simp [hyes])

theorem joinedPart (h : Ready .joinedStr n) (style : Style) :
    Sound n.Blocked (n.form style).asPart := by
  obtain ⟨kind, line, fields⟩ := n
  obtain rfl : kind = .joinedStr := h.kind_eq
  obtain ⟨items, hitems, hparts, hblocked⟩ := h.parts
  refine h.need rfl ?_
  rw [hitems]
  exact (Sound.flatMap fun slot hslot => hparts slot hslot style).congr hblocked

theorem textPart (h : Ready .constant n) (htext : (n.field .value).text?.isSome = true)
    (style : Style) : Sound n.Blocked (n.form style).asPart := by
  obtain ⟨kind, line, fields⟩ := n
  obtain rfl : kind = .constant := h.kind_eq
  obtain ⟨c, hc, hblocked⟩ := h.literal
  obtain ⟨t, ht⟩ := Value.eq_text_of_text? htext
  have hslot : (Node.mk .constant line fields).slot .value = .other (.text t) := by
    rw [Node.slot, ht, Value.slot]
  rw [hslot] at hc
  obtain rfl := Slot.other.inj hc
  refine h.need rfl ?_
  rw [hslot]
  exact (Sound.nil.text _).congr ((by simp [Constant.isTooLong] : False ↔ _).trans hblocked)

theorem asPart {kind : Kind} (h : Ready kind n) (hsuits : n.suits .part = true) (style : Style) :
    Sound n.Blocked (n.form style).asPart := by
  rw [Node.suits, Node.isTextPart, Bool.or_eq_true, Bool.or_eq_true, Bool.and_eq_true,
    decide_eq_true_eq, decide_eq_true_eq, decide_eq_true_eq] at hsuits
  rcases hsuits with (hkind | ⟨hkind, htext⟩) | hkind
  · obtain rfl : kind = .formattedValue := h.kind_eq.symm.trans hkind
    obtain ⟨kind, line, fields⟩ := n
    obtain rfl : kind = .formattedValue := hkind
    exact h.replacement style
  · obtain rfl : kind = .constant := h.kind_eq.symm.trans hkind
    exact h.textPart htext style
  · obtain rfl : kind = .joinedStr := h.kind_eq.symm.trans hkind
    exact h.joinedPart style

end Ready

/-! ## All rules -/

theorem Ready.sound_ordinary {kind : Kind} {n : Node} (h : Ready kind n) {style : Style}
    (hplace : style.place = .ordinary) (hp : kind.family.any Family.isPrinted = true) :
    Sound n.Blocked (n.show style) := by
  have hstyle : (n.form style).style.place = .ordinary := hplace
  by_cases hleaf : kind = .constant ∨ kind = .formattedValue ∨ kind = .joinedStr
  · obtain ⟨given, line, fields⟩ := n
    obtain rfl : given = kind := h.kind_eq
    rw [Node.show_eq, Form.rule, hstyle]
    rcases hleaf with rfl | rfl | rfl
    · exact (h.constant style).append_quiet Sound.nil
    · exact (h.replacement style).append_quiet Sound.nil
    · exact (h.joined style).append_quiet Sound.nil
  · rw [not_or, not_or] at hleaf
    refine h.sound_composed (by rw [hplace]; rfl) ?_
    simp [Kind.isComposed, hp, hleaf]

/-- **A well-formed expression is printed unless an obstacle stands in it.** -/
theorem Node.prints {n : Node} (h : n.isWellFormed = true) : n.Prints := by
  induction n using Node.childInduction with
  | step n ih =>
    obtain ⟨hproper, hchildren⟩ := Node.isWellFormed_iff.mp h
    have hready : Ready n.kind n := ⟨rfl, hproper, hchildren, fun c hc => ih c hc (hchildren c hc)⟩
    intro style hsuits
    cases hplace : style.place with
    | ordinary =>
      rw [hplace] at hsuits
      exact hready.sound_ordinary hplace hsuits
    | part =>
      rw [hplace] at hsuits
      have hstyle : (n.form style).style.place = .part := hplace
      rw [Node.show_eq, Form.rule, hstyle]
      exact hready.asPart hsuits style
    | rest | namedRest =>
      rw [hplace, Node.suits, decide_eq_true_eq] at hsuits
      refine hready.sound_composed ?_ (by rw [hsuits]; rfl)
      rw [hplace]
      exact decide_eq_true hsuits
    | elseIf =>
      rw [hplace] at hsuits
      exact absurd hsuits Bool.false_ne_true

theorem Node.ready {n : Node} (h : n.isWellFormed = true) : Ready n.kind n := by
  obtain ⟨hproper, hchildren⟩ := Node.isWellFormed_iff.mp h
  exact ⟨rfl, hproper, hchildren, fun c hc => Node.prints (hchildren c hc)⟩

end ArchLint.Syntax
