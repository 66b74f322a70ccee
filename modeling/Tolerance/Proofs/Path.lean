import Tolerance.Proofs.Text.Utf8
import Tolerance.Path

namespace Tolerance

/-!
# Paths that can be looked up

Whether a path has bytes at all is a matter of the code points in its parts, one
by one.  So the directories above such a path can be looked up too, and its
absolute form can.
-/

/-- A code point that the name of a file may hold. -/
def CodePoint.Nameable (point : CodePoint) : Prop :=
  point ≠ 0 ∧
    (point.isSurrogate = true → (Utf8.smuggledByte? point).isSome = true)

instance (point : CodePoint) : Decidable point.Nameable :=
  inferInstanceAs (Decidable (_ ∧ (_ → _)))

/-- A text that may be part of a path. -/
def Text.Nameable (text : Text) : Prop :=
  ∀ point ∈ text, point.Nameable

instance (text : Text) : Decidable text.Nameable :=
  List.decidableBAll _ text

namespace Text

theorem Nameable.append
    {first second : Text}
    (firstNameable : first.Nameable)
    (secondNameable : second.Nameable) :
    (first ++ second).Nameable := by
  intro point member
  rcases List.mem_append.mp member with inFirst | inSecond
  · exact firstNameable point inFirst
  · exact secondNameable point inSecond

/-- Joined texts hold the code points of each of them and of the separator. -/
theorem nameable_join_iff
    {separator : Text}
    (separatorNameable : separator.Nameable)
    (texts : List Text) :
    (join separator texts).Nameable ↔ ∀ text ∈ texts, text.Nameable := by
  induction texts using join.induct with
  | case1 =>
      simp [join, Nameable]
  | case2 last =>
      simp [join]
  | case3 first rest notSingle inductionHypothesis =>
      rw [join, List.forall_mem_cons, ← inductionHypothesis]
      · constructor
        · intro nameable
          exact
            ⟨fun point member => nameable point (by simp [member]),
              fun point member => nameable point (by simp [member])⟩
        · rintro ⟨firstNameable, restNameable⟩
          exact (firstNameable.append separatorNameable).append restNameable
      · exact notSingle

/-- The pieces of a text hold its code points but for the separators. -/
theorem nameable_splitOn_iff
    {separator : CodePoint}
    (separatorNameable : separator.Nameable)
    (text : Text) :
    (∀ piece ∈ text.splitOn separator, Text.Nameable piece) ↔ text.Nameable := by
  induction text with
  | nil =>
      simp [splitOn, Nameable]
  | cons point rest inductionHypothesis =>
      rw [Nameable, List.forall_mem_cons, ← Nameable, ← inductionHypothesis,
        splitOn]
      split
      · next isSeparator =>
          subst isSeparator
          simp [separatorNameable, Nameable]
      · cases splitOn separator rest with
        | nil =>
            simp [Nameable]
        | cons piece pieces =>
            simp only [List.forall_mem_cons, Nameable, and_assoc]

end Text

namespace Utf8

private theorem pathFaultAt_eq_none_iff
    {offset : Nat}
    {text : Text} :
    pathFaultAt offset text = none ↔
      ∀ point ∈ text,
        point.isSurrogate = true → (smuggledByte? point).isSome = true := by
  induction text generalizing offset with
  | nil =>
      simp [pathFaultAt]
  | cons point rest inductionHypothesis =>
      rw [pathFaultAt, List.forall_mem_cons]
      split
      · next stopped =>
          simp_all
      · next passed =>
          rw [inductionHypothesis]
          simpa [Option.isSome_iff_ne_none] using fun _ => passed

private theorem remainder_eq_zero
    {number : Nat}
    (isZero : 0 = UInt8.ofNat number) :
    number % 0x100 = 0 := by
  have same := congrArg UInt8.toNat isZero
  rw [UInt8.toNat_ofNat'] at same
  exact same.symm

/-- Only the null character has a null byte. -/
private theorem zero_mem_encodePathPoint_iff
    (point : CodePoint) :
    0 ∈ encodePathPoint point ↔ point = 0 := by
  constructor
  · intro member
    have limit := point.isLt
    refine Fin.ext ?_
    change point.val = 0
    unfold encodePathPoint at member
    split at member
    · next byte smuggled =>
        unfold smuggledByte? at smuggled
        split at smuggled
        · obtain rfl := Option.some.inj smuggled
          have isZero := remainder_eq_zero (List.mem_singleton.mp member)
          omega
        · cases smuggled
    unfold encodePoint at member
    dsimp only at member
    split at member
    · have isZero := remainder_eq_zero (List.mem_singleton.mp member)
      omega
    split at member
    · simp only [List.mem_cons, List.not_mem_nil, or_false] at member
      rcases member with isZero | isZero <;>
        have := remainder_eq_zero isZero <;> omega
    split at member
    · simp only [List.mem_cons, List.not_mem_nil, or_false] at member
      rcases member with isZero | isZero | isZero <;>
        have := remainder_eq_zero isZero <;> omega
    · simp only [List.mem_cons, List.not_mem_nil, or_false] at member
      rcases member with isZero | isZero | isZero | isZero <;>
        have := remainder_eq_zero isZero <;> omega
  · rintro rfl
    decide

/-- The text of a path is encoded if all its code points are nameable. -/
theorem nameable_iff
    {text : Text} :
    text.Nameable ↔
      pathFaultAt 0 text = none ∧ 0 ∉ text.flatMap encodePathPoint := by
  rw [pathFaultAt_eq_none_iff, List.mem_flatMap]
  simp only [zero_mem_encodePathPoint_iff]
  constructor
  · intro nameable
    refine ⟨fun point member => (nameable point member).2, ?_⟩
    rintro ⟨point, member, isNull⟩
    exact (nameable point member).1 isNull
  · rintro ⟨encoded, noNull⟩ point member
    exact ⟨fun isNull => noNull ⟨point, member, isNull⟩, encoded point member⟩

end Utf8

namespace Path

/-- A path that the system can be asked about. -/
def Accepted (path : Path) : Prop :=
  ∃ bytes, path.encode = .ok bytes

private theorem accepted_iff_nameable_toText
    {path : Path} :
    path.Accepted ↔ path.toText.Nameable := by
  rw [Utf8.nameable_iff, Accepted, encode, Utf8.encodePath]
  cases Utf8.pathFaultAt 0 path.toText with
  | some fault =>
      simp
  | none =>
      by_cases null : 0 ∈ path.toText.flatMap Utf8.encodePathPoint
      · simp only [List.contains_iff_mem.mpr null]
        simp [null]
      · simp [null]

/-- The parts alone decide whether a path is accepted. -/
theorem accepted_iff
    {path : Path} :
    path.Accepted ↔ ∀ part ∈ path.parts, part.Nameable := by
  have anchorNameable : (anchorText path.anchor).Nameable := by
    cases path.anchor <;> decide
  have slashNameable : ("/" : Text).Nameable := by
    decide
  rw [accepted_iff_nameable_toText, toText]
  split
  · next isEmpty =>
      rw [isEmpty.2]
      refine ⟨fun _ _ member => (List.not_mem_nil member).elim, fun _ => ?_⟩
      decide
  · rw [← Text.nameable_join_iff slashNameable]
    refine ⟨fun nameable point member => ?_, anchorNameable.append⟩
    exact nameable point (List.mem_append_right _ member)

/-- A text is accepted as a path if it may be part of one. -/
theorem accepted_ofText_iff
    {text : Text} :
    (ofText text).Accepted ↔ text.Nameable := by
  have slashNameable : CodePoint.Nameable 0x2f := by
    decide
  rw [accepted_iff, ← Text.nameable_splitOn_iff slashNameable]
  constructor
  · intro nameable piece member
    by_cases kept : (!piece.isEmpty && piece ≠ self) = true
    · exact nameable piece (List.mem_filter.mpr ⟨member, kept⟩)
    · -- What a path drops holds nothing or a dot.
      have dropped : piece = [] ∨ piece = self :=
        Decidable.or_iff_not_imp_left.mpr (by simpa using kept)
      rcases dropped with rfl | rfl
      · decide
      · decide
  · intro nameable part member
    exact nameable part (List.mem_filter.mp member).1

instance (path : Path) : Decidable path.Accepted :=
  decidable_of_iff (∀ part ∈ path.parts, part.Nameable) accepted_iff.symm

namespace Accepted

variable {path : Path}

/-- A path of some of the parts is accepted. -/
theorem of_parts
    {other : Path}
    (accepted : path.Accepted)
    (included : ∀ part ∈ other.parts, part ∈ path.parts) :
    other.Accepted :=
  accepted_iff.mpr fun part member =>
    accepted_iff.mp accepted part (included part member)

theorem parent
    (accepted : path.Accepted) :
    path.parent.Accepted :=
  accepted.of_parts fun _ member => List.dropLast_subset _ member

theorem name
    (accepted : path.Accepted) :
    path.name.Nameable := by
  rw [Path.name]
  cases isLast : path.parts.getLast? with
  | none =>
      exact fun _ member => (List.not_mem_nil member).elim
  | some last =>
      exact accepted_iff.mp accepted last (List.mem_of_getLast? isLast)

theorem child
    {part : Text}
    (accepted : path.Accepted)
    (nameable : part.Nameable) :
    (path.child part).Accepted := by
  refine accepted_iff.mpr fun other member => ?_
  rcases List.mem_append.mp member with inside | isLast
  · exact accepted_iff.mp accepted other inside
  · exact List.mem_singleton.mp isLast ▸ nameable

private theorem mem_of_mem_foldl_stepTo
    {visited parts : List Text}
    {part : Text}
    (member : part ∈ parts.foldl stepTo visited) :
    part ∈ visited ∨ part ∈ parts := by
  induction parts generalizing visited with
  | nil =>
      exact Or.inl member
  | cons first parts inductionHypothesis =>
      rcases inductionHypothesis member with visitedBefore | later
      · rw [stepTo] at visitedBefore
        split at visitedBefore
        · exact Or.inl (List.dropLast_subset _ visitedBefore)
        · rcases List.mem_append.mp visitedBefore with earlier | isFirst
          · exact Or.inl earlier
          · exact Or.inr (by simp [List.mem_singleton.mp isFirst])
      · exact Or.inr (List.mem_cons_of_mem _ later)

/-- The absolute form holds parts of the path and of where it is seen from. -/
theorem absolute
    {here : Path}
    (accepted : path.Accepted)
    (hereAccepted : here.Accepted) :
    (path.absolute here).Accepted := by
  refine accepted_iff.mpr fun part member => ?_
  rcases mem_of_mem_foldl_stepTo member with nowhere | inWhole
  · exact (List.not_mem_nil nowhere).elim
  rw [within] at inWhole
  split at inWhole
  · exact accepted_iff.mp accepted part inWhole
  · rcases List.mem_append.mp inWhole with inHere | inPath
    · exact accepted_iff.mp hereAccepted part inHere
    · exact accepted_iff.mp accepted part inPath

end Accepted

end Path

end Tolerance
