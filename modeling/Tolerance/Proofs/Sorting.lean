import Mathlib.Data.List.Sort
import Tolerance.Sorting
import Tolerance.Text

namespace Tolerance

/-!
# What sorting achieves

The sort of the program is Mathlib's insertion sort, from which it has its
properties.  There is only one ascending list of given elements: the order in
which they came leaves no trace.  Texts are ordered strictly by their code points.
-/

namespace Text

/-- No text stands before itself. -/
theorem lt_irrefl (text : Text) : ¬text < text :=
  List.lt_irrefl text

/-- The order of texts is transitive. -/
theorem lt_trans
    {first second third : Text}
    (earlier : first < second)
    (later : second < third) :
    first < third :=
  List.lt_trans earlier later

/-- Of two texts neither of which stands before the other, there is only one. -/
theorem eq_of_not_lt
    {left right : Text}
    (notBefore : ¬left < right)
    (notAfter : ¬right < left) :
    left = right :=
  List.le_antisymm notAfter notBefore

/-- A text that is not before another one is the same or behind it. -/
theorem lt_of_not_lt_of_ne
    {left right : Text}
    (notAfter : ¬right < left)
    (different : left ≠ right) :
    left < right :=
  Decidable.byContradiction fun notBefore =>
    different (eq_of_not_lt notBefore notAfter)

end Text

namespace Sorting

variable {α : Type}

/-- Any two elements can be put in order, and so can any number of them. -/
structure TotalOrder (precedes : α → α → Bool) : Prop where
  trans :
    ∀ {first second third},
      precedes first second →
      precedes second third →
      precedes first third
  total :
    ∀ {left right},
      ¬precedes left right →
      precedes right left

theorem insert_eq_orderedInsert
    (precedes : α → α → Bool)
    (element : α)
    (elements : List α) :
    insert precedes element elements =
      elements.orderedInsert (fun left right => precedes left right) element := by
  induction elements with
  | nil =>
      rfl
  | cons first rest inductionHypothesis =>
      rw [insert, List.orderedInsert_cons, inductionHypothesis]

/-- Sorting is Mathlib's insertion sort. -/
theorem sort_eq_insertionSort
    (precedes : α → α → Bool)
    (elements : List α) :
    sort precedes elements =
      elements.insertionSort fun left right => precedes left right := by
  induction elements with
  | nil =>
      rfl
  | cons first rest inductionHypothesis =>
      rw [sort, inductionHypothesis, insert_eq_orderedInsert,
        List.insertionSort_cons]

/-- Elements that can be put in order are ascending when they are sorted. -/
theorem TotalOrder.ascending
    {precedes : α → α → Bool}
    (order : TotalOrder precedes)
    (elements : List α) :
    (sort precedes elements).Pairwise
      fun left right => precedes left right := by
  have trans : IsTrans α fun left right => precedes left right :=
    ⟨fun _ _ _ => order.trans⟩
  have total : Std.Total fun left right => (precedes left right : Prop) :=
    ⟨fun _ _ => Classical.or_iff_not_imp_left.mpr order.total⟩
  rw [sort_eq_insertionSort]
  exact List.pairwise_insertionSort _ elements

/-! ## Sorting with each element once -/

/-- A total order in which no two elements can stand either way round. -/
structure UniqueOrder (precedes : α → α → Bool) : Prop extends
    TotalOrder precedes where
  antisymm :
    ∀ {left right},
      precedes left right →
      precedes right left →
      left = right

/-- A list in which each element stands in front of all greater ones, and only once. -/
def StrictlyAscending (precedes : α → α → Bool) (elements : List α) : Prop :=
  elements.Pairwise fun left right => precedes left right ∧ left ≠ right

/-- A strictly ascending list is determined by its elements. -/
theorem StrictlyAscending.eq_of_mem_iff
    {precedes : α → α → Bool}
    (order : UniqueOrder precedes)
    {left right : List α}
    (leftAscending : StrictlyAscending precedes left)
    (rightAscending : StrictlyAscending precedes right)
    (same : ∀ element, element ∈ left ↔ element ∈ right) :
    left = right := by
  have reordered : left.Perm right :=
    (List.perm_ext_iff_of_nodup
      (leftAscending.imp And.right)
      (rightAscending.imp And.right)).mpr same
  refine reordered.eq_of_pairwise ?_ leftAscending rightAscending
  intro first second _ _ before after
  exact order.antisymm before.1 after.1

section Once

variable [DecidableEq α] {precedes : α → α → Bool}

/-- Insertion adds the element and loses none. -/
theorem mem_insertOnce
    {element query : α}
    {elements : List α} :
    query ∈ insertOnce precedes element elements ↔
      query = element ∨ query ∈ elements := by
  induction elements with
  | nil =>
      simp [insertOnce]
  | cons first rest inductionHypothesis =>
      unfold insertOnce
      split
      · next same =>
          simp [same]
      · split
        · exact List.mem_cons
        · rw [List.mem_cons, inductionHypothesis, List.mem_cons]
          exact or_left_comm

/-- Sorting neither adds nor loses an element. -/
@[simp] theorem mem_sortOnce
    {query : α}
    {elements : List α} :
    query ∈ sortOnce precedes elements ↔ query ∈ elements := by
  induction elements with
  | nil =>
      exact Iff.rfl
  | cons first rest inductionHypothesis =>
      rw [List.mem_cons, ← inductionHypothesis]
      exact mem_insertOnce

/-- Insertion into a strictly ascending list leaves it strictly ascending. -/
theorem StrictlyAscending.insertOnce
    (order : UniqueOrder precedes)
    (element : α)
    {elements : List α}
    (ascending : StrictlyAscending precedes elements) :
    StrictlyAscending precedes (insertOnce precedes element elements) := by
  induction elements with
  | nil =>
      exact List.pairwise_singleton _ _
  | cons first rest inductionHypothesis =>
      obtain ⟨firstSmallest, restAscending⟩ := List.pairwise_cons.mp ascending
      unfold Sorting.insertOnce
      split
      · exact ascending
      next different =>
      split
      · next before =>
          refine List.pairwise_cons.mpr ⟨?_, ascending⟩
          intro later member
          rcases List.mem_cons.mp member with rfl | inRest
          · exact ⟨before, different⟩
          · obtain ⟨behindFirst, _⟩ := firstSmallest later inRest
            refine ⟨order.trans before behindFirst, ?_⟩
            rintro rfl
            exact different (order.antisymm before behindFirst)
      · next notBefore =>
          refine List.pairwise_cons.mpr ⟨?_, inductionHypothesis restAscending⟩
          intro later member
          rcases mem_insertOnce.mp member with rfl | inRest
          · exact ⟨order.total notBefore, Ne.symm different⟩
          · exact firstSmallest later inRest

/-- The elements are listed in order, none of them twice. -/
theorem strictlyAscending_sortOnce
    (order : UniqueOrder precedes)
    (elements : List α) :
    StrictlyAscending precedes (sortOnce precedes elements) := by
  induction elements with
  | nil =>
      exact List.Pairwise.nil
  | cons first rest inductionHypothesis =>
      exact inductionHypothesis.insertOnce order first

/-- It makes no difference whether elements are left out before sorting or after it. -/
theorem sortOnce_filter
    (order : UniqueOrder precedes)
    (keep : α → Bool)
    (elements : List α) :
    sortOnce precedes (elements.filter keep) =
      (sortOnce precedes elements).filter keep := by
  refine (strictlyAscending_sortOnce order _).eq_of_mem_iff order
    ((strictlyAscending_sortOnce order elements).filter keep) ?_
  intro element
  simp only [mem_sortOnce, List.mem_filter]

end Once

end Sorting

end Tolerance
