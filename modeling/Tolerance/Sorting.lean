namespace Tolerance

/-!
# Sorting by insertion

Records are listed in ascending order of their names.  Insertion keeps equal
elements in the order in which they came, and it computes inside a proof, as the
sort of the core library does not.  Besides the sort itself only that it keeps the
elements is stated here, because maps need it to be well-formed.
-/

namespace Sorting

variable {α : Type}

/-- Put an element in front of the first one that it may precede. -/
def insert (precedes : α → α → Bool) (element : α) : List α → List α
  | [] => [element]
  | first :: rest =>
      if precedes element first then
        element :: first :: rest
      else
        first :: insert precedes element rest

/-- The elements in an order in which each may precede the next. -/
def sort (precedes : α → α → Bool) : List α → List α
  | [] => []
  | first :: rest => insert precedes first (sort precedes rest)

/-- Insertion adds the element and changes nothing else. -/
theorem insert_perm
    (precedes : α → α → Bool)
    (element : α)
    (elements : List α) :
    (insert precedes element elements).Perm (element :: elements) := by
  induction elements with
  | nil =>
      exact List.Perm.refl _
  | cons first rest inductionHypothesis =>
      unfold insert
      split
      · exact List.Perm.refl _
      · exact (inductionHypothesis.cons first).trans
          (List.Perm.swap element first rest)

/-- Sorting neither adds nor loses an element. -/
theorem sort_perm
    (precedes : α → α → Bool)
    (elements : List α) :
    (sort precedes elements).Perm elements := by
  induction elements with
  | nil =>
      exact List.Perm.refl _
  | cons first rest inductionHypothesis =>
      exact (insert_perm precedes first (sort precedes rest)).trans
        (inductionHypothesis.cons first)

/-- Insert into a list that is kept strictly ascending: an element that is there stays single. -/
def insertOnce [DecidableEq α] (precedes : α → α → Bool) (element : α) : List α → List α
  | [] => [element]
  | first :: rest =>
      if element = first then
        first :: rest
      else if precedes element first then
        element :: first :: rest
      else
        first :: insertOnce precedes element rest

/-- The elements in order, each listed once. -/
def sortOnce [DecidableEq α] (precedes : α → α → Bool) (elements : List α) : List α :=
  elements.foldr (insertOnce precedes) []

end Sorting

end Tolerance
