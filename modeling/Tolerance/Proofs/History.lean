import Tolerance.Proofs.Acceptance

namespace Tolerance.Baseline

/-!
# A baseline over many runs

Each run loads the baseline that the run before it left, and an update or a
tightening saves what it made of it.  Whatever was there at first, and whoever
wrote it, from the first such run on the file is the text of a canonical
baseline, and each of its counts goes back to the first file or to one of the
runs.
-/

open Diagnostic Workspace Outcome

/-- What one run does with the baseline, given what it saw. -/
inductive Action where
  | check (diagnostics : List Diagnostic)
  | update (diagnostics : List Diagnostic)
  | tighten (diagnostics : List Diagnostic)
  deriving Repr, DecidableEq

namespace Action

/-- What was seen. -/
def diagnostics : Action → List Diagnostic
  | .check diagnostics => diagnostics
  | .update diagnostics => diagnostics
  | .tighten diagnostics => diagnostics

/-- Whether the baseline is saved. -/
def revises : Action → Bool
  | .check _ => false
  | .update _ => true
  | .tighten _ => true

/-- The baseline after a run. -/
def revise (current : Baseline) : Action → Baseline
  | .check _ => current
  | .update diagnostics => current.absorb diagnostics
  | .tighten diagnostics => current.tighten diagnostics

/-- Save the baseline that a run leaves, unless it leaves it alone. -/
def store (path : Path) (current : Baseline) (action : Action) : StorageAccess Unit :=
  if action.revises then save path (action.revise current) else pure ()

/-- Load the baseline, revise it and save it. -/
def perform (path : Path) (room : Room) (action : Action) : StorageAccess Unit := do
  match load (← get) path room with
  | .error error => throw error
  | .ok current => action.store path current

/-- Perform one run after the other. -/
def performAll (path : Path) (room : Room) : List Action → StorageAccess Unit
  | [] => pure ()
  | action :: later => do
      action.perform path room
      performAll path room later

/-- Whether no run fails to save what it made of the baseline that it loaded. -/
def savesSucceed (path : Path) (room : Room) : List Action → Workspace → Bool
  | [], _ => true
  | action :: later, before =>
      match load before path room with
      | .error _ => true
      | .ok current =>
          match action.store path current before with
          | .error _ _ => false
          | .ok _ after => savesSucceed path room later after

/-- Names that were seen hold no surrogates that would be joined. -/
def SurrogatesApart (action : Action) : Prop :=
  ∀ diagnostic ∈ action.diagnostics,
    diagnostic.filename.SurrogatesApart ∧ diagnostic.rule.SurrogatesApart

instance (action : Action) : Decidable action.SurrogatesApart :=
  List.decidableBAll _ action.diagnostics

variable {action : Action} {current : Baseline}

theorem canonical_revise
    (revises : action.revises = true)
    (current : Baseline) :
    (action.revise current).Canonical := by
  cases action with
  | check diagnostics => cases revises
  | update diagnostics => exact canonical_absorb current diagnostics
  | tighten diagnostics => exact canonical_tighten current diagnostics

/-- A count after a run was there before, or it is what this run saw. -/
theorem get?_revise_eq_some
    {filename rule : Text}
    {count : Int}
    (found : (action.revise current).get? filename rule = some count) :
    current.get? filename rule = some count ∨
      action.revises = true ∧
        occurrences action.diagnostics filename rule ≠ 0 ∧
          count = occurrences action.diagnostics filename rule := by
  cases action with
  | check diagnostics =>
      exact Or.inl found
  | update diagnostics =>
      rw [revise] at found
      by_cases seen : filename ∈ diagnostics.map Diagnostic.filename
      · rw [get?_absorb_of_mem seen, get?_observed] at found
        split at found
        · cases found
        · next some =>
            cases found
            exact Or.inr ⟨rfl, some, rfl⟩
      · rw [get?_absorb_of_not_mem seen] at found
        exact Or.inl found
  | tighten diagnostics =>
      rw [revise, get?_tighten] at found
      obtain ⟨tolerated, foundBefore, left⟩ := Option.bind_eq_some_iff.mp found
      unfold tightenedCount at left
      split at left
      · cases left
      next some =>
      split at left
      · cases left
        exact Or.inr ⟨rfl, some, rfl⟩
      · cases left
        exact Or.inl foundBefore

theorem nonnegative_revise
    (nonnegative : current.Nonnegative)
    (action : Action) :
    (action.revise current).Nonnegative := by
  rw [nonnegative_iff] at nonnegative ⊢
  intro filename rule count found
  rcases get?_revise_eq_some found with foundBefore | ⟨_, _, rfl⟩
  · exact nonnegative filename rule count foundBefore
  · exact Int.natCast_nonneg _

theorem surrogatesApart_revise
    (apart : current.SurrogatesApart)
    (actionApart : action.SurrogatesApart) :
    Ledger.SurrogatesApart (action.revise current) := by
  rw [Ledger.surrogatesApart_iff] at apart ⊢
  intro filename rule count found
  rcases get?_revise_eq_some found with foundBefore | ⟨_, some, _⟩
  · exact apart filename rule count foundBefore
  · obtain ⟨diagnostic, member, rfl, rfl⟩ := occurrences_ne_zero_iff.mp some
    exact actionApart diagnostic member

/-- The baseline after several runs, one after the other. -/
def reviseAll (current : Baseline) (actions : List Action) : Baseline :=
  actions.foldl revise current

/-- A count after several runs was there before, or it is what one of them saw. -/
theorem get?_reviseAll_eq_some
    {actions : List Action}
    {filename rule : Text}
    {count : Int}
    (found : (reviseAll current actions).get? filename rule = some count) :
    current.get? filename rule = some count ∨
      ∃ action ∈ actions,
        action.revises = true ∧
          count = occurrences action.diagnostics filename rule := by
  induction actions generalizing current with
  | nil =>
      exact Or.inl found
  | cons action later inductionHypothesis =>
      rcases inductionHypothesis found with
        foundNext | ⟨other, member, revised, same⟩
      · rcases get?_revise_eq_some foundNext with
          foundBefore | ⟨revised, _, same⟩
        · exact Or.inl foundBefore
        · exact Or.inr ⟨action, List.mem_cons_self, revised, same⟩
      · exact
          Or.inr ⟨other, List.mem_cons_of_mem _ member, revised, same⟩

end Action

/--
The file at a path holds the text of a canonical baseline, and it got there by
replacing what was there.
-/
structure Kept
    (path : Path)
    (baseline : Baseline)
    (workspace : Workspace) :
    Prop where
  canonical : baseline.Canonical
  nonnegative : baseline.Nonnegative
  replaced :
    ∃ text before,
      baseline.fileText = .ok text ∧
        Replaced path (text.flatMap Utf8.encodePoint) before workspace

namespace Kept

variable {path : Path} {baseline : Baseline} {workspace : Workspace}

/-- A kept baseline is loaded as it is. -/
theorem load_eq
    (kept : Kept path baseline workspace)
    (apart : baseline.SurrogatesApart)
    (room : Room) :
    load workspace path room = .ok baseline := by
  obtain ⟨text, _, wrote, replaced⟩ := kept.replaced
  obtain ⟨_, statusIs⟩ := replaced.status_eq
  have read := ofFileBytes_fileText kept.nonnegative apart wrote path room
  rw [kept.canonical.sorted_pruneEmpty_eq] at read
  exact load_of_status statusIs read

/-- Saving a kept baseline again leaves the same bytes. -/
theorem exists_run_save
    (kept : Kept path baseline workspace) :
    ∃ text last,
      baseline.fileText = .ok text ∧
        workspace.readFile path = .ok (text.flatMap Utf8.encodePoint) ∧
          (save path baseline).run workspace = .ok () last ∧
            last.readFile path = .ok (text.flatMap Utf8.encodePoint) := by
  obtain ⟨text, _, wrote, replaced⟩ := kept.replaced
  obtain ⟨last, ran⟩ :=
    replaced.exists_run_again (text.flatMap Utf8.encodePoint)
  refine
    ⟨text, last, wrote, replaced.readFile_eq, ?_,
      (replaced_of_run_replaceContents ran).readFile_eq⟩
  rw [save, saveDespite, wrote]
  dsimp only
  rw [EStateM.run_adaptExcept, ran]

end Kept

namespace Action

variable {path : Path} {room : Room} {before after : Workspace}
  {current : Baseline} {action : Action} {actions : List Action}

/-- A run that revises the baseline keeps what it made of it. -/
theorem kept_of_run_store
    (revised : action.revises = true)
    (nonnegative : current.Nonnegative)
    (stored : (action.store path current).run before = .ok () after) :
    Kept path (action.revise current) after := by
  rw [store, if_pos revised] at stored
  obtain ⟨text, wrote, replaced⟩ := exists_replaced_of_run_saveDespite stored
  exact
    ⟨canonical_revise revised current, nonnegative_revise nonnegative action,
      text, before, wrote, replaced⟩

/-- A check leaves the baseline and its file alone. -/
theorem unchanged_of_run_store
    (check : action.revises = false)
    (stored : (action.store path current).run before = .ok () after) :
    action.revise current = current ∧ after = before := by
  cases action with
  | check diagnostics =>
      cases stored
      exact ⟨rfl, rfl⟩
  | update diagnostics => cases check
  | tighten diagnostics => cases check

/-- After a run its baseline is loaded. -/
theorem load_of_run_store
    (loaded : load before path room = .ok current)
    (apart : current.SurrogatesApart)
    (actionApart : action.SurrogatesApart)
    (stored : (action.store path current).run before = .ok () after) :
    load after path room = .ok (action.revise current) := by
  cases revised : action.revises with
  | true =>
      exact
        (kept_of_run_store revised (nonnegative_of_load loaded) stored).load_eq
          (surrogatesApart_revise apart actionApart) room
  | false =>
      obtain ⟨same, rfl⟩ := unchanged_of_run_store revised stored
      rw [same]
      exact loaded

/-- A run is performed if it loads a baseline and saves what it makes of it. -/
theorem run_perform
    (loaded : load before path room = .ok current)
    (stored : (action.store path current).run before = .ok () after) :
    (action.perform path room).run before = .ok () after := by
  rw [perform, EStateM.run_bind, EStateM.run_get]
  dsimp only
  rw [loaded]
  exact stored

/--
If no run fails to save, every run is performed and leaves its baseline to the
next one.  The induction is on the runs, each from the baseline that it loads.
-/
theorem exists_run_performAll
    (loaded : load before path room = .ok current)
    (apart : current.SurrogatesApart)
    (actionsApart : ∀ action ∈ actions, action.SurrogatesApart)
    (succeed : savesSucceed path room actions before = true) :
    ∃ after,
      (performAll path room actions).run before = .ok () after ∧
        load after path room = .ok (reviseAll current actions) ∧
          (Kept path current before ∨
              (∃ action ∈ actions, action.revises = true) →
            Kept path (reviseAll current actions) after) := by
  induction actions generalizing before current with
  | nil =>
      exact ⟨before, rfl, loaded, by simp [reviseAll]⟩
  | cons action later inductionHypothesis =>
      obtain ⟨actionApart, laterApart⟩ := List.forall_mem_cons.mp actionsApart
      rw [savesSucceed, loaded] at succeed
      dsimp only at succeed
      split at succeed
      · cases succeed
      next between stored =>
      have loadedNext := load_of_run_store loaded apart actionApart stored
      obtain ⟨after, ran, loadedLast, keeps⟩ :=
        inductionHypothesis loadedNext
          (surrogatesApart_revise apart actionApart) laterApart succeed
      refine ⟨after, ?_, loadedLast, fun keptOrRevised => keeps ?_⟩
      · rw [performAll, run_bind_eq_ok_iff]
        exact ⟨(), between, run_perform loaded stored, ran⟩
      cases revised : action.revises with
      | true =>
          exact
            Or.inl
              (kept_of_run_store revised (nonnegative_of_load loaded) stored)
      | false =>
          obtain ⟨same, rfl⟩ := unchanged_of_run_store revised stored
          rcases keptOrRevised with kept | ⟨other, member, otherRevised⟩
          · refine Or.inl ?_
            rw [same]
            exact kept
          · rcases List.mem_cons.mp member with rfl | inLater
            · rw [revised] at otherRevised
              cases otherRevised
            · exact Or.inr ⟨other, inLater, otherRevised⟩

/-- If all saves succeed the first ones do. -/
theorem savesSucceed_of_append
    {earlier later : List Action}
    (succeed : savesSucceed path room (earlier ++ later) before = true) :
    savesSucceed path room earlier before = true := by
  induction earlier generalizing before with
  | nil =>
      rfl
  | cons action earlier inductionHypothesis =>
      rw [List.cons_append, savesSucceed] at succeed
      rw [savesSucceed]
      split at succeed
      · rfl
      · split at succeed
        · cases succeed
        · exact inductionHypothesis succeed

end Action

/--
Start from any file from which a baseline is loaded, or from none, and let runs
follow each other, whatever they see.  As long as they can save what they made,
each of them loads a baseline whose counts go back to the first one or to what a
run before it saw.  As soon as one run has revised the baseline, the file is the
text of a canonical baseline without counts below zero, and saving what is
loaded from it leaves the same bytes.
-/
theorem kept_baseline_stays_canonical
    {path : Path}
    {start : Workspace}
    {initial : Baseline}
    {actions : List Action}
    {room : Room}
    (loaded : load start path room = .ok initial)
    (apart : initial.SurrogatesApart)
    (actionsApart : ∀ action ∈ actions, action.SurrogatesApart)
    (succeed : Action.savesSucceed path room actions start = true) :
    ∀ earlier later,
      actions = earlier ++ later →
      ∃ between current,
        (Action.performAll path room earlier).run start = .ok () between ∧
          load between path room = .ok current ∧
            (∀ filename rule count,
              current.get? filename rule = some count →
              initial.get? filename rule = some count ∨
                ∃ action ∈ earlier,
                  action.revises = true ∧
                    count = occurrences action.diagnostics filename rule) ∧
              ((∃ action ∈ earlier, action.revises = true) →
                current.Canonical ∧
                  current.Nonnegative ∧
                    ∃ text last,
                      current.fileText = .ok text ∧
                        between.readFile path =
                            .ok (text.flatMap Utf8.encodePoint) ∧
                          (save path current).run between = .ok () last ∧
                            last.readFile path =
                              .ok (text.flatMap Utf8.encodePoint)) := by
  rintro earlier later rfl
  have earlierApart :
      ∀ action ∈ earlier, action.SurrogatesApart := fun action member =>
    actionsApart action (List.mem_append_left later member)
  obtain ⟨between, ran, loadedLast, keeps⟩ :=
    Action.exists_run_performAll loaded apart earlierApart
      (Action.savesSucceed_of_append succeed)
  refine ⟨between, Action.reviseAll initial earlier, ran, loadedLast, ?_, ?_⟩
  · intro filename rule count found
    exact Action.get?_reviseAll_eq_some found
  · intro revised
    have kept := keeps (Or.inr revised)
    exact ⟨kept.canonical, kept.nonnegative, kept.exists_run_save⟩

/--
A file that someone wrote by hand, out of order and with a file without rules,
is canonical after an update, and it still is after a check and a tightening.
-/
theorem edited_baseline_becomes_canonical :
    let stored : Text :=
      "\x7b\"b.ts\": \x7b\x7d, \"a.ts\": \x7b\"r\": \x7b\"count\": 0\x7d, " ++
        "\"q\": \x7b\"count\": 5\x7d\x7d\x7d"
    let start :=
      (Workspace.fresh "/w" ["t"]).withFile "b.json"
        (stored.flatMap Utf8.encodePoint)
    let initial : Baseline :=
      ((Ledger.empty.replaceFile "b.ts" OrderedMap.empty).set "a.ts" "r" 0).set
        "a.ts" "q" 5
    let first : Diagnostic := { filename := "c.ts", rule := "eqeqeq" }
    let second : Diagnostic := { filename := "a.ts", rule := "q" }
    let actions : List Action :=
      [.update [first], .check [], .tighten [second, second]]
    load start "b.json" = .ok initial ∧
      initial.SurrogatesApart ∧
        (∀ action ∈ actions, action.SurrogatesApart) ∧
          Action.savesSucceed "b.json" .usual actions start = true ∧
            ¬initial.Canonical ∧
              ∃ after current,
                (Action.performAll "b.json" .usual actions).run start =
                    .ok () after ∧
                  load after "b.json" = .ok current ∧ current.Canonical := by
  intro stored start initial first second actions
  have loaded : load start "b.json" = .ok initial := by decide +kernel
  have apart : initial.SurrogatesApart := by decide
  have actionsApart : ∀ action ∈ actions, action.SurrogatesApart := by
    decide
  have succeed : Action.savesSucceed "b.json" .usual actions start = true := by
    decide +kernel
  have notCanonical : ¬initial.Canonical := by
    intro canonical
    have listed : initial.files.get? "b.ts" = some OrderedMap.empty := by
      decide
    cases canonical.pruned listed
  obtain ⟨after, current, ran, loadedLast, _, canonical⟩ :=
    kept_baseline_stays_canonical loaded apart actionsApart succeed actions []
      rfl
  have revised : ∃ action ∈ actions, action.revises = true := by decide
  exact
    ⟨loaded, apart, actionsApart, succeed, notCanonical, after, current, ran,
      loadedLast, (canonical revised).1⟩

end Tolerance.Baseline
