import Mathlib.Data.List.Forall2
import Tolerance.Proofs.Agreement

namespace Tolerance

/-!
# Which diagnostics of a group are shown

A group in excess shows its first diagnostics, in their order and each once, and
counts the others.  How many those are, and which of them are shown with their
source, depends on the size of the group and on how many are asked for.
-/

open Outcome SourceReader

namespace Report

variable {memory : Nat} {workspace : Workspace} {reader present after : SourceReader}

/-! ## One diagnostic -/

/--
A diagnostic as it is shown where its source is asked for: with an excerpt if
its file has its line, or else on one line.
-/
inductive ShownWithSource
    (memory : Nat)
    (workspace : Workspace)
    (reader : SourceReader)
    (diagnostic : Diagnostic) :
    Text → Prop where
  | excerpt (found : Excerpt) (text : Text)
      (shows : Shows workspace reader diagnostic found)
      (wrote : excerpt found diagnostic memory = .ok text) :
      ShownWithSource memory workspace reader diagnostic text
  | brief (text : Text)
      (unseen : ∀ found, ¬Shows workspace reader diagnostic found)
      (wrote : brief diagnostic = .ok text) :
      ShownWithSource memory workspace reader diagnostic text

/-- A diagnostic as it is shown where its source is not asked for. -/
def ShownOnLine (diagnostic : Diagnostic) (text : Text) : Prop :=
  brief diagnostic = .ok text

theorem shownWithSource_of_detailed
    {diagnostic : Diagnostic}
    {text : Text}
    (continues : Continues workspace reader present)
    (wrote : (detailed memory workspace diagnostic).run present = .ok (text, after)) :
    ShownWithSource memory workspace reader diagnostic text ∧
      Continues workspace reader after := by
  have finds := continues.finds_excerpt? diagnostic
  unfold detailed at wrote
  obtain ⟨found?, between, read, wroteRest⟩ := run_bind_eq_ok_iff.mp wrote
  change (present.excerpt? workspace diagnostic).mapError Fault.sourcePath = _ at read
  generalize present.excerpt? workspace diagnostic = outcome at finds read
  cases finds with
  | unusable fault placed notUsable =>
      cases read
  | nothing left usable unseen continuesAfter =>
      cases read
      obtain ⟨isBrief, rfl⟩ := run_lift_eq_ok_iff.mp wroteRest
      exact ⟨.brief text unseen isBrief, continuesAfter⟩
  | excerpt found left usable shows continuesAfter =>
      cases read
      obtain ⟨isExcerpt, rfl⟩ := run_lift_eq_ok_iff.mp wroteRest
      exact ⟨.excerpt found text shows isExcerpt, continuesAfter⟩

/-! ## Several diagnostics -/

theorem shownWithSource_of_detailedAll
    {diagnostics : List Diagnostic}
    {texts : List Text}
    (continues : Continues workspace reader present)
    (wrote :
      (detailedAll memory workspace diagnostics).run present = .ok (texts, after)) :
    List.Forall₂ (ShownWithSource memory workspace reader) diagnostics texts := by
  induction diagnostics generalizing present texts with
  | nil =>
      cases wrote
      exact .nil
  | cons diagnostic rest inductionHypothesis =>
      rw [detailedAll] at wrote
      obtain ⟨text, between, wroteFirst, wrote⟩ := run_bind_eq_ok_iff.mp wrote
      obtain ⟨others, last, wroteRest, ended⟩ := run_bind_eq_ok_iff.mp wrote
      cases ended
      obtain ⟨isShown, continuesAfter⟩ :=
        shownWithSource_of_detailed continues wroteFirst
      exact .cons isShown (inductionHypothesis continuesAfter wroteRest)

theorem briefAll_eq_ok_iff
    {diagnostics : List Diagnostic}
    {texts : List Text} :
    briefAll diagnostics = .ok texts ↔
      List.Forall₂ ShownOnLine diagnostics texts := by
  induction diagnostics generalizing texts with
  | nil =>
      constructor
      · intro wrote
        cases wrote
        exact .nil
      · intro areShown
        cases areShown
        rfl
  | cons diagnostic rest inductionHypothesis =>
      rw [briefAll]
      simp only [bind_eq_ok_iff]
      constructor
      · rintro ⟨text, wrote, others, wroteOthers, ended⟩
        cases ended
        exact .cons wrote (inductionHypothesis.mp wroteOthers)
      · intro areShown
        cases areShown with
        | cons isShown othersShown =>
            exact ⟨_, isShown, _, inductionHypothesis.mpr othersShown, rfl⟩

/-! ## A group -/

section Group

variable {showCode : Int} {diagnostics : List Diagnostic}

/-- How many diagnostics of a group are shown. -/
def shownCount (showCode : Int) (count : Nat) : Nat :=
  if (count : Int) ≤ max showCode 3 then count else 3

/-- How many diagnostics of a group are shown with their source if they have one. -/
def sourceCount (showCode : Int) (count : Nat) : Nat :=
  if (count : Int) ≤ showCode then count else 1

variable {count : Nat}

theorem sourceCount_of_le
    (few : (count : Int) ≤ showCode) :
    sourceCount showCode count = count :=
  if_pos few

theorem sourceCount_of_lt
    (many : showCode < count) :
    sourceCount showCode count = 1 :=
  if_neg (Int.not_le.mpr many)

theorem shownCount_of_le
    (few : (count : Int) ≤ showCode) :
    shownCount showCode count = count :=
  if_pos (Int.le_trans few (Int.le_max_left _ _))

theorem shownCount_of_lt
    (many : showCode < count) :
    shownCount showCode count = min count 3 := by
  unfold shownCount
  split <;> omega

theorem shownCount_le : shownCount showCode count ≤ count := by
  unfold shownCount
  split
  · exact Nat.le_refl count
  · omega

theorem groupDiagnostics_of_hidden
    (hidden : showCode ≤ 0) :
    groupDiagnostics memory workspace showCode diagnostics = pure [] := by
  cases diagnostics with
  | nil => rfl
  | cons first rest => rw [groupDiagnostics, if_pos hidden]

/-- The first diagnostics of a group are shown, with their source or on one line. -/
theorem exists_parts_of_groupDiagnostics
    {lines : List Text}
    (visible : 1 ≤ showCode)
    (some : diagnostics ≠ [])
    (continues : Continues workspace reader present)
    (wrote :
      (groupDiagnostics memory workspace showCode diagnostics).run present =
        .ok (lines, after)) :
    let count := diagnostics.length
    ∃ withSource onLine,
      List.Forall₂ (ShownWithSource memory workspace reader)
          (diagnostics.take (sourceCount showCode count)) withSource ∧
        List.Forall₂ ShownOnLine
          ((diagnostics.take (shownCount showCode count)).drop
            (sourceCount showCode count))
          onLine ∧
        lines =
          [] ::
            (withSource ++ onLine ++
              hiddenLines (count - shownCount showCode count)) := by
  cases diagnostics with
  | nil =>
      exact (some rfl).elim
  | cons first rest =>
      intro count
      have isCount : count = rest.length + 1 := List.length_cons
      rw [groupDiagnostics, if_neg (by omega)] at wrote
      obtain ⟨text, between, wroteFirst, wroteOthers⟩ := run_bind_eq_ok_iff.mp wrote
      obtain ⟨isShown, continuesAfter⟩ :=
        shownWithSource_of_detailed continues wroteFirst
      split at wroteOthers
      · next few =>
          obtain ⟨others, last, wroteRest, ended⟩ := run_bind_eq_ok_iff.mp wroteOthers
          cases ended
          have few : (count : Int) ≤ showCode := by omega
          rw [sourceCount_of_le few, shownCount_of_le few, List.take_length,
            List.drop_length, Nat.sub_self]
          exact
            ⟨text :: others, [],
              .cons isShown (shownWithSource_of_detailedAll continuesAfter wroteRest),
              .nil, by simp [hiddenLines]⟩
      · next many =>
          obtain ⟨others, last, wroteRest, ended⟩ := run_bind_eq_ok_iff.mp wroteOthers
          cases ended
          obtain ⟨wroteBrief, -⟩ := run_lift_eq_ok_iff.mp wroteRest
          have many : showCode < count := by omega
          have hidden : rest.length - namedDiagnostics = count - min count 3 := by
            unfold namedDiagnostics
            omega
          have onLine :
              ((first :: rest).take (min count 3)).drop 1 =
                rest.take namedDiagnostics := by
            rw [isCount, Nat.add_min_add_right rest.length 2 1, List.take_succ_cons,
              List.drop_one, List.tail_cons, List.take_eq_take_iff, namedDiagnostics]
            omega
          rw [sourceCount_of_lt many, shownCount_of_lt many, onLine, ← hidden]
          exact
            ⟨[text], others, .cons isShown .nil, briefAll_eq_ok_iff.mp wroteBrief, rfl⟩

end Group

/-- Without a source it makes no difference whether the source is asked for. -/
theorem ShownWithSource.shownOnLine
    {diagnostic : Diagnostic}
    {text : Text}
    (shown : ShownWithSource memory workspace reader diagnostic text)
    (noSource : ¬HasSource workspace reader diagnostic) :
    ShownOnLine diagnostic text := by
  cases shown with
  | excerpt found text shows wrote => exact (noSource shows.hasSource).elim
  | brief text unseen wrote => exact wrote

/-- The line that counts hidden diagnostics is there exactly if there are any. -/
theorem hiddenLines_cases (hidden : Nat) :
    hidden = 0 ∧ hiddenLines hidden = [] ∨
      0 < hidden ∧
        hiddenLines hidden =
          ["    " ++ Style.faint.apply ("... and " ++ Numeral.ofNat hidden ++ " more")] := by
  unfold hiddenLines
  split
  · next none => exact Or.inl ⟨none, rfl⟩
  · next some => exact Or.inr ⟨Nat.pos_of_ne_zero some, rfl⟩

/--
A group is written exactly if its counts can be and each of its diagnostics that
is listed can be shown.  It begins with its heading and ends with the advice, and
between them there is nothing if no diagnostics are asked for.  Otherwise the
first diagnostics stand there, in their order and each once: all of a group that
is not larger than what is asked for or than three, and three of any other.  All
are shown with their source if the group is not larger than what is asked for,
and else the first one is; a diagnostic without a source, or in a group that is
larger, is shown on one line.  Those that are not shown are counted in one more
line, which is there only if there are any.
-/
theorem every_diagnostic_is_accounted_for
    (faithful : reader.Faithful workspace)
    (showCode : Int)
    (group : Excess)
    (memory : Nat) :
    let count := group.diagnostics.length
    let shown := if (count : Int) ≤ max showCode 3 then count else 3
    let offered := if (count : Int) ≤ showCode then count else 1
    ((∃ outcome,
        (groupLines memory workspace showCode group).run reader = .ok outcome) ↔
        Presentable memory workspace reader showCode group) ∧
      (∀ diagnostic text,
        ShownWithSource memory workspace reader diagnostic text →
        ¬HasSource workspace reader diagnostic →
        ShownOnLine diagnostic text) ∧
      ∀ lines after,
        (groupLines memory workspace showCode group).run reader = .ok (lines, after) →
        ∃ heading,
          groupHeading group = .ok heading ∧
            (showCode ≤ 0 → lines = heading :: advice) ∧
            (1 ≤ showCode →
              1 ≤ count →
              ∃ withSource onLine hidden more,
                List.Forall₂ (ShownWithSource memory workspace reader)
                    (group.diagnostics.take offered) withSource ∧
                  List.Forall₂ ShownOnLine
                    ((group.diagnostics.take shown).drop offered) onLine ∧
                  shown + hidden = count ∧
                  (hidden = 0 ∧ more = [] ∨
                    0 < hidden ∧
                      more =
                        ["    " ++
                          Style.faint.apply
                            ("... and " ++ Numeral.ofNat hidden ++ " more")]) ∧
                  lines =
                    heading :: [] :: (withSource ++ onLine ++ more ++ advice)) := by
  intro count shown offered
  have continues := Continues.refl faithful
  refine
    ⟨(writesIff_groupLines showCode group reader continues).exists_eq_ok_iff,
      fun diagnostic text => ShownWithSource.shownOnLine, fun lines after wrote => ?_⟩
  unfold groupLines at wrote
  obtain ⟨heading, between, wroteHeading, wroteRest⟩ := run_bind_eq_ok_iff.mp wrote
  obtain ⟨isHeading, rfl⟩ := run_lift_eq_ok_iff.mp wroteHeading
  obtain ⟨listed, last, wroteListed, ended⟩ := run_bind_eq_ok_iff.mp wroteRest
  cases ended
  refine ⟨heading, isHeading, fun hidden => ?_, fun visible some => ?_⟩
  · rw [groupDiagnostics_of_hidden hidden] at wroteListed
    cases wroteListed
    rfl
  · obtain ⟨withSource, onLine, areShown, areOnLine, rfl⟩ :=
      exists_parts_of_groupDiagnostics visible (List.ne_nil_of_length_pos some)
        continues wroteListed
    exact
      ⟨withSource, onLine, count - shown, _, areShown, areOnLine,
        Nat.add_sub_of_le shownCount_le, hiddenLines_cases _, by
          simp [advice, count, shown, shownCount]⟩

/-- Of five diagnostics one is shown with its source, two are named and two are counted. -/
theorem two_of_five_are_hidden :
    let workspace := (Workspace.fresh "/w" []).withFile "a.ts" [0x78]
    let diagnostic : Diagnostic := {
      filename := "a.ts"
      rule := "no-var"
      message := "m"
      line := some 1
    }
    let group : Excess := {
      rule := "no-var"
      filename := "a.ts"
      expected := 0
      actual := 5
      diagnostics := List.replicate 5 diagnostic
    }
    Faithful workspace {} ∧
      ∃ lines after heading withSource onLine,
        (groupLines usualMemory workspace 3 group).run {} = .ok (lines, after) ∧
          List.Forall₂ (ShownWithSource usualMemory workspace {}) [diagnostic] withSource ∧
          List.Forall₂ ShownOnLine [diagnostic, diagnostic] onLine ∧
          lines =
            heading :: [] ::
              (withSource ++ onLine ++
                ["    " ++
                  Style.faint.apply ("... and " ++ Numeral.ofNat 2 ++ " more")] ++
                advice) := by
  intro workspace diagnostic group
  have faithful : Faithful workspace {} :=
    faithful_of_unread rfl workspace
  have written : ((groupLines usualMemory workspace 3 group).run {}).isOk = true := by
    decide +kernel
  cases ran : (groupLines usualMemory workspace 3 group).run {} with
  | error fault =>
      rw [ran] at written
      cases written
  | ok outcome =>
      obtain ⟨lines, after⟩ := outcome
      obtain ⟨heading, _, _, parts⟩ :=
        (every_diagnostic_is_accounted_for faithful 3 group usualMemory).2.2 lines after ran
      obtain ⟨withSource, onLine, hidden, more, areShown, areOnLine, account, isMore,
        isReport⟩ := parts (by decide) (by decide)
      obtain rfl : hidden = 2 := Nat.add_left_cancel account
      rcases isMore with ⟨none, _⟩ | ⟨_, rfl⟩
      · cases none
      · exact
          ⟨faithful, lines, after, heading, withSource, onLine, rfl, areShown,
            areOnLine, isReport⟩

/-- A column that no text is as long as keeps a whole group from being shown. -/
theorem huge_column_hides_group :
    let workspace := (Workspace.fresh "/w" []).withFile "a.ts" [0x78]
    let group : Excess := {
      rule := "no-var"
      filename := "a.ts"
      expected := 0
      actual := 1
      diagnostics := [{
        filename := "a.ts"
        rule := "no-var"
        message := "m"
        line := some 1
        column := some 9223372036854775808
      }]
    }
    (∀ diagnostic ∈ group.diagnostics,
      (SourceReader.excerpt? {} workspace diagnostic).isOk = true) ∧
      (groupLines usualMemory workspace 3 group).run {} = .error .columnTooLarge := by
  decide +kernel

end Report

end Tolerance
