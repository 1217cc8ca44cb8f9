import TaggedCatalog.Discovery.ClassWalk

/-! # Findings

A source comes upon one thing after the other: classes that it can declare, and
things that make it fail. The findings of a source are all of them, those behind a
failure included. What the source yields is what it finds before the first failure. -/

namespace TaggedCatalog

/-- Something that a source comes upon. -/
abbrev Finding := Except SourceFailure Declaration

namespace SourceOutcome

/-- Whether an outcome is that of a source with the given findings: all of them are
declarations, or it stops at the first that is none. -/
inductive Shows (outcome : SourceOutcome) (findings : List Finding) : Prop
  | whole (all : findings = outcome.declarations.map .ok) (ended : outcome.failure = none)
  | stopped {failure : SourceFailure} {later : List Finding}
      (found : findings = outcome.declarations.map .ok ++ .error failure :: later)
      (failed : outcome.failure = some failure)

/-- Outcomes that differ in their records at most. -/
structure SameButRecords (first second : SourceOutcome) : Prop where
  declarations : first.declarations = second.declarations
  failure : first.failure = second.failure

namespace SameButRecords

variable {first second third : SourceOutcome}

theorem symm (same : first.SameButRecords second) : second.SameButRecords first :=
  ⟨same.declarations.symm, same.failure.symm⟩

theorem trans (same : first.SameButRecords second) (next : second.SameButRecords third) :
    first.SameButRecords third :=
  ⟨same.declarations.trans next.declarations, same.failure.trans next.failure⟩

end SameButRecords

theorem shows_empty : empty.Shows [] := .whole rfl rfl

theorem shows_log (severity : Severity) (message : String) : (log severity message).Shows [] :=
  .whole rfl rfl

theorem shows_yield (declaration : Declaration) : (yield declaration).Shows [.ok declaration] :=
  .whole rfl rfl

theorem shows_fail (failure : SourceFailure) (later : List Finding) :
    (fail failure).Shows (.error failure :: later) := .stopped rfl rfl

theorem exists_first_failure {findings : List Finding} {failure : SourceFailure}
    (member : .error failure ∈ findings) :
    ∃ declarations foremost later,
      findings = List.map .ok declarations ++ .error foremost :: later := by
  induction findings with
  | nil => cases member
  | cons finding rest induction =>
      cases finding with
      | error foremost => exact ⟨[], foremost, rest, rfl⟩
      | ok declaration =>
          have inRest : .error failure ∈ rest := by simpa using member
          obtain ⟨declarations, foremost, later, rfl⟩ := induction inRest
          exact ⟨declaration :: declarations, foremost, later, rfl⟩

theorem first_failure_unique {left right : List Declaration} {failure other : SourceFailure}
    {later others : List Finding}
    (same : left.map Except.ok ++ .error failure :: later =
      right.map Except.ok ++ .error other :: others) : left = right ∧ failure = other := by
  induction left generalizing right with
  | nil =>
      cases right with
      | nil => simpa using (List.cons.inj same).1
      | cons => cases (List.cons.inj same).1
  | cons declaration left induction =>
      cases right with
      | nil => cases (List.cons.inj same).1
      | cons otherDeclaration right =>
          obtain ⟨sameHead, sameRest⟩ := List.cons.inj same
          obtain ⟨rfl, sameFailure⟩ := induction sameRest
          exact ⟨by rw [Except.ok.inj sameHead], sameFailure⟩

namespace Shows

variable {first second : SourceOutcome} {findings later : List Finding}

/-- Sources one after the other have the findings of the first and then those of the
second. -/
theorem andThen (shown : first.Shows findings) (next : second.Shows later) :
    (first.andThen second).Shows (findings ++ later) := by
  cases shown with
  | whole all ended =>
      have joined : first.andThen second =
          { declarations := first.declarations ++ second.declarations
            failure := second.failure
            records := first.records ++ second.records } := by
        simp [SourceOutcome.andThen, ended]
      rw [joined, all]
      cases next with
      | whole nextAll nextEnded => exact .whole (by simp [nextAll]) nextEnded
      | @stopped failure behind found failed =>
          have allFound : first.declarations.map .ok ++ later =
              (first.declarations ++ second.declarations).map .ok ++ .error failure :: behind := by
            rw [found, List.map_append, List.append_assoc]
          exact .stopped allFound failed
  | stopped found failed =>
      have stays : first.andThen second = first := by simp [SourceOutcome.andThen, failed]
      rw [stays, found, List.append_assoc, List.cons_append]
      exact .stopped rfl failed

theorem sequence {α : Type} {run : α → SourceOutcome} {findingsOf : α → List Finding}
    {parts : List α} (shown : ∀ part ∈ parts, (run part).Shows (findingsOf part)) :
    (SourceOutcome.sequence (parts.map run)).Shows (parts.flatMap findingsOf) := by
  induction parts with
  | nil => exact shows_empty
  | cons part rest induction =>
      have both := List.forall_mem_cons.mp shown
      exact both.1.andThen (induction both.2)

/-- The first failure decides the outcome. -/
theorem of_failure {declarations : List Declaration} {failure : SourceFailure}
    (shown : first.Shows (declarations.map .ok ++ .error failure :: later)) :
    first.declarations = declarations ∧ first.failure = some failure := by
  cases shown with
  | whole all _ =>
      have member : .error failure ∈ first.declarations.map (.ok : Declaration → Finding) := by
        rw [← all]
        simp
      simp at member
  | stopped found failed =>
      obtain ⟨same, rfl⟩ := first_failure_unique found
      exact ⟨same.symm, failed⟩

theorem of_declarations {declarations : List Declaration}
    (shown : first.Shows (declarations.map .ok)) :
    first.declarations = declarations ∧ first.failure = none := by
  cases shown with
  | whole all ended =>
      have same : declarations = first.declarations :=
        (List.map_inj_right fun _ _ => Except.ok.inj).mp all
      exact ⟨same.symm, ended⟩
  | @stopped failure later found failed =>
      have member : .error failure ∈ declarations.map (.ok : Declaration → Finding) := by
        rw [found]
        simp
      simp at member

theorem mem_findings {declaration : Declaration} (shown : first.Shows findings)
    (yielded : declaration ∈ first.declarations) : .ok declaration ∈ findings := by
  cases shown with
  | whole all _ => simpa [all] using yielded
  | stopped found _ => simp [found, yielded]

/-- The findings decide the outcome, but for its records. -/
theorem unique (shown : first.Shows findings) (otherShown : second.Shows findings) :
    first.SameButRecords second := by
  cases shown with
  | whole all ended =>
      have other := (all ▸ otherShown).of_declarations
      exact ⟨other.1.symm, ended.trans other.2.symm⟩
  | stopped found failed =>
      have other := (found ▸ otherShown).of_failure
      exact ⟨other.1.symm, failed.trans other.2.symm⟩

theorem failure_eq_none_iff (shown : first.Shows findings) :
    first.failure = none ↔ ∀ finding ∈ findings, ∃ declaration, finding = .ok declaration := by
  cases shown with
  | whole all ended => simp [all, ended]
  | @stopped failure later found failed =>
      rw [failed]
      refine ⟨fun impossible => (by cases impossible), fun allDeclared => ?_⟩
      obtain ⟨declaration, isDeclaration⟩ := allDeclared (.error failure) (by simp [found])
      cases isDeclaration

/-- What comes behind findings with a failure among them does not matter. -/
theorem same_of_failure {common others : List Finding} {failure : SourceFailure}
    (failed : .error failure ∈ common) (shown : first.Shows (common ++ later))
    (otherShown : second.Shows (common ++ others)) :
    first.declarations = second.declarations ∧ first.failure = second.failure := by
  obtain ⟨declarations, foremost, behind, rfl⟩ := exists_first_failure failed
  rw [List.append_assoc, List.cons_append] at shown otherShown
  obtain ⟨sameDeclarations, sameFailure⟩ := shown.of_failure
  obtain ⟨otherDeclarations, otherFailure⟩ := otherShown.of_failure
  exact ⟨sameDeclarations.trans otherDeclarations.symm, sameFailure.trans otherFailure.symm⟩

end Shows

end SourceOutcome

/-! ## Reading -/

namespace ClassWalk

open Source

mutual

/-- The classes of a body, each before those inside it. -/
def bodyFindings (place : Place) (scope : String) : List Stmt → List Finding
  | [] => []
  | statement :: rest =>
      statementFindings place scope statement ++ bodyFindings place scope rest

def statementFindings (place : Place) (scope : String) : Stmt → List Finding
  | .classDef className decorators body =>
      declare place scope className decorators body ::
        bodyFindings place (scope ++ className ++ ".") body
  | _ => []

end

mutual

theorem shows_walkBody (place : Place) (scope : String) :
    (body : List Stmt) → (walkBody place scope body).Shows (bodyFindings place scope body)
  | [] => by
      rw [walkBody, bodyFindings]
      exact SourceOutcome.shows_empty
  | statement :: rest => by
      rw [walkBody, bodyFindings]
      exact (shows_walkStatement place scope statement).andThen (shows_walkBody place scope rest)

theorem shows_walkStatement (place : Place) (scope : String) :
    (statement : Stmt) →
      (walkStatement place scope statement).Shows (statementFindings place scope statement)
  | .classDef className decorators body => by
      rw [walkStatement, statementFindings]
      cases declare place scope className decorators body with
      | error failure => exact SourceOutcome.shows_fail failure _
      | ok declaration =>
          exact (SourceOutcome.shows_yield declaration).andThen (shows_walkBody place _ body)
  | .expression value => by
      rw [walkStatement, statementFindings] <;> simp [SourceOutcome.shows_empty]
  | .compound body => by
      rw [walkStatement, statementFindings] <;> simp [SourceOutcome.shows_empty]
  | .other => by
      rw [walkStatement, statementFindings] <;> simp [SourceOutcome.shows_empty]

end

end ClassWalk

end TaggedCatalog
