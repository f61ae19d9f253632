import MarkupIslands.Island.Resolve
import MarkupIslands.Ui.Project

/-!
# Resolving a whole project

Every component is resolved on its own, also when others fail; nothing is undone. The result is one
report for each component, the root first and the named ones in the order of their keys, or the
failure of the first component in that order that failed.
-/

namespace MarkupIslands.Island

open MarkupIslands.Ui

def collect : List (Except Failure Report) → Except Failure (List Report)
  | [] => .ok []
  | .error failure :: _ => .error failure
  | .ok report :: rest =>
    match collect rest with
    | .ok reports => .ok (report :: reports)
    | .error failure => .error failure

@[simp]
theorem collect_map_ok (reports : List Report) : collect (reports.map .ok) = .ok reports := by
  induction reports with
  | nil => rfl
  | cons report rest ih => rw [List.map_cons, collect, ih]

/-- Outcomes after the first failure play no part. -/
@[simp]
theorem collect_map_ok_append_error (reports : List Report) (failure : Failure)
    (after : List (Except Failure Report)) :
    collect (reports.map .ok ++ .error failure :: after) = .error failure := by
  induction reports with
  | nil => rfl
  | cons report rest ih => rw [List.map_cons, List.cons_append, collect, ih]

/-- Either all went well or there is a first failure. -/
theorem all_ok_or_first_failure (results : List (Except Failure Report)) :
    (∃ reports : List Report, results = reports.map .ok) ∨
      ∃ (reports : List Report) (failure : Failure) (after : List (Except Failure Report)),
        results = reports.map .ok ++ .error failure :: after := by
  induction results with
  | nil => exact .inl ⟨[], rfl⟩
  | cons result rest ih =>
    cases result with
    | error failure => exact .inr ⟨[], failure, rest, rfl⟩
    | ok report =>
      rcases ih with ⟨reports, rfl⟩ | ⟨reports, failure, after, rfl⟩
      · exact .inl ⟨report :: reports, rfl⟩
      · exact .inr ⟨report :: reports, failure, after, rfl⟩

/-- All reports are there exactly if no component failed. -/
theorem collect_eq_ok_iff (results : List (Except Failure Report)) (reports : List Report) :
    collect results = .ok reports ↔ results = reports.map .ok := by
  rcases all_ok_or_first_failure results with ⟨others, rfl⟩ | ⟨others, failure, after, rfl⟩
  · rw [collect_map_ok, Except.ok.injEq]
    exact (List.map_inj_right fun _ _ ↦ Except.ok.inj).symm
  · constructor
    · intro h
      simp at h
    · intro h
      rw [h, collect_map_ok]

/-- The failure of a project is that of its first component that failed. -/
theorem collect_eq_error_iff (results : List (Except Failure Report)) (failure : Failure) :
    collect results = .error failure ↔
      ∃ (reports : List Report) (after : List (Except Failure Report)),
        results = reports.map .ok ++ .error failure :: after := by
  constructor
  · intro h
    rcases all_ok_or_first_failure results with ⟨reports, rfl⟩ | ⟨reports, first, after, rfl⟩
    · simp at h
    · rw [collect_map_ok_append_error, Except.error.injEq] at h
      exact ⟨reports, after, h ▸ rfl⟩
  · rintro ⟨reports, after, rfl⟩
    exact collect_map_ok_append_error reports failure after

/-- The outcomes fail with the failure of the first one that failed. -/
theorem collect_map_eq_error_iff {α : Type} (outcome : α → Except Failure Report) (items : List α)
    (failure : Failure) :
    collect (items.map outcome) = .error failure ↔
      ∃ before item after, items = before ++ item :: after ∧
        (∀ other ∈ before, ∃ report, outcome other = .ok report) ∧
        outcome item = .error failure := by
  rw [collect_eq_error_iff]
  constructor
  · rintro ⟨reports, results, h⟩
    obtain ⟨before, rest, rfl, hbefore, hrest⟩ := List.map_eq_append_iff.mp h
    obtain ⟨item, after, rfl, hitem, -⟩ := List.map_eq_cons_iff.mp hrest
    refine ⟨before, item, after, rfl, fun other hmem ↦ ?_, hitem⟩
    obtain ⟨report, -, hreport⟩ := List.mem_map.mp (hbefore ▸ List.mem_map_of_mem hmem)
    exact ⟨report, hreport.symm⟩
  · rintro ⟨before, item, after, rfl, hbefore, hitem⟩
    obtain ⟨reports, hreports⟩ : ∃ reports : List Report, before.map outcome = reports.map .ok := by
      induction before with
      | nil => exact ⟨[], rfl⟩
      | cons first before ih =>
        obtain ⟨report, hreport⟩ := hbefore first List.mem_cons_self
        obtain ⟨reports, hreports⟩ := ih fun other hmem ↦
          hbefore other (List.mem_cons_of_mem _ hmem)
        exact ⟨report :: reports, by rw [List.map_cons, List.map_cons, hreport, hreports]⟩
    exact ⟨reports, after.map outcome, by rw [List.map_append, List.map_cons, hreports, hitem]⟩

/-- A project after its islands have been looked at, with the uses of the collaborators. -/
structure ProjectResolution where
  project : Project
  result : Except Failure (List Report)
  calls : List Call

/-- Resolves the islands of every component of a project. -/
def resolveProject (tools : Tools) (target : Target) (options : Options) (project : Project) :
    ProjectResolution :=
  let resolve := resolveComponent tools target options
  let root := resolve project.root
  let named := project.components.map (·.map resolve)
  let resolutions := root :: (named.getD .empty).values
  { project := { project with
      root := root.component
      components := named.map (·.map Resolution.component) }
    result := collect (resolutions.map Resolution.result)
    calls := resolutions.flatMap Resolution.calls }

end MarkupIslands.Island
