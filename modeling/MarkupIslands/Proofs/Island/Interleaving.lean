import Mathlib.Logic.Relation
import MarkupIslands.Island.Document
import MarkupIslands.Proofs.Island.Resolution
import MarkupIslands.Proofs.Ui.Places

/-!
# Interleaved tasks

A project can be resolved with one task for each component. A step of a task resolves the next
island of its component or ends the task, and the tasks take their steps in any order. Whatever the
order, every component comes out as if it had been resolved alone, and the result is that of the
components taken one after the other: what a task still comes to is not changed by any step.
-/

namespace MarkupIslands.Island

open MarkupIslands.Ui

/-- The task of a component: what its steps have come to, and its outcome once it has ended. -/
structure Task where
  progress : Progress := {}
  outcome : Option (Except Failure Report) := none

variable (tools : Tools) (target : Target) (options : Options)

/-- A step resolves the first island that is left. The task ends when none is left or the island
cannot be resolved. -/
def Task.step (task : Task) (component : Component) : Component × Task :=
  match component.node.outermostIslands with
  | [] =>
    let ended := conclude target options component ⟨component.node, task.progress, none⟩
    (ended.component, { task with outcome := some ended.result })
  | island :: _ =>
    let progress := (resolveIsland tools component.name task.progress island).1
    match tools.write component.name island with
    | .ok content =>
      ({ component with node := component.node.refill [container island content] },
        { task with progress })
    | .error failure => (component, { progress, outcome := some (.error failure) })

/-- What a task comes to if it takes all its steps alone. -/
def Task.settle (task : Task) (component : Component) : Component × Except Failure Report :=
  match task.outcome with
  | some outcome => (component, outcome)
  | none =>
    let resolution := conclude target options component
      ((resolver tools component.name).walk task.progress component.node)
    (resolution.component, resolution.result)

variable {tools target options} {task : Task} {component : Component}

theorem settle_of_ended {outcome : Except Failure Report} (h : task.outcome = some outcome) :
    task.settle tools target options component = (component, outcome) := by
  rw [Task.settle, h]

/-- An open task comes to what a walk over the islands that are left comes to. -/
theorem settle_of_open (h : task.outcome = none) :
    task.settle tools target options component =
      let resolution := conclude target options component
        ((resolveIslands tools component.name task.progress component.node.outermostIslands).map
          fun containers ↦ component.node.refill containers)
      (resolution.component, resolution.result) := by
  rw [Task.settle, h, walk_resolver]

theorem step_of_nil (h : component.node.outermostIslands = []) :
    task.step tools target options component =
      let ended := conclude target options component ⟨component.node, task.progress, none⟩
      (ended.component, { task with outcome := some ended.result }) := by
  rw [Task.step, h]

theorem step_of_ok {island : Element} {rest : List Element} {content : String}
    (h : component.node.outermostIslands = island :: rest)
    (hwrite : tools.write component.name island = .ok content) :
    task.step tools target options component =
      ({ component with node := component.node.refill [container island content] },
        { task with
          progress := (resolveIsland tools component.name task.progress island).1 }) := by
  rw [Task.step, h]
  simp only [hwrite]

theorem step_of_error {island : Element} {rest : List Element} {failure : Failure}
    (h : component.node.outermostIslands = island :: rest)
    (hwrite : tools.write component.name island = .error failure) :
    task.step tools target options component =
      (component,
        { progress := (resolveIsland tools component.name task.progress island).1
          outcome := some (.error failure) }) := by
  rw [Task.step, h]
  simp only [hwrite]

/-- A resolved island leaves the other islands to be resolved. -/
theorem outermostIslands_refill_container (node : Node) (island : Element) (content : String) :
    (node.refill [container island content]).outermostIslands = node.outermostIslands.tail := by
  rw [outermostIslands_refill, List.length_singleton, List.drop_one]
  simpa using outermostIslands_container island content

/-- A container in the place of the first island is no island, so the places of the others stay. -/
theorem refill_refill_container (node : Node) (island : Element) (content : String)
    (more : List Element) :
    (node.refill [container island content]).refill more =
      node.refill (container island content :: more) := by
  rw [refill_refill, List.singleton_append]
  simpa using outermostIslands_container island content

/-- A step of a task does not change what the task comes to. -/
theorem settle_step (hopen : task.outcome = none) (component : Component) :
    (task.step tools target options component).2.settle tools target options
        (task.step tools target options component).1 =
      task.settle tools target options component := by
  rw [settle_of_open hopen]
  cases hislands : component.node.outermostIslands with
  | nil =>
    rw [step_of_nil hislands, settle_of_ended rfl, resolveIslands, Walked.map, refill_nil]
  | cons island rest =>
    cases hwrite : tools.write component.name island with
    | error failure =>
      rw [step_of_error hislands hwrite, settle_of_ended rfl, resolveIslands_cons_error hwrite,
        Walked.map, refill_nil]
      rfl
    | ok content =>
      rw [step_of_ok hislands hwrite, settle_of_open (by exact hopen),
        outermostIslands_refill_container, hislands, List.tail_cons,
        resolveIslands_cons_ok hwrite, Walked.map_map]
      simp only [refill_refill_container]
      rfl

/-- A task that has taken no step comes to what the resolution of its component does. -/
theorem settle_start (tools : Tools) (target : Target) (options : Options)
    (component : Component) :
    Task.settle tools target options {} component =
      ((resolveComponent tools target options component).component,
        (resolveComponent tools target options component).result) := rfl

/-! ## Runs of all tasks -/

/-- A project while its tasks are under way, one task for each component. -/
structure Run where
  project : Project
  /-- The tasks in the order of the components: the root first, then by key. -/
  tasks : List Task

namespace Run

def start (project : Project) : Run := ⟨project, project.allComponents.map fun _ ↦ {}⟩

def IsFinished (run : Run) : Prop := ∀ task ∈ run.tasks, task.outcome.isSome

instance (run : Run) : Decidable run.IsFinished :=
  inferInstanceAs (Decidable (∀ task ∈ run.tasks, task.outcome.isSome))

def result (run : Run) : Except Failure (List Report) :=
  collect (run.tasks.filterMap Task.outcome)

variable (tools target options)

/-- Some task that has not ended takes a step on its component. -/
inductive Step : Run → Run → Prop
  | task {run : Run} (place : Nat) {component : Component} {task : Task}
    (hcomponent : run.project.allComponents[place]? = some component)
    (htask : run.tasks[place]? = some task) (hopen : task.outcome = none) :
    Step run
      { project := run.project.setComponent (task.step tools target options component).1 place
        tasks := run.tasks.set place (task.step tools target options component).2 }

/-- What stays the same through all steps: the frame of the project, its number of components, and
what every task comes to. -/
structure Settles (project : Project) (run : Run) : Prop where
  frame : run.project.frame = project.frame
  length_components : run.project.allComponents.length = project.allComponents.length
  length_tasks : run.tasks.length = project.allComponents.length
  settled : ∀ (place : Nat) (original component : Component) (task : Task),
    project.allComponents[place]? = some original →
    run.project.allComponents[place]? = some component → run.tasks[place]? = some task →
      task.settle tools target options component =
        Task.settle tools target options {} original

theorem settles_start (project : Project) :
    Settles tools target options project (start project) where
  frame := rfl
  length_components := rfl
  length_tasks := by simp [start]
  settled := by
    intro place original component task horiginal hcomponent htask
    obtain rfl : original = component := Option.some.inj (horiginal.symm.trans hcomponent)
    obtain ⟨_, -, rfl⟩ := List.mem_map.mp (List.mem_of_getElem? htask)
    rfl

variable {tools target options}

/-- A step of one task leaves what every task comes to as it is. -/
theorem Settles.step {project : Project} {run next : Run}
    (h : Settles tools target options project run) (hstep : Step tools target options run next) :
    Settles tools target options project next := by
  obtain ⟨place, hcomponent, htask, hopen⟩ := hstep
  rename_i component task
  refine ⟨?_, ?_, ?_, ?_⟩
  · rw [Project.frame_setComponent, h.frame]
  · rw [Project.allComponents_setComponent, List.length_set, h.length_components]
  · rw [List.length_set, h.length_tasks]
  · intro other original component' task' horiginal hcomponent' htask'
    rw [Project.allComponents_setComponent] at hcomponent'
    by_cases hplace : place = other
    · subst hplace
      rw [List.getElem?_set_self (List.getElem?_eq_some_iff.mp hcomponent).1] at hcomponent'
      rw [List.getElem?_set_self (List.getElem?_eq_some_iff.mp htask).1] at htask'
      obtain rfl := Option.some.inj hcomponent'
      obtain rfl := Option.some.inj htask'
      rw [settle_step hopen]
      exact h.settled place original component task horiginal hcomponent htask
    · rw [List.getElem?_set_ne hplace] at hcomponent' htask'
      exact h.settled other original component' task' horiginal hcomponent' htask'

/-- What the tasks come to is the same after any number of steps, whatever their order. -/
theorem Settles.steps {project : Project} {run final : Run}
    (h : Settles tools target options project run)
    (hsteps : Relation.ReflTransGen (Step tools target options) run final) :
    Settles tools target options project final := by
  induction hsteps with
  | refl => exact h
  | tail _ hstep ih => exact ih.step hstep

/-- Where a task has ended, its component and its outcome are those of the component alone. -/
theorem Settles.ended {project : Project} {run : Run}
    (h : Settles tools target options project run) (hfinished : run.IsFinished) {place : Nat}
    {original : Component} (horiginal : project.allComponents[place]? = some original) :
    run.project.allComponents[place]? =
        some (resolveComponent tools target options original).component ∧
      run.tasks[place]?.map Task.outcome =
        some (some (resolveComponent tools target options original).result) := by
  have hplace : place < project.allComponents.length := (List.getElem?_eq_some_iff.mp horiginal).1
  obtain ⟨component, hcomponent⟩ :
      ∃ component, run.project.allComponents[place]? = some component :=
    ⟨_, List.getElem?_eq_getElem (h.length_components ▸ hplace)⟩
  obtain ⟨task, htask⟩ : ∃ task, run.tasks[place]? = some task :=
    ⟨_, List.getElem?_eq_getElem (h.length_tasks ▸ hplace)⟩
  obtain ⟨outcome, houtcome⟩ :=
    Option.isSome_iff_exists.mp (hfinished task (List.mem_of_getElem? htask))
  have hsettled := h.settled place original component task horiginal hcomponent htask
  rw [settle_of_ended houtcome, settle_start, Prod.mk.injEq] at hsettled
  rw [hcomponent, htask, Option.map_some, houtcome, hsettled.1, hsettled.2]
  exact ⟨rfl, rfl⟩

/-- Where every task has ended, what the tasks come to is what the project has become. -/
theorem Settles.project_eq {project : Project} {run : Run}
    (h : Settles tools target options project run) (hfinished : run.IsFinished) :
    run.project = project.mapComponents fun component ↦
      (resolveComponent tools target options component).component := by
  refine Project.eq_of_frame_of_allComponents ?_ ?_
  · rw [h.frame, Project.frame_mapComponents]
  · rw [Project.allComponents_mapComponents]
    refine List.ext_getElem? fun place ↦ ?_
    rw [List.getElem?_map]
    cases horiginal : project.allComponents[place]? with
    | none =>
      rw [List.getElem?_eq_none_iff] at horiginal
      simpa [h.length_components] using horiginal
    | some original => exact (h.ended hfinished horiginal).1

/-- Where every task has ended, the outcomes taken together are those of the components. -/
theorem Settles.result_eq {project : Project} {run : Run}
    (h : Settles tools target options project run) (hfinished : run.IsFinished) :
    run.result = collect (project.allComponents.map fun component ↦
      (resolveComponent tools target options component).result) := by
  have houtcomes : run.tasks.map Task.outcome = project.allComponents.map fun component ↦
      some (resolveComponent tools target options component).result := by
    refine List.ext_getElem? fun place ↦ ?_
    rw [List.getElem?_map, List.getElem?_map]
    cases horiginal : project.allComponents[place]? with
    | none =>
      rw [List.getElem?_eq_none_iff] at horiginal
      simpa [h.length_tasks] using horiginal
    | some original => exact (h.ended hfinished horiginal).2
  calc
    run.result = collect ((run.tasks.map Task.outcome).filterMap id) := by
      rw [List.filterMap_map, Function.id_comp, result]
    _ = collect (project.allComponents.map fun component ↦
        (resolveComponent tools target options component).result) := by
      rw [houtcomes, List.filterMap_map]
      exact congrArg collect (congrFun List.filterMap_eq_map _)

/-! ## Every run can be brought to its end -/

/-- The steps that a task has left. -/
def remaining (component : Component) (task : Task) : Nat :=
  match task.outcome with
  | none => component.node.outermostIslands.length + 1
  | some _ => 0

/-- A step uses up an island or ends the task. -/
theorem remaining_step_lt {task : Task} (hopen : task.outcome = none) (component : Component) :
    remaining (task.step tools target options component).1
        (task.step tools target options component).2 < remaining component task := by
  rw [remaining, remaining, hopen]
  cases hislands : component.node.outermostIslands with
  | nil =>
    rw [step_of_nil hislands]
    exact Nat.succ_pos _
  | cons island rest =>
    cases hwrite : tools.write component.name island with
    | error failure =>
      rw [step_of_error hislands hwrite]
      exact Nat.succ_pos _
    | ok content =>
      rw [step_of_ok hislands hwrite]
      simp only [hopen, outermostIslands_refill_container, hislands]
      simp

/-- The steps that the tasks of some components have left together. -/
def remainingSteps : List Component → List Task → Nat
  | component :: components, task :: tasks =>
    remaining component task + remainingSteps components tasks
  | _, _ => 0

/-- Fewer steps of one task are fewer steps of all of them. -/
theorem remainingSteps_set_lt {components : List Component} {tasks : List Task} {place : Nat}
    {component component' : Component} {task task' : Task}
    (hcomponent : components[place]? = some component) (htask : tasks[place]? = some task)
    (hlt : remaining component' task' < remaining component task) :
    remainingSteps (components.set place component') (tasks.set place task') <
      remainingSteps components tasks := by
  induction place generalizing components tasks with
  | zero =>
    obtain ⟨components, rfl⟩ := List.head?_eq_some_iff.mp (List.head?_eq_getElem? ▸ hcomponent)
    obtain ⟨tasks, rfl⟩ := List.head?_eq_some_iff.mp (List.head?_eq_getElem? ▸ htask)
    exact Nat.add_lt_add_right hlt _
  | succ place ih =>
    cases components with
    | nil => cases hcomponent
    | cons _ components =>
      cases tasks with
      | nil => cases htask
      | cons _ tasks => exact Nat.add_lt_add_left (ih hcomponent htask) _

def left (run : Run) : Nat := remainingSteps run.project.allComponents run.tasks

theorem left_step_lt {run next : Run} (hstep : Step tools target options run next) :
    next.left < run.left := by
  obtain ⟨_, hcomponent, htask, hopen⟩ := hstep
  rw [left, Project.allComponents_setComponent]
  exact remainingSteps_set_lt hcomponent htask (remaining_step_lt hopen _)

/-- While there is a component for each task, a run that is not finished can go on. -/
theorem exists_step {run : Run} (hlength : run.tasks.length = run.project.allComponents.length)
    (hfinished : ¬ run.IsFinished) : ∃ next, Step tools target options run next := by
  obtain ⟨task, hmem, hopen⟩ : ∃ task ∈ run.tasks, task.outcome = none := by
    simpa [IsFinished] using hfinished
  obtain ⟨place, htask⟩ := List.mem_iff_getElem?.mp hmem
  have hplace := (List.getElem?_eq_some_iff.mp htask).1
  exact ⟨_, .task place (List.getElem?_eq_getElem (hlength ▸ hplace)) htask hopen⟩

/-- From wherever a run has come to, some further steps finish it. -/
theorem Settles.exists_finished {project : Project} {run : Run}
    (h : Settles tools target options project run) :
    ∃ final, Relation.ReflTransGen (Step tools target options) run final ∧ final.IsFinished := by
  induction hleft : run.left using Nat.strongRecOn generalizing run with
  | ind count ih =>
    by_cases hfinished : run.IsFinished
    · exact ⟨run, .refl, hfinished⟩
    · obtain ⟨next, hstep⟩ :=
        exists_step (h.length_tasks.trans h.length_components.symm) hfinished
      obtain ⟨final, hsteps, hfinal⟩ := ih next.left (hleft ▸ left_step_lt hstep) (h.step hstep) rfl
      exact ⟨final, .head hstep hsteps, hfinal⟩

end Run

/-! ## All components one after the other -/

theorem project_resolveProject (tools : Tools) (target : Target) (options : Options)
    (project : Project) :
    (resolveProject tools target options project).project =
      project.mapComponents fun component ↦
        (resolveComponent tools target options component).component := by
  refine Project.eq_of_frame_of_allComponents ?_ ?_
  · rw [Project.frame_mapComponents]
    simp [resolveProject, Project.frame, Function.comp_def]
  · rw [Project.allComponents_mapComponents]
    cases h : project.components <;>
      simp [resolveProject, Project.allComponents, Project.named, h, Function.comp_def]

theorem result_resolveProject (tools : Tools) (target : Target) (options : Options)
    (project : Project) :
    (resolveProject tools target options project).result =
      collect (project.allComponents.map fun component ↦
        (resolveComponent tools target options component).result) := by
  cases h : project.components <;>
    simp [resolveProject, Project.allComponents, Project.named, h, Function.comp_def]

/-- Whatever the order of the steps, a finished run leaves every component as it is when it is
resolved alone, also where others fail. It comes to one report for each component if all went well,
and otherwise to the failure of the first component in the order of the places: the same as when the
components are resolved one after the other. -/
theorem finished_run_eq_resolveProject (tools : Tools) (target : Target) (options : Options)
    (project : Project) (final : Run)
    (hsteps : Relation.ReflTransGen (Run.Step tools target options) (Run.start project) final)
    (hfinished : final.IsFinished) :
    final.project = project.mapComponents (fun component ↦
      (resolveComponent tools target options component).component) ∧
    (∀ reports, final.result = .ok reports ↔
      project.allComponents.map (fun component ↦
        (resolveComponent tools target options component).result) = reports.map .ok) ∧
    (∀ failure, final.result = .error failure ↔
      ∃ before component after, project.allComponents = before ++ component :: after ∧
        (∀ other ∈ before, ∃ report,
          (resolveComponent tools target options other).result = .ok report) ∧
        (resolveComponent tools target options component).result = .error failure) ∧
    final.project = (resolveProject tools target options project).project ∧
    final.result = (resolveProject tools target options project).result := by
  have hsettles := (Run.settles_start tools target options project).steps hsteps
  have hproject := hsettles.project_eq hfinished
  have hresult := hsettles.result_eq hfinished
  refine ⟨hproject, fun reports ↦ ?_, fun failure ↦ ?_, ?_, ?_⟩
  · rw [hresult, collect_eq_ok_iff]
  · rw [hresult, collect_map_eq_error_iff]
  · rw [hproject, project_resolveProject]
  · rw [hresult, result_resolveProject]

/-- A component whose island does not carry its markup as a text. -/
def unreadable (name : String) : Component where
  name := name
  node := .element
    { elementType := islandType
      attrs := some (.singleton markupAttribute (.dynamic (.text "markup"))) }

/-- A project whose root can be resolved and whose two named components cannot. -/
def failingProject : Project where
  root := { name := "App", node := islandOf "a & b" [] }
  components := some <|
    KeyMap.insert (.singleton "Aside" (unreadable "Aside")) "Bar" (unreadable "Bar")

/-- The second of two failures comes first in time, yet the result is the first failure in order.
The root is resolved although it comes last. -/
theorem finished_run_failingProject :
    ∃ final : Run,
      Relation.ReflTransGen (Run.Step plainTextTools .react {}) (Run.start failingProject) final ∧
      final.IsFinished ∧
      final.project = failingProject.mapComponents (fun component ↦
        (resolveComponent plainTextTools .react {} component).component) ∧
      final.result =
        .error (.invalidNode "Aside" "`html` attribute content is not a string") := by
  have hsteps : Relation.ReflTransGen (Run.Step plainTextTools .react {})
      (Run.start failingProject) _ :=
    .tail (.tail (.tail (.tail .refl (.task 2 rfl rfl rfl)) (.task 0 rfl rfl rfl))
      (.task 1 rfl rfl rfl)) (.task 0 rfl rfl rfl)
  refine ⟨_, hsteps, by decide, ?_⟩
  obtain ⟨hproject, -, herror, -⟩ := finished_run_eq_resolveProject plainTextTools .react {}
    failingProject _ hsteps (by decide)
  refine ⟨hproject, (herror _).mpr ⟨[_], _, [_], rfl, fun other hmem ↦ ?_, rfl⟩⟩
  obtain rfl := List.mem_singleton.mp hmem
  exact ⟨_, rfl⟩

end MarkupIslands.Island
