import JsonSchema.Proofs.Evaluation.Derivation
import JsonSchema.Proofs.Evaluation.Machine

/-! # Evaluation on stacks is evaluation

The evaluator on stacks yields the outcomes of the evaluation along a path, notes the moments of its trace, and
leaves what the evaluation contributes in the innermost frame (`Run.refines_applySubschema`).
-/

namespace JsonSchema

namespace Trace

mutual

/-- The moments at which a trace starts and finishes something, in a dynamic scope. -/
def moments (active : List ActiveResource) : Trace → List Moment
  | .leaf subject scope outcome => [⟨.leaf subject scope outcome, active⟩]
  | .branch subject scope outcome children =>
    ⟨.start subject, subject.activate active⟩ ::
      (momentsOf (subject.activate active) children ++ [⟨.finish subject scope outcome, active⟩])

/-- The moments of several traces. -/
def momentsOf (active : List ActiveResource) : List Trace → List Moment
  | [] => []
  | trace :: rest => trace.moments active ++ momentsOf active rest

end

variable (active : List ActiveResource)

theorem momentsOf_append (front back : List Trace) :
    momentsOf active (front ++ back) = momentsOf active front ++ momentsOf active back := by
  induction front with
  | nil => rfl
  | cons trace rest ih => simp only [List.cons_append, momentsOf, ih, List.append_assoc]

theorem momentsOf_singleton (trace : Trace) : momentsOf active [trace] = trace.moments active := by
  simp only [momentsOf, List.append_nil]

end Trace

namespace Machine

/-- The machine after something was applied that contributed some values and left some traces. -/
def absorb (machine : Machine) (values : List (String × Json)) (traces : List Trace) (memory : Memory) : Machine :=
  { machine with
    frames := machine.frames.modifyHead (·.attach values)
    memory
    history := machine.history ++ Trace.momentsOf machine.dynamicScope traces }

/-- The outcome of an application and the machine after it, given what was applied. -/
def taking (machine : Machine) (application : Application) (result : Applied × Memory) : Outcome × Machine :=
  (result.1.outcome, machine.absorb (result.1.contribution application) [result.1.trace] result.2)

/-- The outcomes of some applications and the machine after them. -/
def takingAll (machine : Machine) (result : List (Application × Applied) × Memory) : List Outcome × Machine :=
  (result.1.map (·.2.outcome), machine.absorb (result.1.flatMap fun (application, applied) =>
    applied.contribution application) (result.1.map (·.2.trace)) result.2)

/-- The machine inside a schema object that has progressed so far. -/
def progressed (inside : Machine) (progress : Progress) (memory : Memory) : Machine :=
  { inside with
    frames := ⟨(inside.scopes.head?.map (·.instanceLocation)).getD .root, progress.siblings, progress.attached⟩ ::
      inside.frames
    memory
    history := inside.history ++ Trace.momentsOf inside.dynamicScope progress.traces }

@[simp] theorem path_absorb (machine : Machine) (values : List (String × Json)) (traces : List Trace)
    (memory : Memory) : (machine.absorb values traces memory).path = machine.path := rfl

theorem absorb_absorb (machine : Machine) (values more : List (String × Json)) (traces further : List Trace)
    (first second : Memory) :
    (machine.absorb values traces first).absorb more further second =
      machine.absorb (values ++ more) (traces ++ further) second := by
  simp only [absorb, Trace.momentsOf_append, List.append_assoc]
  cases machine.frames <;> simp

theorem absorb_nil (machine : Machine) (memory : Memory) : machine.absorb [] [] memory = { machine with memory } := by
  simp only [absorb, Trace.momentsOf, List.append_nil]
  cases machine.frames <;> simp

theorem pushFrame_eq (inside : Machine) : inside.pushFrame = inside.progressed .start inside.memory := by
  simp [pushFrame, progressed, Progress.start, Trace.momentsOf, Frame.start]

theorem absorb_singleton (machine : Machine) (trace : Trace) :
    machine.absorb [] [trace] machine.memory =
      { machine with history := machine.history ++ trace.moments machine.dynamicScope } := by
  simp only [absorb, Trace.momentsOf_singleton]
  cases machine.frames <;> simp

/-- Whether the stacks belong together. -/
structure IsSound (machine : Machine) : Prop where
  depth_eq : machine.path.depth = machine.scopes.length
  location_eq : ∀ frame ∈ machine.frames.head?,
    machine.scopes.head?.map (·.instanceLocation) = some frame.instanceLocation

theorem isSound_start (dialects : DialectCache) : (start dialects).IsSound := ⟨rfl, nofun⟩

variable {machine : Machine}

theorem IsSound.absorb (sound : machine.IsSound) (values : List (String × Json)) (traces : List Trace)
    (memory : Memory) : (machine.absorb values traces memory).IsSound := by
  refine ⟨sound.depth_eq, fun frame inside => ?_⟩
  cases frames : machine.frames with
  | nil => simp [Machine.absorb, frames] at inside
  | cons first rest =>
    obtain rfl : first.attach values = frame := by simpa [Machine.absorb, frames] using inside
    exact sound.location_eq first (by rw [frames]; rfl)

theorem IsSound.remember (sound : machine.IsSound) (memory : Memory) : IsSound { machine with memory } :=
  ⟨sound.depth_eq, sound.location_eq⟩

end Machine

namespace Run

open Machine Operation

variable {run : Run} {call : Call} {apply : Applier} {level : Nat}

/-- Whether an evaluator on stacks does what an evaluator along paths does, inside a number of scopes. -/
def Refines (call : Call) (apply : Applier) (level : Nat) : Prop :=
  ∀ (machine : Machine) application, machine.IsSound → machine.scopes.length = level →
    (call application).run machine = machine.taking application ((apply machine.path application).run machine.memory)

theorem refines_mapM (refines : Refines call apply level) (applications : List Application) {machine : Machine}
    (sound : machine.IsSound) (inside : machine.scopes.length = level) :
    (applications.mapM call).run machine =
      machine.takingAll ((applyAll apply machine.path applications).run machine.memory) := by
  induction applications generalizing machine with
  | nil => exact congrArg (([], ·)) (machine.absorb_nil machine.memory).symm
  | cons application rest ih =>
    simp only [List.mapM_cons, run_bind, refines machine application sound inside, run_pure, applyAll,
      Evaluation.run_bind, Evaluation.run_pure, taking]
    rw [ih (sound.absorb _ _ _) inside]
    simp only [path_absorb, takingAll, absorb_absorb, List.map_cons, List.flatMap_cons, List.singleton_append]
    rfl

/-- A rule is carried out by its plan. -/
theorem run_carryOut (call : Call) (application : Application) (rule : Rule) (machine : Machine) :
    let found := (run.target application.target.document machine.dynamicScope rule).run machine.memory
    let plan := rule.plan (machine.facts run application) found.1 application.value
    let results := (plan.applications.mapM call).run { machine with memory := found.2 }
    (run.carryOut call application rule).run machine = (plan.conclude results.1, results.2) := rfl

/-! ## Schema objects -/

variable {inside : Machine} {scope : Scope} {around : List Scope}

theorem isSound_enter_rule (within : inside.scopes = scope :: around) (deep : scope.depth = around.length)
    (progress : Progress) (memory : Memory) (rule : Rule) :
    ((inside.progressed progress memory).enter (.rule rule) (scope.keyword rule.keyword)).IsSound := by
  refine ⟨?_, ?_⟩
  · simp [path, enter, note, progressed, Path.depth, Scope.keyword, within, deep]
  · intro frame member
    obtain rfl : _ = frame := Option.some.inj member
    simp [enter, note, progressed, Scope.keyword, within]

/-- A rule that applies sub-schemas is carried out in a scope of its own. -/
theorem leave_takingAll (machine : Machine) (rule : Rule) (scope : Scope)
    (results : List (Application × Applied) × Memory) (outcome : Outcome) :
    ((machine.enter (.rule rule) scope).takingAll results).2.leave (.rule rule) outcome =
      machine.absorb (results.1.flatMap fun (application, applied) => applied.contribution application)
        [.branch (.rule rule) scope outcome (results.1.map (·.2.trace))] results.2 := by
  simp [takingAll, absorb, enter, leave, note, Subject.activate, Subject.deactivate, Trace.momentsOf, Trace.moments]

theorem record_absorb_progressed (progress : Progress) (memory later : Memory) (step : Step) :
    ((inside.progressed progress memory).absorb step.contributed [step.trace scope] later).record step.rule.keyword
      step.outcome = inside.progressed (progress.perform scope step) later := by
  simp [absorb, progressed, Machine.record, Frame.record, Frame.attach, Progress.perform, Progress.record,
    Trace.momentsOf_append, Trace.momentsOf]

/-- The step that a rule of a schema object makes, with the memory behind it. -/
def stepOf (run : Run) (apply : Applier) (active : List ActiveResource) (application : Application) (scope : Scope)
    (progress : Progress) (rule : Rule) (memory : Memory) : Step × Memory :=
  let found := (run.target application.target.document active rule).run memory
  let facts : Facts :=
    ⟨run.options, application.target.document, application.node, progress.siblings, progress.attached⟩
  let plan := rule.plan facts found.1 application.value
  let results := (applyAll apply ⟨some (scope.keyword rule.keyword), active⟩ plan.applications).run found.2
  (⟨rule, facts, found.1, application.value, results.1⟩, results.2)

variable (run apply) in
theorem run_applyRule (active : List ActiveResource) (application : Application) (scope : Scope) (progress : Progress)
    (rule : Rule) (memory : Memory) :
    (run.applyRule apply active application.target.document application.node scope application.value progress
      rule).run memory =
    (progress.perform scope (run.stepOf apply active application scope progress rule memory).1,
      (run.stepOf apply active application scope progress rule memory).2) := rfl

/-- A rule reports what its step yields. -/
theorem run_reportRule (within : inside.scopes = scope :: around) (deep : scope.depth = around.length)
    (refines : Refines call apply (around.length + 2)) (application : Application) (rule : Rule) (progress : Progress)
    (memory : Memory) :
    let (step, later) := run.stepOf apply inside.dynamicScope application scope progress rule memory
    (run.reportRule call application rule).run (inside.progressed progress memory) =
      (step.outcome, (inside.progressed progress memory).absorb step.contributed [step.trace scope] later) := by
  have keyword : (inside.progressed progress memory).keywordScope run rule.keyword = scope.keyword rule.keyword := by
    simp [keywordScope, progressed, within]
  rw [reportRule, run_bind, run_get]
  dsimp only
  rw [keyword]
  cases leaf : rule.isLeaf with
  | true =>
    have carried : (run.carryOut call application rule).run (inside.progressed progress memory) =
        let (step, later) := run.stepOf apply inside.dynamicScope application scope progress rule memory
        (step.outcome, (inside.progressed progress memory).absorb step.contributed [] later) := by
      rw [run_carryOut]
      simp only [stepOf, Step.outcome, Step.plan, Step.contributed, Rule.applications_plan_of_isLeaf leaf, applyAll,
        Evaluation.run_pure, List.flatMap_nil, absorb_nil]
      rfl
    rw [if_pos rfl, run_bind, carried, run_bind, run_modify, run_pure]
    simp only [stepOf, Step.trace, leaf]
    simp [absorb, note, Trace.momentsOf, Trace.moments]
  | false =>
    have sound := isSound_enter_rule within deep progress memory rule
    generalize entered : (inside.progressed progress memory).enter (.rule rule) (scope.keyword rule.keyword) = machine
      at sound
    have carried : (run.carryOut call application rule).run machine =
        let (step, later) := run.stepOf apply inside.dynamicScope application scope progress rule memory
        (step.outcome, (machine.takingAll (step.results, later)).2) := by
      rw [run_carryOut]
      dsimp only
      rw [refines_mapM refines _ (sound.remember _) (by simp [← entered, enter, note, progressed, within])]
      subst entered
      rfl
    rw [if_neg Bool.false_ne_true, run_inScope, entered, carried, ← entered]
    dsimp only
    rw [leave_takingAll]
    simp only [stepOf, Step.trace, leaf, Bool.false_eq_true, if_false]
    rfl

variable (run) in
/-- A rule is applied as the evaluation says. -/
theorem run_applyKeyword (within : inside.scopes = scope :: around) (deep : scope.depth = around.length)
    (refines : Refines call apply (around.length + 2)) (application : Application) (rule : Rule) (progress : Progress)
    (memory : Memory) :
    let (step, later) := run.stepOf apply inside.dynamicScope application scope progress rule memory
    (run.applyKeyword call application rule).run (inside.progressed progress memory) =
      (step.outcome, inside.progressed (progress.perform scope step) later) := by
  rw [applyKeyword, run_bind, run_reportRule within deep refines, run_bind, run_modify, run_pure]
  exact congrArg (Prod.mk _) (record_absorb_progressed ..)

/-- The rules of a schema object are applied in order as the evaluation says. -/
theorem run_applyKeywords (within : inside.scopes = scope :: around) (deep : scope.depth = around.length)
    (refines : Refines call apply (around.length + 2)) (application : Application) (rules : List Rule)
    (progress : Progress) (memory : Memory) :
    let result := (run.applyRules apply inside.dynamicScope application.target.document application.node scope
      application.value progress rules).run memory
    ∃ outcomes : List Outcome, (rules.mapM (run.applyKeyword call application)).run (inside.progressed progress memory) =
        (outcomes, inside.progressed result.1 result.2) ∧
      result.1.isValid = (progress.isValid && outcomes.all (·.isValid)) := by
  induction rules generalizing progress memory with
  | nil => exact ⟨[], rfl, (Bool.and_true _).symm⟩
  | cons rule rest ih =>
    have keyword := run.run_applyKeyword within deep refines application rule progress memory
    simp only [applyRules, Evaluation.run_bind, run_applyRule]
    generalize run.stepOf apply inside.dynamicScope application scope progress rule memory = result at keyword ⊢
    obtain ⟨step, later⟩ := result
    obtain ⟨outcomes, carried, valid⟩ := ih (progress.perform scope step) later
    refine ⟨step.outcome :: outcomes, ?_, ?_⟩
    · simp only [List.mapM_cons, run_bind, keyword, carried, run_pure]
    · rw [valid, progress.isValid_perform, List.all_cons, Bool.and_assoc]

/-- The frame around a schema object inherits what the application contributes. -/
theorem inherit_progressed {machine : Machine} (sound : machine.IsSound) (application : Application) {frame : Frame}
    (member : frame ∈ machine.frames.head?) (siblings : List (String × Outcome)) (attached : List (String × Json))
    (passes : Bool) :
    frame.inherit ⟨(machine.path.scope run application).instanceLocation, siblings, attached⟩ passes =
      frame.attach (if passes && application.step.isNone then attached else []) := by
  have location := sound.location_eq frame member
  obtain ⟨outer, open_, same⟩ := Option.map_eq_some_iff.mp location
  have here : (machine.path.scope run application).instanceLocation =
      frame.instanceLocation.append application.step.toList := by
    simp [Path.scope, path, open_, same, Path.extend]
  have alike : (frame.instanceLocation == frame.instanceLocation.append application.step.toList) =
      application.step.isNone := by
    cases application.step with
    | none => simp [Pointer.append]
    | some token =>
      refine beq_eq_false_iff_ne.mpr fun same => ?_
      simpa [Pointer.append] using congrArg (·.tokens.length) same
  rw [here, Frame.inherit, alike]
  split <;> simp

/-- A schema object is left with what its application contributes. -/
theorem leave_popFrame {machine : Machine} (sound : machine.IsSound) (application : Application) (final : Progress)
    (later : Memory) (passes : Bool) (outcome : Outcome) :
    let scope := machine.path.scope run application
    (((machine.enter (.application application) scope).progressed final later).popFrame passes).leave
        (.application application) outcome =
      machine.absorb (if passes && application.step.isNone then final.attached else [])
        [.branch (.application application) scope outcome final.traces] later := by
  intro scope
  have inherited : machine.frames.modifyHead (·.inherit ⟨scope.instanceLocation, final.siblings, final.attached⟩ passes) =
      machine.frames.modifyHead (·.attach (if passes && application.step.isNone then final.attached else [])) := by
    cases frames : machine.frames with
    | nil => rfl
    | cons frame rest =>
      simp only [List.modifyHead_cons]
      rw [inherit_progressed sound application (by simp [frames])]
  simp [popFrame, progressed, enter, leave, note, absorb, inherited, Subject.activate, Subject.deactivate,
    Trace.momentsOf, Trace.moments]

/-- A Boolean schema contributes nothing. -/
theorem leave_enter {machine : Machine} (application : Application) (scope : Scope) (outcome : Outcome) :
    (machine.enter (.application application) scope).leave (.application application) outcome =
      machine.absorb [] [.branch (.application application) scope outcome []] machine.memory := by
  simp [enter, leave, note, absorb_singleton, Trace.moments, Trace.momentsOf]

/-- A sub-schema is applied as the evaluation says, if those inside it are. -/
theorem refines_applyOnce {level : Nat} (refines : Refines call apply (level + 2))
    (shallow : level < run.options.maxDepth) : Refines (run.applyOnce call) (run.applyNode apply) level := by
  rintro machine application sound rfl
  rw [run_applyOnce, if_neg (Nat.not_le.mpr shallow), run_inScope]
  cases shape : application.node.shape with
  | boolean accepts =>
    simp only [applyShape, shape, run_pure, applyNode, Evaluation.run_pure, leave_enter, taking]
    rw [Applied.contribution, ite_self]
    rfl
  | object rules =>
    generalize evaluated : (run.applyRules apply (application.target.active :: machine.path.active)
      application.target.document application.node (machine.path.scope run application) application.value .start
      (rules.filter (·.isApplied))).run machine.memory = result
    obtain ⟨outcomes, carried, valid⟩ : ∃ outcomes : List Outcome,
        ((rules.filter (·.isApplied)).mapM (run.applyKeyword call application)).run
          ((machine.enter (.application application) (machine.path.scope run application)).progressed .start
            machine.memory) =
          (outcomes, (machine.enter (.application application) (machine.path.scope run application)).progressed
            result.1 result.2) ∧ result.1.isValid = outcomes.all (·.isValid) := by
      rw [← evaluated]
      exact run_applyKeywords rfl sound.depth_eq refines application _ .start machine.memory
    simp only [applyShape, shape, evaluateObject, fillFrame, run_bind, run_modify, run_pure, pushFrame_eq, applyNode,
      Evaluation.run_bind, Evaluation.run_pure, evaluated]
    rw [show (machine.enter _ _).memory = machine.memory from rfl, carried]
    dsimp only
    have contributes : (result.1.isValid && !application.isolated && application.step.isNone) =
        ((Outcome.ofBool result.1.isValid).isValid && application.contributes) := by
      rw [Outcome.isValid_ofBool, Application.contributes, Bool.and_comm application.step.isNone, Bool.and_assoc]
    rw [← valid, leave_popFrame sound, contributes]
    rfl

theorem refines_refuse (level : Nat) : Refines run.refuse (run.applyWithin 0) level := by
  intro machine application sound height
  have nothing : (run.cutOff machine.path application).contribution application = [] := rfl
  rw [applyWithin, Evaluation.run_pure, taking, nothing]
  exact congrArg (Prod.mk _) (machine.absorb_singleton (run.cutOff machine.path application).trace).symm

theorem applyWithin_of_pos {scopes : Nat} (some : 0 < scopes) :
    run.applyWithin scopes = run.applyNode (run.applyWithin (scopes - 2)) := by
  match scopes with
  | 1 => rfl
  | scopes + 2 => rfl

variable (run) in
/-- Evaluation on stacks is evaluation along paths, with as many scopes left as the stack leaves. -/
theorem refines_applySubschema (calls level : Nat) (enough : run.options.maxDepth ≤ level + 2 * calls) :
    Refines (run.applySubschema calls) (run.applyWithin (run.options.maxDepth - level)) level := by
  induction calls generalizing level with
  | zero =>
    rw [Nat.sub_eq_zero_of_le (by simpa using enough)]
    exact refines_refuse level
  | succ calls ih =>
    by_cases limited : run.options.maxDepth ≤ level
    · rintro machine application sound rfl
      rw [Nat.sub_eq_zero_of_le limited]
      exact (run.run_applyOnce application machine).trans ((if_pos limited).trans
        (refines_refuse _ machine application sound rfl))
    · rw [applyWithin_of_pos (by omega), Nat.sub_sub]
      exact refines_applyOnce (ih (level + 2) (by omega)) (by omega)

end Run

end JsonSchema
