import JsonSchema.Evaluation

/-! # Evaluation on stacks

An evaluator that keeps its place on stacks: the scopes, the frames of the schema objects around, and the dynamic
scope. What is pushed before something is applied is popped behind it, so whatever is applied leaves the stacks as
it found them, except for the values that it contributes to the innermost frame (`Run.restores_applySubschema`).
-/

namespace JsonSchema

/-- What the rules of a schema object have done so far. -/
structure Frame where
  /-- The location of the instance to which the schema object is applied. -/
  instanceLocation : Pointer
  /-- The outcomes of the rules, by keyword. -/
  siblings : List (String × Outcome)
  /-- The values attached to the instance, by keyword. -/
  attached : List (String × Json)

namespace Frame

/-- The frame of a schema object none of whose rules has been applied. -/
def start (instanceLocation : Pointer) : Frame := ⟨instanceLocation, [], []⟩

/-- The frame with further values attached. -/
def attach (frame : Frame) (values : List (String × Json)) : Frame := { frame with attached := frame.attached ++ values }

/-- The frame after one more rule. -/
def record (frame : Frame) (keyword : String) (outcome : Outcome) : Frame :=
  { frame.attach (outcome.value?.map (keyword, ·)).toList with siblings := frame.siblings ++ [(keyword, outcome)] }

/-- The frame after a schema object inside: if it passes its values on and stands at the same instance, they are
attached here as well. -/
def inherit (frame inner : Frame) (passes : Bool) : Frame :=
  if passes && frame.instanceLocation == inner.instanceLocation then frame.attach inner.attached else frame

@[simp] theorem attach_nil (frame : Frame) : frame.attach [] = frame := by
  simp [attach]

@[simp] theorem attach_attach (frame : Frame) (first second : List (String × Json)) :
    (frame.attach first).attach second = frame.attach (first ++ second) := by
  simp [attach]

@[simp] theorem instanceLocation_attach (frame : Frame) (values : List (String × Json)) :
    (frame.attach values).instanceLocation = frame.instanceLocation := rfl

@[simp] theorem instanceLocation_record (frame : Frame) (keyword : String) (outcome : Outcome) :
    (frame.record keyword outcome).instanceLocation = frame.instanceLocation := rfl

@[simp] theorem instanceLocation_inherit (frame inner : Frame) (passes : Bool) :
    (frame.inherit inner passes).instanceLocation = frame.instanceLocation := by
  unfold inherit
  split <;> rfl

end Frame

namespace Subject

/-- The dynamic scope inside something that is applied: a sub-schema adds the resource that holds it. -/
def activate : Subject → List ActiveResource → List ActiveResource
  | .application subschema, active => subschema.target.active :: active
  | .rule _, active => active

/-- The dynamic scope behind something that was applied. -/
def deactivate : Subject → List ActiveResource → List ActiveResource
  | .application _, active => active.tail
  | .rule _, active => active

@[simp] theorem deactivate_activate (subject : Subject) (active : List ActiveResource) :
    subject.deactivate (subject.activate active) = active := by
  cases subject <;> rfl

end Subject

/-- What is noted while something is evaluated. -/
inductive Notice where
  /-- Something that applied no sub-schema. -/
  | leaf (subject : Subject) (scope : Scope) (outcome : Outcome)
  | start (subject : Subject)
  | finish (subject : Subject) (scope : Scope) (outcome : Outcome)

/-- A notice with the dynamic scope in which it was made. -/
structure Moment where
  notice : Notice
  dynamicScope : List ActiveResource

/-- The state of an evaluation. All stacks are given from the innermost to the outermost. -/
structure Machine where
  scopes : List Scope
  frames : List Frame
  dynamicScope : List ActiveResource
  memory : Memory
  /-- What has been noted so far. -/
  history : List Moment

namespace Machine

/-- Before anything is evaluated. -/
def start (dialects : DialectCache) : Machine := ⟨[], [], [], ⟨[], dialects⟩, []⟩

/-- The path on which the next sub-schema is applied. -/
def path (machine : Machine) : Path := ⟨machine.scopes.head?, machine.dynamicScope⟩

/-- The scope of the next keyword. -/
def keywordScope (machine : Machine) (run : Run) (keyword : String) : Scope :=
  (machine.scopes.head?.getD ⟨run.root.id, .root, .root, .root, false, 0⟩).keyword keyword

/-- What the next rule of a schema object may look at. -/
def facts (machine : Machine) (run : Run) (application : Application) : Facts :=
  let frame := machine.frames.head?.getD (.start .root)
  ⟨run.options, application.target.document, application.node, frame.siblings, frame.attached⟩

/-- Takes a notice. -/
def note (machine : Machine) (notice : Notice) : Machine :=
  { machine with history := machine.history ++ [⟨notice, machine.dynamicScope⟩] }

/-- Enters a scope. -/
def enter (machine : Machine) (subject : Subject) (scope : Scope) : Machine :=
  { machine with
    scopes := scope :: machine.scopes
    dynamicScope := subject.activate machine.dynamicScope }.note (.start subject)

/-- Leaves the innermost scope. -/
def leave (machine : Machine) (subject : Subject) (outcome : Outcome) : Machine :=
  let behind := { machine with scopes := machine.scopes.tail, dynamicScope := subject.deactivate machine.dynamicScope }
  match machine.scopes.head? with
  | some scope => behind.note (.finish subject scope outcome)
  | none => behind

/-- Starts a frame at the instance of the innermost scope. -/
def pushFrame (machine : Machine) : Machine :=
  { machine with
    frames := .start ((machine.scopes.head?.map (·.instanceLocation)).getD .root) :: machine.frames }

/-- Drops the innermost frame, whose values may pass to the frame around it. -/
def popFrame (machine : Machine) (passes : Bool) : Machine :=
  { machine with
    frames :=
      match machine.frames with
      | [] => []
      | inner :: around => around.modifyHead (·.inherit inner passes) }

/-- Enters an outcome into the innermost frame. -/
def record (machine : Machine) (keyword : String) (outcome : Outcome) : Machine :=
  { machine with frames := machine.frames.modifyHead (·.record keyword outcome) }

end Machine

/-- Steps of an evaluation on stacks. -/
abbrev Operation := StateM Machine

/-- How sub-schemas are applied. -/
abbrev Call := Application → Operation Outcome

/-- Does something in a scope of its own. -/
def Operation.inScope (subject : Subject) (scope : Scope) (operation : Operation Outcome) : Operation Outcome := do
  modify (·.enter subject scope)
  let outcome ← operation
  modify (·.leave subject outcome)
  return outcome

namespace Run

/-- The target of a rule of a schema object, if it is a reference that leads anywhere. -/
def follow (run : Run) (application : Application) (rule : Rule) : Operation (Option Target) := do
  let machine ← get
  let (target, memory) := (run.target application.target.document machine.dynamicScope rule).run machine.memory
  set { machine with memory }
  return target

/-- Carries out the plan of a rule. -/
def carryOut (run : Run) (call : Call) (application : Application) (rule : Rule) : Operation Outcome := do
  let target ← run.follow application rule
  let plan := rule.plan ((← get).facts run application) target application.value
  return plan.conclude (← plan.applications.mapM call)

/-- Carries out a rule where it reports: one that applies sub-schemas does so in a scope of its own. -/
def reportRule (run : Run) (call : Call) (application : Application) (rule : Rule) : Operation Outcome := do
  let scope := (← get).keywordScope run rule.keyword
  if rule.isLeaf then
    let outcome ← run.carryOut call application rule
    modify (·.note (.leaf (.rule rule) scope outcome))
    return outcome
  else .inScope (.rule rule) scope (run.carryOut call application rule)

/-- Applies a rule of a schema object and keeps its outcome for the rules after it. -/
def applyKeyword (run : Run) (call : Call) (application : Application) (rule : Rule) : Operation Outcome := do
  let outcome ← run.reportRule call application rule
  modify (·.record rule.keyword outcome)
  return outcome

/-- Applies the rules of a schema object in a new frame; yields whether all of them are valid. -/
def fillFrame (run : Run) (call : Call) (application : Application) (rules : List Rule) : Operation Bool := do
  modify (·.pushFrame)
  return (← (rules.filter (·.isApplied)).mapM (run.applyKeyword call application)).all (·.isValid)

/-- Applies a schema object. -/
def evaluateObject (run : Run) (call : Call) (application : Application) (rules : List Rule) :
    Operation Outcome := do
  let valid ← run.fillFrame call application rules
  modify (·.popFrame (valid && !application.isolated))
  return .ofBool valid

/-- Applies a sub-schema of any form. -/
def applyShape (run : Run) (call : Call) (application : Application) : Operation Outcome :=
  match application.node.shape with
  | .boolean accepts => return .require accepts "Value not allowed by schema"
  | .object rules => run.evaluateObject call application rules

/-- Cuts an application off. -/
def refuse (run : Run) : Call := fun application => do
  let outcome := .fail "Maximum evaluation depth exceeded"
  modify fun machine => machine.note (.leaf (.application application) (machine.path.scope run application) outcome)
  return outcome

/-- Applies a sub-schema in a scope of its own unless the limit of the options is reached. -/
def applyOnce (run : Run) (call : Call) : Call := fun application => do
  let machine ← get
  if run.options.maxDepth ≤ machine.scopes.length then run.refuse application
  else .inScope (.application application) (machine.path.scope run application) (run.applyShape call application)

/-- Applies a sub-schema inside a number of further calls. -/
def applySubschema (run : Run) : Nat → Call
  | 0 => run.refuse
  | calls + 1 => run.applyOnce (run.applySubschema calls)

end Run

/-- Evaluates a schema against an instance on stacks. -/
def Schema.execute (schema : Schema) (options : Options) (value : Json) (dialects : DialectCache) :
    Outcome × Machine :=
  ((Run.mk options schema).applySubschema options.maxDepth
    (.inPlace ⟨schema.document, schema.rootIndex⟩ value none)).run (.start dialects)

/-! ## What is left of the stacks -/

namespace Machine

/-- Leaving undoes entering, whatever was done inside, as long as it left its scope and its dynamic scope. -/
theorem leave_eq {machine inner : Machine} {subject : Subject} {scope : Scope}
    (scopes : inner.scopes = scope :: machine.scopes)
    (active : inner.dynamicScope = subject.activate machine.dynamicScope) (outcome : Outcome) :
    inner.leave subject outcome =
      { inner with scopes := machine.scopes, dynamicScope := machine.dynamicScope }.note
        (.finish subject scope outcome) := by
  simp [leave, scopes, active]

theorem frames_popFrame {machine : Machine} {inner : Frame} {around : List Frame}
    (frames : machine.frames = inner :: around) (passes : Bool) :
    (machine.popFrame passes).frames = around.modifyHead (·.inherit inner passes) := by
  rw [popFrame, frames]

/-- Whether the stacks are the same but for what has been entered into the innermost frame. -/
structure SameStacks (before after : Machine) : Prop where
  scopes_eq : after.scopes = before.scopes
  dynamicScope_eq : after.dynamicScope = before.dynamicScope
  around_eq : after.frames.tail = before.frames.tail
  location_eq : after.frames.head?.map (·.instanceLocation) = before.frames.head?.map (·.instanceLocation)

namespace SameStacks

variable {first second third : Machine}

theorem refl (machine : Machine) : machine.SameStacks machine := ⟨rfl, rfl, rfl, rfl⟩

theorem trans (before : first.SameStacks second) (after : second.SameStacks third) : first.SameStacks third :=
  ⟨after.scopes_eq.trans before.scopes_eq, after.dynamicScope_eq.trans before.dynamicScope_eq,
    after.around_eq.trans before.around_eq, after.location_eq.trans before.location_eq⟩

theorem note (machine : Machine) (notice : Notice) : machine.SameStacks (machine.note notice) := ⟨rfl, rfl, rfl, rfl⟩

theorem of_modifyHead (scopes : second.scopes = first.scopes) (active : second.dynamicScope = first.dynamicScope)
    {change : Frame → Frame} (frames : second.frames = first.frames.modifyHead change)
    (stays : ∀ frame, (change frame).instanceLocation = frame.instanceLocation) : first.SameStacks second := by
  refine ⟨scopes, active, ?_, ?_⟩ <;> rw [frames] <;> cases first.frames <;> simp [stays]

theorem record (machine : Machine) (keyword : String) (outcome : Outcome) :
    machine.SameStacks (machine.record keyword outcome) :=
  of_modifyHead rfl rfl rfl fun frame => frame.instanceLocation_record keyword outcome

/-- What is done in a scope of its own leaves the stacks as they were before the scope was entered. -/
theorem leave {machine inner : Machine} {subject : Subject} {scope : Scope}
    (same : (machine.enter subject scope).SameStacks inner) (outcome : Outcome) :
    machine.SameStacks (inner.leave subject outcome) := by
  rw [leave_eq same.scopes_eq same.dynamicScope_eq]
  exact ⟨rfl, rfl, same.around_eq, same.location_eq⟩

/-- A new frame is all that the rules of a schema object change. -/
theorem frames_eq {machine inner : Machine} (same : machine.pushFrame.SameStacks inner) :
    ∃ frame, inner.frames = frame :: machine.frames ∧
      frame.instanceLocation = (machine.scopes.head?.map (·.instanceLocation)).getD .root := by
  have around : inner.frames.tail = machine.frames := same.around_eq
  have location := same.location_eq
  cases frames : inner.frames with
  | nil => simp [frames, pushFrame] at location
  | cons frame rest =>
    rw [frames] at around location
    exact ⟨frame, congrArg (frame :: ·) around, Option.some.inj location⟩

end SameStacks

end Machine

namespace Operation

open Machine

variable {α β : Type} {operation : Operation α}

theorem run_pure (value : α) (machine : Machine) : (pure value : Operation α).run machine = (value, machine) := rfl

theorem run_bind (first : Operation α) (next : α → Operation β) (machine : Machine) :
    (first >>= next).run machine = (next (first.run machine).1).run (first.run machine).2 := rfl

theorem run_get (machine : Machine) : (get : Operation Machine).run machine = (machine, machine) := rfl

theorem run_modify (change : Machine → Machine) (machine : Machine) :
    (modify change : Operation PUnit).run machine = (⟨⟩, change machine) := rfl

/-- Whether an operation changes nothing on the stacks but the innermost frame. -/
def KeepsStacks (operation : Operation α) : Prop := ∀ machine : Machine, machine.SameStacks (operation.run machine).2

theorem keepsStacks_pure (value : α) : KeepsStacks (pure value) := SameStacks.refl

theorem keepsStacks_modify {change : Machine → Machine} (keeps : ∀ machine : Machine, machine.SameStacks (change machine)) :
    KeepsStacks (modify change : Operation Unit) := keeps

theorem keepsStacks_get : KeepsStacks (get : Operation Machine) := SameStacks.refl

theorem KeepsStacks.bind {next : α → Operation β} (keeps : operation.KeepsStacks)
    (keepsNext : ∀ value, (next value).KeepsStacks) : (operation >>= next).KeepsStacks :=
  fun machine => (keeps machine).trans (keepsNext _ _)

theorem KeepsStacks.mapM {list : List α} {each : α → Operation β} (keeps : ∀ item, (each item).KeepsStacks) :
    (list.mapM each).KeepsStacks := by
  induction list with
  | nil => exact keepsStacks_pure _
  | cons first rest ih =>
    rw [List.mapM_cons]
    exact (keeps first).bind fun value => ih.bind fun values => keepsStacks_pure _

theorem KeepsStacks.inScope {operation : Operation Outcome} (keeps : operation.KeepsStacks) (subject : Subject)
    (scope : Scope) : (Operation.inScope subject scope operation).KeepsStacks :=
  fun machine => (keeps (machine.enter subject scope)).leave _

end Operation

namespace Run

open Machine Operation

variable (run : Run) {call : Call}

theorem keepsStacks_follow (application : Application) (rule : Rule) : (run.follow application rule).KeepsStacks :=
  fun _ => ⟨rfl, rfl, rfl, rfl⟩

theorem keepsStacks_applyKeyword (keeps : ∀ application, (call application).KeepsStacks) (application : Application)
    (rule : Rule) : (run.applyKeyword call application rule).KeepsStacks := by
  have carries : (run.carryOut call application rule).KeepsStacks :=
    (run.keepsStacks_follow application rule).bind fun target => keepsStacks_get.bind fun machine =>
      (KeepsStacks.mapM keeps).bind fun outcomes => keepsStacks_pure _
  have reports : (run.reportRule call application rule).KeepsStacks := by
    refine keepsStacks_get.bind fun machine => ?_
    split
    · exact carries.bind fun outcome => (keepsStacks_modify fun _ => .note _ _).bind fun _ => keepsStacks_pure _
    · exact carries.inScope _ _
  exact reports.bind fun outcome => (keepsStacks_modify fun _ => .record _ _ _).bind fun _ => keepsStacks_pure _

/-- The rules of a schema object leave the stacks as they are below the frame that they fill. -/
theorem frames_fillFrame (keeps : ∀ application, (call application).KeepsStacks) (application : Application)
    (rules : List Rule) (machine : Machine) :
    machine.pushFrame.SameStacks ((run.fillFrame call application rules).run machine).2 :=
  (KeepsStacks.mapM (run.keepsStacks_applyKeyword keeps application)) machine.pushFrame

/-- The frame of a sub-schema behind its last rule, if it is a schema object that is not cut off. -/
def frame? (call : Call) (application : Application) (machine : Machine) : Option Frame :=
  if run.options.maxDepth ≤ machine.scopes.length then none
  else
    match application.node.shape with
    | .boolean _ => none
    | .object rules =>
      let inside := machine.enter (.application application) (machine.path.scope run application)
      ((run.fillFrame call application rules).run inside).2.frames.head?

/-- What an application leaves of the stacks: the scopes and the dynamic scope are as before, and so are the frames
but for the values that the innermost one inherits from the frame of the sub-schema. -/
structure Restores (application : Application) (frame? : Option Frame) (before : Machine)
    (result : Outcome × Machine) : Prop where
  scopes_eq : result.2.scopes = before.scopes
  dynamicScope_eq : result.2.dynamicScope = before.dynamicScope
  frames_eq : result.2.frames = before.frames.modifyHead fun around =>
    frame?.elim around fun inner => around.inherit inner (result.1.isValid && !application.isolated)

theorem Restores.sameStacks {application : Application} {frame? : Option Frame} {before : Machine}
    {result : Outcome × Machine} (restores : Restores application frame? before result) :
    before.SameStacks result.2 := by
  refine .of_modifyHead restores.scopes_eq restores.dynamicScope_eq restores.frames_eq fun around => ?_
  cases frame? with
  | none => rfl
  | some inner => exact around.instanceLocation_inherit inner _

theorem restores_refuse (application : Application) (before : Machine) :
    Restores application none before ((run.refuse application).run before) := by
  refine ⟨rfl, rfl, ?_⟩
  show before.frames = _
  cases before.frames <;> rfl

theorem run_inScope (subject : Subject) (scope : Scope) (operation : Operation Outcome) (before : Machine) :
    (Operation.inScope subject scope operation).run before =
      let result := operation.run (before.enter subject scope)
      (result.1, result.2.leave subject result.1) := rfl

theorem run_applyOnce (application : Application) (before : Machine) :
    (run.applyOnce call application).run before =
      if run.options.maxDepth ≤ before.scopes.length then (run.refuse application).run before
      else (Operation.inScope (.application application) (before.path.scope run application)
        (run.applyShape call application)).run before := by
  rw [applyOnce, run_bind, run_get]
  exact apply_ite (StateT.run · before) _ _ _

theorem restores_applyOnce (keeps : ∀ application, (call application).KeepsStacks) (application : Application)
    (before : Machine) :
    Restores application (run.frame? call application before) before ((run.applyOnce call application).run before) := by
  by_cases limited : run.options.maxDepth ≤ before.scopes.length
  · rw [run_applyOnce, if_pos limited, frame?, if_pos limited]
    exact run.restores_refuse application before
  · rw [run_applyOnce, if_neg limited, frame?, if_neg limited, run_inScope]
    cases shape : application.node.shape with
    | boolean accepts =>
      simp only [applyShape, shape, run_pure]
      rw [leave_eq rfl rfl]
      refine ⟨rfl, rfl, ?_⟩
      show before.frames = _
      cases before.frames <;> rfl
    | object rules =>
      have filled := run.frames_fillFrame keeps application rules
        (before.enter (.application application) (before.path.scope run application))
      simp only [applyShape, shape, evaluateObject, run_bind, run_modify, run_pure]
      generalize (run.fillFrame call application rules).run _ = result at filled ⊢
      obtain ⟨valid, inner⟩ := result
      obtain ⟨frame, frames, -⟩ := filled.frames_eq
      have popped := frames_popFrame frames (valid && !application.isolated)
      have scopes : (inner.popFrame (valid && !application.isolated)).scopes = _ :: before.scopes := filled.scopes_eq
      have active : (inner.popFrame (valid && !application.isolated)).dynamicScope =
        (Subject.application application).activate before.dynamicScope := filled.dynamicScope_eq
      rw [leave_eq scopes active]
      refine ⟨rfl, rfl, popped.trans ?_⟩
      rw [show inner.frames.head? = some frame from congrArg List.head? frames]
      simp [enter, note]

/-- Every application restores the stacks. -/
theorem keepsStacks_applySubschema (calls : Nat) (application : Application) :
    (run.applySubschema calls application).KeepsStacks := by
  induction calls generalizing application with
  | zero => exact fun machine => (run.restores_refuse application machine).sameStacks
  | succ calls ih => exact fun machine => (run.restores_applyOnce ih application machine).sameStacks

/-- The frame of a sub-schema behind its last rule. -/
def ownFrame? : Nat → Application → Machine → Option Frame
  | 0 => fun _ _ => none
  | calls + 1 => run.frame? (run.applySubschema calls)

/-- Every application restores the stacks. -/
theorem restores_applySubschema (calls : Nat) (application : Application) (before : Machine) :
    Restores application (run.ownFrame? calls application before) before
      ((run.applySubschema calls application).run before) := by
  cases calls with
  | zero => exact run.restores_refuse application before
  | succ calls => exact run.restores_applyOnce (run.keepsStacks_applySubschema calls) application before

end Run

end JsonSchema
