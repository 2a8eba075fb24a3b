import JsonSchema.Proofs.Compile.Depth
import JsonSchema.Proofs.Evaluation.DynamicScope
import Mathlib.Logic.Function.Iterate
import Mathlib.Logic.Relation

/-! # Nesting and termination

Neither the schema nor the instance gets smaller along a cycle of references. What ends an evaluation is that a
sub-schema is refused where the scopes reach the limit: from there on it does not matter how sub-schemas further
down would be applied, so the recursion of the evaluation has one solution, reached after a bounded number of calls
within calls (`Run.existsUnique_applyOnce_eq`, `Run.agree_iterate`). The keywords in the last sub-schema that is applied
may still enter a scope each, which makes one scope more than the limit (`Run.nests_applySubschema`).
-/

namespace JsonSchema

/-! ## Moves -/

namespace Machine

/-- What happens to a machine at once. Only `enter` and `leave` touch the scopes. -/
inductive Moves : Machine → Machine → Prop where
  | enter (machine : Machine) (subject : Subject) (scope : Scope) : Moves machine (machine.enter subject scope)
  | leave (machine : Machine) (subject : Subject) (outcome : Outcome) : Moves machine (machine.leave subject outcome)
  | leaf (machine : Machine) (subject : Subject) (scope : Scope) (outcome : Outcome) :
      Moves machine (machine.note (.leaf subject scope outcome))
  | remember (machine : Machine) (memory : Memory) : Moves machine { machine with memory }
  | frames (machine : Machine) (frames : List Frame) : Moves machine { machine with frames }

/-- Whether a machine comes from another one by moves without ever holding more scopes than a limit. -/
def Reaches (limit : Nat) : Machine → Machine → Prop :=
  Relation.ReflTransGen fun before after => before.Moves after ∧ after.scopes.length ≤ limit

end Machine

namespace Operation

open Machine

variable {α β : Type} {limit level : Nat} {operation : Operation α}

/-- Whether an operation that starts inside some scopes ends there and never holds more scopes than a limit. -/
def Nests (limit level : Nat) (operation : Operation α) : Prop :=
  ∀ machine : Machine, machine.scopes.length = level →
    Reaches limit machine (operation.run machine).2 ∧ (operation.run machine).2.scopes.length = level

theorem nests_pure (value : α) : Nests limit level (pure value) := fun _ inside => ⟨.refl, inside⟩

theorem nests_get : Nests limit level (get : Operation Machine) := fun _ inside => ⟨.refl, inside⟩

/-- A move inside the same scopes. -/
theorem nests_modify (le : level ≤ limit) {change : Machine → Machine} (moves : ∀ machine, Moves machine (change machine))
    (stays : ∀ machine, (change machine).scopes = machine.scopes) :
    Nests limit level (modify change : Operation Unit) := by
  intro machine inside
  have same : (change machine).scopes.length = level := by rw [stays, inside]
  exact ⟨.single ⟨moves machine, same.le.trans le⟩, same⟩

theorem Nests.bind {next : α → Operation β} (nests : operation.Nests limit level)
    (goesOn : ∀ value, (next value).Nests limit level) : (operation >>= next).Nests limit level := by
  intro machine inside
  obtain ⟨reaches, between⟩ := nests machine inside
  obtain ⟨further, after⟩ := goesOn (operation.run machine).1 (operation.run machine).2 between
  exact ⟨reaches.trans further, after⟩

theorem Nests.mapM {step : β → Operation α} (nests : ∀ item, (step item).Nests limit level) {items : List β} :
    (items.mapM step).Nests limit level := by
  induction items with
  | nil => exact nests_pure _
  | cons item rest ih =>
    rw [List.mapM_cons]
    exact (nests item).bind fun value => ih.bind fun values => nests_pure _

/-- A scope of its own is one scope more. -/
theorem Nests.inScope {operation : Operation Outcome} (nests : operation.Nests limit (level + 1))
    (room : level + 1 ≤ limit) (subject : Subject) (scope : Scope) :
    (Operation.inScope subject scope operation).Nests limit level := by
  intro machine inside
  have entered : (machine.enter subject scope).scopes.length = level + 1 := congrArg (· + 1) inside
  obtain ⟨reaches, between⟩ := nests _ entered
  have left (outcome : Outcome) :
      ((operation.run (machine.enter subject scope)).2.leave subject outcome).scopes.length = level := by
    generalize (operation.run (machine.enter subject scope)).2 = inner at between ⊢
    cases scopes : inner.scopes with
    | nil => simp [scopes] at between
    | cons first around => simpa [Machine.leave, Machine.note, scopes] using between
  refine ⟨?_, left _⟩
  have enters : Reaches limit machine (machine.enter subject scope) :=
    .single ⟨.enter machine subject scope, entered.le.trans room⟩
  exact (enters.trans reaches).tail ⟨.leave _ _ _, (left _).le.trans (by omega)⟩

end Operation

namespace Run

open Machine Operation

variable {run : Run} {call first second : Call} {level : Nat}

theorem nests_note {limit : Nat} (le : level ≤ limit) (subject : Subject) (scope : Machine → Scope)
    (outcome : Outcome) :
    Nests limit level (modify fun machine => machine.note (.leaf subject (scope machine) outcome) : Operation Unit) :=
  nests_modify le (fun machine => .leaf machine subject (scope machine) outcome) fun _ => rfl

theorem nests_frames {limit : Nat} (le : level ≤ limit) (change : Machine → List Frame) :
    Nests limit level (modify fun machine => { machine with frames := change machine } : Operation Unit) :=
  nests_modify le (fun machine => .frames machine (change machine)) fun _ => rfl

theorem nests_follow {limit : Nat} (le : level ≤ limit) (application : Application) (rule : Rule) :
    (run.follow application rule).Nests limit level := by
  intro machine inside
  have remembers : Machine.Reaches limit machine ((run.follow application rule).run machine).2 :=
    .single ⟨.remember machine _, inside.le.trans le⟩
  exact ⟨remembers, inside⟩

/-- A rule that reports without a scope applies no sub-schema. -/
theorem nests_carryOut_of_isLeaf {limit : Nat} (le : level ≤ limit) {rule : Rule} (leaf : rule.isLeaf = true)
    (application : Application) : (run.carryOut call application rule).Nests limit level := by
  refine (nests_follow le application rule).bind fun target => nests_get.bind fun machine => ?_
  dsimp only
  rw [Rule.applications_plan_of_isLeaf leaf]
  exact nests_pure _

/-- A rule enters at most one scope besides those of the sub-schemas that it applies. -/
theorem nests_applyKeyword {limit : Nat} (room : level + 1 ≤ limit)
    (nests : ∀ application, (call application).Nests limit (level + 1)) (application : Application) (rule : Rule) :
    (run.applyKeyword call application rule).Nests limit level := by
  have le : level ≤ limit := Nat.le_of_succ_le room
  have reports : (run.reportRule call application rule).Nests limit level := by
    refine nests_get.bind fun machine => ?_
    cases leaf : rule.isLeaf with
    | true =>
      exact (nests_carryOut_of_isLeaf le leaf application).bind fun outcome =>
        (nests_note le _ (fun _ => _) _).bind fun _ => nests_pure _
    | false =>
      have carries : (run.carryOut call application rule).Nests limit (level + 1) :=
        (nests_follow room application rule).bind fun target => nests_get.bind fun machine =>
          (Nests.mapM nests).bind fun outcomes => nests_pure _
      exact carries.inScope room _ _
  exact reports.bind fun outcome => (nests_frames le _).bind fun _ => nests_pure _

theorem nests_refuse {limit : Nat} (le : level ≤ limit) (application : Application) :
    (run.refuse application).Nests limit level :=
  (nests_note le _ (fun machine => machine.path.scope run application) _).bind fun _ => nests_pure _

/-- The rules of a sub-schema have room for one scope more than the sub-schema was allowed to enter. -/
theorem nests_applyOnce (nests : ∀ level ≤ run.options.maxDepth + 1, ∀ application,
      (call application).Nests (run.options.maxDepth + 1) level)
    (le : level ≤ run.options.maxDepth + 1) (application : Application) :
    (run.applyOnce call application).Nests (run.options.maxDepth + 1) level := by
  intro machine inside
  rw [run_applyOnce, inside]
  split
  · exact nests_refuse le application machine inside
  · next below =>
    have allowed : level + 1 ≤ run.options.maxDepth := Nat.lt_of_not_le below
    have room : level + 1 ≤ run.options.maxDepth + 1 := Nat.le_succ_of_le allowed
    have applies : (run.applyShape call application).Nests (run.options.maxDepth + 1) (level + 1) := by
      unfold applyShape
      split
      · exact nests_pure _
      · next rules _ =>
        have fills : (run.fillFrame call application rules).Nests (run.options.maxDepth + 1) (level + 1) :=
          (nests_frames room _).bind fun _ => (Nests.mapM fun rule =>
            nests_applyKeyword (Nat.succ_le_succ allowed) (nests _ (Nat.succ_le_succ allowed)) application rule).bind
              fun outcomes => nests_pure _
        exact fills.bind fun valid => (nests_frames room _).bind fun _ => nests_pure _
    exact applies.inScope room _ _ machine inside

/-- No application holds more than one scope beyond the limit. -/
theorem nests_applySubschema (calls : Nat) (le : level ≤ run.options.maxDepth + 1) (application : Application) :
    (run.applySubschema calls application).Nests (run.options.maxDepth + 1) level := by
  induction calls generalizing level application with
  | zero => exact nests_refuse le application
  | succ calls ih => exact nests_applyOnce (fun _ le => ih le) le application

/-! ## Calls within calls -/

/-- Whether two ways of applying sub-schemas do the same inside a number of scopes. -/
def AgreeAt (level : Nat) (first second : Call) : Prop :=
  ∀ application (machine : Machine), machine.scopes.length = level →
    (first application).run machine = (second application).run machine

theorem AgreeAt.symm (agree : AgreeAt level first second) : AgreeAt level second first :=
  fun application machine inside => (agree application machine inside).symm

theorem AgreeAt.trans {third : Call} (agree : AgreeAt level first second) (further : AgreeAt level second third) :
    AgreeAt level first third :=
  fun application machine inside => (agree application machine inside).trans (further application machine inside)

theorem AgreeAt.mapM (agree : AgreeAt level first second) (keeps : ∀ application, (second application).KeepsStacks)
    (applications : List Application) {machine : Machine} (inside : machine.scopes.length = level) :
    (applications.mapM first).run machine = (applications.mapM second).run machine := by
  induction applications generalizing machine with
  | nil => rfl
  | cons application rest ih =>
    have behind : ((second application).run machine).2.scopes.length = level := by
      rw [(keeps application machine).scopes_eq, inside]
    simp only [List.mapM_cons, run_bind, agree application machine inside, ih behind]

theorem AgreeAt.carryOut (agree : AgreeAt level first second) (keeps : ∀ application, (second application).KeepsStacks)
    (application : Application) (rule : Rule) {machine : Machine} (inside : machine.scopes.length = level) :
    (run.carryOut first application rule).run machine = (run.carryOut second application rule).run machine := by
  simp only [run_carryOut]
  generalize (run.target application.target.document machine.dynamicScope rule).run machine.memory = found
  have within : ({ machine with memory := found.2 } : Machine).scopes.length = level := inside
  rw [agree.mapM keeps _ within]

section

variable (agree : AgreeAt (level + 1) first second) (keeps : ∀ application, (second application).KeepsStacks)
include agree keeps

theorem AgreeAt.reportRule (application : Application) (rule : Rule) {machine : Machine}
    (inside : machine.scopes.length = level) :
    (run.reportRule first application rule).run machine = (run.reportRule second application rule).run machine := by
  simp only [Run.reportRule, run_bind, run_get]
  cases leaf : rule.isLeaf with
  | true =>
    -- A leaf applies nothing, so that it makes no difference how sub-schemas would be applied.
    have same : (run.carryOut first application rule).run machine = (run.carryOut second application rule).run machine := by
      simp only [run_carryOut, Rule.applications_plan_of_isLeaf leaf]
      rfl
    simp only [if_true, run_bind, same]
  | false =>
    simp only [Bool.false_eq_true, if_false, run_inScope]
    rw [agree.carryOut keeps application rule (congrArg (· + 1) inside)]

theorem AgreeAt.applyKeyword (application : Application) (rule : Rule) {machine : Machine}
    (inside : machine.scopes.length = level) :
    (run.applyKeyword first application rule).run machine = (run.applyKeyword second application rule).run machine := by
  simp only [Run.applyKeyword, run_bind, agree.reportRule keeps application rule inside]

theorem AgreeAt.applyShape (application : Application) {machine : Machine} (inside : machine.scopes.length = level) :
    (run.applyShape first application).run machine = (run.applyShape second application).run machine := by
  unfold Run.applyShape
  split
  · rfl
  · next rules _ =>
    have rulesAgree (rules : List Rule) {inner : Machine} (inside : inner.scopes.length = level) :
        (rules.mapM (run.applyKeyword first application)).run inner =
          (rules.mapM (run.applyKeyword second application)).run inner := by
      induction rules generalizing inner with
      | nil => rfl
      | cons rule rest ih =>
        have behind : ((run.applyKeyword second application rule).run inner).2.scopes.length = level := by
          rw [(run.keepsStacks_applyKeyword keeps application rule inner).scopes_eq, inside]
        simp only [List.mapM_cons, run_bind, agree.applyKeyword keeps application rule inside, ih behind]
    have inFrame : machine.pushFrame.scopes.length = level := inside
    simp only [evaluateObject, fillFrame, run_bind, run_modify, rulesAgree _ inFrame]

end

/-- What is applied in one more call agrees two scopes further out. -/
theorem AgreeAt.applyOnce (agree : AgreeAt (level + 2) first second)
    (keeps : ∀ application, (second application).KeepsStacks) :
    AgreeAt level (run.applyOnce first) (run.applyOnce second) := by
  intro application machine inside
  rw [run_applyOnce, run_applyOnce]
  split
  · rfl
  · have entered : (machine.enter (.application application) (machine.path.scope run application)).scopes.length =
        level + 1 := congrArg (· + 1) inside
    rw [run_inScope, run_inScope, agree.applyShape keeps application entered]

/-- Where the limit is reached every sub-schema is refused. -/
theorem agree_refuse (limited : run.options.maxDepth ≤ level) (call : Call) :
    AgreeAt level (run.applyOnce call) run.refuse := by
  intro application machine inside
  rw [run_applyOnce, if_pos (inside ▸ limited)]

theorem agree_refuse_applySubschema (limited : run.options.maxDepth ≤ level) (calls : Nat) :
    AgreeAt level (run.applySubschema calls) run.refuse := by
  cases calls with
  | zero => exact fun _ _ _ => rfl
  | succ calls => exact run.agree_refuse limited _

/-- A number of calls within calls is enough, however sub-schemas further down would be applied: two scopes are entered
between a call and the next one inside it, until the limit is reached. -/
theorem agree_iterate (deeper : Call) (calls enough : Nat) (bounded : run.options.maxDepth ≤ level + 2 * calls)
    (reaches : run.options.maxDepth ≤ level + 2 * enough) :
    AgreeAt level (run.applyOnce^[calls + 1] deeper) (run.applySubschema enough) := by
  induction calls generalizing level enough with
  | zero =>
    have limited : run.options.maxDepth ≤ level := by omega
    exact (run.agree_refuse limited _).trans (run.agree_refuse_applySubschema limited enough).symm
  | succ calls ih =>
    rw [Function.iterate_succ_apply']
    cases enough with
    | zero => exact run.agree_refuse (by omega) _
    | succ enough =>
      have below : AgreeAt (level + 2) (run.applyOnce^[calls + 1] deeper) (run.applySubschema enough) :=
        ih enough (by omega) (by omega)
      exact below.applyOnce (run.keepsStacks_applySubschema enough)

/-- Any number of calls that is enough does the same. -/
theorem agree_applySubschema (calls enough : Nat) (bounded : run.options.maxDepth ≤ level + 2 * calls)
    (reaches : run.options.maxDepth ≤ level + 2 * enough) :
    AgreeAt level (run.applySubschema calls) (run.applySubschema enough) :=
  (run.agree_iterate run.refuse run.options.maxDepth calls (by omega) bounded).symm.trans
    (run.agree_iterate run.refuse run.options.maxDepth enough (by omega) reaches)

/-- The recursion of an evaluation has exactly one solution: to apply a sub-schema inside as many further calls as the
limit allows scopes. -/
theorem applyOnce_eq_iff {call : Call} : run.applyOnce call = call ↔ call = run.applySubschema run.options.maxDepth := by
  refine ⟨fun solution => ?_, ?_⟩
  · have iterated : run.applyOnce^[run.options.maxDepth + 1] call = call := Function.iterate_fixed solution _
    funext application machine
    have same : AgreeAt machine.scopes.length _ _ :=
      run.agree_iterate call run.options.maxDepth run.options.maxDepth (by omega) (by omega)
    rw [iterated] at same
    exact same application machine rfl
  · rintro rfl
    funext application machine
    have same : AgreeAt machine.scopes.length _ _ :=
      run.agree_applySubschema (run.options.maxDepth + 1) run.options.maxDepth (by omega) (by omega)
    exact same application machine rfl

end Run

namespace Schema

/-- Evaluation terminates and its nesting is bounded. The recursion by which sub-schemas are applied, which is bounded by
nothing but the limit on scopes, has one solution; it is the evaluation of the schema, and calls no deeper than half of the
limit make a difference to it. From the empty machine it is reached by moves none of which makes more scopes than one
beyond the limit. The fragments that are compiled on the way are compiled to the end: their depth is bound enough. -/
theorem nesting_of_execute (schema : Schema) (options : Options) (value : Json) (dialects : DialectCache) :
    let run : Run := ⟨options, schema⟩
    let root : Application := .inPlace ⟨schema.document, schema.rootIndex⟩ value none
    let execution := schema.execute options value dialects
    execution.1 = (schema.trace options value dialects).1.outcome ∧
    (∃! call : Call, run.applyOnce call = call) ∧
    (∀ call : Call, run.applyOnce call = call → (call root).run (.start dialects) = execution) ∧
    (∀ (deeper : Call) (calls : Nat), options.maxDepth ≤ 2 * calls →
      (run.applyOnce^[calls + 1] deeper root).run (.start dialects) = execution) ∧
    Machine.Reaches (options.maxDepth + 1) (.start dialects) execution.2 ∧
    ∀ (registered : Bool) (site : Site) (fragment : Json) (depth : Nat), fragment.depth < depth →
      Site.compileWithin options registered depth site fragment =
        Site.compileWithin options registered (fragment.depth + 1) site fragment := by
  intro run root execution
  refine ⟨(schema.execute_eq_trace options value dialects).1,
    ⟨_, run.applyOnce_eq_iff.mpr rfl, fun call => run.applyOnce_eq_iff.mp⟩, ?_, ?_, ?_, ?_⟩
  · intro call solution
    rw [run.applyOnce_eq_iff.mp solution]
    rfl
  · intro deeper calls bounded
    have reached : run.options.maxDepth ≤ 0 + 2 * calls := by rwa [Nat.zero_add]
    have enough : run.options.maxDepth ≤ 0 + 2 * run.options.maxDepth := by omega
    exact run.agree_iterate deeper calls run.options.maxDepth reached enough root (.start dialects) rfl
  · exact (run.nests_applySubschema options.maxDepth (Nat.zero_le _) root (.start dialects) rfl).1
  · intro registered site fragment depth deep
    exact Site.compileWithin_eq site deep (Nat.lt_succ_self _)

end Schema

end JsonSchema
