import JsonSchema.Proofs.Evaluation.Evaluated
import JsonSchema.Proofs.Evaluation.Stacks

/-! # The dynamic scope

At every moment of an evaluation the dynamic scope lists the resources of the sub-schemas that are being applied,
and a dynamic reference is taken to the outermost of them that declares its anchor
(`Schema.dynamicScope_of_execute`), because everything that is applied leaves the stacks as it found them.
-/

namespace JsonSchema

namespace Notice

/-- The applications under way behind a notice, the innermost first. -/
def underWay : Notice → List Application → List Application
  | .start (.application application), active => application :: active
  | .finish (.application _) _ _, active => active.tail
  | _, active => active

/-- The application that a notice starts, or cuts off. -/
def opened? : Notice → Option Application
  | .leaf subject _ _ => subject.application?
  | .start subject => subject.application?
  | .finish _ _ _ => none

end Notice

/-- The applications under way behind some moments. -/
def underWay (moments : List Moment) (active : List Application) : List Application :=
  moments.foldl (fun active moment => moment.notice.underWay active) active

theorem underWay_append (front back : List Moment) (active : List Application) :
    underWay (front ++ back) active = underWay back (underWay front active) :=
  List.foldl_append

namespace Trace

/-- Behind a trace the same applications are under way as before it. -/
theorem underWay_moments (trace : Trace) (scope : List ActiveResource) (active : List Application) :
    underWay (trace.moments scope) active = active := by
  induction trace using children_induction generalizing scope active with
  | leaf subject at_ outcome => simp [moments, underWay, Notice.underWay]
  | branch subject at_ outcome children ih =>
    have inside (scope : List ActiveResource) (active : List Application) :
        underWay (momentsOf scope children) active = active := by
      induction children with
      | nil => rfl
      | cons child rest ihRest =>
        rw [momentsOf, underWay_append, ih child List.mem_cons_self,
          ihRest fun other member => ih other (List.mem_cons_of_mem _ member)]
    have whole : underWay ((branch subject at_ outcome children).moments scope) active =
        (Notice.finish subject at_ outcome).underWay (underWay (momentsOf (subject.activate scope) children)
          ((Notice.start subject).underWay active)) := by
      rw [moments, ← List.singleton_append, underWay_append, underWay_append]
      rfl
    rw [whole, inside]
    cases subject <;> rfl

theorem underWay_momentsOf (traces : List Trace) (scope : List ActiveResource) (active : List Application) :
    underWay (momentsOf scope traces) active = active := by
  induction traces with
  | nil => rfl
  | cons trace rest ih => rw [momentsOf, underWay_append, underWay_moments, ih]

/-- The first moment of a trace opens what the trace is about. -/
theorem opened?_moments (trace : Trace) (scope : List ActiveResource) (after : List Moment) :
    (trace.moments scope ++ after).head?.bind (·.notice.opened?) = trace.subject.application? := by
  cases trace <;> rfl

end Trace

namespace Run

/-- What holds at a moment, given the applications under way before it and the moment after it. -/
structure Fits (run : Run) (active : List Application) (moment : Moment) (next? : Option Moment) : Prop where
  dynamicScope_eq : moment.dynamicScope = (moment.notice.underWay active).map (·.target.active)
  /-- A dynamic reference that names an anchor of the resource it leads to is followed by the application of the node
  that the outermost of the active resources declares under this anchor. -/
  leads : ∀ url name, moment.notice = .start (.rule (.dynamicRef url (some name))) →
    ∃ owner around, active = owner :: around ∧ .dynamicRef url (some name) ∈ owner.node.rules ∧
      ∀ lexical memory, isAnchorName url.fragmentText = true →
        ((run.resolve owner.target.document url).run memory).1 = some lexical →
        (lexical.active.dynamicAnchor? name).isSome →
        next?.bind (·.notice.opened?) = some (.inPlace
          ((active.reverse.findSome? (·.target.active.dynamicAnchor? name)).getD lexical) owner.value none)

/-- Whether all of some moments fit what is under way. -/
def AllFit (run : Run) : List Application → List Moment → Prop
  | _, [] => True
  | active, moment :: after =>
    run.Fits active moment after.head? ∧ AllFit run (moment.notice.underWay active) after

variable {run : Run} {active : List Application}

theorem Fits.widen {moment : Moment} (fits : run.Fits active moment none) (next? : Option Moment) :
    run.Fits active moment next? := by
  refine ⟨fits.dynamicScope_eq, fun url name starts => ?_⟩
  obtain ⟨owner, around, first, member, leads⟩ := fits.leads url name starts
  exact ⟨owner, around, first, member, fun lexical memory plain found declares =>
    nomatch leads lexical memory plain found declares⟩

/-- A moment that starts no rule fits if its dynamic scope does. -/
theorem fits_of_notice {moment : Moment} {next? : Option Moment} (silent : ∀ rule, moment.notice ≠ .start (.rule rule))
    (scope : moment.dynamicScope = (moment.notice.underWay active).map (·.target.active)) :
    run.Fits active moment next? :=
  ⟨scope, fun _ _ starts => absurd starts (silent _)⟩

theorem AllFit.append {front back : List Moment} (first : run.AllFit active front)
    (second : run.AllFit (underWay front active) back) : run.AllFit active (front ++ back) := by
  induction front generalizing active with
  | nil => exact second
  | cons moment rest ih =>
    refine ⟨?_, ih first.2 second⟩
    cases rest with
    | nil => exact first.1.widen _
    | cons next rest => exact first.1

theorem AllFit.momentsOf {traces : List Trace} {scope : List ActiveResource}
    (each : ∀ trace ∈ traces, run.AllFit active (trace.moments scope)) :
    run.AllFit active (Trace.momentsOf scope traces) := by
  induction traces with
  | nil => trivial
  | cons trace rest ih =>
    refine (each trace List.mem_cons_self).append ?_
    rw [trace.underWay_moments]
    exact ih fun other member => each other (List.mem_cons_of_mem _ member)

theorem AllFit.fits {moments before after : List Moment} {moment : Moment} (all : run.AllFit active moments)
    (split : moments = before ++ moment :: after) : run.Fits (underWay before active) moment after.head? := by
  induction before generalizing active moments with
  | nil =>
    subst split
    exact all.1
  | cons first before ih =>
    subst split
    exact ih all.2 rfl

/-! ## Dynamic references -/

theorem not_isPrefixOf_of_isAnchorName {text : String} (plain : isAnchorName text = true) :
    "/".isPrefixOf text = false := by
  refine Bool.eq_false_iff.mpr fun slash => ?_
  obtain ⟨rest, same⟩ := String.startsWith_string_iff.mp slash
  have first : text.toList = '/' :: rest := same.symm
  rw [isAnchorName, first] at plain
  have letter : ('/'.isAlpha || '/' == '_') = true := (Bool.and_eq_true_iff.mp plain).1
  exact absurd letter (by decide)

/-- What a plain name leads to does not depend on what is remembered. -/
theorem run_resolve_of_isAnchorName {document : Document} {reference : Url}
    (plain : isAnchorName reference.fragmentText = true) (first second : Memory) :
    ((run.resolve document reference).run first).1 = ((run.resolve document reference).run second).1 := by
  have noPointer := not_isPrefixOf_of_isAnchorName plain
  unfold resolve
  cases run.resource? document reference.withoutFragment with
  | none => rfl
  | some schema =>
    dsimp only
    cases schema.nodeOfFragment? reference.fragmentText .standardAndDynamic with
    | some node => rfl
    | none =>
      dsimp only
      rw [if_neg (by simp [noPointer])]
      rfl

/-- A dynamic reference that names an anchor of the resource it leads to is taken to the outermost active resource
that declares it. -/
theorem run_target_dynamicRef {document : Document} {scope : List ActiveResource} {url : Url} {name : String}
    {memory : Memory} {lexical : Target} (found : ((run.resolve document url).run memory).1 = some lexical)
    (declares : (lexical.active.dynamicAnchor? name).isSome) :
    ((run.target document scope (.dynamicRef url (some name))).run memory).1 =
      some ((dynamicTarget? scope name).getD lexical) := by
  simp only [target, Evaluation.run_bind, Evaluation.run_pure, found, Option.map_some, declares, if_true]

theorem dynamicTarget?_map (active : List Application) (name : String) :
    dynamicTarget? (active.map (·.target.active)) name =
      active.reverse.findSome? (·.target.active.dynamicAnchor? name) := by
  rw [dynamicTarget?, ← List.map_reverse, List.findSome?_map]
  rfl

/-- The step of a dynamic reference opens what it is taken to. -/
theorem Performs.fits {application : Application} {before : List Step} {step : Step} {around : List Application}
    (performs : run.Performs ((application :: around).map (·.target.active)) application before step)
    (member : step.rule ∈ application.node.rules)
    (subjects : ∀ result ∈ step.results, result.2.trace.subject = .application result.1) (after : List Moment) :
    let scope := (application :: around).map (·.target.active)
    run.Fits (application :: around) ⟨.start (.rule step.rule), scope⟩
      (Trace.momentsOf scope (step.results.map (·.2.trace)) ++ after).head? := by
  intro scope
  refine ⟨rfl, fun url name starts => ?_⟩
  have rule : step.rule = .dynamicRef url (some name) := Subject.rule.inj (Notice.start.inj starts)
  refine ⟨application, around, rfl, rule ▸ member, fun lexical memory plain found declares => ?_⟩
  obtain ⟨remembered, target⟩ := performs.target_eq
  rw [rule, run_target_dynamicRef ((run_resolve_of_isAnchorName plain remembered memory).trans found) declares,
    dynamicTarget?_map] at target
  have applications := performs.applications_eq
  rw [Step.plan, rule, target, performs.value_eq] at applications
  obtain ⟨result, results, first⟩ := List.map_eq_singleton_iff.mp applications
  have subject := subjects result (by rw [results]; exact List.mem_singleton_self _)
  simp only [results, List.map_cons, List.map_nil, Trace.momentsOf_singleton, Trace.opened?_moments, subject, first]
  rfl

theorem allFit_trace {application : Application} {before : List Step} {step : Step} {around : List Application}
    (performs : run.Performs ((application :: around).map (·.target.active)) application before step)
    (member : step.rule ∈ application.node.rules)
    (subjects : ∀ result ∈ step.results, result.2.trace.subject = .application result.1)
    (below : ∀ result ∈ step.results, run.AllFit (application :: around)
      (result.2.trace.moments ((application :: around).map (·.target.active)))) (scope : Scope) :
    run.AllFit (application :: around)
      ((step.trace scope).moments ((application :: around).map (·.target.active))) := by
  unfold Step.trace
  split
  · exact ⟨fits_of_notice nofun rfl, trivial⟩
  · refine ⟨performs.fits member subjects _, .append (.momentsOf ?_) ?_⟩
    · intro trace inside
      obtain ⟨result, resultMember, rfl⟩ := List.mem_map.mp inside
      exact below result resultMember
    · rw [Trace.underWay_momentsOf]
      exact ⟨fits_of_notice nofun rfl, trivial⟩

/-- Every moment of a derivation fits what is under way. -/
theorem Yields.allFit {path : Path} {application : Application} {applied : Applied}
    (yields : run.Yields path application applied) (around : List Application)
    (active : path.active = around.map (·.target.active)) :
    run.AllFit around (applied.trace.moments path.active) := by
  induction yields generalizing around with
  | cutOff exhausted => exact ⟨fits_of_notice nofun active, trivial⟩
  | boolean shallow shape =>
    exact ⟨fits_of_notice nofun (congrArg (_ :: ·) active), fits_of_notice nofun active, trivial⟩
  | @object path application rules steps shallow shape carried yields ih =>
    have inside : application.target.active :: path.active = (application :: around).map (·.target.active) :=
      congrArg (_ :: ·) active
    rw [inside] at carried
    refine ⟨fits_of_notice nofun inside, .append (.momentsOf ?_) ?_⟩
    · intro trace member
      obtain ⟨step, stepMember, rfl⟩ := List.mem_map.mp member
      obtain ⟨before, after, -, performs⟩ := carried.performs_of_mem stepMember
      have ruleMember := Node.applied_subset shape (carried.rule_mem stepMember)
      rw [show (Subject.application application).activate path.active = _ from inside]
      refine allFit_trace performs ruleMember (fun result member => (yields step stepMember result member).subject_trace)
        (fun result member => ?_) _
      have below := ih step stepMember result member (application :: around) inside
      rwa [show (run.pathBelow path application step.rule).active = _ from inside] at below
    · rw [Trace.underWay_momentsOf]
      exact ⟨fits_of_notice nofun active, trivial⟩

end Run

namespace Schema

/-- A schema is evaluated on stacks with the outcome and the moments of its trace. -/
theorem execute_eq_trace (schema : Schema) (options : Options) (value : Json) (dialects : DialectCache) :
    (schema.execute options value dialects).1 = (schema.trace options value dialects).1.outcome ∧
      (schema.execute options value dialects).2.history = (schema.trace options value dialects).1.moments [] := by
  have refined := Run.refines_applySubschema ⟨options, schema⟩ options.maxDepth 0 (by dsimp only; omega)
    (.start dialects) (.inPlace ⟨schema.document, schema.rootIndex⟩ value none) (Machine.isSound_start dialects) rfl
  rw [execute, refined]
  refine ⟨rfl, ?_⟩
  simp only [Machine.taking, Machine.absorb, Trace.momentsOf_singleton]
  rfl

/-- The stacks of an evaluation. Every application leaves the scopes and the dynamic scope as it found them, and of the
frames it changes the innermost one only, which inherits the values of the sub-schema if this is a valid schema object
at the same instance that was not applied in isolation. So at every moment of every evaluation the dynamic scope lists
the resources of the applications under way, and a dynamic reference by a plain name, if the resource it leads to
declares this name, applies the node that the outermost of these resources declares under it. -/
theorem stacks_of_execute (schema : Schema) (options : Options) (value : Json) (dialects : DialectCache) :
    let run : Run := ⟨options, schema⟩
    let (outcome, final) := schema.execute options value dialects
    (outcome = (schema.trace options value dialects).1.outcome ∧
      final.history = (schema.trace options value dialects).1.moments []) ∧
    (∀ calls application before, Run.Restores application (run.ownFrame? calls application before) before
      ((run.applySubschema calls application).run before)) ∧
    ∀ before moment after, final.history = before ++ moment :: after →
      moment.dynamicScope = (underWay (before ++ [moment]) []).map (·.target.active) ∧
      ∀ url name, moment.notice = .start (.rule (.dynamicRef url (some name))) →
        ∃ owner around, underWay before [] = owner :: around ∧ .dynamicRef url (some name) ∈ owner.node.rules ∧
          ∀ lexical memory, isAnchorName url.fragmentText = true →
            ((run.resolve owner.target.document url).run memory).1 = some lexical →
            (lexical.active.dynamicAnchor? name).isSome →
            after.head?.bind (·.notice.opened?) = some (.inPlace
              (((owner :: around).reverse.findSome? (·.target.active.dynamicAnchor? name)).getD lexical)
              owner.value none) := by
  intro run
  have refined := schema.execute_eq_trace options value dialects
  refine ⟨refined, run.restores_applySubschema, ?_⟩
  intro before moment after split
  have yields := Run.yields_evaluate run value ⟨[], dialects⟩
  have fits := (yields.allFit [] rfl).fits (refined.2.symm.trans split)
  refine ⟨?_, fun url name starts => ?_⟩
  · rw [underWay_append]
    exact fits.dynamicScope_eq
  · obtain ⟨owner, around, first, member, leads⟩ := fits.leads url name starts
    rw [first] at leads
    exact ⟨owner, around, first, member, leads⟩

end Schema

end JsonSchema
