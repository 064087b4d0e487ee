import TenantAccess.Proofs.DelimitedNames

/-! Conditions that grow step by step. Each step binds its organization to a place of its own, and no later step takes
the place, the value bound there or the comparison away. -/

namespace TenantAccess.Proofs.Condition
open Delimited (quoteIdentifier_full quoteIdentifier_empty)

structure Restriction where
  tenant : TenantContext
  column : String
  deriving DecidableEq, Repr

def Restriction.Fits (step : Restriction) : Prop := [] ∉ partsOf step.column

/-- Conditions behind a step. One that fails leaves those before it in use. -/
def Restriction.apply (given : Sql.Conditions) (step : Restriction) : Sql.Conditions :=
  match given.restrict step.tenant step.column with
  | .ok next => next
  | .error _ => given

section
variable (start : Sql.Conditions)

def after (steps : List Restriction) : Sql.Conditions := steps.foldl Restriction.apply start

def history (steps : List Restriction) : List Sql.Conditions := steps.scanl Restriction.apply start

end

inductive Stepped (given : Sql.Conditions) (step : Restriction) : Sql.Conditions → Prop where
  | failed {error : Sql.EmptyIdentifier} (empty : ¬ step.Fits)
      (refused : given.restrict step.tenant step.column = .error error) : Stepped given step given
  | placed {next : Sql.Conditions} {written : String} (fits : step.Fits)
      (done : given.restrict step.tenant step.column = .ok next)
      (quoted : Sql.quoteIdentifier step.column = .ok written)
      (predicates : next.predicates = given.predicates ++ [written ++ " = $" ++ toString next.parameters.length])
      (parameters : next.parameters = given.parameters ++ [.text step.tenant.organization]) : Stepped given step next

/-- All that was there is still there, in front of what is new. -/
structure Extends (given later : Sql.Conditions) : Prop where
  predicates : given.predicates <+: later.predicates
  parameters : given.parameters <+: later.parameters

/-- A predicate says that the column of a step holds what is bound to a place, and the organization of the step is
bound there. -/
structure Compares (conditions : Sql.Conditions) (step : Restriction) (index place : Nat) : Prop where
  reads : ∃ predicate, conditions.predicates[index]? = some predicate ∧
    read? predicate.toList = some [[equation (partsOf step.column) (place + 1)]]
  bound : conditions.parameters[place]? = some (.text step.tenant.organization)

theorem Extends.refl (conditions : Sql.Conditions) : Extends conditions conditions :=
  ⟨List.prefix_refl _, List.prefix_refl _⟩

theorem Extends.trans {first second third : Sql.Conditions} (early : Extends first second)
    (late : Extends second third) : Extends first third :=
  ⟨early.predicates.trans late.predicates, early.parameters.trans late.parameters⟩

theorem prefix_kept {early late : List α} {index : Nat} {value : α} (whole : early <+: late)
    (found : early[index]? = some value) : late[index]? = some value := by
  obtain ⟨inside, rfl⟩ := List.getElem?_eq_some_iff.mp found
  exact List.prefix_iff_getElem?.mp whole index inside

/-- What a predicate says, and what is bound to its place, outlasts all that comes behind. -/
theorem Extends.compares {given later : Sql.Conditions} {step : Restriction} {index place : Nat}
    (extended : Extends given later) (compares : Compares given step index place) :
    Compares later step index place := by
  obtain ⟨⟨predicate, found, read⟩, bound⟩ := compares
  exact ⟨⟨predicate, prefix_kept extended.predicates found, read⟩, prefix_kept extended.parameters bound⟩

section
variable {given next : Sql.Conditions} {step : Restriction}

theorem restrict_quoted {written : String} (given : Sql.Conditions)
    (quoted : Sql.quoteIdentifier step.column = .ok written) :
    given.restrict step.tenant step.column = .ok (given.require step.tenant written) := by
  rw [Sql.Conditions.restrict, quoted]

theorem apply_stepped (given : Sql.Conditions) (step : Restriction) : Stepped given step (step.apply given) := by
  by_cases empty : [] ∈ partsOf step.column
  · obtain ⟨_, _, _, -, -, -, unquoted⟩ := quoteIdentifier_empty empty
    have refused : ∃ error, given.restrict step.tenant step.column = .error error := by
      rw [Sql.Conditions.restrict, unquoted]
      exact ⟨_, rfl⟩
    obtain ⟨error, refused⟩ := refused
    rw [Restriction.apply, refused]
    exact .failed (not_not_intro empty) refused
  · have quoted := quoteIdentifier_full empty
    have done := restrict_quoted given quoted
    rw [Restriction.apply, done]
    exact .placed empty done quoted rfl rfl

theorem Stepped.extends (stepped : Stepped given step next) : Extends given next := by
  cases stepped with
  | failed => exact .refl given
  | placed _ _ _ predicates parameters =>
    exact ⟨⟨_, predicates.symm⟩, ⟨_, parameters.symm⟩⟩

theorem Stepped.grown (stepped : Stepped given step next) (fits : step.Fits) :
    next.parameters.length = given.parameters.length + 1 := by
  cases stepped with
  | failed empty => exact absurd fits empty
  | placed _ _ _ _ parameters => rw [parameters, List.length_append, List.length_singleton]

theorem Stepped.compares (stepped : Stepped given step next) (fits : step.Fits) :
    Compares next step given.predicates.length given.parameters.length := by
  have grown := stepped.grown fits
  cases stepped with
  | failed empty => exact absurd fits empty
  | @placed _ written _ _ quoted predicates parameters =>
    rw [grown] at predicates
    refine ⟨⟨_, by rw [predicates, List.getElem?_concat_length], ?_⟩, ?_⟩
    · rw [String.toList_append, String.toList_append, quoteIdentifier_parts quoted]
      exact equation_reads ..
    · rw [parameters, List.getElem?_concat_length]

end

section
variable (start : Sql.Conditions)

theorem after_append (steps later : List Restriction) :
    after start (steps ++ later) = after (after start steps) later := List.foldl_append

theorem after_step (before : List Restriction) (step : Restriction) :
    after start (before ++ [step]) = step.apply (after start before) := after_append ..

theorem after_extends (steps : List Restriction) : Extends start (after start steps) := by
  induction steps generalizing start with
  | nil => exact .refl start
  | cons step rest ih => exact (apply_stepped start step).extends.trans (ih (step.apply start))

theorem history_append (steps later : List Restriction) :
    history start steps <+: history start (steps ++ later) := by
  induction steps generalizing start with
  | nil =>
    cases later with
    | nil => exact List.prefix_refl _
    | cons step rest =>
      unfold history
      rw [List.nil_append, List.scanl_nil, List.scanl_cons]
      exact List.cons_prefix_cons.mpr ⟨rfl, List.nil_prefix⟩
  | cons step rest ih =>
    have later := ih (step.apply start)
    unfold history at later ⊢
    rw [List.cons_append, List.scanl_cons, List.scanl_cons]
    exact List.cons_prefix_cons.mpr ⟨rfl, later⟩

/-- What one step comes to among others: it stands by itself, and the steps behind it leave it as it is. -/
structure Settles (before : List Restriction) (step : Restriction) (later : List Restriction) : Prop where
  stepped : Stepped (after start before) step (after start (before ++ [step]))
  kept : Extends (after start (before ++ [step])) (after start (before ++ step :: later))
  compares : step.Fits → Compares (after start (before ++ step :: later)) step
    (after start before).predicates.length (after start before).parameters.length
  apart : ∀ between other behind, later = between ++ other :: behind → step.Fits →
    (after start before).parameters.length < (after start (before ++ step :: between)).parameters.length
  unmodified : history start (before ++ [step]) <+: history start (before ++ step :: later)

theorem after_between (before : List Restriction) (step : Restriction) (later : List Restriction) :
    Extends (after start (before ++ [step])) (after start (before ++ step :: later)) := by
  rw [List.append_cons before step later, after_append start (before ++ [step]) later]
  exact after_extends ..

/-- Every step fails for an empty name and changes nothing, or puts one comparison behind the others that stays bound to
the organization of the step; no place serves two steps, and no conditions that were made before are changed. -/
theorem places_stay_bound (before : List Restriction) (step : Restriction) (later : List Restriction) :
    Settles start before step later := by
  have stepped : Stepped (after start before) step (after start (before ++ [step])) := by
    rw [after_step]
    exact apply_stepped ..
  have kept := after_between start before step later
  refine ⟨stepped, kept, fun fits => kept.compares (stepped.compares fits), ?_, ?_⟩
  · rintro between other behind rfl fits
    have longer := (after_between start before step between).parameters.length_le
    have grown := stepped.grown fits
    omega
  · rw [List.append_cons before step later]
    exact history_append ..

end

example :
    let tenant : TenantContext := ⟨"acme", "ada", "member"⟩
    (after ⟨[], [.boolean true]⟩ [⟨tenant, "org_id"⟩, ⟨tenant, "m."⟩, ⟨tenant, "m.org\""⟩]).clause =
      "WHERE \"org_id\" = $2 AND \"m\".\"org\"\"\" = $3" := by
  decide +kernel

end TenantAccess.Proofs.Condition
