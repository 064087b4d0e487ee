import TenantAccess.Proofs.MountCourses

/-! A property of flows on its way through all that is mounted. When every stage has it, for requests of some kind
and on the condition that whatever comes next has it, so have the routes, the mounts and the whole service. -/

namespace TenantAccess.Proofs

def Onwards (holds : Flow (Option Answer) → Prop) (kind : Request → Prop) (next : Next) : Prop :=
  ∀ failure request, kind request → holds (next failure request)

/-- A stage has the property, for requests of the kind, when whatever comes after it does. -/
def PassesOn (holds : Flow (Option Answer) → Prop) (kind : Request → Prop) (run : Stage) : Prop :=
  ∀ request next, kind request → Onwards holds kind next → holds (run request next)

def MountPassesOn (holds : Flow (Option Answer) → Prop) (kind : Request → Prop) : Mounted → Prop
  | .stage run => PassesOn holds kind run
  | .onFailure run => ∀ failure, PassesOn holds kind (run failure)

/-- A kind of request that no mount makes or unmakes. -/
structure Lasting (kind : Request → Prop) : Prop where
  entered : ∀ request taken params, kind request → kind (Mount.enter request taken params)
  left : ∀ outer inner taken, kind outer → kind (Mount.leaveTo outer inner taken)

variable {holds : Flow (Option Answer) → Prop} {kind : Request → Prop}

theorem chain_onwards {stages : List Stage} {leave : Next} (pass : ∀ stage ∈ stages, PassesOn holds kind stage)
    (leaves : Onwards holds kind leave) : Onwards holds kind (Route.chain stages leave) := by
  induction stages with
  | nil => exact leaves
  | cons stage rest ih =>
    have later := ih fun other member => pass other (List.mem_cons_of_mem _ member)
    have first := pass stage List.mem_cons_self
    intro failure request same
    cases failure with
    | none => exact first request _ same later
    | some raised =>
      simp only [Route.chain]
      split
      · exact leaves none request same
      · split
        · exact first request _ same later
        · exact leaves (some raised) request same

section
variable (responds : ∀ answer, holds (Flow.respond answer))
include responds

theorem respond_passes (answer : Request → Answer) :
    PassesOn holds kind fun request _ => Flow.respond (answer request) :=
  fun _ _ _ _ => responds _

theorem routes_onwards {routes : List Route} {leave : Next}
    (pass : ∀ route ∈ routes, ∀ stage ∈ route.stages, PassesOn holds kind stage)
    (leaves : Onwards holds kind leave) (asked : Bool) : Onwards holds kind (Route.dispatch routes asked leave) := by
  induction routes generalizing asked with
  | nil =>
    intro failure request same
    simp only [Route.dispatch]
    split
    · exact leaves _ request same
    · exact leaves _ request same
    · split
      · exact responds _
      · exact leaves _ request same
  | cons route rest ih =>
    have later := ih fun other member => pass other (List.mem_cons_of_mem _ member)
    intro failure request same
    simp only [Route.dispatch]
    split
    · exact leaves _ request same
    · exact leaves _ request same
    · split
      · exact later asked none request same
      · split
        · exact chain_onwards (pass route List.mem_cons_self) (later asked) none request same
        · exact later _ none request same

theorem router_passes {routes : List Route}
    (pass : ∀ route ∈ routes, ∀ stage ∈ route.stages, PassesOn holds kind stage) :
    PassesOn holds kind (Route.router routes) :=
  fun request _ same onwards => routes_onwards responds pass onwards false none request same

end

theorem mounts_onwards (lasting : Lasting kind) {mounts : List Mount} {leave : Next}
    (pass : ∀ mount ∈ mounts, MountPassesOn holds kind mount.handler) (leaves : Onwards holds kind leave) :
    Onwards holds kind (Mount.dispatch mounts leave) := by
  induction mounts with
  | nil =>
    intro failure request same
    simp only [Mount.dispatch]
    split <;> exact leaves _ request same
  | cons mount rest ih =>
    have later := ih fun other member => pass other (List.mem_cons_of_mem _ member)
    have first := pass mount List.mem_cons_self
    intro failure request same
    have onward (taken : List Char) : Onwards holds kind fun failure inner =>
        Mount.dispatch rest leave failure (Mount.leaveTo request inner taken) :=
      fun failure inner _ => later failure _ (lasting.left request inner taken same)
    simp only [Mount.dispatch]
    split
    · exact leaves _ request same
    · exact leaves _ request same
    · exact leaves _ request same
    · split
      · exact later _ request same
      · exact later _ request same
      · split
        next run mounted =>
          rw [mounted] at first
          exact first _ _ (lasting.entered _ _ _ same) (onward _)
        · exact later _ request same
    · split
      · exact later _ request same
      next run mounted =>
        rw [mounted] at first
        split
        · exact first _ _ _ (lasting.entered _ _ _ same) (onward _)
        · exact later _ request same

structure StagesPassOn (holds : Flow (Option Answer) → Prop) (kind : Request → Prop) (choice : IdentityChoice)
    (isolation : Isolation) (lender : Sql.Lender) : Prop where
  responds : ∀ answer, holds (Flow.respond answer)
  identity : PassesOn holds kind choice.stage
  isolation : PassesOn holds kind isolation.run
  check : PassesOn holds kind (Health.check lender)
  guard : ∀ required, PassesOn holds kind (RoleGuard.run required)
  read : ∀ statement answer, PassesOn holds kind (Organizations.read lender statement answer)
  failed : ∀ failure, PassesOn holds kind (Service.onFailure failure)

theorem dispatch_onwards {choice : IdentityChoice} {isolation : Isolation} {lender : Sql.Lender}
    (pass : StagesPassOn holds kind choice isolation lender) (lasting : Lasting kind) (header : String) :
    Onwards holds kind (service choice isolation lender header).dispatch := by
  have responding := @respond_passes holds kind pass.responds
  have guarded (pattern : Pattern) (routes : List Route)
      (served : ∀ route ∈ routes, ∀ stage ∈ route.stages, PassesOn holds kind stage) :
      ∀ mount ∈ (service choice isolation lender header).guarded pattern routes,
        MountPassesOn holds kind mount.handler := by
    simp only [Service.guarded, List.forall_mem_cons, List.not_mem_nil, false_implies, implies_true, and_true]
    exact ⟨pass.identity, pass.isolation, router_passes pass.responds served⟩
  refine mounts_onwards lasting ?_ fun _ _ _ => pass.responds _
  simp only [Service.mounts, List.cons_append, List.append_assoc, List.forall_mem_cons, List.forall_mem_append,
    List.not_mem_nil, false_implies, implies_true, and_true]
  refine ⟨router_passes pass.responds ?_, guarded _ _ ?_, guarded _ _ ?_, responding fun _ => Service.notFound,
    pass.failed⟩
  · simp only [Health.routes, List.forall_mem_cons, List.not_mem_nil, false_implies, implies_true, and_true]
    exact ⟨pass.check, responding _⟩
  · simp only [Organizations.routes, List.forall_mem_cons, List.not_mem_nil, false_implies, implies_true, and_true]
    exact ⟨pass.read _ _, pass.guard _, pass.read _ _⟩
  · simp only [CallerContext.routes, List.forall_mem_cons, List.not_mem_nil, false_implies, implies_true, and_true]
    exact responding _

end TenantAccess.Proofs
