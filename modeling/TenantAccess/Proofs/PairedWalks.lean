import TenantAccess.Routing.Router

/-! Two requests that correspond, on their way through all that is mounted. When every stage does with the one what
corresponds to what it does with the other, and whatever comes next does, then so do the routes and the mounts. -/

namespace TenantAccess.Proofs

/-- Whoever comes next, on the one way and on the other, does alike with requests that correspond. -/
def OnwardsBoth (alike : Flow (Option Answer) → Flow (Option Answer) → Prop) (pair : Request → Request → Prop)
    (next again : Next) : Prop :=
  ∀ failure request other, pair request other → alike (next failure request) (again failure other)

/-- A stage does alike with requests that correspond, when whatever comes after it does. -/
def PassesBoth (alike : Flow (Option Answer) → Flow (Option Answer) → Prop) (pair : Request → Request → Prop)
    (run : Stage) : Prop :=
  ∀ request other next again, pair request other → OnwardsBoth alike pair next again →
    alike (run request next) (run other again)

def MountPassesBoth (alike : Flow (Option Answer) → Flow (Option Answer) → Prop) (pair : Request → Request → Prop) :
    Mounted → Prop
  | .stage run => PassesBoth alike pair run
  | .onFailure run => ∀ failure, PassesBoth alike pair (run failure)

structure LastingBoth (pair : Request → Request → Prop) : Prop where
  method : ∀ {request other}, pair request other → other.method = request.method
  path : ∀ {request other}, pair request other → other.path = request.path
  entered : ∀ {request other}, pair request other → ∀ taken params,
    pair (Mount.enter request taken params) (Mount.enter other taken params)
  left : ∀ {request other}, pair request other → ∀ {inner again}, pair inner again → ∀ taken,
    pair (Mount.leaveTo request inner taken) (Mount.leaveTo other again taken)

variable {alike : Flow (Option Answer) → Flow (Option Answer) → Prop} {pair : Request → Request → Prop}
  {leave other : Next}

theorem chain_both {stages : List Stage} (pass : ∀ stage ∈ stages, PassesBoth alike pair stage)
    (leaves : OnwardsBoth alike pair leave other) :
    OnwardsBoth alike pair (Route.chain stages leave) (Route.chain stages other) := by
  induction stages with
  | nil => exact leaves
  | cons stage rest ih =>
    have later := ih fun other member => pass other (List.mem_cons_of_mem _ member)
    have first := pass stage List.mem_cons_self
    intro failure request twin paired
    cases failure with
    | none => exact first _ _ _ _ paired later
    | some raised =>
      simp only [Route.chain]
      split
      · exact leaves none _ _ paired
      · split
        · exact first _ _ _ _ paired later
        · exact leaves (some raised) _ _ paired

section
variable (lasting : LastingBoth pair)
include lasting

theorem routes_both (responds : ∀ answer, alike (Flow.respond answer) (Flow.respond answer)) {routes : List Route}
    (pass : ∀ route ∈ routes, ∀ stage ∈ route.stages, PassesBoth alike pair stage)
    (leaves : OnwardsBoth alike pair leave other) (asked : Bool) :
    OnwardsBoth alike pair (Route.dispatch routes asked leave) (Route.dispatch routes asked other) := by
  induction routes generalizing asked with
  | nil =>
    intro failure request twin paired
    simp only [Route.dispatch]
    split
    · exact leaves _ _ _ paired
    · exact leaves _ _ _ paired
    · split
      · exact responds _
      · exact leaves _ _ _ paired
  | cons route rest ih =>
    have later := ih fun other member => pass other (List.mem_cons_of_mem _ member)
    intro failure request twin paired
    simp only [Route.dispatch, lasting.path paired, lasting.method paired]
    split
    · exact leaves _ _ _ paired
    · exact leaves _ _ _ paired
    · split
      · exact later asked none _ _ paired
      · split
        · exact chain_both (pass route List.mem_cons_self) (later asked) none _ _ paired
        · exact later _ none _ _ paired

theorem router_both (responds : ∀ answer, alike (Flow.respond answer) (Flow.respond answer)) {routes : List Route}
    (pass : ∀ route ∈ routes, ∀ stage ∈ route.stages, PassesBoth alike pair stage) :
    PassesBoth alike pair (Route.router routes) :=
  fun _ _ _ _ paired onwards => routes_both lasting responds pass onwards false none _ _ paired

theorem mounts_both {mounts : List Mount} (pass : ∀ mount ∈ mounts, MountPassesBoth alike pair mount.handler)
    (leaves : OnwardsBoth alike pair leave other) :
    OnwardsBoth alike pair (Mount.dispatch mounts leave) (Mount.dispatch mounts other) := by
  induction mounts with
  | nil =>
    intro failure request twin paired
    simp only [Mount.dispatch]
    split <;> exact leaves _ _ _ paired
  | cons mount rest ih =>
    have later := ih fun other member => pass other (List.mem_cons_of_mem _ member)
    have first := pass mount List.mem_cons_self
    intro failure request twin paired
    have onward (taken : List Char) : OnwardsBoth alike pair
        (fun failure inner => Mount.dispatch rest leave failure (Mount.leaveTo request inner taken))
        (fun failure inner => Mount.dispatch rest other failure (Mount.leaveTo twin inner taken)) :=
      fun failure _ _ within => later failure _ _ (lasting.left paired within taken)
    simp only [Mount.dispatch, lasting.path paired]
    split
    · exact leaves _ _ _ paired
    · exact leaves _ _ _ paired
    · exact leaves _ _ _ paired
    · split
      · exact later _ _ _ paired
      · exact later _ _ _ paired
      · split
        next run mounted =>
          rw [mounted] at first
          exact first _ _ _ _ (lasting.entered paired _ _) (onward _)
        · exact later _ _ _ paired
    · split
      · exact later _ _ _ paired
      next run mounted =>
        rw [mounted] at first
        split
        · exact first _ _ _ _ _ (lasting.entered paired _ _) (onward _)
        · exact later _ _ _ paired

end

end TenantAccess.Proofs
