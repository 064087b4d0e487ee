import TenantAccess.Proofs.ServiceRuns

/-! Sessions of a pool, one after another. Over any requests and any failures of the database, whatever
is borrowed is given back once before anything else is borrowed, and used only in between. -/

namespace TenantAccess.Proofs

def OffPool : Ask → Prop
  | .borrow | .giveBack | .query .pool _ _ => False
  | _ => True

/-- Whole sessions one after another, each under one of the limits, and nothing of the pool outside of them. -/
inductive Sequential (limits : List Number) : List Exchanged → Prop where
  | ended : Sequential limits []
  | apart (asked : Exchanged) {history : List Exchanged} (off : OffPool asked.question)
      (rest : Sequential limits history) : Sequential limits (asked :: history)
  | session {limit : Number} {session history : List Exchanged} (lent : limit ∈ limits)
      (whole : Session (.pooled limit) session) (rest : Sequential limits history) :
      Sequential limits (session ++ history)

theorem Sequential.append {limits : List Number} {first second : List Exchanged} (one : Sequential limits first)
    (two : Sequential limits second) : Sequential limits (first ++ second) := by
  induction one with
  | ended => exact two
  | apart asked off _ ih => exact .apart asked off ih
  | session lent whole _ ih =>
    rw [List.append_assoc]
    exact .session lent whole ih

theorem Sequential.off {limits : List Number} {history : List Exchanged}
    (off : ∀ asked ∈ history, OffPool asked.question) : Sequential limits history := by
  induction history with
  | nil => exact .ended
  | cons asked rest ih =>
    exact .apart asked (off asked List.mem_cons_self)
      (ih fun other member => off other (List.mem_cons_of_mem _ member))

theorem Aside.off {question : Ask} (aside : Aside question) : OffPool question := by
  cases question with
  | query session => cases session <;> trivial
  | _ => trivial

theorem watch_off : Asks OffPool TokenIdentity.watch := by
  refine ⟨trivial, fun _ => ⟨trivial, fun closed => ?_⟩⟩
  dsimp only [Flow.bind, bind, Flow.request]
  split
  · exact ⟨trivial, fun _ => trivial⟩
  · trivial

theorem verifier_off (verifier : Verifier) (token : String) (signal : Signal) :
    Asks OffPool (verifier.verify token signal) := by
  cases verifier with
  | consulted method => exact ⟨trivial, fun _ => trivial⟩
  | _ =>
    refine (verifier_inward (fun _ same => by cases same) token signal).weaken fun question inward => ?_
    cases question <;> trivial

theorem Woven.sequential {choice : IdentityChoice} {lends : Sql.Lender → Prop} {headers : List (String × String)}
    {limits : List Number} {history : List Exchanged} {result : Option Answer}
    (woven : Woven choice lends headers history result)
    (limited : ∀ lender, lends lender → ∃ limit ∈ limits, lender = .pooled limit) :
    Sequential limits history := by
  induction woven with
  | ended => exact .ended
  | aside reply apart _ ih => exact .apart _ apart.off ih
  | session lent whole _ ih =>
    obtain ⟨limit, listed, rfl⟩ := limited _ lent
    exact .session listed whole ih
  | verification _ _ watched verified _ _ ih =>
    exact (Sequential.off (watched.within watch_off)).append
      ((Sequential.off (verified.within (verifier_off _ _ _))).append ih)

def lent (history : List Exchanged) : Nat :=
  history.countP fun asked => match asked with
    | ⟨.borrow, .ok _⟩ => true
    | _ => false

def returned (history : List Exchanged) : Nat :=
  history.countP fun asked => match asked.question with
    | .giveBack => true
    | _ => false

@[simp] theorem lent_append (first second : List Exchanged) : lent (first ++ second) = lent first + lent second :=
  List.countP_append

@[simp] theorem returned_append (first second : List Exchanged) :
    returned (first ++ second) = returned first + returned second := List.countP_append

/-- Nothing is lent or comes back by questions that do neither. -/
theorem uncounted {history : List Exchanged}
    (neither : ∀ asked ∈ history, asked.question ≠ .borrow ∧ asked.question ≠ .giveBack) :
    lent history = 0 ∧ returned history = 0 := by
  refine ⟨List.countP_eq_zero.mpr fun asked member => ?_, List.countP_eq_zero.mpr fun asked member => ?_⟩
  · obtain ⟨question, reply⟩ := asked
    have other := (neither _ member).1
    cases question <;> first | exact absurd rfl other | simp
  · have other := (neither asked member).2
    split
    next same => exact absurd same other
    next => simp

/-- Of what was lent all has come back, and at no time was more than one session out. -/
structure Balanced (history : List Exchanged) : Prop where
  even : lent history = returned history
  single : ∀ before after, history = before ++ after →
    returned before ≤ lent before ∧ lent before ≤ returned before + 1

theorem Balanced.append {first second : List Exchanged} (one : Balanced first) (two : Balanced second) :
    Balanced (first ++ second) := by
  refine ⟨by simp [one.even, two.even], fun before after same => ?_⟩
  rcases List.append_eq_append_iff.mp same.symm with ⟨more, inside, -⟩ | ⟨more, rfl, later⟩
  · exact one.single before more inside
  · have even := one.even
    have single := two.single more after later
    simp only [lent_append, returned_append]
    omega

theorem Balanced.idle {history : List Exchanged} (idle : lent history = 0 ∧ returned history = 0) :
    Balanced history := by
  refine ⟨by omega, ?_⟩
  rintro before after rfl
  simp only [lent_append, returned_append] at idle
  omega

theorem Balanced.session (middle : List Exchanged) (idle : lent middle = 0 ∧ returned middle = 0) :
    Balanced (⟨.borrow, .ok ()⟩ :: (middle ++ [⟨.giveBack, ()⟩])) := by
  have opened (history : List Exchanged) : lent (⟨.borrow, .ok ()⟩ :: history) = lent history + 1 ∧
      returned (⟨.borrow, .ok ()⟩ :: history) = returned history := ⟨List.countP_cons, List.countP_cons⟩
  have closed : lent [⟨.giveBack, ()⟩] = 0 ∧ returned [⟨.giveBack, ()⟩] = 1 := ⟨rfl, rfl⟩
  refine ⟨by simp only [opened, lent_append, returned_append]; omega, fun before after same => ?_⟩
  cases before with
  | nil => exact ⟨Nat.le_refl _, Nat.zero_le _⟩
  | cons asked before =>
    obtain ⟨rfl, rest⟩ := List.cons.inj same
    rw [(opened before).1, (opened before).2]
    have rest : middle ++ [⟨.giveBack, ()⟩] = before ++ after := rest
    have all : lent (before ++ after) = 0 ∧ returned (before ++ after) = 1 := by
      rw [← rest]
      simp only [lent_append, returned_append]
      omega
    simp only [lent_append, returned_append] at all
    omega

theorem Session.balanced {lender : Sql.Lender} {session : List Exchanged} (whole : Session lender session) :
    Balanced session := by
  cases whole with
  | unlent => exact .idle ⟨rfl, rfl⟩
  | unready limit failure =>
    exact .session [⟨.query .pool (Sql.timeoutStatement limit) none, .error failure⟩] ⟨rfl, rfl⟩
  | @used _ opening worked ready within =>
    have idle : lent worked = 0 ∧ returned worked = 0 := by
      refine uncounted fun asked member => ?_
      have working := within asked member
      constructor <;> (intro same; rw [same] at working; exact working)
    cases ready with
    | lent => exact .session worked idle
    | limited limit rows =>
      refine .session (⟨.query .pool (Sql.timeoutStatement limit) none, .ok rows⟩ :: worked) ?_
      exact ⟨List.countP_cons.trans idle.1, List.countP_cons.trans idle.2⟩

theorem Sequential.balanced {limits : List Number} {history : List Exchanged}
    (sequential : Sequential limits history) : Balanced history := by
  induction sequential with
  | ended => exact .idle ⟨rfl, rfl⟩
  | apart asked off _ ih =>
    have alone : Balanced [asked] := by
      refine .idle (uncounted fun other member => ?_)
      obtain rfl := List.mem_singleton.mp member
      constructor <;> (intro same; rw [same] at off; exact off)
    exact alone.append ih
  | session _ whole _ ih => exact whole.balanced.append ih

def handleAll (service : Service) : List Incoming → Flow (List (Option Response))
  | [] => pure []
  | incoming :: rest => do
    let response ← service.handle incoming
    let others ← handleAll service rest
    pure (response :: others)

theorem handleAll_sequential {choice : IdentityChoice} {isolation : Isolation} {lender : Sql.Lender}
    {header : String} {limits : List Number}
    (limited : ∀ other, lenders isolation lender other → ∃ limit ∈ limits, other = .pooled limit)
    {incomings : List Incoming} {history : List Exchanged} {responses : List (Option Response)}
    (runs : Runs (handleAll (service choice isolation lender header) incomings) history responses) :
    Sequential limits history := by
  induction incomings generalizing history responses with
  | nil =>
    obtain ⟨rfl, -⟩ := runs.ended
    exact .ended
  | cons incoming rest ih =>
    obtain ⟨handling, _, others, rfl, handled, later⟩ := runs.bind
    obtain ⟨following, _, none, rfl, followed, last⟩ := later.bind
    obtain ⟨rfl, -⟩ := last.ended
    obtain ⟨_, woven, -⟩ := handle_woven handled
    rw [List.append_nil]
    exact (woven.sequential limited).append (ih followed)

/-- Over any run of requests a pool lends one session at a time and gets every one back, each is made ready
before it is worked in, and what the work comes to is what the session comes to. -/
theorem pool_sessions_balanced (choice : IdentityChoice) (first second : Number) (enforce : Bool)
    (publicPaths : List String) (header : String) (incomings : List Incoming) (world : World σ) (state : σ) :
    let served := service choice ⟨.pooled first, enforce, publicPaths⟩ (.pooled second) header
    let history := (handleAll served incomings).trace world state
    Sequential [first, second] history ∧ Balanced history ∧
    ∀ {α τ : Type} (limit : Number) (work : Flow (Except Failure α)) (world : World τ) (state : τ),
      SessionRun work (.pooled limit) ((Sql.withSession (.pooled limit) work).trace world state)
        ((Sql.withSession (.pooled limit) work).run world state).1 := by
  intro served history
  have limited : ∀ other, lenders ⟨.pooled first, enforce, publicPaths⟩ (.pooled second) other →
      ∃ limit ∈ [first, second], other = .pooled limit := by
    rintro other (rfl | rfl)
    · exact ⟨first, by simp, rfl⟩
    · exact ⟨second, by simp, rfl⟩
  have sequential : Sequential [first, second] history :=
    handleAll_sequential limited (trace_runs (handleAll served incomings) world state)
  exact ⟨sequential, sequential.balanced,
    fun limit work world state => withSession_runs (trace_runs _ world state)⟩

end TenantAccess.Proofs
