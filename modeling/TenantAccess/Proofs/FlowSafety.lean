import TenantAccess.Flow.Basic

/-! Safety of a flow under every possible reply. A claim about a request holds in
all worlds at once when no reply can lead the flow past what it is allowed to ask. -/

namespace TenantAccess.Proofs

/-- Each question is allowed where it is asked, and the result fits everything
asked before it. The past is kept in the order in which it happened. -/
def Safe (allowed : List Exchanged → Ask → Prop) (post : List Exchanged → α → Prop)
    (past : List Exchanged) : Flow α → Prop
  | .done value => post past value
  | .ask question next =>
    allowed past question ∧ ∀ reply, Safe allowed post (past ++ [⟨question, reply⟩]) (next reply)

/-- The footprint of a flow: the questions it can ask at all. -/
def Asks (allowed : Ask → Prop) : Flow α → Prop
  | .done _ => True
  | .ask question next => allowed question ∧ ∀ reply, Asks allowed (next reply)

variable {allowed : List Exchanged → Ask → Prop} {post : List Exchanged → α → Prop}
  {past : List Exchanged}

theorem Safe.request {question : Ask} {next : question.Reply → Flow α}
    (permitted : allowed past question)
    (resume : ∀ reply, Safe allowed post (past ++ [⟨question, reply⟩]) (next reply)) :
    Safe allowed post past (Flow.request question >>= next) := ⟨permitted, resume⟩

theorem Safe.report {severity : Severity} {fields : List (String × LogValue)} {message : String}
    {next : Unit → Flow α} (permitted : allowed past (.report ⟨severity, fields, message⟩))
    (resume : Safe allowed post (past ++ [⟨.report ⟨severity, fields, message⟩, ()⟩]) (next ())) :
    Safe allowed post past (Flow.report severity fields message >>= next) :=
  ⟨permitted, fun _ => resume⟩

theorem Safe.weaken {flow : Flow α} (safe : Safe allowed post past flow)
    {weaker : List Exchanged → Ask → Prop} {other : List Exchanged → α → Prop}
    (permits : ∀ past question, allowed past question → weaker past question)
    (implies : ∀ past value, post past value → other past value) :
    Safe weaker other past flow := by
  induction flow generalizing past with
  | done value => exact implies past value safe
  | ask question next ih =>
    exact ⟨permits past question safe.1, fun reply => ih reply (safe.2 reply)⟩

/-- The past only grows, so what a flow found stays in front of what it did. -/
theorem Safe.remember {flow : Flow α} (safe : Safe allowed post past flow)
    {early : List Exchanged} (prior : early <+: past) :
    Safe allowed (fun final value => early <+: final ∧ post final value) past flow := by
  induction flow generalizing past with
  | done value => exact ⟨prior, safe⟩
  | ask question next ih =>
    exact ⟨safe.1, fun reply => ih reply (safe.2 reply) (prior.trans (List.prefix_append _ _))⟩

theorem Safe.bind {flow : Flow α} {next : α → Flow β} {last : List Exchanged → β → Prop}
    (safe : Safe allowed post past flow)
    (resume : ∀ current value, past <+: current → post current value →
      Safe allowed last current (next value)) :
    Safe allowed last past (flow >>= next) := by
  induction flow generalizing past with
  | done value => exact resume past value (List.prefix_refl _) safe
  | ask question rest ih =>
    refine ⟨safe.1, fun reply => ih reply (safe.2 reply) ?_⟩
    intro current value later held
    exact resume current value ((List.prefix_append _ _).trans later) held

theorem Safe.map {flow : Flow α} {f : α → β} {last : List Exchanged → β → Prop}
    (safe : Safe allowed (fun final value => last final (f value)) past flow) :
    Safe allowed last past (f <$> flow) := safe.bind fun _ _ _ held => held

theorem Asks.bind {ok : Ask → Prop} {flow : Flow α} {next : α → Flow β} (first : Asks ok flow)
    (rest : ∀ value, Asks ok (next value)) : Asks ok (flow >>= next) := by
  induction flow with
  | done value => exact rest value
  | ask question next ih => exact ⟨first.1, fun reply => ih reply (first.2 reply)⟩

theorem Asks.weaken {ok other : Ask → Prop} {flow : Flow α} (asks : Asks ok flow)
    (permits : ∀ question, ok question → other question) : Asks other flow := by
  induction flow with
  | done value => trivial
  | ask question next ih => exact ⟨permits question asks.1, fun reply => ih reply (asks.2 reply)⟩

/-- A flow whose whole footprint is permitted is safe, and only adds exchanges
of that footprint to the past. -/
theorem Asks.safe {ok : Ask → Prop} {flow : Flow α} (asks : Asks ok flow)
    (permits : ∀ past question, ok question → allowed past question) (past : List Exchanged) :
    Safe allowed (fun final _ => ∃ more, final = past ++ more ∧ ∀ asked ∈ more, ok asked.question)
      past flow := by
  induction flow generalizing past with
  | done value => exact ⟨[], (List.append_nil past).symm, fun _ member => nomatch member⟩
  | ask question next ih =>
    refine ⟨permits past question asks.1, fun reply => ?_⟩
    refine (ih reply (asks.2 reply) _).weaken (fun _ _ permitted => permitted) ?_
    rintro final value ⟨more, rfl, within⟩
    refine ⟨⟨question, reply⟩ :: more, by simp, ?_⟩
    intro asked member
    rcases List.mem_cons.mp member with rfl | later
    · exact asks.1
    · exact within asked later

/-- What is safe under all replies is so in every world: each question of the
trace was allowed at its place, and the result fits the whole trace. -/
theorem Safe.holds {flow : Flow α} (safe : Safe allowed post past flow) (world : World σ) (state : σ) :
    (∀ before asked after, flow.trace world state = before ++ asked :: after →
      allowed (past ++ before) asked.question) ∧
    post (past ++ flow.trace world state) (flow.run world state).1 := by
  induction flow generalizing past state with
  | done value => exact ⟨by simp [Flow.trace], by simpa [Flow.trace, Flow.run] using! safe⟩
  | ask question next ih =>
    have later := ih _ (safe.2 (world.reply question state).1) (world.reply question state).2
    refine ⟨?_, by simpa [Flow.trace, Flow.run] using later.2⟩
    intro before asked after found
    simp only [Flow.trace] at found
    cases before with
    | nil =>
      obtain ⟨rfl, _⟩ := List.cons.inj found
      simpa using safe.1
    | cons first before =>
      obtain ⟨rfl, rest⟩ := List.cons.inj found
      simpa using later.1 before asked after rest

end TenantAccess.Proofs
