import TenantAccess.Proofs.FlowSafety

/-! The runs of a flow, told apart from any world: what was asked, what was replied, and the
value at the end. Of two histories that begin alike a flow makes the same run. -/

namespace TenantAccess.Proofs

inductive Runs : Flow α → List Exchanged → α → Prop where
  | done (value : α) : Runs (.done value) [] value
  | ask {question : Ask} {next : question.Reply → Flow α} (reply : question.Reply) {history : List Exchanged}
      {value : α} (rest : Runs (next reply) history value) :
      Runs (.ask question next) (⟨question, reply⟩ :: history) value

variable {history : List Exchanged}

theorem trace_runs (flow : Flow α) (world : World σ) (state : σ) :
    Runs flow (flow.trace world state) (flow.run world state).1 := by
  induction flow generalizing state with
  | done value => exact .done value
  | ask question next ih => exact .ask _ (ih _ _)

theorem Runs.bind {flow : Flow α} {next : α → Flow β} {value : β}
    (runs : Runs (flow >>= next) history value) :
    ∃ first middle second, history = first ++ second ∧
      Runs flow first middle ∧ Runs (next middle) second value := by
  induction flow generalizing history with
  | done middle => exact ⟨[], middle, history, rfl, .done middle, runs⟩
  | ask question rest ih =>
    cases runs with
    | ask reply later =>
      obtain ⟨first, middle, second, rfl, earlier, last⟩ := ih reply later
      exact ⟨⟨question, reply⟩ :: first, middle, second, rfl, .ask reply earlier, last⟩

theorem Runs.asked {question : Ask} {next : question.Reply → Flow α} {value : α}
    (runs : Runs (Flow.request question >>= next) history value) :
    ∃ reply rest, history = ⟨question, reply⟩ :: rest ∧ Runs (next reply) rest value := by
  cases runs with
  | ask reply rest => exact ⟨reply, _, rfl, rest⟩

theorem Runs.ended {result value : α} (runs : Runs (pure result) history value) :
    history = [] ∧ result = value := by
  cases runs
  exact ⟨rfl, rfl⟩

theorem Runs.within {ok : Ask → Prop} {flow : Flow α} {value : α} (runs : Runs flow history value)
    (asks : Asks ok flow) : ∀ asked ∈ history, ok asked.question := by
  induction runs with
  | done value => exact fun _ member => absurd member List.not_mem_nil
  | ask reply rest ih =>
    intro asked member
    rcases List.mem_cons.mp member with rfl | later
    · exact asks.1
    · exact ih (asks.2 reply) asked later

theorem Runs.unique {flow : Flow α} {first second rest more : List Exchanged} {value other : α}
    (one : Runs flow first value) (two : Runs flow second other) (same : first ++ rest = second ++ more) :
    first = second ∧ value = other := by
  induction one generalizing second with
  | done value =>
    cases two
    exact ⟨rfl, rfl⟩
  | ask reply earlier ih =>
    cases two with
    | ask again later =>
      obtain ⟨rfl, tail⟩ : reply = again ∧ _ := by simpa using same
      obtain ⟨rfl, rfl⟩ := ih later tail
      exact ⟨rfl, rfl⟩

end TenantAccess.Proofs
