import TenantAccess.Proofs.TenantGrants

/-! Work in a session of the database. Whatever the database refuses on the way is what
the work comes to, so nothing that went wrong is lost. -/

namespace TenantAccess.Proofs

/-- Since an earlier point the database refused nothing but what the outcome says, and a
value was found by one of the questions asked. -/
structure Met (mark : Exchanged → α → Prop) (past final : List Exchanged)
    (outcome : Except Failure α) : Prop where
  since : ∃ more, final = past ++ more ∧ (∀ met ∈ failures more, outcome = .error met) ∧
    ∀ value, outcome = .ok value → ∃ asked ∈ more, mark asked value

theorem Met.before {mark : Exchanged → α → Prop} {past final : List Exchanged} {outcome : Except Failure α}
    {more : List Exchanged} (met : Met mark (past ++ more) final outcome) (clean : failures more = []) :
    Met mark past final outcome := by
  obtain ⟨later, rfl, refused, found⟩ := met.since
  refine ⟨more ++ later, by simp, ?_, fun value same => ?_⟩
  · rw [failures_append, clean, List.nil_append]
    exact refused
  · obtain ⟨asked, member, marked⟩ := found value same
    exact ⟨asked, List.mem_append_right _ member, marked⟩

theorem Met.asked {mark : Exchanged → α → Prop} {past final : List Exchanged} {outcome : Except Failure α}
    (met : Met mark past final outcome) (question : Ask) (reply : question.Reply) (plain : Plain question) :
    Met mark past (final ++ [⟨question, reply⟩]) outcome := by
  obtain ⟨more, rfl, refused, found⟩ := met.since
  refine ⟨more ++ [⟨question, reply⟩], by simp, ?_, fun value same => ?_⟩
  · rw [failures_append, plain.silent reply, List.append_nil]
    exact refused
  · obtain ⟨asked, member, marked⟩ := found value same
    exact ⟨asked, List.mem_append_left _ member, marked⟩

theorem Met.refused (mark : Exchanged → α → Prop) (past : List Exchanged) {more : List Exchanged}
    {failure : Failure} (alone : ∀ met ∈ failures more, met = failure) :
    Met mark past (past ++ more) (.error failure) :=
  ⟨more, rfl, fun met member => by rw [alone met member], fun _ same => nomatch same⟩

variable {arrival : Request}

theorem withSession_met (lender : Sql.Lender) {work : Flow (Except Failure α)} {mark : Exchanged → α → Prop}
    (past : List Exchanged)
    (meets : ∀ current, past <+: current → Safe (Allowed arrival) (Met mark current) current work) :
    Safe (Allowed arrival) (Met mark past) past (Sql.withSession lender work) := by
  refine Safe.request .borrow fun borrowed => ?_
  cases borrowed with
  | error failure => exact Met.refused mark past (by simp [failures, databaseFailure?])
  | ok _ =>
    have working {more : List Exchanged} (clean : failures more = []) :
        Safe (Allowed arrival) (Met mark past) (past ++ more) (do
          let result ← work
          Flow.request .giveBack
          pure result) := by
      refine Safe.bind (meets _ (List.prefix_append _ _)) fun current outcome _ met => ?_
      exact ⟨.plain trivial, fun _ => (met.before clean).asked .giveBack () trivial⟩
    cases lender with
    | plain => exact working (by simp [failures, databaseFailure?])
    | pooled limit =>
      refine ⟨.housekeeping (.inr (.inl ⟨limit, rfl⟩)), fun prepared => ?_⟩
      cases prepared with
      | error failure =>
        refine ⟨.plain trivial, fun _ => ?_⟩
        rw [List.append_assoc, List.append_assoc]
        exact Met.refused mark past (by simp [failures, databaseFailure?])
      | ok rows =>
        rw [List.append_assoc]
        exact working (by simp [failures, databaseFailure?])

theorem inSession_met (lender : Sql.Lender) (ownSession : Bool) {work : SessionKind → Flow (Except Failure α)}
    {mark : Exchanged → α → Prop} (past : List Exchanged)
    (meets : ∀ session current, past <+: current →
      Safe (Allowed arrival) (Met mark current) current (work session)) :
    Safe (Allowed arrival) (Met mark past) past (Sql.inSession lender ownSession work) := by
  cases ownSession with
  | true => exact meets .request past (List.prefix_refl _)
  | false => exact withSession_met lender past (meets .pool)

end TenantAccess.Proofs
