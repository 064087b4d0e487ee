import TenantAccess.Proofs.CanonicalIdentifiers
import TenantAccess.Proofs.ComposedVerifiers
import TenantAccess.Proofs.FormFields

/-! The token that a caller presents, on its way to the provider. It is found between the blanks of its header, and
reaches the provider as it was found: as the only field of a form, or behind the scheme of another header. -/

namespace TenantAccess.Proofs

/-- A header that consists of the scheme, a token and blanks around it. -/
structure Bears (header token : String) : Prop where
  written : ∃ before after : List Char,
    header.toList = "Bearer ".toList ++ (before ++ token.toList ++ after) ∧ Blank before ∧ Blank after
  bare : Bare token.toList
  filled : token ≠ ""

theorem token?_bears (header token : String) : Bearer.token? header = some token ↔ Bears header token := by
  have split (rest : List Char) : Bearer.scheme.toList.isPrefixOf? header.toList = some rest ↔
      Bearer.scheme.toList ++ rest = header.toList := List.isPrefixOf?_eq_some_iff_append_eq
  unfold Bearer.token?
  constructor
  · intro found
    cases begun : Bearer.scheme.toList.isPrefixOf? header.toList with
    | none =>
      rw [begun] at found
      cases found
    | some rest =>
      simp only [begun] at found
      split at found
      next => cases found
      next filled =>
        cases Option.some.inj found
        obtain ⟨before, after, parts, first, last⟩ := trimmed_splits rest
        have token := @String.toList_ofList (Text.trimmed rest)
        refine ⟨⟨before, after, ?_, first, last⟩, ?_, ?_⟩
        · rw [token, ← parts]
          exact ((split rest).mp begun).symm
        · rw [token]
          exact trimmed_bare rest
        · intro empty
          apply filled
          rw [← token, empty]
          rfl
  · intro bears
    obtain ⟨before, after, parts, first, last⟩ := bears.written
    have trimmed : Text.trimmed (before ++ token.toList ++ after) = token.toList :=
      (trimmed_padded first last _).trans bears.bare.trimmed
    have filled : ¬ token.toList.isEmpty = true := by
      rw [List.isEmpty_iff, String.toList_eq_nil_iff]
      exact bears.filled
    rw [(split _).mpr parts.symm]
    simp only [trimmed, if_neg filled, String.ofList_toList]

theorem header_bears {token : String} (bare : Bare token.toList) (filled : token ≠ "") :
    Bears (Bearer.header token) token := by
  refine ⟨⟨[], [], ?_, nofun, nofun⟩, bare, filled⟩
  rw [Bearer.header, String.toList_append, List.nil_append, List.append_nil]
  rfl

/-- Whatever the provider replies, it is asked about this token and no other. -/
structure Relayed (token : String) : Prop where
  introspected : ∀ provider url timeout signal history outcome,
    Runs (Introspection.verify provider url timeout token signal) history outcome →
      ∃ request body, requestsOf history = [request] ∧ request.body = some body ∧ readForm body = [("token", token)]
  informed : ∀ url timeout signal history outcome, Runs (Userinfo.verify url timeout token signal) history outcome →
    ∃ request header, requestsOf history = [request] ∧ request.headers = some [("Authorization", .text header)] ∧
      Bearer.token? header = some token

/-- Exactly the tokens that a header bears are found in it, and what was found is what the provider receives. -/
theorem presented_relayed (header : String) :
    (∀ token, Bearer.token? header = some token ↔ Bears header token) ∧
      ∀ token, Bearer.token? header = some token → Relayed token := by
  refine ⟨token?_bears header, fun token found => ?_⟩
  have bears := (token?_bears header token).mp found
  constructor
  · intro provider url timeout signal history outcome runs
    have asked := (introspection_once provider url timeout token signal).request history outcome runs
    exact ⟨_, _, asked, rfl, readForm_pair "token" token⟩
  · intro url timeout signal history outcome runs
    have asked := (userinfo_once url timeout token signal).request history outcome runs
    exact ⟨_, _, asked, rfl, (token?_bears _ token).mpr (header_bears bears.bare bears.filled)⟩

/-- A token that looks like another field of a form is still one value. -/
theorem presented_relayed_disguised :
    Bearer.token? "Bearer \tfirst&token=second+%é " = some "first&token=second+%é" ∧
      Relayed "first&token=second+%é" := by
  have found : Bearer.token? "Bearer \tfirst&token=second+%é " = some "first&token=second+%é" := by decide +kernel
  exact ⟨found, (presented_relayed _).2 _ found⟩

end TenantAccess.Proofs
