import TenantAccess.Proofs.CreatedVerifiers
import TenantAccess.Proofs.FlowSafety
import TenantAccess.Rehearsal.Transcript

/-! What a verification can cost. Whatever a provider does, one verification sends
at most one request, takes its timer back, and comes to claims or to none. -/

namespace TenantAccess.Proofs
open Rehearsal

def fetches (history : List Exchanged) : Nat :=
  history.countP fun asked => match asked.question with
    | .fetch _ => true
    | _ => false

/-- A failure that can be put into words. -/
def Describable (failure : Failure) : Prop := ∃ text, failure.describe = .ok text

def SpokenReply : FetchReply → Prop
  | .answered _ (.error failure) | .refused failure => Describable failure
  | _ => True

def SpokenExchange : Exchanged → Prop
  | ⟨.fetch _, reply⟩ => SpokenReply reply
  | _ => True

/-- Whatever a provider raised while it was asked can be put into words. -/
def Spoken (history : List Exchanged) : Prop := ∀ asked ∈ history, SpokenExchange asked

def Quiet : Ask → Prop
  | .fetch _ | .armTimer _ | .disarmTimer => False
  | _ => True

/-- What was asked since an earlier point cost so many requests at most, and left
as many timers as there were. -/
structure Spends (most : Nat) (early final : List Exchanged) : Prop where
  requests : fetches final ≤ fetches early + most
  timers : Transcript.timersLeft final = Transcript.timersLeft early

@[simp] theorem fetches_append (first second : List Exchanged) :
    fetches (first ++ second) = fetches first + fetches second := List.countP_append

private theorem foldl_from {change : Int → α → Int}
    (additive : ∀ left item, change left item = left + change 0 item) (items : List α) (start : Int) :
    items.foldl change start = start + items.foldl change 0 := by
  induction items generalizing start with
  | nil => simp
  | cons item rest ih =>
    have first := ih (change start item)
    have bare := ih (change 0 item)
    have step := additive start item
    simp only [List.foldl_cons]
    omega

@[simp] theorem timersLeft_append (first second : List Exchanged) :
    Transcript.timersLeft (first ++ second) =
      Transcript.timersLeft first + Transcript.timersLeft second := by
  unfold Transcript.timersLeft
  rw [List.foldl_append]
  apply foldl_from
  intro left asked
  cases asked.question <;> simp only <;> omega

@[simp] theorem watchesLeft_append (first second : List Exchanged) :
    Transcript.watchesLeft (first ++ second) =
      Transcript.watchesLeft first + Transcript.watchesLeft second := by
  unfold Transcript.watchesLeft
  rw [List.foldl_append]
  apply foldl_from
  intro left asked
  cases asked.question <;> simp only <;> omega

theorem Spends.refl (history : List Exchanged) : Spends 0 history history := ⟨Nat.le_refl _, rfl⟩

theorem Spends.trans {first second : Nat} {early middle final : List Exchanged}
    (one : Spends first early middle) (other : Spends second middle final) :
    Spends (first + second) early final :=
  ⟨by have := one.requests; have := other.requests; omega, other.timers.trans one.timers⟩

theorem Spends.mono {less most : Nat} {early final : List Exchanged} (spent : Spends less early final)
    (bound : less ≤ most) : Spends most early final :=
  ⟨by have := spent.requests; omega, spent.timers⟩

private theorem quiet_costs {more : List Exchanged} (quiet : ∀ asked ∈ more, Quiet asked.question) :
    fetches more = 0 ∧ Transcript.timersLeft more = 0 := by
  induction more with
  | nil => exact ⟨rfl, rfl⟩
  | cons asked rest ih =>
    obtain ⟨sent, armed⟩ := ih fun other member => quiet other (List.mem_cons_of_mem _ member)
    have silent := quiet asked (List.mem_cons_self ..)
    have split : asked :: rest = [asked] ++ rest := rfl
    rw [split, fetches_append, timersLeft_append, sent, armed]
    obtain ⟨question, reply⟩ := asked
    cases question <;> first | exact False.elim silent | exact ⟨rfl, rfl⟩

theorem Spends.quiet (early : List Exchanged) {more : List Exchanged}
    (quiet : ∀ asked ∈ more, Quiet asked.question) : Spends 0 early (early ++ more) := by
  obtain ⟨sent, armed⟩ := quiet_costs quiet
  exact ⟨by simp [sent], by simp [armed]⟩

theorem Spends.asked {most : Nat} {early past : List Exchanged} (spent : Spends most early past)
    (question : Ask) (reply : question.Reply) (silent : Quiet question) :
    Spends most early (past ++ [⟨question, reply⟩]) := by
  have one : Spends 0 past (past ++ [⟨question, reply⟩]) := .quiet past (by simpa using silent)
  simpa using spent.trans one

abbrev Anything : List Exchanged → Ask → Prop := fun _ _ => True

theorem Asks.spends {flow : Flow α} (quiet : Asks Quiet flow) {most : Nat} {early past : List Exchanged}
    (spent : Spends most early past) :
    Safe Anything (fun final _ => Spends most early final) past flow := by
  refine (quiet.safe (fun _ _ _ => trivial) past).weaken (fun _ _ _ => trivial) ?_
  rintro final value ⟨more, rfl, within⟩
  simpa using spent.trans (Spends.quiet past within)

structure Bounded (most : Nat) (early final : List Exchanged)
    (result : Except Failure (Option Fields)) : Prop where
  spent : Spends most early final
  settles : Spoken final → ∃ claims, result = .ok claims

theorem reported_bounded {most : Nat} {early past : List Exchanged} (spent : Spends most early past)
    (severity : Severity) (fields : List (String × LogValue)) (message : String) (claims : Option Fields) :
    Safe Anything (Bounded most early) past (do
      Flow.report severity fields message
      pure (.ok claims)) := by
  refine Safe.report trivial ⟨?_, fun _ => ⟨claims, rfl⟩⟩
  exact spent.asked _ _ trivial

/-- One outside request: its timer is armed before it and disarmed after it. -/
theorem fetchJson_spends (request : FetchRequest) (timeout : Number) {most : Nat}
    {early past : List Exchanged} (spent : Spends most early past) :
    Safe Anything (fun final outcome => Spends (most + 1) early final ∧
      ∃ reply, (⟨.fetch request, reply⟩ : Exchanged) ∈ final ∧ outcome = JsonResponse.ofReply reply)
      past (fetchJson request timeout) := by
  refine Safe.request trivial fun _ => Safe.request trivial fun reply => Safe.request trivial fun _ => ?_
  refine ⟨spent.trans ⟨by simp [fetches], by simp [Transcript.timersLeft]⟩, reply, by simp, rfl⟩

theorem ofReply_describable {reply : FetchReply} {failure : Failure}
    (failed : JsonResponse.ofReply reply = .error failure) (spoken : SpokenReply reply) :
    Describable failure := by
  match reply with
  | .answered _ (.error _) => cases failed; exact spoken
  | .refused _ => cases failed; exact spoken
  | .unanswered => cases failed; exact ⟨_, rfl⟩

theorem reportUnreachable_bounded {most : Nat} {early past : List Exchanged} {failure : Failure}
    (spent : Spends most early past) (told : Spoken past → Describable failure)
    (provider place url : String) :
    Safe Anything (Bounded most early) past (reportUnreachable provider place url failure) := by
  unfold reportUnreachable
  cases described : failure.describe with
  | ok text => exact reported_bounded spent _ _ _ _
  | error raised =>
    refine ⟨spent, fun spoken => ?_⟩
    obtain ⟨text, same⟩ := told spoken
    rw [described] at same
    cases same

/-- The two strategies that put one question to the provider read its answer in
their own way, and share everything else. -/
theorem asked_bounded {request : FetchRequest} {timeout : Number} {provider place url : String}
    {judge : JsonResponse → Flow (Except Failure (Option Fields))} (past : List Exchanged)
    (judged : ∀ response current, Spends 1 past current →
      Safe Anything (Bounded 1 past) current (judge response)) :
    Safe Anything (Bounded 1 past) past (do
      match ← fetchJson request timeout with
      | .error failure => reportUnreachable provider place url failure
      | .ok response => judge response) := by
  apply Safe.bind (fetchJson_spends request timeout (Spends.refl past))
  rintro current outcome - ⟨spent, reply, sent, rfl⟩
  cases outcome : JsonResponse.ofReply reply with
  | ok response => exact judged response _ spent
  | error failure =>
    refine reportUnreachable_bounded spent (fun spoken => ?_) _ _ _
    exact ofReply_describable outcome (spoken ⟨.fetch request, reply⟩ sent)

theorem introspection_bounded (provider url : String) (timeout : Number) (token : String)
    (signal : Signal) (past : List Exchanged) :
    Safe Anything (Bounded 1 past) past (Introspection.verify provider url timeout token signal) := by
  apply asked_bounded
  intro response current spent
  split
  · exact reported_bounded spent _ _ _ _
  · split
    · exact reported_bounded spent _ _ _ _
    · exact reported_bounded spent _ _ _ _

theorem userinfo_bounded (url : String) (timeout : Number) (token : String) (signal : Signal)
    (past : List Exchanged) :
    Safe Anything (Bounded 1 past) past (Userinfo.verify url timeout token signal) := by
  apply asked_bounded
  intro response current spent
  split
  · exact reported_bounded spent _ _ _ _
  · split
    · exact reported_bounded spent _ _ _ _
    · exact reported_bounded spent _ _ _ _

def claims? : TokenOutcome → Option Fields
  | .accepted claims => some claims
  | _ => none

theorem conclude_reports (method : String) (outcome : TokenOutcome) (past : List Exchanged) :
    Safe Anything (fun final claims => (∃ entry, final = past ++ [⟨.report entry, ()⟩]) ∧
      claims = claims? outcome) past (outcome.conclude method) := by
  cases outcome <;> exact ⟨trivial, fun _ => ⟨⟨_, rfl⟩, rfl⟩⟩

theorem localKey_judges (held : LocalKey) (method token : String) (past : List Exchanged) :
    Safe Anything (fun final claims => ∃ now entry,
      final = past ++ [⟨.clock, now⟩, ⟨.report entry, ()⟩] ∧ claims = claims? (held.check token now))
      past (held.verify method token) := by
  refine ⟨trivial, fun now => ?_⟩
  refine (conclude_reports method (held.check token now) _).weaken (fun _ _ _ => trivial) ?_
  rintro final claims ⟨⟨entry, rfl⟩, rfl⟩
  exact ⟨now, entry, by simp, rfl⟩

theorem findKey_quiet (configured : SigningAlgorithm) (id : String) (candidates : List Fields) :
    Asks Quiet (PublishedKeys.findKey configured id candidates) := by
  induction candidates with
  | nil => trivial
  | cons fields rest ih =>
    unfold PublishedKeys.findKey
    split
    · split
      · trivial
      · exact ⟨trivial, fun _ => ih⟩
      · exact ⟨trivial, fun _ => ih⟩
    · exact ih

theorem keep_quiet (options : Keys.CacheOptions) (url : String) (keys : List Fields) :
    Asks Quiet (Keys.keep options url keys) := by
  refine ⟨trivial, fun fetchedAt => ⟨trivial, fun _ => ?_⟩⟩
  simp only
  split
  · trivial
  · exact ⟨trivial, fun _ => trivial⟩

theorem getKeys_spends (options : Keys.CacheOptions) (url : String) (signal : Signal)
    (past : List Exchanged) :
    Safe Anything (fun final _ => Spends 1 past final) past (Keys.getKeys options url signal) := by
  refine Safe.request trivial fun now => Safe.request trivial fun entry => ?_
  have looked : Spends 0 past (past ++ [⟨.clock, now⟩] ++ [⟨.recallKeys, entry⟩]) :=
    ((Spends.refl past).asked .clock now trivial).asked .recallKeys entry trivial
  split
  · exact Safe.report trivial ((looked.asked _ _ (by trivial)).mono (Nat.zero_le _))
  · refine Safe.report trivial ?_
    apply Safe.bind (fetchJson_spends _ _ (looked.asked _ _ (by trivial)))
    rintro current outcome - ⟨spent, -⟩
    split
    · exact spent
    · exact (keep_quiet _ _ _).spends spent

/-- A header that names the key to look for. -/
def NamesKey (token : String) : Prop :=
  ∃ header id, SignedToken.protectedHeader? token = some header ∧
    header.get? "kid" = some (.text id) ∧ id ≠ ""

theorem reportLookupFailure_quiet (url : String) (failure : Keys.LookupFailure) :
    Asks Quiet (PublishedKeys.reportLookupFailure url failure) := by
  unfold PublishedKeys.reportLookupFailure
  split <;> exact ⟨trivial, fun _ => trivial⟩

theorem verifyUnder_spends (keys : PublishedKeys) (id token : String) (candidates : List Fields)
    {most : Nat} {early past : List Exchanged} (spent : Spends most early past) :
    Safe Anything (fun final _ => Spends most early final) past
      (keys.verifyUnder id token candidates) := by
  apply Safe.bind ((findKey_quiet keys.algorithm id candidates).spends spent)
  intro current found _ spent
  split
  · exact Safe.report trivial (spent.asked _ _ trivial)
  · refine (localKey_judges _ _ _ _).weaken (fun _ _ _ => trivial) ?_
    rintro final claims ⟨now, entry, rfl, -⟩
    simpa using (spent.asked .clock now trivial).asked (.report entry) () trivial

/-- No request goes out for a token that names no key. -/
theorem publishedKeys_spends (keys : PublishedKeys) (token : String) (signal : Signal) (most : Nat)
    (named : NamesKey token → 1 ≤ most) (past : List Exchanged) :
    Safe Anything (fun final _ => Spends most past final) past (keys.verify token signal) := by
  have nameless (entry : LogEntry) : Spends most past (past ++ [⟨.report entry, ()⟩]) :=
    ((Spends.refl past).asked _ _ (by trivial)).mono (Nat.zero_le _)
  unfold PublishedKeys.verify
  split
  · exact Safe.report trivial (nameless _)
  next header decoded =>
    split
    next id found =>
      split
      · exact Safe.report trivial (nameless _)
      next nonempty =>
        have one := named ⟨header, id, decoded, found, nonempty⟩
        apply Safe.bind (getKeys_spends keys.cache keys.url signal past)
        intro current answer _ spent
        have spent := spent.mono one
        split
        · apply Safe.bind ((reportLookupFailure_quiet _ _).spends spent)
          intro final _ _ spent
          exact spent
        · exact verifyUnder_spends keys id token _ spent
    · exact Safe.report trivial (nameless _)

theorem remote_bounded (strategy : RemoteVerifier) (token : String) (signal : Signal)
    (past : List Exchanged) : Safe Anything (Bounded 1 past) past (strategy.verify token signal) := by
  cases strategy with
  | introspection provider url timeout => exact introspection_bounded provider url timeout token signal past
  | userinfo url timeout => exact userinfo_bounded url timeout token signal past
  | publishedKeys keys =>
    apply Safe.map
    refine (publishedKeys_spends keys token signal 1 (fun _ => Nat.le_refl _) past).weaken
      (fun _ _ _ => trivial) ?_
    exact fun final claims spent => ⟨spent, fun _ => ⟨claims, rfl⟩⟩

/-- With a key at hand the key is asked first; what it accepts costs nothing. -/
structure LocalFirst (key : LocalKey) (strategy : Option RemoteVerifier) (token : String)
    (past final : List Exchanged) (result : Except Failure (Option Fields)) : Prop where
  bounded : Bounded 1 past final result
  alone : strategy = none → Spends 0 past final
  accepted : ∃ now more, final = past ++ ⟨.clock, now⟩ :: more ∧
    ∀ claims, key.check token now = .accepted claims → Spends 0 past final ∧ result = .ok (some claims)

theorem localFirst_bounded (key : LocalKey) (strategy : Option RemoteVerifier) (token : String)
    (signal : Signal) (past : List Exchanged) :
    Safe Anything (LocalFirst key strategy token past) past
      (Verifier.verifyLocalFirst key strategy token signal) := by
  apply Safe.bind (localKey_judges key Verifier.localMethod token past)
  rintro current claims - ⟨now, entry, rfl, judged⟩
  have spent : Spends 0 past (past ++ [⟨.clock, now⟩, ⟨.report entry, ()⟩]) :=
    .quiet past (by simp [Quiet])
  have free (result : Option Fields) :
      Bounded 1 past (past ++ [⟨.clock, now⟩, ⟨.report entry, ()⟩]) (.ok result) :=
    ⟨spent.mono (by omega), fun _ => ⟨result, rfl⟩⟩
  cases claims with
  | some claims =>
    refine ⟨free _, fun _ => spent, now, [⟨.report entry, ()⟩], rfl, ?_⟩
    intro other same
    simp only [same, claims?, Option.some.injEq] at judged
    exact ⟨spent, by rw [judged]⟩
  | none =>
    have refused : ∀ claims, key.check token now ≠ .accepted claims := by
      intro claims same
      simp [same, claims?] at judged
    cases strategy with
    | none =>
      exact ⟨free _, fun _ => spent, now, [⟨.report entry, ()⟩], rfl,
        fun claims same => absurd same (refused claims)⟩
    | some remote =>
      refine ((remote_bounded remote token signal _).remember (List.prefix_refl _)).weaken
        (fun _ _ _ => trivial) ?_
      rintro final result ⟨⟨more, rfl⟩, bounded⟩
      refine ⟨⟨by simpa using spent.trans bounded.spent, bounded.settles⟩, nofun, now,
        ⟨.report entry, ()⟩ :: more, by simp, fun claims same => absurd same (refused claims)⟩

/-- What one verification of a configured verifier comes to and what it costs. -/
structure Settled (config : ProviderConfig) (token : String) (now : Number) (history : List Exchanged)
    (result : Except Failure (Option Fields)) : Prop where
  resolves : ∃ claims, result = .ok claims
  requests : fetches history ≤ 1
  timers : Transcript.timersLeft history = 0
  unset : config.provider = .none → fetches history = 0 ∧ result = .ok none
  accepted : ∀ key claims, config.provider ≠ .none → heldKey? config = some key →
    key.check token now = .accepted claims → fetches history = 0 ∧ result = .ok (some claims)
  authoritative : config.provider = .cognito → ProviderConfig.nonempty? config.publicKeyPem ≠ none →
    fetches history = 0
  unnamed : config.provider = .cognito → ¬ NamesKey token → fetches history = 0

private theorem spends_none {history : List Exchanged} (spent : Spends 0 [] history) :
    fetches history = 0 := Nat.le_zero.mp spent.requests

theorem keyless_holds_none {config : ProviderConfig}
    (keyless : ProviderConfig.nonempty? config.publicKeyPem = none) : heldKey? config = none := by
  simp [heldKey?, keyless]

/-- A provider that publishes its keys is only asked about tokens that name one. -/
theorem unnamed_sends_none {config : ProviderConfig} {algorithm : SigningAlgorithm} {base : String}
    {strategy : RemoteVerifier} (chosen : config.remote? algorithm base false = some strategy)
    (published : config.provider = .cognito) (token : String) (signal : Signal)
    (unnamed : ¬ NamesKey token) (world : World τ) (state : τ) :
    fetches ((strategy.verify token signal).trace world state) = 0 := by
  obtain ⟨keys, rfl⟩ : ∃ keys, strategy = .publishedKeys keys := by
    simp only [ProviderConfig.remote?, published, Bool.false_eq_true, ↓reduceIte, Option.some.injEq] at chosen
    exact ⟨_, chosen.symm⟩
  have safe : Safe Anything (fun final _ => Spends 0 [] final) []
      (RemoteVerifier.verify (.publishedKeys keys) token signal) :=
    Safe.map (publishedKeys_spends keys token signal 0 (fun named => absurd named unnamed) [])
  exact spends_none (safe.holds world state).2

/-- Every verifier that a configuration can give settles every token, under every
reply and from every state that earlier verifications can have left. A provider may
raise anything that can be put into words. -/
theorem verification_settles {config : ProviderConfig} {verifier : Verifier} (setup : World σ) (start : σ)
    (built : (config.createVerifier.run setup start).1 = .ok verifier)
    (world : World τ) (state : τ) (token : String) (signal : Signal)
    (spoken : Spoken ((verifier.verify token signal).trace world state)) :
    Settled config token (world.reply .clock state).1 ((verifier.verify token signal).trace world state)
      ((verifier.verify token signal).run world state).1 := by
  cases created setup start built with
  | disabled unset =>
    exact ⟨⟨none, rfl⟩, Nat.zero_le _, rfl, fun _ => ⟨rfl, rfl⟩, fun _ _ set => absurd unset set,
      fun _ _ => rfl, fun _ _ => rfl⟩
  | @remote algorithm url set named given keyless =>
    have unheld := keyless_holds_none keyless
    cases chosen : config.remote? algorithm (ProviderConfig.baseUrl url) false with
    | none =>
      exact ⟨⟨none, rfl⟩, Nat.zero_le _, rfl, fun unset => absurd unset set,
        fun _ _ _ held => by simp [unheld] at held, fun _ keyed => absurd keyless keyed, fun _ _ => rfl⟩
    | some strategy =>
      simp only [chosen, Option.map_some, Option.getD_some] at spoken ⊢
      have bounded := ((remote_bounded strategy token signal []).holds world state).2
      exact ⟨bounded.settles spoken, bounded.spent.requests, bounded.spent.timers,
        fun unset => absurd unset set, fun _ _ _ held => by simp [unheld] at held,
        fun _ keyed => absurd keyless keyed,
        fun published unnamed => unnamed_sends_none chosen published token signal unnamed world state⟩
  | @localFirst algorithm url key set named given held =>
    have settled := ((localFirst_bounded key (config.remote? algorithm (ProviderConfig.baseUrl url) true)
      token signal []).holds world state).2
    have alone (published : config.provider = .cognito) :
        config.remote? algorithm (ProviderConfig.baseUrl url) true = none := by
      simp [ProviderConfig.remote?, published]
    have silent (published : config.provider = .cognito) := spends_none (settled.alone (alone published))
    refine ⟨settled.bounded.settles spoken, settled.bounded.spent.requests,
      settled.bounded.spent.timers, fun unset => absurd unset set, ?_, fun published _ => silent published,
      fun published _ => silent published⟩
    intro other claims _ same accepted
    obtain ⟨now, more, asked, free⟩ := settled.accepted
    have sameKey : other = key := by simpa [held] using same.symm
    have first := (List.cons.inj (show
      (⟨.clock, (world.reply .clock state).1⟩ : Exchanged) :: _ = ⟨.clock, now⟩ :: more from asked)).1
    cases sameKey
    cases first
    obtain ⟨spent, result⟩ := free claims accepted
    exact ⟨spends_none spent, result⟩

def still : Props := ⟨.ok (), fun _ _ => .ok [], fun _ => .ok none, none, .ok (), "id"⟩

def userinfoConfig : ProviderConfig :=
  ⟨.auth0, some "https://id.example/", none, "RS256", none, .standard⟩

def userinfoVerifier : Verifier := .remote (.userinfo "https://id.example/userinfo" providerTimeout)

def speechless : Scene := .begin 0 [⟨0, .refused (.bare none)⟩]

theorem verification_settles_speechless :
    (userinfoConfig.createVerifier.run still.world (.begin 0 [])).1 = .ok userinfoVerifier ∧
    Spoken ((userinfoVerifier.verify "token" .never).trace still.world speechless) ∧
    Settled userinfoConfig "token" (still.world.reply .clock speechless).1
      ((userinfoVerifier.verify "token" .never).trace still.world speechless)
      ((userinfoVerifier.verify "token" .never).run still.world speechless).1 := by
  have spoken : Spoken ((userinfoVerifier.verify "token" .never).trace still.world speechless) := by
    change ∀ asked ∈ [(⟨.armTimer providerTimeout, ()⟩ : Exchanged), ⟨.fetch _, .refused (.bare none)⟩,
      ⟨.disarmTimer, ()⟩, ⟨.report _, ()⟩], SpokenExchange asked
    simp only [List.forall_mem_cons]
    exact ⟨trivial, ⟨"undefined", rfl⟩, trivial, trivial, nofun⟩
  exact ⟨rfl, spoken, verification_settles still.world (.begin 0 []) rfl still.world speechless "token" .never spoken⟩

end TenantAccess.Proofs
