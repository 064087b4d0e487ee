import Mathlib.Data.List.Perm.Subperm
import TenantAccess.Proofs.FlowRuns
import TenantAccess.Rehearsal.World
import TenantAccess.Service.Server

/-! Signals to stop that come while the process is already stopping. Nothing remembers that a signal came
before, so each one closes the server, ends the pool and ends the process by itself, in whatever order the
steps of several fall. -/

namespace TenantAccess.Proofs
open Rehearsal

/-- A signal that is dealt with: what was asked for it so far, and what is left to do. -/
structure Stopping where
  signal : String
  told : List Exchanged
  left : Flow Unit

/-- A server that was started, the signals that came since, and everything that was done, in order. A reply
stands with its question. When it came is told by what is done after it: until then any other signal can come
and any other step be taken, so a server that takes its time to close and a pool that takes its time to end
are here too. -/
inductive Signalled (settings : Settings) : List Stopping → List Exchanged → Prop where
  | started {service : Service} {history : List Exchanged}
      (runs : Runs (Server.start settings) history (some service)) : Signalled settings [] history
  | signalled {stoppings : List Stopping} {history : List Exchanged} (signal : String)
      (before : Signalled settings stoppings history) :
      Signalled settings (stoppings ++ [⟨signal, [], Server.stop signal⟩]) history
  | stepped {first last : List Stopping} {signal : String} {told history : List Exchanged} {question : Ask}
      {next : question.Reply → Flow Unit} (reply : question.Reply)
      (before : Signalled settings (first ++ ⟨signal, told, .ask question next⟩ :: last) history) :
      Signalled settings (first ++ ⟨signal, told ++ [⟨question, reply⟩], next reply⟩ :: last)
        (history ++ [⟨question, reply⟩])

def endings (history : List Exchanged) : List (Except Failure Unit) :=
  history.filterMap fun
    | ⟨.endPool, ending⟩ => some ending
    | _ => none

def exits (history : List Exchanged) : List Nat :=
  history.filterMap fun
    | ⟨.exit code, _⟩ => some code
    | _ => none

section
variable {first second : List Exchanged}

@[simp] theorem endings_append : endings (first ++ second) = endings first ++ endings second :=
  List.filterMap_append

@[simp] theorem exits_append : exits (first ++ second) = exits first ++ exits second :=
  List.filterMap_append

theorem endings_perm (same : first.Perm second) : (endings first).Perm (endings second) := same.filterMap _

theorem exits_perm (same : first.Perm second) : (exits first).Perm (exits second) := same.filterMap _

end

def codeOf : Except Failure Unit → Nat
  | .ok () => 0
  | .error _ => 1

def stopping (signal : String) : LogEntry := ⟨.info, [LogEntry.text "signal" signal], "shutting down"⟩

def stopped : Except Failure Unit → LogEntry
  | .ok () => ⟨.info, [], "shutdown complete"⟩
  | .error failure => ⟨.error, [("error", .failure failure)], "failed to close database pool"⟩

def stopCourse (signal : String) (ending : Except Failure Unit) : List Exchanged :=
  [⟨.report (stopping signal), ()⟩, ⟨.closeServer, ()⟩, ⟨.endPool, ending⟩, ⟨.report (stopped ending), ()⟩,
    ⟨.exit (codeOf ending), ()⟩]

theorem stop_runs {signal : String} {history : List Exchanged} (runs : Runs (Server.stop signal) history ()) :
    ∃ ending, history = stopCourse signal ending := by
  obtain ⟨-, _, rfl, closes⟩ := runs.asked
  obtain ⟨-, _, rfl, ends⟩ := closes.asked
  obtain ⟨ending, _, rfl, tells⟩ := ends.asked
  refine ⟨ending, ?_⟩
  match ending with
  | .ok () | .error failure =>
    obtain ⟨-, _, rfl, leaves⟩ := tells.asked
    cases leaves with
    | ask _ ended =>
      cases ended
      rfl

/-- What was asked for a signal is how its shutdown begins, however its rest will go. -/
def Underway (stopping : Stopping) : Prop :=
  ∀ more, Runs stopping.left more () → Runs (Server.stop stopping.signal) (stopping.told ++ more) ()

theorem Underway.begun (signal : String) : Underway ⟨signal, [], Server.stop signal⟩ := fun _ runs => runs

theorem Underway.stepped {signal : String} {told : List Exchanged} {question : Ask}
    {next : question.Reply → Flow Unit} (underway : Underway ⟨signal, told, .ask question next⟩)
    (reply : question.Reply) : Underway ⟨signal, told ++ [⟨question, reply⟩], next reply⟩ := by
  intro more runs
  rw [List.append_assoc]
  exact underway _ (.ask reply runs)

def smooth : Props := ⟨.ok (), fun _ _ => .ok [], fun _ => .ok none, none, .ok (), "id"⟩

theorem Underway.course {stopping : Stopping} (underway : Underway stopping) :
    ∃ ending, stopping.told <+: stopCourse stopping.signal ending := by
  obtain ⟨ending, course⟩ := stop_runs (underway _ (trace_runs stopping.left smooth.world (.begin 0 [])))
  exact ⟨ending, _, course⟩

theorem Underway.finished {stopping : Stopping} (underway : Underway stopping) (done : stopping.left = .done ()) :
    ∃ ending, stopping.told = stopCourse stopping.signal ending := by
  have runs := underway [] (done ▸ .done ())
  rw [List.append_nil] at runs
  exact stop_runs runs

theorem course_accounts {signal : String} {ending : Except Failure Unit} {told : List Exchanged}
    (begun : told <+: stopCourse signal ending) :
    (endings told).length ≤ 1 ∧ (exits told).Subperm ((endings told).map codeOf) := by
  rw [List.prefix_iff_eq_take.mp begun]
  match told.length with
  | 0 | 1 | 2 | 3 | 4 | _ + 5 => simp [stopCourse, endings, exits]

def Stops : Ask → Prop
  | .endPool | .exit _ => True
  | _ => False

theorem unstopped {history : List Exchanged} (going : ∀ asked ∈ history, ¬ Stops asked.question) :
    endings history = [] ∧ exits history = [] := by
  constructor <;>
  · refine List.filterMap_eq_nil_iff.mpr fun asked member => ?_
    have going := going asked member
    obtain ⟨question, reply⟩ := asked
    cases question <;> first | rfl | exact absurd trivial going

theorem verifier_created_going (config : ProviderConfig) :
    Asks (fun question => ¬ Stops question) config.createVerifier := by
  have keyless (remote : Option RemoteVerifier) :
      Asks (fun question => ¬ Stops question) (config.verifierWithoutKey remote) := ⟨id, fun _ => trivial⟩
  unfold ProviderConfig.createVerifier ProviderConfig.verifierAt
  split
  · trivial
  · split
    · trivial
    · split
      · trivial
      · split
        · exact (keyless _).bind fun _ => trivial
        · split <;> trivial

theorem identityStage_going (settings : Settings) :
    Asks (fun question => ¬ Stops question) (Server.identityStage settings) := by
  unfold Server.identityStage
  split
  · trivial
  · refine (verifier_created_going _).bind fun outcome => ?_
    cases outcome <;> trivial

theorem started_going {settings : Settings} {service : Service} {history : List Exchanged}
    (runs : Runs (Server.start settings) history (some service)) : ∀ asked ∈ history, ¬ Stops asked.question := by
  obtain ⟨-, rest, rfl, identifies⟩ := runs.asked
  obtain ⟨identifying, outcome, last, rfl, identified, listens⟩ := identifies.bind
  have going : ∀ asked ∈ identifying, ¬ Stops asked.question := identified.within (identityStage_going settings)
  have listening : ∀ asked ∈ last, ¬ Stops asked.question := by
    cases outcome with
    | error failure =>
      obtain ⟨-, _, rfl, exits⟩ := listens.asked
      obtain ⟨-, _, rfl, ended⟩ := exits.asked
      cases ended.ended.2
    | ok identity =>
      have asks : Asks (fun question => ¬ Stops question) _ → ∀ asked ∈ last, ¬ Stops asked.question := listens.within
      refine asks ?_
      dsimp only
      split
      · exact ⟨id, fun _ => ⟨id, fun _ => ⟨id, fun _ => trivial⟩⟩⟩
      · exact ⟨id, fun _ => ⟨id, fun _ => trivial⟩⟩
  simp only [List.forall_mem_cons, List.forall_mem_append]
  exact ⟨id, going, listening⟩

theorem Signalled.woven {settings : Settings} {stoppings : List Stopping} {history : List Exchanged}
    (signalled : Signalled settings stoppings history) :
    (∀ stopping ∈ stoppings, Underway stopping) ∧ ∃ starting, (∀ asked ∈ starting, ¬ Stops asked.question) ∧
      history.Perm (starting ++ stoppings.flatMap (·.told)) := by
  induction signalled with
  | started runs => exact ⟨nofun, _, started_going runs, by simp⟩
  | signalled signal _ ih =>
    obtain ⟨underway, starting, going, same⟩ := ih
    refine ⟨?_, starting, going, by simpa using same⟩
    simp only [List.forall_mem_append, List.forall_mem_singleton]
    exact ⟨underway, .begun signal⟩
  | stepped reply _ ih =>
    obtain ⟨underway, starting, going, same⟩ := ih
    simp only [List.forall_mem_append, List.forall_mem_cons] at underway ⊢
    refine ⟨⟨underway.1, underway.2.1.stepped reply, underway.2.2⟩, starting, going, ?_⟩
    refine (same.append_right _).trans ?_
    simp only [List.flatMap_append, List.flatMap_cons, List.append_assoc]
    -- The new step moves forward past what was done for the later signals.
    exact (((List.perm_append_comm.append_left _).append_left _).append_left _)

theorem stoppings_account {stoppings : List Stopping} (underway : ∀ stopping ∈ stoppings, Underway stopping) :
    (endings (stoppings.flatMap (·.told))).length ≤ stoppings.length ∧
    (exits (stoppings.flatMap (·.told))).Subperm ((endings (stoppings.flatMap (·.told))).map codeOf) := by
  induction stoppings with
  | nil => exact ⟨Nat.zero_le _, List.nil_subperm⟩
  | cons stopping stoppings ih =>
    obtain ⟨ended, left⟩ := ih fun other member => underway other (List.mem_cons_of_mem _ member)
    obtain ⟨ending, begun⟩ := (underway stopping List.mem_cons_self).course
    obtain ⟨once, accounted⟩ := course_accounts begun
    simp only [List.flatMap_cons, endings_append, exits_append, List.length_append, List.map_append, List.length_cons]
    exact ⟨by omega, accounted.append left⟩

theorem stoppings_finish {stoppings : List Stopping} (underway : ∀ stopping ∈ stoppings, Underway stopping)
    (finished : ∀ stopping ∈ stoppings, stopping.left = .done ()) :
    (endings (stoppings.flatMap (·.told))).length = stoppings.length ∧
    exits (stoppings.flatMap (·.told)) = (endings (stoppings.flatMap (·.told))).map codeOf := by
  induction stoppings with
  | nil => exact ⟨rfl, rfl⟩
  | cons stopping stoppings ih =>
    obtain ⟨ended, left⟩ := ih (fun other member => underway other (List.mem_cons_of_mem _ member))
      fun other member => finished other (List.mem_cons_of_mem _ member)
    obtain ⟨ending, course⟩ := (underway stopping List.mem_cons_self).finished (finished stopping List.mem_cons_self)
    have once : endings stopping.told = [ending] ∧ exits stopping.told = [codeOf ending] := by
      rw [course]
      exact ⟨rfl, rfl⟩
    simp [once, left, ended]

/-- A pool that was ended refuses to be ended again. -/
def EndsOnce (history : List Exchanged) : Prop := ∀ ending ∈ (endings history).tail, ∃ failure, ending = .error failure

/-- Nothing is done once the process has exited. -/
def Final (history : List Exchanged) : Prop :=
  ∀ before code after, history = before ++ ⟨.exit code, ()⟩ :: after → after = []

theorem EndsOnce.one_success {history : List Exchanged} (once : EndsOnce history) :
    ((endings history).map codeOf).count 0 ≤ 1 := by
  unfold EndsOnce at once
  cases told : endings history with
  | nil => exact Nat.zero_le _
  | cons first rest =>
    rw [told, List.tail_cons] at once
    have refused : (rest.map codeOf).count 0 = 0 := by
      refine List.count_eq_zero.mpr fun member => ?_
      obtain ⟨ending, later, zero⟩ := List.mem_map.mp member
      obtain ⟨failure, rfl⟩ := once ending later
      cases zero
    rw [List.map_cons, List.count_cons, refused]
    split <;> omega

theorem Final.one_exit {history : List Exchanged} (final : Final history) : (exits history).length ≤ 1 := by
  cases told : exits history with
  | nil => exact Nat.zero_le _
  | cons code rest =>
    obtain ⟨before, ⟨question, reply⟩, after, rfl, -, exit, later⟩ := List.filterMap_eq_cons_iff.mp told
    cases question <;> cases exit
    cases final before code after rfl
    cases later
    exact Nat.le_refl _

/-- However often the process is told to stop and however the steps fall, the pool is ended at most once for each
signal, and each exit belongs to an end of the pool and says how that end went. Once all is done there was one
of each for every signal. A pool that cannot be ended twice lets one of the exits be a success, and a process
that ends with its first exit has no other. -/
theorem signals_stop_apart {settings : Settings} {stoppings : List Stopping} {history : List Exchanged}
    (signalled : Signalled settings stoppings history) :
    (endings history).length ≤ stoppings.length ∧ (exits history).Subperm ((endings history).map codeOf) ∧
    ((∀ stopping ∈ stoppings, stopping.left = .done ()) →
      (endings history).length = stoppings.length ∧ (exits history).Perm ((endings history).map codeOf)) ∧
    (EndsOnce history → (exits history).count 0 ≤ 1) ∧ (Final history → (exits history).length ≤ 1) := by
  obtain ⟨underway, starting, going, woven⟩ := signalled.woven
  obtain ⟨unended, unexited⟩ := unstopped going
  have ended : (endings history).Perm (endings (stoppings.flatMap (·.told))) := by
    simpa [unended] using endings_perm woven
  have left : (exits history).Perm (exits (stoppings.flatMap (·.told))) := by
    simpa [unexited] using exits_perm woven
  obtain ⟨once, accounted⟩ := stoppings_account underway
  have within : (exits history).Subperm ((endings history).map codeOf) :=
    (left.subperm.trans accounted).trans (ended.map codeOf).symm.subperm
  refine ⟨ended.length_eq ▸ once, within, fun finished => ?_, fun refusing => ?_, Final.one_exit⟩
  · obtain ⟨each, told⟩ := stoppings_finish underway finished
    exact ⟨ended.length_eq.trans each, left.trans (told ▸ (ended.map codeOf).symm)⟩
  · exact Nat.le_trans (within.count_le 0) refusing.one_success

def openSettings : Settings where
  runMode := .production
  port := 3000
  logLevel := .info
  databaseUrl := "postgres://db"
  queryTimeout := 5000
  poolMax := 20
  poolIdleTimeout := 30000
  poolConnectionTimeout := 5000
  authMode := .token
  provider := .none
  providerUrl := none
  providerIssuer := none
  algorithm := ⟨.rsaPkcs1, .bits256⟩
  publicKeyPem := none
  enforceIsolation := true
  requestIdHeader := "x-request-id"

def endedTwice : Failure := .error "Error" "Called end on pool more than once"

section
variable {settings : Settings} {signal : String} {told history : List Exchanged} {question : Ask}
  {next : question.Reply → Flow Unit} {other : Stopping}

theorem Signalled.first
    (before : Signalled settings [⟨signal, told, .ask question next⟩, other] history) (reply : question.Reply) :
    Signalled settings [⟨signal, told ++ [⟨question, reply⟩], next reply⟩, other] (history ++ [⟨question, reply⟩]) :=
  @Signalled.stepped settings [] [other] signal told history question next reply before

theorem Signalled.second
    (before : Signalled settings [other, ⟨signal, told, .ask question next⟩] history) (reply : question.Reply) :
    Signalled settings [other, ⟨signal, told ++ [⟨question, reply⟩], next reply⟩] (history ++ [⟨question, reply⟩]) :=
  @Signalled.stepped settings [other] [] signal told history question next reply before

end

/-- What is left to do for one signal can be done while nothing else is. -/
theorem Signalled.alone {settings : Settings} {first last : List Stopping} {signal : String}
    {told history more : List Exchanged} {left : Flow Unit} (runs : Runs left more ())
    (before : Signalled settings (first ++ ⟨signal, told, left⟩ :: last) history) :
    Signalled settings (first ++ ⟨signal, told ++ more, .done ()⟩ :: last) (history ++ more) := by
  generalize finished : () = value at runs
  induction runs generalizing told history with
  | done value => simpa using! before
  | ask reply rest ih => simpa using ih (before.stepped reply) finished

theorem course_runs (signal : String) (ending : Except Failure Unit) :
    Runs (Server.stop signal) (stopCourse signal ending) () := by
  match ending with
  | .ok () | .error failure => exact .ask _ (.ask _ (.ask _ (.ask _ (.ask _ (.done _)))))

def opened : List Exchanged := (Server.start openSettings).trace smooth.world (.begin 0 [])

theorem open_started : Signalled openSettings [] opened := .started (trace_runs _ _ _)

/-- The second signal comes when all was done for the first. -/
theorem in_succession (ending : Except Failure Unit) : Signalled openSettings
    [⟨"SIGTERM", stopCourse "SIGTERM" (.ok ()), .done ()⟩, ⟨"SIGINT", stopCourse "SIGINT" ending, .done ()⟩]
    (opened ++ stopCourse "SIGTERM" (.ok ()) ++ stopCourse "SIGINT" ending) := by
  have first := @Signalled.alone _ [] [] _ _ _ _ _ (course_runs _ (.ok ())) (open_started.signalled "SIGTERM")
  exact @Signalled.alone _ [_] [] _ _ _ _ _ (course_runs _ ending) (first.signalled "SIGINT")

theorem exit_last {rest : List Exchanged} (unexited : exits rest = []) (code : Nat) :
    Final (rest ++ [⟨.exit code, ()⟩]) := by
  intro before other after same
  rcases List.eq_nil_or_concat after with rfl | ⟨more, last, rfl⟩
  · rfl
  · have earlier : rest = before ++ ⟨.exit other, ()⟩ :: more := by
      rw [List.concat_eq_append, ← List.cons_append, ← List.append_assoc] at same
      exact (List.append_inj' same rfl).1
    rw [earlier] at unexited
    simp [exits] at unexited

/-- Both signals come before the server has closed. The pool refuses its second end while the first goes on,
so the process exits with a failure. -/
theorem overlapping : ∃ stoppings history, Signalled openSettings stoppings history ∧
    stoppings.map (·.signal) = ["SIGTERM", "SIGINT"] ∧ EndsOnce history ∧ Final history ∧
    endings history = [.ok (), .error endedTwice] ∧ exits history = [1] := by
  have signals := (open_started.signalled "SIGTERM").signalled "SIGINT"
  have closing := (((signals.first ()).first ()).second ()).second ()
  have ended := (closing.first (.ok ())).second (.error endedTwice)
  have left := (ended.second ()).second ()
  refine ⟨_, _, left, rfl, ?_, exit_last rfl 1, rfl, rfl⟩
  intro ending member
  exact ⟨endedTwice, List.mem_singleton.mp member⟩

theorem signals_stop_apart_twice :
    (∃ stoppings history, Signalled openSettings stoppings history ∧
      (∀ stopping ∈ stoppings, stopping.left = .done ()) ∧ EndsOnce history ∧
      (endings history).length = 2 ∧ (exits history).Perm [0, 1] ∧ (exits history).count 0 ≤ 1) ∧
    ∃ stoppings history, Signalled openSettings stoppings history ∧ Final history ∧ (exits history).length ≤ 1 := by
  have apart := signals_stop_apart (in_succession (.error endedTwice))
  have finished : ∀ stopping ∈ [⟨"SIGTERM", stopCourse "SIGTERM" (.ok ()), .done ()⟩,
      (⟨"SIGINT", stopCourse "SIGINT" (.error endedTwice), .done ()⟩ : Stopping)], stopping.left = .done () := by
    simp
  have once : EndsOnce (opened ++ stopCourse "SIGTERM" (.ok ()) ++ stopCourse "SIGINT" (.error endedTwice)) :=
    fun ending member => ⟨endedTwice, List.mem_singleton.mp member⟩
  obtain ⟨each, accounted⟩ := apart.2.2.1 finished
  obtain ⟨stoppings, history, signalled, -, -, final, -⟩ := overlapping
  exact ⟨⟨_, _, in_succession _, finished, once, each, accounted, apart.2.2.2.1 once⟩,
    _, _, signalled, final, (signals_stop_apart signalled).2.2.2.2 final⟩

/-- A pool that came to its end, and a process that exits as if it had not; and where an exit does not end the
process, a second one. -/
theorem second_signal_ends_again :
    (∃ stoppings history, Signalled openSettings stoppings history ∧
      stoppings.map (·.signal) = ["SIGTERM", "SIGINT"] ∧ EndsOnce history ∧ Final history ∧
      endings history = [.ok (), .error endedTwice] ∧ exits history = [1]) ∧
    ∃ stoppings history, Signalled openSettings stoppings history ∧
      stoppings.map (·.signal) = ["SIGTERM", "SIGINT"] ∧ endings history = [.ok (), .ok ()] ∧ exits history = [0, 0] :=
  ⟨overlapping, _, _, in_succession (.ok ()), rfl, rfl, rfl⟩

end TenantAccess.Proofs
