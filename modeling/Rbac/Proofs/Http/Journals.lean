import Rbac.Deployment
import Rbac.Proofs.Announcements
import Rbac.Proofs.Http.Responses

namespace Rbac

def LogLine.IsAccess (line : LogLine) : Prop :=
  line.logger = "accesscontrol.access"

instance : DecidablePred LogLine.IsAccess :=
  fun line => inferInstanceAs (Decidable (line.logger = "accesscontrol.access"))

theorem LogLine.filter_access {before after : List LogLine} {line : LogLine}
    (h : ∀ other ∈ before ++ after, ¬ other.IsAccess) (hline : line.IsAccess) :
    (before ++ line :: after).filter (·.IsAccess) = [line] := by
  have hbefore : before.filter (·.IsAccess) = [] := by
    simpa [List.filter_eq_nil_iff] using fun other hin => h other (List.mem_append_left after hin)
  have hafter : after.filter (·.IsAccess) = [] := by
    simpa [List.filter_eq_nil_iff] using fun other hin => h other (List.mem_append_right before hin)
  simp [List.filter_append, hbefore, hafter, hline]

/-- What is left behind while a request is worked on: nothing tells of a request served yet, and all
posts name the correlation id. -/
structure Journal.LeftUnder (correlation : Option String) (journal : Journal) : Prop where
  silent : ∀ line ∈ journal.logs, ¬ line.IsAccess
  named : ∀ post ∈ journal.posts,
    post.entry.correlation = AuditEntry.correlationOf correlation

theorem Journal.ofLines_append (lines more : List LogLine) :
    Journal.ofLines (lines ++ more) = .ofLines lines ++ .ofLines more :=
  congrArg Journal.mk List.map_append

namespace Journal.LeftUnder

variable {correlation : Option String} {a b : Journal}

theorem append (ha : a.LeftUnder correlation) (hb : b.LeftUnder correlation) :
    (a ++ b).LeftUnder correlation := by
  refine ⟨?_, ?_⟩
  · intro line hline
    rw [logs_append, List.mem_append] at hline
    exact hline.elim (ha.silent line) (hb.silent line)
  · intro post hpost
    rw [posts_append, List.mem_append] at hpost
    exact hpost.elim (ha.named post) (hb.named post)

theorem ofLines {lines : List LogLine} (h : ∀ line ∈ lines, ¬ line.IsAccess) :
    (Journal.ofLines lines).LeftUnder correlation := by
  refine ⟨?_, ?_⟩
  · rwa [logs_ofLines]
  · simp

theorem log {line : LogLine} (h : ¬ line.IsAccess) : (Journal.log line).LeftUnder correlation := by
  apply ofLines
  intro other hother
  rwa [List.mem_singleton.mp hother]

theorem empty : ({} : Journal).LeftUnder correlation :=
  ⟨by simp [logs], by simp [posts]⟩

end Journal.LeftUnder

namespace Attempt

variable {context : Context} {events : List Event}

theorem Planned.leftUnder {attempt : Attempt} (h : attempt.Planned context events) :
    attempt.journal.LeftUnder context.correlation := by
  cases h with
  | logged mem => exact .log (by simp [LogLine.IsAccess, Publisher.eventLine, LogLine.event])
  | withheld mem => exact .log (by simp [LogLine.IsAccess, AuditService.noActor, LogLine.audit])
  | posted mem reads acts =>
    refine Journal.LeftUnder.append ⟨by simp, ?_⟩ (.ofLines ?_)
    · intro post hpost
      rw [Journal.posts_post, List.mem_singleton] at hpost
      rw [hpost]
      rfl
    · intro line hline
      split at hline
      · rw [List.mem_singleton.mp hline]
        simp [LogLine.IsAccess, AuditService.deliveryFailed, LogLine.audit]
      · cases hline

theorem journals_leftUnder {attempts : List Attempt}
    (h : ∀ attempt ∈ attempts, attempt.Planned context events) :
    (journals attempts).LeftUnder context.correlation := by
  induction attempts with
  | nil => exact .empty
  | cons first rest ih =>
    obtain ⟨hfirst, hrest⟩ := List.forall_mem_cons.mp h
    exact hfirst.leftUnder.append (ih hrest)

end Attempt

namespace Http

variable {ω : Type}

theorem Server.log_log (lines more : List LogLine) (server : Server ω) :
    (server.log lines).log more = server.log (lines ++ more) := by
  simp [Server.log, Journal.append_assoc, Journal.ofLines_append]

/-- What working on a request changes around it: its correlation id stands, no other is drawn, and
what it leaves in the journal it leaves under that id. -/
structure Server.Proceeds (server after : Server ω) : Prop where
  correlation : after.context.correlation = server.context.correlation
  correlations : after.correlations = server.correlations
  journal : ∃ more, after.journal = server.journal ++ more ∧
    more.LeftUnder server.context.correlation

namespace Server.Proceeds

variable {a b c : Server ω}

theorem of_quiet (hcorrelation : b.context.correlation = a.context.correlation)
    (hcorrelations : b.correlations = a.correlations) (hjournal : b.journal = a.journal) :
    a.Proceeds b :=
  ⟨hcorrelation, hcorrelations, {}, by rw [hjournal, Journal.append_empty], .empty⟩

theorem refl (server : Server ω) : server.Proceeds server := of_quiet rfl rfl rfl

theorem trans (hab : a.Proceeds b) (hbc : b.Proceeds c) : a.Proceeds c := by
  obtain ⟨more, hmore, hleft⟩ := hab.journal
  obtain ⟨later, hlater, hleft'⟩ := hbc.journal
  rw [hab.correlation] at hleft'
  refine ⟨hbc.correlation.trans hab.correlation, hbc.correlations.trans hab.correlations,
    more ++ later, ?_, hleft.append hleft'⟩
  rw [hlater, hmore, Journal.append_assoc]

theorem log {lines : List LogLine} (h : ∀ line ∈ lines, ¬ line.IsAccess) (server : Server ω) :
    server.Proceeds (server.log lines) :=
  ⟨rfl, rfl, _, rfl, .ofLines h⟩

end Server.Proceeds

theorem Server.Announced.proceeds {server after : Server ω} {events : List Event}
    {attempts : List Attempt} (h : server.Announced after events attempts) :
    server.Proceeds after :=
  ⟨congrArg Context.correlation h.context, h.correlations, _, h.journal,
    Attempt.journals_leftUnder h.planned⟩

theorem Identity.authenticate_silent (provider : Option IdentityProvider) (request : Incoming) :
    ∀ line ∈ (authenticate provider request).2, ¬ line.IsAccess := by
  have hline : ∀ reason, ¬ (unavailableLine reason).IsAccess := by
    simp [LogLine.IsAccess, unavailableLine, LogLine.identity]
  intro line hin
  unfold authenticate at hin
  cases provider with
  | none => cases hin
  | some provider =>
    simp only at hin
    split at hin
    · cases hin
    · split at hin
      · unfold ofToken at hin
        split at hin
        · cases hin
        · cases hin
        · rw [List.mem_singleton.mp hin]
          exact hline _
      · cases hin

namespace App

/-- The service over some records. Its readiness check tells of no request served. -/
structure Serves (app : App ω) (pattern : Pattern) (execution : Execution ω) : Prop where
  dispatcher : app.dispatcher = Server.dispatcher pattern execution
  readiness : ∀ check ∈ app.readiness, ∀ records, ∀ line ∈ (check records).2.1, ¬ line.IsAccess

theorem serves_deployed (settings : Settings) (pattern : Pattern) :
    (Deployment.appOf settings pattern).Serves pattern Sql.Connection.execute := by
  refine ⟨rfl, ?_⟩
  intro check hcheck records line hline
  cases hcheck
  unfold Deployment.readiness at hline
  split at hline
  · cases hline
  · rw [List.mem_singleton.mp hline]
    simp [LogLine.IsAccess, Deployment.pingFailedLine, LogLine.connection]

variable {app : App ω} {pattern : Pattern} {execution : Execution ω}

theorem Serves.checkReadiness (h : app.Serves pattern execution) (server : Server ω) :
    server.Proceeds (app.checkReadiness server).2 := by
  unfold App.checkReadiness
  cases hreadiness : app.readiness with
  | none => exact .refl server
  | some check =>
    let checked : Server ω := { server with records := (check server.records).2.2 }
    have hchecked : server.Proceeds (checked.log (check server.records).2.1) := by
      have hrecords : server.Proceeds checked := .of_quiet rfl rfl rfl
      exact hrecords.trans (.log (h.readiness check hreadiness server.records) checked)
    have hnotReady : ∀ line ∈ [notReadyLine], ¬ line.IsAccess := by
      simp [LogLine.IsAccess, notReadyLine, LogLine.health]
    simp only
    split
    · exact hchecked
    · exact hchecked.trans (.log hnotReady _)

theorem Serves.run (h : app.Serves pattern execution) (clock : Clock) (call : Call)
    (server : Server ω) : server.Proceeds (app.run clock call server).2 := by
  cases call with
  | health => exact .refl server
  | readiness => exact h.checkReadiness server
  | options allowed => exact .refl server
  | use asked =>
    rw [run_use, h.dispatcher]
    obtain ⟨events, attempts, hannounced⟩ :=
      Server.dispatch_announced pattern execution clock asked server
    exact hannounced.proceeds

theorem Serves.answer (h : app.Serves pattern execution) (clock : Clock) (request : Incoming)
    (server : Server ω) : server.Proceeds (app.answer clock request server).2 := by
  unfold App.answer
  cases Call.read request with
  | ok call => exact h.run clock call server
  | error problem => exact .refl server

theorem Serves.identify (h : app.Serves pattern execution) (clock : Clock) (request : Incoming)
    (server : Server ω) : server.Proceeds (app.identify clock request server).2.2 := by
  have hsilent := Identity.authenticate_silent app.identity request
  unfold App.identify
  split
  · cases app.origins with
    | some origins => exact .refl server
    | none => exact h.answer clock request server
  · rcases hauth : Identity.authenticate app.identity request with ⟨user, lines⟩
    rw [hauth] at hsilent
    have hheard : server.Proceeds (server.log lines) := .log hsilent server
    cases user with
    | error problem => exact hheard
    | ok user =>
      let heard := server.log lines
      let known : Server ω :=
        { heard with context := { heard.context with actor := Identity.actor user } }
      have hknown : heard.Proceeds known := .of_quiet rfl rfl rfl
      exact (hheard.trans hknown).trans (h.answer clock request known)

def decidedStatus : Except Problem Response → Status
  | .ok response => response.status
  | .error problem => problem.status

theorem internalLine_silent (request : Incoming) : ¬ (Problem.internalLine request).IsAccess := by
  simp [LogLine.IsAccess, Problem.internalLine, LogLine.problem]

theorem logLine_silent (request : Incoming) (problem : Problem) :
    ∀ line ∈ (problem.logLine? request).toList, ¬ line.IsAccess := by
  intro line hline
  have hlogger : line.logger = "accesscontrol.interfaces.api.errors" := by
    unfold Problem.logLine? at hline
    split at hline
    · rw [List.mem_singleton.mp hline]
      rfl
    · rw [List.mem_singleton.mp hline]
      rfl
    · rename_i failure
      rw [List.mem_singleton.mp hline]
      cases failure <;> rfl
    · rw [List.mem_singleton.mp hline]
      rfl
    · cases hline
  simp [LogLine.IsAccess, hlogger]

def servedLine (clock : Clock) (request : Incoming) (status : Status) (name : Text) : LogLine :=
  let elapsed := s!"{clock.elapsed / 10}.{clock.elapsed % 10}"
  let line := s!"{request.method} {request.path} -> {status.text} ({elapsed} ms) user="
  ⟨.info, "accesscontrol.access", .ofString line ++ name⟩

theorem finish_status (app : App ω) (request : Incoming) (correlation told : Option String)
    (result : Except Problem Response) (server : Server ω) :
    (app.finish request correlation (settle request told result server).1).status =
      decidedStatus result := by
  have hname : "content-type" ∉ addedHeaders := by decide
  rw [(app.finish_keeps request correlation _ hname).1]
  cases result with
  | ok response => rfl
  | error problem => rfl

/-- Replying leaves one line that tells of a request served, with the status of what has been
decided. -/
theorem reply_logged (app : App ω) {clock : Clock} (request : Incoming)
    (correlation : Option String)
    (user : Option Json) (result : Except Problem Response) (server : Server ω) :
    ∃ before name after, (∀ line ∈ before ++ after, ¬ line.IsAccess) ∧
      (app.reply clock request correlation user result server).2 =
        server.log (before ++ servedLine clock request (decidedStatus result) name :: after) := by
  obtain ⟨told, htold⟩ : ∃ told, correlation.or server.context.correlation = told := ⟨_, rfl⟩
  obtain ⟨before, hbefore, hsettled⟩ : ∃ before, (∀ line ∈ before, ¬ line.IsAccess) ∧
      (settle request told result server).2 = server.log before := by
    cases result with
    | ok response => exact ⟨[], by simp, by simp [settle, Server.log]⟩
    | error problem => exact ⟨_, logLine_silent request problem, rfl⟩
  have hline : accessLine clock request
      (app.finish request correlation (settle request told result server).1) user =
        servedLine clock request (decidedStatus result) (user.elim (.ofString "-") (·.shown)) := by
    rw [accessLine, finish_status]
    rfl
  refine ⟨before, user.elim (.ofString "-") (·.shown),
    if isEncodable result then [] else [Problem.internalLine request], ?_, ?_⟩
  · intro line hmem
    rcases List.mem_append.mp hmem with hin | hin
    · exact hbefore line hin
    · split at hin
      · cases hin
      · rw [List.mem_singleton.mp hin]
        exact internalLine_silent request
  · simp only [reply, htold, hsettled, hline]
    cases isEncodable result with
    | true => simp [send, Server.log_log]
    | false => simp [send, Server.log_log]

end App
end Http
end Rbac
