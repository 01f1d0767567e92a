import Rbac.Http.App

namespace Rbac.Http

/-- What a method of a resource does: it answers by itself, or it asks for a use case with a request
that is known at once or is read from the query string or from the body. -/
inductive Endpoint where
  | health
  | readiness
  | plain (request : Request)
  | query (read : Json → Checked Request)
  | body (read : Json → Checked Request)

namespace Endpoint

def of? : Resource → Method → Option Endpoint
  | .health, .get => some .health
  | .readiness, .get => some .readiness
  | .roles, .get => some (.query fun payload => (Payload.listRoles payload).map .listRoles)
  | .roles, .post => some (.body fun payload => (Payload.createRole payload).map .createRole)
  | .role id, .get => some (.plain (.getRole id))
  | .role id, .put => some (.body fun payload => (Payload.updateRole id payload).map .updateRole)
  | .role id, .delete => some (.plain (.deleteRole id))
  | .assignments id, .post =>
    some (.body fun payload => (Payload.assignRole id payload).map .assignRole)
  | .assignments id, .delete =>
    some (.body fun payload => (Payload.revokeRole id payload).map .revokeRole)
  | .check, .get =>
    some (.query fun payload => (Payload.checkPermission payload).map .checkPermission)
  | .userPermissions id, .get =>
    some (.query fun payload => (Payload.userPermissions id payload).map .userPermissions)
  | _, _ => none

def find? (request : Incoming) : Option Endpoint :=
  (Resource.ofPath? request.path).bind fun resource =>
    (resource.method? request.method).bind (of? resource)

def unreadable? (endpoint : Endpoint) (request : Incoming) : Option Problem :=
  match endpoint, Media.read request with
  | .body _, .error problem => some problem
  | _, _ => none

def reading? (endpoint : Endpoint) (request : Incoming) : Option (Checked Request) :=
  match endpoint with
  | .health | .readiness => none
  | .plain asked => some (.ok asked)
  | .query read => some (read (Form.read request.query))
  | .body read => (Media.read request).toOption.map read

def asked? (endpoint : Endpoint) (request : Incoming) : Option Request :=
  match endpoint.reading? request with
  | some (.ok asked) => some asked
  | _ => none

def flaws? (endpoint : Endpoint) (request : Incoming) : Option Flaws :=
  match endpoint.reading? request with
  | some (.flawed flaws) => some flaws
  | _ => none

end Endpoint

def misrouted? (request : Incoming) : Option Problem :=
  match Resource.ofPath? request.path with
  | none => some .noRoute
  | some resource =>
    if !Method.known.contains request.method then some .unknownMethod
    else if (resource.method? request.method).isNone then
      some (.noMethod (resource.methodNames ++ [Call.optionsMethod]))
    else none

inductive Stage where
  | preflight
  | authentication
  | routing
  | body
  | schema
deriving DecidableEq, Repr

namespace Stage

def all : List Stage := [.preflight, .authentication, .routing, .body, .schema]

variable (identity : Option IdentityProvider) (request : Incoming)

/-- What a stage makes of a request that it stops. -/
def stop? : Stage → Option (Except Problem Response)
  | .preflight => if request.method = Call.optionsMethod then some (.ok Cors.preflight) else none
  | .authentication =>
    match (Identity.authenticate identity request).1 with
    | .error problem => some (.error problem)
    | .ok _ => none
  | .routing => (misrouted? request).map .error
  | .body => ((Endpoint.find? request).bind (·.unreadable? request)).map .error
  | .schema => ((Endpoint.find? request).bind (·.flaws? request)).map fun flaws =>
      .error (.flawed flaws)

def first? : Option (Stage × Except Problem Response) :=
  all.findSome? fun stage => (stage.stop? identity request).map (stage, ·)

end Stage

def Stage.codes : Stage → List Nat
  | .preflight => [200]
  | .authentication => [401]
  | .routing => [404, 405, 400]
  | .body => [400, 415, 500]
  | .schema => [400]

def decidedCode : Except Problem Response → Nat
  | .ok response => response.status.code
  | .error problem => problem.status.code

def decidedBody (request : Incoming) (correlation : Option String) :
    Except Problem Response → Option Json
  | .ok response => response.body
  | .error problem => some (problem.body request.path correlation)

/-- The request that is handed to the dispatcher, if no stage stops the one that asks for it. -/
def dispatched? (identity : Option IdentityProvider) (request : Incoming) : Option Request :=
  if (Stage.first? identity request).isSome then none
  else (Endpoint.find? request).bind (·.asked? request)

namespace Endpoint

def call (endpoint : Endpoint) (request : Incoming) : Except Problem Call :=
  match endpoint with
  | .health => .ok .health
  | .readiness => .ok .readiness
  | .plain asked => .ok (.use asked)
  | .query read => (Call.ofQuery read request).map .use
  | .body read => (Call.ofBody read request).map .use

theorem ofQuery_map {α : Type} (read : Json → Checked α) (wrap : α → Request) (request : Incoming) :
    (Call.ofQuery read request).map (Call.use ∘ wrap) =
      (Call.ofQuery (fun payload => (read payload).map wrap) request).map .use := by
  simp only [Call.ofQuery]
  cases read (Form.read request.query) with
  | ok value => rfl
  | flawed flaws => rfl

theorem ofBody_map {α : Type} (read : Json → Checked α) (wrap : α → Request) (request : Incoming) :
    (Call.ofBody read request).map (Call.use ∘ wrap) =
      (Call.ofBody (fun payload => (read payload).map wrap) request).map .use := by
  simp only [Call.ofBody]
  cases Media.read request with
  | error problem => rfl
  | ok payload =>
    simp only [bind, Except.bind]
    cases read payload with
    | ok value => rfl
    | flawed flaws => rfl

theorem ofMethod_eq (resource : Resource) (method : String) (request : Incoming) :
    Call.ofMethod? resource method request =
      (resource.method? method).bind fun method =>
        (of? resource method).map (·.call request) := by
  unfold Call.ofMethod?
  cases resource.method? method with
  | none => rfl
  | some method =>
    simp only [Option.bind_some]
    cases resource <;> cases method <;>
      simp only [of?, call, ofQuery_map, ofBody_map, Option.map_some, Option.map_none]

theorem of_method {resource : Resource} {name : String} {method : Method}
    (h : resource.method? name = some method) :
    ∃ endpoint, of? resource method = some endpoint := by
  have hmethod : method ∈ resource.methods := List.mem_of_find?_eq_some h
  cases resource <;> cases method <;> simp_all [Resource.methods, of?]

end Endpoint

namespace Endpoint

variable {endpoint : Endpoint} {request : Incoming}

theorem unreadable_read {problem : Problem} (h : endpoint.unreadable? request = some problem) :
    Media.read request = .error problem := by
  cases endpoint with
  | body read =>
    simp only [unreadable?] at h
    cases hread : Media.read request with
    | ok payload => simp [hread] at h
    | error unread =>
      simp only [hread, Option.some.injEq] at h
      rw [h]
  | _ => cases h

theorem call_unreadable {problem : Problem} (h : endpoint.unreadable? request = some problem) :
    endpoint.call request = .error problem := by
  cases endpoint with
  | body read =>
    simp only [call, Call.ofBody, unreadable_read h]
    rfl
  | _ => cases h

theorem call_reading {reading : Checked Request} (h : endpoint.reading? request = some reading) :
    endpoint.call request = (Call.checked reading).map .use := by
  cases endpoint with
  | health => cases h
  | readiness => cases h
  | plain asked =>
    cases h
    rfl
  | query read =>
    cases h
    rfl
  | body read =>
    simp only [reading?] at h
    simp only [call, Call.ofBody]
    cases hread : Media.read request with
    | error problem => simp [hread, Except.toOption] at h
    | ok payload =>
      simp only [hread, Except.toOption, Option.map_some, Option.some.injEq] at h
      rw [← h]
      rfl

theorem reading_cases (endpoint : Endpoint) (request : Incoming) :
    (∃ problem, endpoint.unreadable? request = some problem) ∨
      endpoint.unreadable? request = none ∧
        (endpoint = .health ∨ endpoint = .readiness ∨
          ∃ reading, endpoint.reading? request = some reading) := by
  cases endpoint with
  | body read =>
    cases hread : Media.read request with
    | error problem => exact Or.inl ⟨problem, by simp [unreadable?, hread]⟩
    | ok payload =>
      exact Or.inr ⟨by simp [unreadable?, hread], Or.inr (Or.inr ⟨read payload, by
        simp [reading?, hread, Except.toOption]⟩)⟩
  | health => exact Or.inr ⟨rfl, Or.inl rfl⟩
  | readiness => exact Or.inr ⟨rfl, Or.inr (Or.inl rfl)⟩
  | plain asked => exact Or.inr ⟨rfl, Or.inr (Or.inr ⟨_, rfl⟩)⟩
  | query read => exact Or.inr ⟨rfl, Or.inr (Or.inr ⟨_, rfl⟩)⟩

end Endpoint

theorem read_routed {request : Incoming} (hoptions : request.method ≠ Call.optionsMethod) :
    match misrouted? request with
    | some problem => Call.read request = .error problem
    | none => ∃ endpoint, Endpoint.find? request = some endpoint ∧
        Call.read request = endpoint.call request := by
  unfold misrouted? Call.read Endpoint.find?
  cases Resource.ofPath? request.path with
  | none => rfl
  | some resource =>
    simp only [Call.ofResource, Option.bind_some]
    by_cases hknown : !Method.known.contains request.method
    · simp only [hknown, if_true]
    · simp only [hknown, if_neg hoptions, Endpoint.ofMethod_eq]
      cases hmethod : resource.method? request.method with
      | none => simp
      | some method =>
        obtain ⟨endpoint, hendpoint⟩ := Endpoint.of_method hmethod
        simp [hendpoint]

/-- How a request that passes all stages is called. -/
def Passes (identity : Option IdentityProvider) (request : Incoming) : Call → Prop
  | .health => Endpoint.find? request = some .health
  | .readiness => Endpoint.find? request = some .readiness
  | .options _ => False
  | .use asked => dispatched? identity request = some asked

/-- Reading a request of a known user takes the stages after authentication in their order. -/
theorem read_stages {identity : Option IdentityProvider} {request : Incoming} {user : Json}
    (hoptions : request.method ≠ Call.optionsMethod)
    (huser : (Identity.authenticate identity request).1 = .ok user) :
    match Call.read request with
    | .error problem => ∃ stage, Stage.first? identity request = some (stage, .error problem)
    | .ok call => Stage.first? identity request = none ∧ Passes identity request call := by
  have hrouted := read_routed hoptions
  have hfirst : Stage.first? identity request =
      ([.routing, .body, .schema] : List Stage).findSome? fun stage =>
        (stage.stop? identity request).map (stage, ·) := by
    simp [Stage.first?, Stage.all, Stage.stop?, huser, hoptions]
  cases hmisrouted : misrouted? request with
  | some problem =>
    rw [hmisrouted] at hrouted
    rw [hrouted]
    exact ⟨.routing, by simp [hfirst, Stage.stop?, hmisrouted]⟩
  | none =>
    rw [hmisrouted] at hrouted
    obtain ⟨endpoint, hfound, hread⟩ := hrouted
    have hpast : Stage.first? identity request =
        ([.body, .schema] : List Stage).findSome? fun stage =>
          (stage.stop? identity request).map (stage, ·) := by
      rw [hfirst, List.findSome?_cons]
      simp [Stage.stop?, hmisrouted]
    rw [hread]
    rcases endpoint.reading_cases request with
      ⟨problem, hunread⟩ | ⟨hreadable, rfl | rfl | ⟨reading, hreading⟩⟩
    · rw [Endpoint.call_unreadable hunread]
      exact ⟨.body, by simp [hpast, Stage.stop?, hfound, hunread]⟩
    · exact ⟨by simp [hpast, Stage.stop?, hfound, hreadable, Endpoint.flaws?, Endpoint.reading?],
        hfound⟩
    · exact ⟨by simp [hpast, Stage.stop?, hfound, hreadable, Endpoint.flaws?, Endpoint.reading?],
        hfound⟩
    · rw [Endpoint.call_reading hreading]
      cases reading with
      | flawed flaws =>
        exact ⟨.schema, by simp [hpast, Stage.stop?, hfound, hreadable, Endpoint.flaws?, hreading]⟩
      | ok asked =>
        have hnone : Stage.first? identity request = none := by
          simp [hpast, Stage.stop?, hfound, hreadable, Endpoint.flaws?, hreading]
        exact ⟨hnone, by simp [Passes, dispatched?, hnone, hfound, Endpoint.asked?, hreading]⟩

namespace Identity

theorem authenticate_code {provider : Option IdentityProvider} {request : Incoming}
    {problem : Problem} (h : (authenticate provider request).1 = .error problem) :
    problem.status.code = 401 := by
  unfold authenticate at h
  cases provider with
  | none => cases h
  | some provider =>
    simp only at h
    split at h
    · cases h
    · split at h
      · unfold ofToken at h
        split at h
        · cases h
        · cases h
          rfl
        · cases h
          rfl
      · cases h
        rfl

end Identity

namespace Media

theorem checkLength_code {request : Incoming} {problem : Problem}
    (h : checkLength request = .error problem) : problem.status.code = 400 := by
  unfold checkLength at h
  simp only at h
  split at h
  · cases h
  · split at h
    · cases h
      rfl
    · split at h
      · cases h
        rfl
      · cases h

theorem readJson_code {body : List UInt8} {problem : Problem} (h : readJson body = .error problem) :
    problem.status.code ∈ Stage.codes .body := by
  unfold readJson at h
  split at h
  · cases h
    decide
  · split at h
    · cases h
    · cases h
      decide
    · cases h
      decide
    · cases h
      decide

theorem readForm_code {body : List UInt8} {problem : Problem} (h : readForm body = .error problem) :
    problem.status.code = 400 := by
  unfold readForm at h
  split at h
  · cases h
    rfl
  · cases h

theorem readMultipart_code {type : String} {problem : Problem}
    (h : readMultipart type = .error problem) : problem.status.code = 400 := by
  unfold readMultipart at h
  split at h
  · cases h
    rfl
  · split at h
    · cases h
      rfl
    · cases h

theorem read_code {request : Incoming} {problem : Problem} (h : read request = .error problem) :
    problem.status.code ∈ Stage.codes .body := by
  have hbad : ∀ {code : Nat}, code = 400 → code ∈ Stage.codes .body := by
    rintro _ rfl
    decide
  unfold read at h
  simp only at h
  split at h
  · cases h
    exact of_decide_eq_true rfl
  · rename_i kind _
    cases hlength : checkLength request with
    | error bad =>
      rw [hlength] at h
      cases h
      exact hbad (checkLength_code hlength)
    | ok _ =>
      rw [hlength] at h
      cases kind with
      | json => exact readJson_code h
      | form => exact hbad (readForm_code h)
      | multipart => exact hbad (readMultipart_code h)

end Media

theorem misrouted_code {request : Incoming} {problem : Problem}
    (h : misrouted? request = some problem) : problem.status.code ∈ Stage.codes .routing := by
  unfold misrouted? at h
  split at h
  · cases h
    decide
  · split at h
    · cases h
      decide
    · split at h
      · cases h
        exact of_decide_eq_true rfl
      · cases h

namespace Stage

theorem stop_listed {identity : Option IdentityProvider} {request : Incoming} {stage : Stage}
    {result : Except Problem Response} (h : stage.stop? identity request = some result) :
    decidedCode result ∈ stage.codes := by
  cases stage with
  | preflight =>
    simp only [stop?] at h
    split at h
    · cases h
      decide
    · cases h
  | authentication =>
    simp only [stop?] at h
    split at h
    · rename_i problem hproblem
      cases h
      exact List.mem_singleton.mpr (Identity.authenticate_code hproblem)
    · cases h
  | routing =>
    obtain ⟨problem, hproblem, rfl⟩ := Option.map_eq_some_iff.mp h
    exact misrouted_code hproblem
  | body =>
    obtain ⟨problem, hproblem, rfl⟩ := Option.map_eq_some_iff.mp h
    obtain ⟨endpoint, _, hunread⟩ := Option.bind_eq_some_iff.mp hproblem
    exact Media.read_code (Endpoint.unreadable_read hunread)
  | schema =>
    obtain ⟨flaws, _, rfl⟩ := Option.map_eq_some_iff.mp h
    exact of_decide_eq_true rfl

theorem stop_ok {identity : Option IdentityProvider} {request : Incoming} {stage : Stage}
    {response : Response} (h : stage.stop? identity request = some (.ok response)) :
    response = Cors.preflight := by
  cases stage with
  | preflight =>
    simp only [stop?] at h
    split at h
    · cases h
      rfl
    · cases h
  | authentication =>
    simp only [stop?] at h
    split at h
    · cases h
    · cases h
  | _ =>
    obtain ⟨_, _, hanswer⟩ := Option.map_eq_some_iff.mp h
    cases hanswer

theorem first_stop {identity : Option IdentityProvider} {request : Incoming} {stage : Stage}
    {result : Except Problem Response} (h : first? identity request = some (stage, result)) :
    stage.stop? identity request = some result := by
  obtain ⟨stopper, _, hstop⟩ := List.exists_of_findSome?_eq_some h
  obtain ⟨answer, hanswer, hsame⟩ := Option.map_eq_some_iff.mp hstop
  obtain ⟨rfl, rfl⟩ := Prod.mk.inj hsame
  exact hanswer

theorem first_listed {identity : Option IdentityProvider} {request : Incoming} {stage : Stage}
    {result : Except Problem Response} (h : first? identity request = some (stage, result)) :
    decidedCode result ∈ stage.codes :=
  stop_listed (first_stop h)

end Stage

end Rbac.Http
