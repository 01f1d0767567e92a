import Rbac.Proofs.Http.Responses

namespace Rbac.Http

namespace Response

variable {response : Response} {name value : String}

theorem setHeader_self (name value : String) (response : Response) :
    (response.setHeader name value).header? name = some value := by
  have hgone : (response.headers.filter (·.1 != name)).find? (·.1 == name) = none := by
    apply List.find?_eq_none.mpr
    intro header hheader
    simpa using (List.mem_filter.mp hheader).2
  simp [header?, setHeader, List.find?_append, hgone]

theorem setHeaders_header (headers : List (String × String)) (response : Response) (name : String) :
    (headers.foldl (fun response (name, value) => response.setHeader name value) response).header?
      name = (headers.reverse.lookup name).or (response.header? name) := by
  induction headers generalizing response with
  | nil => rfl
  | cons header rest ih =>
    obtain ⟨key, value⟩ := header
    rw [List.foldl_cons, ih, List.reverse_cons, List.lookup_append, Option.or_assoc]
    congr 1
    by_cases hname : name = key
    · simp [hname, setHeader_self]
    · have hapart : (name == key) = false := beq_false_of_ne hname
      simp [setHeader_header hname, hapart, List.lookup_cons]

/-- Without any of the headers that serving may add. -/
def Bare (response : Response) : Prop :=
  ∀ header ∈ response.headers, header.1 ∉ addedHeaders

theorem Bare.header (h : response.Bare) (hname : name ∈ addedHeaders) :
    response.header? name = none := by
  have hfind : response.headers.find? (·.1 == name) = none := by
    apply List.find?_eq_none.mpr
    intro header hheader heq
    apply h header hheader
    rwa [eq_of_beq heq]
  rw [header?, hfind, Option.map_none]

/-- What answers a request: it is without those headers, and not of the type of problems. -/
structure Plain (response : Response) : Prop where
  bare : response.Bare
  type : response.header? "content-type" ≠ some problemType

theorem Plain.json (status : Status) (body : Json) : (Response.json status body).Plain := by
  refine ⟨?_, ?_⟩
  · intro header hheader
    rw [List.mem_singleton.mp hheader]
    decide
  · simp [Response.json, header?, jsonType, problemType]

theorem Plain.empty (status : Status) : (Response.empty status).Plain := by
  refine ⟨?_, ?_⟩
  · intro header hheader
    cases hheader
  · simp [Response.empty, header?]

theorem Plain.setHeader (h : response.Plain) (hname : name ∉ addedHeaders)
    (htype : name ≠ "content-type") : (response.setHeader name value).Plain := by
  refine ⟨?_, ?_⟩
  · intro header hheader
    rcases List.mem_append.mp hheader with hkept | hset
    · exact h.bare header (List.mem_filter.mp hkept).1
    · rw [List.mem_singleton.mp hset]
      exact hname
  · rw [setHeader_header htype.symm]
    exact h.type

end Response

theorem Call.response_plain (asked : Request) (answer : Answer) :
    (Call.response asked answer).Plain := by
  unfold Call.response
  split
  · exact (Response.Plain.json _ _).setHeader (by decide) (by decide)
  · exact .json _ _
  · exact .empty _
  · exact .empty _
  · exact .json _ _

theorem Call.allows_plain (allowed : List String) : (Call.allows allowed).Plain := by
  refine ⟨?_, ?_⟩
  · intro header hheader
    simp only [Call.allows, List.mem_cons, List.not_mem_nil, or_false] at hheader
    rcases hheader with rfl | rfl
    · decide
    · exact of_decide_eq_true rfl
  · simp [Call.allows, Response.header?, Response.jsonType, Response.problemType]

theorem Problem.response_bare (problem : Problem) (path : String) (correlation : Option String) :
    (problem.response path correlation).Bare := by
  have hown : ∀ header ∈ problem.headers, header.1 ∉ addedHeaders := by
    intro header hheader
    unfold Problem.headers at hheader
    split at hheader
    · rw [List.mem_singleton.mp hheader]
      decide
    · rw [List.mem_singleton.mp hheader]
      exact of_decide_eq_true rfl
    · cases hheader
  intro header hheader
  rcases List.mem_cons.mp hheader with rfl | hheader
  · decide
  · exact hown header hheader

namespace App

variable {ω : Type}

/-- What a request is answered with before the headers of every response are added. -/
def Answered (result : Except Problem Response) : Prop :=
  ∀ response, result = .ok response → response.Plain

theorem run_answered (app : App ω) (clock : Clock) (call : Call) (server : Server ω) :
    Answered (app.run clock call server).1 := by
  intro response hresult
  cases call with
  | health =>
    cases hresult
    exact .json _ _
  | readiness =>
    simp only [run, checkReadiness] at hresult
    split at hresult
    · cases hresult
      exact .json _ _
    · split at hresult
      · cases hresult
        exact .json _ _
      · cases hresult
        exact .json _ _
  | options allowed =>
    cases hresult
    exact Call.allows_plain allowed
  | use asked =>
    rw [run_use] at hresult
    simp only at hresult
    cases hran : ((app.dispatcher clock).dispatch asked server).1 with
    | error failure =>
      rw [hran] at hresult
      cases hresult
    | ok outcome =>
      rw [hran] at hresult
      cases hresult
      exact Call.response_plain asked outcome.value

theorem answer_answered (app : App ω) (clock : Clock) (request : Incoming) (server : Server ω) :
    Answered (app.answer clock request server).1 := by
  unfold answer
  cases Call.read request with
  | ok call => exact app.run_answered clock call server
  | error problem =>
    intro response hresult
    cases hresult

theorem identify_answered (app : App ω) (clock : Clock) (request : Incoming) (server : Server ω) :
    Answered (app.identify clock request server).2.1 := by
  unfold identify
  split
  · cases app.origins with
    | none => exact app.answer_answered clock request server
    | some origins =>
      intro response hresult
      cases hresult
      exact .json _ _
  · rcases Identity.authenticate app.identity request with ⟨problem | user, lines⟩
    · intro response hresult
      cases hresult
    · exact app.answer_answered clock request _

def added (app : App ω) (request : Incoming) (correlation : Option String) :
    List (String × String) :=
  (app.origins.map fun origins => Cors.headers origins request).getD [] ++
    (correlation.map (correlationHeader, ·)).toList

theorem finish_header (app : App ω) (request : Incoming) (correlation : Option String)
    (response : Response) (name : String) :
    (app.finish request correlation response).header? name =
      ((app.added request correlation).reverse.lookup name).or (response.header? name) := by
  rw [← Response.setHeaders_header]
  unfold finish
  split
  · rfl
  · rfl

theorem send_header (request : Incoming) (encodable : Bool) (response : Response)
    (server : Server ω) {name : String} (hname : name ∈ addedHeaders) :
    (send request encodable response server).1.header? name = response.header? name := by
  cases encodable with
  | true => rfl
  | false =>
    refine Response.setHeader_header ?_ response
    rintro rfl
    revert hname
    decide

/-- A header that every response has is that of its request, whatever is decided about it. -/
theorem reply_header (app : App ω) {clock : Clock} (request : Incoming)
    (correlation : Option String)
    (user : Option Json) {result : Except Problem Response} (h : Answered result)
    (server : Server ω) {name : String} (hname : name ∈ addedHeaders) :
    (app.reply clock request correlation user result server).1.header? name =
      (app.added request correlation).reverse.lookup name := by
  let told := correlation.or server.context.correlation
  have hbare : (settle request told result server).1.Bare := by
    cases result with
    | ok response => exact (h response rfl).bare
    | error problem => exact problem.response_bare request.path told
  calc (app.reply clock request correlation user result server).1.header? name
      = (app.finish request correlation (settle request told result server).1).header? name :=
        send_header request _ _ _ hname
    _ = (app.added request correlation).reverse.lookup name := by
        rw [finish_header, hbare.header hname, Option.or_none]

/-- The correlation id that a request is served under. What has the method of sockets has none. -/
def servedUnder (request : Incoming) (server : Server ω) : Option String :=
  if request.method = socketMethod then none else some (correlate request server).1

theorem serve_header (app : App ω) (clock : Clock) (request : Incoming) (server : Server ω)
    {name : String} (hname : name ∈ addedHeaders) :
    (app.serve clock request server).1.header? name =
      (app.added request (servedUnder request server)).reverse.lookup name := by
  unfold servedUnder
  by_cases hmethod : request.method = socketMethod
  · have hserved : app.serve clock request server =
        app.reply clock request none none (.error .noRequest) server := by
      unfold serve
      rw [if_pos hmethod]
    have hrefused : Answered (.error .noRequest) := by
      intro response hresult
      cases hresult
    rw [hserved, if_pos hmethod]
    exact app.reply_header request none none hrefused server hname
  · rw [if_neg hmethod, serve_request app hmethod clock server rfl]
    exact app.reply_header request _ _ (app.identify_answered clock request _) _ hname

end App
end Rbac.Http
