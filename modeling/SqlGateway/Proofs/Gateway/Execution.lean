/-
# What reaches the store

What the gateway does with a request is decided before the store is contacted: it replies, or it
has a prepared call to send and a way to write down what comes of it.  This decision is a *plan*.
A plan to send exists for admitted calls only, and their statement is the one that the template of
the endpoint makes of the fields in the body.

* `decides_answer`: every request is answered by a plan that is sound for it, the same one for
  every store in every state;
* `carryOut_journaled`: a plan sends what its exchange says it sends, as a store finds that keeps a
  journal;
* `serve_accounted`: both, for any number of requests one after the other.
-/
import SqlGateway.Gateway.Exchange
import SqlGateway.Proofs.Http.Failure
import SqlGateway.Proofs.Registry.Routes

namespace SqlGateway

open Http

variable {σ : Type}

/-- A store that keeps a journal of what is sent to it. -/
def Store.Backend.journaled (b : Store.Backend σ) : Store.Backend (σ × List Store.Execution) where
  query x s :=
    let (deliveries, s') := b.query x s.1
    (deliveries, s', s.2 ++ [x])
  command x s :=
    let (answer, s') := b.command x s.1
    (answer, s', s.2 ++ [x])

namespace Gateway

variable {g : Gateway} {r : Request}

/-! ## 1. Preparing -/

/-- The request makes this call: it is admitted, and its path and its body give the endpoint and
the fields of the call. -/
structure Prepares (g : Gateway) (r : Request) (kind : CallKind) (fields : Fields)
    (c : PreparedCall) : Prop where
  method : r.method = "POST"
  admitted : r.refusal? g.server = none
  named : ∃ db group api name, Route.ofPath? r.path = some (.call kind db group api) ∧
    ApiName.ofSegments db group api = .ok name ∧
    g.registry.resolve name.db name.group name.api = some c.endpoint
  pooled : g.pool? c.endpoint.db = some c.pool
  read : Fields.ofBody r.body = .ok fields
  compiled : Template.compile c.endpoint.engine.markerStyle c.endpoint.sql fields
    c.endpoint.params = .ok c.statement

/-- **A call is prepared exactly if there is an endpoint with its pool, and the endpoint's own
template makes a statement of the fields in the body.** -/
theorem prepare_eq_ok_iff {name : ApiName} {body : List UInt8} {c : PreparedCall} :
    g.prepare name body = .ok c ↔
      g.registry.resolve name.db name.group name.api = some c.endpoint ∧
        g.pool? c.endpoint.db = some c.pool ∧
        ∃ fields, Fields.ofBody body = .ok fields ∧
          c.endpoint.compile fields = .ok c.statement := by
  unfold prepare
  cases hresolve : g.registry.resolve name.db name.group name.api with
  | none =>
    refine ⟨fun h => ?_, fun h => ?_⟩
    · cases h
    · cases h.1
  | some endpoint =>
    cases hpool : g.pool? endpoint.db with
    | none =>
      refine ⟨fun h => ?_, fun ⟨hendpoint, h, _⟩ => ?_⟩
      · simp [hpool] at h
      · cases hendpoint
        cases hpool.symm.trans h
    | some pool =>
      simp only [hpool]
      constructor
      · intro h
        obtain ⟨fields, hfields, h⟩ := bind_eq_ok_iff.mp h
        obtain ⟨statement, hstatement, h⟩ := bind_eq_ok_iff.mp h
        cases h
        exact ⟨rfl, hpool, fields, mapError_eq_ok_iff.mp hfields, mapError_eq_ok_iff.mp hstatement⟩
      · rintro ⟨hendpoint, hpool', fields, hfields, hstatement⟩
        obtain ⟨endpoint', pool', statement⟩ := c
        cases hendpoint
        cases hpool.symm.trans hpool'
        exact bind_eq_ok_iff.mpr ⟨fields, mapError_eq_ok_iff.mpr hfields,
          bind_eq_ok_iff.mpr ⟨statement, mapError_eq_ok_iff.mpr hstatement, rfl⟩⟩

/-- What a request prepares is what its path and its body prepare. -/
theorem Prepares.prepare_eq {kind kind' : CallKind} {db group api : String} {name : ApiName}
    {fields : Fields} {c : PreparedCall} (h : g.Prepares r kind fields c)
    (hroute : Route.ofPath? r.path = some (.call kind' db group api))
    (hname : ApiName.ofSegments db group api = .ok name) : g.prepare name r.body = .ok c := by
  obtain ⟨db', group', api', name', hroute', hname', hendpoint⟩ := h.named
  cases hroute.symm.trans hroute'
  cases hname.symm.trans hname'
  exact prepare_eq_ok_iff.mpr ⟨hendpoint, h.pooled, fields, h.read, h.compiled⟩

/-- A request makes one call at most. -/
theorem Prepares.unique {kind kind' : CallKind} {fields fields' : Fields} {c c' : PreparedCall}
    (h : g.Prepares r kind fields c) (h' : g.Prepares r kind' fields' c') : c = c' := by
  obtain ⟨db, group, api, name, hroute, hname, -⟩ := h.named
  exact Except.ok.inj ((h.prepare_eq hroute hname).symm.trans (h'.prepare_eq hroute hname))

/-! ## 2. Sending -/

/-- What sending a prepared call can come to, whatever the store does. -/
inductive PreparedCall.ComesTo (c : PreparedCall) (limit : Option Nat) : CallOutcome → Prop
  | succeeded (result : Json) : c.ComesTo limit (c.succeed result)
  | failed (reason : String) : c.ComesTo limit (c.fail reason)
  | aborted : c.ComesTo limit .aborted
  /-- Only a call without a limit on its time waits for ever. -/
  | waiting (unlimited : limit = none) : c.ComesTo limit .waiting

variable {limit : Option Nat}

theorem PreparedCall.comesTo_unanswered (c : PreparedCall) (limit : Option Nat) :
    c.ComesTo limit (c.unanswered limit) := by
  cases limit with
  | none => exact .waiting rfl
  | some seconds => exact .failed _

theorem comesTo_send (b : Store.Backend σ) (limit : Option Nat) (kind : CallKind)
    (c : PreparedCall) (s : σ) : c.ComesTo limit (send b limit kind c s).1 := by
  cases kind with
  | query =>
    simp only [send]
    unfold PreparedCall.ofRows
    split
    · exact .succeeded _
    · exact c.comesTo_unanswered limit
    · exact .aborted
    · exact .failed _
  | command =>
    simp only [send]
    unfold PreparedCall.ofAnswer
    split
    · exact .succeeded _
    · exact .aborted
    · exact .failed _
    · exact c.comesTo_unanswered limit

theorem send_journaled (b : Store.Backend σ) (limit : Option Nat) (kind : CallKind)
    (c : PreparedCall) (s : σ) (journal : List Store.Execution) :
    send b.journaled limit kind c (s, journal) =
      ((send b limit kind c s).1, (send b limit kind c s).2, journal ++ [c.execution]) := by
  cases kind <;> rfl

/-! ## 3. Plans -/

/-- What the gateway decides to do with a request. -/
inductive Plan where
  | reply (response : Response)
  /-- A call to send, and how what it comes to is written down. -/
  | send (kind : CallKind) (c : PreparedCall) (write : CallOutcome → Option Response)

namespace Plan

/-- Carries a plan out. -/
def carryOut (g : Gateway) (b : Store.Backend σ) (s : σ) : Plan → Exchange × σ
  | reply response => (.quiet response, s)
  | send kind c write =>
    let (outcome, s') := Gateway.send b g.server.queryTimeout kind c s
    (⟨write outcome, [c.execution]⟩, s')

/-- The plan with a touch on the response. -/
def touched (touch : Response → Response) : Plan → Plan
  | reply response => reply (touch response)
  | send kind c write => send kind c fun outcome => (write outcome).map touch

/-- A plan that may be made for a request.  To reply at once is no success, and it is for requests
without a call or with a body that is too long; what comes of sending a call is told by status and
body. -/
inductive Sound (g : Gateway) (r : Request) : Plan → Prop
  | reply {response : Response} (unsuccessful : r.method = "POST" → response.status ≠ 200)
      (unprepared : ∀ kind fields c, g.Prepares r kind fields c → maxBodyBytes < r.body.length) :
      Sound g r (.reply response)
  | send {kind : CallKind} {fields : Fields} {c : PreparedCall}
      {write : CallOutcome → Option Response} (prepared : g.Prepares r kind fields c)
      (written : ∃ id, ∀ outcome response, write outcome = some response →
        ∃ told, outcome.response? id = some told ∧ response.status = told.status ∧
          response.body = told.body) :
      Sound g r (.send kind c write)

theorem carryOut_touched (touch : Response → Response) (p : Plan) (g : Gateway)
    (b : Store.Backend σ) (s : σ) :
    (p.touched touch).carryOut g b s =
      let (e, s') := p.carryOut g b s
      ({ e with response := e.response.map touch }, s') := by
  cases p <;> rfl

theorem Sound.touched {p : Plan} (h : p.Sound g r) {touch : Response → Response}
    (hstatus : ∀ response, (touch response).status = response.status)
    (hbody : r.method = "POST" → ∀ response, (touch response).body = response.body) :
    (p.touched touch).Sound g r := by
  cases h with
  | reply unsuccessful unprepared =>
    refine .reply (fun hpost => ?_) unprepared
    rw [hstatus]
    exact unsuccessful hpost
  | send prepared written =>
    obtain ⟨id, written⟩ := written
    refine .send prepared ⟨id, fun outcome response h => ?_⟩
    obtain ⟨response', hwrite, rfl⟩ := Option.map_eq_some_iff.mp h
    rw [hstatus, hbody prepared.method]
    exact written outcome response' hwrite

/-- **A plan sends what its exchange says it sends**, and that a journal is kept changes nothing. -/
theorem carryOut_journaled (p : Plan) (g : Gateway) (b : Store.Backend σ) (s : σ)
    (journal : List Store.Execution) :
    p.carryOut g b.journaled (s, journal) =
      ((p.carryOut g b s).1, (p.carryOut g b s).2, journal ++ (p.carryOut g b s).1.executed) := by
  cases p with
  | reply response => simp [carryOut, Exchange.quiet]
  | send kind c write => simp [carryOut, send_journaled]

end Plan

/-! ## 4. Layers -/

/-- This way of answering the request follows a sound plan, made without the store. -/
def Decides (g : Gateway) (r : Request)
    (answer : ∀ σ : Type, Store.Backend σ → σ → Exchange × σ) : Prop :=
  ∃ p : Plan, p.Sound g r ∧ ∀ σ b s, answer σ b s = p.carryOut g b s

theorem Decides.of_reply {answer : ∀ σ : Type, Store.Backend σ → σ → Exchange × σ}
    (response : Response) (hanswer : ∀ σ b s, answer σ b s = (.quiet response, s))
    (unsuccessful : r.method = "POST" → response.status ≠ 200)
    (unprepared : ∀ kind fields c, g.Prepares r kind fields c → maxBodyBytes < r.body.length) :
    g.Decides r answer :=
  ⟨.reply response, .reply unsuccessful unprepared, hanswer⟩

theorem Decides.touched {answer answer' : ∀ σ : Type, Store.Backend σ → σ → Exchange × σ}
    (h : g.Decides r answer) (touch : Response → Response)
    (hanswer' : ∀ σ b s, answer' σ b s =
      ({ (answer σ b s).1 with response := (answer σ b s).1.response.map touch },
        (answer σ b s).2))
    (hstatus : ∀ response, (touch response).status = response.status)
    (hbody : r.method = "POST" → ∀ response, (touch response).body = response.body) :
    g.Decides r answer' := by
  obtain ⟨p, hsound, hanswer⟩ := h
  refine ⟨p.touched touch, hsound.touched hstatus hbody, fun σ b s => ?_⟩
  rw [hanswer', hanswer, Plan.carryOut_touched]

theorem decides_answerRoute (hadmitted : r.refusal? g.server = none) {route : Route}
    (hroute : Route.ofPath? r.path = some route) (hallowed : r.method ∈ route.methods)
    (id : String) : g.Decides r fun _ b s => g.answerRoute b id r route s := by
  have hpost : route.methods = ["GET", "HEAD"] → r.method ≠ "POST" := by
    intro hmethods hpost
    rw [hmethods, hpost] at hallowed
    exact absurd hallowed (by decide)
  cases route with
  | info =>
    exact .of_reply g.info (fun _ _ _ => rfl) (fun h => absurd h (hpost rfl))
      fun _ _ _ h => absurd h.method (hpost rfl)
  | health =>
    exact .of_reply health (fun _ _ _ => rfl) (fun h => absurd h (hpost rfl))
      fun _ _ _ h => absurd h.method (hpost rfl)
  | call kind db group api =>
    cases hname : ApiName.ofSegments db group api with
    | error text =>
      refine .of_reply (textResponse 400 text) (fun _ b s => ?_) (fun _ => by simp [textResponse])
        fun _ _ _ h => ?_
      · simp only [answerRoute, hname]
      · obtain ⟨_, _, _, _, hroute', hname', -⟩ := h.named
        cases hroute.symm.trans hroute'
        cases hname.symm.trans hname'
    | ok name =>
      by_cases hlong : maxBodyBytes < r.body.length
      · refine .of_reply
          (textResponse 413 "Failed to buffer the request body: length limit exceeded")
          (fun _ b s => ?_) (fun _ => by simp [textResponse]) fun _ _ _ _ => hlong
        simp only [answerRoute, hname, hlong, if_true]
      cases hprepare : g.prepare name r.body with
      | error f =>
        refine .of_reply (f.response (some id)) (fun _ b s => ?_) (fun _ => f.status_ne_ok)
          fun _ _ _ h => ?_
        · simp only [answerRoute, hname, hlong, if_false, call, hprepare]
          rfl
        · cases hprepare.symm.trans (h.prepare_eq hroute hname)
      | ok c =>
        obtain ⟨hendpoint, hpool, fields, hfields, hstatement⟩ := prepare_eq_ok_iff.mp hprepare
        have prepared : g.Prepares r kind fields c :=
          ⟨List.mem_singleton.mp hallowed, hadmitted,
            ⟨db, group, api, name, hroute, hname, hendpoint⟩, hpool, hfields, hstatement⟩
        refine ⟨.send kind c (·.response? id), .send prepared ⟨id, ?_⟩, fun _ b s => ?_⟩
        · exact fun outcome response h => ⟨response, h, rfl, rfl⟩
        · simp only [answerRoute, hname, hlong, if_false, call, hprepare]
          rfl

theorem decides_answerPath (hadmitted : r.refusal? g.server = none) (id : String) :
    g.Decides r fun _ b s => g.answerPath b id r s := by
  cases hroute : Route.ofPath? r.path with
  | none =>
    refine .of_reply (emptyResponse 404) (fun _ b s => ?_) (fun _ => by decide) fun _ _ _ h => ?_
    · simp only [answerPath, hroute]
    · obtain ⟨_, _, _, _, hroute', -⟩ := h.named
      cases hroute.symm.trans hroute'
  | some route =>
    by_cases hallowed : r.method ∈ route.methods
    · have hcontains : route.methods.contains r.method = true := List.contains_iff_mem.mpr hallowed
      simp only [answerPath, hroute, hcontains, if_true]
      exact decides_answerRoute hadmitted hroute hallowed id
    · refine .of_reply (emptyResponse 405) (fun _ b s => ?_) (fun _ => by decide) fun _ _ _ h => ?_
      · simp [answerPath, hroute, hallowed]
      · obtain ⟨_, _, _, _, hroute', -⟩ := h.named
        cases hroute.symm.trans hroute'
        exact absurd (List.mem_singleton.mpr h.method) hallowed

theorem decides_answerChecked (id : String) :
    g.Decides r fun _ b s => g.answerChecked b id r s := by
  cases hrefusal : r.refusal? g.server with
  | some f =>
    refine .of_reply (f.response (some id)) (fun _ b s => ?_) (fun _ => f.status_ne_ok)
      fun _ _ _ h => ?_
    · simp only [answerChecked, hrefusal]
    · cases hrefusal.symm.trans h.admitted
  | none =>
    simp only [answerChecked, hrefusal]
    exact decides_answerPath hrefusal id

theorem decides_answerShared (id : String) :
    g.Decides r fun _ b s => g.answerShared b id r s := by
  by_cases hoptions : r.method = "OPTIONS"
  · have hpost : r.method ≠ "POST" := by
      rw [hoptions]
      decide
    refine .of_reply preflight (fun _ b s => ?_) (fun h => absurd h hpost)
      fun _ _ _ h => absurd h.method hpost
    simp only [answerShared, hoptions, if_true]
  · refine (decides_answerChecked id).touched (withHeaders sharedHeaders) (fun _ b s => ?_)
      (fun _ => rfl) fun _ _ => rfl
    simp only [answerShared, hoptions, if_false]

theorem finish_status (id : String) (r : Request) (response : Response) :
    (finish id r response).status = response.status := by
  unfold finish
  split <;> split <;> split <;> rfl

theorem finish_body (id : String) {r : Request} (h : r.method ≠ "HEAD") (response : Response) :
    (finish id r response).body = response.body := by
  have hbodiless : isBodiless r = false := by simp [isBodiless, h]
  unfold finish
  rw [hbodiless]
  split <;> split <;> rfl

/-- **The gateway decides without the store** what to do with a request. -/
theorem decides_answer (g : Gateway) (fresh : String) (r : Request) :
    g.Decides r fun _ b s => g.answer b fresh r s := by
  refine (decides_answerShared (r.id fresh)).touched (finish (r.id fresh) r) (fun _ _ _ => rfl)
    (finish_status _ r) ?_
  intro hpost
  exact finish_body _ (by rw [hpost]; decide)

/-! ## 5. Exchanges -/

/-- What holds of the exchange that a request comes to. -/
structure Accounted (g : Gateway) (r : Request) (e : Exchange) : Prop where
  /-- At most one statement is sent, -/
  atMostOne : e.executed.length ≤ 1
  /-- and none for what is refused, not found or not understood. -/
  unexecuted : ∀ response, e.response = some response →
    response.status = 401 ∨ response.status = 404 ∨ response.Reports "BAD_REQUEST" ∨
      response.Reports "MISSING_PARAMETER" → e.executed = []
  /-- A call that can be made is sent, unless its body is too long. -/
  sent : ∀ kind fields c, g.Prepares r kind fields c → r.body.length ≤ maxBodyBytes →
    e.executed = [c.execution]
  /-- What is sent is the statement of the call, with its arguments in order. -/
  executed : ∀ x ∈ e.executed, ∃ kind fields c, g.Prepares r kind fields c ∧ x.pool = c.pool ∧
    x.sql = c.statement.sql ∧ x.bound = c.statement.args.map .ofScalar
  /-- A call that succeeds has sent one statement, and shows just that one if it is to. -/
  succeeded : ∀ response, e.response = some response → r.method = "POST" →
    response.status = 200 → ∃ kind fields c result, g.Prepares r kind fields c ∧
      e.executed = [c.execution] ∧ response.body = (Json.object
        ((if c.endpoint.debug then
            [("sql", .string c.statement.sql),
              ("args", .array (c.statement.args.map Scalar.toJson))]
          else []) ++ [("result", result)])).text

/-- The response that tells what came of sending a call. -/
theorem PreparedCall.ComesTo.told {c : PreparedCall} {outcome : CallOutcome} {id : String}
    {response : Response} (h : c.ComesTo limit outcome)
    (htold : outcome.response? id = some response) :
    (response.status = 200 ∧
      ∃ result, response.body = (Json.object (c.echo ++ [("result", result)])).text) ∨
    ∃ reason, response = (Failure.execution reason c.statement).response (some id) := by
  cases h with
  | succeeded result =>
    cases htold
    exact .inl ⟨rfl, result, rfl⟩
  | failed reason =>
    cases htold
    exact .inr ⟨reason, rfl⟩
  | aborted => cases htold
  | waiting _ => cases htold

/-- What shows a result tells no error. -/
theorem not_tellsError_of_result {c : PreparedCall} {result : Json} {response : Response}
    (hbody : response.body = (Json.object (c.echo ++ [("result", result)])).text) :
    ¬ response.TellsError := by
  unfold PreparedCall.echo at hbody
  split at hbody
  · exact Response.not_tellsError_of_member hbody (by decide) (by decide)
  · exact Response.not_tellsError_of_member hbody (by decide) (by decide)

theorem Plan.Sound.accounted {p : Plan} (h : p.Sound g r) (b : Store.Backend σ) (s : σ) :
    g.Accounted r (p.carryOut g b s).1 := by
  cases h with
  | reply unsuccessful unprepared =>
    refine ⟨Nat.zero_le 1, fun _ _ _ => rfl, ?_, fun x hx => (nomatch hx), ?_⟩
    · intro kind fields c prepared hshort
      exact absurd (unprepared kind fields c prepared) (Nat.not_lt.mpr hshort)
    · intro response hresponse hpost hok
      cases hresponse
      exact absurd hok (unsuccessful hpost)
  | @send kind fields c write prepared written =>
    obtain ⟨id, written⟩ := written
    -- what is told of the call is a result or a failed execution
    have htold : ∀ response,
        write (Gateway.send b g.server.queryTimeout kind c s).1 = some response →
        ∃ told, response.status = told.status ∧ response.body = told.body ∧
          ((told.status = 200 ∧
            ∃ result, told.body = (Json.object (c.echo ++ [("result", result)])).text) ∨
          ∃ reason, told = (Failure.execution reason c.statement).response (some id)) := by
      intro response hresponse
      obtain ⟨told, houtcome, hstatus, hbody⟩ := written _ response hresponse
      exact ⟨told, hstatus, hbody, (comesTo_send b _ kind c s).told houtcome⟩
    refine ⟨Nat.le_refl 1, ?_, ?_, ?_, ?_⟩
    · intro response hresponse hrefused
      obtain ⟨told, hstatus, hbody, ⟨hok, result, hresult⟩ | ⟨reason, rfl⟩⟩ := htold _ hresponse
      · rcases hrefused with h | h | h | h
        · omega
        · omega
        · exact absurd h.tellsError (not_tellsError_of_result (hbody.trans hresult))
        · exact absurd h.tellsError (not_tellsError_of_result (hbody.trans hresult))
      · have hfailed : response.status = 400 := hstatus
        rw [Response.reports_congr hbody, Response.reports_congr hbody,
          Failure.reports_iff _ _ (by decide), Failure.reports_iff _ _ (by decide)] at hrefused
        simp [hfailed, Failure.code] at hrefused
    · intro kind' fields' c' prepared' _
      rw [prepared'.unique prepared]
      rfl
    · intro x hx
      obtain rfl := List.mem_singleton.mp hx
      exact ⟨kind, fields, c, prepared, rfl, rfl, rfl⟩
    · intro response hresponse hpost hok
      obtain ⟨told, hstatus, hbody, ⟨-, result, hresult⟩ | ⟨reason, rfl⟩⟩ := htold _ hresponse
      · exact ⟨kind, fields, c, result, prepared, rfl, hbody.trans hresult⟩
      · exact absurd (hstatus.symm.trans hok)
          (Failure.execution reason c.statement).status_ne_ok

/-- **Every exchange is accounted for.** -/
theorem accounted_answer (g : Gateway) (b : Store.Backend σ) (fresh : String) (r : Request)
    (s : σ) : g.Accounted r (g.answer b fresh r s).1 := by
  obtain ⟨p, hsound, hanswer⟩ := decides_answer g fresh r
  have h := hsound.accounted b s
  rwa [← hanswer] at h

theorem answer_journaled (g : Gateway) (b : Store.Backend σ) (fresh : String) (r : Request)
    (s : σ) (journal : List Store.Execution) :
    g.answer b.journaled fresh r (s, journal) =
      ((g.answer b fresh r s).1, (g.answer b fresh r s).2,
        journal ++ (g.answer b fresh r s).1.executed) := by
  obtain ⟨p, -, hanswer⟩ := decides_answer g fresh r
  simp only [hanswer, Plan.carryOut_journaled]

/-! ## 6. Many requests -/

/-- Answers requests one after the other.  Each comes with the id that it gets if it chose none. -/
def serve (b : Store.Backend σ) (g : Gateway) : List (String × Request) → σ → List Exchange × σ
  | [], s => ([], s)
  | (fresh, r) :: more, s =>
    let (e, s') := g.answer b fresh r s
    let (es, s'') := serve b g more s'
    (e :: es, s'')

theorem serve_journaled (b : Store.Backend σ) (g : Gateway) (requests : List (String × Request))
    (s : σ) (journal : List Store.Execution) :
    serve b.journaled g requests (s, journal) =
      ((serve b g requests s).1, (serve b g requests s).2,
        journal ++ (serve b g requests s).1.flatMap Exchange.executed) := by
  induction requests generalizing s journal with
  | nil => simp [serve]
  | cons request more ih =>
    obtain ⟨fresh, r⟩ := request
    simp only [serve, answer_journaled, ih]
    simp

theorem accounted_serve (b : Store.Backend σ) (g : Gateway) (requests : List (String × Request))
    (s : σ) :
    List.Forall₂ (fun q e => g.Accounted q.2 e) requests (serve b g requests s).1 := by
  induction requests generalizing s with
  | nil => exact .nil
  | cons request more ih => exact .cons (accounted_answer g b request.1 request.2 s) (ih _)

/-- **The store sees compiled statements of admitted calls only.**  Whatever the store and whatever
the requests, what the store gets is what the exchanges say was sent, in their order, and every
exchange is accounted for. -/
theorem serve_accounted (b : Store.Backend σ) (g : Gateway) (requests : List (String × Request))
    (s : σ) :
    serve b.journaled g requests (s, []) =
      ((serve b g requests s).1, (serve b g requests s).2,
        (serve b g requests s).1.flatMap Exchange.executed) ∧
    List.Forall₂ (fun q e => g.Accounted q.2 e) requests (serve b g requests s).1 :=
  ⟨serve_journaled b g requests s [], accounted_serve b g requests s⟩

end Gateway

end SqlGateway
