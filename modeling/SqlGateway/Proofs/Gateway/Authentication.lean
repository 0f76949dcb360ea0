/-
# Who is let through

With authentication on, a request for a handler is let through exactly if it brings the credentials
of a configured account.

* `ofHeader?_eq_some_iff`: which values of a header say which credentials;
* `refusal?_eq_none_iff`: which requests are admitted;
* `authentication_exact`: admitted requests are handled, all others are told to authenticate, and
  neither a handler nor the store hears of them.

A username ends at the first colon, so an account whose username has one lets nobody through,
whatever the password.  A password may have as many as it likes.
-/
import Mathlib.Data.List.TakeDrop
import Mathlib.Data.List.TakeWhile
import SqlGateway.Proofs.Gateway.Execution
import SqlGateway.Proofs.Text.Base64
import SqlGateway.Proofs.Text.Utf8

namespace SqlGateway

namespace Http

/-! ## 1. Credentials -/

namespace Credentials

/-- Username and password with a colon between them, in base64. -/
def token (c : Credentials) : List Char :=
  Text.Base64.encode (Text.Utf8.encode (c.username ++ ":" ++ c.password))

/-- The header's value says these credentials.  It is readable, begins with the scheme, and the
rest is their token, blanks at its ends apart. -/
structure SaidBy (c : Credentials) (value : List UInt8) : Prop where
  colon : ':' ∉ c.username.toList
  header : ∃ rest, headerText? value = some (basicScheme ++ rest) ∧
    Text.trimChars rest.toList = c.token

theorem ofText?_eq_some_iff {cs : List Char} {c : Credentials} :
    ofText? cs = some c ↔
      ':' ∉ c.username.toList ∧ cs = c.username.toList ++ ':' :: c.password.toList := by
  have hcolon : ∀ {u : List Char}, ':' ∉ u → ∀ x ∈ u, (x != ':') = true := by
    intro u hu x hx
    simpa using fun heq : x = ':' => hu (heq ▸ hx)
  rw [ofText?, List.span_eq_takeWhile_dropWhile]
  constructor
  · intro h
    cases hdrop : cs.dropWhile (· != ':') with
    | nil => simp [hdrop] at h
    | cons colon password =>
      obtain rfl := Option.some.inj (by simpa only [hdrop] using h)
      obtain rfl : colon = ':' := by
        simpa [hdrop] using List.head_dropWhile_not (· != ':') (l := cs) (by simp [hdrop])
      refine ⟨fun hmem => ?_, ?_⟩
      · rw [String.toList_ofList] at hmem
        simpa using List.mem_takeWhile_imp hmem
      · rw [String.toList_ofList, String.toList_ofList, ← hdrop, List.takeWhile_append_dropWhile]
  · rintro ⟨hu, rfl⟩
    rw [List.takeWhile_append_of_pos (hcolon hu), List.dropWhile_append_of_pos (hcolon hu)]
    simp

/-- The text of some credentials is split at its first colon into just these. -/
theorem ofText?_toList_eq_some_iff {text : String} {c : Credentials} :
    ofText? text.toList = some c ↔
      ':' ∉ c.username.toList ∧ text = c.username ++ ":" ++ c.password := by
  rw [ofText?_eq_some_iff, ← String.toList_inj]
  simp

/-- **A header says some credentials exactly if they are what is read from it.** -/
theorem ofHeader?_eq_some_iff {value : List UInt8} {c : Credentials} :
    ofHeader? value = some c ↔ c.SaidBy value := by
  unfold ofHeader?
  simp only [Option.bind_eq_bind, Option.bind_eq_some_iff, Option.guard_eq_some', exists_const,
    List.isPrefixOf_iff_prefix, Text.Base64.decode?_eq_some_iff, Text.Utf8.decode?_eq_some_iff,
    ofText?_toList_eq_some_iff]
  constructor
  · rintro ⟨text, htext, ⟨rest, hrest⟩, bytes, hbytes, decoded, rfl, hcolon, rfl⟩
    have hsplit : text = basicScheme ++ String.ofList rest := by
      rw [← String.toList_inj, String.toList_append, String.toList_ofList, hrest]
    refine ⟨hcolon, String.ofList rest, hsplit ▸ htext, ?_⟩
    rwa [← hrest, List.drop_left, ← String.toList_ofList (l := rest)] at hbytes
  · rintro ⟨hcolon, rest, htext, htoken⟩
    refine ⟨_, htext, ?_, _, ?_, _, rfl, hcolon, rfl⟩
    · rw [String.toList_append]
      exact List.prefix_append _ _
    · rw [String.toList_append, List.drop_left, htoken]
      rfl

end Credentials

/-- The request brings the credentials of an account. -/
def Request.IsAdmitted (r : Request) (server : Config.Server) : Prop :=
  ∃ a ∈ server.accounts, ∃ value, r.header? "authorization" = some value ∧
    Credentials.SaidBy ⟨a.username, a.password⟩ value

theorem Request.isAdmitted_iff {r : Request} {server : Config.Server} :
    r.IsAdmitted server ↔
      ∃ a ∈ server.accounts, r.credentials? = some ⟨a.username, a.password⟩ := by
  simp only [Request.IsAdmitted, Request.credentials?, Option.bind_eq_some_iff,
    Credentials.ofHeader?_eq_some_iff]

/-- **With authentication on, exactly the requests with an account's credentials are admitted.** -/
theorem Request.refusal?_eq_none_iff {r : Request} {server : Config.Server}
    (hauth : server.auth = true) (hpath : r.path ∉ publicPaths) :
    r.refusal? server = none ↔ r.IsAdmitted server := by
  have hguarded : (!server.auth || publicPaths.contains r.path) = false := by
    simp [hauth, hpath]
  rw [Request.refusal?, hguarded, Request.isAdmitted_iff]
  cases hcredentials : r.credentials? with
  | none => simp
  | some c =>
    have hof : ∀ a, c.isOf a = true ↔ c = ⟨a.username, a.password⟩ := by
      intro a
      obtain ⟨username, password⟩ := c
      simp only [Credentials.isOf, Bool.and_eq_true, beq_iff_eq, Credentials.mk.injEq]
      exact and_congr eq_comm eq_comm
    simp [hof]

/-- What a refused request is told. -/
def refusals : List String := ["missing basic credentials", "invalid username or password"]

theorem Request.exists_of_refusal? {r : Request} {server : Config.Server} {f : Failure}
    (h : r.refusal? server = some f) : ∃ message ∈ refusals, f = .unauthorized message := by
  unfold Request.refusal? at h
  split at h
  next => cases h
  split at h
  next =>
    cases h
    exact ⟨_, List.mem_cons_self, rfl⟩
  split at h
  next => cases h
  next =>
    cases h
    exact ⟨_, List.mem_cons_of_mem _ List.mem_cons_self, rfl⟩

/-! ## 2. Headers of accounts -/

/-- The value of the header that a client with these credentials sends. -/
def Credentials.headerValue (c : Credentials) : List UInt8 :=
  (basicScheme.toList ++ c.token).map fun c => UInt8.ofNat c.toNat

/-- Whether a character is readable in a header and no blank. -/
def IsGraphic (c : Char) : Prop := 32 < c.toNat ∧ c.toNat < 127

instance (c : Char) : Decidable (IsGraphic c) :=
  inferInstanceAs (Decidable (32 < c.toNat ∧ c.toNat < 127))

theorem isGraphic_of_mem_encode {bytes : List UInt8} {c : Char}
    (h : c ∈ Text.Base64.encode bytes) : IsGraphic c := by
  have hdigit : ∀ n, n < 64 → IsGraphic (Text.Base64.digit n) := by decide
  have hfilling : IsGraphic '=' := by decide
  fun_induction Text.Base64.encode bytes with
  | case1 => cases h
  | case2 a =>
    have ha := a.toNat_lt
    simp only [List.mem_cons, List.not_mem_nil, or_false] at h
    rcases h with rfl | rfl | rfl | rfl
    · exact hdigit _ (by omega)
    · exact hdigit _ (by omega)
    · exact hfilling
    · exact hfilling
  | case3 a b =>
    have ha := a.toNat_lt
    have hb := b.toNat_lt
    simp only [List.mem_cons, List.not_mem_nil, or_false] at h
    rcases h with rfl | rfl | rfl | rfl
    · exact hdigit _ (by omega)
    · exact hdigit _ (by omega)
    · exact hdigit _ (by omega)
    · exact hfilling
  | case4 a b c rest ih =>
    have ha := a.toNat_lt
    have hb := b.toNat_lt
    have hc := c.toNat_lt
    simp only [List.mem_cons] at h
    rcases h with rfl | rfl | rfl | rfl | h
    · exact hdigit _ (by omega)
    · exact hdigit _ (by omega)
    · exact hdigit _ (by omega)
    · exact hdigit _ (by omega)
    · exact ih h

theorem trimChars_of_isGraphic {cs : List Char} (h : ∀ c ∈ cs, IsGraphic c) :
    Text.trimChars cs = cs := by
  have hkeep : ∀ l : List Char, (∀ c ∈ l, IsGraphic c) → l.dropWhile Text.isBlank = l := by
    intro l hl
    cases l with
    | nil => rfl
    | cons c l =>
      obtain ⟨hlow, hhigh⟩ := hl c List.mem_cons_self
      have hblank : Text.isBlank c = false := by
        simp [Text.isBlank]
        omega
      rw [List.dropWhile_cons_of_neg (by simp [hblank])]
  rw [Text.trimChars, hkeep cs h, hkeep cs.reverse (fun c hc => h c (List.mem_reverse.mp hc)),
    List.reverse_reverse]

theorem headerText?_map_ofNat {cs : List Char} (h : ∀ c ∈ cs, c = ' ' ∨ IsGraphic c) :
    headerText? (cs.map fun c => UInt8.ofNat c.toNat) = some (String.ofList cs) := by
  have hrange : ∀ c ∈ cs, 32 ≤ c.toNat ∧ c.toNat < 127 := by
    intro c hc
    rcases h c hc with rfl | ⟨hlow, hhigh⟩
    · decide
    · omega
  have hbyte : ∀ c ∈ cs, (UInt8.ofNat c.toNat).toNat = c.toNat := fun c hc =>
    UInt8.toNat_ofNat_of_lt' (Nat.lt_trans (hrange c hc).2 (by decide))
  have hall : (cs.map fun c => UInt8.ofNat c.toNat).all isReadable = true := by
    rw [List.all_map, List.all_eq_true]
    intro c hc
    obtain ⟨hlow, hhigh⟩ := hrange c hc
    simp only [Function.comp_apply, isReadable, Bool.or_eq_true, Bool.and_eq_true,
      decide_eq_true_eq, UInt8.le_iff_toNat_le, UInt8.lt_iff_toNat_lt, hbyte c hc]
    exact .inr ⟨hlow, hhigh⟩
  have hback : (cs.map fun c => UInt8.ofNat c.toNat).map (fun b => Char.ofNat b.toNat) = cs := by
    rw [List.map_map]
    refine (List.map_congr_left fun c hc => ?_).trans (List.map_id cs)
    rw [Function.comp_apply, hbyte c hc, Char.ofNat_toNat, id]
  rw [headerText?, if_pos hall, hback]

/-- **A client's header says its credentials**, whatever the password. -/
theorem Credentials.saidBy_headerValue {c : Credentials} (h : ':' ∉ c.username.toList) :
    c.SaidBy c.headerValue := by
  have hscheme : basicScheme.toList.all (fun x => x = ' ' ∨ IsGraphic x) = true := by decide
  have htoken : ∀ x ∈ c.token, IsGraphic x := fun x => isGraphic_of_mem_encode
  refine ⟨h, String.ofList c.token, ?_, ?_⟩
  · rw [headerValue, headerText?_map_ofNat, String.ofList_append, String.ofList_toList]
    intro x hx
    rcases List.mem_append.mp hx with hx | hx
    · exact of_decide_eq_true (List.all_eq_true.mp hscheme x hx)
    · exact .inr (htoken x hx)
  · rw [String.toList_ofList, trimChars_of_isGraphic htoken]

end Http

namespace Gateway

open Http

variable {σ : Type} {g : Gateway} {r : Request}

/-! ## 3. Handlers -/

/-- The exchange that the handler of a route makes of a request, with the last touches. -/
def handled (b : Store.Backend σ) (g : Gateway) (fresh : String) (r : Request) (route : Route)
    (s : σ) : Exchange × σ :=
  let id := r.id fresh
  let (e, s') := g.answerRoute b id r route s
  ({ e with response := e.response.map (finish id r ∘ withHeaders sharedHeaders) }, s')

/-- The response to a request that is refused with this message. -/
def refused (fresh : String) (r : Request) (message : String) : Response :=
  let id := r.id fresh
  finish id r (withHeaders sharedHeaders ((Failure.unauthorized message).response (some id)))

theorem answer_of_admitted (b : Store.Backend σ) (fresh : String) (s : σ) {route : Route}
    (hoptions : r.method ≠ "OPTIONS") (hroute : Route.ofPath? r.path = some route)
    (hmethod : r.method ∈ route.methods) (hadmitted : r.refusal? g.server = none) :
    g.answer b fresh r s = handled b g fresh r route s := by
  have hcontains : route.methods.contains r.method = true := List.contains_iff_mem.mpr hmethod
  simp only [answer, answerShared, answerChecked, answerPath, handled, hoptions, hadmitted, hroute,
    hcontains, if_true, if_false, Option.map_map]

theorem answer_of_refused (b : Store.Backend σ) (fresh : String) (s : σ) {message : String}
    (hoptions : r.method ≠ "OPTIONS")
    (hrefusal : r.refusal? g.server = some (.unauthorized message)) :
    g.answer b fresh r s = (.quiet (refused fresh r message), s) := by
  simp only [answer, answerShared, answerChecked, hoptions, hrefusal, if_false]
  rfl

theorem prepare_status_ne {name : ApiName} {body : List UInt8} {f : Failure}
    (h : g.prepare name body = .error f) : f.status ≠ 401 := by
  unfold prepare at h
  cases hresolve : g.registry.resolve name.db name.group name.api with
  | none =>
    simp only [hresolve] at h
    cases h
    simp [Failure.status]
  | some endpoint =>
    cases hpool : g.pool? endpoint.db with
    | none =>
      simp only [hresolve, hpool] at h
      cases h
      simp [Failure.status]
    | some pool =>
      simp only [hresolve, hpool] at h
      rcases bind_eq_error_iff.mp h with h | ⟨fields, -, h⟩
      · obtain ⟨e, -, rfl⟩ := mapError_eq_error_iff.mp h
        simp [Failure.status]
      rcases bind_eq_error_iff.mp h with h | ⟨statement, -, h⟩
      · obtain ⟨e, -, rfl⟩ := mapError_eq_error_iff.mp h
        simp [Failure.status]
      · cases h

/-- **No handler asks for credentials.** -/
theorem answerRoute_status_ne (b : Store.Backend σ) (g : Gateway) (id : String) (r : Request)
    (route : Route) (s : σ) {response : Response}
    (h : (g.answerRoute b id r route s).1.response = some response) : response.status ≠ 401 := by
  cases route with
  | info =>
    cases h
    simp [info, jsonResponse]
  | health =>
    cases h
    decide
  | call kind db group api =>
    cases hname : ApiName.ofSegments db group api with
    | error text =>
      simp only [answerRoute, hname] at h
      cases h
      simp [textResponse]
    | ok name =>
      by_cases hlong : maxBodyBytes < r.body.length
      · simp only [answerRoute, hname, hlong, if_true] at h
        cases h
        simp [textResponse]
      simp only [answerRoute, hname, hlong, if_false] at h
      cases hprepare : g.prepare name r.body with
      | error f =>
        simp only [call, hprepare] at h
        cases h
        exact prepare_status_ne hprepare
      | ok c =>
        simp only [call, hprepare] at h
        rcases (comesTo_send b _ kind c s).told h with ⟨hstatus, -⟩ | ⟨reason, rfl⟩
        · omega
        · simp [Failure.response, Failure.status]

theorem handled_status_ne {b : Store.Backend σ} {fresh : String} {route : Route} {s : σ}
    {response : Response} (h : (handled b g fresh r route s).1.response = some response) :
    response.status ≠ 401 := by
  obtain ⟨told, htold, rfl⟩ := Option.map_eq_some_iff.mp h
  rw [Function.comp_apply, finish_status]
  change told.status ≠ 401
  exact answerRoute_status_ne b g (r.id fresh) r route s htold

theorem refused_status (fresh : String) (r : Request) (message : String) :
    (refused fresh r message).status = 401 := finish_status _ _ _

/-- The last touches leave all headers but the request id alone. -/
theorem mem_headers_finish {id : String} {response : Response} {header : String × String}
    (hname : header.1 ≠ requestIdHeader) (h : header ∈ response.headers) :
    header ∈ (finish id r response).headers := by
  have hset : ∀ response' : Response, header ∈ response'.headers →
      header ∈ (response'.setHeader requestIdHeader id).headers := by
    intro response' h'
    simp [Response.setHeader, h', hname]
  have hallow : ∀ methods, header ∈ (withHeaders [("allow", methods)] response).headers :=
    fun methods => List.mem_append_left _ h
  unfold finish
  split <;> split <;> split
  · exact hset _ (hallow _)
  · exact hset _ (hallow _)
  · exact hallow _
  · exact hallow _
  · exact hset _ h
  · exact hset _ h
  · exact h
  · exact h

theorem challenge_mem_refused (fresh : String) (r : Request) (message : String) :
    ("www-authenticate", Failure.challenge) ∈ (refused fresh r message).headers := by
  refine mem_headers_finish (by decide) (List.mem_append_left _ ?_)
  simp [Failure.response, Failure.status]

/-! ## 4. Exactly the accounts -/

theorem path_not_public {route : Route} (hroute : Route.ofPath? r.path = some route)
    (hguarded : route ≠ .health) :
    r.path ∉ publicPaths := by
  intro h
  rw [List.mem_singleton.mp h] at hroute
  exact hguarded (Option.some.inj (hroute.symm.trans (by decide)))

theorem method_ne_options {route : Route} (hmethod : r.method ∈ route.methods) :
    r.method ≠ "OPTIONS" := by
  intro h
  rw [h] at hmethod
  cases route <;> simp [Route.methods] at hmethod

/-- **Authentication admits exactly the configured accounts.**  With authentication on, a request
for a handler that asks for credentials is handled exactly if it brings those of an account.  Any
other is told to authenticate, and what it is told depends on nothing but the request; the store is
left alone.  An account whose username has no colon can always be used. -/
theorem authentication_exact (b : Store.Backend σ) (g : Gateway) (fresh : String) (r : Request)
    (s : σ) {route : Route} (hauth : g.server.auth = true)
    (hroute : Route.ofPath? r.path = some route) (hguarded : route ≠ .health)
    (hmethod : r.method ∈ route.methods) :
    (g.answer b fresh r s = handled b g fresh r route s ↔ r.IsAdmitted g.server) ∧
    (¬ r.IsAdmitted g.server → ∃ message ∈ refusals,
      g.answer b fresh r s = (.quiet (refused fresh r message), s) ∧
        (refused fresh r message).status = 401 ∧
        ("www-authenticate", Failure.challenge) ∈ (refused fresh r message).headers) ∧
    ∀ a ∈ g.server.accounts, ':' ∉ a.username.toList →
      r.header? "authorization" = some (Credentials.headerValue ⟨a.username, a.password⟩) →
        g.answer b fresh r s = handled b g fresh r route s := by
  have hpath := path_not_public hroute hguarded
  have hoptions := method_ne_options hmethod
  have hhandled : r.IsAdmitted g.server → g.answer b fresh r s = handled b g fresh r route s :=
    fun h => answer_of_admitted b fresh s hoptions hroute hmethod
      ((Request.refusal?_eq_none_iff hauth hpath).mpr h)
  have hrefused : ¬ r.IsAdmitted g.server → ∃ message ∈ refusals,
      g.answer b fresh r s = (.quiet (refused fresh r message), s) := by
    intro h
    rw [← Request.refusal?_eq_none_iff hauth hpath] at h
    obtain ⟨f, hrefusal⟩ := Option.ne_none_iff_exists'.mp h
    obtain ⟨message, hmessage, rfl⟩ := Request.exists_of_refusal? hrefusal
    exact ⟨message, hmessage, answer_of_refused b fresh s hoptions hrefusal⟩
  refine ⟨⟨fun h => ?_, hhandled⟩, fun h => ?_, fun a ha hcolon hheader => ?_⟩
  · refine Classical.byContradiction fun hnot => ?_
    obtain ⟨message, -, hanswer⟩ := hrefused hnot
    have hresponse : (handled b g fresh r route s).1.response = some (refused fresh r message) := by
      rw [← h, hanswer]
      rfl
    exact handled_status_ne hresponse (refused_status fresh r message)
  · obtain ⟨message, hmessage, hanswer⟩ := hrefused h
    exact ⟨message, hmessage, hanswer, refused_status fresh r message,
      challenge_mem_refused fresh r message⟩
  · exact hhandled ⟨a, ha, _, hheader, Credentials.saidBy_headerValue hcolon⟩

/-- A gateway with one account, whose password has a colon and more than ASCII. -/
def guardedGateway : Gateway where
  server := ⟨"127.0.0.1", 8080, true, [⟨"admin", "s3:crét"⟩], false, none⟩
  registry := .empty
  pools := ∅

/-- A store that never answers. -/
def silentBackend : Store.Backend Unit := ⟨fun _ s => ([], s), fun _ s => (.withheld, s)⟩

/-- A request for the list of what can be called, without credentials. -/
def strangeRequest : Request := ⟨"GET", "/info", [], []⟩

/-- The same request with the credentials of the account. -/
def adminRequest : Request :=
  { strangeRequest with
    headers := [("authorization", Text.Utf8.encode "Basic YWRtaW46czM6Y3LDqXQ=")] }

theorem authentication_exact_guardedGateway :
    guardedGateway.answer silentBackend "1" adminRequest () =
      handled silentBackend guardedGateway "1" adminRequest .info () ∧
    ∃ message ∈ refusals, guardedGateway.answer silentBackend "1" strangeRequest () =
      (.quiet (refused "1" strangeRequest message), ()) := by
  constructor
  · have h := authentication_exact silentBackend guardedGateway "1" adminRequest ()
      rfl (by decide : _ = some Route.info) (by decide) (by decide)
    exact h.2.2 ⟨"admin", "s3:crét"⟩ List.mem_cons_self (by decide) (by decide)
  · have h := authentication_exact silentBackend guardedGateway "1" strangeRequest ()
      rfl (by decide : _ = some Route.info) (by decide) (by decide)
    obtain ⟨message, hmessage, hanswer, -⟩ := h.2.1 fun ⟨_, _, _, hheader, _⟩ => nomatch hheader
    exact ⟨message, hmessage, hanswer⟩

end Gateway

end SqlGateway
