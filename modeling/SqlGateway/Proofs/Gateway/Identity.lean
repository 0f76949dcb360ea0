/-
# The id of a request

The id of a request goes two ways to the client: into the header that is set last, and into the body
of an error wherever it comes from.  Both are the same.

* `Request.encode_id`, `Request.id_eq_fresh`: which id it is;
* `headers_finish`: the response carries it once;
* `Attributed`: what every layer keeps is that the errors in its responses bear the id;
* `identified_answer`: header and error agree, for every request that has a response.

An id that can stand in no header would be left out of the header and still stand in the error.  No
request has one: what a client sends as readable can be sent back, and so can what is made up.
-/
import SqlGateway.Proofs.Gateway.Authentication
import SqlGateway.Proofs.Json.Rendering

namespace SqlGateway

namespace Http

/-! ## 1. Ids -/

/-- The text of a random id: five groups of hexadecimal digits with hyphens between them. -/
structure IsUuid (s : String) : Prop where
  groups : (s.toList.splitOn '-').map List.length = [8, 4, 4, 4, 12]
  digits : ∀ c ∈ s.toList, c = '-' ∨ c ∈ "0123456789abcdef".toList

theorem IsUuid.isHeaderText {s : String} (h : IsUuid s) : isHeaderText s = true := by
  have hall : ('-' :: "0123456789abcdef".toList).all
      (fun c => c = '\t' || (32 ≤ c.toNat && c.toNat ≠ 127)) = true := by decide
  rw [Http.isHeaderText, List.all_eq_true]
  intro c hc
  exact List.all_eq_true.mp hall c (List.mem_cons.mpr (h.digits c hc))

theorem toNat_of_isReadable {b : UInt8} (h : isReadable b = true) :
    b.toNat = 9 ∨ 32 ≤ b.toNat ∧ b.toNat < 127 := by
  simp only [isReadable, Bool.or_eq_true, Bool.and_eq_true, decide_eq_true_eq,
    UInt8.le_iff_toNat_le, UInt8.lt_iff_toNat_lt, UInt8.reduceToNat, ← UInt8.toNat_inj] at h
  exact h

section

variable {value : List UInt8} {text : String}

/-- What is readable is one character to a byte, and is sent as the same bytes again. -/
theorem encode_headerText (h : ∀ b ∈ value, isReadable b = true) :
    Text.Utf8.encode (String.ofList (value.map fun b => Char.ofNat b.toNat)) = value := by
  have hbyte : ∀ b ∈ value, String.utf8EncodeChar (Char.ofNat b.toNat) = [b] := by
    intro b hb
    have hrange := toNat_of_isReadable (h b hb)
    rw [Text.Utf8.utf8EncodeChar_ofNat (.inl (by omega)), if_pos (by omega), UInt8.ofNat_toNat]
  rw [Text.Utf8.encode, String.toList_ofList, Text.Utf8.encodeChars, List.flatMap_map,
    List.flatMap_congr hbyte, List.flatMap_singleton']

theorem isHeaderText_headerText (h : ∀ b ∈ value, isReadable b = true) :
    isHeaderText (String.ofList (value.map fun b => Char.ofNat b.toNat)) = true := by
  rw [isHeaderText, String.toList_ofList, List.all_map, List.all_eq_true]
  intro b hb
  have hnat : (Char.ofNat b.toNat).toNat = b.toNat := by
    have hlt := b.toNat_lt
    exact Text.Utf8.toNat_charOfNat (.inl (by omega))
  rcases toNat_of_isReadable (h b hb) with htab | ⟨hlow, hhigh⟩
  · have hchar : Char.ofNat b.toNat = '\t' := by rw [htab]
    simp [hchar]
  · have hne : b.toNat ≠ 127 := Nat.ne_of_lt hhigh
    simp [hnat, hlow, hne]

theorem headerText?_eq_some_iff : headerText? value = some text ↔
    (∀ b ∈ value, isReadable b = true) ∧
      text = String.ofList (value.map fun b => Char.ofNat b.toNat) := by
  rw [headerText?, ← List.all_eq_true]
  by_cases h : value.all isReadable = true
  · simp [h, eq_comm]
  · simp [h]

end

namespace Request

variable {r : Request} {value : List UInt8}

/-- **The client's first value is the id**, byte for byte, if it is readable and not empty. -/
theorem encode_id (fresh : String) (hvalue : r.header? requestIdHeader = some value)
    (hne : value ≠ []) (hreadable : ∀ b ∈ value, isReadable b = true) :
    Text.Utf8.encode (r.id fresh) = value := by
  have htext := headerText?_eq_some_iff.mpr ⟨hreadable, rfl⟩
  have hencode := encode_headerText hreadable
  have hsome : String.ofList (value.map fun b => Char.ofNat b.toNat) ≠ "" := by
    intro hempty
    rw [hempty] at hencode
    exact hne hencode.symm
  have hchosen : r.chosenId? = some (String.ofList (value.map fun b => Char.ofNat b.toNat)) := by
    rw [chosenId?, hvalue, Option.bind_some, htext]
    simp [Option.filter, hsome]
  rw [id, hchosen, Option.getD_some, hencode]

/-- **Otherwise the id is made up.** -/
theorem id_eq_fresh (fresh : String) (h : ∀ value, r.header? requestIdHeader = some value →
      value = [] ∨ ∃ b ∈ value, isReadable b = false) : r.id fresh = fresh := by
  have hchosen : r.chosenId? = none := by
    rw [chosenId?, Option.filter_eq_none_iff]
    intro text htext
    obtain ⟨value, hvalue, hread⟩ := Option.bind_eq_some_iff.mp htext
    obtain ⟨hreadable, rfl⟩ := headerText?_eq_some_iff.mp hread
    rcases h value hvalue with rfl | ⟨b, hb, hbad⟩
    · simp
    · exact absurd (hreadable b hb) (by simp [hbad])
  rw [id, hchosen, Option.getD_none]

/-- Every id can stand in a header. -/
theorem isHeaderText_id {fresh : String} (hfresh : IsUuid fresh) :
    isHeaderText (r.id fresh) = true := by
  cases hchosen : r.chosenId? with
  | none =>
    rw [id, hchosen, Option.getD_none]
    exact hfresh.isHeaderText
  | some text =>
    obtain ⟨htext, -⟩ := Option.filter_eq_some_iff.mp hchosen
    obtain ⟨value, -, hread⟩ := Option.bind_eq_some_iff.mp htext
    obtain ⟨hreadable, rfl⟩ := headerText?_eq_some_iff.mp hread
    rw [id, hchosen, Option.getD_some]
    exact isHeaderText_headerText hreadable

end Request

/-! ## 2. Errors -/

/-- The id that a client reads in the body of an error. -/
def Response.errorId? (r : Response) : Option String :=
  match Json.ofText r.body with
  | .ok (.object members) =>
    match members.lookup "error" with
    | some (.object error) =>
      match error.lookup "requestId" with
      | some (.string id) => some id
      | _ => none
    | _ => none
  | _ => none

namespace Failure

/-- **The body of an error is read back**, whatever its message and the id. -/
theorem ofText_body (f : Failure) (id : String) :
    Json.ofText (f.body (some id)).text = .ok (f.body (some id)) := by
  have hstring : ∀ m ∈ [("code", Json.string f.code), ("message", .string f.message),
      ("requestId", .string id)], Json.PrintedWithin 0 m.2 := by
    intro m hm
    simp only [List.mem_cons, List.not_mem_nil, or_false] at hm
    rcases hm with rfl | rfl | rfl
    · exact Json.printedWithin_string 0 _
    · exact Json.printedWithin_string 0 _
    · exact Json.printedWithin_string 0 _
  have hinner := Json.printedWithin_object (by simp) hstring
  have houter : Json.PrintedWithin 2 (f.body (some id)) := by
    refine Json.printedWithin_object (by simp) fun m hm => ?_
    rw [List.mem_singleton.mp hm]
    exact hinner
  exact Json.ofText_text houter (by decide)

theorem errorId?_of_body {r : Response} {f : Failure} {id : String}
    (h : r.body = (f.body (some id)).text) : r.errorId? = some id := by
  rw [Response.errorId?, h, ofText_body]
  rfl

end Failure

end Http

namespace Gateway

open Http

variable {σ : Type} {g : Gateway} {r : Request} {id : String}

/-! ## 3. Layers -/

/-- What every layer keeps: an exchange that leaves the stores alone has a response, and an error in
a response is one of the gateway's and bears the id. -/
structure Attributed (id : String) (e : Exchange) : Prop where
  answered : e.executed = [] → ∃ response, e.response = some response
  error : ∀ response, e.response = some response → response.TellsError →
    ∃ f : Failure, response.status = f.status ∧ response.body = (f.body (some id)).text

namespace Attributed

theorem quiet {response : Response} (h : response.TellsError →
      ∃ f : Failure, response.status = f.status ∧ response.body = (f.body (some id)).text) :
    Attributed id (.quiet response) where
  answered _ := ⟨response, rfl⟩
  error := by
    intro response' hresponse
    obtain rfl : response = response' := Option.some.inj hresponse
    exact h

theorem failure (f : Failure) : Attributed id (.quiet (f.response (some id))) :=
  quiet fun _ => ⟨f, rfl, rfl⟩

theorem no_error {response : Response} (h : ¬ response.TellsError) :
    Attributed id (.quiet response) :=
  quiet fun htells => absurd htells h

/-- A touch that keeps the status and the body, or else empties the body, keeps the errors. -/
theorem touched {e : Exchange} (h : Attributed id e) {touch : Response → Response}
    (hstatus : ∀ response, (touch response).status = response.status)
    (hbody : ∀ response, (touch response).body = response.body ∨ (touch response).body = "") :
    Attributed id { e with response := e.response.map touch } where
  answered := by
    intro hquiet
    obtain ⟨response, hresponse⟩ := h.answered hquiet
    exact ⟨touch response, by rw [hresponse]; rfl⟩
  error := by
    intro response hresponse htells
    obtain ⟨told, htold, rfl⟩ := Option.map_eq_some_iff.mp hresponse
    rcases hbody told with hsame | hempty
    · have htells' : told.TellsError := by rwa [Response.TellsError, hsame] at htells
      obtain ⟨f, hf, htext⟩ := h.error told htold htells'
      exact ⟨f, (hstatus told).trans hf, hsame.trans htext⟩
    · rw [Response.TellsError, hempty] at htells
      exact absurd (List.prefix_nil.mp htells) (by decide)

end Attributed

/-- A body that does not begin with a brace tells no error. -/
theorem not_tellsError_of_head {response : Response}
    (h : response.body.toList.head? ≠ some '\x7b') : ¬ response.TellsError := by
  rintro ⟨rest, hrest⟩
  rw [← hrest] at h
  exact h rfl

theorem head?_of_ofSegments {db group api text : String}
    (h : ApiName.ofSegments db group api = .error text) : text.toList.head? ≠ some '\x7b' := by
  have hdecoded : ∀ what segment, decodedName what segment = .error text →
      text.toList.head? ≠ some '\x7b' := by
    intro what segment h
    unfold decodedName at h
    split at h
    next => cases h
    next =>
      obtain rfl := Except.error.inj h
      simp
  rcases bind_eq_error_iff.mp h with h | ⟨_, -, h⟩
  · exact hdecoded _ _ h
  rcases bind_eq_error_iff.mp h with h | ⟨_, -, h⟩
  · exact hdecoded _ _ h
  rcases bind_eq_error_iff.mp h with h | ⟨_, -, h⟩
  · exact hdecoded _ _ h
  · cases h

theorem attributed_answerRoute (b : Store.Backend σ) (route : Route) (s : σ) :
    Attributed id (g.answerRoute b id r route s).1 := by
  cases route with
  | info => exact .no_error (Response.not_tellsError_of_member rfl (by decide) (by decide))
  | health => exact .no_error (Response.not_tellsError_of_member rfl (by decide) (by decide))
  | call kind db group api =>
    cases hname : ApiName.ofSegments db group api with
    | error text =>
      simp only [answerRoute, hname]
      exact .no_error (not_tellsError_of_head (head?_of_ofSegments hname))
    | ok name =>
      by_cases hlong : maxBodyBytes < r.body.length
      · simp only [answerRoute, hname, hlong, if_true]
        exact .no_error (not_tellsError_of_head (by decide))
      simp only [answerRoute, hname, hlong, if_false]
      cases hprepare : g.prepare name r.body with
      | error f =>
        simp only [call, hprepare]
        exact .failure f
      | ok c =>
        simp only [call, hprepare]
        refine ⟨fun hquiet => absurd hquiet (List.cons_ne_nil _ _),
          fun response hresponse htells => ?_⟩
        rcases (comesTo_send b _ kind c s).told hresponse with ⟨-, result, hresult⟩ | ⟨reason, rfl⟩
        · exact absurd htells (not_tellsError_of_result hresult)
        · exact ⟨_, rfl, rfl⟩

theorem attributed_answerPath (b : Store.Backend σ) (s : σ) :
    Attributed id (g.answerPath b id r s).1 := by
  unfold answerPath
  split
  next => exact .no_error (not_tellsError_of_head (by decide))
  next route hroute =>
    split
    next => exact attributed_answerRoute b route s
    next => exact .no_error (not_tellsError_of_head (by decide))

theorem attributed_answerChecked (b : Store.Backend σ) (s : σ) :
    Attributed id (g.answerChecked b id r s).1 := by
  unfold answerChecked
  split
  next f hrefusal => exact .failure f
  next => exact attributed_answerPath b s

theorem attributed_answerShared (b : Store.Backend σ) (s : σ) :
    Attributed id (g.answerShared b id r s).1 := by
  unfold answerShared
  split
  next => exact .no_error (not_tellsError_of_head (by decide))
  next => exact (attributed_answerChecked b s).touched (fun _ => rfl) fun _ => .inl rfl

theorem finish_body_or (id : String) (r : Request) (response : Response) :
    (finish id r response).body = response.body ∨ (finish id r response).body = "" := by
  by_cases hbodiless : isBodiless r = true
  · exact .inr (by unfold finish; rw [if_pos hbodiless])
  · refine .inl ?_
    unfold finish
    rw [if_neg hbodiless]
    split <;> split <;> rfl

/-- **Whatever a request comes to, the errors bear its id.** -/
theorem attributed_answer (b : Store.Backend σ) (g : Gateway) (fresh : String) (r : Request)
    (s : σ) : Attributed (r.id fresh) (g.answer b fresh r s).1 :=
  (attributed_answerShared b s).touched (finish_status _ r) (finish_body_or _ r)

/-! ## 4. One id -/

/-- **The response carries the id once**, if the id can stand in a header. -/
theorem headers_finish (h : isHeaderText id = true) (response : Response) :
    (finish id r response).headers.filter (·.1 == requestIdHeader) = [(requestIdHeader, id)] := by
  have hset : ∀ response' : Response,
      (response'.setHeader requestIdHeader id).headers.filter (·.1 == requestIdHeader) =
        [(requestIdHeader, id)] := by
    intro response'
    rw [Response.setHeader, List.filter_append, List.filter_filter]
    simp
  unfold finish
  cases disallowed? r with
  | none =>
    dsimp only
    rw [if_pos h]
    split
    next => exact hset response
    next => exact hset response
  | some methods =>
    dsimp only
    rw [if_pos h]
    split
    next => exact hset (withHeaders [("allow", String.intercalate "," methods)] response)
    next => exact hset (withHeaders [("allow", String.intercalate "," methods)] response)

/-- What a client can tell of the id of its request. -/
structure Identified (id : String) (response : Response) : Prop where
  /-- The response carries one id. -/
  header : response.headers.filter (·.1 == requestIdHeader) = [(requestIdHeader, id)]
  /-- An error is one of the gateway's and bears the id, -/
  error : response.TellsError ↔
    ∃ f : Failure, response.status = f.status ∧ response.body = (f.body (some id)).text
  /-- and there the client reads it. -/
  read : response.TellsError → response.errorId? = some id

/-- **One id per request, the same everywhere.**  Whatever a request comes to, its response carries
one id: the client's first value if that is readable and not empty, and one that is made up
otherwise.  An error bears the same id.  Only a request that a store was asked for can end without a
response. -/
theorem identified_answer (b : Store.Backend σ) (g : Gateway) (fresh : String) (r : Request) (s : σ)
    (hfresh : IsUuid fresh) :
    (∀ response, (g.answer b fresh r s).1.response = some response →
      Identified (r.id fresh) response) ∧
    ((g.answer b fresh r s).1.executed = [] →
      ∃ response, (g.answer b fresh r s).1.response = some response) ∧
    (∀ value, r.header? requestIdHeader = some value → value ≠ [] →
      (∀ byte ∈ value, isReadable byte = true) → Text.Utf8.encode (r.id fresh) = value) ∧
    ((∀ value, r.header? requestIdHeader = some value →
      value = [] ∨ ∃ byte ∈ value, isReadable byte = false) → r.id fresh = fresh) := by
  have hattributed := attributed_answer b g fresh r s
  refine ⟨fun response hresponse => ⟨?_, ⟨hattributed.error response hresponse, ?_⟩, ?_⟩,
    hattributed.answered, fun _ => Request.encode_id fresh, Request.id_eq_fresh fresh⟩
  · obtain ⟨inner, -, rfl⟩ := Option.map_eq_some_iff.mp hresponse
    exact headers_finish (Request.isHeaderText_id hfresh) inner
  · rintro ⟨f, -, hbody⟩
    exact Failure.tellsError_of_body hbody
  · intro htells
    obtain ⟨f, -, hbody⟩ := hattributed.error response hresponse htells
    exact Failure.errorId?_of_body hbody

/-- An id that is made up. -/
def madeUpId : String := "6f1c2d3e-4a5b-4c6d-8e7f-901a2b3c4d5e"

/-- A request without credentials whose client chose an id. -/
def namedRequest : Request :=
  { strangeRequest with headers := [("x-request-id", Text.Utf8.encode "req-123")] }

theorem identified_answer_refused :
    (∃ response,
      (guardedGateway.answer silentBackend madeUpId namedRequest ()).1.response = some response ∧
        response.headers.filter (·.1 == requestIdHeader) = [("x-request-id", "req-123")] ∧
        response.errorId? = some "req-123") ∧
    ∃ response,
      (guardedGateway.answer silentBackend madeUpId strangeRequest ()).1.response = some response ∧
        response.headers.filter (·.1 == requestIdHeader) = [("x-request-id", madeUpId)] ∧
        response.errorId? = some madeUpId := by
  have hdigits : madeUpId.toList.all (fun c => c = '-' ∨ c ∈ "0123456789abcdef".toList) = true := by
    decide
  have hid : IsUuid madeUpId :=
    ⟨by decide, fun c hc => of_decide_eq_true (List.all_eq_true.mp hdigits c hc)⟩
  have hrefused : ∀ r : Request, r.method = "GET" →
      r.refusal? guardedGateway.server = some (.unauthorized "missing basic credentials") →
      ∃ response, (guardedGateway.answer silentBackend madeUpId r ()).1.response = some response ∧
        response.headers.filter (·.1 == requestIdHeader) = [("x-request-id", r.id madeUpId)] ∧
        response.errorId? = some (r.id madeUpId) := by
    intro r hmethod hrefusal
    have hoptions : r.method ≠ "OPTIONS" := by rw [hmethod]; decide
    have hhead : r.method ≠ "HEAD" := by rw [hmethod]; decide
    have hanswer :=
      @answer_of_refused _ guardedGateway r silentBackend madeUpId () _ hoptions hrefusal
    obtain ⟨hidentified, -⟩ := identified_answer silentBackend guardedGateway madeUpId r () hid
    have hresponse : (guardedGateway.answer silentBackend madeUpId r ()).1.response =
        some (refused madeUpId r "missing basic credentials") := by rw [hanswer]; rfl
    have h := hidentified _ hresponse
    exact ⟨_, hresponse, h.header, h.read (Failure.tellsError_of_body (finish_body _ hhead _))⟩
  exact ⟨hrefused namedRequest rfl (by decide), hrefused strangeRequest rfl (by decide)⟩

end Gateway

end SqlGateway
