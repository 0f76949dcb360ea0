/-
# What a response reports

A response reports an error code if its body begins with `{"error":{"code":"…"`.  The message and
the request id stand behind that, so the head tells the code whatever they are.

* `Failure.reports_iff`: the response for a failure reports the code of the failure and no other;
* `not_tellsError_of_member`: an object whose first member is not `error` tells no error at all.

Names and codes are compared as they stand between their quotes.  That goes well as long as none of
their characters is escaped, which is what `IsPlain` says.
-/
import SqlGateway.Http.Failure

namespace SqlGateway

/-! ## 1. Quoted names -/

namespace Json

/-- Whether a text stands between the quotes just as it is. -/
def IsPlain (s : String) : Prop := ∀ c ∈ s.toList, escapeChar c = [c]

instance (s : String) : Decidable (IsPlain s) :=
  List.decidableBAll (fun c => escapeChar c = [c]) s.toList

theorem renderString_of_isPlain {s : String} (h : IsPlain s) :
    renderString s = '"' :: s.toList ++ ['"'] := by
  have hmap : s.toList.map escapeChar = s.toList.map fun c => [c] := List.map_congr_left h
  rw [renderString, List.flatMap_def, hmap, ← List.flatMap_def, List.flatMap_singleton']

theorem IsPlain.ne_quote {s : String} (h : IsPlain s) {c : Char} (hc : c ∈ s.toList) :
    (c != '"') = true := by
  by_cases hquote : c = '"'
  · have := h c hc
    rw [hquote] at this
    exact absurd this (by decide)
  · simpa using hquote

/-- What stands behind a quoted text does not matter for telling it from another one. -/
theorem eq_of_renderString_append {s t : String} (hs : IsPlain s) (ht : IsPlain t)
    {behind behind' : List Char}
    (h : renderString s ++ behind = renderString t ++ behind') : s = t := by
  rw [renderString_of_isPlain hs, renderString_of_isPlain ht] at h
  have hquoted : s.toList ++ '"' :: behind = t.toList ++ '"' :: behind' := by simpa using h
  have htake := congrArg (List.takeWhile (· != '"')) hquoted
  rw [List.takeWhile_append_of_pos (fun c hc => hs.ne_quote hc),
    List.takeWhile_append_of_pos (fun c hc => ht.ne_quote hc)] at htake
  exact String.toList_inj.mp (by simpa using htake)

/-- An object begins with the name and the value of its first member. -/
theorem exists_render_object (key : String) (value : Json) (members : List (String × Json)) :
    ∃ behind, render (object ((key, value) :: members)) =
      '\x7b' :: renderString key ++ ':' :: render value ++ behind := by
  cases members with
  | nil =>
    refine ⟨['\x7d'], ?_⟩
    rw [render, renderMembers]
    simp
  | cons member members =>
    refine ⟨',' :: renderMembers (member :: members) ++ ['\x7d'], ?_⟩
    rw [render, renderMembers]
    simp

end Json

namespace Http

/-! ## 2. Reported codes -/

/-- The response reports an error with this code. -/
def Response.Reports (r : Response) (code : String) : Prop :=
  ("\x7b\"error\":\x7b\"code\":\"" ++ code ++ "\"").toList <+: r.body.toList

theorem Response.reports_congr {r r' : Response} (h : r.body = r'.body) (code : String) :
    r.Reports code ↔ r'.Reports code := by
  rw [Response.Reports, Response.Reports, h]

open Json (IsPlain renderString renderString_of_isPlain eq_of_renderString_append)

/-- The head of an error body in the writing of JSON values. -/
theorem Response.reports_iff {r : Response} {code : String} (hcode : IsPlain code) :
    r.Reports code ↔ '\x7b' :: renderString "error" ++ ':' :: '\x7b' :: renderString "code" ++
      ':' :: renderString code <+: r.body.toList := by
  have herror : renderString "error" = "\"error\"".toList := by decide
  have hname : renderString "code" = "\"code\"".toList := by decide
  rw [Response.Reports, herror, hname, renderString_of_isPlain hcode]
  simp

/-- The response tells an error, whatever it is. -/
def Response.TellsError (r : Response) : Prop := "\x7b\"error\":".toList <+: r.body.toList

theorem Response.tellsError_iff {r : Response} :
    r.TellsError ↔ '\x7b' :: renderString "error" ++ [':'] <+: r.body.toList := by
  have herror : renderString "error" = "\"error\"".toList := by decide
  rw [Response.TellsError, herror]
  rfl

theorem Response.Reports.tellsError {r : Response} {code : String} (h : r.Reports code) :
    r.TellsError := by
  refine List.IsPrefix.trans ?_ h
  rw [String.toList_append, String.toList_append]
  exact ⟨"\x7b\"code\":\"".toList ++ code.toList ++ "\"".toList, by simp⟩

/-- **An object whose first member is not the error tells none.** -/
theorem Response.not_tellsError_of_member {r : Response} {key : String} {value : Json}
    {members : List (String × Json)} (hbody : r.body = (Json.object ((key, value) :: members)).text)
    (hkey : IsPlain key) (hne : key ≠ "error") : ¬ r.TellsError := by
  rw [Response.tellsError_iff, hbody, Json.text, String.toList_ofList]
  obtain ⟨behind, htext⟩ := Json.exists_render_object key value members
  rintro ⟨rest, hrest⟩
  rw [htext] at hrest
  simp only [List.cons_append, List.append_assoc, List.cons.injEq, true_and] at hrest
  exact hne (eq_of_renderString_append hkey (by decide) hrest.symm)

namespace Failure

theorem isPlain_code (f : Failure) : IsPlain f.code := by
  cases f <;> simp only [code] <;> decide

theorem exists_body_eq (f : Failure) (id : Option String) :
    ∃ members, f.body id =
      .object [("error", .object (("code", .string f.code) :: members))] := by
  cases id with
  | none => exact ⟨_, rfl⟩
  | some id => exact ⟨_, rfl⟩

/-- **Every response for a failure tells an error.** -/
theorem tellsError_of_body {r : Response} {f : Failure} {id : Option String}
    (h : r.body = (f.body id).text) : r.TellsError := by
  obtain ⟨members, hbody⟩ := f.exists_body_eq id
  obtain ⟨behind, htext⟩ := Json.exists_render_object "error"
    (.object (("code", .string f.code) :: members)) []
  rw [Response.tellsError_iff, h, hbody, Json.text, String.toList_ofList, htext]
  refine ⟨Json.render (.object (("code", .string f.code) :: members)) ++ behind, ?_⟩
  simp

/-- **The response for a failure reports the code of the failure**, and no other. -/
theorem reports_iff (f : Failure) (id : Option String) {code : String} (hcode : IsPlain code) :
    (f.response id).Reports code ↔ code = f.code := by
  obtain ⟨members, hbody⟩ := f.exists_body_eq id
  obtain ⟨behind, hinner⟩ := Json.exists_render_object "code" (.string f.code) members
  obtain ⟨behind', houter⟩ := Json.exists_render_object "error"
    (.object (("code", .string f.code) :: members)) []
  rw [Response.reports_iff hcode, response, hbody, Json.text, String.toList_ofList, houter, hinner,
    Json.render]
  simp only [List.cons_append, List.append_assoc, List.cons_prefix_cons, true_and,
    List.prefix_append_right_inj]
  constructor
  · rintro ⟨rest, hrest⟩
    exact eq_of_renderString_append hcode f.isPlain_code hrest
  · rintro rfl
    exact List.prefix_append _ _

theorem status_ne_ok (f : Failure) : f.status ≠ 200 := by
  cases f <;> simp [status]

end Failure

end Http

end SqlGateway
