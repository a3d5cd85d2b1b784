/-
The two loops of the HTTP layer that copy a header map by consuming it. The
iterator gives a name only with the first value of a header.
-/
import McpSdk.MultiMap
import McpSdk.SseEvent

namespace McpSdk.RequestHeaders

open List Option
open MultiMap (foldl_items keyItems values_append)

abbrev HeaderMap := MultiMap Str Bytes

structure Request where
  method : Str
  uri : Str
  headers : HeaderMap
  body : Str
deriving DecidableEq

/-- The loop of `create_request`: without a name nothing is inserted. -/
def insertItem (reqHeaders : HeaderMap) (item : Option Str × Bytes) : HeaderMap :=
  match item.1 with
  | some k => reqHeaders.put k item.2
  | none => reqHeaders

def createRequest (method uri : Str) (headers : HeaderMap) (body : Option Str) : Request :=
  { method
    uri
    headers := headers.items.foldl insertItem ∅
    body := body.getD [] }

structure Response where
  status : Nat
  headers : HeaderMap
deriving DecidableEq

def contentTypeHeader : Str := "content-type"

def textPlain : Bytes := Utf8.encode "text/plain"

/-- The loop of `into_response` with the last name seen; without any it panics. -/
def appendItem (state : Option (Option Str × HeaderMap))
    (item : Option Str × Bytes) : Option (Option Str × HeaderMap) :=
  state.bind fun (currentName, headers) =>
    (item.1.or currentName).map fun name =>
      (some name, headers.append name item.2)

def intoResponse (statusCode : Nat) (headers : Option HeaderMap) : Option Response :=
  let copied := match headers with
    | some headers =>
      (headers.items.foldl appendItem (some (none, ∅))).map Prod.snd
    | none => some ∅
  copied.map fun respHeaders =>
    if contentTypeHeader ∈ respHeaders then ⟨statusCode, respHeaders⟩
    else ⟨statusCode, respHeaders.append contentTypeHeader textPlain⟩

theorem foldl_insertItem_none (reqHeaders : HeaderMap) (more : List Bytes) :
    (more.map fun value => ((none : Option Str), value)).foldl insertItem
      reqHeaders = reqHeaders := by
  induction more with
  | nil => rfl
  | cons value more ih => exact ih

theorem createRequest_values (method uri : Str) (headers : HeaderMap) (body : Option Str)
    (name : Str) :
    (createRequest method uri headers body).headers.values name = (headers.values name).take 1 := by
  refine (foldl_items MultiMap.values (List.take 1) (fun _ => True)
    rfl ?_ trivial (fun _ => rfl) headers).2 name
  intro reqHeaders key first more _ _
  refine ⟨trivial, ?_⟩
  rw [keyItems, foldl_cons, foldl_insertItem_none]
  funext other
  rw [Function.update_apply]
  exact MultiMap.values_put reqHeaders key other first

/-- For every header map: the request has the same values, exactly when no name
has more than one. -/
theorem createRequest_values_eq_iff (method uri : Str) (headers : HeaderMap) (body : Option Str) :
    (∀ name, (createRequest method uri headers body).headers.values name = headers.values name) ↔
      ∀ name, (headers.values name).length ≤ 1 := by
  constructor
  · intro hvalues name
    rw [← hvalues name, createRequest_values, length_take]
    exact Nat.min_le_left _ _
  · intro hlength name
    rw [createRequest_values]
    exact take_of_length_le (hlength name)

def copiedValues (state : Option (Option Str × HeaderMap)) (name : Str) : List Bytes :=
  state.elim [] fun copied => copied.2.values name

theorem foldl_appendItem_none (name : Str) (headers : HeaderMap) (more : List Bytes) :
    ∃ copied : HeaderMap, (more.map fun value => ((none : Option Str), value)).foldl appendItem
        (some (some name, headers)) = some (some name, copied) ∧
      copied.values = Function.update headers.values name (headers.values name ++ more) := by
  induction more generalizing headers with
  | nil => exact ⟨headers, rfl, by simp⟩
  | cons value more ih =>
    obtain ⟨copied, hfold, hvalues⟩ := ih (headers.append name value)
    refine ⟨copied, hfold, ?_⟩
    rw [hvalues]
    funext other
    by_cases hother : other = name
    · subst hother
      simp [values_append]
    · simp [values_append, hother]

theorem foldl_appendItem_keyItems {state : Option (Option Str × HeaderMap)}
    {key : Str} (first : Bytes) (more : List Bytes)
    (hstate : state.isSome = true) (hread : copiedValues state key = []) :
    ((keyItems key first more).foldl appendItem state).isSome = true ∧
      copiedValues ((keyItems key first more).foldl appendItem state) =
        Function.update (copiedValues state) key (first :: more) := by
  obtain ⟨⟨current, headers⟩, rfl⟩ := isSome_iff_exists.mp hstate
  obtain ⟨copied, hfold, hcopied⟩ := foldl_appendItem_none key (headers.append key first) more
  have hnone : headers.values key = [] := hread
  have hall : (keyItems key first more).foldl appendItem
      (some (current, headers)) = some (some key, copied) := hfold
  rw [hall]
  refine ⟨rfl, ?_⟩
  funext other
  change copied.values other = Function.update headers.values key _ other
  rw [hcopied]
  by_cases hother : other = key
  · subst hother
    simp [values_append, hnone]
  · simp [values_append, hother]

/-- A response has all values of every header in order, and a content type. -/
theorem intoResponse_values (statusCode : Nat) (headers : HeaderMap) :
    ∃ response, intoResponse statusCode (some headers) = some response ∧
      ∀ name, response.headers.values name =
        if name = contentTypeHeader ∧ headers.values name = [] then [textPlain]
        else headers.values name := by
  have hloop : (headers.items.foldl appendItem (some (none, ∅))).isSome = true ∧
      ∀ name, copiedValues (headers.items.foldl appendItem (some (none, ∅)))
        name = id (headers.values name) :=
    foldl_items copiedValues id (fun state => state.isSome = true) rfl
      foldl_appendItem_keyItems rfl (fun _ => rfl) headers
  obtain ⟨hsome, hvalues⟩ := hloop
  obtain ⟨⟨current, copied⟩, hfold⟩ := isSome_iff_exists.mp hsome
  have hcopied : ∀ name, copied.values name = headers.values name := by
    intro name
    rw [← id_eq (headers.values name), ← hvalues name, hfold]
    rfl
  simp only [intoResponse, hfold, map_some]
  refine ⟨_, rfl, ?_⟩
  intro name
  by_cases hmem : contentTypeHeader ∈ copied
  · rw [if_pos hmem, if_neg, hcopied]
    rintro ⟨rfl, hnone⟩
    rw [MultiMap.mem_iff_values_ne_nil, hcopied] at hmem
    exact hmem hnone
  · rw [if_neg hmem, values_append, hcopied]
    rw [MultiMap.mem_iff_values_ne_nil, hcopied, not_not] at hmem
    by_cases hname : name = contentTypeHeader
    · rw [if_pos hname, hname, hmem, if_pos ⟨rfl, rfl⟩, nil_append]
    · rw [if_neg hname, if_neg fun hboth => hname hboth.1]

namespace RequestHeadersWitness

def headers : HeaderMap :=
  AList.singleton "accept" ([1], [[2]])

theorem second_value_lost :
    (createRequest "GET" "/" headers none).headers.values
        "accept" = [[1]] ∧
      headers.values "accept" = [[1], [2]] ∧
      ¬ ∀ name, (createRequest "GET" "/" headers
        none).headers.values name = headers.values name := by
  have hrequest : (createRequest "GET" "/" headers
      none).headers.values "accept" = [[1]] := by
    decide +kernel
  have hheaders : headers.values "accept" = [[1], [2]] := by
    decide +kernel
  refine ⟨hrequest, hheaders, fun hvalues => ?_⟩
  have hsame := hvalues "accept"
  rw [hrequest, hheaders] at hsame
  cases hsame

end RequestHeadersWitness

end McpSdk.RequestHeaders
