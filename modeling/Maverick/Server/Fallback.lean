import Maverick.Lib.Bytes
import Maverick.Lib.Check
import Mathlib.Data.List.Dedup
import Mathlib.Data.List.DropRight

/-!
# The reverse proxy fallback

What is not a tunnel request is answered from an upstream web server: the request is sent
on with the headers that concern the whole way, and the answer comes back without those
that concern one hop.  Two filters, written separately, decide which headers those are.

* `HeaderName`, `HeaderValue`, `HeaderMap` — names in lower case, values of any bytes that
  HTTP allows, and any number of values under a name.
* `ConnectionLists` — the header is listed in a `Connection` value; `ReadablyListed` — in
  one that is text, which `connection_header_names` asks for.
* `fallback_header_hygiene` — what is sent on and what comes back, under every name.
* `unreadable_connection_forwards` — one byte outside ASCII in a `Connection` value, and
  nothing that is listed in it is removed.
-/

namespace Maverick
namespace Fallback

open Lib Lib.Check

/-! ## Headers -/

/-- `u8::to_ascii_lowercase` -/
def toLower (b : UInt8) : UInt8 := if 65 ≤ b && b ≤ 90 then b + 32 else b

/-- The characters of a name, once it is in lower case. -/
def isHeaderChar (b : UInt8) : Bool :=
  (48 ≤ b && b ≤ 57) || (97 ≤ b && b ≤ 122) || (utf8 "!#$%&'*+-.^_`|~").contains b

theorem toLower_of_isHeaderChar {b : UInt8} (h : isHeaderChar b = true) : toLower b = b := by
  induction b using forall_byte with
  | number n =>
    revert n
    decide +kernel

/-- A condition on the bytes of a string is checked byte by byte. -/
instance {p : UInt8 → Prop} [DecidablePred p] (bs : Bytes) : Decidable (∀ b ∈ bs, p b) :=
  List.decidableBAll p bs

/-- A header name of the `http` crate: a token in lower case. -/
structure HeaderName where
  text : Bytes
  valid : text ≠ [] ∧ text.length ≤ 65535 ∧ ∀ b ∈ text, isHeaderChar b = true
deriving DecidableEq

/-- A header value: no control character but the tabulator. -/
structure HeaderValue where
  bytes : Bytes
  valid : ∀ b ∈ bytes, (32 ≤ b ∧ b ≠ 127) ∨ b = 9
deriving DecidableEq

/-- `HeaderName::from_bytes` -/
def HeaderName.fromBytes (bs : Bytes) : Option HeaderName :=
  if h : bs.map toLower ≠ [] ∧ (bs.map toLower).length ≤ 65535 ∧
      ∀ b ∈ bs.map toLower, isHeaderChar b = true then
    some ⟨bs.map toLower, h⟩
  else none

/-- `HeaderValue::from_str` -/
def HeaderValue.fromStr (text : String) : Option HeaderValue :=
  if h : ∀ b ∈ utf8 text, (32 ≤ b ∧ b ≠ 127) ∨ b = 9 then some ⟨utf8 text, h⟩ else none

/-- `HeaderValue::to_str`: the value, if it is all visible ASCII, blanks and tabulators. -/
def HeaderValue.toStr (value : HeaderValue) : Option Bytes :=
  if ∀ b ∈ value.bytes, (32 ≤ b ∧ b < 127) ∨ b = 9 then some value.bytes else none

/-- `str::eq_ignore_ascii_case` -/
def eqIgnoreAsciiCase (a b : Bytes) : Bool := a.map toLower == b.map toLower

namespace HeaderName

theorem map_toLower (name : HeaderName) : name.text.map toLower = name.text := by
  refine (List.map_congr_left fun b hb => ?_).trans (List.map_id _)
  exact toLower_of_isHeaderChar (name.valid.2.2 b hb)

variable {a b : HeaderName}

theorem ext_text (h : a.text = b.text) : a = b := by
  cases a
  cases b
  cases h
  rfl

/-- A name is read in any case. -/
theorem fromBytes_eq_some {bs : Bytes} {name : HeaderName} :
    fromBytes bs = some name ↔ bs.map toLower = name.text := by
  rw [fromBytes]
  constructor
  · intro h
    split at h
    · cases h
      rfl
    · cases h
  · intro h
    have hvalid := name.valid
    rw [← h] at hvalid
    rw [dif_pos hvalid]
    exact congrArg some (ext_text h)

/-- Among names, the comparison that ignores the case is equality. -/
theorem eqIgnoreAsciiCase_iff : eqIgnoreAsciiCase a.text b.text = true ↔ a = b := by
  rw [eqIgnoreAsciiCase, map_toLower, map_toLower, beq_iff_eq]
  exact ⟨ext_text, congrArg text⟩

theorem not_startsWith_colon (name : HeaderName) : name.text.head? ≠ some 58 := by
  intro h
  have hchar := name.valid.2.2 58 (List.mem_of_mem_head? (by simp [h]))
  exact absurd hchar (by decide)

end HeaderName

theorem valid_host : utf8 "host" ≠ [] ∧ (utf8 "host").length ≤ 65535 ∧
    ∀ b ∈ utf8 "host", isHeaderChar b = true := by decide

theorem valid_connection : utf8 "connection" ≠ [] ∧ (utf8 "connection").length ≤ 65535 ∧
    ∀ b ∈ utf8 "connection", isHeaderChar b = true := by decide

theorem valid_close : ∀ b ∈ utf8 "close", (32 ≤ b ∧ b ≠ 127) ∨ b = 9 := by decide

def HOST : HeaderName := ⟨utf8 "host", valid_host⟩
def CONNECTION : HeaderName := ⟨utf8 "connection", valid_connection⟩
def CLOSE : HeaderValue := ⟨utf8 "close", valid_close⟩

/-- A header map: the values under a name are in order.  The order of different names is
not part of what the map stands for. -/
abbrev HeaderMap := List (HeaderName × HeaderValue)

namespace HeaderMap

def getAll (headers : HeaderMap) (name : HeaderName) : List HeaderValue :=
  (headers.filter fun entry => entry.1 = name).map Prod.snd

def append (headers : HeaderMap) (name : HeaderName) (value : HeaderValue) : HeaderMap :=
  headers ++ [(name, value)]

def remove (headers : HeaderMap) (name : HeaderName) : HeaderMap :=
  headers.filter fun entry => entry.1 ≠ name

def insert (headers : HeaderMap) (name : HeaderName) (value : HeaderValue) : HeaderMap :=
  append (remove headers name) name value

def keys (headers : HeaderMap) : List HeaderName := (headers.map Prod.fst).dedup

theorem getAll_append (headers : HeaderMap) (name : HeaderName) (value : HeaderValue)
    (k : HeaderName) :
    getAll (append headers name value) k =
      getAll headers k ++ if name = k then [value] else [] := by
  by_cases h : name = k <;> simp [getAll, append, h]

theorem getAll_remove (headers : HeaderMap) (name k : HeaderName) :
    getAll (remove headers name) k = if k = name then [] else getAll headers k := by
  rw [getAll, remove, List.filter_filter]
  split
  · next hk =>
    subst hk
    simp
  next hk =>
  rw [getAll]
  congr 1
  refine List.filter_congr fun entry _ => ?_
  by_cases hsame : entry.1 = k <;> simp [hsame, hk]

theorem getAll_insert (headers : HeaderMap) (name : HeaderName) (value : HeaderValue)
    (k : HeaderName) :
    getAll (insert headers name value) k = if k = name then [value] else getAll headers k := by
  rw [insert, getAll_append, getAll_remove]
  by_cases h : k = name
  · simp [h]
  · have hne : name ≠ k := fun hk => h hk.symm
    simp [h, hne]

theorem getAll_eq_nil_iff {headers : HeaderMap} {name : HeaderName} :
    getAll headers name = [] ↔ name ∉ keys headers := by
  rw [getAll, List.map_eq_nil_iff, List.filter_eq_nil_iff, keys, List.mem_dedup]
  simp only [List.mem_map, not_exists, not_and, decide_eq_true_eq]

/-- A loop that removes names. -/
theorem getAll_foldl_remove (names : List HeaderName) (headers : HeaderMap) (k : HeaderName) :
    getAll (names.foldl remove headers) k = if k ∈ names then [] else getAll headers k := by
  induction names generalizing headers with
  | nil => simp
  | cons name names ih =>
    rw [List.foldl_cons, ih, getAll_remove]
    by_cases hmem : k ∈ names <;> by_cases hname : k = name <;> simp [hmem, hname]

/-- A loop that appends the entries whose name is wanted. -/
theorem getAll_foldl_append (wanted : HeaderName → Bool) (headers request : HeaderMap)
    (k : HeaderName) :
    getAll (headers.foldl (fun request entry =>
        if wanted entry.1 then append request entry.1 entry.2 else request) request) k =
      getAll request k ++ if wanted k then getAll headers k else [] := by
  induction headers generalizing request with
  | nil => simp [getAll]
  | cons entry headers ih =>
    obtain ⟨name, value⟩ := entry
    rw [List.foldl_cons, ih]
    have hcons : getAll ((name, value) :: headers) k =
        (if name = k then [value] else []) ++ getAll headers k := by
      by_cases h : name = k <;> simp [getAll, h]
    by_cases hname : name = k
    · subst hname
      by_cases hwanted : wanted name <;> simp [hwanted, getAll_append, hcons]
    · by_cases hwanted : wanted name <;> by_cases hk : wanted k <;>
        simp [hwanted, hk, hname, getAll_append, hcons]

end HeaderMap

open HeaderMap

/-! ## The filters -/

/-- `str::trim`, on text that is ASCII. -/
def trim (text : Bytes) : Bytes :=
  let isSpace (b : UInt8) : Bool := b = 32 || (9 ≤ b && b ≤ 13)
  (text.dropWhile isSpace).rdropWhile isSpace

/-- The names of the headers of one hop. -/
def HOP_BY_HOP : List Bytes :=
  [utf8 "connection", utf8 "keep-alive", utf8 "proxy-authenticate", utf8 "proxy-authorization",
    utf8 "proxy-connection", utf8 "te", utf8 "trailer", utf8 "transfer-encoding", utf8 "upgrade"]

def isHopByHopHeader (name : Bytes) : Bool := HOP_BY_HOP.any fun hop => eqIgnoreAsciiCase name hop

/-- `connection_header_names`: a value that is not text is passed over as a whole, and so is
a piece that is not a name. -/
def connectionHeaderNames (headers : HeaderMap) : List HeaderName :=
  (((getAll headers CONNECTION).filterMap HeaderValue.toStr).flatMap (List.splitOn 44)).filterMap
    fun name => HeaderName.fromBytes (trim name)

def isForwardableRequestHeader (name : HeaderName) (connectionHeaders : List HeaderName) : Bool :=
  !eqIgnoreAsciiCase name.text (utf8 "host")
    && !eqIgnoreAsciiCase name.text (utf8 "content-length")
    && !eqIgnoreAsciiCase name.text (utf8 "transfer-encoding")
    && !isHopByHopHeader name.text
    && !(name.text.head? == some 58)
    && !connectionHeaders.any fun other => eqIgnoreAsciiCase other.text name.text

def stripHopByHopHeaders (headers : HeaderMap) : HeaderMap :=
  let connectionHeaders := connectionHeaderNames headers
  let removed := (keys headers).filter fun name =>
    isHopByHopHeader name.text || connectionHeaders.any fun other => other == name
  removed.foldl remove headers

/-! ## One exchange -/

/-- A parsed URI. -/
structure Uri where
  scheme : Option String
  authority : Option String
  path : String

structure Request where
  method : String
  target : String
  headers : HeaderMap
  body : Bytes

structure Response where
  status : Nat
  headers : HeaderMap
  body : Bytes

def MAX_PROXY_RESPONSE_BYTES : Nat := 1024 * 1024

/-- What the proxy meets: the parser of URIs, the connection to the upstream with its
handshake, and the answer to a request.  The errors are those of the calls, time-outs
included. -/
structure Upstream where
  parse : String → Option Uri
  connect : (authority : String) → Except String Unit
  validTarget : String → Bool
  send : Request → Except String Response

def requestTarget (path pathAndQuery : String) : String :=
  let base := String.ofList (path.toList.rdropWhile (· = '/'))
  let pathAndQuery := if pathAndQuery = "" then "/" else pathAndQuery
  if base = "" then pathAndQuery
  else if pathAndQuery = "/" then base
  else base ++ pathAndQuery

/-- The headers that are sent on. -/
def forwardedHeaders (host : HeaderValue) (headers : HeaderMap) : HeaderMap :=
  let request := HeaderMap.insert (HeaderMap.insert [] HOST host) CONNECTION CLOSE
  let connectionHeaders := connectionHeaderNames headers
  headers.foldl (fun request entry =>
    if isForwardableRequestHeader entry.1 connectionHeaders then
      HeaderMap.append request entry.1 entry.2
    else request) request

variable (env : Upstream)

/-- The first half of `ReverseProxyFallback::response_for`: the request to the upstream. -/
def forwardedRequest (upstream method pathAndQuery : String) (headers : HeaderMap)
    (body : Bytes) : Except String Request := do
  let some upstream := env.parse upstream | throw "parse reverse proxy upstream"
  failIf (upstream.scheme ≠ some "http")
    "only http reverse proxy upstreams are supported in v1.1"
  let some authority := upstream.authority | throw "upstream missing authority"
  env.connect authority
  let target := requestTarget upstream.path pathAndQuery
  failIf (¬env.validTarget target) "invalid uri"
  let some host := HeaderValue.fromStr authority | throw "failed to parse header value"
  return ⟨method, target, forwardedHeaders host headers, body⟩

/-- `ReverseProxyFallback::response_for` -/
def responseFor (upstream method pathAndQuery : String) (headers : HeaderMap) (body : Bytes) :
    Except String Response := do
  let request ← forwardedRequest env upstream method pathAndQuery headers body
  let reply ← env.send request
  failIf (MAX_PROXY_RESPONSE_BYTES < reply.body.length) "reverse proxy upstream body failed"
  return { reply with headers := stripHopByHopHeaders reply.headers }

/-! ## What the headers of one hop are -/

/-- The value lists the header, in any case: as a token between commas, with blanks around
it. -/
def HeaderValue.Lists (value : HeaderValue) (name : HeaderName) : Prop :=
  ∃ piece ∈ value.bytes.splitOn 44, (trim piece).map toLower = name.text

instance (value : HeaderValue) (name : HeaderName) : Decidable (value.Lists name) :=
  List.decidableBEx _ _

/-- The value is text. -/
def HeaderValue.IsText (value : HeaderValue) : Prop :=
  ∀ b ∈ value.bytes, (32 ≤ b ∧ b < 127) ∨ b = 9

instance (value : HeaderValue) : Decidable value.IsText :=
  inferInstanceAs (Decidable (∀ b ∈ value.bytes, _))

/-- The header is listed in a `Connection` value. -/
def ConnectionLists (headers : HeaderMap) (name : HeaderName) : Prop :=
  ∃ value ∈ getAll headers CONNECTION, value.Lists name

instance (headers : HeaderMap) (name : HeaderName) : Decidable (ConnectionLists headers name) :=
  List.decidableBEx _ _

/-- Each header of the message that is listed in a `Connection` value, some names apart, is
listed in one that is text. -/
def ReadablyListed (apart : List Bytes) (headers : HeaderMap) : Prop :=
  ∀ name ∈ keys headers, name.text ∉ apart → ConnectionLists headers name →
    ∃ value ∈ getAll headers CONNECTION, value.IsText ∧ value.Lists name

variable {value : HeaderValue} {text : Bytes} {headers : HeaderMap} {name : HeaderName}

theorem HeaderValue.toStr_eq_some :
    value.toStr = some text ↔ value.IsText ∧ value.bytes = text := by
  rw [HeaderValue.toStr, HeaderValue.IsText]
  split
  · next h => rw [Option.some.injEq, and_iff_right h]
  · next h => simp only [reduceCtorEq, h, false_and]

theorem mem_connectionHeaderNames :
    name ∈ connectionHeaderNames headers ↔
      ∃ value ∈ getAll headers CONNECTION, value.IsText ∧ value.Lists name := by
  simp only [connectionHeaderNames, List.mem_filterMap, List.mem_flatMap,
    HeaderName.fromBytes_eq_some, HeaderValue.toStr_eq_some]
  constructor
  · rintro ⟨piece, ⟨_, ⟨value, hvalue, htext, rfl⟩, hpiece⟩, hname⟩
    exact ⟨value, hvalue, htext, piece, hpiece, hname⟩
  · rintro ⟨value, hvalue, htext, piece, hpiece, hname⟩
    exact ⟨piece, ⟨_, ⟨value, hvalue, htext, rfl⟩, hpiece⟩, hname⟩

theorem connectionLists_of_mem (h : name ∈ connectionHeaderNames headers) :
    ConnectionLists headers name := by
  obtain ⟨value, hvalue, -, hlisted⟩ := mem_connectionHeaderNames.mp h
  exact ⟨value, hvalue, hlisted⟩

/-- A name is compared with a text in lower case. -/
theorem eqIgnoreAsciiCase_text (name : HeaderName) (h : text.map toLower = text) :
    eqIgnoreAsciiCase name.text text = true ↔ name.text = text := by
  rw [eqIgnoreAsciiCase, name.map_toLower, h, beq_iff_eq]

theorem isHopByHopHeader_iff : isHopByHopHeader name.text = true ↔ name.text ∈ HOP_BY_HOP := by
  have hlower : ∀ hop ∈ HOP_BY_HOP, hop.map toLower = hop := by decide
  rw [isHopByHopHeader, List.any_eq_true]
  constructor
  · rintro ⟨hop, hmem, heq⟩
    rwa [(eqIgnoreAsciiCase_text name (hlower hop hmem)).mp heq]
  · intro h
    exact ⟨name.text, h, (eqIgnoreAsciiCase_text name (hlower _ h)).mpr rfl⟩

/-- **The filter of requests.** -/
theorem isForwardableRequestHeader_iff {listed : List HeaderName} :
    isForwardableRequestHeader name listed = true ↔
      name.text ≠ utf8 "host" ∧ name.text ≠ utf8 "content-length" ∧
        name.text ∉ HOP_BY_HOP ∧ name ∉ listed := by
  have hhost := eqIgnoreAsciiCase_text name (show (utf8 "host").map toLower = _ by decide)
  have hlength :=
    eqIgnoreAsciiCase_text name (show (utf8 "content-length").map toLower = _ by decide)
  have hcoding :=
    eqIgnoreAsciiCase_text name (show (utf8 "transfer-encoding").map toLower = _ by decide)
  have hlisted : (listed.any fun other => eqIgnoreAsciiCase other.text name.text) = true ↔
      name ∈ listed := by
    simp [HeaderName.eqIgnoreAsciiCase_iff]
  simp only [isForwardableRequestHeader, Bool.and_eq_true, Bool.not_eq_true', ← Bool.not_eq_true,
    hhost, hlength, hcoding, hlisted, isHopByHopHeader_iff, beq_iff_eq]
  constructor
  · rintro ⟨⟨⟨⟨⟨h₁, h₂⟩, -⟩, h₃⟩, -⟩, h₄⟩
    exact ⟨h₁, h₂, h₃, h₄⟩
  rintro ⟨h₁, h₂, h₃, h₄⟩
  -- the transfer coding is a header of one hop as well, and no name starts with a colon
  have hchunked : name.text ≠ utf8 "transfer-encoding" := by
    rintro h
    rw [h] at h₃
    exact h₃ (by decide)
  exact ⟨⟨⟨⟨⟨h₁, h₂⟩, hchunked⟩, h₃⟩, name.not_startsWith_colon⟩, h₄⟩

/-- **The filter of responses.** -/
theorem getAll_stripHopByHopHeaders (headers : HeaderMap) (name : HeaderName) :
    getAll (stripHopByHopHeaders headers) name =
      if name.text ∈ HOP_BY_HOP ∨ name ∈ connectionHeaderNames headers then []
      else getAll headers name := by
  have hremoved : name ∈ (keys headers).filter (fun name => isHopByHopHeader name.text ||
        (connectionHeaderNames headers).any fun other => other == name) ↔
      name ∈ keys headers ∧
        (name.text ∈ HOP_BY_HOP ∨ name ∈ connectionHeaderNames headers) := by
    simp [← isHopByHopHeader_iff]
  rw [stripHopByHopHeaders, getAll_foldl_remove]
  simp only [hremoved]
  by_cases hkey : name ∈ keys headers
  · simp only [hkey, true_and]
  · simp [hkey, getAll_eq_nil_iff.mpr hkey]

/-- What is sent on under a name. -/
theorem getAll_forwardedHeaders (host : HeaderValue) (headers : HeaderMap) (name : HeaderName) :
    getAll (forwardedHeaders host headers) name =
      (if name = CONNECTION then [CLOSE] else if name = HOST then [host] else []) ++
        if isForwardableRequestHeader name (connectionHeaderNames headers) then
          getAll headers name
        else [] := by
  rw [forwardedHeaders,
    getAll_foldl_append fun name => isForwardableRequestHeader name (connectionHeaderNames headers),
    getAll_insert, getAll_insert]
  rfl

/-- `Connection` and `Host` are not sent on. -/
theorem getAll_forwardedHeaders_own (host : HeaderValue) (headers : HeaderMap) :
    getAll (forwardedHeaders host headers) CONNECTION = [CLOSE] ∧
      getAll (forwardedHeaders host headers) HOST = [host] := by
  have hconnection : isForwardableRequestHeader CONNECTION (connectionHeaderNames headers) ≠
      true := by
    rw [Ne, isForwardableRequestHeader_iff]
    exact fun h => h.2.2.1 (by decide)
  have hhost : isForwardableRequestHeader HOST (connectionHeaderNames headers) ≠ true := by
    rw [Ne, isForwardableRequestHeader_iff]
    exact fun h => h.1 rfl
  have hne : HOST ≠ CONNECTION := by decide
  rw [getAll_forwardedHeaders, getAll_forwardedHeaders, if_neg hconnection, if_neg hhost,
    if_pos rfl, if_neg hne, if_pos rfl]
  exact ⟨rfl, rfl⟩

/-- **What a filter leaves of the listed headers.**  If it lets through exactly the names
that are not apart and not known to be listed, then no listed header is left just when each
of them is readably listed. -/
theorem listed_removed_iff {apart : List Bytes} {sent : HeaderMap}
    (hsent : ∀ name, name.text ∉ apart → getAll sent name =
      if name ∈ connectionHeaderNames headers then [] else getAll headers name) :
    (∀ name, ConnectionLists headers name → name.text ∉ apart → getAll sent name = []) ↔
      ReadablyListed apart headers := by
  constructor
  · intro hremoved name hkey hapart hlisted
    rw [← mem_connectionHeaderNames]
    by_contra hunknown
    have hgone := hremoved name hlisted hapart
    rw [hsent name hapart, if_neg hunknown] at hgone
    exact getAll_eq_nil_iff.mp hgone hkey
  · intro hreadable name hlisted hapart
    rw [hsent name hapart]
    split
    · rfl
    next hunknown =>
      rw [getAll_eq_nil_iff]
      exact fun hkey => hunknown (mem_connectionHeaderNames.mpr (hreadable name hkey hapart hlisted))

/-- The names that the filter of requests removes in any case. -/
def requestApart : List Bytes := utf8 "host" :: utf8 "content-length" :: HOP_BY_HOP

/-- The headers of a request to the upstream, as they are to be.  Whether none of the listed
ones is sent on depends on what the request says. -/
structure CleanRequest (authority : String) (headers sent : HeaderMap) : Prop where
  host : (getAll sent HOST).map HeaderValue.bytes = [utf8 authority]
  connection : getAll sent CONNECTION = [CLOSE]
  fixed : ∀ name, name.text ∈ requestApart → name ≠ HOST → name ≠ CONNECTION →
    getAll sent name = []
  listed : (∀ name, ConnectionLists headers name → name ≠ HOST → name ≠ CONNECTION →
    getAll sent name = []) ↔ ReadablyListed requestApart headers
  kept : ∀ name, name.text ∉ requestApart → ¬ConnectionLists headers name →
    getAll sent name = getAll headers name

/-- The headers of an answer, as they are to be. -/
structure CleanResponse (reply headers : HeaderMap) : Prop where
  fixed : ∀ name, name.text ∈ HOP_BY_HOP → getAll headers name = []
  listed : (∀ name, ConnectionLists reply name → getAll headers name = []) ↔
    ReadablyListed HOP_BY_HOP reply
  kept : ∀ name, name.text ∉ HOP_BY_HOP → ¬ConnectionLists reply name →
    getAll headers name = getAll reply name

theorem cleanRequest_forwardedHeaders {authority : String} {host : HeaderValue}
    (hhost : host.bytes = utf8 authority) (headers : HeaderMap) :
    CleanRequest authority headers (forwardedHeaders host headers) := by
  obtain ⟨hconnection, hown⟩ := getAll_forwardedHeaders_own host headers
  have hfixed : ∀ name, name.text ∈ requestApart → name ≠ HOST → name ≠ CONNECTION →
      getAll (forwardedHeaders host headers) name = [] := by
    intro name hname hne hne'
    have hdropped : isForwardableRequestHeader name (connectionHeaderNames headers) ≠ true := by
      rw [Ne, isForwardableRequestHeader_iff]
      rintro ⟨hhost', hlength, hhop, -⟩
      simp [requestApart, hhost', hlength, hhop] at hname
    rw [getAll_forwardedHeaders, if_neg hdropped, if_neg hne', if_neg hne]
    rfl
  have hsent : ∀ name, name.text ∉ requestApart → getAll (forwardedHeaders host headers) name =
      if name ∈ connectionHeaderNames headers then [] else getAll headers name := by
    intro name hname
    have hne : name ≠ HOST := by
      rintro rfl
      exact hname (by decide)
    have hne' : name ≠ CONNECTION := by
      rintro rfl
      exact hname (by decide)
    simp only [requestApart, List.mem_cons, not_or] at hname
    have hpassed : isForwardableRequestHeader name (connectionHeaderNames headers) = true ↔
        name ∉ connectionHeaderNames headers := by
      rw [isForwardableRequestHeader_iff]
      exact ⟨fun h => h.2.2.2, fun h => ⟨hname.1, hname.2.1, hname.2.2, h⟩⟩
    rw [getAll_forwardedHeaders, if_neg hne', if_neg hne, List.nil_append]
    simp only [hpassed, ite_not]
  refine ⟨by simp [hown, hhost], hconnection, hfixed, ?_, ?_⟩
  · rw [← listed_removed_iff hsent]
    constructor
    · intro hremoved name hlisted hname
      refine hremoved name hlisted ?_ ?_
      · rintro rfl
        exact hname (by decide)
      · rintro rfl
        exact hname (by decide)
    · intro hremoved name hlisted hne hne'
      by_cases hname : name.text ∈ requestApart
      · exact hfixed name hname hne hne'
      · exact hremoved name hlisted hname
  · intro name hname hlisted
    rw [hsent name hname, if_neg fun h => hlisted (connectionLists_of_mem h)]

theorem cleanResponse_strip (reply : HeaderMap) :
    CleanResponse reply (stripHopByHopHeaders reply) := by
  have hfixed : ∀ name, name.text ∈ HOP_BY_HOP → getAll (stripHopByHopHeaders reply) name = [] := by
    intro name hname
    rw [getAll_stripHopByHopHeaders, if_pos (.inl hname)]
  have hsent : ∀ name, name.text ∉ HOP_BY_HOP → getAll (stripHopByHopHeaders reply) name =
      if name ∈ connectionHeaderNames reply then [] else getAll reply name := by
    intro name hname
    simp only [getAll_stripHopByHopHeaders, hname, false_or]
  refine ⟨hfixed, ?_, ?_⟩
  · rw [← listed_removed_iff hsent]
    constructor
    · exact fun hremoved name hlisted _ => hremoved name hlisted
    · intro hremoved name hlisted
      by_cases hname : name.text ∈ HOP_BY_HOP
      · exact hfixed name hname
      · exact hremoved name hlisted hname
  · intro name hname hlisted
    rw [hsent name hname, if_neg fun h => hlisted (connectionLists_of_mem h)]

variable {env}

theorem HeaderValue.bytes_of_fromStr {text : String} (h : HeaderValue.fromStr text = some value) :
    value.bytes = utf8 text := by
  rw [HeaderValue.fromStr] at h
  split at h
  · cases h
    rfl
  · cases h

/-- What a request that is made is made of. -/
theorem forwardedRequest_eq_ok {upstream method pathAndQuery : String} {body : Bytes}
    {request : Request}
    (h : forwardedRequest env upstream method pathAndQuery headers body = .ok request) :
    ∃ uri authority, env.parse upstream = some uri ∧ uri.authority = some authority ∧
      ∃ host, host.bytes = utf8 authority ∧ request.headers = forwardedHeaders host headers := by
  rw [forwardedRequest] at h
  cases hparse : env.parse upstream with
  | none => simp [hparse] at h
  | some uri =>
    simp only [hparse] at h
    obtain ⟨-, h⟩ := seq_eq_ok.mp h
    cases hauthority : uri.authority with
    | none => simp [hauthority] at h
    | some authority =>
      simp only [hauthority] at h
      obtain ⟨-, h⟩ := seq_eq_ok.mp h
      obtain ⟨-, h⟩ := seq_eq_ok.mp h
      cases hhost : HeaderValue.fromStr authority with
      | none => simp [hhost] at h
      | some host =>
        simp only [hhost] at h
        cases h
        exact ⟨uri, authority, rfl, hauthority, host, HeaderValue.bytes_of_fromStr hhost, rfl⟩

/-- **The headers of the fallback.**  Every request to the upstream has the authority of
the upstream as its only `Host`, and `Connection: close`; every answer is an answer to such
a request.  The headers that are about one hop by their name are left out.  Those that a
`Connection` value lists are left out exactly when each is listed in one that is text.  All
others, `Content-Length` in requests apart, have all their values in order. -/
theorem fallback_header_hygiene {upstream method pathAndQuery : String} {headers : HeaderMap}
    {body : Bytes} :
    (∀ request, forwardedRequest env upstream method pathAndQuery headers body = .ok request →
      ∃ uri authority, env.parse upstream = some uri ∧ uri.authority = some authority ∧
        CleanRequest authority headers request.headers) ∧
      ∀ response, responseFor env upstream method pathAndQuery headers body = .ok response →
        ∃ request reply,
          forwardedRequest env upstream method pathAndQuery headers body = .ok request ∧
            env.send request = .ok reply ∧ CleanResponse reply.headers response.headers := by
  constructor
  · intro request hrequest
    obtain ⟨uri, authority, huri, hauthority, host, hhost, hheaders⟩ :=
      forwardedRequest_eq_ok hrequest
    refine ⟨uri, authority, huri, hauthority, ?_⟩
    rw [hheaders]
    exact cleanRequest_forwardedHeaders hhost headers
  · intro response hresponse
    obtain ⟨request, hrequest, hresponse⟩ := bind_eq_ok.mp hresponse
    obtain ⟨reply, hreply, hresponse⟩ := bind_eq_ok.mp hresponse
    obtain ⟨-, hresponse⟩ := seq_eq_ok.mp hresponse
    cases hresponse
    exact ⟨request, reply, hrequest, hreply, cleanResponse_strip reply.headers⟩

/-! ## Two `Connection` values -/

theorem valid_xHop : utf8 "x-hop" ≠ [] ∧ (utf8 "x-hop").length ≤ 65535 ∧
    ∀ b ∈ utf8 "x-hop", isHeaderChar b = true := by decide

theorem valid_plainValue : ∀ b ∈ utf8 "X-Hop", (32 ≤ b ∧ b ≠ 127) ∨ b = 9 := by decide

theorem valid_oddValue : ∀ b ∈ utf8 "x-hop, " ++ [255], (32 ≤ b ∧ b ≠ 127) ∨ b = 9 := by decide

def xHop : HeaderName := ⟨utf8 "x-hop", valid_xHop⟩

/-- A header, and a `Connection` value that lists it and has a byte outside ASCII behind it,
which HTTP allows. -/
def oddHeaders : HeaderMap :=
  [(CONNECTION, ⟨utf8 "x-hop, " ++ [255], valid_oddValue⟩), (xHop, CLOSE)]

/-- The same with a second value, which lists it in another case. -/
def bothHeaders : HeaderMap := (CONNECTION, ⟨utf8 "X-Hop", valid_plainValue⟩) :: oddHeaders

/-- An upstream that answers with the given headers. -/
def answering (reply : HeaderMap) : Upstream where
  parse _ := some ⟨some "http", some "origin", ""⟩
  connect _ := .ok ()
  validTarget _ := true
  send _ := .ok ⟨200, reply, []⟩

theorem fallback_header_hygiene_both :
    ∃ request response,
      forwardedRequest (answering bothHeaders) "http://origin" "GET" "/" bothHeaders [] =
          .ok request ∧
        responseFor (answering bothHeaders) "http://origin" "GET" "/" bothHeaders [] =
          .ok response ∧
        getAll request.headers xHop = [] ∧ getAll response.headers xHop = [] := by
  obtain ⟨hrequests, hresponses⟩ :=
    @fallback_header_hygiene (answering bothHeaders) "http://origin" "GET" "/" bothHeaders []
  obtain ⟨uri, authority, -, -, hrequest⟩ := hrequests _ rfl
  obtain ⟨request, reply, -, hreply, hresponse⟩ := hresponses _ rfl
  have hlisted : ConnectionLists bothHeaders xHop := by decide
  refine ⟨_, _, rfl, rfl, ?_, ?_⟩
  · exact hrequest.listed.mpr (by unfold ReadablyListed; decide) xHop hlisted (by decide) (by decide)
  · obtain rfl := Except.ok.inj hreply
    exact hresponse.listed.mpr (by unfold ReadablyListed; decide) xHop hlisted

/-- **A listed header is passed on**, to the upstream and back, when the `Connection` value
that lists it is not text. -/
theorem unreadable_connection_forwards :
    ConnectionLists oddHeaders xHop ∧
      ∃ request response,
        forwardedRequest (answering oddHeaders) "http://origin" "GET" "/" oddHeaders [] =
            .ok request ∧
          responseFor (answering oddHeaders) "http://origin" "GET" "/" oddHeaders [] =
            .ok response ∧
          getAll request.headers xHop = [CLOSE] ∧ getAll response.headers xHop = [CLOSE] := by
  exact ⟨by decide, _, _, rfl, rfl, by decide, by decide⟩

end Fallback
end Maverick
