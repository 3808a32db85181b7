import Mathlib.Data.List.DropRight
import Maverick.Core.Config
import Maverick.Lib.FormUrlencoded

/-!
# Profile URIs

`maverick-cli` exports a client profile as a URI and imports it again.  Between the two
stand hand-written checks: on the payload, on the query before it is decoded, on the keys,
and on the values.

* `UrlCrate` — what is assumed of the `url` crate.
* `profileUriQueryComponentIsLossless` — the check of a component before it is decoded.
* `fieldsOf` — the part of `ProfileUri::parse` behind the decoding; `Sound` — the profiles
  that it gives.
* `profile_uri_round_trip` — a profile that was accepted is accepted again, as it is, and
  the check takes exactly what decodes without loss.
-/

namespace Maverick
namespace Cli

open Lib Lib.Check

/-! ## The `url` crate -/

/-- A parsed URL. -/
structure Url where
  scheme : String
  hostStr : Option String
  path : String
  username : String
  password : Option String
  port : Option Nat
  fragment : Option String
  query : Option Bytes

/-- The `url` crate, on the URIs that this program writes, and the lossy decoding of UTF-8,
which leaves what is valid as it is. -/
structure UrlCrate where
  parse : String → Option Url
  fromUtf8Lossy : Bytes → String
  parse_profile : ∀ query, (∀ b ∈ query, FormUrlencoded.isFormByte b = true) →
    parse (asciiText (utf8 "maverick://profile/v1?" ++ query)) =
      some ⟨"maverick", some "profile", "/v1", "", none, none, none, some query⟩
  lossy_valid : ∀ bs s, fromUtf8 bs = some s → fromUtf8Lossy bs = s

/-- `Url::query_pairs` -/
def UrlCrate.queryPairs (crate : UrlCrate) (url : Url) : List (String × String) :=
  (FormUrlencoded.parse (url.query.getD [])).map fun pair =>
    (crate.fromUtf8Lossy pair.1, crate.fromUtf8Lossy pair.2)

/-! ## Checks before decoding -/

def PROFILE_URI_MAX_BYTES : Nat := 16 * 1024
def INVALID_PROFILE_URI : String := "invalid profile URI"
def INVALID_PROFILE_URI_QUERY : String := "invalid profile URI query"

/-- `str::trim` -/
def trim (text : List Char) : List Char := (text.dropWhile isWhitespace).rdropWhile isWhitespace

/-- `normalize_profile_uri_payload`; a carriage return at the end of a line is trimmed with
the blanks. -/
def normalizeProfileUriPayload (input : String) : Except String String :=
  match ((input.toList.splitOn '\n').map trim).filter (· ≠ []) with
  | [] => .error "profile URI payload must contain one URI"
  | [uri] => .ok (String.ofList uri)
  | _ => .error "profile URI payload must contain exactly one non-empty URI"

/-- `profile_uri_query_component_is_lossless` -/
def profileUriQueryComponentIsLossless (component : Bytes) : Bool :=
  match FormUrlencoded.scan component with
  | some decoded => (fromUtf8 decoded).isSome
  | none => false

/-- `profile_uri_authority_has_userinfo_or_port_syntax` -/
def profileUriAuthorityHasUserinfoOrPortSyntax (input : Bytes) : Bool :=
  match splitOnce (utf8 "://") input with
  | none => false
  | some (_, afterScheme) =>
    let authority := afterScheme.takeWhile fun b => !(utf8 "/?#").contains b
    authority.any (utf8 "@:").contains

/-- `validate_profile_uri_input` -/
def validateProfileUriInput (input : Bytes) : Except String Unit := do
  failIf (PROFILE_URI_MAX_BYTES < input.length) INVALID_PROFILE_URI
  failIf (profileUriAuthorityHasUserinfoOrPortSyntax input) INVALID_PROFILE_URI
  match input.dropWhile (· ≠ 63) with
  | [] => return ()
  | _ :: queryAndFragment =>
    let query := queryAndFragment.takeWhile (· ≠ 35)
    each (fun pair =>
      let (key, value) := FormUrlencoded.splitPair pair
      failIf (¬(profileUriQueryComponentIsLossless key ∧
        profileUriQueryComponentIsLossless value)) INVALID_PROFILE_URI) (query.splitOn 38)

/-! ## Profiles -/

structure ProfileUri where
  server : String
  serverName : String
  tunnelPath : String
  mode : Mode
  credentialId : Option String
  secret : Option SecretString
  certPin : Option String
  experimentalH3 : Bool
  experimentalEch : Bool
  experimentalTun : Bool
deriving DecidableEq

/-- `validate_profile_uri_v1_envelope` -/
def validateProfileUriV1Envelope (url : Url) : Except String Unit :=
  failIf (¬(url.username = "" ∧ url.password = none ∧ url.port = none ∧ url.fragment = none))
    INVALID_PROFILE_URI

def PROFILE_URI_KEYS : List String :=
  ["server", "name", "path", "mode", "credential_id", "secret", "cert_pin", "experimental_h3",
    "experimental_ech", "experimental_tun"]

/-- The loop of `validate_profile_uri_v1_query`, with the keys seen so far for its bits. -/
def validateProfileUriV1Keys (seen : List String) : List String → Except String Unit
  | [] => .ok ()
  | key :: keys => do
    failIf (key ∉ PROFILE_URI_KEYS) INVALID_PROFILE_URI_QUERY
    failIf (key ∈ seen) INVALID_PROFILE_URI_QUERY
    validateProfileUriV1Keys (key :: seen) keys

/-- `optional_query` -/
def optionalQuery (pairs : List (String × String)) (key : String) : Option String :=
  (pairs.find? fun pair => pair.1 = key).map Prod.snd

/-- `char::is_control` -/
def isControl (c : Char) : Bool := c.toNat ≤ 0x1F || (0x7F ≤ c.toNat && c.toNat ≤ 0x9F)

/-- `validate_profile_query_value` -/
def validateProfileQueryValue (key value : String) : Except String Unit :=
  failIf (value.toList.any isControl)
    ("profile URI field " ++ key ++ " must not contain control characters")

/-- `required_profile_query` -/
def requiredProfileQuery (pairs : List (String × String)) (key : String) :
    Except String String := do
  let some value := (optionalQuery pairs key).filter (· ≠ "")
    | throw ("missing required query field: " ++ key)
  validateProfileQueryValue key value
  return value

/-- `optional_profile_query` -/
def optionalProfileQuery (pairs : List (String × String)) (key : String) :
    Except String (Option String) :=
  match optionalQuery pairs key with
  | none => .ok none
  | some value => do
    validateProfileQueryValue key value
    return some value

/-- `parse_bool_query`, with `false` for a missing field. -/
def parseBoolQuery (pairs : List (String × String)) (key : String) : Except String Bool :=
  match optionalQuery pairs key with
  | none => .ok false
  | some value =>
    if value = "true" then .ok true
    else if value = "false" then .ok false
    else .error (key ++ " must be true or false")

/-- `parse_mode` -/
def parseMode (value : String) : Except String Mode :=
  if value = "auto" then .ok .auto
  else if value = "stable" then .ok .stable
  else if value = "private" then .ok .private_
  else .error "mode must be auto, stable, or private"

/-- `mode_name` -/
def modeName : Mode → String
  | .auto => "auto"
  | .stable => "stable"
  | .private_ => "private"

variable (P : Parsers)

/-- The check of `SecretString::new`. -/
def checkSecret (value : String) : Except String Unit :=
  (validateSecret P value).mapError fun _ => "invalid high-entropy secret"

/-- `validate_profile_cert_pin` -/
def validateProfileCertPin (pin : String) : Except String Unit :=
  if "sha256/".toList <+: pin.toList then
    match P.base64 (String.ofList (pin.toList.drop 7)) with
    | none => .error "cert_pin is not valid base64url"
    | some decoded => failIf (decoded.length ≠ 32) "cert_pin SHA-256 value must be 32 bytes"
  else .error "cert_pin must use sha256/<base64url-no-pad>"

/-- A check of a value that may be missing. -/
def checkSome {α : Type} (check : α → Except String Unit) : Option α → Except String Unit
  | none => .ok ()
  | some a => check a

/-- The fields of a profile, from the pairs of the query. -/
def fieldsOf (pairs : List (String × String)) : Except String ProfileUri := do
  validateProfileUriV1Keys [] (pairs.map Prod.fst)
  let server ← requiredProfileQuery pairs "server"
  let serverName ← requiredProfileQuery pairs "name"
  let tunnelPath ← requiredProfileQuery pairs "path"
  failIf (startsWith '/' tunnelPath = false) "profile path must start with '/'"
  let modeText ← requiredProfileQuery pairs "mode"
  let mode ← parseMode modeText
  let experimentalH3 ← parseBoolQuery pairs "experimental_h3"
  failIf experimentalH3
    "configuration error: advanced.experimental_h3=true is retired for config version 1"
  let credentialId ← optionalProfileQuery pairs "credential_id"
  failIf (credentialId = some "") "credential_id must not be empty"
  let secret ← optionalProfileQuery pairs "secret"
  checkSome (checkSecret P) secret
  let certPin ← optionalProfileQuery pairs "cert_pin"
  checkSome (validateProfileCertPin P) certPin
  let experimentalEch ← parseBoolQuery pairs "experimental_ech"
  let experimentalTun ← parseBoolQuery pairs "experimental_tun"
  failIf experimentalEch "experimental_ech is not supported by this binary"
  return ⟨server, serverName, tunnelPath, mode, credentialId, secret, certPin, experimentalH3,
    experimentalEch, experimentalTun⟩

variable (crate : UrlCrate)

/-- `ProfileUri::parse` -/
def ProfileUri.parse (input : String) : Except String ProfileUri := do
  let input ← normalizeProfileUriPayload input
  validateProfileUriInput (utf8 input)
  let some url := crate.parse input | throw "parse profile URI"
  failIf (url.scheme ≠ "maverick") "URI scheme must be maverick"
  failIf (¬(url.hostStr = some "profile" ∧ url.path = "/v1"))
    "unsupported Maverick profile URI version"
  validateProfileUriV1Envelope url
  fieldsOf P (crate.queryPairs url)

/-- One `append_pair`, if there is a value. -/
def pairOf (key : String) (value : Option String) : List (String × String) :=
  (value.map fun value => (key, value)).toList

/-- The pairs that `to_uri` appends. -/
def ProfileUri.pairs (p : ProfileUri) : List (String × String) :=
  pairOf "server" (some p.server) ++ (pairOf "name" (some p.serverName) ++
    (pairOf "path" (some p.tunnelPath) ++ (pairOf "mode" (some (modeName p.mode)) ++
    (pairOf "credential_id" p.credentialId ++ (pairOf "secret" p.secret ++
    (pairOf "cert_pin" p.certPin ++
    (pairOf "experimental_h3" (if p.experimentalH3 then some "true" else none) ++
    (pairOf "experimental_ech" (if p.experimentalEch then some "true" else none) ++
    pairOf "experimental_tun" (if p.experimentalTun then some "true" else none)))))))))

/-- The query that `to_uri` writes. -/
def ProfileUri.query (p : ProfileUri) : Bytes :=
  FormUrlencoded.serialize (p.pairs.map fun pair => (utf8 pair.1, utf8 pair.2))

/-- `ProfileUri::to_uri` -/
def ProfileUri.toUri (p : ProfileUri) : String :=
  asciiText (utf8 "maverick://profile/v1?" ++ p.query)

variable {P crate}

/-! ## The fields -/

/-- No control character. -/
def Clean (value : String) : Prop := value.toList.any isControl = false

variable {key value : String} {u : Unit} {p : ProfileUri} {keys : List String} {b : UInt8}

theorem validateProfileQueryValue_eq_ok :
    validateProfileQueryValue key value = .ok u ↔ Clean value := by
  rw [validateProfileQueryValue, failIf_eq_ok, Bool.not_eq_true, Clean]

theorem requiredProfileQuery_eq_ok {pairs : List (String × String)} :
    requiredProfileQuery pairs key = .ok value ↔
      optionalQuery pairs key = some value ∧ value ≠ "" ∧ Clean value := by
  rw [requiredProfileQuery]
  cases hfound : optionalQuery pairs key with
  | none => simp
  | some found =>
    by_cases hempty : found = ""
    · have hfilter : (some found).filter (· ≠ "") = none := by simp [Option.filter, hempty]
      simp only [hfilter, Option.some.injEq]
      constructor
      · intro h
        cases h
      · rintro ⟨rfl, hvalue, -⟩
        exact absurd hempty hvalue
    · have hfilter : (some found).filter (· ≠ "") = some found := by simp [Option.filter, hempty]
      simp only [hfilter]
      constructor
      · intro h
        obtain ⟨hclean, h⟩ := seq_eq_ok.mp h
        cases h
        exact ⟨rfl, hempty, validateProfileQueryValue_eq_ok.mp hclean⟩
      · rintro ⟨h, -, hclean⟩
        cases h
        exact seq_eq_ok.mpr ⟨validateProfileQueryValue_eq_ok.mpr hclean, rfl⟩

theorem optionalProfileQuery_eq_ok {pairs : List (String × String)} {value : Option String} :
    optionalProfileQuery pairs key = .ok value ↔
      optionalQuery pairs key = value ∧ ∀ v ∈ value, Clean v := by
  rw [optionalProfileQuery]
  cases hfound : optionalQuery pairs key with
  | none =>
    constructor
    · intro h
      cases h
      exact ⟨rfl, fun v hv => by cases hv⟩
    · rintro ⟨rfl, -⟩
      rfl
  | some found =>
    constructor
    · intro h
      obtain ⟨hclean, h⟩ := seq_eq_ok.mp h
      cases h
      refine ⟨rfl, fun v hv => ?_⟩
      cases hv
      exact validateProfileQueryValue_eq_ok.mp hclean
    · rintro ⟨rfl, hclean⟩
      exact seq_eq_ok.mpr ⟨validateProfileQueryValue_eq_ok.mpr (hclean found rfl), rfl⟩

theorem checkSome_eq_ok {α : Type} {check : α → Except String Unit} {value : Option α} :
    checkSome check value = .ok u ↔ ∀ v ∈ value, check v = .ok () := by
  cases value <;> simp [checkSome]

/-- **The profiles that are accepted.** -/
structure Sound (P : Parsers) (p : ProfileUri) : Prop where
  server : p.server ≠ "" ∧ Clean p.server
  serverName : p.serverName ≠ "" ∧ Clean p.serverName
  tunnelPath : p.tunnelPath ≠ "" ∧ Clean p.tunnelPath
  absolute : startsWith '/' p.tunnelPath = true
  credentialId : p.credentialId ≠ some "" ∧ ∀ v ∈ p.credentialId, Clean v
  secret : (∀ v ∈ p.secret, Clean v) ∧ ∀ v ∈ p.secret, checkSecret P v = .ok ()
  certPin : (∀ v ∈ p.certPin, Clean v) ∧ ∀ v ∈ p.certPin, validateProfileCertPin P v = .ok ()
  experimentalH3 : p.experimentalH3 = false
  experimentalEch : p.experimentalEch = false

theorem sound_of_fieldsOf {pairs : List (String × String)} (h : fieldsOf P pairs = .ok p) :
    Sound P p := by
  obtain ⟨-, h⟩ := seq_eq_ok.mp h
  obtain ⟨server, hserver, h⟩ := bind_eq_ok.mp h
  obtain ⟨serverName, hname, h⟩ := bind_eq_ok.mp h
  obtain ⟨tunnelPath, hpath, h⟩ := bind_eq_ok.mp h
  obtain ⟨habsolute, h⟩ := seq_eq_ok.mp h
  obtain ⟨modeText, -, h⟩ := bind_eq_ok.mp h
  obtain ⟨mode, -, h⟩ := bind_eq_ok.mp h
  obtain ⟨h3, -, h⟩ := bind_eq_ok.mp h
  obtain ⟨hh3, h⟩ := seq_eq_ok.mp h
  obtain ⟨credentialId, hcredential, h⟩ := bind_eq_ok.mp h
  obtain ⟨hnonempty, h⟩ := seq_eq_ok.mp h
  obtain ⟨secret, hsecret, h⟩ := bind_eq_ok.mp h
  obtain ⟨hsecretOk, h⟩ := seq_eq_ok.mp h
  obtain ⟨certPin, hpin, h⟩ := bind_eq_ok.mp h
  obtain ⟨hpinOk, h⟩ := seq_eq_ok.mp h
  obtain ⟨ech, -, h⟩ := bind_eq_ok.mp h
  obtain ⟨tun, -, h⟩ := bind_eq_ok.mp h
  obtain ⟨hech, h⟩ := seq_eq_ok.mp h
  cases h
  exact {
    server := (requiredProfileQuery_eq_ok.mp hserver).2
    serverName := (requiredProfileQuery_eq_ok.mp hname).2
    tunnelPath := (requiredProfileQuery_eq_ok.mp hpath).2
    absolute := by simpa using failIf_eq_ok.mp habsolute
    credentialId := ⟨failIf_eq_ok.mp hnonempty, (optionalProfileQuery_eq_ok.mp hcredential).2⟩
    secret := ⟨(optionalProfileQuery_eq_ok.mp hsecret).2, checkSome_eq_ok.mp hsecretOk⟩
    certPin := ⟨(optionalProfileQuery_eq_ok.mp hpin).2, checkSome_eq_ok.mp hpinOk⟩
    experimentalH3 := by simpa using failIf_eq_ok.mp hh3
    experimentalEch := by simpa using failIf_eq_ok.mp hech }

@[simp] theorem optionalQuery_append (l l' : List (String × String)) (key : String) :
    optionalQuery (l ++ l') key = (optionalQuery l key).or (optionalQuery l' key) := by
  rw [optionalQuery, List.find?_append]
  cases hfound : l.find? fun pair => pair.1 = key with
  | none => simp [optionalQuery, hfound]
  | some pair => simp [optionalQuery, hfound]

@[simp] theorem optionalQuery_pairOf (key : String) (value : Option String) (key' : String) :
    optionalQuery (pairOf key value) key' = if key = key' then value else none := by
  cases value with
  | none => simp [pairOf, optionalQuery]
  | some value => by_cases h : key = key' <;> simp [pairOf, optionalQuery, h]

/-- Known keys, none of them twice. -/
theorem validateProfileUriV1Keys_ok {seen : List String} (hknown : keys ⊆ PROFILE_URI_KEYS)
    (hnodup : keys.Nodup) (hfresh : ∀ key ∈ keys, key ∉ seen) :
    validateProfileUriV1Keys seen keys = .ok () := by
  induction keys generalizing seen with
  | nil => rfl
  | cons key keys ih =>
    obtain ⟨hkey, hrest⟩ := List.nodup_cons.mp hnodup
    refine seq_eq_ok.mpr ⟨failIf_eq_ok.mpr ?_, seq_eq_ok.mpr ⟨failIf_eq_ok.mpr ?_, ?_⟩⟩
    · exact not_not.mpr (hknown List.mem_cons_self)
    · exact hfresh key List.mem_cons_self
    · refine ih (fun k hk => hknown (List.mem_cons_of_mem _ hk)) hrest fun k hk hmem => ?_
      rcases List.mem_cons.mp hmem with rfl | hseen
      · exact hkey hk
      · exact hfresh k (List.mem_cons_of_mem _ hk) hseen

theorem keys_pairOf_append {value : Option String} {l : List (String × String)}
    (h : (l.map Prod.fst).Sublist keys) :
    ((pairOf key value ++ l).map Prod.fst).Sublist (key :: keys) := by
  cases value with
  | none => exact h.cons key
  | some value => exact h.cons_cons key

/-- The keys of a profile are the known ones, in their order. -/
theorem keys_pairs (p : ProfileUri) : (p.pairs.map Prod.fst).Sublist PROFILE_URI_KEYS := by
  rw [ProfileUri.pairs, PROFILE_URI_KEYS]
  refine keys_pairOf_append (keys_pairOf_append (keys_pairOf_append (keys_pairOf_append
    (keys_pairOf_append (keys_pairOf_append (keys_pairOf_append (keys_pairOf_append
      (keys_pairOf_append ?_))))))))
  rw [← List.append_nil (pairOf "experimental_tun" _)]
  exact keys_pairOf_append (List.nil_sublist [])

theorem parseBoolQuery_pairs {pairs : List (String × String)} {b : Bool}
    (h : optionalQuery pairs key = if b then some "true" else none) :
    parseBoolQuery pairs key = .ok b := by
  cases b with
  | false => rw [parseBoolQuery, h]; rfl
  | true => rw [parseBoolQuery, h]; rfl

theorem parseMode_modeName (mode : Mode) : parseMode (modeName mode) = .ok mode := by
  cases mode <;> rfl

theorem modeName_sound (mode : Mode) : modeName mode ≠ "" ∧ Clean (modeName mode) := by
  cases mode <;> exact ⟨by decide, by unfold Clean; decide⟩

/-- **An accepted profile is read back from its own pairs.** -/
theorem fieldsOf_pairs (h : Sound P p) : fieldsOf P p.pairs = .ok p := by
  have hkeys := keys_pairs p
  have hnodup : PROFILE_URI_KEYS.Nodup := by decide
  have hrequired : ∀ key value, optionalQuery p.pairs key = some value → value ≠ "" ∧ Clean value →
      requiredProfileQuery p.pairs key = .ok value :=
    fun _ _ hfound hvalue => requiredProfileQuery_eq_ok.mpr ⟨hfound, hvalue⟩
  have hoptional : ∀ key value, optionalQuery p.pairs key = value → (∀ v ∈ value, Clean v) →
      optionalProfileQuery p.pairs key = .ok value :=
    fun _ _ hfound hvalue => optionalProfileQuery_eq_ok.mpr ⟨hfound, hvalue⟩
  refine seq_eq_ok.mpr ⟨validateProfileUriV1Keys_ok hkeys.subset (hkeys.nodup hnodup)
    fun _ _ => List.not_mem_nil, ?_⟩
  refine bind_eq_ok.mpr ⟨_, hrequired _ p.server (by simp [ProfileUri.pairs]) h.server, ?_⟩
  refine bind_eq_ok.mpr ⟨_, hrequired _ p.serverName (by simp [ProfileUri.pairs]) h.serverName, ?_⟩
  refine bind_eq_ok.mpr ⟨_, hrequired _ p.tunnelPath (by simp [ProfileUri.pairs]) h.tunnelPath, ?_⟩
  refine seq_eq_ok.mpr ⟨failIf_eq_ok.mpr (by simp [h.absolute]), ?_⟩
  refine bind_eq_ok.mpr
    ⟨_, hrequired _ (modeName p.mode) (by simp [ProfileUri.pairs]) (modeName_sound p.mode), ?_⟩
  refine bind_eq_ok.mpr ⟨_, parseMode_modeName p.mode, ?_⟩
  refine bind_eq_ok.mpr
    ⟨_, parseBoolQuery_pairs (b := p.experimentalH3) (by simp [ProfileUri.pairs]), ?_⟩
  refine seq_eq_ok.mpr ⟨failIf_eq_ok.mpr (by simp [h.experimentalH3]), ?_⟩
  refine bind_eq_ok.mpr
    ⟨_, hoptional _ p.credentialId (by simp [ProfileUri.pairs]) h.credentialId.2, ?_⟩
  refine seq_eq_ok.mpr ⟨failIf_eq_ok.mpr h.credentialId.1, ?_⟩
  refine bind_eq_ok.mpr ⟨_, hoptional _ p.secret (by simp [ProfileUri.pairs]) h.secret.1, ?_⟩
  refine seq_eq_ok.mpr ⟨checkSome_eq_ok.mpr h.secret.2, ?_⟩
  refine bind_eq_ok.mpr ⟨_, hoptional _ p.certPin (by simp [ProfileUri.pairs]) h.certPin.1, ?_⟩
  refine seq_eq_ok.mpr ⟨checkSome_eq_ok.mpr h.certPin.2, ?_⟩
  refine bind_eq_ok.mpr
    ⟨_, parseBoolQuery_pairs (b := p.experimentalEch) (by simp [ProfileUri.pairs]), ?_⟩
  refine bind_eq_ok.mpr
    ⟨_, parseBoolQuery_pairs (b := p.experimentalTun) (by simp [ProfileUri.pairs]), ?_⟩
  exact seq_eq_ok.mpr ⟨failIf_eq_ok.mpr (by simp [h.experimentalEch]), rfl⟩

/-! ## The URI -/

/-- The bytes of a query are visible, and none starts a fragment. -/
theorem isFormByte_visible (h : FormUrlencoded.isFormByte b = true) :
    (32 < b ∧ b < 127) ∧ b ≠ 35 := by
  induction b using forall_byte with
  | number n =>
    revert n
    decide +kernel

theorem isWhitespace_visible (h : 32 < b ∧ b < 127) :
    isWhitespace (Char.ofNat b.toNat) = false := by
  induction b using forall_byte with
  | number n =>
    revert n
    decide +kernel

theorem uri_visible (p : ProfileUri) :
    ∀ b ∈ utf8 "maverick://profile/v1?" ++ p.query, 32 < b ∧ b < 127 := by
  intro b hb
  rcases List.mem_append.mp hb with hb | hb
  · have hall : (utf8 "maverick://profile/v1?").all fun b => 32 < b ∧ b < 127 := by decide
    exact of_decide_eq_true (List.all_eq_true.mp hall b hb)
  · exact (isFormByte_visible (FormUrlencoded.isFormByte_serialize b hb)).1

theorem utf8_toUri (p : ProfileUri) :
    utf8 p.toUri = utf8 "maverick://profile/v1?" ++ p.query :=
  utf8_asciiText fun b hb => UInt8.lt_trans (uri_visible p b hb).2 (by decide)

/-- A text without blanks is its own payload. -/
theorem normalizeProfileUriPayload_ok {text : List Char} (hne : text ≠ [])
    (h : ∀ c ∈ text, isWhitespace c = false) :
    normalizeProfileUriPayload (String.ofList text) = .ok (String.ofList text) := by
  have hline : text.splitOn '\n' = [text] := by
    have hfeed : '\n' ∉ text := fun hmem => absurd (h _ hmem) (by decide)
    simpa using @List.splitOn_intercalate Char [text] _ _ '\n' (by simpa using hfeed) (by simp)
  have htrim : trim text = text := by
    have hfront : text.dropWhile isWhitespace = text :=
      List.dropWhile_eq_self_iff.mpr fun hl => by simp [h _ (List.getElem_mem hl)]
    rw [trim, hfront]
    exact List.rdropWhile_eq_self_iff.mpr fun hl => by simp [h _ (List.getLast_mem hl)]
  rw [normalizeProfileUriPayload, String.toList_ofList, hline, List.map_singleton, htrim]
  simp [hne]

theorem normalizeProfileUriPayload_toUri (p : ProfileUri) :
    normalizeProfileUriPayload p.toUri = .ok p.toUri := by
  have hne : utf8 "maverick://profile/v1?" ≠ [] := by decide
  refine normalizeProfileUriPayload_ok (by simp [hne]) fun c hc => ?_
  obtain ⟨b, hb, rfl⟩ := List.mem_map.mp hc
  exact isWhitespace_visible (uri_visible p b hb)

/-- **The check takes what the encoder writes.** -/
theorem lossless_encode (s : String) :
    profileUriQueryComponentIsLossless (FormUrlencoded.encode (utf8 s)) = true := by
  simp [profileUriQueryComponentIsLossless, FormUrlencoded.scan_encode]

/-- **What the check takes is decoded without loss.** -/
theorem exists_of_lossless {component : Bytes}
    (h : profileUriQueryComponentIsLossless component = true) :
    ∃ s, fromUtf8 (FormUrlencoded.decode component) = some s := by
  rw [profileUriQueryComponentIsLossless] at h
  split at h
  · next decoded hscan =>
    rw [FormUrlencoded.decode_of_scan hscan]
    exact Option.isSome_iff_exists.mp h
  · cases h

theorem pairs_ne_nil (p : ProfileUri) :
    (p.pairs.map fun pair => (utf8 pair.1, utf8 pair.2)) ≠ [] := by
  simp [ProfileUri.pairs, pairOf]

/-- The checks before decoding take every URI that is written, up to its length. -/
theorem validateProfileUriInput_toUri (h : (utf8 p.toUri).length ≤ PROFILE_URI_MAX_BYTES) :
    validateProfileUriInput (utf8 p.toUri) = .ok () := by
  have hauthority : profileUriAuthorityHasUserinfoOrPortSyntax (utf8 p.toUri) = false := by
    rw [utf8_toUri]
    rfl
  have hquery : (utf8 p.toUri).dropWhile (· ≠ 63) = 63 :: p.query := by
    rw [utf8_toUri]
    rfl
  have hfragment : p.query.takeWhile (· ≠ 35) = p.query := by
    refine List.takeWhile_eq_self_iff.mpr fun b hb => ?_
    simpa using (isFormByte_visible (FormUrlencoded.isFormByte_serialize b hb)).2
  refine seq_eq_ok.mpr ⟨failIf_eq_ok.mpr (Nat.not_lt.mpr h), ?_⟩
  refine seq_eq_ok.mpr ⟨failIf_eq_ok.mpr (by simp [hauthority]), ?_⟩
  rw [hquery]
  dsimp only
  rw [hfragment, ProfileUri.query, FormUrlencoded.splitOn_serialize (pairs_ne_nil p)]
  refine each_eq_ok.mpr fun piece hpiece => ?_
  obtain ⟨pair, hpair, rfl⟩ := List.mem_map.mp hpiece
  obtain ⟨⟨key, value⟩, -, rfl⟩ := List.mem_map.mp hpair
  simp [FormUrlencoded.splitPair_encodePair, lossless_encode]

theorem queryPairs_query (crate : UrlCrate) (p : ProfileUri) {url : Url}
    (h : url.query = some p.query) : crate.queryPairs url = p.pairs := by
  have hlossy : ∀ s, crate.fromUtf8Lossy (utf8 s) = s := fun s =>
    crate.lossy_valid _ s (fromUtf8_utf8 s)
  rw [UrlCrate.queryPairs, h, Option.getD_some, ProfileUri.query,
    FormUrlencoded.parse_serialize (pairs_ne_nil p), List.map_map]
  refine (List.map_congr_left fun pair _ => ?_).trans (List.map_id _)
  simp [hlossy]

theorem sound_of_parse {input : String} (h : ProfileUri.parse P crate input = .ok p) : Sound P p := by
  obtain ⟨payload, -, h⟩ := bind_eq_ok.mp h
  obtain ⟨-, h⟩ := seq_eq_ok.mp h
  cases hurl : crate.parse payload with
  | none => simp [hurl] at h
  | some url =>
    simp only [hurl] at h
    obtain ⟨-, h⟩ := seq_eq_ok.mp h
    obtain ⟨-, h⟩ := seq_eq_ok.mp h
    obtain ⟨-, h⟩ := seq_eq_ok.mp h
    exact sound_of_fieldsOf h

/-- **Profile URIs.**  A profile that was accepted, if its URI is not too long, is accepted
again as it is; the check of components takes the encoding of every text, and what it takes
is decoded to a text without loss. -/
theorem profile_uri_round_trip (P : Parsers) (crate : UrlCrate) :
    (∀ input p, ProfileUri.parse P crate input = .ok p →
      (utf8 p.toUri).length ≤ PROFILE_URI_MAX_BYTES →
        ProfileUri.parse P crate p.toUri = .ok p) ∧
      (∀ s, profileUriQueryComponentIsLossless (FormUrlencoded.encode (utf8 s)) = true) ∧
      ∀ component, profileUriQueryComponentIsLossless component = true →
        ∃ s, fromUtf8 (FormUrlencoded.decode component) = some s ∧
          crate.fromUtf8Lossy (FormUrlencoded.decode component) = s := by
  refine ⟨fun input p hparse hlength => ?_, lossless_encode, fun component h => ?_⟩
  · have hurl := crate.parse_profile p.query FormUrlencoded.isFormByte_serialize
    refine bind_eq_ok.mpr ⟨_, normalizeProfileUriPayload_toUri p, ?_⟩
    refine seq_eq_ok.mpr ⟨validateProfileUriInput_toUri hlength, ?_⟩
    rw [ProfileUri.toUri, hurl]
    refine seq_eq_ok.mpr ⟨rfl, seq_eq_ok.mpr ⟨rfl, seq_eq_ok.mpr ⟨rfl, ?_⟩⟩⟩
    rw [queryPairs_query crate p rfl]
    exact fieldsOf_pairs (sound_of_parse hparse)
  · obtain ⟨s, hs⟩ := exists_of_lossless h
    exact ⟨s, hs, crate.lossy_valid _ s hs⟩

namespace SampleUri

/-- A parser that knows the URIs of profiles only. -/
def parseProfile (input : String) : Option Url :=
  if utf8 "maverick://profile/v1?" <+: utf8 input then
    some ⟨"maverick", some "profile", "/v1", "", none, none, none, some ((utf8 input).drop 22)⟩
  else none

theorem parseProfile_form (query : Bytes)
    (h : ∀ b ∈ query, FormUrlencoded.isFormByte b = true) :
    parseProfile (asciiText (utf8 "maverick://profile/v1?" ++ query)) =
      some ⟨"maverick", some "profile", "/v1", "", none, none, none, some query⟩ := by
  have hascii : ∀ b ∈ utf8 "maverick://profile/v1?" ++ query, b < 128 := by
    intro b hb
    rcases List.mem_append.mp hb with hb | hb
    · have hall : (utf8 "maverick://profile/v1?").all fun b => b < 128 := by decide
      exact of_decide_eq_true (List.all_eq_true.mp hall b hb)
    · exact UInt8.lt_trans (isFormByte_visible (h b hb)).1.2 (by decide)
  rw [parseProfile, utf8_asciiText hascii, if_pos (List.prefix_append _ _)]
  rfl

theorem lossy_valid (bs : Bytes) (s : String) (h : fromUtf8 bs = some s) :
    (fromUtf8 bs).getD "" = s := by
  rw [h]
  rfl

def plainCrate : UrlCrate :=
  ⟨parseProfile, fun bs => (fromUtf8 bs).getD "", parseProfile_form, lossy_valid⟩

def parsers : Parsers := ⟨fun _ => none, fun _ => none⟩

def profile : ProfileUri :=
  ⟨"a:1", "a", "/t", .auto, none, none, none, false, false, true⟩

/-- Another spelling of a profile is accepted, and so is the one that is written for it. -/
theorem profile_uri_round_trip_sample :
    ProfileUri.parse parsers plainCrate
        " maverick://profile/v1?path=/t&server=a:1&mode=auto&name=a&experimental_tun=true\n" =
          .ok profile ∧
      ProfileUri.parse parsers plainCrate profile.toUri = .ok profile := by
  have hparse : ProfileUri.parse parsers plainCrate
      " maverick://profile/v1?path=/t&server=a:1&mode=auto&name=a&experimental_tun=true\n" =
        .ok profile := by decide +kernel
  exact ⟨hparse, (profile_uri_round_trip parsers plainCrate).1 _ _ hparse (by decide +kernel)⟩

end SampleUri

end Cli
end Maverick
