import Maverick.Client.Socks5
import Maverick.Lib.System
import Maverick.Lib.Text

/-!
# The HTTP CONNECT front end

`maverick_client::http_connect`: the head of a CONNECT request is read in portions until
its end is found, then parsed; what was read behind it is the first data of the tunnel.

* `connectReader` — the loop of `read_connect_target`, one read an action.
* `Looked` — what the loop knows of the bytes it holds.
* `connect_reading_chunk_independent` — the portions do not matter.
* `requested_target_survives` — which targets get through to the server.
-/

namespace Maverick
namespace Client

open Lib

/-! ## Addresses in text

The parsers of `core::net`.  Each takes what it reads off the front of the text. -/

/-- The value of a digit in a radix. -/
def digitValue (radix : Nat) (c : Char) : Option Nat :=
  let value :=
    if '0' ≤ c ∧ c ≤ '9' then c.toNat - '0'.toNat
    else if 'a' ≤ c ∧ c ≤ 'z' then c.toNat - 'a'.toNat + 10
    else if 'A' ≤ c ∧ c ≤ 'Z' then c.toNat - 'A'.toNat + 10
    else radix
  if value < radix then some value else none

/-- A number of at most `maxDigits` digits. -/
def readNumber (radix maxDigits limit : Nat) (zeroPrefix : Bool) (text : List Char) :
    Option (Nat × List Char) :=
  let digits := text.takeWhile fun c => (digitValue radix c).isSome
  let number := digits.foldl (fun n c => n * radix + (digitValue radix c).getD 0) 0
  if digits = [] ∨ maxDigits < digits.length then none
  else if zeroPrefix = false ∧ digits.head? = some '0' ∧ 1 < digits.length then none
  else if number < limit then some (number, text.drop digits.length)
  else none

/-- An item behind a separator, or the first item. -/
def readSeparated {α : Type} (separator : Char) (first : Bool)
    (item : List Char → Option (α × List Char)) (text : List Char) : Option (α × List Char) :=
  if first then item text
  else
    match text with
    | c :: rest => if c = separator then item rest else none
    | [] => none

/-- The four octets of an IPv4 address. -/
def readIpv4Addr (text : List Char) : Option (Ipv4Addr × List Char) := do
  let (first, text) ← readSeparated '.' true (readNumber 10 3 256 false) text
  let (second, text) ← readSeparated '.' false (readNumber 10 3 256 false) text
  let (third, text) ← readSeparated '.' false (readNumber 10 3 256 false) text
  let (fourth, text) ← readSeparated '.' false (readNumber 10 3 256 false) text
  return (⟨UInt8.ofNat first, UInt8.ofNat second, UInt8.ofNat third, UInt8.ofNat fourth⟩, text)

/-- `str::parse::<Ipv4Addr>` -/
def parseIpv4Addr (text : List Char) : Option Ipv4Addr :=
  if 15 < (utf8 (String.ofList text)).length then none
  else
    match readIpv4Addr text with
    | some (ip, []) => some ip
    | _ => none

/-- Groups of an IPv6 address, as octets; the last two may be written as an IPv4 address,
which is told by the flag. -/
def readGroups : Nat → Bool → List Char → List Bytes × Bool × List Char
  | 0, _, text => ([], false, text)
  | remaining + 1, first, text =>
    match if 0 < remaining then readSeparated ':' first readIpv4Addr text else none with
    | some (ip, rest) => ([[ip.first, ip.second], [ip.third, ip.fourth]], true, rest)
    | none =>
      match readSeparated ':' first (readNumber 16 4 65536 true) text with
      | none => ([], false, text)
      | some (group, rest) =>
        let (groups, embedded, rest) := readGroups remaining false rest
        (toBe 2 group :: groups, embedded, rest)

/-- An IPv6 address from its groups. -/
def ipv6OfGroups (groups : List Bytes) : Option Ipv6Addr :=
  if h : groups.flatten.length = 16 then some (Ipv6Addr.ofOctets ⟨groups.flatten, h⟩) else none

/-- `str::parse::<Ipv6Addr>` -/
def parseIpv6Addr (text : List Char) : Option Ipv6Addr :=
  let (head, embedded, rest) := readGroups 8 true text
  if head.length = 8 then
    if rest = [] then ipv6OfGroups head else none
  else if embedded then none
  else
    match rest with
    | ':' :: ':' :: rest =>
      let (tail, _, rest) := readGroups (8 - (head.length + 1)) true rest
      if rest = [] then
        ipv6OfGroups (head ++ List.replicate (8 - head.length - tail.length) [0, 0] ++ tail)
      else none
    | _ => none

example : parseIpv4Addr "192.0.2.1".toList = some ⟨192, 0, 2, 1⟩ ∧
    parseIpv4Addr "192.0.02.1".toList = none ∧
    parseIpv6Addr "::ffff:192.0.2.1".toList =
      some #v[0, 0, 0, 0, 0, 0, 0, 0, 0, 0, 0xff, 0xff, 192, 0, 2, 1] ∧
    parseIpv6Addr "1:2:3".toList = none := by decide +kernel

/-! ## The head of a request -/

/-- Go on with a value that is there, or fail with a text. -/
def orFail {α : Type} (text : String) : Option α → Except String α
  | some a => .ok a
  | none => .error text

def parsePort (text : List Char) : Except String UInt16 := do
  let port ← orFail "invalid CONNECT port" (parseUnsigned 65536 text)
  return UInt16.ofNat port

/-- `parse_authority` of an address in brackets. -/
def parseBracketed (rest : List Char) : Except String (TargetAddr × UInt16) := do
  let (host, port) ← orFail "invalid IPv6 CONNECT authority" (splitOnce "]:".toList rest)
  let addr ← orFail "invalid IPv6 address" (parseIpv6Addr host)
  let port ← parsePort port
  return (.ipv6 addr, port)

/-- A host that is no address is a domain. -/
def parseHost (host : List Char) : TargetAddr :=
  match parseIpv4Addr host with
  | some addr => .ipv4 addr
  | none =>
    match parseIpv6Addr host with
    | some addr => .ipv6 addr
    | none => .domain (String.ofList host)

/-- `parse_authority` -/
def parseAuthority (authority : List Char) : Except String (TargetAddr × UInt16) :=
  match authority with
  | '[' :: rest => parseBracketed rest
  | authority => do
    let (host, port) ← orFail "CONNECT authority must include port" (rsplitOnce ':' authority)
    let port ← parsePort port
    return (parseHost host, port)

/-- The request line of a text. -/
def parseRequestLine (line : List Char) : Except String (TargetAddr × UInt16) :=
  match splitWhitespace line with
  | [] => .error "missing method"
  | [_] => .error "missing authority"
  | [_, _] => .error "missing HTTP version"
  | method :: authority :: version :: _ =>
    if method ≠ "CONNECT".toList ∨ ¬ "HTTP/".toList <+: version then
      .error "not an HTTP CONNECT request"
    else parseAuthority authority

/-- What the bytes before the end of the head say. -/
def parseRequestHead (head : Bytes) : Except String (TargetAddr × UInt16) := do
  let text ← orFail "CONNECT headers are not utf-8" (fromUtf8 head)
  let line ← orFail "missing request line" (firstLine text.toList)
  parseRequestLine line

/-- The end of the head. -/
def crlfcrlf : Bytes := [13, 10, 13, 10]

/-- `parse_connect_request_bytes` -/
def parseConnectRequestBytes (data : Bytes) : Except String (TargetAddr × UInt16 × Bytes) := do
  let headerEnd ← orFail "CONNECT header terminator missing" (position crlfcrlf data)
  let (target, port) ← parseRequestHead (data.take headerEnd)
  return (target, port, data.drop (headerEnd + 4))

theorem orFail_eq_ok {α : Type} {text : String} {o : Option α} {a : α} :
    orFail text o = .ok a ↔ o = some a := by
  cases o <;> simp [orFail]

variable {host : String} {port : UInt16} {initial : Bytes} {target : TargetAddr}

theorem parseHost_eq_domain {text : List Char} (h : parseHost text = .domain host) :
    host = String.ofList text := by
  unfold parseHost at h
  split at h
  · cases h
  split at h
  · cases h
  · exact (TargetAddr.domain.inj h).symm

/-- A domain is what the authority has before its last colon. -/
theorem domain_of_parseAuthority {authority : List Char}
    (h : parseAuthority authority = .ok (.domain host, port)) :
    ∃ cs rest, authority = cs ++ ':' :: rest ∧ ':' ∉ rest ∧ host = String.ofList cs := by
  unfold parseAuthority at h
  split at h
  · unfold parseBracketed at h
    obtain ⟨⟨text, port'⟩, -, h⟩ := Check.bind_eq_ok.mp h
    obtain ⟨addr, -, h⟩ := Check.bind_eq_ok.mp h
    obtain ⟨p, -, h⟩ := Check.bind_eq_ok.mp h
    cases h
  · obtain ⟨⟨text, port'⟩, hsplit, h⟩ := Check.bind_eq_ok.mp h
    obtain ⟨p, -, h⟩ := Check.bind_eq_ok.mp h
    obtain ⟨hauthority, hlast⟩ := eq_of_rsplitOnce (orFail_eq_ok.mp hsplit)
    exact ⟨text, port', hauthority, hlast, parseHost_eq_domain (Prod.mk.inj (Except.ok.inj h)).1⟩

/-- An authority with nothing before its only colon is taken for the empty domain. -/
theorem parseAuthority_colon {rest : List Char} (hlast : ':' ∉ rest)
    (h : parseAuthority (':' :: rest) = .ok (target, port)) : target = .domain "" := by
  unfold parseAuthority at h
  split at h
  · next heq => cases heq
  obtain ⟨⟨text, port'⟩, hsplit, h⟩ := Check.bind_eq_ok.mp h
  obtain ⟨p, -, h⟩ := Check.bind_eq_ok.mp h
  obtain ⟨hauthority, -⟩ := eq_of_rsplitOnce (orFail_eq_ok.mp hsplit)
  rw [← (Prod.mk.inj (Except.ok.inj h)).1]
  cases text with
  | nil => decide +kernel
  | cons c text =>
    rw [List.cons_append] at hauthority
    exact absurd (by rw [(List.cons.inj hauthority).2]; simp) hlast

/-- What a parsed head is made of. -/
theorem authority_of_parseRequestHead {head : Bytes}
    (h : parseRequestHead head = .ok (target, port)) :
    ∃ text line method authority words, fromUtf8 head = some text ∧
      firstLine text.toList = some line ∧ splitWhitespace line = method :: authority :: words ∧
      parseAuthority authority = .ok (target, port) := by
  obtain ⟨text, htext, h⟩ := Check.bind_eq_ok.mp h
  obtain ⟨line, hline, h⟩ := Check.bind_eq_ok.mp h
  unfold parseRequestLine at h
  split at h
  · cases h
  · cases h
  · cases h
  next method authority version rest hwords =>
    split at h
    · cases h
    exact ⟨text, line, method, authority, version :: rest, orFail_eq_ok.mp htext,
      orFail_eq_ok.mp hline, hwords, h⟩

/-- **A domain takes no more bytes than the head of its request.** -/
theorem length_domain_le {head : Bytes} (h : parseRequestHead head = .ok (.domain host, port)) :
    (utf8 host).length ≤ head.length := by
  obtain ⟨text, line, method, authority, words, htext, hline, hwords, h⟩ :=
    authority_of_parseRequestHead h
  obtain ⟨cs, rest, rfl, -, rfl⟩ := domain_of_parseAuthority h
  have hword : cs ++ ':' :: rest ∈ splitWhitespace line := by rw [hwords]; simp
  rw [← utf8_of_fromUtf8 htext]
  exact length_utf8_ofList_le (((List.sublist_append_left _ _).trans
    (sublist_of_mem_splitWhitespace hword)).trans (sublist_of_firstLine hline))

/-- The request at the front of these bytes names no host: the second word of its first line
has a colon at the front and no other. -/
def HostMissing (data : Bytes) : Prop :=
  ∃ head tail text line method rest words, FirstSplit crlfcrlf data head tail ∧
    fromUtf8 head = some text ∧ firstLine text.toList = some line ∧
    splitWhitespace line = method :: (':' :: rest) :: words ∧ ':' ∉ rest

/-- What a parsed request is made of. -/
theorem parseConnectRequestBytes_eq_ok {data : Bytes} :
    parseConnectRequestBytes data = .ok (target, port, initial) ↔
      ∃ head, FirstSplit crlfcrlf data head initial ∧ parseRequestHead head = .ok (target, port) := by
  unfold parseConnectRequestBytes
  constructor
  · intro h
    obtain ⟨i, hi, h⟩ := Check.bind_eq_ok.mp h
    obtain ⟨⟨target', port'⟩, hparse, h⟩ := Check.bind_eq_ok.mp h
    cases h
    exact ⟨_, (firstSplit_of_position (orFail_eq_ok.mp hi)).1, hparse⟩
  · rintro ⟨head, hsplit, hparse⟩
    have hposition := position_eq_of_firstSplit (by decide) hsplit
    obtain ⟨hfound, -⟩ := firstSplit_of_position hposition
    obtain ⟨hhead, hinitial⟩ := hfound.unique hsplit
    have hlen : crlfcrlf.length = 4 := rfl
    rw [hlen] at hinitial
    rw [hposition, orFail, Check.bind_eq_ok]
    refine ⟨_, rfl, ?_⟩
    rw [hhead, hparse, hinitial]
    rfl

/-- **A request without a host is one for the empty domain.** -/
theorem hostMissing_iff {data : Bytes}
    (h : parseConnectRequestBytes data = .ok (target, port, initial)) :
    HostMissing data ↔ target = .domain "" := by
  obtain ⟨head, hsplit, hparse⟩ := parseConnectRequestBytes_eq_ok.mp h
  obtain ⟨text, line, method, authority, words, htext, hline, hwords, hauthority⟩ :=
    authority_of_parseRequestHead hparse
  constructor
  · rintro ⟨head', tail, text', line', method', rest, words', hsplit', htext', hline', hwords', hlast⟩
    obtain ⟨rfl, -⟩ := hsplit.unique hsplit'
    cases htext.symm.trans htext'
    cases hline.symm.trans hline'
    cases hwords.symm.trans hwords'
    exact parseAuthority_colon hlast hauthority
  · rintro rfl
    obtain ⟨cs, rest, rfl, hlast, hcs⟩ := domain_of_parseAuthority hauthority
    obtain rfl : cs = [] := by simpa using congrArg String.toList hcs.symm
    exact ⟨head, initial, text, line, method, rest, words, hsplit, htext, hline, hwords, hlast⟩

/-! ## Reading the head -/

def MAX_CONNECT_HEADER_BYTES : Nat := 8192

inductive ConnectError where
  /-- `client disconnected before CONNECT headers` -/
  | disconnected
  /-- `CONNECT headers too large` -/
  | headersTooLarge
  /-- an error of the parser -/
  | malformed (text : String)
  /-- a failed read -/
  | io (text : String)
  deriving DecidableEq

/-- `read_connect_target`: the bytes it holds, and what it has returned. -/
structure ConnectReader where
  data : Bytes
  result : Option (Except ConnectError (TargetAddr × UInt16 × Bytes))
  deriving DecidableEq

inductive ConnectRead where
  /-- a read into a buffer of 1024 bytes, of nothing at the end of the stream -/
  | read (chunk : Bytes)
  | failed (text : String)

namespace ConnectReader

def start : ConnectReader := ⟨[], none⟩

/-- An iteration of the loop, behind the read. -/
def onRead (s : ConnectReader) (chunk : Bytes) : ConnectReader :=
  if chunk = [] then
    { s with result := some (.error .disconnected) }
  else
    let data := s.data ++ chunk
    if (position crlfcrlf data).isSome = true then
      ⟨data, some ((parseConnectRequestBytes data).mapError .malformed)⟩
    else if MAX_CONNECT_HEADER_BYTES < data.length then ⟨data, some (.error .headersTooLarge)⟩
    else ⟨data, none⟩

def next (s : ConnectReader) (a : ConnectRead) : Option ConnectReader :=
  if s.result.isSome then none
  else
    match a with
    | .read chunk => if chunk.length ≤ 1024 then some (s.onRead chunk) else none
    | .failed text => some { s with result := some (.error (.io text)) }

end ConnectReader

def connectReader : System ConnectReader ConnectRead where
  start := .start
  next := ConnectReader.next

/-- What the loop knows of the bytes it holds. -/
structure Looked (s : ConnectReader) : Prop where
  /-- As long as it reads on, there is no end of the head in them. -/
  unfinished : s.result = none →
    position crlfcrlf s.data = none ∧ s.data.length ≤ MAX_CONNECT_HEADER_BYTES
  bounded : s.data.length ≤ MAX_CONNECT_HEADER_BYTES + 1024
  /-- A request is too large when its head is longer than the limit. -/
  tooLarge : s.result = some (.error .headersTooLarge) →
    position crlfcrlf s.data = none ∧ MAX_CONNECT_HEADER_BYTES < s.data.length
  parsed : ∀ r, s.result = some (.ok r) → parseConnectRequestBytes s.data = .ok r

theorem Looked.start : Looked .start where
  unfinished _ := ⟨rfl, Nat.zero_le _⟩
  bounded := Nat.zero_le _
  tooLarge := nofun
  parsed := nofun

variable {s s' : ConnectReader}

/-- One read keeps this. -/
theorem Looked.onRead {chunk : Bytes} (h : Looked s) (hopen : s.result = none)
    (hchunk : chunk.length ≤ 1024) : Looked (s.onRead chunk) := by
  have hheld := (h.unfinished hopen).2
  have hlen : (s.data ++ chunk).length ≤ MAX_CONNECT_HEADER_BYTES + 1024 := by
    rw [List.length_append]
    omega
  unfold ConnectReader.onRead
  split
  · exact ⟨by simp, h.bounded, by simp, by simp⟩
  dsimp only
  split
  · refine ⟨by simp, hlen, ?_, ?_⟩
    all_goals cases hparse : parseConnectRequestBytes (s.data ++ chunk)
    · simp [Except.mapError]
    · simp [Except.mapError]
    · simp [Except.mapError]
    intro r hr
    cases hr
    rfl
  · next hmissing =>
      have hnone : position crlfcrlf (s.data ++ chunk) = none :=
        Option.not_isSome_iff_eq_none.mp hmissing
      split
      · next hlarge => exact ⟨by simp, hlen, fun _ => ⟨hnone, hlarge⟩, by simp⟩
      · next hsmall => exact ⟨fun _ => ⟨hnone, not_lt.mp hsmall⟩, hlen, by simp, by simp⟩

theorem Looked.next {a : ConnectRead} (h : Looked s) (hnext : s.next a = some s') : Looked s' := by
  unfold ConnectReader.next at hnext
  split at hnext
  · cases hnext
  next hopen =>
    have hnone : s.result = none := Option.not_isSome_iff_eq_none.mp hopen
    cases a with
    | read chunk =>
      obtain ⟨hchunk, hnext⟩ := Option.ite_none_right_eq_some.mp hnext
      cases hnext
      exact h.onRead hnone hchunk
    | failed text =>
      cases hnext
      exact ⟨nofun, h.bounded, nofun, nofun⟩

theorem Looked.of_reach (h : connectReader.Reach s) : Looked s :=
  h.invariant (I := Looked) .start fun _ _ _ hlooked _ hnext => hlooked.next hnext

/-- The bytes held are the bytes read. -/
theorem data_of_run {chunks : List Bytes} (h : connectReader.run s (chunks.map .read) = some s') :
    s'.data = s.data ++ chunks.flatten := by
  induction chunks generalizing s with
  | nil =>
    cases h
    simp
  | cons chunk chunks ih =>
    rw [List.map_cons, System.run] at h
    cases hnext : connectReader.next s (.read chunk) with
    | none => rw [hnext] at h; cases h
    | some t =>
      rw [hnext] at h
      have ht : t.data = s.data ++ chunk := by
        simp only [connectReader, ConnectReader.next] at hnext
        split at hnext
        · cases hnext
        obtain ⟨-, hnext⟩ := Option.ite_none_right_eq_some.mp hnext
        cases hnext
        unfold ConnectReader.onRead
        split
        · next hempty => simp [hempty]
        dsimp only
        split
        · rfl
        · split <;> rfl
      rw [ih h, ht, List.flatten_cons, List.append_assoc]

/-- **Reading a CONNECT request does not depend on the portions.**  Whatever the stream and
the reads made of it so far, with the rest unread: at most the limit and one read are held;
a head that ends within the limit is never refused for its size; and a target that is
returned is what the bytes before the first end of the head say, with the data behind it
followed by what is unread being the rest of the stream. -/
theorem connect_reading_chunk_independent (stream unread : Bytes) (chunks : List Bytes)
    (hstream : stream = chunks.flatten ++ unread) {s : ConnectReader}
    (hrun : connectReader.run .start (chunks.map .read) = some s) :
    s.data.length ≤ MAX_CONNECT_HEADER_BYTES + 1024 ∧
    (∀ head tail, FirstSplit crlfcrlf stream head tail →
      head.length + crlfcrlf.length ≤ MAX_CONNECT_HEADER_BYTES →
        s.result ≠ some (.error .headersTooLarge)) ∧
    ∀ target port initial, s.result = some (.ok (target, port, initial)) →
      ∃ head tail, FirstSplit crlfcrlf stream head tail ∧
        parseRequestHead head = .ok (target, port) ∧ initial ++ unread = tail := by
  have hlooked := Looked.of_reach (System.reach_of_run .start hrun)
  have hdata : s.data = chunks.flatten := data_of_run hrun
  refine ⟨hlooked.bounded, ?_, ?_⟩
  · intro head tail hsplit hshort hlarge
    obtain ⟨hmissing, hlong⟩ := hlooked.tooLarge hlarge
    -- the whole head is among the bytes held
    have hhead : head ++ crlfcrlf <+: stream := ⟨tail, by rw [hsplit.eq, List.append_assoc]⟩
    have hread : s.data <+: stream := ⟨unread, by rw [hdata, hstream]⟩
    have hwithin : (head ++ crlfcrlf).length ≤ s.data.length := by
      rw [List.length_append]
      omega
    obtain ⟨rest, hrest⟩ := List.prefix_of_prefix_length_le hhead hread hwithin
    have hfound : (position crlfcrlf (head ++ (crlfcrlf ++ rest))).isSome = true :=
      position_isSome (by decide) head rest
    rw [← List.append_assoc, hrest, hmissing] at hfound
    cases hfound
  · intro target port initial hresult
    obtain ⟨head, hsplit, hparse⟩ :=
      parseConnectRequestBytes_eq_ok.mp (hlooked.parsed _ hresult)
    have hwhole := hsplit.append unread
    rw [hdata, ← hstream] at hwhole
    exact ⟨head, initial ++ unread, hwhole, hparse, rfl⟩

/-! A request in three reads, the end of its head cut in two; one byte of data is read with it. -/

namespace ThreeReads

/-- `CONNECT a:1 HTTP/1.1` -/
def line : Bytes :=
  [67, 79, 78, 78, 69, 67, 84, 32, 97, 58, 49, 32, 72, 84, 84, 80, 47, 49, 46, 49]

def chunks : List Bytes := [line, [13, 10, 13], [10, 7]]

theorem run_chunks : (connectReader.run .start (chunks.map .read)).any (fun s =>
    s.result == some (.ok (.domain "a", 1, [7]))) = true := by
  decide +kernel

end ThreeReads

theorem connect_reading_chunk_independent_threeReads : ∃ s : ConnectReader,
    connectReader.run .start (ThreeReads.chunks.map .read) = some s ∧
    s.result = some (.ok (.domain "a", 1, [7])) ∧
    ∃ head tail, FirstSplit crlfcrlf (ThreeReads.chunks.flatten ++ [8, 9]) head tail ∧
      parseRequestHead head = .ok (.domain "a", 1) ∧ [7] ++ [8, 9] = tail := by
  obtain ⟨s, hrun, hs⟩ := (Option.any_eq_true _ _).mp ThreeReads.run_chunks
  have hresult : s.result = some (.ok (.domain "a", 1, [7])) := beq_iff_eq.mp hs
  exact ⟨s, hrun, hresult,
    (connect_reading_chunk_independent _ [8, 9] ThreeReads.chunks rfl hrun).2.2 _ _ _ hresult⟩

/-! ## From the local request to the server -/

/-- The payload of `open_tcp_on_tunnel` is encoded, fits the smallest frame size that a
configuration may have, and is decoded to the same target and port. -/
def Survives (target : TargetAddr) (port : UInt16) : Prop :=
  ∃ b, (OpenTcpPayload.new target port).encode = .ok b ∧ b.length ≤ DEFAULT_MAX_FRAME_SIZE ∧
    ∃ p, OpenTcpPayload.decode b = .ok p ∧ p.target = target ∧ p.port = port

/-- A target whose domain, if it is one, is not empty and has less than `2 ^ 14` bytes. -/
theorem survives_of_length (port : UInt16)
    (h : ∀ host, target = .domain host → 0 < (utf8 host).length ∧ (utf8 host).length < 2 ^ 14) :
    Survives target port := by
  have htarget : target.WithinLimits 2 := by
    cases target with
    | domain host =>
      obtain ⟨hpos, hlt⟩ := h host rfl
      exact ⟨hpos, lt_trans hlt (by decide)⟩
    | _ => trivial
  have hempty : (OpenTcpPayload.new target port).initialData.length = 0 := rfl
  have hlimits : (OpenTcpPayload.new target port).WithinLimits := ⟨htarget, by rw [hempty]; decide⟩
  refine ⟨_, OpenTcpPayload.encode_eq_ok hlimits, ?_, _,
    OpenTcpPayload.decode_eq_ok.mpr ⟨hlimits, rfl⟩, rfl, rfl⟩
  have hlen := OpenTcpPayload.length_bytes_le (.new target port) (n := 2 ^ 14) (by decide)
    fun host hhost => (h host hhost).2.le
  rw [hempty] at hlen
  exact hlen.trans (by decide)

/-- The domain of a CONNECT request is shorter than its head. -/
theorem length_requested_le (h : connectReader.Reach s)
    (hresult : s.result = some (.ok (.domain host, port, initial))) :
    (utf8 host).length < 2 ^ 14 := by
  have hlooked := Looked.of_reach h
  obtain ⟨head, hsplit, hparse⟩ := parseConnectRequestBytes_eq_ok.mp (hlooked.parsed _ hresult)
  have hhead : head.length ≤ s.data.length := by
    rw [hsplit.eq, List.length_append]
    omega
  calc (utf8 host).length ≤ head.length := length_domain_le hparse
    _ ≤ s.data.length := hhead
    _ ≤ MAX_CONNECT_HEADER_BYTES + 1024 := hlooked.bounded
    _ < 2 ^ 14 := by decide

/-- The empty domain is encoded, and refused at the other end. -/
theorem not_survives_empty (port : UInt16) : ¬ Survives (.domain "") port := by
  rintro ⟨b, -, -, p, hdecode, htarget, -⟩
  obtain ⟨⟨hlimits, -⟩, -⟩ := OpenTcpPayload.decode_eq_ok.mp hdecode
  rw [htarget] at hlimits
  exact absurd hlimits.1 (by decide)

/-- **When a requested target gets through**, encoded within every frame size and decoded to
the same target and port: always if it was requested by SOCKS, and if it was requested by
HTTP, exactly when the request names a host. -/
theorem requested_target_survives (selected : Except SocksFailure Unit) (input : Bytes)
    (chunks : List Bytes) :
    (∀ rest request, (readRequest selected).run input = .ok (request, rest) →
      request.command = .connect → Survives request.target request.port) ∧
    ∀ s target port initial, connectReader.run .start (chunks.map .read) = some s →
      s.result = some (.ok (target, port, initial)) →
        (Survives target port ↔ ¬ HostMissing chunks.flatten) := by
  refine ⟨fun rest request hread _ => ?_, fun s target port initial hrun hresult => ?_⟩
  · obtain ⟨-, hlimits, -⟩ := readRequest_eq_ok.mp hread
    refine survives_of_length _ fun host htarget => ?_
    rw [htarget] at hlimits
    exact ⟨hlimits.1, lt_trans hlimits.2 (by decide)⟩
  · have hreach : connectReader.Reach s := System.reach_of_run .start hrun
    have hdata : s.data = chunks.flatten := data_of_run hrun
    rw [← hdata, hostMissing_iff ((Looked.of_reach hreach).parsed _ hresult)]
    constructor
    · rintro hsurvives rfl
      exact not_survives_empty port hsurvives
    · refine fun hhost => survives_of_length _ fun host htarget => ?_
      subst htarget
      refine ⟨List.length_pos_iff.mpr fun hempty => hhost ?_, length_requested_le hreach hresult⟩
      rw [utf8_inj (t := "") (s := host) (by rw [hempty]; rfl)]

/-- One target by SOCKS, and one by HTTP. -/
theorem requested_target_survives_domain :
    (readRequest (.ok ())).run [5, 1, 0, 5, 1, 0, 3, 1, 98, 0, 2] =
      .ok (⟨.connect, .domain "b", 2⟩, []) ∧ Survives (.domain "b") 2 ∧
    ∃ s : ConnectReader, connectReader.run .start (ThreeReads.chunks.map .read) = some s ∧
      s.result = some (.ok (.domain "a", 1, [7])) ∧ Survives (.domain "a") 1 := by
  obtain ⟨hsocks, hconnect⟩ := requested_target_survives (.ok ())
    [5, 1, 0, 5, 1, 0, 3, 1, 98, 0, 2] ThreeReads.chunks
  obtain ⟨s, hrun, hs⟩ := (Option.any_eq_true _ _).mp ThreeReads.run_chunks
  have hresult : s.result = some (.ok (.domain "a", 1, [7])) := beq_iff_eq.mp hs
  refine ⟨by decide +kernel, hsocks [] ⟨.connect, .domain "b", 2⟩ (by decide +kernel) rfl,
    s, hrun, hresult, (hconnect _ _ _ _ hrun hresult).mpr ?_⟩
  have hparsed := (Looked.of_reach (System.reach_of_run .start hrun)).parsed _ hresult
  have hdata : s.data = ThreeReads.chunks.flatten := data_of_run hrun
  rw [← hdata, hostMissing_iff hparsed]
  decide

namespace NoHost

/-- `CONNECT :443 HTTP/1.1` and the end of the head. -/
def request : Bytes :=
  [67, 79, 78, 78, 69, 67, 84, 32, 58, 52, 52, 51, 32, 72, 84, 84, 80, 47, 49, 46, 49] ++ crlfcrlf

end NoHost

/-- A request without a host is taken, and the server cannot decode what is sent for it. -/
theorem requested_without_host_lost : ∃ s : ConnectReader, connectReader.Reach s ∧
    s.data = NoHost.request ∧ s.result = some (.ok (.domain "", 443, [])) ∧
    ¬ Survives (.domain "") 443 := by
  obtain ⟨s, hreach, hdata, hresult⟩ := connectReader.exists_reach
    (fun s => s.data = NoHost.request ∧ s.result = some (.ok (.domain "", 443, [])))
    [.read NoHost.request] (by decide +kernel)
  exact ⟨s, hreach, hdata, hresult, not_survives_empty 443⟩

end Client
end Maverick
