import QuicRtc.Utils.Base64
import QuicRtc.WsHandshake.Defs

/-!
# Agreement of the WebSocket handshake

The server reads the request of the client and recovers the path, the host, the key and the
protocols; the client accepts the response of the server. Both parsers wait for the end of the
header block.

* `isTextOf_generateKey`, `computeAcceptKey_inj`: what the keys say about nonce and digest.
* `generateHttpRequest_eq`, `generateHttpResponse_eq`: the messages as blocks of lines.
* `parseRequestLines_requestLines`, `parseResponseLines_responseLines`: what the parsers read from
  these lines.
* `handshake_agreement`: the handshake.
-/

namespace Rtc.WsHandshake

open Http

/-! ## Text of a header -/

/-- The text of a header value: it has no CR or LF, so that it stays on its line. -/
def IsLineText (text : List UInt8) : Prop := cr ∉ text ∧ lf ∉ text

/-- A host that the handshake can carry. -/
structure IsHost (host : List UInt8) : Prop where
  ne_nil : host ≠ []
  text : IsLineText host
  head : host.head? ≠ some space
  last : host.getLast? ≠ some space

/-- A path that the handshake can carry. -/
structure IsPath (path : List UInt8) : Prop where
  ne_nil : path ≠ []
  text : ∀ c ∈ path, isSpace c = false

/-- A protocol token. -/
structure IsToken (token : List UInt8) : Prop where
  ne_nil : token ≠ []
  comma : comma ∉ token
  space : space ∉ token
  text : IsLineText token

/-- A base 64 text has no byte of the line structure. -/
theorem base64Encode_text {data : List UInt8} {c : UInt8} (h : c ∈ Utils.base64Encode data) :
    c ≠ lf ∧ c ≠ space := by
  have hall : ∀ c ∈ Utils.tab ++ bytes "=", c ≠ lf ∧ c ≠ space := forall_mem_of_all (by decide)
  exact hall c (Utils.mem_base64Encode h)

theorem lf_not_mem_base64Encode (data : List UInt8) : lf ∉ Utils.base64Encode data :=
  fun h => (base64Encode_text h).1 rfl

theorem head_base64Encode (data : List UInt8) :
    (Utils.base64Encode data).head? ≠ some space :=
  fun h => (base64Encode_text (List.mem_of_mem_head? h)).2 rfl

theorem lf_not_mem_path {path : List UInt8} (h : IsPath path) : lf ∉ path := by
  intro hmem
  have hspace := h.text lf hmem
  simp [isSpace, lf] at hspace

theorem lf_not_mem_implode {protocols : List (List UInt8)}
    (h : ∀ token ∈ protocols, IsToken token) : lf ∉ Utils.implode protocols comma := by
  intro hmem
  rcases Utils.mem_implode hmem with hcomma | ⟨token, htoken, hlf⟩
  · exact absurd hcomma (by decide)
  · exact (h token htoken).text.2 hlf

theorem head_implode {protocols : List (List UInt8)} (h : ∀ token ∈ protocols, IsToken token) :
    (Utils.implode protocols comma).head? ≠ some space := by
  intro hhead
  rcases Utils.mem_implode (List.mem_of_mem_head? hhead) with hcomma | ⟨token, htoken, hspace⟩
  · exact absurd hcomma (by decide)
  · exact (h token htoken).space hspace

/-! ## Keys -/

/-- The key has 24 characters, and the nonce is read back from it. -/
theorem isTextOf_generateKey (random : Vector UInt8 16) :
    Utils.base64EncodeIndexed random.toList = some (generateKey random) ∧
      Utils.IsTextOf (generateKey random) random.toList ∧ (generateKey random).length = 24 := by
  have hlength : random.toList.length = 16 := random.length_toList
  have htext := Utils.isTextOf_base64Encode random.toList
  refine ⟨?_, htext, ?_⟩
  · rw [Utils.base64EncodeIndexed_eq, if_pos (by omega)]
    rfl
  · rw [generateKey, htext.length, hlength]
    rfl

/-- The accept keys are the same only if the digests are. -/
theorem computeAcceptKey_inj {sha1 : List UInt8 → List UInt8} {key key' : List UInt8} :
    computeAcceptKey sha1 key = computeAcceptKey sha1 key' ↔
      sha1 (key ++ bytes "258EAFA5-E914-47DA-95CA-C5AB0DC85B11") =
        sha1 (key' ++ bytes "258EAFA5-E914-47DA-95CA-C5AB0DC85B11") :=
  Utils.base64Encode_injective.eq_iff

/-! ## The messages as lines -/

/-- The line of the header with the protocols. -/
def protocolLines (protocols : List (List UInt8)) : List (List UInt8) :=
  if protocols ≠ [] then
    [bytes "Sec-WebSocket-Protocol" ++ bytes ": " ++ Utils.implode protocols comma]
  else []

/-- The header lines of the request. -/
def requestHeaderLines (s : WsHandshake) : List (List UInt8) :=
  [bytes "Host" ++ bytes ": " ++ s.mHost,
    bytes "Connection: Upgrade",
    bytes "Upgrade: websocket",
    bytes "Sec-WebSocket-Version: 13",
    bytes "Sec-WebSocket-Key" ++ bytes ": " ++ s.mKey] ++ protocolLines s.mProtocols

/-- The lines of the request. -/
def requestLines (s : WsHandshake) : List (List UInt8) :=
  (bytes "GET " ++ s.mPath ++ bytes " HTTP/1.1") :: requestHeaderLines s

/-- The header lines of the response. -/
def responseHeaderLines (sha1 : List UInt8 → List UInt8) (s : WsHandshake) : List (List UInt8) :=
  [bytes "Server: libdatachannel",
    bytes "Connection: Upgrade",
    bytes "Upgrade: websocket",
    bytes "Sec-WebSocket-Accept" ++ bytes ": " ++ computeAcceptKey sha1 s.mKey] ++
      protocolLines s.mProtocols

/-- The lines of the response. -/
def responseLines (sha1 : List UInt8 → List UInt8) (s : WsHandshake) : List (List UInt8) :=
  bytes "HTTP/1.1 101 Switching Protocols" :: responseHeaderLines sha1 s

theorem protocolHeader_eq (protocols : List (List UInt8)) :
    protocolHeader protocols = (protocolLines protocols).flatMap fun line => line ++ crlf := by
  have hname : bytes "Sec-WebSocket-Protocol: " = bytes "Sec-WebSocket-Protocol" ++ bytes ": " := by
    decide
  have hcrlf : bytes "\r\n" = crlf := by decide
  by_cases h : protocols = []
  · simp [protocolHeader, protocolLines, h]
  · simp [protocolHeader, protocolLines, h, hname, hcrlf]

theorem generateHttpRequest_eq (s : WsHandshake) (random : Vector UInt8 16) :
    (s.generateHttpRequest random).1 =
      block (requestLines { s with mKey := generateKey random }) := by
  have hcrlf : bytes "\r\n" = crlf := by decide
  have hrequest : bytes " HTTP/1.1\r\n" = bytes " HTTP/1.1" ++ crlf := by decide
  have hhost : bytes "Host: " = bytes "Host" ++ bytes ": " := by decide
  have hconnection : bytes "Connection: Upgrade\r\n" = bytes "Connection: Upgrade" ++ crlf := by
    decide
  have hupgrade : bytes "Upgrade: websocket\r\n" = bytes "Upgrade: websocket" ++ crlf := by decide
  have hversion : bytes "Sec-WebSocket-Version: 13\r\n" =
      bytes "Sec-WebSocket-Version: 13" ++ crlf := by decide
  have hkey : bytes "Sec-WebSocket-Key: " = bytes "Sec-WebSocket-Key" ++ bytes ": " := by decide
  simp only [generateHttpRequest, protocolHeader_eq, hcrlf, hrequest, hhost, hconnection, hupgrade,
    hversion, hkey]
  simp [block, requestLines, requestHeaderLines]

theorem generateHttpResponse_eq (sha1 : List UInt8 → List UInt8) (s : WsHandshake) :
    s.generateHttpResponse sha1 = block (responseLines sha1 s) := by
  have hcrlf : bytes "\r\n" = crlf := by decide
  have hstatus : bytes "HTTP/1.1 101 Switching Protocols\r\n" =
      bytes "HTTP/1.1 101 Switching Protocols" ++ crlf := by decide
  have hserver : bytes "Server: libdatachannel\r\n" = bytes "Server: libdatachannel" ++ crlf := by
    decide
  have hconnection : bytes "Connection: Upgrade\r\n" = bytes "Connection: Upgrade" ++ crlf := by
    decide
  have hupgrade : bytes "Upgrade: websocket\r\n" = bytes "Upgrade: websocket" ++ crlf := by decide
  have haccept : bytes "Sec-WebSocket-Accept: " = bytes "Sec-WebSocket-Accept" ++ bytes ": " := by
    decide
  simp only [generateHttpResponse, protocolHeader_eq, hcrlf, hstatus, hserver, hconnection,
    hupgrade, haccept]
  simp [block, responseLines, responseHeaderLines]

/-- A line is not empty and has no LF when its name is so and its value has no LF. -/
theorem line_text {name value : List UInt8} (hname : name ≠ [] ∧ lf ∉ name) (hvalue : lf ∉ value) :
    name ++ value ≠ [] ∧ lf ∉ name ++ value := by
  refine ⟨by simp [hname.1], fun hmem => ?_⟩
  rcases List.mem_append.1 hmem with hmem | hmem
  · exact hname.2 hmem
  · exact hvalue hmem

theorem protocolLines_text {protocols : List (List UInt8)}
    (h : ∀ token ∈ protocols, IsToken token) :
    ∀ line ∈ protocolLines protocols, line ≠ [] ∧ lf ∉ line := by
  intro line hline
  by_cases hnil : protocols = []
  · simp [protocolLines, hnil] at hline
  · rw [protocolLines, if_pos hnil] at hline
    obtain rfl := List.mem_singleton.1 hline
    exact line_text (by decide) (lf_not_mem_implode h)

theorem requestLines_text {s : WsHandshake} (hhost : lf ∉ s.mHost) (hpath : IsPath s.mPath)
    (hkey : lf ∉ s.mKey) (hprotocols : ∀ token ∈ s.mProtocols, IsToken token) :
    ∀ line ∈ requestLines s, line ≠ [] ∧ lf ∉ line := by
  have hmethod : bytes "GET " ++ s.mPath ++ bytes " HTTP/1.1" ≠ [] ∧
      lf ∉ bytes "GET " ++ s.mPath ++ bytes " HTTP/1.1" :=
    line_text (line_text (by decide) (lf_not_mem_path hpath)) (by decide)
  intro line hline
  simp only [requestLines, requestHeaderLines, List.cons_append, List.nil_append,
    List.mem_cons] at hline
  rcases hline with rfl | rfl | rfl | rfl | rfl | rfl | hline
  · exact hmethod
  · exact line_text (by decide) hhost
  · decide
  · decide
  · decide
  · exact line_text (by decide) hkey
  · exact protocolLines_text hprotocols line hline

theorem responseLines_text {sha1 : List UInt8 → List UInt8} {s : WsHandshake}
    (hprotocols : ∀ token ∈ s.mProtocols, IsToken token) :
    ∀ line ∈ responseLines sha1 s, line ≠ [] ∧ lf ∉ line := by
  intro line hline
  simp only [responseLines, responseHeaderLines, List.cons_append, List.nil_append,
    List.mem_cons] at hline
  rcases hline with rfl | rfl | rfl | rfl | rfl | hline
  · decide
  · decide
  · decide
  · decide
  · exact line_text (by decide) (lf_not_mem_base64Encode _)
  · exact protocolLines_text hprotocols line hline

/-! ## What the parsers read -/

/-- The headers of the protocols, as they are parsed. -/
def protocolHeaders (protocols : List (List UInt8)) : List (List UInt8 × List UInt8) :=
  if protocols ≠ [] then [(bytes "sec-websocket-protocol", Utils.implode protocols comma)] else []

theorem parseHttpHeaders_protocolLines {protocols : List (List UInt8)}
    (h : ∀ token ∈ protocols, IsToken token) :
    parseHttpHeaders (protocolLines protocols) = protocolHeaders protocols := by
  by_cases hnil : protocols = []
  · simp [protocolLines, protocolHeaders, parseHttpHeaders, hnil]
  · have hheader : parseHeader (bytes "Sec-WebSocket-Protocol" ++ bytes ": " ++
        Utils.implode protocols comma) =
        ((bytes "Sec-WebSocket-Protocol").map toLower, Utils.implode protocols comma) :=
      parseHeader_field (by decide) (head_implode h)
    rw [show (bytes "Sec-WebSocket-Protocol").map toLower = bytes "sec-websocket-protocol" by
      decide] at hheader
    simp only [protocolLines, protocolHeaders, parseHttpHeaders, ne_eq, hnil, not_false_eq_true,
      if_true, List.map_cons, List.map_nil, hheader]

theorem parseHttpHeaders_requestHeaderLines {s : WsHandshake} (hhost : s.mHost.head? ≠ some space)
    (hkey : s.mKey.head? ≠ some space) (hprotocols : ∀ token ∈ s.mProtocols, IsToken token) :
    parseHttpHeaders (requestHeaderLines s) =
      [(bytes "host", s.mHost), (bytes "connection", bytes "Upgrade"),
        (bytes "upgrade", bytes "websocket"), (bytes "sec-websocket-version", bytes "13"),
        (bytes "sec-websocket-key", s.mKey)] ++ protocolHeaders s.mProtocols := by
  have hhost' : parseHeader (bytes "Host" ++ bytes ": " ++ s.mHost) =
      ((bytes "Host").map toLower, s.mHost) := parseHeader_field (by decide) hhost
  have hkey' : parseHeader (bytes "Sec-WebSocket-Key" ++ bytes ": " ++ s.mKey) =
      ((bytes "Sec-WebSocket-Key").map toLower, s.mKey) := parseHeader_field (by decide) hkey
  rw [show (bytes "Host").map toLower = bytes "host" by decide] at hhost'
  rw [show (bytes "Sec-WebSocket-Key").map toLower = bytes "sec-websocket-key" by decide] at hkey'
  have hconnection : parseHeader (bytes "Connection: Upgrade") =
      (bytes "connection", bytes "Upgrade") := by decide
  have hupgrade : parseHeader (bytes "Upgrade: websocket") =
      (bytes "upgrade", bytes "websocket") := by decide
  have hversion : parseHeader (bytes "Sec-WebSocket-Version: 13") =
      (bytes "sec-websocket-version", bytes "13") := by decide
  rw [← parseHttpHeaders_protocolLines hprotocols]
  simp only [requestHeaderLines, parseHttpHeaders, List.map_append, List.map_cons, List.map_nil,
    hhost', hkey', hconnection, hupgrade, hversion]

theorem parseHttpHeaders_responseHeaderLines (sha1 : List UInt8 → List UInt8) {s : WsHandshake}
    (hprotocols : ∀ token ∈ s.mProtocols, IsToken token) :
    parseHttpHeaders (responseHeaderLines sha1 s) =
      [(bytes "server", bytes "libdatachannel"), (bytes "connection", bytes "Upgrade"),
        (bytes "upgrade", bytes "websocket"),
        (bytes "sec-websocket-accept", computeAcceptKey sha1 s.mKey)] ++
          protocolHeaders s.mProtocols := by
  have haccept : parseHeader (bytes "Sec-WebSocket-Accept" ++ bytes ": " ++
      computeAcceptKey sha1 s.mKey) =
      ((bytes "Sec-WebSocket-Accept").map toLower, computeAcceptKey sha1 s.mKey) :=
    parseHeader_field (by decide) (head_base64Encode _)
  rw [show (bytes "Sec-WebSocket-Accept").map toLower = bytes "sec-websocket-accept" by decide]
    at haccept
  have hserver : parseHeader (bytes "Server: libdatachannel") =
      (bytes "server", bytes "libdatachannel") := by decide
  have hconnection : parseHeader (bytes "Connection: Upgrade") =
      (bytes "connection", bytes "Upgrade") := by decide
  have hupgrade : parseHeader (bytes "Upgrade: websocket") =
      (bytes "upgrade", bytes "websocket") := by decide
  rw [← parseHttpHeaders_protocolLines hprotocols]
  simp only [responseHeaderLines, parseHttpHeaders, List.map_append, List.map_cons, List.map_nil,
    haccept, hserver, hconnection, hupgrade]

theorem lookup_protocolHeaders (protocols : List (List UInt8)) :
    (protocolHeaders protocols).lookup (bytes "sec-websocket-protocol") =
      if protocols ≠ [] then some (Utils.implode protocols comma) else none := by
  unfold protocolHeaders
  split_ifs
  · rfl
  · rfl

/-- A fresh server that reads the lines of the request takes over what the client has put there. -/
theorem parseRequestLines_requestLines {s : WsHandshake} (hhost : s.mHost.head? ≠ some space)
    (hpath : IsPath s.mPath) (hkey : s.mKey.head? ≠ some space)
    (hprotocols : ∀ token ∈ s.mProtocols, IsToken token) (length : ℕ) :
    parseRequestLines {} length (requestLines s) = (.ok length, s) := by
  have hget : readWord (bytes "GET " ++ s.mPath ++ bytes " HTTP/1.1") =
      (bytes "GET", space :: (s.mPath ++ bytes " HTTP/1.1")) := by
    have hword : readWord (bytes "GET" ++ space :: (s.mPath ++ bytes " HTTP/1.1")) = _ :=
      readWord_append (by decide) (forall_mem_of_all (by decide)) _
    rwa [show bytes "GET " = bytes "GET" ++ [space] by decide, List.append_assoc,
      List.append_assoc]
  have hpath' : (readWord (space :: (s.mPath ++ bytes " HTTP/1.1"))).1 = s.mPath := by
    rw [readWord_space, show bytes " HTTP/1.1" = space :: bytes "HTTP/1.1" by decide,
      readWord_append hpath.ne_nil hpath.text]
  have hexplode : Utils.explode (Utils.implode s.mProtocols comma) comma = s.mProtocols :=
    Utils.explode_implode fun token hmem =>
      ⟨(hprotocols token hmem).ne_nil, (hprotocols token hmem).comma⟩
  have hheaders := parseHttpHeaders_requestHeaderLines hhost hkey hprotocols
  -- the look-ups in the order in which they are made
  have hlookupHost : (parseHttpHeaders (requestHeaderLines s)).lookup (bytes "host") =
      some s.mHost := by
    rw [hheaders]
    rfl
  have hlookupUpgrade : (parseHttpHeaders (requestHeaderLines s)).lookup (bytes "upgrade") =
      some (bytes "websocket") := by
    rw [hheaders]
    rfl
  have hupgrade : (bytes "websocket").map toLower = bytes "websocket" := by decide
  have hlookupKey : (parseHttpHeaders (requestHeaderLines s)).lookup (bytes "sec-websocket-key") =
      some s.mKey := by
    rw [hheaders]
    rfl
  have hlookupProtocols : (parseHttpHeaders (requestHeaderLines s)).lookup
      (bytes "sec-websocket-protocol") =
      if s.mProtocols ≠ [] then some (Utils.implode s.mProtocols comma) else none := by
    rw [hheaders, ← lookup_protocolHeaders]
    rfl
  rw [requestLines, parseRequestLines]
  simp only [hget, hpath', hlookupHost, hlookupUpgrade, hupgrade, hlookupKey, hlookupProtocols,
    ne_eq, not_true_eq_false, if_false]
  by_cases hnil : s.mProtocols = []
  · obtain ⟨host, path, protocols, key⟩ := s
    obtain rfl : protocols = [] := hnil
    rfl
  · simp [hnil, hexplode]

/-- The client accepts the lines of the response, when the server has its key. -/
theorem parseResponseLines_responseLines {sha1 : List UInt8 → List UInt8} {client s : WsHandshake}
    (hkey : s.mKey = client.mKey) (hprotocols : ∀ token ∈ s.mProtocols, IsToken token)
    (length : ℕ) : parseResponseLines sha1 client length (responseLines sha1 s) = .ok length := by
  have hcode : readUnsigned (readWord (bytes "HTTP/1.1 101 Switching Protocols")).2 = 101 := by
    decide
  have hheaders := parseHttpHeaders_responseHeaderLines sha1 hprotocols
  have hlookupUpgrade : (parseHttpHeaders (responseHeaderLines sha1 s)).lookup (bytes "upgrade") =
      some (bytes "websocket") := by
    rw [hheaders]
    rfl
  have hupgrade : (bytes "websocket").map toLower = bytes "websocket" := by decide
  have hlookupAccept : (parseHttpHeaders (responseHeaderLines sha1 s)).lookup
      (bytes "sec-websocket-accept") = some (computeAcceptKey sha1 client.mKey) := by
    rw [hheaders, ← hkey]
    rfl
  rw [responseLines, parseResponseLines]
  simp only [hcode, hlookupUpgrade, hupgrade, hlookupAccept, ne_eq, not_true_eq_false, if_false]

/-! ## The handshake -/

/-- The response parser waits for the end of any header block. -/
theorem parseHttpResponse_waits {block p : List UInt8} (h : IsBlock block) (hp : p <+: block)
    (hne : p ≠ block) (sha1 : List UInt8 → List UInt8) (s : WsHandshake) :
    s.parseHttpResponse sha1 p = .ok 0 := by
  simp [parseHttpResponse, parseHttpLines_waits h hp hne]

/-- The request parser waits for the end of any header block that looks like a request. -/
theorem parseHttpRequest_waits {block p : List UInt8} (h : IsBlock block)
    (hrequest : isHttpRequest block = true) (hp : p <+: block) (hne : p ≠ block)
    (s : WsHandshake) : s.parseHttpRequest p = (.ok 0, s) := by
  simp [parseHttpRequest, isHttpRequest_of_start hp hrequest, parseHttpLines_waits h hp hne]

/-- The length that is returned is the one of the lines. -/
theorem length_of_parseRequestLines {s s' : WsHandshake} {length n : ℕ}
    {lines : List (List UInt8)} (h : parseRequestLines s length lines = (.ok n, s')) :
    n = length := by
  cases lines with
  | nil => simp [parseRequestLines] at h
  | cons line lines =>
    simp only [parseRequestLines] at h
    -- the errors, and the two ways to succeed
    repeat' split at h
    all_goals cases (Prod.mk.inj h).1
    · rfl
    · rfl

theorem length_of_parseResponseLines {sha1 : List UInt8 → List UInt8} {s : WsHandshake}
    {length n : ℕ} {lines : List (List UInt8)}
    (h : parseResponseLines sha1 s length lines = .ok n) : n = length := by
  cases lines with
  | nil => simp [parseResponseLines] at h
  | cons line lines =>
    simp only [parseResponseLines] at h
    repeat' split at h
    all_goals cases h
    rfl

/-- A request that is accepted as a whole is a header block with a method. -/
theorem isBlock_of_parseHttpRequest {s s' : WsHandshake} {request : List UInt8}
    (hne : request ≠ []) (h : s.parseHttpRequest request = (.ok request.length, s')) :
    isHttpRequest request = true ∧ IsBlock request := by
  have hlength : request.length ≠ 0 := by simpa using hne
  unfold parseHttpRequest at h
  split at h
  · cases (Prod.mk.inj h).1
  · next hmethod =>
    simp only at h
    split at h
    · exact absurd (Except.ok.inj (Prod.mk.inj h).1).symm hlength
    · exact ⟨by simpa using hmethod, hne, (length_of_parseRequestLines h).symm⟩

theorem isBlock_of_parseHttpResponse {sha1 : List UInt8 → List UInt8} {s : WsHandshake}
    {response : List UInt8} (hne : response ≠ [])
    (h : s.parseHttpResponse sha1 response = .ok response.length) : IsBlock response := by
  have hlength : response.length ≠ 0 := by simpa using hne
  simp only [parseHttpResponse] at h
  split at h
  · exact absurd (Except.ok.inj h).symm hlength
  · exact ⟨hne, (length_of_parseResponseLines h).symm⟩

/-- The bytes behind a header block are not looked at. -/
theorem parseHttpRequest_append {request : List UInt8} (hmethod : isHttpRequest request = true)
    (h : IsBlock request) (s : WsHandshake) (rest : List UInt8) :
    s.parseHttpRequest (request ++ rest) = s.parseHttpRequest request := by
  obtain ⟨lines, hread⟩ := isBlock_iff.1 h
  have hlines := parseHttpLines_append hread
  have hmethod' : isHttpRequest (request ++ rest) = true :=
    isHttpRequestFrom_append (lf_mem_of_readLines hread) hmethod rest
  have hnil := hlines []
  rw [List.append_nil] at hnil
  simp only [parseHttpRequest, hmethod, hmethod', hlines rest, hnil]

theorem parseHttpResponse_append {response : List UInt8} (h : IsBlock response)
    (sha1 : List UInt8 → List UInt8) (s : WsHandshake) (rest : List UInt8) :
    s.parseHttpResponse sha1 (response ++ rest) = s.parseHttpResponse sha1 response := by
  obtain ⟨lines, hread⟩ := isBlock_iff.1 h
  have hlines := parseHttpLines_append hread
  have hnil := hlines []
  rw [List.append_nil] at hnil
  simp only [parseHttpResponse, hlines rest, hnil]

/-- A request starts with a method. -/
theorem isHttpRequest_requestLines (s : WsHandshake) (rest : List UInt8) :
    isHttpRequest (block (requestLines s) ++ rest) = true := by
  have hget : bytes "GET " = [71, 69, 84, space] := by decide
  simp [isHttpRequest, isHttpRequestFrom, block, requestLines, hget, space]

theorem length_block_pos (lines : List (List UInt8)) : (block lines).length ≠ 0 := by
  simp [block, crlf]

/-- A fresh server reads the block of the request and ends in the state of the client. -/
theorem parseHttpRequest_requestLines {s : WsHandshake} (hhost : IsHost s.mHost)
    (hpath : IsPath s.mPath) (hkey : lf ∉ s.mKey ∧ s.mKey.head? ≠ some space)
    (hprotocols : ∀ token ∈ s.mProtocols, IsToken token) (rest : List UInt8) :
    parseHttpRequest {} (block (requestLines s) ++ rest) =
      (.ok (block (requestLines s)).length, s) := by
  have hlines : readLines (block (requestLines s)) = some (requestLines s, []) :=
    readLines_block (requestLines_text hhost.text.2 hpath hkey.1 hprotocols)
  rw [parseHttpRequest, isHttpRequest_requestLines, parseHttpLines_append hlines]
  simp only [Bool.not_true, Bool.false_eq_true, if_false, length_block_pos]
  exact parseRequestLines_requestLines hhost.head hpath hkey.2 hprotocols _

/-- The client reads the block of the response of a server that has its key. -/
theorem parseHttpResponse_responseLines {sha1 : List UInt8 → List UInt8} {client s : WsHandshake}
    (hkey : s.mKey = client.mKey) (hprotocols : ∀ token ∈ s.mProtocols, IsToken token)
    (rest : List UInt8) :
    client.parseHttpResponse sha1 (block (responseLines sha1 s) ++ rest) =
      .ok (block (responseLines sha1 s)).length := by
  have hlines : readLines (block (responseLines sha1 s)) = some (responseLines sha1 s, []) :=
    readLines_block (responseLines_text hprotocols)
  rw [parseHttpResponse, parseHttpLines_append hlines]
  simp only [if_false, length_block_pos]
  exact parseResponseLines_responseLines hkey hprotocols _

/-- For every host, path and list of protocols that the handshake can carry, every random key and
whatever follows the two messages: a fresh server consumes exactly the request of the client and
recovers the path, the host, the key and the protocols, and the client consumes exactly the response
of this server. On a strict prefix of a message the parser of it returns `0` and changes nothing,
and this holds for every header block, not only for those that are generated. -/
theorem handshake_agreement (sha1 : List UInt8 → List UInt8) {host path : List UInt8}
    {protocols : List (List UInt8)} (hhost : IsHost host) (hpath : IsPath path)
    (hprotocols : ∀ token ∈ protocols, IsToken token) (random : Vector UInt8 16)
    (rest rest' : List UInt8) :
    (∃ handshake request client server,
      new host path protocols = .ok handshake ∧
        handshake.generateHttpRequest random = (request, client) ∧
        parseHttpRequest {} (request ++ rest) = (.ok request.length, server) ∧
        server.mPath = path ∧ server.mHost = host ∧ server.mKey = generateKey random ∧
        server.mProtocols = protocols ∧
        client.parseHttpResponse sha1 (server.generateHttpResponse sha1 ++ rest') =
          .ok (server.generateHttpResponse sha1).length ∧
        (∀ p, p <+: request → p ≠ request →
          ∀ s : WsHandshake, s.parseHttpRequest p = (.ok 0, s)) ∧
        ∀ p, p <+: server.generateHttpResponse sha1 → p ≠ server.generateHttpResponse sha1 →
          ∀ s : WsHandshake, s.parseHttpResponse sha1 p = .ok 0) ∧
      ∀ block p, IsBlock block → p <+: block → p ≠ block → ∀ s : WsHandshake,
        s.parseHttpResponse sha1 p = .ok 0 ∧
          (isHttpRequest block = true → s.parseHttpRequest p = (.ok 0, s)) := by
  constructor
  · -- the server ends in the state of the client
    let client : WsHandshake :=
      { mHost := host, mPath := path, mProtocols := protocols, mKey := generateKey random }
    have hnew : new host path protocols =
        .ok { mHost := host, mPath := path, mProtocols := protocols } := by
      simp [new, hhost.ne_nil, hpath.ne_nil]
    have hrequest := generateHttpRequest_eq
      { mHost := host, mPath := path, mProtocols := protocols } random
    have hresponse := generateHttpResponse_eq sha1 client
    have hkey : lf ∉ client.mKey ∧ client.mKey.head? ≠ some space :=
      ⟨lf_not_mem_base64Encode _, head_base64Encode _⟩
    refine ⟨_, block (requestLines client), client, client, hnew, Prod.ext hrequest rfl,
      parseHttpRequest_requestLines hhost hpath hkey hprotocols rest, rfl, rfl, rfl, rfl, ?_, ?_,
      ?_⟩
    · rw [hresponse]
      exact parseHttpResponse_responseLines rfl hprotocols rest'
    · intro p hp hne s
      have hmethod := isHttpRequest_requestLines client []
      rw [List.append_nil] at hmethod
      have hblock : IsBlock (block (requestLines client)) :=
        isBlock_block (requestLines_text hhost.text.2 hpath hkey.1 hprotocols)
      exact parseHttpRequest_waits hblock hmethod hp hne s
    · intro p hp hne s
      rw [hresponse] at hp hne
      exact parseHttpResponse_waits (isBlock_block (responseLines_text hprotocols)) hp hne sha1 s
  · intro block p hblock hp hne s
    exact ⟨parseHttpResponse_waits hblock hp hne sha1 s,
      fun hrequest => parseHttpRequest_waits hblock hrequest hp hne s⟩

/-- A handshake with two protocols, with the first frame behind the request and a digest of one
byte. -/
theorem handshake_agreement_two_protocols :
    ∃ handshake request client server,
      new (bytes "localhost:48080") (bytes "/mypath") [bytes "chat", bytes "superchat"] =
          .ok handshake ∧
        handshake.generateHttpRequest (Vector.replicate 16 7) = (request, client) ∧
        parseHttpRequest {} (request ++ [0x81, 0x80]) = (.ok request.length, server) ∧
        server.mProtocols = [bytes "chat", bytes "superchat"] ∧
        client.parseHttpResponse (fun _ => [42]) (server.generateHttpResponse fun _ => [42]) =
          .ok (server.generateHttpResponse fun _ => [42]).length := by
  have hhost : IsHost (bytes "localhost:48080") :=
    ⟨by decide, ⟨by decide, by decide⟩, by decide, by decide⟩
  have hpath : IsPath (bytes "/mypath") := ⟨by decide, forall_mem_of_all (by decide)⟩
  have hprotocols : ∀ token ∈ [bytes "chat", bytes "superchat"], IsToken token := by
    intro token hmem
    simp only [List.mem_cons, List.not_mem_nil, or_false] at hmem
    rcases hmem with rfl | rfl
    · exact ⟨by decide, by decide, by decide, ⟨by decide, by decide⟩⟩
    · exact ⟨by decide, by decide, by decide, ⟨by decide, by decide⟩⟩
  obtain ⟨⟨handshake, request, client, server, hnew, hrequest, hserver, -, -, -, hprotocols,
    hclient, -⟩, -⟩ := handshake_agreement (fun _ => [42]) hhost hpath hprotocols
      (Vector.replicate 16 7) [0x81, 0x80] []
  rw [List.append_nil] at hclient
  exact ⟨handshake, request, client, server, hnew, hrequest, hserver, hprotocols, hclient⟩

end Rtc.WsHandshake
