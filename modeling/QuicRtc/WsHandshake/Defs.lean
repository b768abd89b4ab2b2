import QuicRtc.Http

/-!
# WebSocket handshakes

`WsHandshake` of `impl/wshandshake.cpp`: the HTTP upgrade request of the client, the response of
the server and the parsers of both. A parser returns the length it consumes, `0` when the header
block is not complete, or an error; the members that it has already assigned keep their new values
in either case.

`Sha1` is a parameter of the functions that use it.
-/

namespace Rtc

open Http

/-- `WsHandshake`. -/
structure WsHandshake where
  mHost : List UInt8 := []
  mPath : List UInt8 := []
  mProtocols : List (List UInt8) := []
  mKey : List UInt8 := []
  deriving DecidableEq, Repr

namespace WsHandshake

/-- The exceptions, with the text of `what()`. -/
inductive Error
  | invalidArgument (what : List UInt8)
  | runtimeError (what : List UInt8)
  /-- `WsHandshake::Error`. -/
  | error (what : List UInt8)
  /-- `WsHandshake::RequestError`. -/
  | requestError (what : List UInt8) (responseCode : ℕ)
  deriving DecidableEq, Repr

/-- The constructor of the client's handshake. -/
def new (host path : List UInt8) (protocols : List (List UInt8)) : Except Error WsHandshake :=
  if host = [] then .error (.invalidArgument (bytes "WebSocket HTTP host cannot be empty"))
  else if path = [] then .error (.invalidArgument (bytes "WebSocket HTTP path cannot be empty"))
  else .ok { mHost := host, mPath := path, mProtocols := protocols }

/-! ## Formatted input and output -/

/-- `std::isspace`, in the "C" locale. -/
def isSpace (c : UInt8) : Bool := c == space || (9 ≤ c && c ≤ 13)

/-- `std::isdigit`. -/
def isDigit (c : UInt8) : Bool := 48 ≤ c && c ≤ 57

/-- `>>` to a string: the next word of a stream, and what is left of the stream. The word is empty
when there is none. -/
def readWord (stream : List UInt8) : List UInt8 × List UInt8 :=
  let stream := stream.dropWhile isSpace
  (stream.takeWhile (!isSpace ·), stream.dropWhile (!isSpace ·))

/-- Words are separated by a space. -/
theorem readWord_append {word : List UInt8} (hne : word ≠ []) (h : ∀ c ∈ word, isSpace c = false)
    (rest : List UInt8) : readWord (word ++ space :: rest) = (word, space :: rest) := by
  have hspace : isSpace space = true := by decide
  have hdrop : (word ++ space :: rest).dropWhile isSpace = word ++ space :: rest := by
    cases word with
    | nil => exact absurd rfl hne
    | cons c word => simp [h c (by simp)]
  have hword : ∀ c ∈ word, (!isSpace c) = true := by
    intro c hc
    simp [h c hc]
  rw [readWord, hdrop]
  simp only [List.takeWhile_append_of_pos hword, List.dropWhile_append_of_pos hword]
  simp [hspace]

/-- A space before a word is skipped. -/
theorem readWord_space (stream : List UInt8) : readWord (space :: stream) = readWord stream := by
  have hspace : isSpace space = true := by decide
  simp [readWord, hspace]

/-- The magnitude of the number that starts with these digits. -/
def readDigits (stream : List UInt8) : ℕ :=
  (stream.takeWhile isDigit).foldl (fun value c => 10 * value + (c - 48).toNat) 0

/-- `>>` to an `unsigned int` that is `0`: an optional sign and digits. The value stays `0` when
there are none, and the largest one is stored on overflow. -/
def readUnsigned (stream : List UInt8) : ℕ :=
  let stream := stream.dropWhile isSpace
  let negative := stream.head? = some 45
  let signed := negative ∨ stream.head? = some 43
  let value := readDigits (if signed then stream.tail else stream)
  if value ≥ 4294967296 then 4294967295
  else if negative then (4294967296 - value) % 4294967296
  else value

/-- `std::to_string`. -/
def toString (n : ℕ) : List UInt8 := bytes (Nat.repr n)

/-! ## Requests and responses -/

/-- `WsHandshake::generateKey`, with the bytes of `random_bytes_engine`. -/
def generateKey (random : Vector UInt8 16) : List UInt8 := Utils.base64Encode random.toList

/-- `WsHandshake::computeAcceptKey`. -/
def computeAcceptKey (sha1 : List UInt8 → List UInt8) (key : List UInt8) : List UInt8 :=
  Utils.base64Encode (sha1 (key ++ bytes "258EAFA5-E914-47DA-95CA-C5AB0DC85B11"))

/-- `','`. -/
def comma : UInt8 := 44

/-- The header with the protocols, which is written when there are any. -/
def protocolHeader (protocols : List (List UInt8)) : List UInt8 :=
  if protocols ≠ [] then
    bytes "Sec-WebSocket-Protocol: " ++ Utils.implode protocols comma ++ bytes "\r\n"
  else []

/-- `WsHandshake::generateHttpRequest`. -/
def generateHttpRequest (s : WsHandshake) (random : Vector UInt8 16) : List UInt8 × WsHandshake :=
  let s := { s with mKey := generateKey random }
  (bytes "GET " ++ s.mPath ++
    bytes " HTTP/1.1\r\n" ++
    bytes "Host: " ++ s.mHost ++
    bytes "\r\n" ++
    bytes "Connection: Upgrade\r\n" ++
    bytes "Upgrade: websocket\r\n" ++
    bytes "Sec-WebSocket-Version: 13\r\n" ++
    bytes "Sec-WebSocket-Key: " ++
    s.mKey ++ bytes "\r\n" ++
    protocolHeader s.mProtocols ++
    bytes "\r\n", s)

/-- `WsHandshake::generateHttpResponse`. -/
def generateHttpResponse (sha1 : List UInt8 → List UInt8) (s : WsHandshake) : List UInt8 :=
  bytes "HTTP/1.1 101 Switching Protocols\r\n" ++
    bytes "Server: libdatachannel\r\n" ++
    bytes "Connection: Upgrade\r\n" ++
    bytes "Upgrade: websocket\r\n" ++
    bytes "Sec-WebSocket-Accept: " ++
    computeAcceptKey sha1 s.mKey ++ bytes "\r\n" ++
    protocolHeader s.mProtocols ++
    bytes "\r\n"

/-- `GetHttpErrorName`. -/
def getHttpErrorName (responseCode : ℕ) : List UInt8 :=
  match responseCode with
  | 400 => bytes "Bad Request"
  | 404 => bytes "Not Found"
  | 405 => bytes "Method Not Allowed"
  | 426 => bytes "Upgrade Required"
  | 500 => bytes "Internal Server Error"
  | _ => bytes "Error"

/-- `WsHandshake::generateHttpError`. -/
def generateHttpError (responseCode : ℕ) : List UInt8 :=
  let error := toString responseCode ++ bytes " " ++ getHttpErrorName responseCode
  bytes "HTTP/1.1 " ++ error ++
    bytes "\r\n" ++
    bytes "Server: libdatachannel\r\n" ++
    bytes "Content-Type: text/plain\r\n" ++
    bytes "Content-Length: " ++
    toString error.length ++
    bytes "\r\n" ++
    bytes "Access-Control-Allow-Origin: *\r\n\r\n" ++
    error

/-! ## Parsers -/

/-- The part of `parseHttpRequest` that reads the lines. -/
def parseRequestLines (s : WsHandshake) (length : ℕ) :
    List (List UInt8) → Except Error ℕ × WsHandshake
  | [] => (.error (.requestError (bytes "Invalid HTTP request for WebSocket") 400), s)
  | requestLine :: lines =>
    let (method, requestLine) := readWord requestLine
    let (path, _) := readWord requestLine
    if method ≠ bytes "GET" then
      (.error (.requestError
        (bytes "Invalid request method \"" ++ method ++ bytes "\" for WebSocket") 405), s)
    else
      let s := { s with mPath := path }
      let headers := parseHttpHeaders lines
      match headers.lookup (bytes "host") with
      | none =>
        (.error (.requestError (bytes "WebSocket host header missing in request") 400), s)
      | some host =>
        let s := { s with mHost := host }
        match headers.lookup (bytes "upgrade") with
        | none =>
          (.error (.requestError (bytes "WebSocket upgrade header missing in request") 426), s)
        | some upgrade =>
          if upgrade.map toLower ≠ bytes "websocket" then
            (.error (.requestError (bytes "WebSocket upgrade header mismatching") 426), s)
          else
            match headers.lookup (bytes "sec-websocket-key") with
            | none =>
              (.error (.requestError (bytes "WebSocket key header missing in request") 400), s)
            | some key =>
              let s := { s with mKey := key }
              match headers.lookup (bytes "sec-websocket-protocol") with
              | none => (.ok length, s)
              | some protocols =>
                (.ok length, { s with mProtocols := Utils.explode protocols comma })

/-- `WsHandshake::parseHttpRequest`. -/
def parseHttpRequest (s : WsHandshake) (buffer : List UInt8) : Except Error ℕ × WsHandshake :=
  if !isHttpRequest buffer then
    (.error (.requestError (bytes "Invalid HTTP request for WebSocket") 400), s)
  else
    let (length, lines) := parseHttpLines buffer
    if length = 0 then (.ok 0, s) else parseRequestLines s length lines

/-- The part of `parseHttpResponse` that reads the lines. -/
def parseResponseLines (sha1 : List UInt8 → List UInt8) (s : WsHandshake) (length : ℕ) :
    List (List UInt8) → Except Error ℕ
  | [] => .error (.error (bytes "Invalid HTTP response for WebSocket"))
  | status :: lines =>
    let (_, status) := readWord status
    let code := readUnsigned status
    if code ≠ 101 then
      .error (.runtimeError
        (bytes "Unexpected response code " ++ toString code ++ bytes " for WebSocket"))
    else
      let headers := parseHttpHeaders lines
      match headers.lookup (bytes "upgrade") with
      | none => .error (.error (bytes "WebSocket update header missing"))
      | some upgrade =>
        if upgrade.map toLower ≠ bytes "websocket" then
          .error (.error (bytes "WebSocket update header mismatching"))
        else
          match headers.lookup (bytes "sec-websocket-accept") with
          | none => .error (.error (bytes "WebSocket accept header missing"))
          | some accept =>
            if accept ≠ computeAcceptKey sha1 s.mKey then
              .error (.error (bytes "WebSocket accept header is invalid"))
            else .ok length

/-- `WsHandshake::parseHttpResponse`, which assigns no member. -/
def parseHttpResponse (sha1 : List UInt8 → List UInt8) (s : WsHandshake) (buffer : List UInt8) :
    Except Error ℕ :=
  let (length, lines) := parseHttpLines buffer
  if length = 0 then .ok 0 else parseResponseLines sha1 s length lines

end WsHandshake

end Rtc
