import FleetWatch.Gateway
import FleetWatch.Text.Blank
import FleetWatch.Text.Lines

/-! # HTTP messages

A request as it is sent, and an answer as it is received. The body of an answer ends where its
length says, or behind its last chunk, or with the connection.
-/

namespace FleetWatch

namespace HttpRequest

def headLine (name value : String) : String := name ++ ": " ++ value ++ "\r\n"

def base64Digit (n : Nat) : Char :=
  if n < 26 then .ofNat (65 + n)
  else if n < 52 then .ofNat (71 + n)
  else if n < 62 then .ofNat (n - 4)
  else if n = 62 then '+' else '/'

/-- Bytes in base sixty-four, four digits for three of them; equals signs stand for what the last
ones lack. -/
def base64 : Bytes → List Char
  | [] => []
  | [a] => [base64Digit (a.toNat / 4), base64Digit (a.toNat % 4 * 16), '=', '=']
  | [a, b] =>
    [base64Digit (a.toNat / 4), base64Digit (a.toNat % 4 * 16 + b.toNat / 16),
      base64Digit (b.toNat % 16 * 4), '=']
  | a :: b :: c :: rest =>
    base64Digit (a.toNat / 4) :: base64Digit (a.toNat % 4 * 16 + b.toNat / 16) ::
      base64Digit (b.toNat % 16 * 4 + c.toNat / 64) :: base64Digit (c.toNat % 64) :: base64 rest

/-- The line that tells who asks. -/
def loginLine (login : Url.Login) : String :=
  headLine "authorization" ("Basic " ++
    String.ofList (base64 (Utf8.bytes (login.user ++ ":" ++ login.password.getD ""))))

/-- The host of a request, with the port where it is not the usual one. -/
def host (r : HttpRequest) : List Char :=
  r.url.host.getD [] ++ Url.marked ':' (r.url.port.map Digits.ofNat)

/-- The request as it is sent. The connection is not used again. -/
def message (r : HttpRequest) : Bytes :=
  let length := match r.body with
    | some body => headLine "content-type" "application/json" ++
        headLine "content-length" body.length.repr
    | none => if r.method = .get then "" else headLine "content-length" "0"
  Utf8.bytes (r.method.name ++ " " ++ String.ofList r.url.target ++ " HTTP/1.1\r\n" ++
    (r.login.map loginLine).getD "" ++ length ++ headLine "accept" "*/*" ++
    headLine "host" (String.ofList r.host) ++ headLine "connection" "close" ++ "\r\n") ++
    r.body.getD []

end HttpRequest

namespace HttpAnswer

/-- Parts a message into what stands before and behind the empty line, the part being read given in
reverse; nothing if there is no empty line. -/
def splitHead? (reading : Bytes) : Bytes → Option (Bytes × Bytes)
  | [] => none
  | 13 :: 10 :: 13 :: 10 :: body => some (reading.reverse, body)
  | byte :: rest => splitHead? (byte :: reading) rest

/-- The first line of bytes and what stands behind it; nothing if the line does not end. -/
def splitLine? (reading : Bytes) : Bytes → Option (Bytes × Bytes)
  | [] => none
  | 13 :: 10 :: rest => some (reading.reverse, rest)
  | byte :: rest => splitLine? (byte :: reading) rest

/-- Bytes as characters, each one by itself. -/
def chars (bytes : Bytes) : List Char := bytes.map fun byte => .ofNat byte.toNat

def number? (digits : List Char) : Option Nat :=
  if digits.isEmpty || digits.any (!Digits.isDigit ·) then none else some (Digits.toNat digits)

/-- The status in the first line of a head. -/
def status? (line : List Char) : Option Nat :=
  match Text.words line with
  | version :: status :: _ => if "HTTP/1.".toList.isPrefixOf version then number? status else none
  | _ => none

/-- The value of a field of a head, without blanks around it. -/
def field? (name : String) (lines : List (List Char)) : Option (List Char) :=
  lines.findSome? fun line =>
    match line.dropWhile (· ≠ ':') with
    | [] => none
    | _ :: value =>
      if (line.takeWhile (· ≠ ':')).map Char.toLower = name.toList then some (Text.trim value)
      else none

def hexDigit? (c : Char) : Option Nat :=
  if '0' ≤ c ∧ c ≤ '9' then some (c.toNat - 48)
  else if 'a' ≤ c ∧ c ≤ 'f' then some (c.toNat - 87)
  else if 'A' ≤ c ∧ c ≤ 'F' then some (c.toNat - 55)
  else none

def chunkLength? (line : List Char) : Option Nat :=
  let digits := line.takeWhile (hexDigit? · |>.isSome)
  if digits.isEmpty then none
  else some (digits.foldl (fun n c => 16 * n + (hexDigit? c).getD 0) 0)

/-- The body that chunks make up, of which there are at most so many; nothing before the last one is
there. -/
def joinChunks? : Nat → Bytes → Option Bytes
  | 0, _ => none
  | most + 1, bytes => do
    let (line, rest) ← splitLine? [] bytes
    let length ← chunkLength? (chars line)
    if length = 0 then some []
    else if rest.length < length + 2 then none
    else return rest.take length ++ (← joinChunks? most (rest.drop (length + 2)))

/-- The body of an answer, by the lines of its head and what has come behind it; nothing before it
is complete. -/
def body? (lines : List (List Char)) (isEnded : Bool) (bytes : Bytes) : Option Bytes :=
  if (field? "transfer-encoding" lines).any (·.map Char.toLower = "chunked".toList) then
    joinChunks? bytes.length bytes
  else match (field? "content-length" lines).bind number? with
    | some length => if length ≤ bytes.length then some (bytes.take length) else none
    | none => if isEnded then some bytes else none

/-- How the exchange ends, by the bytes that have come; nothing as long as more are to come. -/
def exchange? (isEnded : Bool) (bytes : Bytes) : Option Exchange :=
  match splitHead? [] bytes with
  | none => if isEnded then some .brokenOff else none
  | some (head, rest) =>
    let lines := Text.lines (chars head)
    match status? (lines.head?.getD []) with
    | none => some .brokenOff
    | some status =>
      match body? lines isEnded rest with
      | some body => some (.answered status (some body))
      | none => if isEnded then some (.answered status none) else none

end HttpAnswer

end FleetWatch
