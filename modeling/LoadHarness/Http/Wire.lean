import LoadHarness.Http.Exchange
import LoadHarness.Http.MetricsPage

/-!
# Messages on the wire

Requests and responses as bytes. A message has a head of lines and a body, with an empty line
between them. The head tells where the body ends: after a number of bytes, after the last of
several chunks, or where the connection ends. Every connection carries one exchange.
-/

namespace LoadHarness

namespace Wire

def lineEnd : String := "\r\n"

/-- A head and a body. -/
def message (lines : List String) (body : String) : ByteArray :=
  (String.join (lines.map (· ++ lineEnd)) ++ lineEnd ++ body).toUTF8

/-- Splits after the first empty line. -/
def splitHead? (done : List UInt8) : List UInt8 → Option (List UInt8 × List UInt8)
  | 13 :: 10 :: 13 :: 10 :: rest => some (done.reverse, rest)
  | b :: rest => splitHead? (b :: done) rest
  | [] => none

/-- The lines of a head; bytes beyond ASCII are taken as characters of their own. -/
def headLines (head : List UInt8) : List (List Char) :=
  (splitChars '\n' (head.map fun b => Char.ofNat b.toNat)).map fun line =>
    line.filter (· ≠ '\r')

/-- A header line as its name in small letters and its value. -/
def headerOf (line : List Char) : String × List Char :=
  let (name, value) := line.span (· ≠ ':')
  (String.ofList (name.map Char.toLower), trimChars (value.drop 1))

/-- What the head of a response tells. -/
structure Head where
  status : Nat
  length : Option Nat
  chunked : Bool

def headOf? (head : List UInt8) : Option Head :=
  match headLines head with
  | [] => none
  | first :: rest =>
    match splitChars ' ' first with
    | protocol :: code :: _ =>
      let headers := rest.map headerOf
      let value? (name : String) := (headers.find? (·.1 == name)).map Prod.snd
      if (String.ofList protocol).startsWith "HTTP/" ∧ code.length = 3 ∧ code.all Char.isDigit then
        some {
          status := decimalValue code
          length := (value? "content-length").map decimalValue
          chunked := (value? "transfer-encoding").any fun value =>
            value.map Char.toLower = "chunked".toList }
      else none
    | _ => none

/-- The body in the chunks that came so far, and whether the last one was among them. -/
def chunks (fuel : Nat) (done : List UInt8) (bytes : List UInt8) : List UInt8 × Bool :=
  match fuel with
  | 0 => (done, false)
  | fuel + 1 =>
    let size := bytes.takeWhile (· ≠ 13)
    let digits := size.filterMap fun b => Ipv6.hexDigit? (Char.ofNat b.toNat)
    let rest := bytes.drop (size.length + 2)
    let n := digits.foldl (fun n d => n * 16 + d) 0
    if digits.isEmpty ∨ rest.length < n + 2 then (done, false)
    else if n = 0 then (done, true)
    else chunks fuel (done ++ rest.take n) (rest.drop (n + 2))

end Wire

namespace HttpRequest

/-- The bytes of a request. -/
def toBytes (r : HttpRequest) : ByteArray :=
  let host := (r.url.authority.map Url.Authority.hostText).getD ""
  let body := r.body.getD ""
  Wire.message
    ([r.method.word ++ " " ++ r.url.requestTarget ++ " HTTP/1.1", "host: " ++ host,
        "accept: */*", "content-type: " ++ contentType]
      ++ (r.authorization.map ("authorization: " ++ ·)).toList
      ++ (r.body.map fun b => "content-length: " ++ toString b.utf8ByteSize).toList
      ++ ["connection: close"])
    body

end HttpRequest

namespace HttpReply

/-- The reply that bytes make, as long as `fuel` responses that are not final may precede it;
none as long as more bytes may come. -/
def ofByteList? (fuel : Nat) (ended : Bool) (bytes : List UInt8) : Option HttpReply :=
  match fuel, Wire.splitHead? [] bytes with
  | 0, _ => some .nothing
  | _, none => if ended then some .nothing else none
  | fuel + 1, some (head, body) =>
    match Wire.headOf? head with
    | none => some .nothing
    | some h =>
      let reply (body : List UInt8) := some (.response h.status ⟨body.toArray⟩)
      let unfinished := if ended then some (.cutShort h.status) else none
      if !isFinal h.status then ofByteList? fuel ended body
      else if isBodyless h.status then reply []
      else if h.chunked then
        match Wire.chunks (body.length + 1) [] body with
        | (body, true) => reply body
        | (_, false) => unfinished
      else match h.length with
        | some n => if n ≤ body.length then reply (body.take n) else unfinished
        | none => if ended then reply body else none

/-- The reply that bytes make; none as long as more may come. -/
def ofBytes? (ended : Bool) (bytes : ByteArray) : Option HttpReply :=
  ofByteList? (bytes.size + 1) ended bytes.toList

end HttpReply

namespace MetricsPage

/-- The bytes of a page. -/
def toBytes (p : MetricsPage) : ByteArray :=
  Wire.message
    (["HTTP/1.1 " ++ p.statusText] ++ (p.contentType.map ("content-type: " ++ ·)).toList
      ++ ["content-length: " ++ toString p.body.utf8ByteSize, "connection: close"])
    p.body

/-- The page that the bytes of a request ask for; none as long as more may come. -/
def ofBytes? (m : RunMetrics) (bytes : ByteArray) : Option MetricsPage :=
  match Wire.splitHead? [] bytes.toList with
  | none => none
  | some (head, _) =>
    match (Wire.headLines head).map (splitChars ' ') with
    | (method :: target :: _) :: _ =>
      some (serve m (String.ofList method) (String.ofList target))
    | _ => some (serve m "" "")

end MetricsPage

end LoadHarness
