import ProfileAudit.Http.Request

/-!
Requests and responses as they are sent, one of each over a connection.
-/

namespace ProfileAudit

/-- The host and the port of a request. -/
def Request.server? (r : Request) : Option (String × Nat) := do
  let a ← r.url.authority
  let host := match a.host with
    | .ipv6 pieces => Host.ipv6Text pieces
    | host => host.text
  return (host, a.port.getD ((Url.usualPort? r.url.scheme).getD 80))

/-- A request as it is sent. -/
def Request.message (r : Request) : String :=
  let u := r.url
  let target := u.path.text ++ (u.query.map ("?" ++ ·)).getD ""
  let host := (u.authority.map fun a => ({ a with username := "", password := "" }).text).getD ""
  let agent := (r.agent.map ("User-Agent: " ++ · ++ "\r\n")).getD ""
  let authorization := (r.authorization.map ("Authorization: " ++ · ++ "\r\n")).getD ""
  "GET " ++ target ++ " HTTP/1.0\r\nHost: " ++ host ++ "\r\nAccept: */*\r\n" ++ agent ++
    authorization ++ "\r\n"

/-- What stands before and after the first empty line. -/
def atEmptyLine : List Char → List Char × List Char
  | '\r' :: '\n' :: '\r' :: '\n' :: body => ([], body)
  | c :: cs => let (head, body) := atEmptyLine cs; (c :: head, body)
  | [] => ([], [])

/-- The response that was sent as a text. -/
def Response.ofMessage? (message : String) : Option Response := do
  let (head, body) := atEmptyLine message.toList
  let line := head.takeWhile (· != '\r')
  if !"HTTP/1.".toList.isPrefixOf line then none
  let code := ((line.dropWhile (· != ' ')).drop 1).takeWhile Char.isDigit
  if code.length ≠ 3 then none
  return { status := ← Hex.inBase? 10 code, body := String.ofList body }

end ProfileAudit
