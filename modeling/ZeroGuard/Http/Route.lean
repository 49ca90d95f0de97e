import ZeroGuard.Http.Answer
import ZeroGuard.Http.Host

namespace ZeroGuard.Http

inductive Endpoint
  | divide
  | health
deriving DecidableEq, Repr

namespace Endpoint

def all : List Endpoint := [divide, health]

def path : Endpoint → String
  | divide => "/divide"
  | health => "/health/"

def method : Endpoint → String
  | divide => "POST"
  | health => "GET"

/-- The endpoint of a path. A line break at the end of the path makes no difference. -/
def ofPath? (path : String) : Option Endpoint :=
  all.find? fun endpoint => endpoint.path = path ∨ endpoint.path ++ "\n" = path

end Endpoint

/-- A request. The target is a path, which may have a query behind a question mark. The server has
a name of its own, and the request may name a host. -/
structure Message where
  method : String
  target : String
  server : String
  host : Option String
  contentType : Option String
  accept : Option String
  body : Option String
  /-- How deep a body may be nested. That is as deep as the interpreter still lets its reader go when
  the request is handled. -/
  depth : Nat

namespace Message

def path (message : Message) : String :=
  String.ofList (message.target.toList.takeWhile (· ≠ '?'))

/-- The query with its question mark, or nothing. -/
def query (message : Message) : String :=
  let query := message.target.toList.dropWhile (· ≠ '?')
  if query.length ≤ 1 then "" else String.ofList query

/-- The host that redirections lead to: the one that the request names, if that is well-formed. -/
def authority (message : Message) : String :=
  match message.host with
  | some host => if isHost host then host else message.server
  | none => message.server

end Message

/-- The path with the slash at its end added, or all slashes there taken off. -/
def otherPath (path : String) : String :=
  let backward := path.toList.reverse
  match backward with
  | '/' :: _ => String.ofList (backward.dropWhile (· = '/')).reverse
  | _ => path ++ "/"

/-- Characters that stand for themselves in the address of a redirection. -/
def isAddressChar (byte : UInt8) : Bool :=
  let c := Char.ofNat byte.toNat
  byte < 0x80 && (c.isAlphanum || ":/%#?=@[]!$&'()*+,;_.-~".toList.contains c)

/-- An address in which all other bytes are percent escapes. -/
def addressText (address : String) : String :=
  String.ofList (address.toUTF8.toList.flatMap fun byte =>
    if isAddressChar byte then [Char.ofNat byte.toNat]
    else '%' :: (hexDigits 2 byte.toNat).map Char.toUpper)

/-- The endpoint for a request, or the answer that there is none. A path that differs from that of
an endpoint only in slashes at its end is redirected to it. -/
def route (message : Message) : Except Answer Endpoint :=
  match Endpoint.ofPath? message.path with
  | some endpoint =>
    if message.method = endpoint.method then .ok endpoint
    else .error (.notAllowed endpoint.method)
  | none =>
    let other := otherPath message.path
    match Endpoint.ofPath? other with
    | some _ =>
      .error (.redirect (addressText ("http://" ++ message.authority ++ other ++ message.query)))
    | none => .error .notFound

end ZeroGuard.Http
