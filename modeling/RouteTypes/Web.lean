import RouteTypes.Web.Address

/-!
# Pages of the web

A request for an address is answered by a response or fails on the way, unless nothing can be
requested there at all. Responses that point to another address are followed a limited number of
times. Every address that is requested is recorded, in order.
-/

namespace RouteTypes

/-- What a server answers. -/
structure Response where
  status : Nat
  contentType : Option String
  location : Option String
  body : String
  deriving DecidableEq, Repr

/-- What becomes of a request. It is not even made where the address turns out to be none. -/
inductive Answer where
  | response (value : Response)
  | failure (message : String)
  | noAddress (message : String)
  deriving DecidableEq, Repr

/-- The answers of all servers, by address. -/
abbrev Web := List (String × Answer)

/-- Why a page could not be fetched. -/
inductive WebFault where
  | status (code : Nat)
  | transport (message : String)
  | address (message : String)
  deriving DecidableEq, Repr

/-- The text of a page and its content type. -/
structure Page where
  body : String
  contentType : String
  deriving DecidableEq, Repr

/-- The addresses that were requested, and what came of it. -/
structure Fetch where
  requests : List String
  outcome : Except WebFault Page

namespace Response

/-- The response points to another address. -/
def redirection? (response : Response) : Option String :=
  if [301, 302, 303, 307, 308].contains response.status then response.location else none

/-- The page that a response delivers. -/
def page (response : Response) : Except WebFault Page :=
  if 200 ≤ response.status ∧ response.status < 300 then
    .ok ⟨response.body, response.contentType.getD ""⟩
  else .error (.status response.status)

/-- The usual phrase for a status, empty for an unusual one. -/
def phrase (status : Nat) : String :=
  ([(100, "Continue"), (101, "Switching Protocols"), (102, "Processing"),
    (103, "Early Hints"), (200, "OK"), (201, "Created"), (202, "Accepted"),
    (203, "Non-Authoritative Information"), (204, "No Content"), (205, "Reset Content"),
    (206, "Partial Content"), (207, "Multi-Status"), (208, "Already Reported"),
    (226, "IM Used"), (300, "Multiple Choices"), (301, "Moved Permanently"),
    (302, "Found"), (303, "See Other"), (304, "Not Modified"), (305, "Use Proxy"),
    (307, "Temporary Redirect"), (308, "Permanent Redirect"), (400, "Bad Request"),
    (401, "Unauthorized"), (402, "Payment Required"), (403, "Forbidden"),
    (404, "Not Found"), (405, "Method Not Allowed"), (406, "Not Acceptable"),
    (407, "Proxy Authentication Required"), (408, "Request Timeout"), (409, "Conflict"),
    (410, "Gone"), (411, "Length Required"), (412, "Precondition Failed"),
    (413, "Request Entity Too Large"), (414, "Request-URI Too Long"),
    (415, "Unsupported Media Type"), (416, "Requested Range Not Satisfiable"),
    (417, "Expectation Failed"), (418, "I'm a teapot"), (421, "Misdirected Request"),
    (422, "Unprocessable Entity"), (423, "Locked"), (424, "Failed Dependency"),
    (425, "Too Early"), (426, "Upgrade Required"), (428, "Precondition Required"),
    (429, "Too Many Requests"), (431, "Request Header Fields Too Large"),
    (451, "Unavailable For Legal Reasons"), (500, "Internal Server Error"),
    (501, "Not Implemented"), (502, "Bad Gateway"), (503, "Service Unavailable"),
    (504, "Gateway Timeout"), (505, "HTTP Version Not Supported"),
    (506, "Variant Also Negotiates"), (507, "Insufficient Storage"),
    (508, "Loop Detected"), (510, "Not Extended"),
    (511, "Network Authentication Required")].lookup status).getD ""

end Response

/-- What the user is told when the page at an address could not be fetched. -/
def WebFault.message (address : String) : WebFault → String
  | .status code =>
    s!"Error downloading contracts: {code} ({Response.phrase code}) from {address}"
  | .transport message => s!"Failed to fetch {address}: {message}"
  | .address message => message

namespace Web

/-- The answer to a request; nobody answers at an unknown address. -/
def answer (web : Web) (address : String) : Answer :=
  (web.lookup address).getD (.failure "connection refused")

/-- The address that a response from an address points to. -/
def nextAddress (address location : String) : Except String String := do
  (Address.check location).mapError AddressFault.message
  (Url.join address location).mapError Url.Fault.message

/-- Requests an address and follows at most `limit` responses that point elsewhere; the one
after these fails. -/
def follow (web : Web) : Nat → String → Fetch
  | limit, address =>
    match web.answer address with
    | .noAddress message => ⟨[], .error (.address message)⟩
    | .failure message => ⟨[address], .error (.transport message)⟩
    | .response response =>
      match response.redirection? with
      | none => ⟨[address], response.page⟩
      | some location =>
        match limit, nextAddress address location with
        | _, .error reason =>
          ⟨[address], .error (.transport s!"Invalid URL in location header: {reason}.")⟩
        | 0, .ok _ => ⟨[address], .error (.transport "Exceeded maximum allowed redirects.")⟩
        | limit + 1, .ok next =>
          let rest := follow web limit next
          ⟨address :: rest.requests, rest.outcome⟩

/-- Requests an address and takes the response as it is. -/
def request (web : Web) (address : String) : Fetch :=
  match web.answer address with
  | .noAddress message => ⟨[], .error (.address message)⟩
  | .failure message => ⟨[address], .error (.transport message)⟩
  | .response response => ⟨[address], response.page⟩

/-- How often responses that point elsewhere are followed. -/
def redirectLimit : Nat := 20

/-- Fetches the page at an address; where `follows` does not hold, no response is followed. -/
def fetch (web : Web) (follows : Bool) (address : String) : Fetch :=
  match Address.check address with
  | .error fault => ⟨[], .error (.address fault.message)⟩
  | .ok () => if follows then web.follow redirectLimit address else web.request address

end Web

end RouteTypes
