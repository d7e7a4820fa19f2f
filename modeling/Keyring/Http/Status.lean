/-!
Status codes of HTTP.

* `Http.Status`: a code of three digits.
* `Http.Status.reason?`: the phrase that goes with a code.
* `Http.Status.isSuccess`, `Http.Status.isTransient`: what a code says about the request.
-/

namespace Keyring.Http

/-- A status code. -/
structure Status where
  /-- its three digits as a number -/
  code : Nat
  deriving Repr, DecidableEq

namespace Status

/-- The phrases of the codes that have one. -/
def reasons : List (Nat × String) := [
  (100, "Continue"), (101, "Switching Protocols"), (102, "Processing"), (103, "Early Hints"),
  (200, "OK"), (201, "Created"), (202, "Accepted"), (203, "Non Authoritative Information"),
  (204, "No Content"), (205, "Reset Content"), (206, "Partial Content"), (207, "Multi-Status"),
  (208, "Already Reported"), (226, "IM Used"),
  (300, "Multiple Choices"), (301, "Moved Permanently"), (302, "Found"), (303, "See Other"),
  (304, "Not Modified"), (305, "Use Proxy"), (307, "Temporary Redirect"),
  (308, "Permanent Redirect"),
  (400, "Bad Request"), (401, "Unauthorized"), (402, "Payment Required"), (403, "Forbidden"),
  (404, "Not Found"), (405, "Method Not Allowed"), (406, "Not Acceptable"),
  (407, "Proxy Authentication Required"), (408, "Request Timeout"), (409, "Conflict"),
  (410, "Gone"), (411, "Length Required"), (412, "Precondition Failed"),
  (413, "Payload Too Large"), (414, "URI Too Long"), (415, "Unsupported Media Type"),
  (416, "Range Not Satisfiable"), (417, "Expectation Failed"), (418, "I'm a teapot"),
  (421, "Misdirected Request"), (422, "Unprocessable Entity"), (423, "Locked"),
  (424, "Failed Dependency"), (425, "Too Early"), (426, "Upgrade Required"),
  (428, "Precondition Required"), (429, "Too Many Requests"),
  (431, "Request Header Fields Too Large"), (451, "Unavailable For Legal Reasons"),
  (500, "Internal Server Error"), (501, "Not Implemented"), (502, "Bad Gateway"),
  (503, "Service Unavailable"), (504, "Gateway Timeout"), (505, "HTTP Version Not Supported"),
  (506, "Variant Also Negotiates"), (507, "Insufficient Storage"), (508, "Loop Detected"),
  (510, "Not Extended"), (511, "Network Authentication Required")]

/-- The phrase that goes with a code. -/
def reason? (s : Status) : Option String := reasons.lookup s.code

/-- A code with its phrase. -/
def render (s : Status) : String :=
  toString s.code ++ " " ++ s.reason?.getD "<unknown status code>"

/-- Whether the request was answered. -/
def isSuccess (s : Status) : Bool := 200 ≤ s.code && s.code < 300

/-- Whether the answer says where to ask instead. -/
def isRedirect (s : Status) : Bool := [301, 302, 303, 307, 308].contains s.code

/-- Whether the request may be answered at another time: the server failed, or was asked too often.
-/
def isTransient (s : Status) : Bool := (500 ≤ s.code && s.code < 600) || s.code = 429

end Status

end Keyring.Http
