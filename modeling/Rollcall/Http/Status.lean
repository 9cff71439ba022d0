import Rollcall.Error
import Rollcall.Text.Blank

/-!
# HTTP statuses

A status is a number of three digits. Those registered with IANA have a reason phrase, and a status
that reports a failure is an error whose kind says what a client may do about it.
-/
namespace Rollcall.Http

structure Status where
  code : Nat
  deriving DecidableEq, Repr

namespace Status

/-- The statuses that exist. -/
def ofCode? (code : Nat) : Option Status :=
  if 100 ≤ code ∧ code ≤ 999 then some ⟨code⟩ else none

def isSuccess (s : Status) : Bool := 200 ≤ s.code && s.code < 300

def reasons : List (Nat × String) :=
  [(100, "Continue"), (101, "Switching Protocols"), (102, "Processing"), (103, "Early Hints"),
   (200, "OK"), (201, "Created"), (202, "Accepted"), (203, "Non Authoritative Information"),
   (204, "No Content"), (205, "Reset Content"), (206, "Partial Content"), (207, "Multi-Status"),
   (208, "Already Reported"), (226, "IM Used"),
   (300, "Multiple Choices"), (301, "Moved Permanently"), (302, "Found"), (303, "See Other"),
   (304, "Not Modified"), (305, "Use Proxy"), (307, "Temporary Redirect"),
   (308, "Permanent Redirect"),
   (400, "Bad Request"), (401, "Unauthorized"), (402, "Payment Required"), (403, "Forbidden"),
   (404, "Not Found"), (405, "Method Not Allowed"), (406, "Not Acceptable"),
   (407, "Proxy Authentication Required"), (408, "Request Timeout"), (409, "Conflict"),
   (410, "Gone"), (411, "Length Required"), (412, "Precondition Failed"),
   (413, "Payload Too Large"), (414, "URI Too Long"), (415, "Unsupported Media Type"),
   (416, "Range Not Satisfiable"), (417, "Expectation Failed"), (418, "I'm a teapot"),
   (421, "Misdirected Request"), (422, "Unprocessable Entity"), (423, "Locked"),
   (424, "Failed Dependency"), (425, "Too Early"), (426, "Upgrade Required"),
   (428, "Precondition Required"), (429, "Too Many Requests"),
   (431, "Request Header Fields Too Large"), (451, "Unavailable For Legal Reasons"),
   (500, "Internal Server Error"), (501, "Not Implemented"), (502, "Bad Gateway"),
   (503, "Service Unavailable"), (504, "Gateway Timeout"), (505, "HTTP Version Not Supported"),
   (506, "Variant Also Negotiates"), (507, "Insufficient Storage"), (508, "Loop Detected"),
   (510, "Not Extended"), (511, "Network Authentication Required")]

def text (s : Status) : String :=
  toString s.code ++ " " ++ (reasons.lookup s.code).getD "<unknown status code>"

/-- The kind of the failure that a status reports. -/
def errorKind (s : Status) : ErrorKind :=
  if s.code = 404 then .notFound
  else if s.code = 429 then .resourceExhausted
  else if s.code = 502 ∨ s.code = 503 then .unavailable
  else if s.code = 408 ∨ s.code = 504 then .deadlineExceeded
  else .internal

/-- The failure that a status reports, explained by the text that came with it if there is any. -/
def toError (s : Status) (explanation : String) : Error :=
  let trimmed := Text.trim explanation
  let message := if trimmed = "" then s.text else s.text ++ ": " ++ trimmed
  Error.ofKind s.errorKind message ⟨""⟩ ""

@[simp] theorem kind_toError (s : Status) (m : String) : (s.toError m).kind = s.errorKind := by
  simp [toError]

end Status

end Rollcall.Http
