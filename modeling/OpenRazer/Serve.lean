import OpenRazer.Library.Stream
import OpenRazer.Library.Utf8
import OpenRazer.Library.Words
import OpenRazer.Library.Prog
import OpenRazer.Metrics

namespace OpenRazer

/-- Largest request line that is buffered. -/
def MAX_REQUEST_LINE : Nat := 8 * 1024

/-- Largest single header line that is buffered. -/
def MAX_HEADER_LINE : Nat := 8 * 1024

/-- How many header lines are read at most. -/
def MAX_HEADERS : Nat := 64

def NEWLINE : UInt8 := 0x0A

/-- What a peer's connection answers to each call: whether the timeouts can be
set and the handle cloned, and what is read at each place, where a timeout is a failure. -/
structure TcpStream where
  setReadTimeout : Bool
  setWriteTimeout : Bool
  tryClone : Bool
  source : Stream.Source

/-- The registry behind its lock. -/
structure Registry where
  metrics : Metrics
  poisoned : Bool

/-- `Metrics::render`; `none` is a panic. -/
def Registry.render (registry : Registry) (elapsed : Duration) : Option String :=
  if registry.poisoned then some "# registry poisoned\n" else registry.metrics.render elapsed

/-- What was read from a connection, one entry for each read, and what was written to it. -/
structure Connection where
  reads : List (List UInt8)
  writes : List String
deriving DecidableEq

def Connection.opened : Connection where
  reads := []
  writes := []

/-- The place the next read starts from. -/
def Connection.place (c : Connection) : Nat :=
  c.reads.flatten.length

/-- How a connection is left early. -/
inductive Exit
  | returned
  | panicked
deriving DecidableEq

variable (stream : TcpStream)

/-- `read_line` on `take(limit)`: an error when the reader fails or the bytes are not UTF-8. -/
def readLine (limit : Nat) : Prog Connection Exit String := fun c =>
  let (taken, failed) := Stream.readUntil stream.source NEWLINE limit c.place
  let c := { c with reads := c.reads ++ [taken] }
  if failed then (.error .returned, c)
  else
    match Utf8.decode? taken with
    | none => (.error .returned, c)
    | some line => (.ok line, c)

/-- The loop over the headers, at most `n` more of them. -/
def drainHeaders : Nat → Prog Connection Exit Unit
  | 0 => pure ()
  | n + 1 => do
    let h ← readLine stream MAX_HEADER_LINE
    if h.utf8ByteSize = 0 then pure ()
    else if Words.trim h.toList = [] then pure ()
    else drainHeaders n

/-- The target of a request line, empty without one. -/
def requestPath (line : String) : String :=
  String.ofList ((Words.words line.toList)[1]?.getD [])

/-- Status, content type and body for a path. -/
def route (registry : Registry) (elapsed : Duration) (path : String) : Except Exit (String × String × String) :=
  if path = "/metrics" then
    match registry.render elapsed with
    | none => .error .panicked
    | some body => .ok ("200 OK", "text/plain; version=0.0.4; charset=utf-8", body)
  else if path = "/" then
    .ok ("200 OK", "text/html; charset=utf-8",
      "<html><body><h1>razerd</h1><a href=\x22/metrics\x22>metrics</a></body></html>\n")
  else
    .ok ("404 Not Found", "text/plain; charset=utf-8", "not found\n")

def response (status ctype body : String) : String :=
  "HTTP/1.1 " ++ status ++ "\r\nContent-Type: " ++ ctype ++ "\r\nContent-Length: " ++ Nat.repr body.utf8ByteSize ++
    "\r\nConnection: close\r\n\r\n" ++ body

/-- Answer one connection. -/
def handle (registry : Registry) (elapsed : Duration) : Prog Connection Exit Unit := do
  if ¬(stream.setReadTimeout ∧ stream.setWriteTimeout) then Prog.fail .returned
  else if ¬stream.tryClone then Prog.fail .returned
  else
    let line ← readLine stream MAX_REQUEST_LINE
    if MAX_REQUEST_LINE ≤ line.utf8ByteSize ∧ line.toList.getLast? ≠ some '\n' then Prog.fail .returned
    else
      let path := requestPath line
      drainHeaders stream MAX_HEADERS
      let (status, ctype, body) ← Prog.lift (route registry elapsed path)
      Prog.modify fun c => { c with writes := c.writes ++ [response status ctype body] }

end OpenRazer
