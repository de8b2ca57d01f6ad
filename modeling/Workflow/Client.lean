import Workflow.Session.Input
import Workflow.Session.Pull
import Workflow.Source.Basic

/-!
# Clients

A client runs the document at a url and follows redirects: whenever a pull leaves a redirect among
the events, the session is replaced by one of the document it leads to.  Events from before the
redirect are kept for the program around the client; the redirect and what comes after it are not.
Events of all sessions of a client go through one queue, so what one session left waiting is there
when the next one runs.
-/

namespace Workflow

/-- A client. `kept` are the events to be taken, `requests` counts the requests to the source. -/
structure Client where
  source : Source
  settings : SessionSettings
  url : String
  kept : Array Event
  requests : Nat
  session : Session

/-- The events before the first redirect, and where that redirect leads. -/
def Event.splitAtRedirect : List Event → List Event × Option String
  | [] => ([], none)
  | event :: rest =>
    match event.redirectUrl? with
    | some url => ([], some url)
    | none =>
      let (before, url) := splitAtRedirect rest
      (event :: before, url)

namespace Client

/-- A session of the document at a url, which is the answer to the request with the given number. -/
def load (source : Source) (settings : SessionSettings) (request : Nat) (url : String) :
    Except Error Session := do
  let text ← source.fetch request url
  let document ← Document.ofText settings.host text
  Session.start document settings false

def start (source : Source) (settings : SessionSettings) (url : String) : Except Error Client :=
  (load source settings 0 url).map fun session =>
    { source, settings, url, kept := #[], requests := 1, session }

/-- Replaces the session by one of the document at a url. The old session stays if there is none. -/
def reload (client : Client) (url : String) : Except Error Unit × Client :=
  let asked := { client with requests := client.requests + 1 }
  match load client.source client.settings client.requests url with
  | .error error => (.error error, asked)
  | .ok session =>
    (.ok (), { asked with url, session := { session with events := client.session.events } })

/-- Takes the waiting events, and tells where the first redirect among them leads. -/
def drain (client : Client) : Option String × Client :=
  let (events, session) := client.session.drainEvents
  let (before, url) := Event.splitAtRedirect events
  (url, { client with session, kept := client.kept ++ before.toArray })

/-- Takes the events that an answer of the session comes with. Without a redirect among them the
answer decides the pull; with one, the document it leads to takes the place of this one, and the
pull is not decided yet. -/
def settle (client : Client) (answered : Pull × Session) : Option Pull × Client :=
  let (pull, session) := answered
  let pulled := { client with session }
  match pull with
  | .failed _ | .unfinished => (some pull, pulled)
  | .task _ | .ended =>
    match pulled.drain with
    | (none, drained) => (some pull, drained)
    | (some url, drained) =>
      match drained.reload url with
      | (.ok (), loaded) => (none, loaded)
      | (.error error, asked) => (some (.failed error), asked)

def step (client : Client) : Option Pull × Client :=
  client.settle client.session.pull

/-- Takes fewer than `steps` steps, until one decides the pull. -/
def decideWithin (step : Client → Option Pull × Client) : Nat → Client → Pull × Client
  | 0, client => (.unfinished, client)
  | steps + 1, client =>
    match step client with
    | (some pull, client) => (pull, client)
    | (none, client) => decideWithin step steps client

/-- A pull that follows fewer than `steps` redirects. -/
def pullWithin (steps : Nat) (client : Client) : Pull × Client :=
  decideWithin step steps client

/-- Runs the client until a task waits for the program around it, following redirects on the way.
Documents that keep leading to each other leave the pull unfinished. -/
def pull (client : Client) : Pull × Client :=
  pullWithin (Nat.pow 2 64) client

def setBreakpoint (client : Client) (name : String) : Client :=
  { client with
    settings := client.settings.insertBreakpoint name
    session := client.session.setBreakpoint name }

def takeEvents (client : Client) : List Event × Client :=
  (client.kept.toList, { client with kept := #[] })

end Client

end Workflow
