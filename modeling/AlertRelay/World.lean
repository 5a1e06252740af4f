import AlertRelay.Program

/-!
# The world of a run

What the effects of programs meet: a network that answers by scripts, the web sessions that are
open, and the trace of everything that was seen. A script is used up one answer per call, and its
last answer repeats. `Program.run` runs one program from its beginning to its end.
-/

namespace AlertRelay

structure Network where
  /-- The replies to posts by service key, or by address for messages without one. -/
  http : List (Text × List (Delayed HttpReply)) := []
  /-- The mail servers by domain. -/
  mx : List (Text × Delayed MxAnswer) := []
  /-- The results of sending by recipient. -/
  smtp : List (Text × List (Delayed Unit)) := []
  /-- The answers of the configured resolver by domain. -/
  resolver : List (Text × Except Failure Text) := []
  /-- The readings of the clock. -/
  clock : List Seconds := []

/-- The answer of a script to its call number `n`, counted from zero. -/
def scripted? {α : Type} (script : List α) (n : Nat) : Option α :=
  script[min n (script.length - 1)]?

structure Sessions where
  /-- How many were opened. -/
  opened : Nat := 0
  /-- Those that are open. -/
  live : List Nat := []
  /-- The session that each slot holds, open or not. -/
  held : List (Nat × Nat) := []

namespace Sessions

def current? (s : Sessions) (slot : Nat) : Option Nat :=
  (s.held.lookup slot).filter s.live.contains

def hold (s : Sessions) (slot session : Nat) : Sessions :=
  { s with held := (slot, session) :: s.held.filter (·.1 != slot) }

def openIn (s : Sessions) (slot : Nat) : Sessions :=
  let n := s.opened + 1
  { s.hold slot n with opened := n, live := n :: s.live }

def close (s : Sessions) (slot session : Nat) : Sessions :=
  { s with live := s.live.filter (· != session), held := s.held.filter (·.1 != slot) }

/-- Every session ends from outside; the slots keep what they hold. -/
def expire (s : Sessions) : Sessions := { s with live := [] }

end Sessions

structure World where
  network : Network := {}
  /-- How many posts were made under each key. -/
  posts : List (Text × Nat) := []
  /-- How many mails were sent to each recipient. -/
  mails : List (Text × Nat) := []
  /-- How often the clock was read. -/
  clockReads : Nat := 0
  sessions : Sessions := {}
  /-- Everything that was seen, in order. -/
  trace : List Entry := []

def countOf (counts : List (Text × Nat)) (key : Text) : Nat := (counts.lookup key).getD 0

def countUp (counts : List (Text × Nat)) (key : Text) : List (Text × Nat) :=
  (key, countOf counts key + 1) :: counts.filter (·.1 != key)

/-- The key under which the network answers a post. -/
def Payload.scriptKey (url : Text) : Payload → Text
  | .event e => e.serviceKey
  | .attachment _ => url

/-- The reply to a post that no script answers. -/
def Network.defaultReply : Delayed HttpReply := ⟨none, .ok ⟨200, "ok", none, 0⟩⟩

def Network.unknownDomain : Delayed MxAnswer := ⟨none, .ok (.refused (.ofKind "NXDOMAIN" []))⟩

/-- The clock reading after the scripted ones. -/
def Network.defaultTime : Seconds := .fraction 1700000000.0

namespace World

def see (w : World) (e : Entry) : World := { w with trace := w.trace ++ [e] }

/-- Has one effect: the reply and the world after it. Waiting is the runner's concern and changes
nothing here. -/
def perform (w : World) : (e : Effect) → e.Reply × World
  | .note e => ((), w.see e)
  | .pause _ _ => ((), w)
  | .acquire slot timeout =>
    match w.sessions.current? slot with
    | some session => (session, w)
    | none =>
      let sessions := w.sessions.openIn slot
      (sessions.opened, { w with sessions }.see (.sessionOpened sessions.opened timeout))
  | .release slot =>
    match w.sessions.current? slot with
    | some session =>
      ((), { w with sessions := w.sessions.close slot session }.see (.sessionClosed session))
    | none => ((), w)
  | .post session url payload =>
    let key := payload.scriptKey url
    let n := countOf w.posts key
    let reply := ((w.network.http.lookup key).bind (scripted? · n)).getD Network.defaultReply
    (reply, { w with posts := countUp w.posts key }.see (.post session url payload))
  | .queryMx domain =>
    ((w.network.mx.lookup domain).getD Network.unknownDomain, w.see (.mxQuery domain))
  | .resolve domain =>
    ((w.network.resolver.lookup domain).getD (.ok ("mx." ++ domain)), w.see (.resolverCall domain))
  | .send submission =>
    let key := submission.message.recipient
    let n := countOf w.mails key
    let reply := ((w.network.smtp.lookup key).bind (scripted? · n)).getD ⟨none, .ok ()⟩
    (reply, { w with mails := countUp w.mails key }.see (.send submission))
  | .readClock =>
    ((w.network.clock[w.clockReads]?).getD Network.defaultTime,
      { w with clockReads := w.clockReads + 1 })

/-- Every open session ends from outside. -/
def expire (w : World) : World := { w with sessions := w.sessions.expire }

end World

namespace Program

variable {α : Type}

/-- Runs a program to its end; waits take no time of anyone else. -/
def run : Program α → World → Except Failure α × World
  | done a, w => (.ok a, w)
  | fail f, w => (.error f, w)
  | step e next, w =>
    let (reply, w) := w.perform e
    (next reply).run w

/-- How far a program came: to its end, or to a wait. -/
inductive Progress (α : Type) where
  | ended (result : Except Failure α)
  | waiting (length : Seconds) (onCancel : List Entry) (rest : Program α)

/-- Runs a program up to its next wait. -/
def advance : Program α → World → Progress α × World
  | done a, w => (.ended (.ok a), w)
  | fail f, w => (.ended (.error f), w)
  | step (.pause length onCancel) next, w => (.waiting length onCancel (next ()), w)
  | step e next, w =>
    let (reply, w) := w.perform e
    (next reply).advance w

end Program

end AlertRelay
