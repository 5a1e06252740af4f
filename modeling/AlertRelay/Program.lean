import AlertRelay.LogCall
import AlertRelay.Payload
import AlertRelay.Seconds
import AlertRelay.Mail.Message

/-!
# Programs with effects

What a channel does when it delivers an alert, as a tree: it ends with a result or a failure, or it
has one effect and goes on in a way that depends on the reply. The tree is finite along every
branch, so whatever runs it ends. The same tree is run on its own or interleaved with others; only
the runner knows time.
-/

namespace AlertRelay

/-- A mail on its way to a server. -/
structure Submission where
  host : Text
  port : Nat
  useTls : Bool
  startTls : Bool
  timeout : Float
  message : Mail.Message

inductive Entry where
  | log (call : LogCall)
  | sleep (delay : Seconds)
  | sessionOpened (session : Nat) (timeout : Seconds)
  | sessionClosed (session : Nat)
  | post (session : Nat) (url : Text) (payload : Payload)
  | mxQuery (domain : Text)
  | resolverCall (domain : Text)
  | send (submission : Submission)
  | attempt (n : Nat)
  | start (handler : Text)
  | finish (handler datacenter message : Text)
  | cancelled (handler : Text)
  | close (handler : Text)

/-- The reply of a web server. `unreadable` is the failure of reading its body, and `depthLimit`
says how many lists and objects may lie within one another there for the body to be decoded. -/
structure HttpReply where
  status : Int
  body : String
  unreadable : Option Failure
  depthLimit : Nat

/-- A record that names a mail server of a domain, the lower number preferred. The name stands
without the dot of the root at its end; the root alone is a dot. -/
structure MxRecord where
  preference : Int
  host : Text
  deriving DecidableEq

/-- What comes of asking for the mail servers of a domain: their records, or the fault with which
the name service refuses. -/
inductive MxAnswer where
  | records (rs : List MxRecord)
  | refused (f : Fault)

/-- The outcome of a call that takes a while: it arrives after a wait, if there is one. -/
structure Delayed (α : Type) where
  wait : Option Seconds
  outcome : Except Failure α

inductive Effect where
  /-- Something an observer sees. -/
  | note (e : Entry)
  /-- Time passes; `onCancel` is seen if the program is cancelled meanwhile. -/
  | pause (length : Seconds) (onCancel : List Entry)
  /-- Takes the session of a slot, opening one unless an open one is held. -/
  | acquire (slot : Nat) (timeout : Seconds)
  /-- Closes the session of a slot if an open one is held. -/
  | release (slot : Nat)
  /-- Posts a message. -/
  | post (session : Nat) (url : Text) (payload : Payload)
  /-- Asks for the mail servers of a domain. -/
  | queryMx (domain : Text)
  /-- Asks the configured resolver for the mail server of a domain. -/
  | resolve (domain : Text)
  /-- Sends a mail. -/
  | send (submission : Submission)
  /-- Reads the clock. -/
  | readClock

def Effect.Reply : Effect → Type
  | .note _ => Unit
  | .pause _ _ => Unit
  | .acquire _ _ => Nat
  | .release _ => Unit
  | .post _ _ _ => Delayed HttpReply
  | .queryMx _ => Delayed MxAnswer
  | .resolve _ => Except Failure Text
  | .send _ => Delayed Unit
  | .readClock => Seconds

inductive Program (α : Type) where
  | done (a : α)
  | fail (f : Failure)
  | step (e : Effect) (next : e.Reply → Program α)

namespace Program

variable {α β : Type}

/-- Goes on with the result of a program. -/
def bind (p : Program α) (f : α → Program β) : Program β :=
  match p with
  | done a => f a
  | fail x => fail x
  | step e next => step e fun r => (next r).bind f

instance : Monad Program where
  pure := done
  bind := bind

/-- Turns the ordinary faults of a program into results. A panic and a stop pass through. -/
def attempt : Program α → Program (Except Fault α)
  | done a => done (.ok a)
  | fail (.fault f) => done (.error f)
  | fail (.panic text) => fail (.panic text)
  | fail (.stop code) => fail (.stop code)
  | step e next => step e fun r => (next r).attempt

def effect (e : Effect) : Program e.Reply := step e done

def note (e : Entry) : Program Unit := effect (.note e)

def log (severity : Severity) (logger : Logger) (event : Text)
    (fields : List (String × Value)) : Program Unit :=
  note (.log ⟨severity, logger, event, fields, none⟩)

def logFailure (logger : Logger) (event : Text) (fields : List (String × Value))
    (raised : Failure) : Program Unit :=
  note (.log ⟨.error, logger, event, fields, some raised⟩)

/-- Waits for a while. -/
def pause (length : Seconds) : Program Unit := effect (.pause length [])

/-- Waits for a while in view of the observer. -/
def sleep (length : Seconds) : Program Unit := do
  note (.sleep length)
  pause length

/-- The result of a computation without effects. -/
def ofExcept : Except Failure α → Program α
  | .ok a => done a
  | .error f => fail f

/-- Waits until the outcome of a call arrives. -/
def await (d : Delayed α) : Program α := do
  match d.wait with
  | some length => pause length
  | none => done ()
  ofExcept d.outcome

/-- Takes the session of a slot. -/
def acquire (slot : Nat) (timeout : Seconds) : Program Nat := effect (.acquire slot timeout)

/-- Closes the session of a slot. -/
def release (slot : Nat) : Program Unit := effect (.release slot)

/-- Posts a message and waits for the reply. -/
def post (session : Nat) (url : Text) (payload : Payload) : Program HttpReply := do
  let reply ← effect (.post session url payload)
  await reply

/-- Asks for the mail servers of a domain and waits for the answer. -/
def queryMx (domain : Text) : Program MxAnswer := do
  let answer ← effect (.queryMx domain)
  await answer

/-- Asks the configured resolver for the mail server of a domain. -/
def resolve (domain : Text) : Program Text := do
  let answer ← effect (.resolve domain)
  ofExcept answer

/-- Sends a mail and waits for the end of the sending. -/
def send (submission : Submission) : Program Unit := do
  let reply ← effect (.send submission)
  await reply

def readClock : Program Seconds := effect .readClock

/-! ### Laws -/

theorem bind_done (p : Program α) : p.bind done = p := by
  induction p with
  | done a => rfl
  | fail f => rfl
  | step e next ih => simp [bind, ih]

theorem bind_assoc {γ : Type} (p : Program α) (f : α → Program β) (g : β → Program γ) :
    (p.bind f).bind g = p.bind fun a => (f a).bind g := by
  induction p with
  | done a => rfl
  | fail f => rfl
  | step e next ih => simp [bind, ih]

instance : LawfulMonad Program :=
  LawfulMonad.mk' Program (fun p => bind_done p) (fun _ _ => rfl) fun p f g => bind_assoc p f g

end Program

end AlertRelay
