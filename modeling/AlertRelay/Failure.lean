import AlertRelay.Value

/-!
# Failures

What can go wrong while an alert is delivered. A fault concerns one operation: it is recorded,
perhaps retried, and never stops the delivery through other channels. A panic and a stop are asked
for by the operator's configuration and end the delivery itself.
-/

namespace AlertRelay

/-- An ordinary fault of one operation: its kind and its text, which may be empty. -/
structure Fault where
  kind : String
  text : Text
  deriving DecidableEq

/-- What is recorded for a fault: its text, or its kind when there is no text. -/
def Fault.reason (f : Fault) : Text := if f.text.isEmpty then f.kind else f.text

inductive Failure where
  /-- An ordinary fault. -/
  | fault (f : Fault)
  /-- The end of a delivery asked for by a console channel of level panic. -/
  | panic (text : Text)
  /-- The end of the process with a code. -/
  | stop (code : Value)

/-- What is recorded for a fault is never blank as long as kinds have names. -/
theorem Fault.reason_ne_empty {f : Fault} (h : f.kind ≠ "") : f.reason ≠ [] := by
  unfold Fault.reason
  split
  · intro e
    exact h (Text.ofString_eq_nil_iff.1 e)
  · next ht => simpa using ht

/-! ### Faults raised by the outside world

A fault that the outside world raises has a kind and arguments. How its text comes from them depends
on the family of the kind: that of system errors, that of mail errors, or none.
-/

/-- The kinds of system errors: their arguments are a number, a text and the files concerned. -/
def systemErrorKinds : List String :=
  ["OSError", "ConnectionError", "ConnectionRefusedError", "ConnectionResetError",
    "ConnectionAbortedError", "BrokenPipeError", "TimeoutError", "FileNotFoundError",
    "FileExistsError", "PermissionError", "InterruptedError", "IsADirectoryError",
    "NotADirectoryError", "ChildProcessError", "ProcessLookupError", "BlockingIOError",
    "ClientOSError", "ClientConnectorError", "ServerTimeoutError"]

/-- Two kinds that are other names of a third. -/
def plainKind (kind : String) : String :=
  if kind = "IOError" ∨ kind = "EnvironmentError" then "OSError" else kind

/-- The text of the most general fault of a name server. -/
def resolverErrorText : String :=
  "Abstract base class shared by all dnspython exceptions.\n\n" ++
  "    It supports two basic modes of operation:\n\n" ++
  "    a) Old/compatible mode is used if ``__init__`` was called with\n" ++
  "    empty *kwargs*.  In compatible mode all *args* are passed\n" ++
  "    to the standard Python Exception class as before and all *args* are\n" ++
  "    printed by the standard ``__str__`` implementation.  Class variable\n" ++
  "    ``msg`` (or doc string if ``msg`` is ``None``) is returned from ``str()``\n" ++
  "    if *args* is empty.\n\n" ++
  "    b) New/parametrized mode is used if ``__init__`` was called with\n" ++
  "    non-empty *kwargs*.\n" ++
  "    In the new mode *args* must be empty and all kwargs must match\n" ++
  "    those set in class variable ``supp_kwargs``. All kwargs are stored inside\n" ++
  "    ``self.kwargs`` and used in a new ``__str__`` implementation to construct\n" ++
  "    a formatted message based on the ``fmt`` class variable, a ``string``.\n\n" ++
  "    In the simplest case it is enough to override the ``supp_kwargs``\n" ++
  "    and ``fmt`` class variables to get nice parametrized messages.\n    "

def defaultText (kind : String) : String :=
  match kind with
  | "ServerDisconnectedError" => "Server disconnected"
  | "DNSException" => resolverErrorText
  | "Timeout" => "The DNS operation timed out."
  | "NXDOMAIN" => "The DNS query name does not exist."
  | "YXDOMAIN" => "The DNS query name is too long after DNAME substitution."
  | "NoAnswer" => "The DNS response does not contain an answer to the question."
  | "NoNameservers" => "All nameservers failed to answer the query."
  | "EmptyLabel" => "A DNS label is empty."
  | "LabelTooLong" => "A DNS label is > 63 octets long."
  | "NameTooLong" => "A DNS name is > 255 octets long."
  | "BadEscape" => "An escaped code in a text format of DNS name is invalid."
  | _ => ""

/-- The text of several arguments: their written forms in parentheses. -/
def argumentText (args : List Value) : Text :=
  "(" ++ commaSeparated (args.map Value.written) ++ ")"

/-- The text of a fault with arguments of no special family. -/
def plainText (kind : String) (args : List Value) : Text :=
  match args with
  | [] => defaultText kind
  | [v] => if kind = "KeyError" then v.written else v.display
  | _ => argumentText args

/-! #### System errors -/

def kindOfNumber? (n : Int) : Option String :=
  match n with
  | 11 | 114 | 115 => some "BlockingIOError"
  | 32 | 108 => some "BrokenPipeError"
  | 10 => some "ChildProcessError"
  | 103 => some "ConnectionAbortedError"
  | 111 => some "ConnectionRefusedError"
  | 104 => some "ConnectionResetError"
  | 17 => some "FileExistsError"
  | 2 => some "FileNotFoundError"
  | 21 => some "IsADirectoryError"
  | 20 => some "NotADirectoryError"
  | 4 => some "InterruptedError"
  | 1 | 13 => some "PermissionError"
  | 3 => some "ProcessLookupError"
  | 110 => some "TimeoutError"
  | _ => none

/-- The kind of a system error with a number: the general kind gives way to a special one. -/
def systemErrorKind (kind : String) (number : Value) : String :=
  if kind != "OSError" then kind
  else
    match number with
    | .int n => (kindOfNumber? n).getD kind
    | .bool b => (kindOfNumber? (if b then 1 else 0)).getD kind
    | _ => kind

/-- The text of a system error: its number and text, and the files concerned. -/
def systemErrorText (number text : Value) (files : List Value) : Text :=
  let told := "[Errno " ++ number.display ++ "] " ++ text.display
  match files with
  | [] => told
  | .null :: _ => told
  | [file, _, other] =>
    match other with
    | .null => told ++ ": " ++ file.written
    | _ => told ++ ": " ++ file.written ++ " -> " ++ other.written
  | file :: _ => told ++ ": " ++ file.written

/-- The fault of a system error with a number. One that reports a blocked call counts the bytes that
were passed on in the place of a file. -/
def systemFault (kind : String) (number text : Value) (files : List Value) : Fault :=
  let kind := systemErrorKind kind number
  let blocked := kind = "BlockingIOError"
  match files with
  | .int n :: _ =>
    if blocked then
      if -0x8000000000000000 ≤ n ∧ n < 0x8000000000000000 then
        ⟨kind, systemErrorText number text []⟩
      else ⟨"ValueError", "cannot fit 'int' into an index-sized integer"⟩
    else ⟨kind, systemErrorText number text files⟩
  | .bool _ :: _ => ⟨kind, systemErrorText number text (if blocked then [] else files)⟩
  | .float _ :: _ =>
    if blocked then ⟨"TypeError", "'float' object cannot be interpreted as an integer"⟩
    else ⟨kind, systemErrorText number text files⟩
  | files => ⟨kind, systemErrorText number text files⟩

/-! #### Mail errors -/

/-- The kinds of mail errors that take exactly one argument, the text. -/
def mailErrorKinds : List String :=
  ["SMTPException", "SMTPServerDisconnected", "SMTPConnectError", "SMTPTimeoutError",
    "SMTPConnectTimeoutError", "SMTPReadTimeoutError", "SMTPNotSupported"]

/-- The kinds of mail errors that take exactly two arguments, a code and the text. -/
def mailResponseKinds : List String :=
  ["SMTPResponseException", "SMTPHeloError", "SMTPDataError", "SMTPAuthenticationError",
    "SMTPConnectResponseError"]

/-- The arguments that a kind takes, with the general kind that asks for them. -/
def argumentsOf? (kind : String) : Option (String × List String) :=
  if kind ∈ mailErrorKinds then some ("SMTPException", ["message"])
  else if kind ∈ mailResponseKinds then some ("SMTPResponseException", ["code", "message"])
  else if kind = "SMTPSenderRefused" then some (kind, ["code", "message", "sender"])
  else if kind = "SMTPRecipientRefused" then some (kind, ["code", "message", "recipient"])
  else if kind = "SMTPRecipientsRefused" then some (kind, ["recipients"])
  else none

/-- Names in quotes as they are listed in a sentence. -/
def listed : List String → String
  | [] => ""
  | [a] => Text.quoted a
  | [a, b] => Text.quoted a ++ " and " ++ Text.quoted b
  | [a, b, c] => Text.quoted a ++ ", " ++ Text.quoted b ++ ", and " ++ Text.quoted c
  | a :: rest => Text.quoted a ++ ", " ++ listed rest

/-- The fault of calling for a kind with the wrong number of arguments. -/
def argumentFault? (owner : String) (names : List String) (given : Nat) : Option Fault :=
  let missing := names.drop given
  if 0 < missing.length then
    let noun := if missing.length = 1 then "argument" else "arguments"
    some ⟨"TypeError", owner ++ ".__init__() missing " ++ toString missing.length ++
      " required positional " ++ noun ++ ": " ++ listed missing⟩
  else if names.length < given then
    some ⟨"TypeError", owner ++ ".__init__() takes " ++ toString (names.length + 1) ++
      " positional arguments but " ++ toString (given + 1) ++ " were given"⟩
  else none

/-! #### All kinds -/

def Fault.ofKind (kind : String) (args : List Value) : Fault :=
  let kind := plainKind kind
  let plain : Fault := ⟨kind, plainText kind args⟩
  match argumentsOf? kind with
  | some (owner, names) => (argumentFault? owner names args.length).getD plain
  | none =>
    match args with
    | [.null] => if kind = "ServerDisconnectedError" then ⟨kind, defaultText kind⟩ else plain
    | number :: text :: files =>
      if kind ∈ systemErrorKinds ∧ files.length ≤ 3 then systemFault kind number text files
      else plain
    | _ => plain

def stopCode : List Value → Value
  | [] => .null
  | [v] => v
  | args => .list args

def Failure.ofKind (kind : String) (args : List Value) : Failure :=
  match kind with
  | "ConsolePanic" => .panic (plainText kind args)
  | "SystemExit" => .stop (stopCode args)
  | _ => .fault (.ofKind kind args)

end AlertRelay
