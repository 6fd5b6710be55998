import BurnerByte.Go.Bufio

/-!
# The SMTP listener

One conversation of the inbound daemon, as the connection goroutine runs it.
`step` is one turn of the command loop: it reads a line, dispatches it and, for
an accepted `DATA`, also reads the message. A turn may end the conversation, and
a slice out of range ends the whole process, since nothing recovers from it.

The router, the MIME parser and the processing queue are parameters. Their
answers may change from turn to turn, so they receive the number of the turn.
A conversation that negotiates TLS continues on the plaintext of the new
connection; `handshakes` lists these streams in the order they are negotiated,
and a handshake beyond the list fails.
-/

namespace BurnerByte.Smtp

open Go

def lf : UInt8 := 10

/-- The cutset of every `strings.TrimRight` in the listener. -/
def crlf : Bytes := [13, 10]

def dot : Bytes := lit "."

/-! ## Command lines -/

/-- Split a command line into the verb, in upper case, and its argument. -/
def parseCommand (m : CaseMapping) (line : Bytes) : Except Panic (Bytes × Bytes) := do
  let parts := splitN2 line (lit " ")
  let cmd := toUpper m (← getIndex parts 0)
  if 1 < parts.length then return (cmd, ← getIndex parts 1)
  else return (cmd, [])

/-- The argument behind the verb's marker, such as `FROM:`. The offset of the
marker is found in the upper-cased argument and applied to the argument itself. -/
def afterMarker (m : CaseMapping) (arg marker : Bytes) : Except Panic Bytes :=
  match index (toUpper m arg) marker with
  | some idx => sliceFrom arg (idx + marker.length)
  | none => .ok arg

/-- Without brackets the address ends at the first space, where ESMTP parameters
may follow. -/
def bareAddress (arg : Bytes) : Except Panic Bytes :=
  match indexByte arg 32 with
  | some idx => (slice arg 0 idx).map trimSpace
  | none => .ok (trimSpace arg)

def addressOf (arg : Bytes) : Except Panic Bytes :=
  match index arg (lit "<") with
  | none => bareAddress arg
  | some start => do
    match index (← sliceFrom arg start) (lit ">") with
    | none => bareAddress arg
    | some stop => (slice arg (start + 1) (start + stop)).map trimSpace

/-- The address in `FROM:<addr>` or `TO:<addr>`. -/
def extractMailParam (m : CaseMapping) (arg verb : Bytes) : Except Panic Bytes := do
  let arg ← afterMarker m arg (verb ++ lit ":")
  addressOf (trimSpace arg)

/-- The verbs the command loop distinguishes. -/
inductive Verb where
  | helo | ehlo | starttls | mail | rcpt | data | rset | noop | vrfy | quit | unknown
  deriving DecidableEq

def verbOf (cmd : Bytes) : Verb :=
  if cmd = lit "HELO" then .helo
  else if cmd = lit "EHLO" then .ehlo
  else if cmd = lit "STARTTLS" then .starttls
  else if cmd = lit "MAIL" then .mail
  else if cmd = lit "RCPT" then .rcpt
  else if cmd = lit "DATA" then .data
  else if cmd = lit "RSET" then .rset
  else if cmd = lit "NOOP" then .noop
  else if cmd = lit "VRFY" then .vrfy
  else if cmd = lit "QUIT" then .quit
  else .unknown

/-! ## Message data -/

inductive DataError where
  | read (e : ReadError)
  | tooLarge

/-- How one turn of the `readData` loop ends. -/
inductive DataStep where
  | done (result : Except DataError Bytes)
  | more (buf : Bytes)

/-- A leading dot of a line that is not the terminator is removed. -/
def unstuff (line : Bytes) : Bytes :=
  if hasPrefix (trimRight line crlf) dot then line.tail else line

/-- One turn of the `readData` loop: a line is read whole before its size counts. -/
def readDataStep (maxSize : Nat) (buf : Bytes) (input : List Input) : DataStep × List Input :=
  match readString lf input with
  | (.error e, rest) => (.done (.error (.read e)), rest)
  | (.ok line, rest) =>
    if trimRight line crlf = dot then (.done (.ok buf), rest)
    else if maxSize < buf.length + (unstuff line).length then (.done (.error .tooLarge), rest)
    else (.more (buf ++ unstuff line), rest)

variable {maxSize : Nat} {buf : Bytes} {input rest : List Input}

theorem readDataStep_length_lt {buf' : Bytes}
    (h : readDataStep maxSize buf input = (.more buf', rest)) : rest.length < input.length := by
  rcases hread : readString lf input with ⟨result, after⟩
  cases result with
  | error e => simp [readDataStep, hread] at h
  | ok line =>
    have hafter : after = rest := by
      simp only [readDataStep, hread] at h
      split_ifs at h <;> simp_all
    exact hafter ▸ readString_length_lt hread

/-- The `readData` loop from a buffer that holds `buf`. -/
def readDataFrom (maxSize : Nat) (buf : Bytes) (input : List Input) :
    Except DataError Bytes × List Input :=
  match _h : readDataStep maxSize buf input with
  | (.done result, rest) => (result, rest)
  | (.more buf', rest) => readDataFrom maxSize buf' rest
termination_by input.length
decreasing_by exact readDataStep_length_lt _h

/-- Read a message up to the line that holds only a dot. -/
def readData (maxSize : Nat) (input : List Input) : Except DataError Bytes × List Input :=
  readDataFrom maxSize [] input

theorem readDataFrom_of_done {result : Except DataError Bytes}
    (h : readDataStep maxSize buf input = (.done result, rest)) :
    readDataFrom maxSize buf input = (result, rest) := by
  rw [readDataFrom]
  split <;> simp_all

theorem readDataFrom_of_more {buf' : Bytes}
    (h : readDataStep maxSize buf input = (.more buf', rest)) :
    readDataFrom maxSize buf input = readDataFrom maxSize buf' rest := by
  rw [readDataFrom]
  split <;> simp_all

/-! ## The conversation -/

structure InboundAttachment where
  filename : Bytes
  contentType : Bytes
  data : Bytes

structure InboundEmail where
  messageID : Bytes
  mailFrom : Bytes
  toAddr : Bytes
  subject : Bytes
  bodyText : Bytes
  bodyHTML : Bytes
  headers : List (Bytes × Bytes)
  sizeBytes : Nat
  attachments : List InboundAttachment

/-- What the listener uses of a parsed MIME message. -/
structure Envelope where
  headerKeys : List Bytes
  getHeader : Bytes → Bytes
  text : Bytes
  html : Bytes
  attachments : List InboundAttachment
  inlines : List InboundAttachment

structure Listener where
  hostname : Bytes
  maxSize : Nat
  maxSize_pos : 0 < maxSize
  tlsConfig : Bool
  caseMapping : CaseMapping
  canAccept : Nat → Bytes → Bool
  readEnvelope : Bytes → Option Envelope
  enqueue : Nat → Nat → InboundEmail → Bool

/-- A listener without TLS that accepts every recipient and queues every message. -/
def Listener.permissive (maxSize : Nat) (h : 0 < maxSize) : Listener where
  hostname := lit "mx.test"
  maxSize := maxSize
  maxSize_pos := h
  tlsConfig := false
  caseMapping := .ascii
  canAccept _ _ := true
  readEnvelope _ := none
  enqueue _ _ _ := true

/-- Where a conversation stands between two turns. -/
inductive Phase where
  | command
  | closed
  | crashed (p : Panic)
  deriving DecidableEq

structure Session where
  input : List Input
  handshakes : List (List Input)
  mailFrom : Bytes
  rcptTo : List Bytes
  replies : List Bytes
  turn : Nat
  phase : Phase
  deriving DecidableEq

namespace Session

/-- A connection that was just accepted, with the greeting sent. -/
def accept (hostname : Bytes) (input : List Input) (handshakes : List (List Input)) : Session where
  input := input
  handshakes := handshakes
  mailFrom := []
  rcptTo := []
  replies := [lit "220 " ++ hostname ++ lit " ESMTP BurnerByte"]
  turn := 0
  phase := .command

def writef (s : Session) (msg : Bytes) : Session := { s with replies := s.replies ++ [msg] }

def resetEnvelope (s : Session) : Session := { s with mailFrom := [], rcptTo := [] }

end Session

section

variable (l : Listener) (s : Session)

/-- The messages of `processData`, one for each recipient. A message whose MIME
structure cannot be parsed is stored raw. -/
def inboundEmails (mailFrom : Bytes) (rcptTo : List Bytes) (data : Bytes) : List InboundEmail :=
  match l.readEnvelope data with
  | none => rcptTo.map fun addr =>
    { messageID := [], mailFrom := mailFrom, toAddr := addr, subject := lit "(parse error)"
      bodyText := data, bodyHTML := [], headers := [], sizeBytes := data.length
      attachments := [] }
  | some envelope => rcptTo.map fun addr =>
    { messageID := envelope.getHeader (lit "Message-ID"), mailFrom := mailFrom, toAddr := addr
      subject := envelope.getHeader (lit "Subject")
      bodyText := envelope.text, bodyHTML := envelope.html
      headers := envelope.headerKeys.map fun key => (key, envelope.getHeader key)
      sizeBytes := data.length
      attachments := envelope.attachments ++
        envelope.inlines.filter fun att => att.filename ≠ [] }

/-- Every recipient is tried, also after a failure. -/
def processData (turn : Nat) (mailFrom : Bytes) (rcptTo : List Bytes) (data : Bytes) : Bool :=
  (inboundEmails l mailFrom rcptTo data).zipIdx.all fun (email, i) => l.enqueue turn i email

/-- The data phase, from the 354 reply to the turn's end. -/
def receive : Session :=
  let s := s.writef (lit "354 Start mail input; end with <CRLF>.<CRLF>")
  match readData l.maxSize s.input with
  | (.error _, rest) =>
    { s with input := rest }.writef (lit "451 4.3.0 Error reading message data")
  | (.ok data, rest) =>
    let s := { s with input := rest }
    if l.maxSize < data.length then s.writef (lit "552 5.3.4 Message size exceeds limit")
    else if processData l s.turn s.mailFrom s.rcptTo data then
      (s.writef (lit "250 2.0.0 OK: message queued")).resetEnvelope
    else
      (s.writef (lit "451 4.3.0 Service unavailable, try again later")).resetEnvelope

def ehloReplies (arg : Bytes) : List Bytes :=
  [lit "250-" ++ l.hostname ++ lit " Hello " ++ arg,
    lit "250-SIZE " ++ lit (toString l.maxSize), lit "250-8BITMIME", lit "250-PIPELINING"] ++
    (if l.tlsConfig then [lit "250-STARTTLS"] else []) ++ [lit "250 ENHANCEDSTATUSCODES"]

/-- One arm of the command switch. -/
def dispatch (verb : Verb) (arg : Bytes) : Except Panic Session :=
  match verb with
  | .helo => return s.writef (lit "250 " ++ l.hostname ++ lit " Hello " ++ arg)
  | .ehlo => return (ehloReplies l arg).foldl Session.writef s
  | .starttls =>
    if l.tlsConfig then
      let s := s.writef (lit "220 2.0.0 Ready to start TLS")
      match s.handshakes with
      | [] => return { s with phase := .closed }
      -- The buffered plaintext of the old connection is dropped with its reader.
      | stream :: later =>
        return { s with input := stream, handshakes := later }.resetEnvelope
    else return s.writef (lit "502 5.5.1 STARTTLS not available")
  | .mail => do
    let sender ← extractMailParam l.caseMapping arg (lit "FROM")
    if sender = [] then return s.writef (lit "501 5.5.4 Syntax: MAIL FROM:<address>")
    else return { s with mailFrom := sender, rcptTo := [] }.writef (lit "250 2.1.0 OK")
  | .rcpt =>
    if s.mailFrom = [] then return s.writef (lit "503 5.5.1 MAIL FROM required first")
    else do
      let addr ← extractMailParam l.caseMapping arg (lit "TO")
      if addr = [] then return s.writef (lit "501 5.5.4 Syntax: RCPT TO:<address>")
      else if 100 ≤ s.rcptTo.length then return s.writef (lit "452 4.5.3 Too many recipients")
      else if l.canAccept s.turn addr then
        return { s with rcptTo := s.rcptTo ++ [addr] }.writef (lit "250 2.1.5 OK")
      else return s.writef (lit "550 5.1.1 <" ++ addr ++ lit "> Recipient rejected")
  | .data =>
    if s.mailFrom = [] then return s.writef (lit "503 5.5.1 MAIL FROM required first")
    else if s.rcptTo = [] then return s.writef (lit "503 5.5.1 RCPT TO required first")
    else return receive l s
  | .rset => return s.resetEnvelope.writef (lit "250 2.0.0 OK")
  | .noop => return s.writef (lit "250 2.0.0 OK")
  | .vrfy => return s.writef (lit "252 2.5.0 Cannot VRFY user")
  | .quit =>
    return { s.writef (lit "221 2.0.0 " ++ l.hostname ++ lit " closing connection") with
      phase := .closed }
  | .unknown => return s.writef (lit "502 5.5.2 Command not recognized")

/-- Handle one command line, as it was read. -/
def handleLine (line : Bytes) : Except Panic Session :=
  let line := trimRight line crlf
  if line = [] then return s
  else do
    let (cmd, arg) ← parseCommand l.caseMapping line
    dispatch l s (verbOf cmd) arg

/-- One turn of the command loop of `handleConn`. -/
def step : Session :=
  match s.phase with
  | .command =>
    match readString lf s.input with
    | (.error _, rest) => { s with input := rest, phase := .closed }
    | (.ok line, rest) =>
      match handleLine l { s with input := rest, turn := s.turn + 1 } line with
      | .ok s' => s'
      | .error p => { s with input := rest, phase := .crashed p }
  | .closed => s
  | .crashed _ => s

/-- The conversation after `n` turns. -/
def handleConn (n : Nat) (s : Session) : Session := (step l)^[n] s

end

end BurnerByte.Smtp
