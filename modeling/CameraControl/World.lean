import CameraControl.Library.Backend

/-
  The world of a program that uses cameras.

  Besides the driver and the way to it, the world has the tokens of all subscriptions ever made,
  the sessions of the cameras that are open, each with the tokens that are live in it, and a history
  of all that happened: the calls that the driver got, the notifications that tokens got, and what
  the user's own code was asked to do. `dispatch` decides what a notification does to a token;
  `call` makes a call and delivers the notices that it causes.

  A subscriber may make a call of its own when it is invoked for the first time, and that call may
  cause further notices before it returns. Each such call uses up the first invocation of a token,
  so the number of tokens that still have one bounds how deeply notices are nested.

  Where the backend is the library, the library stands in front of the driver for the program's own
  calls only. A subscriber has the driver itself at hand and calls it directly, by either backend,
  so the texts of its call are neither encoded nor scanned, and none of them is too long to arrive.
-/

namespace CameraControl

/-- What a subscriber does with a notification: report success, report failure, or break down. -/
inductive Reaction where
  | accept | reject | panic
  deriving DecidableEq, Repr

/-- A subscription as its owner sees it. -/
structure Token where
  /-- The name by which the record calls the token. -/
  label : String
  /-- The session of the camera that issued the token. -/
  session : Nat
  handle : Int32
  feature : Feature
  /-- The reactions to the first invocations; the last one counts for all later ones. -/
  reactions : List Reaction
  /-- The call that the subscriber makes when it is first invoked. -/
  nested : Option Call
  /-- Whether the notification that belongs to the subscription itself has come. -/
  precalled : Bool
  /-- How often the subscriber was invoked. -/
  invocations : Nat
  deriving DecidableEq

namespace Token

/-- The reaction to an invocation, counted from zero. -/
def reaction (t : Token) (i : Nat) : Reaction :=
  (t.reactions[min i (t.reactions.length - 1)]?).getD .accept

/-- A token as its type and fields. -/
def inspect (t : Token) : String :=
  "CallbackToken \x7b feature: " ++ t.feature.identifier ++ ", precalled: "
    ++ toString t.precalled ++ ", .. \x7d"

/-- Whether the subscriber still has a call of its own to make. -/
def willCall (t : Token) : Bool := t.nested.isSome && t.invocations == 0

end Token

/-- What the user's own code was asked to do. -/
inductive Event where
  /-- A subscriber was invoked. -/
  | invoked (token : String) (feature : Feature)
  /-- A subscriber's own call has returned. -/
  | nested (token : String) (call : Call) (reply : Reply)
  /-- The host lock was given up. -/
  | released (lock : String)
  /-- The host lock was taken back. -/
  | reacquired (lock : String)
  deriving DecidableEq

/-- A notification as it came to a token. -/
structure Delivery where
  token : Nat
  handle : Int32
  reported : String
  /-- Whether the token was live at that moment. -/
  live : Bool
  deriving DecidableEq

/-- What can happen in the world. -/
inductive Happening where
  /-- The driver got a call and replied. -/
  | called (call : Call) (reply : Reply)
  | scripted (s : Scripting)
  | delivered (d : Delivery)
  | event (e : Event)
  deriving DecidableEq

/-- What the user's own code was asked to do, if a happening is about that. -/
def Happening.event? : Happening → Option Event
  | event e => some e
  | _ => none

/-- The session of an open camera: its handle, and the tokens that are live in it in the order of
    their subscriptions. -/
structure Session where
  id : Nat
  handle : Int32
  live : List Nat
  deriving DecidableEq

/-- The world of a program that uses cameras. Tokens are known by their places in the list. -/
structure World where
  backend : Backend
  driver : Driver
  tokens : List Token
  sessions : List Session
  nextSession : Nat
  /-- What has happened, the latest first. Something that takes a while has its place by when it
      began; a subscriber's own call is noted again when it has returned. -/
  history : List Happening

/-- What a notification comes to. -/
inductive Verdict where
  | answered (success : Bool)
  | refused (breach : Breach)
  | panicked
  deriving DecidableEq

/-- The status that the driver gets back for a notification. -/
def Verdict.status : Verdict → Status
  | answered true => Status.success
  | answered false => Status.callbackFailed
  | refused _ => Status.callbackMismatch
  | panicked => Status.callbackFailed

/-- What a notification comes to when the subscriber has reacted to it. -/
def Reaction.verdict : Reaction → Verdict
  | accept => .answered true
  | reject => .answered false
  | panic => .panicked

namespace World

/-- A world around a driver in which nothing has happened yet. -/
def ofDriver (backend : Backend) (driver : Driver) : World :=
  { backend := backend
    driver := driver
    tokens := []
    sessions := []
    nextSession := 0
    history := [] }

/-- Adds a happening to the history. -/
def note (w : World) (h : Happening) : World := { w with history := h :: w.history }

/-- Adds something that the user's own code was asked to do. -/
def record (w : World) (e : Event) : World := w.note (.event e)

/-- What the user's own code was asked to do since an earlier moment, in order. -/
def eventsSince (w earlier : World) : List Event :=
  (w.history.take (w.history.length - earlier.history.length)).reverse.filterMap Happening.event?

/-- Changes a token. -/
def modifyToken (w : World) (token : Nat) (f : Token → Token) : World :=
  { w with tokens := w.tokens.modify token f }

/-- Adds a token. -/
def issue (w : World) (t : Token) : World := { w with tokens := w.tokens ++ [t] }

/-- Begins a session. -/
def beginSession (w : World) (handle : Int32) : World :=
  { w with
    sessions := w.sessions ++ [⟨w.nextSession, handle, []⟩]
    nextSession := w.nextSession + 1 }

/-- Ends a session. -/
def endSession (w : World) (session : Nat) : World :=
  { w with sessions := w.sessions.filter fun s => s.id != session }

/-- The tokens that are live in a session, if it is open. -/
def live? (w : World) (session : Nat) : Option (List Nat) :=
  (w.sessions.find? fun s => s.id == session).map Session.live

/-- Changes the list of tokens that are live in a session. -/
def modifyLive (w : World) (session : Nat) (f : List Nat → List Nat) : World :=
  { w with
    sessions := w.sessions.map fun s =>
      if s.id = session then { s with live := f s.live } else s }

/-- Whether a token is live: its session is open and the token has not been given back. -/
def isLive (w : World) (session token : Nat) : Bool :=
  match w.live? session with
  | some live => live.contains token
  | none => false

/-- How many tokens still have a call of their own to make. -/
def pendingCalls (w : World) : Nat := w.tokens.countP Token.willCall

/-- What a notification to a token comes to if it gets as far as the subscriber; otherwise, why it
    ends before. -/
inductive Admission where
  /-- It does not fit the subscription. -/
  | mismatch (breach : Breach)
  /-- The token is not live any more. -/
  | stale
  /-- It belongs to the subscription itself. -/
  | precall
  /-- The subscriber is to be invoked. -/
  | invoke
  deriving DecidableEq

/-- How far a notification to a token gets. -/
def admission (w : World) (token : Nat) (t : Token) (handle : Int32) (reported : String) :
    Admission :=
  if !keysMatch reported t.feature.key then .mismatch (.otherFeature t.feature reported)
  else if handle ≠ t.handle then .mismatch (.otherHandle t.feature t.handle handle)
  else if !w.isLive t.session token then .stale
  else if !t.precalled then .precall
  else .invoke

/-- A notification as it comes to a token now. -/
def delivery (w : World) (token : Nat) (t : Token) (handle : Int32) (reported : String) :
    Delivery :=
  ⟨token, handle, reported, w.isLive t.session token⟩

/-- Notes that a notification came to a token. -/
def hear (w : World) (token : Nat) (t : Token) (handle : Int32) (reported : String) : World :=
  w.note (.delivered (w.delivery token t handle reported))

/-- Absorbs the notification that belongs to a subscription itself. -/
def absorb (w : World) (token : Nat) : World :=
  w.modifyToken token fun t => { t with precalled := true }

/-- Asks the subscriber behind a token to act. -/
def invoke (w : World) (token : Nat) (t : Token) : World :=
  (w.modifyToken token fun t => { t with invocations := t.invocations + 1 }).record
    (.invoked t.label t.feature)

/-- The world after the driver got a call; the notices are still to be delivered. -/
def take (w : World) (c : Call) : World :=
  { w with driver := (w.driver.step c).driver }.note (.called c (w.driver.step c).reply)

/-- Delivers a notification to a token, with calls of subscribers nested up to a depth. -/
def dispatchWithin : Nat → Nat → Int32 → String → World → Verdict × World
  | depth, token, handle, reported, w =>
    match w.tokens[token]? with
    | none => (.answered true, w)
    | some t =>
      let heard := w.hear token t handle reported
      match w.admission token t handle reported with
      | .mismatch breach => (.refused breach, heard)
      | .stale => (.answered true, heard)
      | .precall => (.answered true, heard.absorb token)
      | .invoke =>
        let w := heard.invoke token t
        let w :=
          if t.willCall then
            match depth, t.nested with
            | depth + 1, some c =>
              let delivered := (w.driver.step c).notices.foldl
                (fun w n =>
                  (dispatchWithin depth n.token n.handle (Text.Wide.scan (some n.reported)) w).2)
                (w.take c)
              delivered.record (.nested t.label c (w.driver.step c).reply)
            | _, _ => w
          else w
        ((t.reaction t.invocations).verdict, w)

/-- Delivers a notification of a change to a token. -/
def dispatch (w : World) (token : Nat) (handle : Int32) (reported : String) : Verdict × World :=
  dispatchWithin w.pendingCalls token handle reported w

/-- Delivers a notice that comes from the driver. -/
def deliver (w : World) (n : Notice) : Status × World :=
  let (verdict, w) := w.dispatch n.token n.handle (Text.Wide.scan (some n.reported))
  (verdict.status, w)

/-- Delivers notices one after another. -/
def deliverAll (w : World) : List Notice → List Status × World
  | [] => ([], w)
  | n :: rest =>
    let (status, w) := w.deliver n
    let (statuses, w) := w.deliverAll rest
    (status :: statuses, w)

/-- Makes a call of the driver by way of the backend and delivers the notices that it causes. A call
    that the backend refuses does not get to the driver. -/
def call (w : World) (c : Call) : Reply × World :=
  match w.backend.pass? c with
  | none => (⟨Status.notImplemented, none⟩, w)
  | some c => ((w.driver.step c).reply, ((w.take c).deliverAll (w.driver.step c).notices).2)

/-- Scripts the driver. -/
def script (w : World) (s : Scripting) : World :=
  { w with driver := w.driver.script s }.note (.scripted s)

end World

end CameraControl
