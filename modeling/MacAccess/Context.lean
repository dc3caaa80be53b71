import MacAccess.Host
import MacAccess.Nonce
import MacAccess.Text.Outline
import MacAccess.Text.Quoted

/-!
# Contexts

A context says by which means an operation reaches the host: how it reads files and the
environment, and where time and nonces come from. It is fixed once built. What it gives depends on
the host it is used on, and reading time or drawing a nonce leaves the host after that use.
-/

namespace MacAccess

/-! ## Means -/

inductive FileAccess where
  | unavailable
  | disk

inductive Environment where
  | empty
  /-- The variables of the host. -/
  | process
  /-- A home directory and variables of its own. -/
  | fixed (home : Option Bytes) (vars : List (String × String))

inductive Clock where
  | system
  | fixed (t : Timestamp)
  /-- A clock that gives its readings one after another. -/
  | scripted (name : String) (readings : Nat → Timestamp)

inductive NonceSource where
  | random (generator : RandomNonce)
  | fixed (text : String)
  /-- A source that gives its texts one after another. -/
  | scripted (name : String) (texts : Nat → String)

structure Context where
  files : FileAccess
  environment : Environment
  clock : Clock
  nonces : NonceSource

/-- A context that reaches neither files nor variables. -/
def Context.bare : Context := ⟨.unavailable, .empty, .system, .random .standard⟩

/-- A context on the file system and the variables of the host. -/
def Context.standard : Context := ⟨.disk, .process, .system, .random .standard⟩

/-! ## Reaching the host -/

namespace Context

variable {σ : Type}

/-- The value of a variable. One that is not text counts as absent. -/
def variableText? (c : Context) (h : Host σ) (name : String) : Option String :=
  match c.environment with
  | .empty => none
  | .process => h.vars.lookup name >>= Utf8.decode?
  | .fixed _ vars => vars.lookup name

/-- The home directory. A process finds it in the variable `HOME`, even an empty one, and asks the
system where that variable is not set. -/
def home? (c : Context) (h : Host σ) : Option Bytes :=
  match c.environment with
  | .empty => none
  | .process => (h.vars.lookup "HOME").or h.userHome
  | .fixed home _ => home

/-- A path with the tilde at its start replaced by the home directory. Only a tilde before a slash
or a backslash stands for it. -/
def expandHome? (c : Context) (h : Host σ) (path : String) : Option String :=
  match path.toList with
  | '~' :: '/' :: _ | '~' :: '\\' :: _ =>
    (c.home? h).map fun home => Utf8.decodeLossy home ++ String.ofList (path.toList.drop 1)
  | _ => some path

def fileOctets (c : Context) (h : Host σ) (path : String) : Except Failure Bytes :=
  match c.files with
  | .unavailable => .error (.unexpected "file reading not supported: no file reader configured")
  | .disk =>
    match h.files.lookup path with
    | some content => .ok content
    | none => .error ((Failure.unexpected s!"failed to read file {path}").dueTo .operatingSystem)

/-- The content of a file as text, whatever its octets are. -/
def fileText (c : Context) (h : Host σ) (path : String) : Except Failure String :=
  (c.fileOctets h path).map Utf8.decodeLossy

/-- What the clock shows at its next reading. -/
def reading (c : Context) (h : Host σ) : Timestamp :=
  match c.clock with
  | .system => h.time h.clockReads
  | .fixed t => t
  | .scripted _ readings => readings h.clockReads

/-- Reads the clock. -/
def readClock (c : Context) (h : Host σ) : Timestamp × Host σ :=
  (c.reading h, { h with clockReads := h.clockReads + 1 })

/-- The nonce that the next draw gives. -/
def nextNonce (c : Context) (h : Host σ) : String :=
  match c.nonces with
  | .random generator => RandomNonce.ofDraw (h.entropy h.nonceDraws generator.length)
  | .fixed text => text
  | .scripted _ texts => texts h.nonceDraws

/-- Draws a nonce. -/
def drawNonce (c : Context) (h : Host σ) : String × Host σ :=
  (c.nextNonce h, { h with nonceDraws := h.nonceDraws + 1 })

end Context

/-! ## Outlines -/

def FileAccess.outline : FileAccess → String
  | .unavailable => "NoopFileRead"
  | .disk => "TokioFileRead"

def Environment.outline : Environment → String
  | .empty => "NoopEnv"
  | .process => "OsEnv"
  | .fixed home vars =>
    Outline.record "StaticEnv" [
      ("home_dir", Outline.optional (home.map Text.quotedPath)),
      ("envs", Outline.mapping (vars.map fun v => (Text.quoted v.1, Text.quoted v.2)))]

def Clock.outline : Clock → String
  | .system => "SystemClock"
  | .fixed t => Outline.applied "FixedClock" (toString t.toInt)
  | .scripted name _ => name

def NonceSource.outline : NonceSource → String
  | .random generator =>
    Outline.record "RandomNonce" [("len", toString generator.length)]
  | .fixed text => Outline.applied "StaticNonce" (Text.quoted text)
  | .scripted name _ => name

def Context.outline (c : Context) : String :=
  Outline.record "Context" [
    ("fs", c.files.outline), ("env", c.environment.outline), ("clock", c.clock.outline),
    ("nonce", c.nonces.outline)]

end MacAccess
