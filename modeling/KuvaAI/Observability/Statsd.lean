import KuvaAI.Python.Value
import KuvaAI.Lib.BoundedDeque
import KuvaAI.Lib.Runs

/-! The buffering of statsd.py: submissions, flushes and the outcomes of the sends.
A UDP send never suspends, so a flush over UDP is one step of the event loop. Over TCP
and TLS `_send` asks for `_conn_lock`, which the flush itself holds and which is not
reentrant: such a flush waits for ever at its first chunk. -/
namespace KuvaAI.Statsd
open Python

inductive Protocol where
  | udp | tcp | tls
  deriving DecidableEq, Repr

/-- The fields that the connection alone reads are left out. -/
structure StatsDConfig where
  protocol : Protocol
  bufferSize : Nat
  bufferSizePositive : 0 < bufferSize
  sampleRate : Flt
  mtu : Nat
  tags : Dict String String

structure Client where
  config : StatsDConfig
  buffer : BoundedDeque String
  sent : Nat
  dropped : Nat
  errors : Nat
  /-- `_conn_lock` is held by a flush that waits for it. -/
  locked : Bool

def Client.init (config : StatsDConfig) : Client :=
  ⟨config, .empty config.bufferSize, 0, 0, 0, false⟩

/-- A client with the record of what was submitted to it and of the chunks whose send
succeeded, each as the lines that its datagram joins. -/
structure World where
  client : Client
  submitted : List String
  delivered : List (List String)

def World.init (config : StatsDConfig) : World := ⟨.init config, [], []⟩

section Submit

-- `str` of an int or a float
variable (text : Value → String)

structure Metric where
  name : String
  value : Value
  metricType : String
  sampleRate : Option Flt
  tags : Option (Dict String String)

def Metric.rate (config : StatsDConfig) (m : Metric) : Flt := m.sampleRate.getD config.sampleRate

/-- `draw` is the answer of `random.random()`. -/
def Metric.sampled (config : StatsDConfig) (m : Metric) (draw : Flt) : Bool :=
  !((m.rate config).lt (.finite 1) && (m.rate config).lt draw)

def mergedTags (config : StatsDConfig) (tags : Option (Dict String String)) : Dict String String :=
  ((tags.getD .empty).entries).foldl (fun all tag => all.set tag.1 tag.2) config.tags

def tagString (tags : Dict String String) : String :=
  ",".intercalate (tags.entries.map fun tag => tag.1 ++ "=" ++ tag.2)

def Metric.parts (config : StatsDConfig) (m : Metric) : List String :=
  [m.name ++ ":" ++ text m.value ++ "|" ++ m.metricType] ++
    (if (m.rate config).lt (.finite 1) then ["@" ++ text (.float (m.rate config))] else []) ++
    (if (m.tags.getD .empty).entries ≠ [] ∨ config.tags.entries ≠ [] then
      ["|#" ++ tagString (mergedTags config m.tags)] else [])

def Metric.line (config : StatsDConfig) (m : Metric) : String := "".intercalate (m.parts text config)

def Client.append (c : Client) (line : String) : Client := { c with buffer := c.buffer.push line }

/-- A full buffer also has a flush scheduled, which is a step of its own. -/
def submit (m : Metric) (draw : Flt) (w : World) : World :=
  if m.sampled w.client.config draw then
    let line := m.line text w.client.config
    { w with client := w.client.append line, submitted := w.submitted ++ [line] }
  else w

end Submit

section Flush

def drain (mtu : Nat) : List String → List (List String) → List String → Nat → List (List String)
  | [], chunks, currentChunk, _ => if currentChunk = [] then chunks else chunks ++ [currentChunk]
  | metric :: rest, chunks, currentChunk, currentSize =>
    let metricSize := metric.utf8ByteSize
    if currentSize + metricSize > mtu then
      drain mtu rest (chunks ++ [currentChunk]) [metric] (metricSize + 1)
    else
      drain mtu rest chunks (currentChunk ++ [metric]) (currentSize + metricSize + 1)

def Client.chunks (c : Client) : List (List String) := drain c.config.mtu c.buffer.items [] [] 0

def World.sendOk (w : World) (chunk : List String) : World where
  client := { w.client with sent := w.client.sent + 1 }
  submitted := w.submitted
  delivered := w.delivered ++ [chunk]

def World.sendError (w : World) : World :=
  { w with client := { w.client with errors := w.client.errors + 1 } }

/-- Sends the chunks until one fails; `fails` tells it of the i-th send of this flush. -/
def sendAll (fails : Nat → Bool) : Nat → List (List String) → World → Except Unit Unit × World
  | _, [], w => (.ok (), w)
  | i, chunk :: rest, w =>
    if fails i then (.error (), w.sendError) else sendAll fails (i + 1) rest (w.sendOk chunk)

def World.emptied (w : World) : World :=
  { w with client := { w.client with buffer := .empty w.client.buffer.limit } }

/-- The `except` clause: what is in the buffer by now counts as dropped. -/
def World.clear (w : World) : World :=
  { w with client := { w.client with
      dropped := w.client.dropped + w.client.buffer.items.length,
      buffer := .empty w.client.buffer.limit } }

def World.lock (w : World) : World := { w with client := { w.client with locked := true } }

def flush (fails : Nat → Bool) (w : World) : World :=
  if w.client.locked then w
  else if w.client.buffer.items = [] then w
  else match w.client.config.protocol with
    | .udp =>
      match sendAll fails 0 w.client.chunks w.emptied with
      | (.ok (), sent) => sent
      | (.error (), failed) => failed.clear
    | .tcp | .tls => w.emptied.lock

end Flush

inductive Action where
  | submit (m : Metric) (draw : Flt)
  | flush (fails : Nat → Bool)

def step (text : Value → String) (w : World) : Action → World
  | .submit m draw => submit text m draw w
  | .flush fails => flush fails w

end KuvaAI.Statsd
