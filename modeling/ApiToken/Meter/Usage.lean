import ApiToken.Lib.Text

/-!
# Metering a stream of server-sent events

`usage_from_sse` reads the usage of a whole event stream. `TeeMeter` sees the
stream in the chunks it arrives in, keeps the lines that carry usage and a few
running counters, and computes the usage when the stream ends. JSON texts are
read by a parser that is a parameter, as it is a library of its own.
-/

namespace ApiToken.Meter

/-! ## JSON -/

inductive Number where
  | posInt (n : UInt64)
  | negInt (n : Int64)
  | float (x : Float)

inductive Value where
  | null
  | bool (b : Bool)
  | number (n : Number)
  | string (s : String)
  | array (items : List Value)
  | object (fields : List (String × Value))

/-- The member of an object. -/
def Value.get (key : String) : Value → Option Value
  | .object fields => fields.lookup key
  | _ => none

def Value.asStr : Value → Option String
  | .string s => some s
  | _ => none

def Value.asU64 : Value → Option UInt64
  | .number (.posInt n) => some n
  | _ => none

/-- The libraries the meter calls: the JSON parser, and what the lossy decoder
makes of bytes that are no text. -/
structure Env where
  fromStr : List Char → Option Value
  replaced : List UInt8 → List Char

def Env.fromUtf8Lossy (env : Env) (bytes : List UInt8) : List Char :=
  (fromUtf8 bytes).getD (env.replaced bytes)

/-! ## Usage of a whole stream -/

structure Usage where
  inputTokens : UInt64 := 0
  outputTokens : UInt64 := 0
  cacheReadTokens : UInt64 := 0
  cacheWrite5mTokens : UInt64 := 0
  cacheWrite1hTokens : UInt64 := 0
  webSearchRequests : UInt64 := 0
deriving DecidableEq

def saturatingAdd (a b : UInt64) : UInt64 :=
  if a.toNat + b.toNat < 2 ^ 64 then a + b else UInt64.ofNat (2 ^ 64 - 1)

/-- A counter in a `usage` object. -/
def counter (key : String) (u : Value) : Option UInt64 := (u.get key).bind Value.asU64

def webSearches (u : Value) : Option UInt64 :=
  (u.get "server_tool_use").bind (counter "web_search_requests")

def usageFromValue (u : Value) : Usage :=
  let g (key : String) : UInt64 := (counter key u).getD 0
  let split := u.get "cache_creation"
  let cw5Split := (split.bind (counter "ephemeral_5m_input_tokens")).getD 0
  let cw1Split := (split.bind (counter "ephemeral_1h_input_tokens")).getD 0
  let cwTotal := g "cache_creation_input_tokens"
  let (cw5, cw1) :=
    if cw5Split + cw1Split = 0 ∧ cwTotal > 0 then (cwTotal, 0)
    else (cw5Split, cw1Split)
  { inputTokens := g "input_tokens"
    outputTokens := g "output_tokens"
    cacheReadTokens := g "cache_read_input_tokens"
    cacheWrite5mTokens := cw5
    cacheWrite1hTokens := cw1
    webSearchRequests := (webSearches u).getD 0 }

/-- `value.get("type")` as a string. -/
def eventType (v : Value) : Option String := (v.get "type").bind Value.asStr

def isWebSearch (v : Value) : Bool :=
  let block := v.get "content_block"
  (block.bind (Value.get "type")).bind Value.asStr = some "server_tool_use"
    && (block.bind (Value.get "name")).bind Value.asStr = some "web_search"

def deltaField (v : Value) (field : String) (bytes : UInt64) : UInt64 :=
  match ((v.get "delta").bind (Value.get field)).bind Value.asStr with
  | some text => saturatingAdd bytes (UInt64.ofNat text.utf8ByteSize)
  | none => bytes

def addDelta (v : Value) (bytes : UInt64) : UInt64 :=
  deltaField v "partial_json" (deltaField v "thinking" (deltaField v "text" bytes))

/-- The payload of a `data:` line. -/
def dataJson (line : List Char) : Option (List Char) :=
  (stripPrefix "data:".toList (trimStart line)).map trim

/-- The running state of `usage_from_sse`. -/
structure Scan where
  u : Usage := {}
  haveOutputUsage : Bool := false
  deltaBytes : UInt64 := 0
  observedWebSearchRequests : UInt64 := 0

/-- `message_start` sets every counter but the searches, which it only sets
when it has some. -/
def startUsage (u : Usage) (v : Value) : Usage :=
  match (v.get "message").bind (Value.get "usage") with
  | some mu =>
    let s := usageFromValue mu
    { s with
      webSearchRequests :=
        if s.webSearchRequests > 0 then s.webSearchRequests
        else u.webSearchRequests }
  | none => u

/-- The output tokens a `message_delta` reports. -/
def deltaOutput (v : Value) : Option UInt64 :=
  (v.get "usage").bind (counter "output_tokens")

/-- `message_delta` replaces what it reports. -/
def deltaUsage (u : Usage) (v : Value) : Usage :=
  { u with
    outputTokens := (deltaOutput v).getD u.outputTokens
    webSearchRequests := ((v.get "usage").bind webSearches).getD u.webSearchRequests }

def Scan.event (k : Scan) (v : Value) : Scan :=
  match eventType v with
  | some "content_block_start" =>
    if isWebSearch v then
      { k with
        observedWebSearchRequests := saturatingAdd k.observedWebSearchRequests 1 }
    else k
  | some "content_block_delta" => { k with deltaBytes := addDelta v k.deltaBytes }
  | some "message_start" => { k with u := startUsage k.u v }
  | some "message_delta" =>
    { k with
      u := deltaUsage k.u v
      haveOutputUsage := k.haveOutputUsage || (deltaOutput v).isSome }
  | _ => k

def Scan.line (env : Env) (k : Scan) (raw : List Char) : Scan :=
  match dataJson raw with
  | none => k
  | some json =>
    if json = [] ∨ json = "[DONE]".toList then k
    else
      match env.fromStr json with
      | some v => k.event v
      | none => k

def Scan.finish (k : Scan) : Usage :=
  { k.u with
    webSearchRequests := max k.u.webSearchRequests k.observedWebSearchRequests
    outputTokens :=
      if k.haveOutputUsage then k.u.outputTokens
      else max k.u.outputTokens k.deltaBytes }

def usageFromSse (env : Env) (sse : List Char) : Usage :=
  ((lines sse).foldl (Scan.line env) {}).finish

/-! ## The meter on the stream -/

def sseUsageCap : Nat := 1024 * 1024

def sseLineCap : Nat := 1024 * 1024

structure TeeMeter where
  acc : List UInt8 := []
  sseLine : List UInt8 := []
  sseDropLine : Bool := false
  sseDeltaBytes : UInt64 := 0
  sseWebSearchRequests : UInt64 := 0
  sseOutputTokens : Option UInt64 := none
  sseProtocolValid : Bool := true
  sseSawMessageStart : Bool := false
  sseSawMessageDelta : Bool := false
  sseSawMessageStop : Bool := false
  sseSawError : Bool := false
  outputToolCalls : Bool := false

def TeeMeter.blockStart (m : TeeMeter) (v : Value) : TeeMeter :=
  let kind := ((v.get "content_block").bind (Value.get "type")).bind Value.asStr
  { m with
    sseProtocolValid := if kind = none then false else m.sseProtocolValid
    outputToolCalls := if kind = some "tool_use" then true else m.outputToolCalls
    sseWebSearchRequests :=
      if isWebSearch v then saturatingAdd m.sseWebSearchRequests 1
      else m.sseWebSearchRequests }

/-- The counters and flags an event moves. -/
def TeeMeter.observe (m : TeeMeter) (v : Value) : TeeMeter :=
  match eventType v with
  | some "message_start" => { m with sseSawMessageStart := true }
  | some "content_block_start" => m.blockStart v
  | some "content_block_delta" => { m with sseDeltaBytes := addDelta v m.sseDeltaBytes }
  | some "message_delta" =>
    { m with
      sseSawMessageDelta := true
      sseOutputTokens := (deltaOutput v).or m.sseOutputTokens }
  | some "message_stop" => { m with sseSawMessageStop := true }
  | some "error" => { m with sseSawError := true }
  | _ => m

/-- Events whose line is kept. -/
def relevant (v : Value) : Bool :=
  eventType v = some "message_start" || eventType v = some "message_delta"
    || eventType v = some "error"

/-- A kept line as it is written to `acc`. -/
def keptLine (json : List Char) : List Char :=
  "data: ".toList ++ json ++ "\n\n".toList

def TeeMeter.keep (m : TeeMeter) (line json : List Char) (v : Value) : TeeMeter :=
  if relevant v && m.acc.length + ((utf8 line).length + 8) ≤ sseUsageCap then
    { m with acc := m.acc ++ utf8 (keptLine json) }
  else m

def TeeMeter.line (env : Env) (m : TeeMeter) (bytes : List UInt8) : TeeMeter :=
  match fromUtf8 bytes with
  | none => { m with sseProtocolValid := false }
  | some line =>
    match dataJson line with
    | none => m
    | some json =>
      match env.fromStr json with
      | none => { m with sseProtocolValid := false }
      | some v => (m.observe v).keep line json v

def TeeMeter.byte (env : Env) (m : TeeMeter) (b : UInt8) : TeeMeter :=
  if m.sseDropLine then
    if b = 10 then { m with sseDropLine := false } else m
  else if b ≠ 10 then
    if m.sseLine.length < sseLineCap then { m with sseLine := m.sseLine ++ [b] }
    else
      { m with sseLine := [], sseDropLine := true, sseProtocolValid := false }
  else { m with sseLine := [] }.line env m.sseLine

def TeeMeter.retainSseUsage (env : Env) (m : TeeMeter) (chunk : List UInt8) :
    TeeMeter :=
  chunk.foldl (TeeMeter.byte env) m

/-- The usage `finalize` computes for an event stream. -/
def TeeMeter.finalUsage (env : Env) (m : TeeMeter) : Usage :=
  let usage := usageFromSse env (env.fromUtf8Lossy m.acc)
  { usage with
    webSearchRequests := max usage.webSearchRequests m.sseWebSearchRequests
    outputTokens :=
      match m.sseOutputTokens with
      | some outputTokens => outputTokens
      | none => max usage.outputTokens m.sseDeltaBytes }

end ApiToken.Meter
