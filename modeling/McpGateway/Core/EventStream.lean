import McpGateway.Session.Meta

/-!
# The SSE drain loop against the event-stream grammar

For each message it takes, the drain loop of `handleGet` writes an event when the event name is
`message`, and then the message printed with `fmt.Fprint` with no line break. `parse` is the
client side, the event-stream interpretation of the HTML standard. `parse_drainOutput`: the
client dispatches exactly the `message` events, in order, each with its data; the raw print is
glued to the next `event:` line and ignored, and every other event is lost (`drain_loses_ping`).
-/

namespace McpGateway.Core

open Session

/-- `fmt.Fprint(w, event)` of a `*Message`. -/
def goPrint (m : Message) : String := "&\x7b" ++ m.event ++ " " ++ m.data ++ "\x7d"

def drainWrite (m : Message) : String :=
  (match m.event with
   | "message" => "event: message\ndata: " ++ m.data ++ "\n\n"
   | _ => "") ++ goPrint m

def drainOutput : List Message → String
  | [] => ""
  | m :: ms => drainWrite m ++ drainOutput ms

-- ---------------------------------------------------------------------------
-- The client's parser
-- ---------------------------------------------------------------------------

structure SseEvent where
  type : String
  data : String
  deriving DecidableEq, Repr

@[ext]
structure Parser where
  line : List Char
  eventType : List Char
  data : List Char
  afterCR : Bool
  events : List SseEvent

namespace Parser

def init : Parser := ⟨[], [], [], false, []⟩

def dispatch (p : Parser) : Parser :=
  if p.data = [] then { p with eventType := [], data := [] }
  else
    { p with
      events := p.events ++ [⟨String.mk (if p.eventType = [] then "message".data else p.eventType),
        String.mk p.data.dropLast⟩]
      eventType := [], data := [] }

def field (name value : List Char) (p : Parser) : Parser :=
  if name = "event".data then { p with eventType := value }
  else if name = "data".data then { p with data := p.data ++ value ++ ['\n'] }
  else p

def dropSpace : List Char → List Char
  | ' ' :: v => v
  | v => v

def processLine (line : List Char) (p : Parser) : Parser :=
  match line with
  | [] => p.dispatch
  | ':' :: _ => p
  | _ =>
    match line.dropWhile (· ≠ ':') with
    | [] => p.field line []
    | _ :: value => p.field (line.takeWhile (· ≠ ':')) (dropSpace value)

def feedChar (p : Parser) (c : Char) : Parser :=
  if c = '\n' then
    if p.afterCR then { p with afterCR := false } else processLine p.line { p with line := [] }
  else if c = '\r' then { processLine p.line { p with line := [] } with afterCR := true }
  else { p with line := p.line ++ [c], afterCR := false }

def feed (p : Parser) (cs : List Char) : Parser := cs.foldl feedChar p

end Parser

/-- The events a client dispatches from the bytes `body`. -/
def parse (body : String) : List SseEvent := (Parser.init.feed body.data).events

-- ---------------------------------------------------------------------------
-- Feeding the parser
-- ---------------------------------------------------------------------------

def Plain (cs : List Char) : Prop := ∀ c ∈ cs, c ≠ '\n' ∧ c ≠ '\r'

instance : DecidablePred Plain := fun cs => inferInstanceAs (Decidable (∀ c ∈ cs, _))

theorem plain_append {xs ys : List Char} : Plain (xs ++ ys) ↔ Plain xs ∧ Plain ys :=
  List.forall_mem_append

namespace Parser

variable {p : Parser}

theorem feed_append (p : Parser) (xs ys : List Char) : p.feed (xs ++ ys) = (p.feed xs).feed ys :=
  List.foldl_append _ _ _ _

theorem feed_plain {cs : List Char} (hp : p.afterCR = false) (h : Plain cs) :
    p.feed cs = { p with line := p.line ++ cs } := by
  induction cs generalizing p with
  | nil => simp [feed]
  | cons c cs ih =>
    obtain ⟨h1, h2⟩ := h c (.head _)
    have := ih (p := { p with line := p.line ++ [c], afterCR := false }) rfl fun x hx => h x (.tail _ hx)
    simp only [feed, List.foldl_cons, feedChar, h1, h2, if_false] at this ⊢
    rw [this]
    simp [hp]

theorem feed_newline (hp : p.afterCR = false) : p.feed ['\n'] = processLine p.line { p with line := [] } := by
  simp [feed, feedChar, hp]

theorem feed_line {l : List Char} (hp : p.afterCR = false) (hl : Plain l) :
    p.feed (l ++ ['\n']) = processLine (p.line ++ l) { p with line := [] } := by
  rw [feed_append, feed_plain hp hl]
  exact feed_newline (p := { p with line := p.line ++ l }) hp

theorem field_of_amp {name : List Char} (hn : name.head? = some '&') (v : List Char) (p : Parser) :
    p.field name v = p := by
  have he : name ≠ "event".data := by rintro rfl; exact absurd hn (by decide)
  have hd : name ≠ "data".data := by rintro rfl; exact absurd hn (by decide)
  simp [field, he, hd]

theorem processLine_amp {line : List Char} (hl : line.head? = some '&') (p : Parser) :
    processLine line p = p := by
  obtain ⟨rest, rfl⟩ : ∃ rest, line = '&' :: rest := by
    cases line with
    | nil => cases hl
    | cons c rest => cases hl; exact ⟨rest, rfl⟩
  have hne : ('&' : Char) ≠ ':' := by decide
  unfold processLine
  split
  · contradiction
  · simp_all
  · simp only [List.dropWhile_cons, List.takeWhile_cons, hne, ne_eq, not_false_eq_true,
      decide_True, if_true]
    split <;> (apply field_of_amp; rfl)

theorem processLine_data (value : List Char) (p : Parser) :
    processLine ("data: ".data ++ value) p = { p with data := p.data ++ value ++ ['\n'] } := rfl

end Parser

-- ---------------------------------------------------------------------------
-- One turn of the drain loop
-- ---------------------------------------------------------------------------

theorem drainWrite_message {m : Message} (h : m.event = "message") :
    (drainWrite m).data = "event: message".data ++ ['\n'] ++
      ("data: ".data ++ m.data.data ++ ['\n'] ++ ['\n']) ++ (goPrint m).data := by
  simp [drainWrite, h, String.data_append]

theorem drainWrite_other {m : Message} (h : m.event ≠ "message") : drainWrite m = goPrint m := by
  simp [drainWrite, h]

/-- Between two turns of the drain loop: no event is buffered, and the current line is empty
or the start of a raw print. -/
structure Quiet (p : Parser) : Prop where
  eventType : p.eventType = []
  data : p.data = []
  afterCR : p.afterCR = false
  line : p.line = [] ∨ p.line.head? = some '&'

theorem quiet_init : Quiet Parser.init := ⟨rfl, rfl, rfl, .inl rfl⟩

theorem goPrint_head (m : Message) : (goPrint m).data.head? = some '&' := by
  simp [goPrint, String.data_append]

theorem plain_goPrint {m : Message} (he : Plain m.event.data) (hd : Plain m.data.data) :
    Plain (goPrint m).data := by
  simp only [goPrint, String.data_append, plain_append]
  exact ⟨⟨⟨⟨by decide, he⟩, by decide⟩, hd⟩, by decide⟩

variable {p : Parser} {m : Message}

theorem Quiet.feed_goPrint (hq : Quiet p) (hm : Plain (goPrint m).data) :
    Quiet (p.feed (goPrint m).data) ∧ (p.feed (goPrint m).data).events = p.events := by
  rw [Parser.feed_plain hq.afterCR hm]
  refine ⟨⟨hq.eventType, hq.data, hq.afterCR, .inr ?_⟩, rfl⟩
  rcases hq.line with h | h <;> simp [h, goPrint_head]

theorem feed_dataBlank {D : List Char} (hD : Plain D) (hp : p.afterCR = false) (hl : p.line = [])
    (hd : p.data = []) (ht : p.eventType = [] ∨ p.eventType = "message".data) :
    p.feed ("data: ".data ++ D ++ ['\n'] ++ ['\n']) =
      { p with eventType := [], events := p.events ++ [⟨"message", String.mk D⟩] } := by
  have hplain : Plain ("data: ".data ++ D) := plain_append.mpr ⟨by decide, hD⟩
  have htype : String.mk (if p.eventType = [] then "message".data else p.eventType) = "message" := by
    rcases ht with h | h <;> simp [h]
  rw [Parser.feed_append, Parser.feed_line hp hplain, hl, List.nil_append, Parser.processLine_data]
  simp [Parser.feed_newline, hp, Parser.processLine, Parser.dispatch, hd, htype]

theorem Quiet.feed_eventLine (hq : Quiet p) :
    ∃ t, (t = [] ∨ t = "message".data) ∧
      p.feed ("event: message".data ++ ['\n']) = { p with line := [], eventType := t } := by
  rw [Parser.feed_line hq.afterCR (by decide)]
  rcases hq.line with h | h
  · exact ⟨_, .inr rfl, by rw [h]; rfl⟩
  · refine ⟨[], .inl rfl, ?_⟩
    rw [Parser.processLine_amp (by simp [h])]
    ext <;> simp [hq.eventType]

theorem Quiet.feed_message (hq : Quiet p) (hd : Plain m.data.data) :
    p.feed ("event: message".data ++ ['\n'] ++ ("data: ".data ++ m.data.data ++ ['\n'] ++ ['\n'])) =
      { p with line := [], events := p.events ++ [⟨"message", m.data⟩] } := by
  obtain ⟨t, ht, he⟩ := hq.feed_eventLine
  rw [Parser.feed_append, he,
    feed_dataBlank (p := { p with line := [], eventType := t }) hd hq.afterCR rfl hq.data ht]
  ext <;> simp [hq.eventType]

def received (ms : List Message) : List SseEvent :=
  (ms.filter fun m => m.event == "message").map fun m => ⟨"message", m.data⟩

theorem received_cons (m : Message) (ms : List Message) :
    received (m :: ms) = received [m] ++ received ms := by
  by_cases h : m.event = "message" <;> simp [received, List.filter_cons, h]

theorem Quiet.feed_drainWrite (hq : Quiet p) (he : Plain m.event.data) (hd : Plain m.data.data) :
    Quiet (p.feed (drainWrite m).data) ∧ (p.feed (drainWrite m).data).events = p.events ++ received [m] := by
  by_cases h : m.event = "message"
  · rw [drainWrite_message h, Parser.feed_append, hq.feed_message hd]
    have hq' : Quiet { p with line := [], events := p.events ++ [⟨"message", m.data⟩] } :=
      ⟨hq.eventType, hq.data, hq.afterCR, .inl rfl⟩
    obtain ⟨hq'', hev⟩ := hq'.feed_goPrint (plain_goPrint he hd)
    exact ⟨hq'', by simp [hev, received, h]⟩
  · rw [drainWrite_other h]
    obtain ⟨hq', hev⟩ := hq.feed_goPrint (plain_goPrint he hd)
    exact ⟨hq', by simp [hev, received, h]⟩

theorem Quiet.feed_drainOutput {ms : List Message} (hq : Quiet p)
    (hms : ∀ m ∈ ms, Plain m.event.data ∧ Plain m.data.data) :
    (p.feed (drainOutput ms).data).events = p.events ++ received ms := by
  induction ms generalizing p with
  | nil => simp [drainOutput, Parser.feed, received]
  | cons m ms ih =>
    obtain ⟨hq', hev⟩ := hq.feed_drainWrite (hms m (.head _)).1 (hms m (.head _)).2
    rw [drainOutput, String.data_append, Parser.feed_append, ih hq' fun x hx => hms x (.tail _ hx),
      hev, received_cons m ms, List.append_assoc]

/-- What a client parses from the drain loop's output: the `message` events, in order, each
with its data, and nothing for any other event. -/
theorem parse_drainOutput (ms : List Message)
    (hms : ∀ m ∈ ms, Plain m.event.data ∧ Plain m.data.data) :
    parse (drainOutput ms) = received ms :=
  quiet_init.feed_drainOutput hms

theorem drain_loses_ping : parse (drainOutput [⟨"ping", "{}"⟩]) = [] := by decide

end McpGateway.Core
