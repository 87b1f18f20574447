import OpenRazer.Library.Fields
import OpenRazer.Scrape
import OpenRazer.Serve

namespace OpenRazer

def CONTENT_LENGTH : String := "Content-Length: "

/-- An answer as its reader takes it apart: lines up to a blank one, of which
one says how many bytes of body follow. -/
def Framed (answer body : String) : Prop :=
  ∃ head : List String, answer = String.join (head.map (· ++ "\r\n")) ++ "\r\n" ++ body ∧
    (∀ line ∈ head, line ≠ "" ∧ '\r' ∉ line.toList ∧ '\n' ∉ line.toList) ∧
    head.filter (fun line => CONTENT_LENGTH.toList.isPrefixOf line.toList) = [CONTENT_LENGTH ++ Nat.repr (Utf8.bytes body).length]

/-- The peer sends more for its request line than is buffered of one. -/
def Cut (source : Stream.Source) : Prop :=
  ∀ i < MAX_REQUEST_LINE, ∃ b, source i = .byte b ∧ b ≠ NEWLINE

/-- The text does not break a line. -/
def OneLine (text : String) : Prop :=
  '\r' ∉ text.toList ∧ '\n' ∉ text.toList

theorem OneLine.append {s t : String} (first : OneLine s) (second : OneLine t) : OneLine (s ++ t) := by
  simp only [OneLine, String.toList_append, List.mem_append, not_or]
  exact ⟨⟨first.1, second.1⟩, first.2, second.2⟩

theorem OneLine.repr (n : Nat) : OneLine (Nat.repr n) := by
  have digits : ∀ c ∈ (Nat.repr n).toList, c.isDigit = true := by
    intro c member
    exact Binary64.isDigit_toDigits n c (by simpa [Nat.repr] using member)
  refine ⟨fun member => ?_, fun member => ?_⟩
  · exact absurd (digits _ member) (by decide)
  · exact absurd (digits _ member) (by decide)

theorem framed_response {status ctype : String} (status_line : OneLine status) (ctype_line : OneLine ctype) (body : String) :
    Framed (response status ctype body) body := by
  refine ⟨["HTTP/1.1 " ++ status, "Content-Type: " ++ ctype, CONTENT_LENGTH ++ Nat.repr (Utf8.bytes body).length,
    "Connection: close"], ?_, ?_, ?_⟩
  · have type_break : "\r\nContent-Type: " = "\r\n" ++ "Content-Type: " := by decide
    have length_break : "\r\nContent-Length: " = "\r\n" ++ CONTENT_LENGTH := by decide
    have close_break : "\r\nConnection: close\r\n\r\n" = "\r\n" ++ ("Connection: close" ++ ("\r\n" ++ "\r\n")) := by decide
    simp only [response, type_break, length_break, close_break, Utf8.length_bytes, List.map_cons, List.map_nil,
      String.join_cons, String.join_nil, String.append_assoc, String.append_empty]
  · have words : OneLine "HTTP/1.1 " ∧ OneLine "Content-Type: " ∧ OneLine CONTENT_LENGTH ∧ OneLine "Connection: close" := by
      simp only [OneLine]
      decide
    obtain ⟨version, label, length, close⟩ := words
    simp only [List.forall_mem_cons, List.not_mem_nil, false_implies, implies_true, and_true]
    refine ⟨⟨by simp [← String.toList_inj], version.append status_line⟩, ⟨by simp [← String.toList_inj], label.append ctype_line⟩,
      ⟨by simp [← String.toList_inj, CONTENT_LENGTH], length.append (OneLine.repr _)⟩, by simp, close⟩
  · simp [CONTENT_LENGTH, List.isPrefixOf]

theorem route_one_line {registry : Registry} {elapsed : Duration} {path status ctype body : String}
    (routed : route registry elapsed path = .ok (status, ctype, body)) : OneLine status ∧ OneLine ctype := by
  unfold route at routed
  split at routed
  · split at routed
    · cases routed
    · cases routed
      simp only [OneLine]
      decide
  · split at routed
    · cases routed
      simp only [OneLine]
      decide
    · cases routed
      simp only [OneLine]
      decide

section Reading
variable (stream : TcpStream)

/-- The bytes of a read that failed, or that are no text. -/
def Unread (place : Nat) (taken : List UInt8) : Prop :=
  stream.source (place + taken.length) = .failed ∨ Utf8.decode? taken = none

theorem readLine_spec (limit : Nat) (c : Connection) :
    ∃ taken failed, Stream.Chunk stream.source NEWLINE limit c.place taken failed ∧
      (readLine stream limit c).2 = { c with reads := c.reads ++ [taken] } ∧
      ((∃ line, (readLine stream limit c).1 = .ok line ∧ Utf8.bytes line = taken ∧ failed = false) ∨
        ((readLine stream limit c).1 = .error .returned ∧ Unread stream c.place taken)) := by
  have chunk : Stream.Chunk stream.source NEWLINE limit c.place _ _ := Stream.readUntil_spec limit c.place
  refine ⟨_, _, chunk, ?_⟩
  rw [readLine]
  cases failed : (Stream.readUntil stream.source NEWLINE limit c.place).2 with
  | true => exact ⟨by simp [failed], Or.inr ⟨by simp [failed], Or.inl (chunk.cut failed)⟩⟩
  | false =>
    cases text : Utf8.decode? (Stream.readUntil stream.source NEWLINE limit c.place).1 with
    | none => exact ⟨by simp [failed, text], Or.inr ⟨by simp [failed, text], Or.inr text⟩⟩
    | some line => exact ⟨by simp [failed, text], Or.inl ⟨line, by simp [failed, text], Utf8.decode?_eq_some.mp text, rfl⟩⟩

/-- What the loop over the headers comes to: reads that follow each other, and
the connection is left at the first that cannot be read. -/
def Drained (n : Nat) (c : Connection) (run : Except Exit Unit × Connection) : Prop :=
  ∃ headers, headers.length ≤ n ∧ Stream.Successive stream.source NEWLINE MAX_HEADER_LINE c.place headers ∧
    run.2 = { c with reads := c.reads ++ headers } ∧
    (run.1 = .ok () ∧ (∀ read ∈ headers, (Utf8.decode? read).isSome) ∨
      run.1 = .error .returned ∧ ∃ before last, headers = before ++ [last] ∧ Unread stream (c.place + before.flatten.length) last)

theorem drainHeaders_spec (n : Nat) (c : Connection) : Drained stream n c (drainHeaders stream n c) := by
  induction n generalizing c with
  | zero => exact ⟨[], Nat.le_refl _, trivial, by simp [drainHeaders], Or.inl ⟨rfl, by simp⟩⟩
  | succ n ih =>
    obtain ⟨taken, failed, chunk, moved, outcome⟩ := readLine_spec stream MAX_HEADER_LINE c
    rw [drainHeaders]
    rcases outcome with ⟨line, read, written, _⟩ | ⟨error, unread⟩
    · rw [Prog.bind_of_ok (Prod.ext read moved)]
      have text : (Utf8.decode? taken).isSome := Option.isSome_of_eq_some (Utf8.decode?_eq_some.mpr written)
      -- The end of the stream and a blank line both end the loop with this read.
      have last : Drained stream (n + 1) c (.ok (), { c with reads := c.reads ++ [taken] }) :=
        ⟨[taken], by simp, ⟨⟨failed, chunk⟩, trivial⟩, rfl, Or.inl ⟨rfl, by simpa using text⟩⟩
      split
      · exact last
      · split
        · exact last
        · obtain ⟨later, fewer, following, gone, outcome⟩ := ih { c with reads := c.reads ++ [taken] }
          have place : Connection.place { c with reads := c.reads ++ [taken] } = c.place + taken.length := by
            simp [Connection.place]
          rw [place] at following outcome
          refine ⟨taken :: later, Nat.succ_le_succ fewer, ⟨⟨failed, chunk⟩, following⟩, by rw [gone]; simp, ?_⟩
          rcases outcome with ⟨ok, texts⟩ | ⟨error, before, last, rfl, unread⟩
          · exact Or.inl ⟨ok, List.forall_mem_cons.mpr ⟨text, texts⟩⟩
          · refine Or.inr ⟨error, taken :: before, last, rfl, ?_⟩
            rwa [List.flatten_cons, List.length_append, ← Nat.add_assoc]
    · rw [Prog.bind_of_error (Prod.ext error moved)]
      exact ⟨[taken], by simp, ⟨⟨failed, chunk⟩, trivial⟩, rfl, Or.inr ⟨rfl, [], taken, rfl, unread⟩⟩

/-- What was read of a peer: at most one request line and then headers, each from where the last read stopped. -/
def Taken (reads : List (List UInt8)) : Prop :=
  reads = [] ∨ ∃ request headers failed, reads = request :: headers ∧ headers.length ≤ MAX_HEADERS ∧
    Stream.Chunk stream.source NEWLINE MAX_REQUEST_LINE 0 request failed ∧
    Stream.Successive stream.source NEWLINE MAX_HEADER_LINE request.length headers

/-- What one connection comes to: the reads are bounded, one answer at most is
written, framed by the length of its body, and none for a request that was cut or is no text. -/
structure Served (text : String) (c : Connection) : Prop where
  bounded : c.reads = [] ∨ ∃ request headers, c.reads = request :: headers ∧ request.length ≤ MAX_REQUEST_LINE ∧
    headers.length ≤ MAX_HEADERS ∧ ∀ header ∈ headers, header.length ≤ MAX_HEADER_LINE
  sent : ∀ i b, c.reads.flatten[i]? = some b → stream.source i = .byte b
  once : c.writes = [] ∨ ∃ line headers answer body, c.reads = Utf8.bytes line :: headers ∧
    Stream.Chunk stream.source NEWLINE MAX_REQUEST_LINE 0 (Utf8.bytes line) false ∧ c.writes = [answer] ∧ Framed answer body ∧
    (body = text ↔ (Words.words line.toList)[1]? = some "/metrics".toList)
  uncut : Cut stream.source → c.writes = []
  readable : ∀ part, part <:+: c.reads → Utf8.decode? part.flatten = none → c.writes = []
  silent : c.writes = [] → (stream.setReadTimeout && stream.setWriteTimeout && stream.tryClone) = false ∨ Cut stream.source ∨
    ∃ before last, c.reads = before ++ [last] ∧ Unread stream before.flatten.length last

variable {stream} {reads : List (List UInt8)}

theorem Taken.bounded (taken : Taken stream reads) :
    reads = [] ∨ ∃ request headers, reads = request :: headers ∧ request.length ≤ MAX_REQUEST_LINE ∧
      headers.length ≤ MAX_HEADERS ∧ ∀ header ∈ headers, header.length ≤ MAX_HEADER_LINE := by
  rcases taken with none | ⟨request, headers, _, parts, few, chunk, successive⟩
  · exact Or.inl none
  · exact Or.inr ⟨request, headers, parts, chunk.within, few, successive.within⟩

theorem Taken.sent (taken : Taken stream reads) (i : Nat) (b : UInt8) (at_i : reads.flatten[i]? = some b) :
    stream.source i = .byte b := by
  rcases taken with rfl | ⟨request, headers, failed, rfl, _, chunk, successive⟩
  · simp at at_i
  · rw [List.flatten_cons] at at_i
    by_cases here : i < request.length
    · rw [List.getElem?_append_left here] at at_i
      rw [← Nat.zero_add i]
      exact chunk.sent i b at_i
    · rw [List.getElem?_append_right (by omega)] at at_i
      have shifted : i = request.length + (i - request.length) := by omega
      rw [shifted]
      exact successive.sent (i - request.length) b at_i

theorem Served.of_silent {text : String} (taken : Taken stream reads)
    (silent : (stream.setReadTimeout && stream.setWriteTimeout && stream.tryClone) = false ∨ Cut stream.source ∨
      ∃ before last, reads = before ++ [last] ∧ Unread stream before.flatten.length last) :
    Served stream text { reads := reads, writes := [] } where
  bounded := taken.bounded
  sent := taken.sent
  once := Or.inl rfl
  uncut _ := rfl
  readable _ _ _ := rfl
  silent _ := silent

/-- A request line is turned away exactly when it was cut. -/
theorem cut_iff {line : String} (chunk : Stream.Chunk stream.source NEWLINE MAX_REQUEST_LINE 0 (Utf8.bytes line) false) :
    MAX_REQUEST_LINE ≤ line.utf8ByteSize ∧ line.toList.getLast? ≠ some '\n' ↔ Cut stream.source := by
  have last : (Utf8.bytes line).getLast? = some NEWLINE ↔ line.toList.getLast? = some '\n' := by
    rw [Utf8.getLast?_bytes (by decide), Option.map_eq_some_iff]
    constructor
    · rintro ⟨c, final, number⟩
      rw [final, Char.toNat_inj.mp (show c.toNat = '\n'.toNat from number)]
    · intro final
      exact ⟨'\n', final, rfl⟩
  have sent (i : Nat) (inside : i < (Utf8.bytes line).length) : stream.source i = .byte (Utf8.bytes line)[i] := by
    have here := chunk.sent i _ (List.getElem?_eq_getElem inside)
    rwa [Nat.zero_add] at here
  rw [← Utf8.length_bytes, ne_eq, ← last]
  constructor
  · rintro ⟨full, unended⟩ i before
    have inside : i < (Utf8.bytes line).length := lt_of_lt_of_le before full
    refine ⟨_, sent i inside, fun newline => chunk.absent unended ?_⟩
    rw [← newline]
    exact List.getElem_mem inside
  · intro cut
    have unended : (Utf8.bytes line).getLast? ≠ some NEWLINE := by
      intro ended
      obtain ⟨i, inside, newline⟩ := List.mem_iff_getElem.mp (List.mem_of_getLast? ended)
      obtain ⟨b, here, other⟩ := cut i (lt_of_lt_of_le inside chunk.within)
      rw [sent i inside, newline] at here
      exact other (Stream.Arrival.byte.inj here).symm
    refine ⟨?_, unended⟩
    rcases chunk.finished rfl with full | ended | closed
    · exact full.ge
    · exact absurd ended unended
    · by_contra short
      obtain ⟨b, here, _⟩ := cut _ (not_le.mp short)
      rw [Nat.zero_add, here] at closed
      cases closed

end Reading

/-- A rendered text begins with a comment. -/
theorem Registry.render_head {registry : Registry} {elapsed : Duration} {text : String}
    (rendered : registry.render elapsed = some text) : text.toList.head? = some '#' := by
  unfold Registry.render at rendered
  split at rendered
  · obtain rfl := Option.some.inj rendered
    decide
  · simp only [Metrics.render, Metrics.lines, Option.bind_eq_bind, Option.pure_def, Option.bind_eq_some_iff, Option.some.injEq] at rendered
    obtain ⟨_, ⟨latency, _, rfl⟩, rfl⟩ := rendered
    simp only [Metrics.family, List.append_assoc, List.cons_append, List.map_cons, String.join_cons, String.toList_append]
    rfl

theorem route_spec {registry : Registry} {elapsed : Duration} {text : String} (rendered : registry.render elapsed = some text)
    (path : String) : ∃ status ctype body, route registry elapsed path = .ok (status, ctype, body) ∧
      (body = text ↔ path = "/metrics") := by
  have comment := Registry.render_head rendered
  rw [route]
  split
  · rename_i metrics
    rw [rendered]
    exact ⟨_, _, text, rfl, by simp [metrics]⟩
  · rename_i other
    split
    · refine ⟨_, _, _, rfl, iff_of_false ?_ other⟩
      rintro rfl
      cases comment
    · refine ⟨_, _, _, rfl, iff_of_false ?_ other⟩
      rintro rfl
      cases comment

theorem requestPath_eq_metrics {line : String} :
    requestPath line = "/metrics" ↔ (Words.words line.toList)[1]? = some "/metrics".toList := by
  rw [requestPath, ← String.toList_inj, String.toList_ofList]
  cases (Words.words line.toList)[1]? with
  | none => simp
  | some target => simp

/-- A read that leaves the connection leaves it without an answer. -/
theorem Served.of_unread {stream : TcpStream} {text : String} {request : List UInt8} {failed : Bool}
    (chunk : Stream.Chunk stream.source NEWLINE MAX_REQUEST_LINE 0 request failed) (before : List (List UInt8)) (last : List UInt8)
    {headers : List (List UInt8)} (parts : request :: headers = before ++ [last]) (few : headers.length ≤ MAX_HEADERS)
    (successive : Stream.Successive stream.source NEWLINE MAX_HEADER_LINE request.length headers)
    (unread : Unread stream before.flatten.length last) :
    Served stream text { reads := request :: headers, writes := [] } :=
  Served.of_silent (Or.inr ⟨request, headers, failed, rfl, few, chunk, successive⟩)
    (Or.inr (Or.inr ⟨before, last, parts, unread⟩))

theorem Served.of_answer {stream : TcpStream} {text line answer body : String} {headers : List (List UInt8)}
    (chunk : Stream.Chunk stream.source NEWLINE MAX_REQUEST_LINE 0 (Utf8.bytes line) false) (few : headers.length ≤ MAX_HEADERS)
    (successive : Stream.Successive stream.source NEWLINE MAX_HEADER_LINE (Utf8.bytes line).length headers)
    (uncut : ¬Cut stream.source) (texts : ∀ read ∈ headers, (Utf8.decode? read).isSome) (framed : Framed answer body)
    (metrics : body = text ↔ (Words.words line.toList)[1]? = some "/metrics".toList) :
    Served stream text { reads := Utf8.bytes line :: headers, writes := [answer] } := by
  have taken : Taken stream (Utf8.bytes line :: headers) := Or.inr ⟨_, headers, false, rfl, few, chunk, successive⟩
  have readable : ∀ read ∈ Utf8.bytes line :: headers, (Utf8.decode? read).isSome :=
    List.forall_mem_cons.mpr ⟨Option.isSome_of_eq_some (Utf8.decode?_eq_some.mpr rfl), texts⟩
  exact {
    bounded := taken.bounded
    sent := taken.sent
    once := Or.inr ⟨line, headers, answer, body, rfl, chunk, rfl, framed, metrics⟩
    uncut := fun cut => absurd cut uncut
    readable := by
      intro part inside malformed
      have together := Utf8.decode?_flatten fun read member => readable read (inside.subset member)
      rw [malformed] at together
      cases together
    silent := fun none => by cases none }

theorem handle_spec (stream : TcpStream) {registry : Registry} {elapsed : Duration} {text : String}
    (rendered : registry.render elapsed = some text) :
    (handle stream registry elapsed .opened).1 ≠ .error .panicked ∧
      Served stream text (handle stream registry elapsed .opened).2 := by
  rw [handle]
  split
  · rename_i timeouts
    refine ⟨by simp, Served.of_silent (Or.inl rfl) (Or.inl ?_)⟩
    cases first : stream.setReadTimeout <;> simp_all
  · split
    · rename_i clone
      exact ⟨by simp, Served.of_silent (Or.inl rfl) (Or.inl (by simp [clone]))⟩
    · obtain ⟨request, failed, chunk, moved, outcome⟩ := readLine_spec stream MAX_REQUEST_LINE .opened
      rcases outcome with ⟨line, read, rfl, rfl⟩ | ⟨error, unread⟩
      · have at_line : readLine stream MAX_REQUEST_LINE .opened = (.ok line, { reads := [Utf8.bytes line], writes := [] }) :=
          Prod.ext read moved
        rw [Prog.bind_of_ok at_line]
        split
        · rename_i refused
          refine ⟨by simp, Served.of_silent ?_ (Or.inr (Or.inl ((cut_iff chunk).mp refused)))⟩
          exact Or.inr ⟨_, [], false, rfl, Nat.zero_le _, chunk, trivial⟩
        · rename_i whole
          have uncut : ¬Cut stream.source := fun cut => whole ((cut_iff chunk).mpr cut)
          obtain ⟨headers, few, successive, gone, outcome⟩ :=
            drainHeaders_spec stream MAX_HEADERS { reads := [Utf8.bytes line], writes := [] }
          have place : Connection.place { reads := [Utf8.bytes line], writes := [] } = (Utf8.bytes line).length := by
            simp [Connection.place]
          rw [place] at successive outcome
          dsimp only
          rcases outcome with ⟨ok, texts⟩ | ⟨error, before, last, rfl, unread⟩
          · obtain ⟨status, ctype, body, routed, metrics⟩ := route_spec rendered (requestPath line)
            obtain ⟨status_line, ctype_line⟩ := route_one_line routed
            rw [Prog.bind_of_ok (Prod.ext ok gone), routed, Prog.bind_of_ok (Prog.lift_apply ..)]
            exact ⟨by simp, Served.of_answer chunk few successive uncut texts (framed_response status_line ctype_line body)
              (metrics.trans requestPath_eq_metrics)⟩
          · rw [Prog.bind_of_error (Prod.ext error gone)]
            rw [← List.length_append, ← List.flatten_cons] at unread
            exact ⟨by simp, Served.of_unread chunk (Utf8.bytes line :: before) last rfl few successive unread⟩
      · rw [Prog.bind_of_error (Prod.ext error moved)]
        exact ⟨by simp, Served.of_unread chunk [] request rfl (Nat.zero_le _) trivial unread⟩

/-- One connection, whatever the peer sends and whatever the registry recorded before. -/
theorem handle_exact (stream : TcpStream) (exposeSerial poisoned : Bool) (calls : List Call) (elapsed : Duration) :
    ∃ metrics text, Metrics.after exposeSerial calls = some metrics ∧
      Registry.render { metrics := metrics, poisoned := poisoned } elapsed = some text ∧
      (handle stream { metrics := metrics, poisoned := poisoned } elapsed .opened).1 ≠ .error .panicked ∧
      Served stream text (handle stream { metrics := metrics, poisoned := poisoned } elapsed .opened).2 := by
  obtain ⟨metrics, recorded, records⟩ := Records.after exposeSerial calls
  have rendered : ∃ text, Registry.render { metrics := metrics, poisoned := poisoned } elapsed = some text := by
    cases poisoned with
    | true => exact ⟨_, rfl⟩
    | false => exact Metrics.render_some records.slots elapsed
  obtain ⟨text, rendered⟩ := rendered
  exact ⟨metrics, text, recorded, rendered, handle_spec stream rendered⟩

end OpenRazer
