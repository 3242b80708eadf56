import Mathlib.Data.Nat.Find
import Upkeep.Proofs.Host.Files
import Upkeep.Proofs.Session.Buffer
import Upkeep.Proofs.Text.Utf8

/-! # The channel — how far a wait reads

    What a client program writes comes in chunks.  A wait looks for a match in what
    is unread, takes a chunk to the buffer and to the session log, and looks again,
    until there is a match or no chunk is left.  So it takes as many chunks as are
    needed for a match, and no more (`FirstFind`); those behind stay where they are.

    The end of the stream counts only when all chunks have been taken.  So what a
    program writes just before it ends is still found, and the connection is lost
    only if there is no match in all that came (`expect_reads_to_first_find`).

    All this is said of a client session, which has its connection in one place.  A
    session that holds the ends of it by themselves waits alike
    (`Piped.expect_piped`). -/

namespace Upkeep

/-! ## How many chunks are needed -/

/-- So many chunks are needed for a match: it is found behind them, and not behind fewer. -/
structure FirstFind (patterns : List Pattern) (buffer : Buffer) (chunks : List Text) (needed : Nat)
    (found : Match) (rest : Buffer) : Prop where
  le_length : needed ≤ chunks.length
  finds : (buffer.push (chunks.take needed).flatten).find patterns = (some found, rest)
  least : ∀ fewer < needed, ((buffer.push (chunks.take fewer).flatten).find patterns).1 = none

/-- No match is found behind any number of chunks. -/
def Unfound (patterns : List Pattern) (buffer : Buffer) (chunks : List Text) : Prop :=
  ∀ count ≤ chunks.length, ((buffer.push (chunks.take count).flatten).find patterns).1 = none

instance (patterns : List Pattern) (buffer : Buffer) (chunks : List Text) :
    Decidable (Unfound patterns buffer chunks) :=
  inferInstanceAs (Decidable (∀ count ≤ chunks.length,
    ((buffer.push (chunks.take count).flatten).find patterns).1 = none))

namespace Buffer

theorem push_nil (buffer : Buffer) : buffer.push [] = buffer :=
  congrArg Buffer.mk (List.append_nil _)

theorem push_append (buffer : Buffer) (first second : Text) :
    buffer.push (first ++ second) = (buffer.push first).push second :=
  congrArg Buffer.mk (List.append_assoc ..).symm

end Buffer

section Find

variable {patterns : List Pattern} {buffer rest : Buffer} {chunk : Text} {chunks more : List Text}
  {needed : Nat} {found : Match}

theorem push_take_succ (count : Nat) :
    buffer.push ((chunk :: chunks).take (count + 1)).flatten
      = (buffer.push chunk).push (chunks.take count).flatten := by
  rw [List.take_succ_cons, List.flatten_cons, Buffer.push_append]

/-- Either no match is found, or there is a number of chunks that are needed for one. -/
theorem unfound_or_firstFind (patterns : List Pattern) (buffer : Buffer) (chunks : List Text) :
    Unfound patterns buffer chunks ∨
      ∃ needed found rest, FirstFind patterns buffer chunks needed found rest := by
  by_cases h : ∃ count, count ≤ chunks.length ∧
      ((buffer.push (chunks.take count).flatten).find patterns).1 ≠ none
  · have hfinds := Nat.find_spec h
    obtain ⟨found, hfound⟩ := Option.ne_none_iff_exists'.mp hfinds.2
    refine Or.inr ⟨Nat.find h, found, _, hfinds.1, Prod.ext hfound rfl, ?_⟩
    intro fewer hfewer
    have hnot := Nat.find_min h hfewer
    by_contra hsome
    exact hnot ⟨Nat.le_trans (Nat.le_of_lt hfewer) hfinds.1, hsome⟩
  · refine Or.inl fun count hcount => ?_
    by_contra hsome
    exact h ⟨count, hcount, hsome⟩

/-- If there is a number, it is not so that no match is found. -/
theorem FirstFind.not_unfound (h : FirstFind patterns buffer chunks needed found rest) :
    ¬ Unfound patterns buffer chunks := by
  intro hnone
  have hneeded := hnone needed h.le_length
  rw [h.finds] at hneeded
  exact nomatch hneeded

/-- No chunk is needed if there is a match already. -/
theorem FirstFind.of_zero (h : FirstFind patterns buffer chunks 0 found rest) :
    buffer.find patterns = (some found, rest) := by
  have hfinds := h.finds
  rwa [List.take_zero, List.flatten_nil, Buffer.push_nil] at hfinds

/-- If chunks are needed there is none yet, and behind the next chunk one less is needed. -/
theorem FirstFind.of_succ
    (h : FirstFind patterns buffer (chunk :: chunks) (needed + 1) found rest) :
    buffer.find patterns = (none, (buffer.find patterns).2) ∧
      FirstFind patterns (buffer.push chunk) chunks needed found rest := by
  refine ⟨?_, Nat.le_of_succ_le_succ h.le_length, ?_, fun fewer hfewer => ?_⟩
  · have hnone := h.least 0 (Nat.succ_pos needed)
    rw [List.take_zero, List.flatten_nil, Buffer.push_nil] at hnone
    exact Prod.ext hnone rfl
  · rw [← push_take_succ]
    exact h.finds
  · rw [← push_take_succ]
    exact h.least (fewer + 1) (Nat.succ_lt_succ hfewer)

/-- The text before the match, the match and what is left make up what there was. -/
theorem FirstFind.conserves (h : FirstFind patterns buffer chunks needed found rest) :
    (found.before ++ found.text) ++ (rest.unread ++ (chunks.drop needed).flatten)
      = buffer.unread ++ chunks.flatten := by
  rcases Buffer.find_cases (buffer.push (chunks.take needed).flatten) patterns with
    ⟨hnone, -⟩ | ⟨first, behind, span, hfind, htakes⟩
  · rw [h.finds] at hnone
    exact nomatch hnone
  · rw [h.finds] at hfind
    obtain ⟨hfound, rfl⟩ := Prod.mk.inj hfind
    obtain rfl := Option.some.inj hfound
    rw [← List.append_assoc, htakes.conserves, Buffer.push, List.append_assoc,
      ← List.flatten_append, List.take_append_drop]

/-- If no match is found there is none yet, and there is none behind the next chunk. -/
theorem Unfound.now (h : Unfound patterns buffer chunks) :
    buffer.find patterns = (none, (buffer.find patterns).2) := by
  have hnone := h 0 (Nat.zero_le _)
  rw [List.take_zero, List.flatten_nil, Buffer.push_nil] at hnone
  exact Prod.ext hnone rfl

theorem Unfound.later (h : Unfound patterns buffer (chunk :: chunks)) :
    Unfound patterns (buffer.push chunk) chunks := by
  intro count hcount
  rw [← push_take_succ]
  exact h (count + 1) (Nat.succ_le_succ hcount)

/-- What is needed of two rows of chunks is needed of the first, or all of the first is needed and
    something of the second. -/
theorem FirstFind.split (h : FirstFind patterns buffer (chunks ++ more) needed found rest) :
    (needed ≤ chunks.length ∧ FirstFind patterns buffer chunks needed found rest) ∨
      (chunks.length < needed ∧ Unfound patterns buffer chunks ∧
        FirstFind patterns (buffer.push chunks.flatten) more (needed - chunks.length) found
          rest) := by
  have hbehind (count : Nat) :
      buffer.push ((chunks ++ more).take (chunks.length + count)).flatten
        = (buffer.push chunks.flatten).push (more.take count).flatten := by
    rw [List.take_length_add_append, List.flatten_append, Buffer.push_append]
  by_cases hle : needed ≤ chunks.length
  · refine Or.inl ⟨hle, hle, ?_, fun fewer hfewer => ?_⟩
    · rw [← List.take_append_of_le_length hle]
      exact h.finds
    · rw [← List.take_append_of_le_length (Nat.le_trans (Nat.le_of_lt hfewer) hle)]
      exact h.least fewer hfewer
  · have hlt := Nat.lt_of_not_le hle
    have hlength := h.le_length
    rw [List.length_append] at hlength
    refine Or.inr ⟨hlt, fun count hcount => ?_, by omega, ?_, fun fewer hfewer => ?_⟩
    · rw [← List.take_append_of_le_length hcount]
      exact h.least count (Nat.lt_of_le_of_lt hcount hlt)
    · rw [← hbehind, Nat.add_sub_cancel' (Nat.le_of_lt hlt)]
      exact h.finds
    · rw [← hbehind]
      exact h.least _ (by omega)

/-- If no match is found in two rows, there is none in the first, and none in the second behind
    it. -/
theorem Unfound.split (h : Unfound patterns buffer (chunks ++ more)) :
    Unfound patterns buffer chunks ∧ Unfound patterns (buffer.push chunks.flatten) more := by
  refine ⟨fun count hcount => ?_, fun count hcount => ?_⟩
  · rw [← List.take_append_of_le_length hcount]
    refine h count ?_
    rw [List.length_append]
    omega
  · have hnone := h (chunks.length + count) (by rw [List.length_append]; omega)
    rwa [List.take_length_add_append, List.flatten_append, Buffer.push_append] at hnone

end Find

/-! ## The session log -/

/-- Files with nothing among them but a session log that holds these bytes. -/
def Files.sessionLog (held : Bytes) : Files :=
  { root := "/", nodes := [(["session.log"], .file held false)] }

theorem Files.read_sessionLog (held : Bytes) :
    (sessionLog held).read "session.log" = .ok held := by
  have hnames : (sessionLog held).walk [] (pathNames "session.log") = .ok ["session.log"] := rfl
  have hresolve : (sessionLog held).resolve "session.log" = .ok ["session.log"] := by
    rw [resolve, hnames, show (sessionLog held).root = "/" from rfl]
    simp
  rw [read, hresolve]
  rfl

/-- A session log, as long as it can be written, and the files it is among. -/
structure LogBook where
  path : Option String
  files : Files

namespace LogBook

/-- Writes a chunk. A log that cannot be written is given up. -/
def write (book : LogBook) (chunk : Text) : LogBook :=
  match book.path with
  | none => book
  | some path =>
    match book.files.append path (encodeUtf8 chunk) with
    | .ok files => { book with files }
    | .error _ => { book with path := none }

/-- Writes chunks one after the other. -/
def writeAll (book : LogBook) (chunks : List Text) : LogBook := chunks.foldl write book

theorem writeAll_append (book : LogBook) (chunks more : List Text) :
    book.writeAll (chunks ++ more) = (book.writeAll chunks).writeAll more := List.foldl_append ..

/-- **LOG**: if the log can be written, each chunk is written to it once, behind what it holds. -/
theorem read_writeAll (book : LogBook) {path : String} {held : Bytes}
    (hpath : book.path = some path) (hheld : book.files.read path = .ok held)
    (chunks : List Text) :
    (book.writeAll chunks).path = some path ∧
      (book.writeAll chunks).files.read path = .ok (held ++ encodeUtf8 chunks.flatten) := by
  induction chunks generalizing book held with
  | nil => exact ⟨hpath, hheld.trans (congrArg _ (List.append_nil _).symm)⟩
  | cons chunk rest ih =>
      obtain ⟨written, happend, hread⟩ := Files.append_of_read hheld (encodeUtf8 chunk)
      have hwrite : book.write chunk = { book with files := written } := by
        simp only [write, hpath, happend]
      have hpath' : (book.write chunk).path = some path := by
        rw [hwrite]
        exact hpath
      have hread' : (book.write chunk).files.read path = .ok (held ++ encodeUtf8 chunk) := by
        rw [hwrite]
        exact hread
      rw [List.flatten_cons, encodeUtf8_append, ← List.append_assoc]
      exact ih _ hpath' hread'

end LogBook

namespace Connection

variable {τ : Type} {connection : Connection τ} {patterns : List Pattern} {chunks : List Text}
  {files : Files}

/-- The session log of a connection. -/
def book (connection : Connection τ) (files : Files) : LogBook := ⟨connection.log, files⟩

/-- A chunk goes to the buffer and to the log. -/
theorem receive_eq (chunk : Text) (connection : Connection τ) (files : Files) :
    ∃ records, connection.receive chunk files
      = ({ connection with
            buffer := connection.buffer.push chunk
            log := ((connection.book files).write chunk).path },
          ((connection.book files).write chunk).files, records) := by
  rw [receive, LogBook.write, book]
  cases connection.log with
  | none => exact ⟨[], rfl⟩
  | some path =>
      dsimp only
      cases files.append path (encodeUtf8 chunk) with
      | ok written => exact ⟨[], rfl⟩
      | error e => exact ⟨_, rfl⟩

/-- **TAKEN**: the chunks that are needed are taken, and those behind them stay. -/
theorem take_firstFind (connection : Connection τ) (files : Files) {needed : Nat} {found : Match}
    {rest : Buffer} (h : FirstFind patterns connection.buffer chunks needed found rest)
    (records : List Record) :
    ∃ more, connection.take patterns chunks files records
      = ⟨some found,
          { connection with
            buffer := rest
            arrived := chunks.drop needed
            log := ((connection.book files).writeAll (chunks.take needed)).path },
          ((connection.book files).writeAll (chunks.take needed)).files, more⟩ := by
  -- the induction is on the chunks that are needed, as there may be others behind them
  induction needed generalizing connection chunks files records with
  | zero => exact ⟨records, take_found h.of_zero chunks records⟩
  | succ needed ih =>
      cases chunks with
      | nil => exact absurd h.le_length (Nat.not_succ_le_zero needed)
      | cons chunk chunks =>
          obtain ⟨hnone, hlater⟩ := h.of_succ
          obtain ⟨noted, hreceive⟩ := receive_eq chunk connection files
          rw [take_cons hnone, hreceive]
          exact ih _ _ hlater _

/-- If no match is found, all of them are taken. -/
theorem take_unfound_all (connection : Connection τ) (files : Files)
    (h : Unfound patterns connection.buffer chunks) (records : List Record) :
    ∃ more, connection.take patterns chunks files records
      = ⟨none,
          { connection with
            buffer := connection.buffer.push chunks.flatten
            arrived := []
            log := ((connection.book files).writeAll chunks).path },
          ((connection.book files).writeAll chunks).files, more⟩ := by
  induction chunks generalizing connection files records with
  | nil =>
      rw [List.flatten_nil, Buffer.push_nil]
      exact ⟨records, take_nil h.now records⟩
  | cons chunk chunks ih =>
      obtain ⟨noted, hreceive⟩ := receive_eq chunk connection files
      rw [take_cons h.now, hreceive, List.flatten_cons, Buffer.push_append]
      exact ih _ _ h.later _

/-! ## Waits -/

variable [Transport τ] {limit : Duration}

/-- What is heard from the program when all that has arrived is in the log. From a program that has
ended nothing more is heard. -/
def heard (limit : Duration) (connection : Connection τ) (files : Files) : Heard τ :=
  let caught := (connection.book files).writeAll connection.arrived
  if connection.ended then ⟨[], true, connection.transport, caught.files⟩
  else Transport.listen limit connection.transport caught.files

/-- The chunks that there are for a wait: those that have arrived, and those that are heard. -/
def offered (limit : Duration) (connection : Connection τ) (files : Files) : List Text :=
  connection.arrived ++ (connection.heard limit files).reads.map decodeLossy

/-- These chunks come in time, and then the stream ends. -/
structure Delivers (limit : Duration) (connection : Connection τ) (files : Files)
    (chunks : List Text) : Prop where
  chunks : connection.offered limit files = chunks
  ended : (connection.heard limit files).ended = true

/-- So many of the chunks have been written to the log, if it can be written and the program itself
leaves it alone. -/
def Logs (limit : Duration) (connection : Connection τ) (files : Files) (count : Nat)
    (left : Files) : Prop :=
  ∀ path held, connection.log = some path → files.read path = .ok held →
    (connection.heard limit files).files.read path
      = ((connection.book files).writeAll connection.arrived).files.read path →
    left.read path
      = .ok (held ++ encodeUtf8 ((connection.offered limit files).take count).flatten)

/-- The connection when all that has arrived has been taken and the program has been heard. -/
def listened (limit : Duration) (connection : Connection τ) (files : Files) : Connection τ :=
  { connection with
    buffer := connection.buffer.push connection.arrived.flatten
    arrived := []
    log := ((connection.book files).writeAll connection.arrived).path
    transport := (connection.heard limit files).next
    ended := (connection.heard limit files).ended }

/-- Where chunks that have arrived were taken, those behind them are delivered. -/
theorem delivers_of_taken (h : connection.Delivers limit files chunks) {count : Nat}
    (hle : count ≤ connection.arrived.length) (rest : Buffer) :
    Delivers limit
      { connection with
        buffer := rest
        arrived := connection.arrived.drop count
        log := ((connection.book files).writeAll (connection.arrived.take count)).path }
      ((connection.book files).writeAll (connection.arrived.take count)).files
      (chunks.drop count) := by
  obtain ⟨rfl, hended⟩ := h
  have hbook : ((connection.book files).writeAll (connection.arrived.take count)).writeAll
        (connection.arrived.drop count)
      = (connection.book files).writeAll connection.arrived := by
    rw [← LogBook.writeAll_append, List.take_append_drop]
  refine ⟨?_, ?_⟩
  · rw [offered, offered, List.drop_append_of_le_length hle, heard, heard, ← hbook]
    rfl
  · rw [← hended, heard, heard, ← hbook]
    rfl

/-- From a program that has ended nothing more is heard. -/
theorem heard_of_ended (h : connection.ended = true) (limit : Duration) (files : Files) :
    connection.heard limit files
      = ⟨[], true, connection.transport,
          ((connection.book files).writeAll connection.arrived).files⟩ := by
  rw [heard, h]
  rfl

/-- So it delivers what has arrived. -/
theorem delivers_of_ended (h : connection.ended = true) :
    connection.Delivers limit files connection.arrived := by
  refine ⟨?_, congrArg Heard.ended (heard_of_ended h limit files)⟩
  rw [offered, heard_of_ended h]
  exact List.append_nil _

/-- If chunks are written that have arrived, they are the first that there are. -/
theorem logs_arrived {count : Nat} (hle : count ≤ connection.arrived.length) :
    connection.Logs limit files count
      ((connection.book files).writeAll (connection.arrived.take count)).files := by
  intro path held hlog hheld _
  rw [offered, List.take_append_of_le_length hle]
  exact ((connection.book files).read_writeAll hlog hheld _).2

/-- If chunks are written that are heard, they are behind all that have arrived. -/
theorem logs_heard (connection : Connection τ) (limit : Duration) (files : Files) (count : Nat) :
    connection.Logs limit files (connection.arrived.length + count)
      (((connection.listened limit files).book (connection.heard limit files).files).writeAll
        (((connection.heard limit files).reads.map decodeLossy).take count)).files := by
  intro path held hlog hheld hspared
  obtain ⟨hpath, hread⟩ := (connection.book files).read_writeAll hlog hheld connection.arrived
  rw [← hspared] at hread
  rw [offered, List.take_length_add_append, List.flatten_append, encodeUtf8_append,
    ← List.append_assoc]
  exact (LogBook.read_writeAll
    ((connection.listened limit files).book (connection.heard limit files).files) hpath hread _).2

end Connection

namespace Client

variable {τ : Type} [Transport τ] {client : Client τ} {connection : Connection τ}
  {patterns : List Pattern} {limit : Duration} {files : Files}

/-- A match in what has arrived is the answer, and the program is not listened to. -/
theorem expect_arrived (hconnection : client.connection = some connection) {found : Match}
    {last : Connection τ} {left : Files} {records : List Record}
    (htake : connection.take patterns connection.arrived files []
      = ⟨some found, last, left, records⟩) :
    client.expect patterns limit files
      = (Outcome.done found { client with connection := some last } left).recorded records := by
  simp only [expect, hconnection, htake]

/-- What a wait comes to behind the last chunks. -/
def concluded (client : Client τ) (limit : Duration) (ended : Bool)
    (taken : Connection.Taken τ) : Outcome (Client τ) Match :=
  match taken.found with
  | some found =>
    (Outcome.done found { client with connection := some taken.connection }
      taken.files).recorded taken.records
  | none =>
    if ended then (Outcome.failed .connectionLost client.dropped taken.files).recorded taken.records
    else
      { result := .error (.timeout limit (taken.connection.buffer.tail 512))
        next := { client with connection := some taken.connection }
        files := taken.files
        elapsed := limit
        records := taken.records }

/-- Without one the program is heard, and it depends on what it writes. -/
theorem expect_heard (hconnection : client.connection = some connection)
    (hnone : Unfound patterns connection.buffer connection.arrived) (limit : Duration)
    (files : Files) :
    ∃ early, client.expect patterns limit files
      = client.concluded limit (connection.heard limit files).ended
          ((connection.listened limit files).take patterns
            ((connection.heard limit files).reads.map decodeLossy)
            (connection.heard limit files).files early) := by
  obtain ⟨early, hearly⟩ := connection.take_unfound_all files hnone []
  refine ⟨early, ?_⟩
  cases hended : connection.ended with
  | true =>
      -- nothing more is heard, and nothing more is found
      have hheard := Connection.heard_of_ended hended limit files
      have hnothing := hnone connection.arrived.length (Nat.le_refl _)
      rw [List.take_length] at hnothing
      have hlate : (connection.listened limit files).take patterns []
          (connection.heard limit files).files early = _ :=
        Connection.take_nil (Prod.ext hnothing rfl) early
      rw [hheard] at hlate ⊢
      simp only [expect, hconnection, hearly, hended, if_true, List.map_nil]
      rw [hlate]
      rfl
  | false =>
      have hheard : connection.heard limit files = Transport.listen limit connection.transport
          ((connection.book files).writeAll connection.arrived).files := by
        rw [Connection.heard, hended]
        rfl
      rw [Connection.listened, hheard]
      simp only [expect, hconnection, hearly, hended, Bool.false_eq_true, if_false]
      rfl

/-- **FOUND**: a wait takes the chunks that are needed for a match, and those behind them stay to be
    delivered. -/
theorem expect_firstFind (hconnection : client.connection = some connection) {chunks : List Text}
    (hdelivers : connection.Delivers limit files chunks) {needed : Nat} {found : Match}
    {rest : Buffer} (h : FirstFind patterns connection.buffer chunks needed found rest) :
    (client.expect patterns limit files).result = .ok found ∧
      (∃ last, (client.expect patterns limit files).next
          = { client with connection := some last } ∧
        last.buffer = rest ∧
        last.Delivers limit (client.expect patterns limit files).files (chunks.drop needed)) ∧
      connection.Logs limit files needed (client.expect patterns limit files).files := by
  obtain rfl := hdelivers.chunks
  rcases h.split with ⟨hle, harrived⟩ | ⟨hlt, hnone, hheard⟩
  · -- the match is in what has arrived, and the rest is still to be heard
    obtain ⟨more, hearly⟩ := connection.take_firstFind files harrived []
    rw [expect_arrived hconnection hearly]
    exact ⟨rfl, ⟨_, rfl, rfl, Connection.delivers_of_taken hdelivers hle rest⟩,
      Connection.logs_arrived hle⟩
  · -- the program has been heard out, and the rest has arrived
    obtain ⟨early, hexpect⟩ := expect_heard hconnection hnone limit files
    obtain ⟨more, hlate⟩ := (connection.listened limit files).take_firstFind
      (connection.heard limit files).files hheard early
    rw [hlate] at hexpect
    rw [hexpect]
    refine ⟨rfl, ⟨_, rfl, rfl, ?_⟩, ?_⟩
    · rw [Connection.offered, List.drop_append, List.drop_of_length_le (Nat.le_of_lt hlt)]
      exact Connection.delivers_of_ended hdelivers.ended
    · have hlogs := connection.logs_heard limit files (needed - connection.arrived.length)
      rwa [Nat.add_sub_cancel' (Nat.le_of_lt hlt)] at hlogs

/-- **LOST**: if there is no match in all that comes, the connection is given up. -/
theorem expect_unfound (hconnection : client.connection = some connection) {chunks : List Text}
    (hdelivers : connection.Delivers limit files chunks)
    (h : Unfound patterns connection.buffer chunks) :
    (client.expect patterns limit files).result = .error .connectionLost ∧
      (client.expect patterns limit files).next = client.dropped ∧
      connection.Logs limit files chunks.length (client.expect patterns limit files).files := by
  obtain rfl := hdelivers.chunks
  obtain ⟨hearly, hlate⟩ := h.split
  obtain ⟨early, hexpect⟩ := expect_heard hconnection hearly limit files
  obtain ⟨more, hnone⟩ := (connection.listened limit files).take_unfound_all
    (connection.heard limit files).files hlate early
  rw [hnone, hdelivers.ended] at hexpect
  rw [hexpect]
  refine ⟨rfl, rfl, ?_⟩
  have hlogs := connection.logs_heard limit files
    ((connection.heard limit files).reads.map decodeLossy).length
  rwa [List.take_length, ← List.length_append] at hlogs

/-- **CHANNEL**: if a program delivers some chunks and ends, a wait finds what is found behind as
    few of them as possible.  It takes these and writes them to the log, and the others stay to be
    delivered.  It loses the connection exactly if nothing is found behind any number of them. -/
theorem expect_reads_to_first_find (hconnection : client.connection = some connection)
    {chunks : List Text} (hdelivers : connection.Delivers limit files chunks)
    (patterns : List Pattern) :
    (∀ needed found rest, FirstFind patterns connection.buffer chunks needed found rest →
      (client.expect patterns limit files).result = .ok found ∧
        (∃ last, (client.expect patterns limit files).next
            = { client with connection := some last } ∧
          last.buffer = rest ∧
          last.Delivers limit (client.expect patterns limit files).files (chunks.drop needed)) ∧
        connection.Logs limit files needed (client.expect patterns limit files).files) ∧
    ((client.expect patterns limit files).result = .error .connectionLost ↔
      Unfound patterns connection.buffer chunks) ∧
    (Unfound patterns connection.buffer chunks →
      (client.expect patterns limit files).next = client.dropped ∧
        connection.Logs limit files chunks.length
          (client.expect patterns limit files).files) := by
  refine ⟨fun needed found rest h => expect_firstFind hconnection hdelivers h,
    ⟨fun hlost => ?_, fun h => (expect_unfound hconnection hdelivers h).1⟩,
    fun h => (expect_unfound hconnection hdelivers h).2⟩
  rcases unfound_or_firstFind patterns connection.buffer chunks with h | ⟨_, found, _, h⟩
  · exact h
  · have hfound := (expect_firstFind hconnection hdelivers h).1
    rw [hlost] at hfound
    exact nomatch hfound

end Client

/-! ## Last words -/

/-- A program that writes what it still has to write, in these reads, and ends. -/
structure Parting where
  reads : List Bytes

instance : Transport Parting where
  write _ program := .ok program
  listen _ program files := ⟨program.reads, true, program, files⟩

namespace Parting

/-- What a device writes that is busy when it is told to hang up. -/
def chunks : List Text := ["done\r\n".toList, "r1#".toList, "\r\nclosed".toList]

/-- A connection to it. -/
def connection : Connection Parting :=
  { transport := ⟨chunks.map encodeUtf8⟩
    buffer := ⟨"copying ".toList⟩
    log := some "session.log" }

/-- A session over it. -/
def client : Client Parting :=
  { invocation := ⟨"telnet", ["r1"]⟩
    launch := fun _ _ => .ok connection.transport
    connection := some connection }

/-- The session log as it has been written so far. -/
def files : Files := .sessionLog (encodeUtf8 "copying ".toList)

/-- The prompt is found, and the session is not disconnected before that. -/
theorem prompt_found :
    client.connection = some connection ∧
      connection.Delivers (.ofSecs 5) files chunks ∧
      let wait := client.expect [.ofText "r1#"] (.ofSecs 5) files
      wait.result = .ok ⟨0, "copying done\r\n".toList, "r1#".toList⟩ ∧
        wait.next.isConnected = true ∧
        wait.files.read "session.log" = .ok (encodeUtf8 "copying done\r\nr1#".toList) := by
  have hdelivers : connection.Delivers (.ofSecs 5) files chunks := ⟨by decide +kernel, rfl⟩
  have hfind : FirstFind [.ofText "r1#"] connection.buffer chunks 2
      ⟨0, "copying done\r\n".toList, "r1#".toList⟩ ⟨[]⟩ :=
    ⟨by decide, by decide +kernel, by decide +kernel⟩
  have hconnection : client.connection = some connection := rfl
  obtain ⟨hresult, ⟨last, hnext, -⟩, hlogs⟩ :=
    (Client.expect_reads_to_first_find hconnection hdelivers [.ofText "r1#"]).1 _ _ _ hfind
  refine ⟨rfl, hdelivers, hresult, by rw [hnext]; rfl, ?_⟩
  have hlogged := hlogs _ _ rfl (Files.read_sessionLog _) rfl
  rw [hdelivers.chunks] at hlogged
  exact hlogged

end Parting

end Upkeep
