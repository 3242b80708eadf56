import Upkeep.Proofs.Session.Channel

/-! # Received text — what a client program writes, read by read

    Bytes come in reads, and each read is decoded by itself.  Where a read ends
    is up to the system, and it may end inside of a character; then both parts
    of the character are shown as what cannot be decoded.  So the text that is
    received is the text that was written exactly if every read is made of whole
    characters, and so are the unread text and the session log
    (`received_iff_whole`). -/

namespace Upkeep

/-! ## Cuts -/

/-- The bytes are those of some characters. -/
def Whole (bytes : Bytes) : Prop := ∃ part, bytes = encodeUtf8 part

/-- The bytes do not go on with a character that begins elsewhere. -/
def Fresh (bytes : Bytes) : Prop := ∀ b ∈ bytes.head?, continues b = false

/-- Whole pieces make up the encoding of what they are decoded to. -/
theorem flatten_of_whole {reads : List Bytes} (h : ∀ read ∈ reads, Whole read) :
    reads.flatten = encodeUtf8 (reads.map decodeLossy).flatten := by
  induction reads with
  | nil => rfl
  | cons read rest ih =>
      obtain ⟨part, rfl⟩ := h read List.mem_cons_self
      rw [List.flatten_cons, List.map_cons, List.flatten_cons, decodeLossy_encodeUtf8,
        encodeUtf8_append, ih fun other hother => h other (List.mem_cons_of_mem _ hother)]

theorem starts_flatten_le (reads : List Bytes) :
    starts reads.flatten ≤ (reads.map decodeLossy).flatten.length := by
  induction reads with
  | nil => exact Nat.le_refl _
  | cons read rest ih =>
      rw [List.flatten_cons, List.map_cons, List.flatten_cons, starts_append, List.length_append]
      exact Nat.add_le_add (starts_le_length read) ih

theorem fresh_flatten {reads : List Bytes} (h : ∀ read ∈ reads, Fresh read) :
    Fresh reads.flatten := by
  induction reads with
  | nil => exact fun _ hb => nomatch hb
  | cons read rest ih =>
      obtain ⟨hread, hrest⟩ := List.forall_mem_cons.mp h
      cases read with
      | nil => exact ih hrest
      | cons first tail => exact hread

/-- **COUNT**: if pieces are decoded to no more characters than begin in them, then each of them
begins with a character. -/
theorem fresh_of_length {reads : List Bytes}
    (h : (reads.map decodeLossy).flatten.length = starts reads.flatten) :
    ∀ read ∈ reads, Fresh read := by
  induction reads with
  | nil => exact List.forall_mem_nil _
  | cons read rest ih =>
      rw [List.flatten_cons, List.map_cons, List.flatten_cons, starts_append,
        List.length_append] at h
      have hread := starts_le_length read
      have hrest := starts_flatten_le rest
      refine List.forall_mem_cons.mpr ⟨?_, ih (by omega)⟩
      intro b hb
      cases read with
      | nil => exact nomatch hb
      | cons first tail =>
          obtain rfl := Option.some.inj hb
          cases hcontinues : continues first with
          | false => rfl
          | true =>
              -- one character too many here, and the others cannot make up for it
              have hlonger := starts_lt_length hcontinues tail
              omega

/-- What begins with a character does not begin inside of one. -/
theorem Fresh.eq_nil {more rest : Bytes} (h : Fresh (more ++ rest))
    (hmore : ∀ b ∈ more, continues b = true) : more = [] := by
  cases more with
  | nil => rfl
  | cons b more =>
      have hfresh := h b rfl
      rw [hmore b List.mem_cons_self] at hfresh
      exact nomatch hfresh

/-- **CUT**: an encoded text is cut between characters if what is behind the cut begins with one. -/
theorem whole_of_append {text : List Char} {before behind : Bytes}
    (h : before ++ behind = encodeUtf8 text) (hfresh : Fresh behind) :
    Whole before ∧ Whole behind := by
  induction text generalizing before with
  | nil =>
      obtain ⟨rfl, rfl⟩ := List.append_eq_nil_iff.mp h
      exact ⟨⟨[], rfl⟩, [], rfl⟩
  | cons c text ih =>
      obtain ⟨first, tail, hbytes, hspells⟩ := encodeChar_spells c
      have hcons : before ++ behind = encodeChar c ++ encodeUtf8 text := h
      rcases List.append_eq_append_iff.mp hcons with ⟨more, hchar, hbehind⟩ | ⟨more, hbefore, hrest⟩
      · -- the cut is in the first character, or at one of its ends
        cases before with
        | nil => exact ⟨⟨[], rfl⟩, c :: text, h⟩
        | cons b before =>
            obtain ⟨-, htail⟩ := List.cons.inj (hbytes.symm.trans hchar)
            have hmore : more = [] := by
              refine Fresh.eq_nil (hbehind ▸ hfresh) fun b hb => hspells.continues b ?_
              rw [htail]
              exact List.mem_append_right before hb
            rw [hmore] at hchar hbehind
            rw [List.append_nil] at hchar
            exact ⟨⟨[c], hchar.symm.trans (List.append_nil _).symm⟩, text, hbehind⟩
      · obtain ⟨⟨front, hfront⟩, hback⟩ := ih hrest.symm
        refine ⟨⟨c :: front, ?_⟩, hback⟩
        rw [hbefore, hfront]
        rfl

/-- **PIECES**: if every piece of an encoded text begins with a character, then all are whole. -/
theorem whole_of_fresh {reads : List Bytes} {text : List Char}
    (hstream : reads.flatten = encodeUtf8 text) (hfresh : ∀ read ∈ reads, Fresh read) :
    ∀ read ∈ reads, Whole read := by
  induction reads generalizing text with
  | nil => exact List.forall_mem_nil _
  | cons read rest ih =>
      obtain ⟨hread, hrest⟩ := List.forall_mem_cons.mp hfresh
      obtain ⟨hwhole, part, hpart⟩ := whole_of_append hstream (fresh_flatten hrest)
      exact List.forall_mem_cons.mpr ⟨hwhole, ih hpart hrest⟩

/-- **DECODED**: an encoded text that comes in pieces is decoded as it was exactly if every piece
is made of whole characters. -/
theorem decoded_iff_whole {reads : List Bytes} {text : List Char}
    (hstream : reads.flatten = encodeUtf8 text) :
    (reads.map decodeLossy).flatten = text ↔ ∀ read ∈ reads, Whole read := by
  constructor
  · intro hdecoded
    -- the text has as many characters as begin in the stream, so no piece can add one
    refine whole_of_fresh hstream (fresh_of_length ?_)
    rw [hdecoded, hstream, starts_encodeUtf8]
  · intro hwhole
    exact encodeUtf8_injective ((flatten_of_whole hwhole).symm.trans hstream)

/-! ## Taking -/

namespace Connection

variable {τ : Type} {connection : Connection τ} {files : Files} {path : String} {held : Bytes}

/-- **RECEIVED**: when nothing is found, all chunks have gone to the buffer and to the log. -/
theorem take_unfound {patterns : List Pattern} {chunks : List Text} {records : List Record}
    (hlog : connection.log = some path) (hheld : files.read path = .ok held)
    (h : (connection.take patterns chunks files records).found = none) :
    (connection.take patterns chunks files records).connection.buffer.unread
        = connection.buffer.unread ++ chunks.flatten ∧
      (connection.take patterns chunks files records).files.read path
        = .ok (held ++ encodeUtf8 chunks.flatten) := by
  rcases unfound_or_firstFind patterns connection.buffer chunks with hnone | ⟨_, _, _, hfirst⟩
  · obtain ⟨more, htake⟩ := connection.take_unfound_all files hnone records
    rw [htake]
    exact ⟨rfl, ((connection.book files).read_writeAll hlog hheld chunks).2⟩
  · obtain ⟨more, htake⟩ := connection.take_firstFind files hfirst records
    rw [htake] at h
    exact nomatch h

end Connection

/-! ## Waiting -/

variable {τ : Type} [Transport τ]

/-- What it comes to that the program is heard out, when all that it wrote before has been
taken. -/
def Connection.heardOut (patterns : List Pattern) (limit : Duration) (connection : Connection τ)
    (files : Files) : Taken τ :=
  let heard := Transport.listen limit connection.transport files
  let connection :=
    { connection with arrived := [], transport := heard.next, ended := heard.ended }
  connection.take patterns (heard.reads.map decodeLossy) heard.files []

/-- If it comes to nothing, what was read has been received, as it is decoded. -/
theorem Connection.heardOut_unfound {connection : Connection τ} {patterns : List Pattern}
    {limit : Duration} {files : Files} {path : String} {held : Bytes}
    (hlog : connection.log = some path)
    (hheld : (Transport.listen limit connection.transport files).files.read path = .ok held)
    (h : (connection.heardOut patterns limit files).found = none) :
    (connection.heardOut patterns limit files).connection.buffer.unread
        = connection.buffer.unread ++
          ((Transport.listen limit connection.transport files).reads.map decodeLossy).flatten ∧
      (connection.heardOut patterns limit files).files.read path
        = .ok (held ++ encodeUtf8
          ((Transport.listen limit connection.transport files).reads.map decodeLossy).flatten) := by
  rw [heardOut] at h ⊢
  refine take_unfound ?_ hheld h
  exact hlog

section Wait

variable {client : Client τ} {connection : Connection τ} {patterns : List Pattern}
  {limit : Duration} {files : Files}

/-- A wait in vain has heard the program out. -/
theorem Client.expect_heardOut (hconnection : client.connection = some connection)
    (harrived : connection.arrived = []) (hopen : connection.ended = false) :
    (client.expect patterns limit files).result.toOption
        = (connection.heardOut patterns limit files).found ∧
      ((connection.heardOut patterns limit files).found = none →
        (client.expect patterns limit files).files
          = (connection.heardOut patterns limit files).files ∧
        ((Transport.listen limit connection.transport files).ended = false →
          (client.expect patterns limit files).next
            = { client with
                connection := some (connection.heardOut patterns limit files).connection })) := by
  rcases hfind : connection.buffer.find patterns with ⟨_ | first, behind⟩
  · have hearly : connection.take patterns connection.arrived files []
        = ⟨none, { connection with arrived := [] }, files, []⟩ := by
      rw [harrived, Connection.take_nil hfind]
    rcases hlate : connection.heardOut patterns limit files with ⟨found, late, files', records⟩
    rw [Connection.heardOut] at hlate
    simp only [Client.expect, hconnection, hearly, hopen, Bool.false_eq_true, ↓reduceIte, hlate]
    cases found with
    | some found => exact ⟨rfl, fun hnone => absurd hnone (Option.some_ne_none found)⟩
    | none =>
        dsimp only
        split
        · next hended =>
          exact ⟨rfl, fun _ => ⟨rfl, fun hgoing => absurd hended (Bool.eq_false_iff.mp hgoing)⟩⟩
        · exact ⟨rfl, fun _ => ⟨rfl, fun _ => rfl⟩⟩
  · -- the match is in what was unread, and the program is not listened to
    have hlate : (connection.heardOut patterns limit files).found = some first := by
      rw [Connection.heardOut, Connection.take_found]
      exact hfind
    refine ⟨?_, fun hnone => absurd (hlate.symm.trans hnone) (Option.some_ne_none first)⟩
    rw [hlate]
    simp only [Client.expect, hconnection, harrived, Connection.take_found hfind]
    rfl

/-- A wait that finds nothing, neither before the program is listened to nor in what it writes
then.  The log is there, and holds some bytes. -/
structure Vain (client : Client τ) (patterns : List Pattern) (limit : Duration) (files : Files)
    (connection : Connection τ) (path : String) (held : Bytes) : Prop where
  connected : client.connection = some connection
  taken : connection.arrived = []
  going : connection.ended = false
  logged : connection.log = some path
  holds : (Transport.listen limit connection.transport files).files.read path = .ok held
  vain : (client.expect patterns limit files).result.toOption = none

/-- What was read in vain is unread behind it and in the log, as it is decoded. -/
theorem Vain.received {client : Client τ} {patterns : List Pattern} {limit : Duration}
    {files : Files} {connection : Connection τ} {path : String} {held : Bytes}
    (h : Vain client patterns limit files connection path held) :
    let received :=
      ((Transport.listen limit connection.transport files).reads.map decodeLossy).flatten
    (client.expect patterns limit files).files.read path = .ok (held ++ encodeUtf8 received) ∧
      ((Transport.listen limit connection.transport files).ended = false →
        (client.expect patterns limit files).next.unread = client.unread ++ received) := by
  obtain ⟨hfound, hheard⟩ := Client.expect_heardOut h.connected h.taken h.going
  rw [h.vain] at hfound
  obtain ⟨hfiles, hnext⟩ := hheard hfound.symm
  obtain ⟨hunread, hfile⟩ := Connection.heardOut_unfound h.logged h.holds hfound.symm
  refine ⟨hfiles ▸ hfile, ?_⟩
  intro hgoing
  rw [hnext hgoing, Client.unread, Client.unread, h.connected]
  exact hunread

/-- **READS**: a text that comes in reads is decoded as it was written exactly if every read is
made of whole characters.  So it is with the text that is unread behind a wait that found nothing,
and with what the wait has added to the session log. -/
theorem received_iff_whole {text : Text} {reads : List Bytes}
    (hstream : reads.flatten = encodeUtf8 text) :
    ((reads.map decodeLossy).flatten = text ↔ ∀ read ∈ reads, Whole read) ∧
    ∀ {client : Client τ} {patterns : List Pattern} {limit : Duration} {files : Files}
      {connection : Connection τ} {path : String} {held : Bytes},
      Vain client patterns limit files connection path held →
      (Transport.listen limit connection.transport files).reads = reads →
      ((client.expect patterns limit files).files.read path = .ok (held ++ encodeUtf8 text) ↔
        ∀ read ∈ reads, Whole read) ∧
      ((Transport.listen limit connection.transport files).ended = false →
        ((client.expect patterns limit files).next.unread = client.unread ++ text ↔
          ∀ read ∈ reads, Whole read)) := by
  refine ⟨decoded_iff_whole hstream, ?_⟩
  intro client patterns limit files connection path held hvain hreads
  obtain ⟨hfile, hunread⟩ := hvain.received
  rw [hreads] at hfile hunread
  refine ⟨?_, ?_⟩
  · rw [← decoded_iff_whole hstream, hfile, Except.ok.injEq, List.append_cancel_left_eq]
    exact ⟨encodeUtf8_injective, congrArg encodeUtf8⟩
  · intro hgoing
    rw [← decoded_iff_whole hstream, hunread hgoing, List.append_cancel_left_eq]

end Wait

/-! ## A program that has written -/

/-- A program that has written all that it is going to write, in these reads. -/
structure Prepared where
  reads : List Bytes

instance : Transport Prepared where
  write _ program := .ok program
  listen _ program files := ⟨program.reads, false, program, files⟩

namespace Prepared

/-- A connection to a program that has written this, and nothing of it was taken yet. -/
def connection (reads : List Bytes) : Connection Prepared :=
  { transport := ⟨reads⟩, log := some "session.log" }

/-- A session over it. -/
def client (reads : List Bytes) : Client Prepared :=
  { invocation := ⟨"telnet", ["r1"]⟩
    launch := fun _ _ => .ok ⟨reads⟩
    prompt := .ofText "r1#"
    connection := some (connection reads) }

/-- Where its log is written: the prompt of the device has been shown. -/
def files : Files :=
  { root := "/", nodes := [(["session.log"], .file (encodeUtf8 "r1#".toList) false)] }

/-- A wait for the next prompt. -/
def wait (reads : List Bytes) : Outcome (Client Prepared) Match :=
  (client reads).expect [.ofText "r1#"] (.ofSecs 5) files

theorem read_files : files.read "session.log" = .ok (encodeUtf8 "r1#".toList) :=
  Files.read_sessionLog _

/-- The wait is in vain if there is no prompt in what has been read, however much it is. -/
theorem wait_vain (reads : List Bytes)
    (h : Unfound [.ofText "r1#"] {} (reads.map decodeLossy)) :
    Vain (client reads) [.ofText "r1#"] (.ofSecs 5) files (connection reads) "session.log"
      (encodeUtf8 "r1#".toList) where
  connected := rfl
  taken := rfl
  going := rfl
  logged := rfl
  holds := read_files
  vain := by
    have hfound : ((connection reads).heardOut [.ofText "r1#"] (.ofSecs 5) files).found = none := by
      obtain ⟨_, htake⟩ := (connection reads).take_unfound_all files h []
      exact congrArg Connection.Taken.found htake
    exact (Client.expect_heardOut rfl rfl rfl).1.trans hfound

/-- The reads of a word that is cut behind its first character. -/
def whole : List Bytes := [encodeUtf8 "é".toList, encodeUtf8 "tage".toList]

/-- The word is unread, and in the log. -/
theorem whole_received :
    whole.flatten = encodeUtf8 "étage".toList ∧
      (∀ read ∈ whole, Whole read) ∧
      (wait whole).files.read "session.log" = .ok (encodeUtf8 "r1#étage".toList) ∧
      (wait whole).next.unread = "étage".toList := by
  have hstream : whole.flatten = encodeUtf8 "étage".toList := rfl
  have hwhole : ∀ read ∈ whole, Whole read := by
    intro read hread
    simp only [whole, List.mem_cons, List.not_mem_nil, or_false] at hread
    rcases hread with rfl | rfl
    · exact ⟨_, rfl⟩
    · exact ⟨_, rfl⟩
  have hvain := wait_vain whole (by decide +kernel)
  obtain ⟨hlog, hunread⟩ := (received_iff_whole hstream).2 hvain rfl
  refine ⟨hstream, hwhole, ?_, ?_⟩
  · exact hlog.mpr hwhole
  · exact (hunread rfl).mpr hwhole

/-- The reads of one that is cut inside of a character. -/
def torn : List Bytes := [[0x63, 0x61, 0x66, 0xC3], [0xA9, 0x21]]

/-- Another text is unread, and in the log. -/
theorem torn_received :
    torn.flatten = encodeUtf8 "café!".toList ∧
      (∀ read ∈ torn, read ≠ [] ∧ read.length ≤ 4096) ∧
      (torn.map decodeLossy).flatten = "caf\uFFFD\uFFFD!".toList ∧
      (torn.map decodeLossy).flatten ≠ "café!".toList ∧
      (wait torn).files.read "session.log" = .ok (encodeUtf8 "r1#caf\uFFFD\uFFFD!".toList) ∧
      (wait torn).next.unread = "caf\uFFFD\uFFFD!".toList := by
  have hdecoded : (torn.map decodeLossy).flatten = "caf\uFFFD\uFFFD!".toList := by
    decide +kernel
  have hother : (torn.map decodeLossy).flatten ≠ "café!".toList := by
    rw [hdecoded]
    decide
  have hvain := wait_vain torn (by decide +kernel)
  obtain ⟨hlog, hunread⟩ := hvain.received
  have hreads : (Transport.listen (.ofSecs 5) (connection torn).transport files).reads = torn := rfl
  rw [hreads, hdecoded] at hlog hunread
  exact ⟨rfl, by decide, hdecoded, hother, hlog, hunread rfl⟩

end Prepared

end Upkeep
