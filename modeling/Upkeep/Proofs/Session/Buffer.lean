import Upkeep.Proofs.Session.Conservation
import Upkeep.Proofs.Session.Recorded
import Upkeep.Session.Perturbed
import Upkeep.Session.Piped
import Upkeep.Session.Replay

/-! # The buffer — a match is one of the patterns

    A match that is taken from the buffer carries the index of its pattern.
    Whoever waits looks the pattern up by this index, so the index has to be
    that of one of the patterns asked for.  All kinds of sessions keep to this,
    and one that fails on purpose does so as the session behind it does. -/

namespace Upkeep

namespace Buffer

/-- **INDEX**: what is taken from the buffer is a match of one of the patterns. -/
theorem find_index_lt {buffer rest : Buffer} {patterns : List Pattern} {found : Match}
    (h : buffer.find patterns = (some found, rest)) : found.index < patterns.length := by
  rcases buffer.find_cases patterns with ⟨hnone, -⟩ | ⟨first, behind, span, hfind, htakes⟩
  · rw [hnone] at h
    cases h
  · rw [hfind] at h
    cases h
    obtain ⟨pattern, hown, -⟩ := htakes.earliest.matched
    exact (List.getElem?_eq_some_iff.mp hown).1

end Buffer

namespace Connection

variable {τ : Type} {connection : Connection τ} {patterns : List Pattern} {behind : Buffer}
  {files : Files}

/-- A connection that finds nothing in what it has waits for chunks. -/
theorem take_nil (hfind : connection.buffer.find patterns = (none, behind))
    (records : List Record) :
    connection.take patterns [] files records
      = ⟨none, { connection with arrived := [] }, files, records⟩ := by
  rw [take.eq_def]
  simp only [hfind]

/-- A connection that finds something does so in what it has, and takes no chunk. -/
theorem take_found {found : Match}
    (hfind : connection.buffer.find patterns = (some found, behind)) (chunks : List Text)
    (records : List Record) :
    connection.take patterns chunks files records
      = ⟨some found, { connection with buffer := behind, arrived := chunks }, files, records⟩ := by
  rw [take.eq_def]
  simp only [hfind]

/-- One that finds nothing takes the next chunk. -/
theorem take_cons (hfind : connection.buffer.find patterns = (none, behind)) (chunk : Text)
    (rest : List Text) (records : List Record) :
    connection.take patterns (chunk :: rest) files records
      = (connection.receive chunk files).1.take patterns rest
          (connection.receive chunk files).2.1
          (records ++ (connection.receive chunk files).2.2) := by
  rw [take.eq_def]
  simp only [hfind]

/-- What a connection takes is a match of one of the patterns, whichever chunk completes it. -/
theorem take_index_lt (chunks : List Text) (connection : Connection τ) (files : Files)
    (records : List Record) :
    ∀ found ∈ (connection.take patterns chunks files records).found,
      found.index < patterns.length := by
  induction chunks generalizing connection files records with
  | nil =>
      intro found hfound
      rcases hfind : connection.buffer.find patterns with ⟨_ | first, rest⟩
      · rw [take_nil hfind] at hfound
        exact nomatch hfound
      · rw [take_found hfind] at hfound
        obtain rfl := Option.some.inj hfound
        exact Buffer.find_index_lt hfind
  | cons chunk more ih =>
      intro found hfound
      rcases hfind : connection.buffer.find patterns with ⟨_ | first, rest⟩
      · -- nothing matches yet, and the chunk is received
        rw [take_cons hfind] at hfound
        exact ih _ _ _ found hfound
      · rw [take_found hfind] at hfound
        obtain rfl := Option.some.inj hfound
        exact Buffer.find_index_lt hfind

end Connection

/-- A client session finds one of the patterns, in what has arrived or in what arrives. -/
theorem Client.inRange {τ : Type} [Transport τ] (patterns : List Pattern) :
    Session.InRange (Client τ) patterns := by
  intro client files limit found h
  have hexpect : (client.expect patterns limit files).result = .ok found := h
  rw [Client.expect] at hexpect
  split at hexpect
  · split at hexpect
    · next hfind =>
      obtain rfl := Except.ok.inj hexpect
      exact Buffer.find_index_lt hfind
    · exact nomatch hexpect
  · next connection _ =>
    dsimp only at hexpect
    split at hexpect
    · next hfound =>
      obtain rfl := Except.ok.inj hexpect
      exact Connection.take_index_lt _ _ _ _ _ hfound
    · split at hexpect
      · exact nomatch hexpect
      · split at hexpect
        · next hfound =>
          obtain rfl := Except.ok.inj hexpect
          exact Connection.take_index_lt _ _ _ _ _ hfound
        · split at hexpect
          · exact nomatch hexpect
          · exact nomatch hexpect

namespace Piped

variable {τ : Type} {patterns : List Pattern} {piped : Piped τ} {behind : Buffer} {files : Files}

/-- A session that finds nothing in what it has waits for chunks. -/
theorem search_nil (hfind : piped.buffer.find patterns = (none, behind)) (records : List Record) :
    piped.search patterns [] files records = ⟨none, piped.withArrived [], files, records⟩ := by
  rw [search.eq_def]
  simp only [hfind]

/-- One that finds something does so in what it has, and takes no chunk. -/
theorem search_found {found : Match}
    (hfind : piped.buffer.find patterns = (some found, behind)) (chunks : List Text)
    (records : List Record) :
    piped.search patterns chunks files records
      = ⟨some found, { piped with buffer := behind }.withArrived chunks, files, records⟩ := by
  rw [search.eq_def]
  simp only [hfind]

/-- One that finds nothing takes the next chunk. -/
theorem search_cons (hfind : piped.buffer.find patterns = (none, behind)) (chunk : Text)
    (rest : List Text) (records : List Record) :
    piped.search patterns (chunk :: rest) files records
      = search patterns rest
          { (piped.record chunk files).1 with
            buffer := (piped.record chunk files).1.buffer.push chunk }
          (piped.record chunk files).2.1 (records ++ (piped.record chunk files).2.2) := by
  rw [search.eq_def]
  simp only [hfind]

/-- What is found is a match of one of the patterns, whichever chunk completes it. -/
theorem search_index_lt (chunks : List Text) (piped : Piped τ) (files : Files)
    (records : List Record) :
    ∀ found ∈ (piped.search patterns chunks files records).found,
      found.index < patterns.length := by
  induction chunks generalizing piped files records with
  | nil =>
      intro found hfound
      rcases hfind : piped.buffer.find patterns with ⟨_ | first, rest⟩
      · rw [search_nil hfind] at hfound
        exact nomatch hfound
      · rw [search_found hfind] at hfound
        obtain rfl := Option.some.inj hfound
        exact Buffer.find_index_lt hfind
  | cons chunk more ih =>
      intro found hfound
      rcases hfind : piped.buffer.find patterns with ⟨_ | first, rest⟩
      · rw [search_cons hfind] at hfound
        exact ih _ _ _ found hfound
      · rw [search_found hfind] at hfound
        obtain rfl := Option.some.inj hfound
        exact Buffer.find_index_lt hfind

/-- A piped session finds one of the patterns, in what has arrived or in what arrives. -/
theorem inRange [Transport τ] (patterns : List Pattern) :
    Session.InRange (Piped τ) patterns := by
  intro piped files limit found h
  have hexpect : (piped.expect patterns limit files).result = .ok found := h
  rw [expect] at hexpect
  dsimp only at hexpect
  split at hexpect
  · next first hfound =>
    obtain rfl := Except.ok.inj hexpect
    exact search_index_lt _ _ _ _ _ hfound
  · exact nomatch hexpect
  · rw [conclude] at hexpect
    split at hexpect
    · next hfound =>
      obtain rfl := Except.ok.inj hexpect
      exact search_index_lt _ _ _ _ _ hfound
    · split at hexpect
      · exact nomatch hexpect
      · exact nomatch hexpect

end Piped

/-- A perturbed session finds what the session behind it finds. -/
theorem Perturbed.inRange {σ : Type} [Session σ] {patterns : List Pattern}
    (h : Session.InRange σ patterns) : Session.InRange (Perturbed σ) patterns := by
  intro session files limit found hfound
  have hpass : (Perturbed.pass .expect session.lag (Session.expect patterns limit) session
    files).result = .ok found := hfound
  rw [Perturbed.pass] at hpass
  split at hpass
  · exact nomatch hpass
  · exact h session.inner files limit found hpass

/-- A replayed session takes the earliest match over its connection, and otherwise fails; the wait
is noted either way. -/
theorem Replay.expect_cases (patterns : List Pattern) (limit : Duration) (replay : Replay)
    (files : Files) :
    let noted := replay.noting fun log => { log with waits := log.waits ++ [limit] }
    (∃ error, replay.expect patterns limit files = .failed error noted files) ∨
      ∃ found behind span, replay.connected = true ∧
        Buffer.Takes patterns replay.buffer found behind span ∧
        replay.expect patterns limit files
          = .done found { noted with buffer := behind } files := by
  intro noted
  rw [expect]
  by_cases hconnected : replay.connected = true
  · rw [if_pos (show noted.connected = true from hconnected)]
    rcases replay.buffer.find_cases patterns with ⟨hfind, -⟩ | ⟨found, behind, span, hfind, htakes⟩
    · exact Or.inl ⟨_, by rw [show noted.buffer.find patterns = _ from hfind]⟩
    · refine Or.inr ⟨found, behind, span, hconnected, htakes, ?_⟩
      rw [show noted.buffer.find patterns = _ from hfind]
  · rw [if_neg (show ¬ noted.connected = true from hconnected)]
    exact Or.inl ⟨_, rfl⟩

/-- A replayed session finds one of the patterns. -/
theorem Replay.inRange (patterns : List Pattern) : Session.InRange Replay patterns := by
  intro replay files limit found h
  have hexpect : (replay.expect patterns limit files).result = .ok found := h
  rcases replay.expect_cases patterns limit files with
    ⟨error, hfailed⟩ | ⟨first, behind, span, -, htakes, hdone⟩
  · rw [hfailed] at hexpect
    exact nomatch hexpect
  · rw [hdone] at hexpect
    obtain rfl := Except.ok.inj hexpect
    obtain ⟨pattern, hown, -⟩ := htakes.earliest.matched
    exact (List.getElem?_eq_some_iff.mp hown).1

end Upkeep
