import Mathlib.Data.List.TakeWhile
import Upkeep.Proofs.Text.Utf8
import Upkeep.Session.Invocation

/-! # Destinations — the host that a client program is given

    The last url of a list says where the device is, and its host goes to the
    client program as an argument of its own.  A client program takes an argument
    for an option if it begins with a dash.  The way from the text of a url to
    that argument is followed for its first character alone: from the place that
    the text names (`Named`) to the part of it that is the host, to how that part
    is written. -/

namespace Upkeep

/-! ## Addresses -/

namespace Address

theorem notMem_intercalate {c : Char} {between : List Char} {parts : List (List Char)}
    (hbetween : c ∉ between) (hparts : ∀ part ∈ parts, c ∉ part) :
    c ∉ between.intercalate parts := by
  induction parts with
  | nil => exact List.not_mem_nil
  | cons part rest ih =>
      obtain ⟨hpart, hrest⟩ := List.forall_mem_cons.mp hparts
      cases rest with
      | nil =>
          rw [List.intercalate_singleton]
          exact hpart
      | cons next more =>
          rw [List.intercalate_cons_cons, List.mem_append, List.mem_append]
          rintro ((hmem | hmem) | hmem)
          · exact hpart hmem
          · exact hbetween hmem
          · exact ih hrest hmem

/-! A character that is no digit is not in an address, unless it is a colon or a dot. -/

section Clean

variable {c : Char} (digitless : ∀ n, Nat.digitChar n ≠ c)
include digitless

/-- Numbers are written with digits. -/
theorem notMem_toDigits {base : Nat} (hbase : 1 < base) (n : Nat) : c ∉ Nat.toDigits base n := by
  induction n using Nat.strongRecOn with
  | ind n ih =>
      have hdigit (m : Nat) : c ∉ [Nat.digitChar m] := by
        rw [List.mem_singleton]
        exact (digitless m).symm
      rw [Nat.toDigits_eq_if hbase]
      split
      · exact hdigit n
      · next hge =>
        have hlt : n / base < n := Nat.div_lt_self (by omega) hbase
        rw [List.mem_append]
        rintro (hmem | hmem)
        · exact ih (n / base) hlt hmem
        · exact hdigit _ hmem

theorem notMem_toString (n : Nat) : c ∉ (toString n).toList := by
  rw [Nat.toString_eq_ofList_toDigits, String.toList_ofList]
  exact notMem_toDigits digitless (by decide) n

theorem notMem_joined (hcolon : c ≠ ':') (pieces : List Nat) : c ∉ (joined pieces).toList := by
  rw [joined, String.toList_intercalate, List.map_map]
  refine notMem_intercalate ?_ ?_
  · intro hmem
    exact hcolon (List.mem_singleton.mp hmem)
  · intro part hpart
    obtain ⟨n, -, rfl⟩ := List.mem_map.mp hpart
    show c ∉ (String.ofList (Nat.toDigits 16 n)).toList
    rw [String.toList_ofList]
    exact notMem_toDigits digitless (by decide) n

/-- An address is written with digits, colons and dots. -/
theorem notMem_render (hcolon : c ≠ ':') (hdot : c ≠ '.') (address : Address) :
    c ∉ address.render.toList := by
  have hf : c ≠ 'f' := fun h => digitless 15 h.symm
  rw [render]
  split
  · rw [String.toList_append, String.toList_intercalate, List.mem_append]
    rintro (hmem | hmem)
    · simp [hcolon, hf] at hmem
    · refine notMem_intercalate ?_ ?_ hmem
      · intro hmem
        exact hdot (List.mem_singleton.mp hmem)
      · simp only [List.map_map, List.mem_map]
        rintro part ⟨n, -, rfl⟩
        exact notMem_toString digitless n
  · dsimp only
    split
    · rw [String.toList_append, String.toList_append, List.mem_append, List.mem_append]
      rintro ((hmem | hmem) | hmem)
      · exact notMem_joined digitless hcolon _ hmem
      · simp [hcolon] at hmem
      · exact notMem_joined digitless hcolon _ hmem
    · exact notMem_joined digitless hcolon _

end Clean

end Address

namespace SessionUrl

/-! ## Hosts -/

/-- A byte is written as a dash only if it is one. -/
theorem escapeByte_cons (b : UInt8) :
    ∃ c rest, escapeByte b = c :: rest ∧ (c = '-' ↔ b = 0x2D) := by
  rw [escapeByte]
  split
  · next hescaped =>
    refine ⟨_, _, rfl, ?_⟩
    constructor
    · intro hdash
      exact absurd hdash (by decide)
    · rintro rfl
      exact absurd hescaped (by decide)
  · next hplain =>
    refine ⟨_, _, rfl, ?_⟩
    constructor
    · intro hdash
      rw [Bool.or_eq_true, decide_eq_true_eq, decide_eq_true_eq, UInt8.lt_iff_toNat_lt,
        UInt8.le_iff_toNat_le, not_or, Nat.not_le] at hplain
      have hascii : ∀ n < 0x7F, Char.ofNat n = '-' → n = 0x2D := by decide
      exact UInt8.toNat_inj.mp (hascii b.toNat hplain.2 hdash)
    · rintro rfl
      rfl

/-- A dash is one byte, and no other character begins with it. -/
theorem encodeChar_dash {c : Char} {first : UInt8} {tail : Bytes}
    (h : encodeChar c = first :: tail) : first = 0x2D ↔ c = '-' := by
  constructor
  · rintro rfl
    obtain ⟨first, rest, hbytes, hspells⟩ := encodeChar_spells c
    obtain ⟨rfl, rfl⟩ := List.cons.inj (h.symm.trans hbytes)
    have hread := congrArg Prod.fst (hspells.read [])
    rw [Char.ofNat_toNat] at hread
    exact (Option.some.inj hread).symm
  · rintro rfl
    exact (List.cons.inj h).1.symm

/-- A host begins with a dash exactly if it is written so. -/
theorem host?_dash {text : List Char} {host : String} (h : host? text = some host) :
    host.toList.head? = some '-' ↔ text.head? = some '-' := by
  rw [host?.eq_def] at h
  split at h
  · next inner =>
    -- an address
    split at h
    · obtain ⟨address, -, rfl⟩ := Option.map_eq_some_iff.mp h
      constructor
      · intro hdash
        exact absurd (List.mem_of_mem_head? hdash)
          (address.notMem_render (fun _ => Nat.digitChar_ne '-' (by decide)) (by decide) (by decide))
      · intro hdash
        exact absurd (Option.some.inj hdash) (by decide)
    · exact nomatch h
  · exact nomatch h
  · next hnil =>
    -- a name
    split at h
    · exact nomatch h
    · obtain rfl := Option.some.inj h
      cases text with
      | nil => exact absurd rfl hnil
      | cons c rest =>
          obtain ⟨first, tail, hbytes, -⟩ := encodeChar_spells c
          obtain ⟨d, more, hescape, hdash⟩ := escapeByte_cons first
          -- the first byte of the first character decides what is written first
          have hhost : (encodeUtf8 (c :: rest)).flatMap escapeByte
              = d :: (more ++ (tail ++ encodeUtf8 rest).flatMap escapeByte) := by
            show (encodeChar c ++ encodeUtf8 rest).flatMap escapeByte = _
            rw [hbytes, List.cons_append, List.flatMap_cons, hescape, List.cons_append]
          rw [String.toList_ofList, hhost, List.head?_cons, List.head?_cons, Option.some.injEq,
            Option.some.injEq, hdash, encodeChar_dash hbytes]

/-- What is cut at a colon begins as it did. -/
theorem splitHost_dash (place : List Char) :
    (splitHost false place).1.head? = some '-' ↔ place.head? = some '-' := by
  cases place with
  | nil => exact Iff.rfl
  | cons c rest =>
      rw [splitHost]
      split
      · next hcolon =>
        rw [Bool.and_eq_true, decide_eq_true_eq] at hcolon
        constructor
        · exact fun hdash => nomatch hdash
        · intro hdash
          exact absurd (hcolon.1.symm.trans (Option.some.inj hdash)) (by decide)
      · exact Iff.rfl

/-! ## Places -/

/-- A character that ends neither the user nor the place. -/
def inAuthority (c : Char) : Bool := c ≠ '/' && c ≠ '?' && c ≠ '#'

/-- The place that a text names: it stands behind the scheme and behind a user, if there is one,
and reaches to a path, a query or a fragment. -/
def Named (text place : List Char) : Prop :=
  ∃ scheme authority rest, text = scheme ++ ':' :: '/' :: '/' :: (authority ++ rest) ∧
    ':' ∉ scheme ∧
    (∀ c ∈ authority, inAuthority c = true) ∧
    (∀ c ∈ rest.head?, inAuthority c = false) ∧
    (authority = place ∨ ∃ name, authority = name ++ '@' :: place) ∧
    '@' ∉ place

theorem takeWhile_until {p : Char → Bool} {front rest : List Char}
    (hfront : ∀ c ∈ front, p c = true) (hrest : ∀ c ∈ rest.head?, p c = false) :
    (front ++ rest).takeWhile p = front := by
  rw [List.takeWhile_append_of_pos hfront]
  cases rest with
  | nil => exact List.append_nil _
  | cons c rest =>
      rw [List.takeWhile_cons_of_neg (Bool.eq_false_iff.mp (hrest c rfl)), List.append_nil]

theorem splitUser_bare {place : List Char} (h : '@' ∉ place) : splitUser place = ([], place) := by
  rw [splitUser, if_neg]
  rw [List.contains_iff_mem]
  exact h

theorem splitUser_behind (name : List Char) {place : List Char} (h : '@' ∉ place) :
    splitUser (name ++ '@' :: place) = (name, place) := by
  have hplace : (name ++ '@' :: place).reverse.takeWhile (· ≠ '@') = place.reverse := by
    rw [List.reverse_append, List.reverse_cons, List.append_assoc, List.singleton_append]
    refine takeWhile_until ?_ (by simp)
    intro c hc
    rw [decide_eq_true_eq]
    rintro rfl
    exact h (List.mem_reverse.mp hc)
  have hlength : (name ++ '@' :: place).length - place.length - 1 = name.length := by
    rw [List.length_append, List.length_cons]
    omega
  -- the place is found from the end, so an earlier @ belongs to the name
  rw [splitUser, if_pos, hplace, List.reverse_reverse]
  · dsimp only
    rw [hlength, List.take_left]
  · simp

/-- A text has no `@`, or a last one. -/
theorem at_cases (text : List Char) :
    '@' ∉ text ∨ ∃ name place, text = name ++ '@' :: place ∧ '@' ∉ place := by
  by_cases h : '@' ∈ text
  · obtain ⟨place, name, hsplit, hplace⟩ := List.eq_append_cons_of_mem (List.mem_reverse.mpr h)
    refine Or.inr ⟨name.reverse, place.reverse, ?_, ?_⟩
    · rw [← List.reverse_reverse text, hsplit, List.reverse_append, List.reverse_cons,
        List.append_assoc, List.singleton_append]
    · rw [List.mem_reverse]
      exact hplace
  · exact Or.inl h

/-- Every text with a scheme names a place. -/
theorem named_splitUser {scheme : List Char} (hscheme : ':' ∉ scheme) (rest : List Char) :
    Named (scheme ++ ':' :: '/' :: '/' :: rest) (splitUser (rest.takeWhile inAuthority)).2 := by
  have hrest : ∀ c ∈ (rest.dropWhile inAuthority).head?, inAuthority c = false := by
    intro c hc
    have hnot := List.head?_dropWhile_not inAuthority rest
    rw [hc] at hnot
    exact hnot
  refine ⟨scheme, rest.takeWhile inAuthority, rest.dropWhile inAuthority, ?_, hscheme,
    fun c hc => List.mem_takeWhile_imp hc, hrest, ?_⟩
  · rw [List.takeWhile_append_dropWhile]
  · rcases at_cases (rest.takeWhile inAuthority) with hbare | ⟨name, place, hsplit, hplace⟩
    · rw [splitUser_bare hbare]
      exact ⟨Or.inl rfl, hbare⟩
    · rw [hsplit, splitUser_behind name hplace]
      exact ⟨Or.inr ⟨name, rfl⟩, hplace⟩

/-- The place is the one that is found behind the scheme. -/
theorem Named.splitUser_eq {text place : List Char} (h : Named text place) :
    ∃ rest, text.drop (text.takeWhile (· ≠ ':')).length = ':' :: '/' :: '/' :: rest ∧
      (splitUser (rest.takeWhile inAuthority)).2 = place := by
  obtain ⟨scheme, authority, rest, rfl, hscheme, hauthority, hrest, hplace, hat⟩ := h
  have hbefore : (scheme ++ ':' :: '/' :: '/' :: (authority ++ rest)).takeWhile (· ≠ ':')
      = scheme := by
    refine takeWhile_until ?_ (by simp)
    intro c hc
    rw [decide_eq_true_eq]
    rintro rfl
    exact hscheme hc
  refine ⟨authority ++ rest, ?_, ?_⟩
  · rw [hbefore, List.drop_left]
  · rw [takeWhile_until hauthority hrest]
    rcases hplace with rfl | ⟨name, rfl⟩
    · rw [splitUser_bare hat]
    · rw [splitUser_behind name hat]

/-- A text names one place at most. -/
theorem Named.unique {text place other : List Char} (h : Named text place)
    (hother : Named text other) : place = other := by
  obtain ⟨rest, hrest, rfl⟩ := h.splitUser_eq
  obtain ⟨rest', hrest', rfl⟩ := hother.splitUser_eq
  have hsame : rest = rest' := by simpa using hrest.symm.trans hrest'
  rw [hsame]

/-- **PLACE**: the host of a url is read from the place that its text names. -/
theorem read?_named {text : String} {url : SessionUrl} (h : read? text = some url) :
    ∃ place, Named (cleaned text.toList) place ∧
      host? (splitHost false place).1 = some url.host := by
  simp only [read?, Option.bind_eq_bind, Option.bind_eq_some_iff] at h
  obtain ⟨protocol, -, h⟩ := h
  split at h
  · next rest hrest =>
    obtain ⟨user, -, h⟩ := Option.bind_eq_some_iff.mp h
    obtain ⟨host, hhost, h⟩ := Option.bind_eq_some_iff.mp h
    have hurl : url.host = host := by
      split at h
      · obtain ⟨_, -, h⟩ := Option.bind_eq_some_iff.mp h
        exact congrArg SessionUrl.host (Option.some.inj h).symm
      · obtain ⟨_, -, h⟩ := Option.bind_eq_some_iff.mp h
        exact congrArg SessionUrl.host (Option.some.inj h).symm
    have htext : cleaned text.toList
        = (cleaned text.toList).takeWhile (· ≠ ':') ++ ':' :: '/' :: '/' :: rest := by
      rw [← hrest]
      exact (List.prefix_iff_eq_append.mp (List.takeWhile_prefix _)).symm
    have hscheme : ':' ∉ (cleaned text.toList).takeWhile (· ≠ ':') := by
      intro hmem
      exact absurd (List.mem_takeWhile_imp hmem) (by decide)
    have hnamed := named_splitUser hscheme rest
    rw [← htext] at hnamed
    rw [hurl]
    exact ⟨_, hnamed, hhost⟩
  · exact nomatch h

/-- **DASH**: the host of a url begins with a dash exactly if the place that its text names
does. -/
theorem read?_dash {text : String} {url : SessionUrl} (h : read? text = some url) :
    url.host.toList.head? = some '-' ↔ ∃ rest, Named (cleaned text.toList) ('-' :: rest) := by
  obtain ⟨place, hnamed, hhost⟩ := read?_named h
  rw [host?_dash hhost, splitHost_dash]
  constructor
  · intro hdash
    obtain ⟨rest, rfl⟩ := List.head?_eq_some_iff.mp hdash
    exact ⟨rest, hnamed⟩
  · rintro ⟨rest, hrest⟩
    rw [hnamed.unique hrest]
    rfl

end SessionUrl

namespace Invocation

/-! ## Arguments -/

/-- The client is given the host as its destination: the ssh client behind all options, the telnet
client before a port. -/
inductive Reaches (host : String) : Invocation → Prop where
  | ssh (options : List String) : Reaches host ⟨"ssh", options ++ [host]⟩
  | telnet (ports : List String) : Reaches host ⟨"telnet", host :: ports⟩

/-- An invocation reaches the host of the last url. -/
theorem ofUrls_reaches {urls : List String} {invocation : Invocation}
    (h : ofUrls urls = .ok invocation) :
    ∃ last url, urls.getLast? = some last ∧ SessionUrl.read? last = some url ∧
      Reaches url.host invocation := by
  rw [ofUrls] at h
  split at h
  · exact nomatch h
  · next last hlast =>
    refine ⟨last, ?_⟩
    cases hread : SessionUrl.read? last with
    | none =>
        rw [readUrl, hread] at h
        exact nomatch h
    | some url =>
        refine ⟨url, hlast, rfl, ?_⟩
        rw [readUrl, hread] at h
        simp only [bind, Except.bind] at h
        split at h
        · -- a hop is refused
          exact nomatch h
        · split at h
          · obtain rfl := Except.ok.inj h
            exact .ssh _
          · obtain rfl := Except.ok.inj h
            exact .telnet _

/-- **DESTINATION**: for urls that are accepted, the client is given the host of the last one.
The argument begins with a dash exactly if the place that the url names does, whatever the
protocol, the user, the port and the hops are. -/
theorem destination_dash_iff {urls : List String} {invocation : Invocation}
    (h : ofUrls urls = .ok invocation) :
    ∃ last url, urls.getLast? = some last ∧ SessionUrl.read? last = some url ∧
      Reaches url.host invocation ∧
      (url.host.toList.head? = some '-' ↔
        ∃ rest, SessionUrl.Named (SessionUrl.cleaned last.toList) ('-' :: rest)) := by
  obtain ⟨last, url, hlast, hread, hreaches⟩ := ofUrls_reaches h
  exact ⟨last, url, hlast, hread, hreaches, SessionUrl.read?_dash hread⟩

/-- A device behind a hop: its url names no place that begins with a dash, and its host is none. -/
theorem hopped_destination :
    ofUrls ["ssh://jump", "ssh://ops@r1"] = .ok ⟨"ssh",
        ["-tt", "-o", "BatchMode=yes", "-o", "ConnectTimeout=10", "-J", "jump", "-l", "ops",
          "r1"]⟩ ∧
      ¬∃ rest, SessionUrl.Named (SessionUrl.cleaned "ssh://ops@r1".toList) ('-' :: rest) := by
  have hhop : SessionUrl.read? "ssh://jump" = some ⟨.ssh, none, "jump", none⟩ := by
    decide +kernel
  have htarget : SessionUrl.read? "ssh://ops@r1" = some ⟨.ssh, some "ops", "r1", none⟩ := by
    decide +kernel
  have hurls : ofUrls ["ssh://jump", "ssh://ops@r1"] = .ok ⟨"ssh",
      ["-tt", "-o", "BatchMode=yes", "-o", "ConnectTimeout=10", "-J", "jump", "-l", "ops",
        "r1"]⟩ := by
    simp [ofUrls, readUrl, hop, hhop, htarget, sshArguments, SessionUrl.jump, bind, Except.bind,
      pure, Except.pure]
  refine ⟨hurls, ?_⟩
  obtain ⟨last, url, hlast, hread, -, hdash⟩ := destination_dash_iff hurls
  obtain rfl : "ssh://ops@r1" = last := Option.some.inj hlast
  obtain rfl := Option.some.inj (htarget.symm.trans hread)
  rw [← hdash]
  decide

/-- The ssh client is given an option where the host of the device should be. -/
theorem option_is_destination :
    ofUrls ["ssh://-oProxyCommand=reboot"] = .ok ⟨"ssh",
        ["-tt", "-o", "BatchMode=yes", "-o", "ConnectTimeout=10", "-oProxyCommand=reboot"]⟩ ∧
      SessionUrl.read? "ssh://-oProxyCommand=reboot"
        = some ⟨.ssh, none, "-oProxyCommand=reboot", none⟩ ∧
      "-oProxyCommand=reboot".toList.head? = some '-' := by
  have hread : SessionUrl.read? "ssh://-oProxyCommand=reboot"
      = some ⟨.ssh, none, "-oProxyCommand=reboot", none⟩ := by
    decide +kernel
  refine ⟨?_, hread, by decide⟩
  simp [ofUrls, readUrl, hread, sshArguments, bind, Except.bind, pure, Except.pure]

end Invocation

end Upkeep
