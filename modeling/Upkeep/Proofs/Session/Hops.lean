import Upkeep.Proofs.Action
import Upkeep.Proofs.Session.Destination

/-! # Hops — what the argument for jump hosts says

    The urls before the last one are hops, and all of them go to the ssh client
    in one argument, with commas between them.  A hop is written as user, host
    and port, and can be read back from that: the user ends at the last `@`, and
    the host is between brackets if it holds a colon (`SessionUrl.jump_injective`).

    Nothing protects a comma.  A user may hold one behind an escape, a host may
    hold one as it is, and the client reads it as the end of a hop.  So the
    argument has a part for each hop, and one more for each comma in a user or a
    host (`Invocation.length_jumps`). -/

namespace Upkeep

/-! ## Separated lists -/

section Separated

variable {α : Type} [DecidableEq α]

/-- Splitting gives one part more than there are separators. -/
theorem length_splitOn (a : α) (list : List α) :
    (list.splitOn a).length = list.count a + 1 := by
  induction list with
  | nil => simp
  | cons b rest ih =>
      rw [List.splitOn_cons_eq_if_modifyHead, List.count_cons]
      split
      · rw [List.length_cons, ih]
      · rw [List.length_modifyHead, ih]

/-- Joining puts a separator between any two parts. -/
theorem count_intercalate (a : α) (parts : List (List α)) (h : parts ≠ []) :
    ([a].intercalate parts).count a + 1 = parts.flatten.count a + parts.length := by
  induction parts with
  | nil => exact absurd rfl h
  | cons part rest ih =>
      cases rest with
      | nil => simp
      | cons next more =>
          have hrest := ih (List.cons_ne_nil next more)
          rw [List.intercalate_cons_cons, List.count_append, List.count_append,
            List.count_singleton_self, List.flatten_cons, List.count_append, List.length_cons]
          omega

end Separated

namespace SessionUrl

/-! ## Hosts -/

/-- A byte is written as its own character, as a percent sign, or as digits. -/
theorem escapeByte_cases {b : UInt8} {c : Char} (h : c ∈ escapeByte b) :
    (b.toNat < 0x80 ∧ c = Char.ofNat b.toNat) ∨ c = '%' ∨
      ∃ digit < 16, c = (Nat.digitChar digit).toUpper := by
  rw [escapeByte] at h
  split at h
  · have hhigh : b.toNat / 16 < 16 := Nat.div_lt_of_lt_mul b.toNat_lt
    have hlow : b.toNat % 16 < 16 := Nat.mod_lt _ (by decide)
    rw [Nat.toDigits_of_lt_base hhigh, Nat.toDigits_of_lt_base hlow] at h
    simp only [List.singleton_append, List.map_cons, List.map_nil, List.mem_cons,
      List.not_mem_nil, or_false] at h
    rcases h with rfl | rfl | rfl
    · exact Or.inr (Or.inl rfl)
    · exact Or.inr (Or.inr ⟨_, hhigh, rfl⟩)
    · exact Or.inr (Or.inr ⟨_, hlow, rfl⟩)
  · next hplain =>
    rw [Bool.or_eq_true, decide_eq_true_eq, decide_eq_true_eq, UInt8.lt_iff_toNat_lt,
      UInt8.le_iff_toNat_le, not_or, Nat.not_le] at hplain
    exact Or.inl ⟨Nat.lt_succ_of_lt hplain.2, List.mem_singleton.mp h⟩

/-- No digit is forbidden, nor is what stands for a number that has none. -/
theorem forbidden_digitless {c : Char} (h : isForbidden c = true) (n : Nat) :
    Nat.digitChar n ≠ c := by
  have hdigits : ∀ digit < 16, isForbidden (Nat.digitChar digit) = false := by decide
  rintro rfl
  rcases Nat.lt_or_ge n 16 with hlt | hge
  · rw [hdigits n hlt] at h
    cases h
  · have hstar : Nat.digitChar n = '*' := by
      unfold Nat.digitChar
      repeat rw [if_neg (by omega)]
    rw [hstar] at h
    exact absurd h (by decide)

/-- A character that no name of a host can have is in no host, unless it is a colon. -/
theorem host?_clean {text : List Char} {host : String} (h : host? text = some host) {c : Char}
    (forbidden : isForbidden c = true) (hcolon : c ≠ ':') : c ∉ host.toList := by
  rw [host?.eq_def] at h
  split at h
  · next inner =>
    -- an address
    split at h
    · obtain ⟨address, -, rfl⟩ := Option.map_eq_some_iff.mp h
      refine address.notMem_render (forbidden_digitless forbidden) hcolon ?_
      rintro rfl
      exact absurd forbidden (by decide)
    · cases h
  · cases h
  · -- a name
    split at h
    · cases h
    · next hnone =>
      obtain rfl := Option.some.inj h
      rw [String.toList_ofList, List.mem_flatMap]
      rintro ⟨b, hb, hmem⟩
      rcases escapeByte_cases hmem with ⟨hascii, rfl⟩ | rfl | ⟨digit, hdigit, rfl⟩
      · exact hnone (List.any_eq_true.mpr ⟨_, mem_of_ascii_byte hb hascii, forbidden⟩)
      · exact absurd forbidden (by decide)
      · have hdigits : ∀ digit < 16, isForbidden (Nat.digitChar digit).toUpper = false := by
          decide
        rw [hdigits digit hdigit] at forbidden
        cases forbidden

/-! ## Jumps -/

/-- The host as a hop is written: between brackets if there is a colon in it. -/
def bracketed (url : SessionUrl) : List Char :=
  if ':' ∈ url.host.toList then '[' :: (url.host.toList ++ [']']) else url.host.toList

/-- The port as a hop is written, behind a colon. -/
def portText (url : SessionUrl) : List Char :=
  match url.port with
  | some port => ':' :: (toString port).toList
  | none => []

theorem jump_toList (url : SessionUrl) :
    url.jump.toList = (match url.user with
      | some user => user.toList ++ '@' :: (url.bracketed ++ url.portText)
      | none => url.bracketed ++ url.portText) := by
  have hhost : (if url.host.contains ':' then "[" ++ url.host ++ "]" else url.host).toList
      = url.bracketed := by
    rw [bracketed, String.contains_char_eq]
    by_cases hcolon : ':' ∈ url.host.toList
    · simp [hcolon]
    · simp [hcolon]
  rw [jump, String.toList_append, String.toList_append, hhost, portText]
  cases url.user with
  | none => cases url.port with
    | none => simp
    | some port => simp
  | some user => cases url.port with
    | none => simp
    | some port => simp

theorem jump_name {name : String} (hcolon : ':' ∉ name.toList) :
    jump ⟨.ssh, none, name, none⟩ = name := by
  refine String.toList_inj.mp ?_
  rw [jump_toList, bracketed, if_neg hcolon]
  exact List.append_nil _

/-- The host has none of the characters that set it apart from user and port. -/
structure Clean (url : SessionUrl) : Prop where
  noAt : '@' ∉ url.host.toList
  noOpening : '[' ∉ url.host.toList
  noClosing : ']' ∉ url.host.toList

/-- The port is written with digits. -/
theorem notMem_portText {c : Char} (digitless : ∀ n, Nat.digitChar n ≠ c) (hcolon : c ≠ ':')
    (url : SessionUrl) : c ∉ url.portText := by
  rw [portText]
  split
  · rw [List.mem_cons, not_or]
    exact ⟨hcolon, Address.notMem_toString digitless _⟩
  · exact List.not_mem_nil

theorem splitHost_inside {host : List Char} (h : ']' ∉ host) (rest : List Char) :
    splitHost true (host ++ ']' :: rest)
      = (host ++ ']' :: (splitHost false rest).1, (splitHost false rest).2) := by
  induction host with
  | nil => simp [splitHost]
  | cons c more ih =>
      rw [List.mem_cons, not_or] at h
      obtain ⟨hc, hmore⟩ := h
      rw [List.cons_append, splitHost]
      simp [Ne.symm hc, ih hmore]

theorem splitHost_outside {host : List Char} (hcolon : ':' ∉ host) (hopening : '[' ∉ host)
    (rest : List Char) :
    splitHost false (host ++ rest)
      = (host ++ (splitHost false rest).1, (splitHost false rest).2) := by
  induction host with
  | nil => rfl
  | cons c more ih =>
      rw [List.mem_cons, not_or] at hcolon hopening
      obtain ⟨hc, hmore⟩ := hcolon
      obtain ⟨hc', hmore'⟩ := hopening
      rw [List.cons_append, splitHost]
      simp [Ne.symm hc, Ne.symm hc', ih hmore hmore']

/-- The host of a hop ends where the host of a url ends. -/
theorem splitHost_bracketed {url : SessionUrl} (h : url.Clean) :
    splitHost false (url.bracketed ++ url.portText) = (url.bracketed, url.portText) := by
  have hport : splitHost false url.portText = ([], url.portText) := by
    rw [portText]
    cases url.port with
    | none => rfl
    | some port => rfl
  rw [bracketed]
  split
  · rw [List.cons_append, List.append_assoc, List.singleton_append, splitHost]
    simp [splitHost_inside h.noClosing, hport]
  · next hcolon =>
    rw [splitHost_outside hcolon h.noOpening, hport, List.append_nil]

/-- Brackets tell which hosts hold a colon. -/
theorem bracketed_injective {url other : SessionUrl} (h : url.Clean) (hother : other.Clean)
    (hsame : url.bracketed = other.bracketed) : url.host = other.host := by
  have hopens {host : List Char} {rest : List Char} (hhost : '[' ∉ host)
      (heq : host = '[' :: rest) : False := by
    rw [heq] at hhost
    exact hhost List.mem_cons_self
  -- an opening bracket is in front of one of them or in none
  rw [bracketed, bracketed] at hsame
  split at hsame
  · split at hsame
    · obtain ⟨-, hhosts⟩ := List.cons.inj hsame
      exact String.toList_inj.mp (List.append_cancel_right hhosts)
    · exact (hopens hother.noOpening hsame.symm).elim
  · split at hsame
    · exact (hopens h.noOpening hsame).elim
    · exact String.toList_inj.mp hsame

theorem portText_injective {url other : SessionUrl} (hsame : url.portText = other.portText) :
    url.port = other.port := by
  rw [portText, portText] at hsame
  cases hport : url.port with
  | none => cases hport' : other.port with
    | none => rfl
    | some port => rw [hport, hport'] at hsame; exact nomatch hsame
  | some port => cases hport' : other.port with
    | none => rw [hport, hport'] at hsame; exact nomatch hsame
    | some port' =>
        rw [hport, hport'] at hsame
        -- the number is read back from its digits
        have hdigits := String.toList_inj.mp (List.cons.inj hsame).2
        have hvalue := congrArg (fun text => Nat.ofDigitChars 10 text.toList 0) hdigits
        exact congrArg some (by simpa [Nat.toString_eq_ofList_toDigits] using hvalue)

/-- **HOP**: a hop can be told from what is written of it, whatever its user is. -/
theorem jump_injective {url other : SessionUrl} (h : url.Clean) (hother : other.Clean)
    (hsame : url.jump = other.jump) :
    url.user = other.user ∧ url.host = other.host ∧ url.port = other.port := by
  have hat {url : SessionUrl} (h : url.Clean) : '@' ∉ url.bracketed ++ url.portText := by
    have hdigitless (n : Nat) : Nat.digitChar n ≠ '@' := Nat.digitChar_ne '@' (by decide)
    rw [List.mem_append, not_or]
    refine ⟨?_, notMem_portText hdigitless (by decide) url⟩
    rw [bracketed]
    split
    · simp [h.noAt]
    · exact h.noAt
  -- the user ends at the last @, so it may hold another one
  have hsplit : url.user = other.user ∧
      url.bracketed ++ url.portText = other.bracketed ++ other.portText := by
    have htext := congrArg String.toList hsame
    rw [jump_toList, jump_toList] at htext
    cases huser : url.user with
    | none => cases huser' : other.user with
      | none => rw [huser, huser'] at htext; exact ⟨rfl, htext⟩
      | some user =>
          rw [huser, huser'] at htext
          dsimp only at htext
          refine absurd (hat h) ?_
          rw [htext]
          simp
    | some user => cases huser' : other.user with
      | none =>
          rw [huser, huser'] at htext
          dsimp only at htext
          refine absurd (hat hother) ?_
          rw [← htext]
          simp
      | some user' =>
          rw [huser, huser'] at htext
          have hcut := congrArg splitUser htext
          rw [splitUser_behind _ (hat h), splitUser_behind _ (hat hother)] at hcut
          obtain ⟨hname, hplace⟩ := Prod.mk.inj hcut
          exact ⟨congrArg some (String.toList_inj.mp hname), hplace⟩
  have hcut := congrArg (splitHost false) hsplit.2
  rw [splitHost_bracketed h, splitHost_bracketed hother] at hcut
  obtain ⟨hhost, hport⟩ := Prod.mk.inj hcut
  exact ⟨hsplit.1, bracketed_injective h hother hhost, portText_injective hport⟩

/-- What a text says as a url has a host that is set apart. -/
theorem read?_clean {text : String} {url : SessionUrl} (h : read? text = some url) :
    url.Clean := by
  obtain ⟨place, -, hhost⟩ := read?_named h
  exact ⟨host?_clean hhost (by decide) (by decide), host?_clean hhost (by decide) (by decide),
    host?_clean hhost (by decide) (by decide)⟩

/-- Hops can be told from what is written of each. -/
theorem jumps_injective {hops others : List SessionUrl}
    (h : ∀ hop ∈ hops, hop.Clean ∧ hop.protocol = .ssh)
    (hothers : ∀ hop ∈ others, hop.Clean ∧ hop.protocol = .ssh)
    (hsame : hops.map (·.jump.toList) = others.map (·.jump.toList)) : hops = others := by
  induction hops generalizing others with
  | nil => exact (List.map_eq_nil_iff.mp hsame.symm).symm
  | cons hop rest ih =>
      cases others with
      | nil => exact nomatch hsame
      | cons other more =>
          obtain ⟨hfirst, hrest⟩ := List.cons.inj hsame
          obtain ⟨⟨hclean, hssh⟩, hall⟩ := List.forall_mem_cons.mp h
          obtain ⟨⟨hclean', hssh'⟩, hall'⟩ := List.forall_mem_cons.mp hothers
          obtain ⟨huser, hhost, hport⟩ :=
            jump_injective hclean hclean' (String.toList_inj.mp hfirst)
          rw [ih hall hall' hrest, List.cons.injEq]
          refine ⟨?_, rfl⟩
          rw [SessionUrl.mk.injEq]
          exact ⟨hssh.trans hssh'.symm, huser, hhost, hport⟩

/-- There is no comma in what is written of the hop. -/
def Undivided (url : SessionUrl) : Prop :=
  ',' ∉ url.host.toList ∧ ∀ user, url.user = some user → ',' ∉ user.toList

/-- A comma in a hop is one in its user or in its host. -/
theorem comma_notMem_jump (url : SessionUrl) : ',' ∉ url.jump.toList ↔ url.Undivided := by
  have hport : ',' ∉ url.portText :=
    notMem_portText (fun _ => Nat.digitChar_ne ',' (by decide)) (by decide) url
  have hhost : ',' ∈ url.bracketed ↔ ',' ∈ url.host.toList := by
    rw [bracketed]
    split
    · simp
    · exact Iff.rfl
  rw [jump_toList, Undivided]
  cases url.user with
  | none => simp [hport, hhost]
  | some user => simp [hport, hhost, and_comm]

end SessionUrl

namespace Invocation

/-! ## Urls that are accepted -/

/-- The client for a device behind some hops. -/
def toward (hops : List SessionUrl) (url : SessionUrl) : Invocation :=
  match url.protocol with
  | .ssh => ⟨"ssh", sshArguments (hops.map SessionUrl.jump) url⟩
  | .telnet => ⟨"telnet", telnetArguments url⟩

theorem readUrl_eq_ok_iff {text : String} {url : SessionUrl} :
    readUrl text = .ok url ↔ SessionUrl.read? text = some url := by
  rw [readUrl]
  cases SessionUrl.read? text with
  | none => simp
  | some found => simp

/-- A hop is for ssh, and so is the device behind it. -/
theorem hop_eq_ok_iff {protocol : Protocol} {text line : String} :
    hop protocol text = .ok line ↔ ∃ url, SessionUrl.read? text = some url ∧
      (url.protocol = .ssh ∧ protocol = .ssh) ∧ line = url.jump := by
  rw [hop, Action.bind_eq_ok_iff]
  constructor
  · rintro ⟨url, hread, h⟩
    split at h
    · next hssh => exact ⟨url, readUrl_eq_ok_iff.mp hread, hssh, (Except.ok.inj h).symm⟩
    · cases h
  · rintro ⟨url, hread, hssh, rfl⟩
    exact ⟨url, readUrl_eq_ok_iff.mpr hread, if_pos hssh⟩

/-- So are all of several hops. -/
theorem hops_eq_ok_iff {protocol : Protocol} {texts lines : List String} :
    texts.mapM (hop protocol) = .ok lines ↔ ∃ hops : List SessionUrl,
      texts.map SessionUrl.read? = hops.map some ∧
      (∀ hop ∈ hops, hop.protocol = .ssh ∧ protocol = .ssh) ∧
      lines = hops.map SessionUrl.jump := by
  induction texts generalizing lines with
  | nil =>
      constructor
      · intro h
        obtain rfl := Except.ok.inj h
        exact ⟨[], rfl, List.forall_mem_nil _, rfl⟩
      · rintro ⟨hops, hread, -, rfl⟩
        obtain rfl := List.map_eq_nil_iff.mp hread.symm
        rfl
  | cons text rest ih =>
      rw [List.mapM_cons, Action.bind_eq_ok_iff]
      constructor
      · rintro ⟨line, hfirst, h⟩
        obtain ⟨more, hmore, h⟩ := Action.bind_eq_ok_iff.mp h
        obtain rfl := Except.ok.inj h
        obtain ⟨url, hread, hssh, rfl⟩ := hop_eq_ok_iff.mp hfirst
        obtain ⟨hops, hreads, hall, rfl⟩ := ih.mp hmore
        refine ⟨url :: hops, ?_, List.forall_mem_cons.mpr ⟨hssh, hall⟩, rfl⟩
        rw [List.map_cons, List.map_cons, hread, hreads]
      · rintro ⟨hops, hread, hssh, rfl⟩
        cases hops with
        | nil => cases hread
        | cons url hops =>
            obtain ⟨hfirst, hmore⟩ := List.cons.inj hread
            obtain ⟨hhop, hall⟩ := List.forall_mem_cons.mp hssh
            have hrest := ih.mpr ⟨hops, hmore, hall, rfl⟩
            exact ⟨_, hop_eq_ok_iff.mpr ⟨url, hfirst, hhop, rfl⟩,
              Action.bind_eq_ok_iff.mpr ⟨_, hrest, rfl⟩⟩

/-- **ACCEPTED**: urls are accepted exactly if all of them can be read, and if there are hops, all
are for ssh. -/
theorem ofUrls_eq_ok_iff {urls : List String} {invocation : Invocation} :
    ofUrls urls = .ok invocation ↔ ∃ (hops : List SessionUrl) (url : SessionUrl),
      urls.map SessionUrl.read? = (hops ++ [url]).map some ∧
      (∀ hop ∈ hops, hop.protocol = .ssh ∧ url.protocol = .ssh) ∧
      invocation = toward hops url := by
  rcases List.eq_nil_or_concat urls with rfl | ⟨front, last, rfl⟩
  · constructor
    · intro h
      cases h
    · rintro ⟨hops, url, hread, -, -⟩
      exact absurd hread.symm (by simp)
  · rw [List.concat_eq_append]
    have hsplit (hops : List SessionUrl) (url : SessionUrl) :
        (front ++ [last]).map SessionUrl.read? = (hops ++ [url]).map some ↔
          front.map SessionUrl.read? = hops.map some ∧ SessionUrl.read? last = some url := by
      simp
    rw [ofUrls, List.getLast?_concat, List.dropLast_concat]
    constructor
    · intro h
      obtain ⟨url, hlast, h⟩ := Action.bind_eq_ok_iff.mp h
      obtain ⟨lines, hjumps, h⟩ := Action.bind_eq_ok_iff.mp h
      obtain ⟨hops, hreads, hssh, rfl⟩ := hops_eq_ok_iff.mp hjumps
      have hread := (hsplit hops url).mpr ⟨hreads, readUrl_eq_ok_iff.mp hlast⟩
      refine ⟨hops, url, hread, hssh, ?_⟩
      rw [toward]
      cases hprotocol : url.protocol with
      | ssh => rw [hprotocol] at h; exact (Except.ok.inj h).symm
      | telnet => rw [hprotocol] at h; exact (Except.ok.inj h).symm
    · rintro ⟨hops, url, hread, hssh, rfl⟩
      obtain ⟨hreads, hlast⟩ := (hsplit hops url).mp hread
      have hjumps := hops_eq_ok_iff.mpr ⟨hops, hreads, hssh, rfl⟩
      refine Action.bind_eq_ok_iff.mpr ⟨url, readUrl_eq_ok_iff.mpr hlast, ?_⟩
      refine Action.bind_eq_ok_iff.mpr ⟨_, hjumps, ?_⟩
      rw [toward]
      cases url.protocol with
      | ssh => rfl
      | telnet => rfl

/-! ## The argument for jump hosts -/

/-- The argument for jump hosts: the one behind the first `-J`. -/
def jumpArgument? (invocation : Invocation) : Option String :=
  (invocation.arguments.dropWhile (· ≠ "-J"))[1]?

/-- What the urls before the last one say. -/
def chain (urls : List String) : List SessionUrl := urls.dropLast.filterMap SessionUrl.read?

theorem clean_of_mem_chain {urls : List String} {hop : SessionUrl} (h : hop ∈ chain urls) :
    hop.Clean := by
  obtain ⟨text, -, hread⟩ := List.mem_filterMap.mp h
  exact SessionUrl.read?_clean hread

/-- All of the hops can be read, and they are what the argument for jump hosts is made of. -/
theorem ofUrls_chain {urls : List String} {invocation : Invocation}
    (h : ofUrls urls = .ok invocation) (several : 1 < urls.length) :
    urls.dropLast.map SessionUrl.read? = (chain urls).map some ∧ chain urls ≠ [] ∧
      (∀ hop ∈ chain urls, hop.protocol = .ssh) ∧
      invocation.jumpArgument? = some (",".intercalate ((chain urls).map SessionUrl.jump)) := by
  obtain ⟨hops, url, hread, hssh, rfl⟩ := ofUrls_eq_ok_iff.mp h
  have hfront : urls.dropLast.map SessionUrl.read? = hops.map some := by
    rw [List.map_dropLast, hread, List.map_append, List.map_singleton, List.dropLast_concat]
  have hchain : chain urls = hops := by
    have hsame := congrArg (List.filterMap id) hfront
    rw [List.filterMap_map, List.filterMap_map] at hsame
    exact hsame.trans List.filterMap_some
  -- the last of several urls is not the first
  have hne : hops ≠ [] := by
    rintro rfl
    have hlength := congrArg List.length hread
    rw [List.length_map, List.nil_append, List.map_singleton, List.length_singleton] at hlength
    omega
  -- a hop is there, so the device is reached by ssh
  obtain ⟨first, rest, rfl⟩ := List.exists_cons_of_ne_nil hne
  have hprotocol := (hssh first List.mem_cons_self).2
  rw [hchain]
  refine ⟨hfront, hne, fun hop hmem => (hssh hop hmem).1, ?_⟩
  rw [toward, hprotocol, jumpArgument?, sshArguments]
  rfl

/-- The argument has a part for each hop, and one more for each comma in a hop. -/
theorem length_jumps {hops : List SessionUrl} (hne : hops ≠ []) :
    ((",".intercalate (hops.map SessionUrl.jump)).toList.splitOn ',').length
      = hops.length + (hops.flatMap (·.jump.toList)).count ',' := by
  have hcount := count_intercalate ',' (hops.map (·.jump.toList)) (by simpa using hne)
  rw [List.length_map] at hcount
  rw [length_splitOn, String.toList_intercalate, List.map_map, List.flatMap_def]
  exact hcount.trans (Nat.add_comm _ _)

/-- **HOPS**: for urls that are accepted, the argument for jump hosts has as many parts as there are
hops exactly if no user and no host of a hop holds a comma.  Then each part is a hop, in their
order, and no other hops give the same argument. -/
theorem jumpArgument_tells_hops {urls : List String} {invocation : Invocation}
    (h : ofUrls urls = .ok invocation) (several : 1 < urls.length) :
    ∃ argument, invocation.jumpArgument? = some argument ∧
      urls.dropLast.map SessionUrl.read? = (chain urls).map some ∧
      ((argument.toList.splitOn ',').length + 1 = urls.length ↔
        ∀ hop ∈ chain urls, hop.Undivided) ∧
      ((∀ hop ∈ chain urls, hop.Undivided) →
        argument.toList.splitOn ',' = (chain urls).map (·.jump.toList) ∧
        ∀ others other, ofUrls others = .ok other → 1 < others.length →
          (∀ hop ∈ chain others, hop.Undivided) → other.jumpArgument? = some argument →
          chain others = chain urls) := by
  -- the parts of an argument whose hops are undivided
  have hparts {hops : List SessionUrl} (hne : hops ≠ []) (hwhole : ∀ hop ∈ hops, hop.Undivided) :
      (",".intercalate (hops.map SessionUrl.jump)).toList.splitOn ','
        = hops.map (·.jump.toList) := by
    rw [String.toList_intercalate, List.map_map]
    refine List.splitOn_intercalate ',' ?_ (by simpa using hne)
    intro part hpart
    obtain ⟨hop, hmem, rfl⟩ := List.mem_map.mp hpart
    exact hop.comma_notMem_jump.mpr (hwhole hop hmem)
  obtain ⟨hreads, hne, hssh, hargument⟩ := ofUrls_chain h several
  refine ⟨_, hargument, hreads, ?_, ?_⟩
  · have hlength : (chain urls).length + 1 = urls.length := by
      have hlength := congrArg List.length hreads
      rw [List.length_map, List.length_map, List.length_dropLast] at hlength
      omega
    rw [length_jumps hne, ← hlength, Nat.add_right_cancel_iff, Nat.add_eq_left,
      List.count_eq_zero, List.mem_flatMap]
    simp only [← SessionUrl.comma_notMem_jump, not_exists, not_and]
  · intro hwhole
    refine ⟨hparts hne hwhole, ?_⟩
    intro others other hother several' hwhole' hsame
    obtain ⟨hreads', hne', hssh', hargument'⟩ := ofUrls_chain hother several'
    have htexts : (chain others).map (·.jump.toList) = (chain urls).map (·.jump.toList) := by
      rw [← hparts hne' hwhole', ← hparts hne hwhole,
        Option.some.inj (hargument'.symm.trans hsame)]
    refine SessionUrl.jumps_injective ?_ ?_ htexts
    · exact fun hop hmem => ⟨clean_of_mem_chain hmem, hssh' hop hmem⟩
    · exact fun hop hmem => ⟨clean_of_mem_chain hmem, hssh hop hmem⟩

/-- Two hops, one with a user, an address and a port. -/
theorem addressed_hops :
    ∃ invocation,
      ofUrls ["ssh://ops@[2001:db8::2]:2200", "ssh://relay", "ssh://admin@r1"] = .ok invocation ∧
      invocation.jumpArgument? = some "ops@[2001:db8::2]:2200,relay" ∧
      "ops@[2001:db8::2]:2200,relay".toList.splitOn ','
        = ["ops@[2001:db8::2]:2200".toList, "relay".toList] := by
  have hfirst : SessionUrl.read? "ssh://ops@[2001:db8::2]:2200"
      = some ⟨.ssh, some "ops", "2001:db8::2", some 2200⟩ := by
    decide +kernel
  have hsecond : SessionUrl.read? "ssh://relay" = some ⟨.ssh, none, "relay", none⟩ := by
    decide +kernel
  have hdevice : SessionUrl.read? "ssh://admin@r1" = some ⟨.ssh, some "admin", "r1", none⟩ := by
    decide +kernel
  have hurls : ofUrls ["ssh://ops@[2001:db8::2]:2200", "ssh://relay", "ssh://admin@r1"]
      = .ok (toward [⟨.ssh, some "ops", "2001:db8::2", some 2200⟩, ⟨.ssh, none, "relay", none⟩]
          ⟨.ssh, some "admin", "r1", none⟩) := by
    refine ofUrls_eq_ok_iff.mpr ⟨_, _, ?_, ?_, rfl⟩
    · simp [hfirst, hsecond, hdevice]
    · simp
  have hchain : chain ["ssh://ops@[2001:db8::2]:2200", "ssh://relay", "ssh://admin@r1"]
      = [⟨.ssh, some "ops", "2001:db8::2", some 2200⟩, ⟨.ssh, none, "relay", none⟩] := by
    simp [chain, hfirst, hsecond]
  have hops : SessionUrl.jump ⟨.ssh, some "ops", "2001:db8::2", some 2200⟩
      = "ops@[2001:db8::2]:2200" :=
    String.toList_inj.mp ((SessionUrl.jump_toList _).trans (by decide +kernel))
  have hrelay : SessionUrl.jump ⟨.ssh, none, "relay", none⟩ = "relay" :=
    SessionUrl.jump_name (by decide)
  obtain ⟨argument, hargument, -, -, hparts⟩ := jumpArgument_tells_hops hurls (by decide)
  have hsame : argument = "ops@[2001:db8::2]:2200,relay" := by
    rw [(ofUrls_chain hurls (by decide)).2.2.2, hchain] at hargument
    simp only [List.map_cons, List.map_nil, hops, hrelay] at hargument
    exact (Option.some.inj hargument).symm.trans (by decide +kernel)
  rw [hsame] at hargument hparts
  refine ⟨_, hurls, hargument, ?_⟩
  rw [(hparts ?_).1, hchain]
  · simp only [List.map_cons, List.map_nil, hops, hrelay]
  · rw [hchain]
    simp [SessionUrl.Undivided]

/-- A host with a comma in it: one hop gives the argument that two others give. -/
theorem comma_parts_hop :
    ∃ invocation,
      ofUrls ["ssh://jump,relay", "ssh://r1"] = .ok invocation ∧
      ofUrls ["ssh://jump", "ssh://relay", "ssh://r1"] = .ok invocation ∧
      invocation.jumpArgument? = some "jump,relay" ∧
      ("jump,relay".toList.splitOn ',').length = 2 ∧
      chain ["ssh://jump,relay", "ssh://r1"] = [⟨.ssh, none, "jump,relay", none⟩] ∧
      chain ["ssh://jump", "ssh://relay", "ssh://r1"]
        = [⟨.ssh, none, "jump", none⟩, ⟨.ssh, none, "relay", none⟩] := by
  have hone : SessionUrl.read? "ssh://jump,relay" = some ⟨.ssh, none, "jump,relay", none⟩ := by
    decide +kernel
  have hfirst : SessionUrl.read? "ssh://jump" = some ⟨.ssh, none, "jump", none⟩ := by
    decide +kernel
  have hsecond : SessionUrl.read? "ssh://relay" = some ⟨.ssh, none, "relay", none⟩ := by
    decide +kernel
  have hdevice : SessionUrl.read? "ssh://r1" = some ⟨.ssh, none, "r1", none⟩ := by
    decide +kernel
  have hplain : ':' ∉ "jump,relay".toList := by decide
  have hplain' : ':' ∉ "jump".toList := by decide
  have hplain'' : ':' ∉ "relay".toList := by decide
  have hjoined : ",".intercalate ["jump,relay"] = ",".intercalate ["jump", "relay"] := by
    decide +kernel
  refine ⟨toward [⟨.ssh, none, "jump,relay", none⟩] ⟨.ssh, none, "r1", none⟩, ?_, ?_,
    ?_, by decide, ?_, ?_⟩
  · refine ofUrls_eq_ok_iff.mpr ⟨_, _, ?_, ?_, rfl⟩
    · simp [hone, hdevice]
    · simp
  · refine ofUrls_eq_ok_iff.mpr ⟨[⟨.ssh, none, "jump", none⟩, ⟨.ssh, none, "relay", none⟩],
      ⟨.ssh, none, "r1", none⟩, ?_, ?_, ?_⟩
    · simp [hfirst, hsecond, hdevice]
    · simp
    · rw [toward, toward, sshArguments, sshArguments]
      simp only [List.map_cons, List.map_nil, SessionUrl.jump_name hplain,
        SessionUrl.jump_name hplain', SessionUrl.jump_name hplain'', hjoined]
      rfl
  · simp only [toward, jumpArgument?, sshArguments, List.map_cons, List.map_nil,
      SessionUrl.jump_name hplain]
    decide +kernel
  · simp [chain, hone]
  · simp [chain, hfirst, hsecond]

end Invocation

end Upkeep
